/-
The options of the program. A command line has options in front of the command
and behind it; both places know the same ones, and those behind the command
replace those in front of it.
-/

import Foldback.Settings.Basic

namespace Foldback.CommandLine

/-- Options without a value. -/
inductive Switch where
  /-- Show details. -/
  | verbose
  /-- Write nothing. -/
  | dryRun
  /-- Work on one file at a time, not on a pool. -/
  | sequential
  deriving DecidableEq, Repr

/-- Options with a value. -/
inductive Setting where
  /-- Active categories, separated by commas. -/
  | categories
  /-- The settings file. -/
  | config
  /-- The directory of the sources. -/
  | root
  /-- The directory of the rendered files. -/
  | target
  deriving DecidableEq, Repr

/-- The commands that work on files. -/
inductive FileVerb where
  | build
  | back
  | diff
  | backdiff
  deriving DecidableEq, Repr

/-- The commands. -/
inductive Verb where
  /-- Work on files. -/
  | files (verb : FileVerb)
  /-- Read a rule and test it. -/
  | rule
  /-- Print the version. -/
  | version
  deriving DecidableEq, Repr

/-- The word for a command on files. -/
def FileVerb.word : FileVerb → String
  | .build => "build"
  | .back => "back"
  | .diff => "diff"
  | .backdiff => "backdiff"

/-- The word for a command. -/
def Verb.word : Verb → String
  | .files verb => verb.word
  | .rule => "rule"
  | .version => "version"

/-- All commands. -/
def Verb.every : List Verb :=
  [.files .build, .files .back, .files .diff, .files .backdiff, .rule, .version]

/-- The command with a word. -/
def Verb.ofWord? (word : String) : Option Verb :=
  Verb.every.find? (·.word == word)

/-- A command with its operands. -/
inductive Request where
  | files (verb : FileVerb) (names : List String)
  | rule (expression : String)
  | version
  deriving DecidableEq, Repr

/-- The word for the command of a request. -/
def Request.word : Request → String
  | .files verb _ => verb.word
  | .rule _ => Verb.rule.word
  | .version => Verb.version.word

/-- The options given at one place. -/
structure Choices where
  verbose : Bool
  dryRun : Bool
  sequential : Bool
  categories : Option (List String)
  config : Option String
  root : Option String
  target : Option String
  deriving DecidableEq, Repr

namespace Choices

/-- No option is given. -/
def none : Choices := ⟨false, false, false, .none, .none, .none, .none⟩

/-- Whether a switch is given. -/
def has (choices : Choices) : Switch → Bool
  | .verbose => choices.verbose
  | .dryRun => choices.dryRun
  | .sequential => choices.sequential

/-- The choices with a switch given. -/
def turnOn (choices : Choices) : Switch → Choices
  | .verbose => { choices with verbose := true }
  | .dryRun => { choices with dryRun := true }
  | .sequential => { choices with sequential := true }

/-- The choices in front of a command under those behind it. -/
def override (outer inner : Choices) : Choices where
  verbose := outer.verbose || inner.verbose
  dryRun := outer.dryRun || inner.dryRun
  sequential := outer.sequential || inner.sequential
  categories := inner.categories <|> outer.categories
  config := inner.config <|> outer.config
  root := inner.root <|> outer.root
  target := inner.target <|> outer.target

/-- What the choices say about the settings. -/
def settings (choices : Choices) : Settings :=
  ⟨choices.categories.getD [], choices.root, choices.target⟩

end Choices

/-- What a command line asks for. -/
structure Options where
  request : Request
  choices : Choices
  deriving DecidableEq, Repr

end Foldback.CommandLine
