/-
Rendering passes. A pass walks over the source lines with the blocks that are
open before each, and tells of every line whether it is visible and with which
text. Directive lines are hidden, except escaped ones, which are visible even
where the blocks around them are not published. Other lines are visible where
every open block is published, with their placeholders filled.

A pass ends with the first error; the lines before it stand.
-/

import Foldback.Template.Directive
import Foldback.Template.Placeholder
import Foldback.Template.Builtin

namespace Foldback

/-- A source line and what it renders to. -/
structure Line where
  /-- The visible text; none if the line is hidden. -/
  output : Option String
  /-- The line as it stands in the source. -/
  source : String
  deriving DecidableEq, Repr

/-- The path of the file that a line reads, if it reads one. -/
def Directive.fileRead? (text : String) : Option String :=
  match parse text with
  | some (.command name arguments) =>
    if name = "withfile" then (Call.binding? arguments).map Prod.snd else none
  | _ => none

/-- What a pass depends on besides its source. -/
structure Setup where
  /-- The active categories. -/
  categories : Categories
  /-- The commands, built-in ones or others. None of them can change the number of a line. -/
  commands : CommandTable
  /-- The first line of the file at a path. -/
  firstLine : String → Except FileError String

/-- How a pass went: the lines up to its end, and the blocks that are open there
or the error that ended it. -/
structure Pass where
  lines : List Line
  ending : Except RenderError BlockStack

namespace Pass

/-- The visible texts in order. -/
def visible (pass : Pass) : List String :=
  pass.lines.filterMap (·.output)

/-- The lines and then the error, if there is one. -/
def stream (pass : Pass) : List (Except RenderError Line) :=
  pass.lines.map Except.ok ++
    match pass.ending with
    | .error error => [.error error]
    | .ok _ => []

/-- The visible texts of a pass without error. -/
def rendered (pass : Pass) : Except RenderError (List String) :=
  match pass.ending with
  | .error error => .error error
  | .ok _ => .ok pass.visible

end Pass

namespace Setup

/-- The setup with the built-in commands. -/
def builtin (categories : Categories) (firstLine : String → Except FileError String) : Setup :=
  ⟨categories, .builtin, firstLine⟩

/-- What the commands of a pass may look at. -/
def surroundings (setup : Setup) : Surroundings :=
  ⟨setup.categories, setup.commands.names, setup.firstLine⟩

/-- Runs a command by name. -/
def dispatch (setup : Setup) (call : Call) : CommandResult :=
  match setup.commands.find? call.name with
  | none => call.unknown setup.commands.names
  | some command => do
    Traced.mark .dispatched
    command.run setup.surroundings call

/-- Renders one line: its visible text and the blocks that are open after it. -/
def step (setup : Setup) (line : Nat) (stack : BlockStack) (text : String) :
    Traced PassNote RenderError (Option String × BlockStack) :=
  match Directive.parse text with
  | some .comment => pure (none, stack)
  | some (.escaped literal) => pure (some literal, stack)
  | some (.command name arguments) => do
    let next ← setup.dispatch ⟨name, arguments, line, stack⟩
    pure (none, next)
  | none =>
    if stack.published then pure (some (Placeholder.substitute stack.lookup text), stack)
    else pure (none, stack)

/-- The pass over the lines from a given number on, with given blocks open. -/
def passFrom (setup : Setup) (line : Nat) (stack : BlockStack) : List String → Pass
  | [] => ⟨[], .ok stack⟩
  | text :: rest =>
    match (setup.step line stack text).outcome with
    | .error error => ⟨[], .error error⟩
    | .ok (output, next) =>
      let later := setup.passFrom (line + 1) next rest
      ⟨⟨output, text⟩ :: later.lines, later.ending⟩

/-- What the pass over some lines notes. -/
def notesFrom (setup : Setup) (line : Nat) (stack : BlockStack) : List String → List PassNote
  | [] => if stack.isEmpty then [] else [.stillOpen]
  | text :: rest =>
    let traced := setup.step line stack text
    match traced.outcome with
    | .error _ => traced.notes
    | .ok (_, next) => traced.notes ++ setup.notesFrom (line + 1) next rest

/-- The pass over a whole source. -/
def pass (setup : Setup) (source : List String) : Pass :=
  setup.passFrom 1 [] source

/-- What the pass over a whole source notes. -/
def notes (setup : Setup) (source : List String) : List PassNote :=
  setup.notesFrom 1 [] source

/-- The visible texts of a source, or its first error. -/
def render (setup : Setup) (source : List String) : Except RenderError (List String) :=
  (setup.pass source).rendered

end Setup

end Foldback
