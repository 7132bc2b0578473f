/-
Reading a command line. Each of the two places for options, in front of the
command and behind it, is read argument by argument. An option that takes a
value, and a series of operands, stay pending until something else follows;
only then are they checked and taken in. So of two faults the one that is
settled first is reported.

What stands behind the command is read completely before the options in front
of it are settled.

Command lines are read by a package outside of the program, whose rules are followed
here. No theorem of the library rests on them: those on the work on files begin with
the names of the files.
-/

import Foldback.CommandLine.Options
import Foldback.Text.Cut

namespace Foldback.CommandLine

/-- Why a command line asks for nothing that can be done. -/
inductive Misuse where
  /-- An operand is missing. -/
  | missingRequiredArgument
  /-- The command is missing. -/
  | missingSubcommand
  /-- Nothing is given at all. -/
  | nothingGiven
  /-- An option or an operand is not known. -/
  | unknownArgument
  /-- There is no such command. -/
  | invalidSubcommand
  /-- A value is missing or cannot be used. -/
  | invalidValue
  /-- An option is given twice. -/
  | argumentConflict
  /-- A switch is given a value. -/
  | tooManyValues
  deriving DecidableEq, Repr

/-- Why the reading of a command line stops. -/
inductive Halt where
  | misuse (misuse : Misuse)
  /-- Help is asked for. -/
  | help
  /-- The version is asked for. -/
  | version
  deriving DecidableEq, Repr

/-- What an option does. -/
inductive OptionKind where
  | switch (switch : Switch)
  | setting (setting : Setting)
  | help
  | version
  deriving DecidableEq, Repr

/-- The option with a long name. -/
def OptionKind.ofLong? : String → Option OptionKind
  | "verbose" => some (.switch .verbose)
  | "dry-run" => some (.switch .dryRun)
  | "no-parallel" => some (.switch .sequential)
  | "categories" => some (.setting .categories)
  | "config" => some (.setting .config)
  | "root" => some (.setting .root)
  | "target" => some (.setting .target)
  | "help" => some .help
  | "version" => some .version
  | _ => none

/-- The option with a short name. -/
def OptionKind.ofShort? : Char → Option OptionKind
  | 'v' => some (.switch .verbose)
  | 'd' => some (.switch .dryRun)
  | 'c' => some (.setting .categories)
  | 'h' => some .help
  | 'V' => some .version
  | _ => none

/-! ### Places -/

/-- What waits to be checked. -/
inductive Pending where
  /-- An option, with its value once that has come. -/
  | value (setting : Setting) (text : Option String)
  /-- Operands in order. -/
  | operands (texts : List String)
  deriving DecidableEq, Repr

/-- The state of the reading at one place: in front of the command, where there
is no command yet, or behind one. -/
structure Place where
  /-- The command that the place is behind. -/
  verb : Option Verb
  /-- The options that are settled. -/
  choices : Choices
  /-- The operands that are settled. -/
  operands : List String
  pending : Option Pending
  /-- Whether all that follows is an operand. -/
  operandsOnly : Bool
  deriving DecidableEq, Repr

namespace Place

/-- Before the first argument. -/
def start (verb : Option Verb) : Place := ⟨verb, .none, [], none, false⟩

/-- The choices with a value for an option. Categories add up; the other options
are given at most once and name a path, which is not empty. -/
def give (choices : Choices) (setting : Setting) (text : String) : Except Halt Choices :=
  let once (before : Option String) (changed : Choices) : Except Halt Choices :=
    if before.isSome then .error (.misuse .argumentConflict)
    else if text.isEmpty then .error (.misuse .invalidValue)
    else .ok changed
  match setting with
  | .categories =>
    let names := (text.toList.splitOn ',').map String.ofList
    .ok { choices with categories := some (choices.categories.getD [] ++ names) }
  | .config => once choices.config { choices with config := some text }
  | .root => once choices.root { choices with root := some text }
  | .target => once choices.target { choices with target := some text }

/-- Whether an operand can be used: a file needs a name. -/
def accepts (place : Place) (operand : String) : Bool :=
  match place.verb with
  | some (.files _) => !operand.isEmpty
  | _ => true

/-- Checks what is pending and takes it in. -/
def settle (place : Place) : Except Halt Place :=
  match place.pending with
  | none => .ok place
  | some (.value _ none) => .error (.misuse .invalidValue)
  | some (.value setting (some text)) => do
    let choices ← give place.choices setting text
    pure { place with choices := choices, pending := none }
  | some (.operands texts) =>
    if texts.all place.accepts then
      .ok { place with operands := place.operands ++ texts, pending := none }
    else .error (.misuse .invalidValue)

/-- Whether an option still waits for its value. -/
def awaitsValue (place : Place) : Bool :=
  match place.pending with
  | some (.value _ none) => true
  | _ => false

/-- Takes an option without a value. -/
def takeSwitch (place : Place) (switch : Switch) : Except Halt Place := do
  let settled ← place.settle
  if settled.choices.has switch then .error (.misuse .argumentConflict)
  else pure { settled with choices := settled.choices.turnOn switch }

/-- Takes an option with a value that stands in the same argument. -/
def takeSetting (place : Place) (setting : Setting) (text : String) : Except Halt Place := do
  let settled ← place.settle
  let choices ← give settled.choices setting text
  pure { settled with choices := choices }

/-- Takes an option whose value is still to come. -/
def awaitSetting (place : Place) (setting : Setting) : Except Halt Place := do
  let settled ← place.settle
  pure { settled with pending := some (.value setting none) }

/-- Stops for an option that asks for information. -/
def inform {result : Type} (place : Place) (halt : Halt) : Except Halt result := do
  let _ ← place.settle
  .error halt

/-- Whether the place knows an option; only the place in front of the command
knows the one for the version. -/
def knows (place : Place) (kind : OptionKind) : Bool :=
  kind != .version || place.verb.isNone

/-- Takes an argument that starts with two hyphens; the rest of it is given, cut
at its first equals sign. -/
def takeLong (place : Place) (name : String) (attached : Option String) : Except Halt Place :=
  match (OptionKind.ofLong? name).filter place.knows with
  | none => .error (.misuse .unknownArgument)
  | some (.setting setting) =>
    match attached with
    | some text => place.takeSetting setting text
    | none => place.awaitSetting setting
  | some (.switch switch) =>
    if attached.isSome then .error (.misuse .tooManyValues) else place.takeSwitch switch
  | some .help => if attached.isSome then .error (.misuse .tooManyValues) else place.inform .help
  | some .version =>
    if attached.isSome then .error (.misuse .tooManyValues) else place.inform .version

/-- Takes the letters of an argument that starts with one hyphen. What follows
the letter of an option with a value is that value, behind an equals sign or
not. -/
def takeShort (place : Place) : List Char → Except Halt Place
  | [] => .ok place
  | letter :: rest =>
    match (OptionKind.ofShort? letter).filter place.knows with
    | none => .error (.misuse .unknownArgument)
    | some .help => place.inform .help
    | some .version => place.inform .version
    | some (.switch switch) => do
      let next ← place.takeSwitch switch
      next.takeShort rest
    | some (.setting setting) =>
      match rest with
      | [] => place.awaitSetting setting
      | '=' :: text => place.takeSetting setting (String.ofList text)
      | text => place.takeSetting setting (String.ofList text)

/-- Whether a word names a command, the one for help included. -/
def isCommandWord (word : String) : Bool :=
  (Verb.ofWord? word).isSome || word == "help"

/-- Takes an operand. Operands that follow each other are settled together. -/
def takeOperand (place : Place) (operand : String) : Except Halt Place :=
  match place.verb with
  | none =>
    if place.operandsOnly && isCommandWord operand then .error (.misuse .unknownArgument)
    else .error (.misuse .invalidSubcommand)
  | some (.files _) =>
    match place.pending with
    | some (.operands texts) =>
      .ok { place with pending := some (.operands (texts ++ [operand])) }
    | _ => do
      let settled ← place.settle
      pure { settled with pending := some (.operands [operand]) }
  | some .rule =>
    match place.operands, place.pending with
    | [], some (.operands _) | _ :: _, _ => .error (.misuse .unknownArgument)
    | [], _ => do
      let settled ← place.settle
      pure { settled with pending := some (.operands [operand]) }
  | some .version => .error (.misuse .unknownArgument)

/-- Takes an argument that is neither an option nor a mark: the value that is
waited for, or else an operand. -/
def takeWord (place : Place) (word : String) : Except Halt Place :=
  match place.pending with
  | some (.value setting none) =>
    .ok { place with pending := some (.value setting (some word)) }
  | _ => place.takeOperand word

/-- The name and the attached value of a long option. -/
def cutLong (text : List Char) : String × Option String :=
  match Text.cutAt '=' text with
  | none => (String.ofList text, none)
  | some (name, value) => (String.ofList name, some (String.ofList value))

/-- Takes one argument. -/
def take (place : Place) (argument : String) : Except Halt Place :=
  if place.operandsOnly then place.takeOperand argument
  else
    match argument.toList with
    | ['-', '-'] => .ok { place with operandsOnly := true }
    | '-' :: '-' :: text =>
      let (name, attached) := cutLong text
      place.takeLong name attached
    | '-' :: letter :: rest => place.takeShort (letter :: rest)
    | _ => place.takeWord argument

/-- Takes the arguments of a list one after the other. -/
def takeAll (place : Place) : List String → Except Halt Place
  | [] => .ok place
  | argument :: rest => do
    let next ← place.take argument
    next.takeAll rest

/-- Whether a word at this point may be a command. -/
def admitsCommand (place : Place) : Bool :=
  !place.operandsOnly && !place.awaitsValue

end Place

/-! ### Whole command lines -/

/-- The request for a command with some operands. -/
def Verb.request (verb : Verb) (operands : List String) : Except Halt Request :=
  match verb, operands with
  | .files _, [] | .rule, [] => .error (.misuse .missingRequiredArgument)
  | .files verb, names => .ok (.files verb names)
  | .rule, expression :: _ => .ok (.rule expression)
  | .version, _ => .ok .version

/-- Reads what stands behind a command. -/
def readBehind (verb : Verb) (arguments : List String) : Except Halt Options := do
  let place ← (Place.start (some verb)).takeAll arguments
  let settled ← place.settle
  let request ← verb.request settled.operands
  pure ⟨request, settled.choices⟩

/-- The answer to the help command, which may name one command. -/
def helpOn : List String → Halt
  | [] => .help
  | [word] => if Place.isCommandWord word then .help else .misuse .invalidSubcommand
  | _ => .misuse .invalidSubcommand

/-- The answer to a command line that ends without a command. -/
def withoutCommand (place : Place) : Except Halt Options := do
  let settled ← place.settle
  if settled.choices = Choices.none then .error (.misuse .nothingGiven)
  else .error (.misuse .missingSubcommand)

/-- Reads a command line from a point in front of the command. -/
def readFrom (place : Place) : List String → Except Halt Options
  | [] => withoutCommand place
  | argument :: rest =>
    match (Verb.ofWord? argument).filter fun _ => place.admitsCommand with
    | some verb => do
      let options ← readBehind verb rest
      let settled ← place.settle
      pure { options with choices := settled.choices.override options.choices }
    | none =>
      if place.admitsCommand && argument == "help" then .error (helpOn rest)
      else do
        let next ← place.take argument
        readFrom next rest

/-- Reads a command line. -/
def read (arguments : List String) : Except Halt Options :=
  readFrom (.start none) arguments

end Foldback.CommandLine
