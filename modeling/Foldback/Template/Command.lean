/-
Commands and the table that finds them by name. A command answers to one or
more names; it is a function of its surroundings and of the call, and it gives
the blocks that are open after it. A table never binds a name twice: a command
that claims a taken name is refused as a whole.
-/

import Foldback.Template.Error
import Foldback.Traced

namespace Foldback

open Text

/-- What a pass notes on its way. -/
inductive PassNote where
  /-- A command was found and starts. -/
  | dispatched
  /-- A condition was evaluated. -/
  | evaluated
  /-- A block was entered. -/
  | entered
  /-- A block was left. -/
  | left
  /-- A block is open at the end of the source. -/
  | stillOpen
  deriving DecidableEq, Repr

/-- What a command may look at besides its call. -/
structure Surroundings where
  /-- The active categories. -/
  categories : Categories
  /-- The names of all commands in order. -/
  commandNames : List String
  /-- The first line of the file at a path. -/
  firstLine : String → Except FileError String

/-- One use of a command. -/
structure Call where
  /-- The name it was called by. -/
  name : String
  /-- The raw text behind the name. -/
  arguments : String
  /-- The number of the source line. -/
  line : Nat
  /-- The open blocks. -/
  stack : BlockStack

/-- The result of a command, with its notes. -/
abbrev CommandResult := Traced PassNote RenderError BlockStack

/-- A command. -/
structure Command where
  /-- The names it answers to. -/
  names : List String
  /-- What it does to the open blocks. The number of the line is told by the call and counted by the
  pass, so a command cannot change it; what is said about all commands is said about such. -/
  run : Surroundings → Call → CommandResult

/-- A name that two commands claim. -/
structure DuplicateCommand where
  name : String
  deriving DecidableEq, Repr

/-- The message for a contested name. -/
def DuplicateCommand.message (duplicate : DuplicateCommand) : String :=
  s!"Duplicate command '{duplicate.name}'"

/-- The commands of a pass, each under its names. -/
structure CommandTable where
  entries : List (String × Command)

namespace CommandTable

/-- No commands. -/
def empty : CommandTable := ⟨[]⟩

/-- The command with a name. -/
def find? (table : CommandTable) (name : String) : Option Command :=
  table.entries.lookup name

/-- Whether a command has the name. -/
def has (table : CommandTable) (name : String) : Bool :=
  (table.find? name).isSome

/-- All names in order. -/
def names (table : CommandTable) : List String :=
  sortNames (table.entries.map (·.1))

/-- The table with a command added under all its names, whatever they are. -/
def add (table : CommandTable) (command : Command) : CommandTable :=
  ⟨table.entries ++ command.names.map fun name => (name, command)⟩

/-- Offers a command to a table: the answer, and the table afterwards. All names are looked up
before the first one is entered, and the first taken name is reported. -/
def offer (table : CommandTable) (command : Command) :
    Except DuplicateCommand Unit × CommandTable :=
  match command.names.find? table.has with
  | some name => (.error ⟨name⟩, table)
  | none => (.ok (), table.add command)

/-- The table with a command whose names are all free. -/
def register (table : CommandTable) (command : Command) : Except DuplicateCommand CommandTable :=
  (table.offer command).1.map fun _ => (table.offer command).2

end CommandTable

end Foldback
