/-
The commands that every template has: the conditional `if`, `elif`, `else`,
`endif`, and the bindings `with`, `withfile`, `endwith`.

A conditional keeps one block open per chain, and every branch replaces the
block of the branch before it. The condition of an `elif` is only read when no
branch before it was chosen. A binding is made wherever its command is reached,
in an unpublished branch too.
-/

import Foldback.Template.Command
import Foldback.Text.Word
import Foldback.Text.Cut

namespace Foldback

open Text

namespace Call

/-- Ends the call with a block error. -/
def refuse {value : Type} (error : BlockError) : Traced PassNote RenderError value :=
  .fail (.block error)

/-- Opens a block around what follows. -/
def enter (stack : BlockStack) (block : Block) : CommandResult := do
  Traced.mark .entered
  pure (block :: stack)

/-- Leaves the innermost block, which must be of the given kind. -/
def leave (call : Call) (kind : BlockKind) : Traced PassNote RenderError (Block × BlockStack) :=
  match call.stack.leave kind with
  | .error fault => refuse (fault.toBlockError call.line call.name kind)
  | .ok left => do
    Traced.mark .left
    pure left

/-- Goes on only if the arguments are blank. -/
def takesNoArgument (call : Call) : Traced PassNote RenderError Unit :=
  if (trimBlanks call.arguments.toList).isEmpty then pure ()
  else refuse (.unexpectedArgument call.line call.name call.arguments)

/-- Refuses a name that the command does not know. -/
def unknown (call : Call) (known : List String) : CommandResult :=
  refuse (.unknownCommand call.line call.name known)

/-- Reads the arguments as a condition and evaluates it. -/
def evaluate (call : Call) (active : Categories) : Traced PassNote RenderError Bool :=
  match Rule.parse call.arguments with
  | .error error => .fail (.rule call.line error)
  | .ok rule => do
    Traced.mark .evaluated
    pure (rule.holds active)

/-- The name and the value of an argument `name=value`, where the name is a word. -/
def binding? (arguments : String) : Option (String × String) :=
  match cutAt '=' arguments.toList with
  | none => none
  | some (name, value) =>
    if !name.isEmpty && name.all isWordChar then some (String.ofList name, String.ofList value)
    else none

/-- The name and the value of the arguments, which must have the form `name=value`. -/
def binding (call : Call) : Traced PassNote RenderError (String × String) :=
  match binding? call.arguments with
  | none => refuse (.invalidBinding call.line call.name call.arguments)
  | some pair => pure pair

end Call

/-! ### Conditionals -/

/-- The names of the conditional command. -/
def conditionalNames : List String := ["if", "elif", "else", "endif"]

/-- What a conditional command does. -/
def runConditional (surroundings : Surroundings) (call : Call) : CommandResult :=
  match call.name with
  | "if" => do
    let published ← call.evaluate surroundings.categories
    Call.enter call.stack (.conditional published false call.line)
  | "elif" => do
    let (previous, outer) ← call.leave .conditional
    let published ←
      if previous.branchTaken then pure false else call.evaluate surroundings.categories
    Call.enter outer (.conditional published previous.branchTaken call.line)
  | "else" => do
    call.takesNoArgument
    let (previous, outer) ← call.leave .conditional
    Call.enter outer (.conditional (!previous.branchTaken) previous.branchTaken call.line)
  | "endif" => do
    call.takesNoArgument
    let (_, outer) ← call.leave .conditional
    pure outer
  | _ => call.unknown conditionalNames

/-- The conditional command. -/
def conditionalCommand : Command := ⟨conditionalNames, runConditional⟩

/-! ### Bindings -/

/-- The names of the binding command. -/
def bindingNames : List String := ["with", "withfile", "endwith"]

/-- What a binding command does. -/
def runBinding (surroundings : Surroundings) (call : Call) : CommandResult :=
  match call.name with
  | "with" => do
    let (name, value) ← call.binding
    Call.enter call.stack (.binding name value call.line)
  | "withfile" => do
    let (name, path) ← call.binding
    match surroundings.firstLine path with
    | .error error => .fail (.file call.line path error)
    | .ok value => Call.enter call.stack (.binding name (trim value) call.line)
  | "endwith" => do
    let (block, outer) ← call.leave .binding
    let name := trim call.arguments
    if !name.isEmpty && (block.value? name).isNone then
      Call.refuse (.unboundName call.line name block.startLine)
    else pure outer
  | _ => call.unknown bindingNames

/-- The binding command. -/
def bindingCommand : Command := ⟨bindingNames, runBinding⟩

/-! ### The table -/

/-- The table of the built-in commands. -/
def CommandTable.builtin : CommandTable :=
  (CommandTable.empty.add conditionalCommand).add bindingCommand

end Foldback
