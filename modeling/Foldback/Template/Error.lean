/-
Errors of a rendering pass. Each names the source line it was met on. A pass
ends with its first error.
-/

import Foldback.Rule.Basic
import Foldback.Disk.Error
import Foldback.Template.Block

namespace Foldback

/-- Unbalanced, malformed or unknown commands. -/
inductive BlockError where
  /-- A command that continues or closes a block stands outside of any block. -/
  | notInBlock (line : Nat) (command : String)
  /-- The innermost block is not of the kind that the command continues or closes. -/
  | kindMismatch (line : Nat) (command : String) (expected found : BlockKind) (startLine : Nat)
  /-- A command that takes no argument was given one. -/
  | unexpectedArgument (line : Nat) (command arguments : String)
  /-- The argument of a binding command is not a name and a value. -/
  | invalidBinding (line : Nat) (command arguments : String)
  /-- A binding block was closed under a name that it does not bind. -/
  | unboundName (line : Nat) (name : String) (startLine : Nat)
  /-- No command has the name; the known names are listed. -/
  | unknownCommand (line : Nat) (name : String) (known : List String)
  deriving DecidableEq, Repr

namespace BlockError

/-- The line of the offending command. -/
def line : BlockError → Nat
  | .notInBlock line _ | .kindMismatch line _ _ _ _ | .unexpectedArgument line _ _
  | .invalidBinding line _ _ | .unboundName line _ _ | .unknownCommand line _ _ => line

/-- The message for a block error. -/
def message : BlockError → String
  | .notInBlock line command => s!"Line {line}: '{command}' outside of any block"
  | .kindMismatch line command expected found startLine =>
    s!"Line {line}: '{command}' expects an open '{expected.word}' block, " ++
      s!"but the '{found.word}' block from line {startLine} is still open"
  | .unexpectedArgument line command arguments =>
    s!"Line {line}: command '{command}' takes no argument, got '{arguments}'"
  | .invalidBinding line command arguments =>
    s!"Line {line}: invalid '{command}' argument '{arguments}', expected name=value"
  | .unboundName line name startLine =>
    s!"Line {line}: closing 'with' block from line {startLine} with unbound variable '{name}'"
  | .unknownCommand line name known =>
    s!"Line {line}: unknown command '{name}' (known: " ++ ", ".intercalate known ++ ")"

end BlockError

/-- The error for a block that a command cannot leave. -/
def LeaveFault.toBlockError (fault : LeaveFault) (line : Nat) (command : String)
    (expected : BlockKind) : BlockError :=
  match fault with
  | .noBlock => .notInBlock line command
  | .otherKind found startLine => .kindMismatch line command expected found startLine

/-- Errors of a rendering pass. -/
inductive RenderError where
  /-- The block structure is wrong. -/
  | block (error : BlockError)
  /-- A condition cannot be read. -/
  | rule (line : Nat) (error : RuleError)
  /-- A file that a binding names cannot be read. -/
  | file (line : Nat) (path : String) (error : FileError)
  deriving DecidableEq, Repr

namespace RenderError

/-- The line of the error. -/
def line : RenderError → Nat
  | .block error => error.line
  | .rule line _ | .file line _ _ => line

/-- The message for a rendering error. -/
def message : RenderError → String
  | .block error => error.message
  | .rule line error => s!"Line {line}: " ++ error.message
  | .file line path error => s!"Line {line}: reading {path}: {error.message}"

/-- The message of the error behind a rendering error, where there is one. -/
def cause? : RenderError → Option String
  | .block _ => none
  | .rule _ error => some error.message
  | .file _ _ error => some error.message

end RenderError

end Foldback
