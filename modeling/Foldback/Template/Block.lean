/-
Blocks, the scopes that are open at a place of a template. A block is a branch
of a conditional or a scope that binds names; a line is published when every
open block is. The stack of the open blocks has the innermost one first.
-/

namespace Foldback

/-- What opened a block. -/
inductive BlockKind where
  /-- A conditional: `if`, continued by `elif` and `else`, closed by `endif`. -/
  | conditional
  /-- A binding: `with` or `withfile`, closed by `endwith`. -/
  | binding
  deriving DecidableEq, Repr

/-- The word that names a kind of block. -/
def BlockKind.word : BlockKind → String
  | .conditional => "if"
  | .binding => "with"

/-- An open block. -/
structure Block where
  /-- What opened it. -/
  kind : BlockKind
  /-- Whether its lines may be shown. -/
  published : Bool
  /-- Whether this branch or one before it in the same conditional was chosen. -/
  branchTaken : Bool
  /-- The names it binds, with their values. -/
  bindings : List (String × String)
  /-- The line of the command that opened or last continued it. -/
  startLine : Nat
  deriving DecidableEq, Repr

namespace Block

/-- A branch of a conditional. A published branch counts as chosen. -/
def conditional (published branchTaken : Bool) (startLine : Nat) : Block where
  kind := .conditional
  published := published
  branchTaken := branchTaken || published
  bindings := []
  startLine := startLine

/-- A scope that binds one name. -/
def binding (name value : String) (startLine : Nat) : Block where
  kind := .binding
  published := true
  branchTaken := false
  bindings := [(name, value)]
  startLine := startLine

/-- The value that the block itself gives to a name. -/
def value? (block : Block) (name : String) : Option String :=
  block.bindings.lookup name

end Block

/-- The open blocks, innermost first. -/
abbrev BlockStack := List Block

/-- Why the innermost block cannot be left. -/
inductive LeaveFault where
  /-- No block is open. -/
  | noBlock
  /-- The innermost block is of another kind. -/
  | otherKind (found : BlockKind) (startLine : Nat)
  deriving DecidableEq, Repr

namespace BlockStack

/-- Whether every open block is published. -/
def published (stack : BlockStack) : Bool :=
  stack.all (·.published)

/-- The value of a name: the innermost block that binds it decides. -/
def lookup (stack : BlockStack) (name : String) : Option String :=
  stack.findSome? (·.value? name)

/-- Leaves the innermost block, which must be of the given kind, and gives it
together with the blocks around it. -/
def leave (stack : BlockStack) (kind : BlockKind) : Except LeaveFault (Block × BlockStack) :=
  match stack with
  | [] => .error .noBlock
  | block :: outer =>
    if block.kind = kind then .ok (block, outer)
    else .error (.otherKind block.kind block.startLine)

end BlockStack

end Foldback
