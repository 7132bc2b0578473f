/-
Templates as trees. A template is a list of items: lines that run no command,
conditionals with a template in every branch, and bindings with a template
inside. The lines of a block carry the proof that they are read as what they
stand for, so that every tree is a template that can be rendered.

What a template shows is told by recursion on the tree, from what the blocks
around it publish and bind: no block is kept open on the way, and the branch of a
conditional that is shown is the first whose condition holds.
-/

import Foldback.Template.Pass

namespace Foldback

open Text

/-! ### The lines of blocks -/

/-- A line that calls a command. -/
structure CallLine (name : String) where
  text : String
  arguments : String
  reads : Directive.parse text = some (.command name arguments)

structure ConditionLine (name : String) extends CallLine name where
  rule : Rule
  parses : Rule.parse arguments = .ok rule

/-- A line without an argument. -/
structure BareLine (name : String) extends CallLine name where
  blank : (trimBlanks arguments.toList).isEmpty = true

/-- A line that goes on to another branch. -/
inductive BranchLine where
  | elif (line : ConditionLine "elif")
  | otherwise (line : BareLine "else")

namespace BranchLine

def text : BranchLine → String
  | .elif line => line.text
  | .otherwise line => line.text

/-- Whether the branch holds, whatever the branches before it do. An `else` always does. -/
def holds (active : Categories) : BranchLine → Bool
  | .elif line => line.rule.holds active
  | .otherwise _ => true

end BranchLine

/-- A command binds a name to a value: as it is written, or as the file at the path has it. -/
inductive Binds (firstLine : String → Except FileError String) :
    (command arguments name value : String) → Prop
  | written {arguments name value : String}
      (pair : Call.binding? arguments = some (name, value)) :
      Binds firstLine "with" arguments name value
  | filed {arguments name path value : String}
      (pair : Call.binding? arguments = some (name, path)) (found : firstLine path = .ok value) :
      Binds firstLine "withfile" arguments name (trim value)

structure BindingLine (firstLine : String → Except FileError String) (command : String) extends
    CallLine command where
  name : String
  value : String
  binds : Binds firstLine command arguments name value

/-- A line that ends a binding, with or without the bound name. -/
structure EndwithLine (name : String) extends CallLine "endwith" where
  fits : trim arguments = "" ∨ trim arguments = name

/-! ### Templates -/

mutual

/-- One line that runs no command, or a whole block. -/
inductive Item (firstLine : String → Except FileError String) : Type where
  | plain (text : String) (reads : Directive.parse text = none)
  | comment (text : String) (reads : Directive.parse text = some .comment)
  | escaped (text literal : String) (reads : Directive.parse text = some (.escaped literal))
  | conditional (opening : ConditionLine "if") (body : Template firstLine)
      (later : Branches firstLine) (closing : BareLine "endif")
  | binding {command : String} (opening : BindingLine firstLine command)
      (body : Template firstLine) (closing : EndwithLine opening.name)

/-- Items one behind the other. -/
inductive Template (firstLine : String → Except FileError String) : Type where
  | nil
  | cons (item : Item firstLine) (rest : Template firstLine)

/-- The branches of a conditional behind the first one, in any order. -/
inductive Branches (firstLine : String → Except FileError String) : Type where
  | nil
  | cons (opening : BranchLine) (body : Template firstLine) (rest : Branches firstLine)

end

variable {firstLine : String → Except FileError String}

mutual

/-- The source lines of an item. -/
def Item.lines : Item firstLine → List String
  | .plain text _ | .comment text _ | .escaped text _ _ => [text]
  | .conditional opening body later closing =>
    opening.text :: body.lines ++ later.lines ++ [closing.text]
  | .binding opening body closing => opening.text :: body.lines ++ [closing.text]

def Template.lines : Template firstLine → List String
  | .nil => []
  | .cons item rest => item.lines ++ rest.lines

def Branches.lines : Branches firstLine → List String
  | .nil => []
  | .cons opening body rest => opening.text :: body.lines ++ rest.lines

end

/-! ### What a template means -/

/-- What the surroundings of a line decide about it. -/
structure Scope where
  published : Bool
  value? : String → Option String

/-- The scope that open blocks make. -/
def BlockStack.scope (stack : BlockStack) : Scope :=
  ⟨stack.published, stack.lookup⟩

namespace Scope

/-- The scope inside a branch. -/
def branch (scope : Scope) (selected : Bool) : Scope :=
  ⟨selected && scope.published, scope.value?⟩

/-- The scope inside a binding. -/
def bind (scope : Scope) (name value : String) : Scope :=
  ⟨scope.published, fun other => if other = name then some value else scope.value? other⟩

/-- What a plain line shows. -/
def shown (scope : Scope) (text : String) : Option String :=
  if scope.published then some (Placeholder.substitute scope.value? text) else none

end Scope

/-- Which branches hold. -/
def Branches.holding (active : Categories) : Branches firstLine → List Bool
  | .nil => []
  | .cons opening _ rest => opening.holds active :: rest.holding active

/-- Whether the branch at a place is the first that holds. -/
def isSelected (holding : List Bool) (place : Nat) : Bool :=
  holding[place]? = some true ∧ true ∉ holding.take place

/-- At most one branch is selected. -/
theorem isSelected_unique {holding : List Bool} {first second : Nat}
    (left : isSelected holding first = true) (right : isSelected holding second = true) :
    first = second := by
  simp only [isSelected, decide_eq_true_eq] at left right
  have notBefore {here there : Nat} (holds : holding[here]? = some true)
      (unheld : true ∉ holding.take there) : there ≤ here := by
    refine Nat.le_of_not_lt fun before => unheld (List.mem_of_getElem? (i := here) ?_)
    rw [List.getElem?_take_of_lt before]
    exact holds
  exact Nat.le_antisymm (notBefore right.1 left.2) (notBefore left.1 right.2)

-- A branch is given the flags of its whole conditional and its own place among them, so that
-- nothing is handed on from one branch to the next.
mutual

/-- The lines that an item renders to in a scope. -/
def Item.meaning (active : Categories) (scope : Scope) : Item firstLine → List Line
  | .plain text _ => [⟨scope.shown text, text⟩]
  | .comment text _ => [⟨none, text⟩]
  | .escaped text literal _ => [⟨some literal, text⟩]
  | .conditional opening body later closing =>
    let holding := opening.rule.holds active :: later.holding active
    ⟨none, opening.text⟩ :: body.meaning active (scope.branch (isSelected holding 0)) ++
      later.meaning active scope holding 1 ++ [⟨none, closing.text⟩]
  | .binding opening body closing =>
    ⟨none, opening.text⟩ :: body.meaning active (scope.bind opening.name opening.value) ++
      [⟨none, closing.text⟩]

def Template.meaning (active : Categories) (scope : Scope) : Template firstLine → List Line
  | .nil => []
  | .cons item rest => item.meaning active scope ++ rest.meaning active scope

/-- The lines that the branches from a place on render to in a scope. -/
def Branches.meaning (active : Categories) (scope : Scope) (holding : List Bool) (place : Nat) :
    Branches firstLine → List Line
  | .nil => []
  | .cons opening body rest =>
    ⟨none, opening.text⟩ :: body.meaning active (scope.branch (isSelected holding place)) ++
      rest.meaning active scope holding (place + 1)

end

/-! ### Every line is there -/

mutual

theorem Item.source_meaning (active : Categories) (scope : Scope) (item : Item firstLine) :
    (item.meaning active scope).map (·.source) = item.lines := by
  cases item with
  | plain | comment | escaped => rfl
  | conditional opening body later closing =>
    simp only [Item.meaning, Item.lines, List.map_append, List.map_cons, List.map_nil,
      body.source_meaning, later.source_meaning]
  | binding opening body closing =>
    simp only [Item.meaning, Item.lines, List.map_append, List.map_cons, List.map_nil,
      body.source_meaning]

theorem Template.source_meaning (active : Categories) (scope : Scope)
    (template : Template firstLine) :
    (template.meaning active scope).map (·.source) = template.lines := by
  cases template with
  | nil => rfl
  | cons item rest =>
    rw [Template.meaning, Template.lines, List.map_append, item.source_meaning,
      rest.source_meaning]

theorem Branches.source_meaning (active : Categories) (scope : Scope) (holding : List Bool)
    (place : Nat) (branches : Branches firstLine) :
    (branches.meaning active scope holding place).map (·.source) = branches.lines := by
  cases branches with
  | nil => rfl
  | cons opening body rest =>
    rw [Branches.meaning, Branches.lines, List.map_append, List.map_cons, body.source_meaning,
      rest.source_meaning]

end

end Foldback
