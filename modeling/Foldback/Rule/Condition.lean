/-
Conditions: boolean expressions over category names. Conjunctions and
disjunctions have any number of members. `simplify` flattens a conjunction
inside a conjunction and a disjunction inside a disjunction and drops a
connective with one member; `text` is the written form, with parentheses around
every inner connective.
-/

import Foldback.Categories

namespace Foldback.Rule

/-- A boolean condition over category names. -/
inductive Condition where
  /-- Holds for every set. -/
  | always
  /-- Holds for no set. -/
  | never
  /-- Holds for the sets with the name. -/
  | atom (name : String)
  /-- Holds where the member does not. -/
  | not (member : Condition)
  /-- Holds where every member does. -/
  | all (members : List Condition)
  /-- Holds where some member does. -/
  | any (members : List Condition)
  deriving Repr, Inhabited

namespace Condition

/-! ### Equality -/

mutual

/-- Equality of conditions is decided member by member. -/
def decideEq : (left right : Condition) → Decidable (left = right)
  | .always, .always => isTrue rfl
  | .never, .never => isTrue rfl
  | .atom left, .atom right =>
    if same : left = right then isTrue (by rw [same])
    else isFalse (by simpa using same)
  | .not left, .not right =>
    match decideEq left right with
    | isTrue same => isTrue (by rw [same])
    | isFalse different => isFalse (by simpa using different)
  | .all left, .all right =>
    match decideMembersEq left right with
    | isTrue same => isTrue (by rw [same])
    | isFalse different => isFalse (by simpa using different)
  | .any left, .any right =>
    match decideMembersEq left right with
    | isTrue same => isTrue (by rw [same])
    | isFalse different => isFalse (by simpa using different)
  | .always, .never | .always, .atom _ | .always, .not _ | .always, .all _ | .always, .any _
  | .never, .always | .never, .atom _ | .never, .not _ | .never, .all _ | .never, .any _
  | .atom _, .always | .atom _, .never | .atom _, .not _ | .atom _, .all _ | .atom _, .any _
  | .not _, .always | .not _, .never | .not _, .atom _ | .not _, .all _ | .not _, .any _
  | .all _, .always | .all _, .never | .all _, .atom _ | .all _, .not _ | .all _, .any _
  | .any _, .always | .any _, .never | .any _, .atom _ | .any _, .not _ | .any _, .all _ =>
    isFalse nofun

/-- Equality of member lists. -/
def decideMembersEq : (left right : List Condition) → Decidable (left = right)
  | [], [] => isTrue rfl
  | [], _ :: _ | _ :: _, [] => isFalse nofun
  | left :: leftRest, right :: rightRest =>
    match decideEq left right, decideMembersEq leftRest rightRest with
    | isTrue same, isTrue sameRest => isTrue (by rw [same, sameRest])
    | isFalse different, _ => isFalse fun equal => different (List.cons.inj equal).1
    | _, isFalse different => isFalse fun equal => different (List.cons.inj equal).2

end

instance : DecidableEq Condition := decideEq

/-! ### Value -/

mutual

/-- Whether the condition holds for a category set. -/
def holds (active : Categories) : Condition → Bool
  | .always => true
  | .never => false
  | .atom name => active.contains name
  | .not member => !member.holds active
  | .all members => allHold active members
  | .any members => anyHolds active members

/-- Whether every member holds. -/
def allHold (active : Categories) : List Condition → Bool
  | [] => true
  | member :: rest => member.holds active && allHold active rest

/-- Whether some member holds. -/
def anyHolds (active : Categories) : List Condition → Bool
  | [] => false
  | member :: rest => member.holds active || anyHolds active rest

end

theorem allHold_eq_all (active : Categories) (members : List Condition) :
    allHold active members = members.all (holds active) := by
  induction members with
  | nil => rfl
  | cons member rest inductionHypothesis => simp [allHold, inductionHypothesis]

theorem anyHolds_eq_any (active : Categories) (members : List Condition) :
    anyHolds active members = members.any (holds active) := by
  induction members with
  | nil => rfl
  | cons member rest inductionHypothesis => simp [anyHolds, inductionHypothesis]

/-! ### Normal form -/

/-- What a condition adds to a surrounding conjunction. -/
def conjuncts : Condition → List Condition
  | .all members => members
  | other => [other]

/-- What a condition adds to a surrounding disjunction. -/
def disjuncts : Condition → List Condition
  | .any members => members
  | other => [other]

/-- The conjunction of some members; one member stands for itself. -/
def conjunction : List Condition → Condition
  | [member] => member
  | members => .all members

/-- The disjunction of some members; one member stands for itself. -/
def disjunction : List Condition → Condition
  | [member] => member
  | members => .any members

mutual

/-- The flattened form of a condition. -/
def simplify : Condition → Condition
  | .not member => .not member.simplify
  | .all members => conjunction (simplifyConjuncts members)
  | .any members => disjunction (simplifyDisjuncts members)
  | other => other

/-- The flattened members of a conjunction. -/
def simplifyConjuncts : List Condition → List Condition
  | [] => []
  | member :: rest => member.simplify.conjuncts ++ simplifyConjuncts rest

/-- The flattened members of a disjunction. -/
def simplifyDisjuncts : List Condition → List Condition
  | [] => []
  | member :: rest => member.simplify.disjuncts ++ simplifyDisjuncts rest

end

/-! ### Written form -/

/-- Whether a condition is a conjunction or a disjunction, and so stands in
parentheses inside another condition. -/
def isJoined : Condition → Bool
  | .all _ | .any _ => true
  | _ => false

mutual

/-- The written form of a condition. -/
def text : Condition → String
  | .always => "True"
  | .never => "False"
  | .atom name => name
  | .not member => if member.isJoined then "! (" ++ member.text ++ ")" else "! " ++ member.text
  | .all members => joinedText " && " members
  | .any members => joinedText " || " members

/-- The members in order with a separator between them. -/
def joinedText (separator : String) : List Condition → String
  | [] => ""
  | member :: rest =>
    (if member.isJoined then "(" ++ member.text ++ ")" else member.text) ++
      match rest with
      | [] => ""
      | next :: more => separator ++ joinedText separator (next :: more)

end

end Condition

end Foldback.Rule
