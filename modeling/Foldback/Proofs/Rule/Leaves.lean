/-
What flattening does to a condition, told from what stands in it: at no depth a
connective is left with one member or directly under itself, and the leaves are
the same ones in the same order. Being flat is said here of every place in the
condition at once; it comes to the same as being normal, which is said from the
members upwards and is what the proofs by induction work with.
-/

import Foldback.Proofs.Rule.NormalForm

namespace Foldback.Rule

/-! ### Leaves -/

namespace Condition

mutual

/-- The names and constants in a condition, from left to right. -/
def leaves : Condition → List Condition
  | .not member => member.leaves
  | .all members | .any members => leavesOf members
  | leaf => [leaf]

/-- The names and constants in the members of a condition, from left to right. -/
def leavesOf : List Condition → List Condition
  | [] => []
  | member :: rest => member.leaves ++ leavesOf rest

end

theorem leavesOf_eq_flatMap (members : List Condition) : leavesOf members = members.flatMap leaves := by
  induction members with
  | nil => rfl
  | cons member rest inductionHypothesis => rw [leavesOf, inductionHypothesis, List.flatMap_cons]

end Condition

namespace Connective

variable (connective : Connective)

theorem leaves_node (members : List Condition) :
    (connective.node members).leaves = members.flatMap Condition.leaves := by
  rw [← Condition.leavesOf_eq_flatMap]
  cases connective <;> rw [node, Condition.leaves]

theorem leaves_parts (condition : Condition) :
    (connective.parts condition).flatMap Condition.leaves = condition.leaves := by
  rcases connective.node_or_unlike condition with ⟨members, rfl⟩ | unlike
  · rw [parts_node, leaves_node]
  · rw [parts_of_unlike connective unlike, List.flatMap_singleton]

theorem leaves_join (members : List Condition) :
    (connective.join members).leaves = members.flatMap Condition.leaves := by
  by_cases single : members.length = 1
  · obtain ⟨member, rfl⟩ := List.length_eq_one_iff.mp single
    rw [join_singleton, List.flatMap_singleton]
  · rw [join_of_plural connective single, leaves_node]

end Connective

namespace Condition

/-- Flattening keeps the leaves and their order. -/
theorem leaves_simplify (condition : Condition) : condition.simplify.leaves = condition.leaves := by
  induction condition using memberwise with
  | always => rfl
  | never => rfl
  | atom name => rfl
  | not member inductionHypothesis => exact inductionHypothesis
  | joined connective members inductionHypothesis =>
    rw [Connective.simplify_node, Connective.leaves_join, Connective.flatten_eq_flatMap,
      List.flatMap_assoc, Connective.leaves_node]
    refine List.flatMap_congr fun member inside => ?_
    rw [Connective.leaves_parts, inductionHypothesis member inside]

/-! ### Flat conditions -/

/-- A condition stands in another one, at any depth. -/
inductive Occurs : Condition → Condition → Prop where
  | here (condition : Condition) : Occurs condition condition
  | not {inner member : Condition} (inside : Occurs inner member) : Occurs inner (.not member)
  | joined (connective : Connective) {inner member : Condition} {members : List Condition}
      (listed : member ∈ members) (inside : Occurs inner member) :
      Occurs inner (connective.node members)

/-- No connective in the condition has exactly one member or stands directly under itself. -/
def Flat (condition : Condition) : Prop :=
  ∀ (connective : Connective) members, Occurs (connective.node members) condition →
    members.length ≠ 1 ∧ ∀ member ∈ members, member.connective? ≠ some connective

theorem Normal.of_not {member : Condition} (normal : Normal (.not member)) : Normal member := by
  generalize whole : Condition.not member = condition at normal
  cases normal with
  | not inside =>
    cases whole
    exact inside
  | joined connective => cases connective <;> cases whole
  | _ => cases whole

theorem Normal.of_occurs {inner condition : Condition} (occurs : Occurs inner condition)
    (normal : Normal condition) : Normal inner := by
  induction occurs with
  | here => exact normal
  | not _ inductionHypothesis => exact inductionHypothesis normal.of_not
  | joined connective listed _ inductionHypothesis =>
    exact inductionHypothesis (normal.of_node.2.2 _ listed)

theorem normal_of_flat {condition : Condition} (flat : Flat condition) : Normal condition := by
  induction condition using memberwise with
  | always => exact .always
  | never => exact .never
  | atom name => exact .atom name
  | not member inductionHypothesis =>
    exact .not (inductionHypothesis fun connective members occurs => flat connective members occurs.not)
  | joined connective members inductionHypothesis =>
    obtain ⟨plural, unlike⟩ := flat connective members (.here _)
    refine .joined connective plural unlike fun member listed => ?_
    exact inductionHypothesis member listed fun other others occurs =>
      flat other others (.joined connective listed occurs)

theorem flat_iff_normal (condition : Condition) : Flat condition ↔ Normal condition := by
  refine ⟨normal_of_flat, fun normal connective members occurs => ?_⟩
  obtain ⟨plural, unlike, -⟩ := (normal.of_occurs occurs).of_node
  exact ⟨plural, unlike⟩

/-- Flattening keeps the value for every category set, gives a flat condition with the same leaves
in the same order, and leaves exactly the flat conditions as they are. -/
theorem simplify_flattens (condition : Condition) :
    (∀ active, condition.simplify.holds active = condition.holds active) ∧
    Flat condition.simplify ∧ condition.simplify.leaves = condition.leaves ∧
    (condition.simplify = condition ↔ Flat condition) ∧
    condition.simplify.simplify = condition.simplify := by
  have flattened : Flat condition.simplify := (flat_iff_normal _).mpr (normal_simplify condition)
  refine ⟨fun active => holds_simplify active condition, flattened, leaves_simplify condition,
    ⟨fun same => same ▸ flattened, fun flat => ?_⟩, simplify_simplify condition⟩
  exact ((flat_iff_normal condition).mp flat).simplify_eq

/-- A single member that is exposed joins the members around it, and an empty conjunction vanishes
only into a conjunction. -/
example :
    (Condition.all [.any [.all [.atom "a", .never]], .all [], .any [.all []], .any []]).simplify =
      .all [.atom "a", .never, .any []] := by
  decide

end Condition

end Foldback.Rule
