/-
Conjunctions and disjunctions behave alike: a connective joins any number of
members, flattening takes the members of members that have the same connective,
and a connective with one member is dropped. Everything here is therefore said
once, of a connective.

Flattening keeps the value of a condition. What it gives is normal: at no depth
does a connective stand directly under itself or have exactly one member. A
normal condition is left as it is, so flattening twice changes nothing.
-/

import Mathlib.Data.List.Basic
import Foldback.Rule.Condition

namespace Foldback.Rule

/-- What joins members to one condition. -/
inductive Connective where
  | and
  | or
  deriving DecidableEq, Repr

namespace Connective

/-- The condition with some members. -/
def node : Connective → List Condition → Condition
  | .and => .all
  | .or => .any

/-- What a condition adds to a surrounding condition with the connective. -/
def parts : Connective → Condition → List Condition
  | .and => Condition.conjuncts
  | .or => Condition.disjuncts

/-- The condition of some members, where one member stands for itself. -/
def join : Connective → List Condition → Condition
  | .and => Condition.conjunction
  | .or => Condition.disjunction

/-- The flattened members of a condition with the connective. -/
def flatten : Connective → List Condition → List Condition
  | .and => Condition.simplifyConjuncts
  | .or => Condition.simplifyDisjuncts

/-- The value of two members from their values. -/
def combine : Connective → Bool → Bool → Bool
  | .and => (· && ·)
  | .or => (· || ·)

end Connective

/-- The connective of a condition, if its members are joined by one. -/
def Condition.connective? : Condition → Option Connective
  | .all _ => some .and
  | .any _ => some .or
  | _ => none

namespace Connective

variable (connective : Connective)

/-! ### Parts and members -/

theorem connective?_node (members : List Condition) :
    (connective.node members).connective? = some connective := by
  cases connective <;> rfl

theorem node_injective {other : Connective} {members others : List Condition}
    (same : connective.node members = other.node others) :
    connective = other ∧ members = others := by
  have sameConnective : connective = other := by
    have found := congrArg Condition.connective? same
    rw [connective?_node, connective?_node] at found
    exact Option.some.inj found
  subst sameConnective
  refine ⟨rfl, ?_⟩
  cases connective <;> cases same <;> rfl

theorem parts_node (members : List Condition) :
    connective.parts (connective.node members) = members := by
  cases connective <;> rfl

theorem parts_of_unlike {condition : Condition} (unlike : condition.connective? ≠ some connective) :
    connective.parts condition = [condition] := by
  cases connective with
  | and =>
    cases condition with
    | all => exact absurd rfl unlike
    | _ => rfl
  | or =>
    cases condition with
    | any => exact absurd rfl unlike
    | _ => rfl

/-- A condition either has the connective or is a part of its own. -/
theorem node_or_unlike (condition : Condition) :
    (∃ members, condition = connective.node members) ∨ condition.connective? ≠ some connective := by
  by_cases same : condition.connective? = some connective
  · refine .inl ?_
    cases condition <;> cases same <;> exact ⟨_, rfl⟩
  · exact .inr same

theorem join_singleton (member : Condition) : connective.join [member] = member := by
  cases connective <;> rfl

theorem join_of_plural {members : List Condition} (plural : members.length ≠ 1) :
    connective.join members = connective.node members := by
  match members with
  | [] => cases connective <;> rfl
  | [_] => exact absurd rfl plural
  | _ :: _ :: _ => cases connective <;> rfl

theorem simplify_node (members : List Condition) :
    (connective.node members).simplify = connective.join (connective.flatten members) := by
  cases connective <;> rw [node, Condition.simplify] <;> rfl

theorem flatten_cons (member : Condition) (rest : List Condition) :
    connective.flatten (member :: rest) =
      connective.parts member.simplify ++ connective.flatten rest := by
  cases connective <;> rfl

theorem flatten_eq_flatMap (members : List Condition) :
    connective.flatten members = members.flatMap fun member => connective.parts member.simplify := by
  induction members with
  | nil => cases connective <;> rfl
  | cons member rest inductionHypothesis =>
    rw [flatten_cons, List.flatMap_cons, inductionHypothesis]

/-- Members that do not have the connective are the parts of what they are joined to. -/
theorem parts_join {members : List Condition}
    (unlike : ∀ member ∈ members, member.connective? ≠ some connective) :
    connective.parts (connective.join members) = members := by
  by_cases single : members.length = 1
  · obtain ⟨member, rfl⟩ := List.length_eq_one_iff.mp single
    rw [join_singleton, parts_of_unlike connective (unlike member List.mem_cons_self)]
  · rw [join_of_plural connective single, parts_node]

/-! ### Values -/

section Values

variable (active : Categories)

theorem holds_node_cons (member : Condition) (rest : List Condition) :
    (connective.node (member :: rest)).holds active =
      connective.combine (member.holds active) ((connective.node rest).holds active) := by
  cases connective <;> rfl

theorem combine_assoc (first second third : Bool) :
    connective.combine (connective.combine first second) third =
      connective.combine first (connective.combine second third) := by
  cases connective
  · exact Bool.and_assoc first second third
  · exact Bool.or_assoc first second third

theorem combine_holds_nil (value : Bool) :
    connective.combine value ((connective.node []).holds active) = value := by
  cases connective
  · exact Bool.and_true value
  · exact Bool.or_false value

theorem holds_nil_combine (value : Bool) :
    connective.combine ((connective.node []).holds active) value = value := by
  cases connective
  · exact Bool.true_and value
  · exact Bool.false_or value

theorem holds_node_singleton (member : Condition) :
    (connective.node [member]).holds active = member.holds active := by
  rw [holds_node_cons, combine_holds_nil]

theorem holds_node_append (first second : List Condition) :
    (connective.node (first ++ second)).holds active =
      connective.combine ((connective.node first).holds active)
        ((connective.node second).holds active) := by
  induction first with
  | nil => rw [List.nil_append, holds_nil_combine]
  | cons member rest inductionHypothesis =>
    rw [List.cons_append, holds_node_cons, inductionHypothesis, holds_node_cons, combine_assoc]

theorem holds_node_parts (condition : Condition) :
    (connective.node (connective.parts condition)).holds active = condition.holds active := by
  rcases connective.node_or_unlike condition with ⟨members, rfl⟩ | unlike
  · rw [parts_node]
  · rw [parts_of_unlike connective unlike, holds_node_singleton]

theorem holds_join (members : List Condition) :
    (connective.join members).holds active = (connective.node members).holds active := by
  by_cases single : members.length = 1
  · obtain ⟨member, rfl⟩ := List.length_eq_one_iff.mp single
    rw [join_singleton, holds_node_singleton]
  · rw [join_of_plural connective single]

theorem holds_node_flatten {members : List Condition}
    (each : ∀ member ∈ members, member.simplify.holds active = member.holds active) :
    (connective.node (connective.flatten members)).holds active =
      (connective.node members).holds active := by
  induction members with
  | nil => cases connective <;> rfl
  | cons member rest inductionHypothesis =>
    have behind := inductionHypothesis fun other inside => each other (List.mem_cons_of_mem _ inside)
    rw [flatten_cons, holds_node_append, holds_node_parts, each member List.mem_cons_self, behind,
      holds_node_cons]

end Values

end Connective

namespace Condition

/-- Induction over a condition, with one case for both connectives. -/
@[elab_as_elim]
theorem memberwise {motive : Condition → Prop} (always : motive .always) (never : motive .never)
    (atom : ∀ name, motive (.atom name))
    (not : ∀ member, motive member → motive (.not member))
    (joined : ∀ (connective : Connective) members, (∀ member ∈ members, motive member) →
      motive (connective.node members)) (condition : Condition) : motive condition := by
  refine @Condition.rec motive (fun members => ∀ member ∈ members, motive member) always never atom
    not (joined .and) (joined .or) ?_ ?_ condition
  · intro member inside
    cases inside
  · intro first rest firstHolds restHolds member inside
    rcases List.mem_cons.mp inside with rfl | behind
    · exact firstHolds
    · exact restHolds member behind

/-- Flattening keeps the value. -/
theorem holds_simplify (active : Categories) (condition : Condition) :
    condition.simplify.holds active = condition.holds active := by
  induction condition using memberwise with
  | always => rfl
  | never => rfl
  | atom name => rfl
  | not member inductionHypothesis => exact congrArg Bool.not inductionHypothesis
  | joined connective members inductionHypothesis =>
    rw [Connective.simplify_node, Connective.holds_join,
      Connective.holds_node_flatten connective active inductionHypothesis]

/-! ### Normal conditions -/

/-- At no depth does a connective stand directly under itself or have exactly one member. -/
inductive Normal : Condition → Prop where
  | always : Normal .always
  | never : Normal .never
  | atom (name : String) : Normal (.atom name)
  | not {member : Condition} (inside : Normal member) : Normal (.not member)
  | joined (connective : Connective) {members : List Condition} (plural : members.length ≠ 1)
      (unlike : ∀ member ∈ members, member.connective? ≠ some connective)
      (each : ∀ member ∈ members, Normal member) : Normal (connective.node members)

theorem Normal.of_node {connective : Connective} {members : List Condition}
    (normal : Normal (connective.node members)) :
    members.length ≠ 1 ∧ (∀ member ∈ members, member.connective? ≠ some connective) ∧
      ∀ member ∈ members, Normal member := by
  generalize whole : connective.node members = condition at normal
  cases normal with
  | joined other plural unlike each =>
    obtain ⟨rfl, rfl⟩ := Connective.node_injective _ whole
    exact ⟨plural, unlike, each⟩
  | _ => cases connective <;> cases whole

/-- The parts of a normal condition are normal and do not have the connective. -/
theorem Normal.parts {condition : Condition} (normal : Normal condition) (connective : Connective) :
    ∀ part ∈ connective.parts condition,
      Normal part ∧ part.connective? ≠ some connective := by
  intro part inside
  rcases connective.node_or_unlike condition with ⟨members, rfl⟩ | unlike
  · rw [Connective.parts_node] at inside
    exact ⟨normal.of_node.2.2 part inside, normal.of_node.2.1 part inside⟩
  · rw [Connective.parts_of_unlike connective unlike] at inside
    cases List.mem_singleton.mp inside
    exact ⟨normal, unlike⟩

theorem Normal.join_parts {condition : Condition} (normal : Normal condition)
    (connective : Connective) : connective.join (connective.parts condition) = condition := by
  rcases connective.node_or_unlike condition with ⟨members, rfl⟩ | unlike
  · rw [Connective.parts_node, Connective.join_of_plural connective normal.of_node.1]
  · rw [Connective.parts_of_unlike connective unlike, Connective.join_singleton]

theorem normal_join {connective : Connective} {members : List Condition}
    (each : ∀ member ∈ members, Normal member ∧ member.connective? ≠ some connective) :
    Normal (connective.join members) := by
  by_cases single : members.length = 1
  · obtain ⟨member, rfl⟩ := List.length_eq_one_iff.mp single
    rw [Connective.join_singleton]
    exact (each member List.mem_cons_self).1
  · rw [Connective.join_of_plural connective single]
    exact .joined connective single (fun member inside => (each member inside).2)
      fun member inside => (each member inside).1

/-- The flattened members of a condition are normal, and none has the connective. -/
theorem normal_flatten {connective : Connective} {members : List Condition}
    (each : ∀ member ∈ members, Normal member.simplify) :
    ∀ part ∈ connective.flatten members, Normal part ∧ part.connective? ≠ some connective := by
  intro part inside
  rw [Connective.flatten_eq_flatMap] at inside
  obtain ⟨member, listed, isPart⟩ := List.mem_flatMap.mp inside
  exact (each member listed).parts connective part isPart

/-- What flattening gives is normal. -/
theorem normal_simplify (condition : Condition) : Normal condition.simplify := by
  induction condition using memberwise with
  | always => exact .always
  | never => exact .never
  | atom name => exact .atom name
  | not member inductionHypothesis => exact .not inductionHypothesis
  | joined connective members inductionHypothesis =>
    rw [Connective.simplify_node]
    exact normal_join (normal_flatten inductionHypothesis)

/-- A normal condition is left as it is. -/
theorem Normal.simplify_eq {condition : Condition} (normal : Normal condition) :
    condition.simplify = condition := by
  induction normal with
  | always => rfl
  | never => rfl
  | atom name => rfl
  | not _ inductionHypothesis => exact congrArg Condition.not inductionHypothesis
  | @joined connective members plural unlike _ inductionHypothesis =>
    have flat : connective.flatten members = members := by
      rw [Connective.flatten_eq_flatMap]
      calc members.flatMap (fun member => connective.parts member.simplify)
          = members.flatMap fun member => [member] := by
            refine List.flatMap_congr fun member inside => ?_
            rw [inductionHypothesis member inside,
              Connective.parts_of_unlike connective (unlike member inside)]
        _ = members := List.flatMap_singleton' members
    rw [Connective.simplify_node, flat, Connective.join_of_plural connective plural]

theorem simplify_simplify (condition : Condition) :
    condition.simplify.simplify = condition.simplify :=
  (normal_simplify condition).simplify_eq

end Condition

end Foldback.Rule
