/-
The grammar of the rule language, and what has been derived of it on the way.

  disjunction := conjunction (`||` conjunction)*
  conjunction := adjacency (`&&` adjacency)*
  adjacency   := primary atom*
  primary     := atom | `!` primary | `(` disjunction `)`

A derivation is a tree of these rules. A repetition is told from its last
member, the way it associates, so the tree that a derivation stands for is the
left-associated one.

While tokens are read from left to right, what they derive is a stack of
unfinished derivations: at every open parenthesis, and at the present depth, the
disjunction up to the last `||`, the conjunction up to the last `&&` behind it,
and the negations that wait for their primary. `Progress` is such a stack. It
spells exactly the tokens that were read, and forgetting the derivations for
their trees gives the state of the reader.
-/

import Foldback.Rule.Reader

namespace Foldback.Rule

/-! ### Derivations -/

/-- The levels of the grammar, the tightest first. -/
inductive Stratum where
  | primary
  | adjacency
  | conjunction
  | disjunction
  deriving DecidableEq, Repr

/-- The derivations of each level. -/
inductive Derivation : Stratum → Type where
  | atom (name : String) : Derivation .primary
  | not (member : Derivation .primary) : Derivation .primary
  | group (inside : Derivation .disjunction) : Derivation .primary
  | adjacency (first : Derivation .primary) : Derivation .adjacency
  | beside (front : Derivation .adjacency) (name : String) : Derivation .adjacency
  | conjunction (first : Derivation .adjacency) : Derivation .conjunction
  | and (front : Derivation .conjunction) (last : Derivation .adjacency) : Derivation .conjunction
  | disjunction (first : Derivation .conjunction) : Derivation .disjunction
  | or (front : Derivation .disjunction) (last : Derivation .conjunction) :
      Derivation .disjunction
  deriving Repr

namespace Derivation

/-- The tokens that a derivation derives. -/
def tokens {stratum : Stratum} : Derivation stratum → List Token
  | .atom name => [.atom name]
  | .not member => .not :: member.tokens
  | .group inside => .openParen :: inside.tokens ++ [.closeParen]
  | .adjacency first => first.tokens
  | .beside front name => front.tokens ++ [.atom name]
  | .conjunction first => first.tokens
  | .and front last => front.tokens ++ .and :: last.tokens
  | .disjunction first => first.tokens
  | .or front last => front.tokens ++ .or :: last.tokens

/-- The condition that a derivation stands for, as it was written. -/
def tree {stratum : Stratum} : Derivation stratum → Condition
  | .atom name => .atom name
  | .not member => .not member.tree
  | .group inside => inside.tree
  | .adjacency first => first.tree
  | .beside front name => .any [front.tree, .atom name]
  | .conjunction first => first.tree
  | .and front last => .all [front.tree, last.tree]
  | .disjunction first => first.tree
  | .or front last => .any [front.tree, last.tree]

/-- What a derivation says of a category set: atoms that stand side by side are alternatives. -/
def value {stratum : Stratum} (active : Categories) : Derivation stratum → Bool
  | .atom name => active.contains name
  | .not member => !member.value active
  | .group inside => inside.value active
  | .adjacency first => first.value active
  | .beside front name => front.value active || active.contains name
  | .conjunction first => first.value active
  | .and front last => front.value active && last.value active
  | .disjunction first => first.value active
  | .or front last => front.value active || last.value active

theorem holds_tree {stratum : Stratum} (active : Categories) (derivation : Derivation stratum) :
    derivation.tree.holds active = derivation.value active := by
  induction derivation with
  | atom name => rfl
  | not member inductionHypothesis => exact congrArg Bool.not inductionHypothesis
  | group inside inductionHypothesis => exact inductionHypothesis
  | adjacency first inductionHypothesis => exact inductionHypothesis
  | beside front name inductionHypothesis =>
    simp only [tree, Condition.holds, Condition.anyHolds, Bool.or_false, inductionHypothesis, value]
  | conjunction first inductionHypothesis => exact inductionHypothesis
  | and front last frontHypothesis lastHypothesis =>
    simp only [tree, Condition.holds, Condition.allHold, Bool.and_true, frontHypothesis,
      lastHypothesis, value]
  | disjunction first inductionHypothesis => exact inductionHypothesis
  | or front last frontHypothesis lastHypothesis =>
    simp only [tree, Condition.holds, Condition.anyHolds, Bool.or_false, frontHypothesis,
      lastHypothesis, value]

theorem tokens_ne_nil {stratum : Stratum} (derivation : Derivation stratum) :
    derivation.tokens ≠ [] := by
  induction derivation with
  | adjacency first inductionHypothesis => exact inductionHypothesis
  | conjunction first inductionHypothesis => exact inductionHypothesis
  | disjunction first inductionHypothesis => exact inductionHypothesis
  | _ => simp [tokens]

/-- A primary under a number of negations. -/
def negated : Nat → Derivation .primary → Derivation .primary
  | 0, primary => primary
  | count + 1, primary => .not (negated count primary)

theorem tokens_negated (count : Nat) (primary : Derivation .primary) :
    (negated count primary).tokens = List.replicate count .not ++ primary.tokens := by
  induction count with
  | zero => rfl
  | succ count inductionHypothesis => exact congrArg (Token.not :: ·) inductionHypothesis

theorem tree_negated (count : Nat) (primary : Derivation .primary) :
    (negated count primary).tree = negate count primary.tree := by
  induction count with
  | zero => rfl
  | succ count inductionHypothesis => exact congrArg Condition.not inductionHypothesis

end Derivation

/-! ### Unfinished derivations -/

/-- What is derived at one depth, before its last adjacency. -/
structure Stage where
  /-- The disjunction up to the last `||`. -/
  alternatives : Option (Derivation .disjunction)
  /-- The conjunction up to the last `&&`, behind that `||`. -/
  conjuncts : Option (Derivation .conjunction)

namespace Stage

/-- Nothing is derived at this depth. -/
def start : Stage := ⟨none, none⟩

/-- The tokens of a derivation and the operator that goes on from it, if there is one. -/
def tokensBefore {stratum : Stratum} (operator : Token) : Option (Derivation stratum) → List Token
  | none => []
  | some front => front.tokens ++ [operator]

theorem tokensBefore_some {stratum : Stratum} (operator : Token) (front : Derivation stratum) :
    tokensBefore operator (some front) = front.tokens ++ [operator] := rfl

/-- The tokens that were read at this depth. -/
def tokens (stage : Stage) : List Token :=
  tokensBefore .or stage.alternatives ++ tokensBefore .and stage.conjuncts

/-- What the reader keeps of this depth. -/
def level (stage : Stage) : Level :=
  ⟨stage.alternatives.map Derivation.tree, stage.conjuncts.map Derivation.tree⟩

/-- The conjunction that a last adjacency completes. -/
def conjoin (stage : Stage) (last : Derivation .adjacency) : Derivation .conjunction :=
  match stage.conjuncts with
  | none => .conjunction last
  | some front => .and front last

/-- The disjunction of the whole depth, once its last adjacency is known. -/
def total (stage : Stage) (last : Derivation .adjacency) : Derivation .disjunction :=
  match stage.alternatives with
  | none => .disjunction (stage.conjoin last)
  | some front => .or front (stage.conjoin last)

variable (stage : Stage) (last : Derivation .adjacency)

theorem tokens_conjoin :
    (stage.conjoin last).tokens = tokensBefore .and stage.conjuncts ++ last.tokens := by
  unfold conjoin
  cases stage.conjuncts with
  | none => rfl
  | some front =>
    rw [tokensBefore_some, List.append_assoc]
    rfl

theorem tokens_total : (stage.total last).tokens = stage.tokens ++ last.tokens := by
  unfold total tokens
  cases stage.alternatives with
  | none =>
    rw [Derivation.tokens, tokens_conjoin]
    rfl
  | some front =>
    rw [Derivation.tokens, tokens_conjoin, tokensBefore_some, List.append_assoc, List.append_assoc]
    rfl

/-- The depth behind a last adjacency and `&&`. -/
def afterAnd : Stage := ⟨stage.alternatives, some (stage.conjoin last)⟩

/-- The depth behind a last adjacency and `||`. -/
def afterOr : Stage := ⟨some (stage.total last), none⟩

theorem tokens_afterAnd : (stage.afterAnd last).tokens = stage.tokens ++ last.tokens ++ [.and] := by
  unfold afterAnd tokens
  rw [tokensBefore_some, tokens_conjoin]
  simp only [List.append_assoc]

theorem tokens_afterOr : (stage.afterOr last).tokens = stage.tokens ++ last.tokens ++ [.or] := by
  rw [← tokens_total]
  exact List.append_nil _

theorem tree_conjoin : (stage.conjoin last).tree = stage.level.conjoin last.tree := by
  unfold conjoin Level.conjoin level
  cases stage.conjuncts <;> rfl

theorem tree_total : (stage.total last).tree = stage.level.total last.tree := by
  unfold total Level.total
  rw [← tree_conjoin]
  unfold level
  cases stage.alternatives <;> rfl

theorem level_afterAnd : (stage.afterAnd last).level = stage.level.afterAnd last.tree := by
  unfold Level.afterAnd
  rw [← tree_conjoin]
  rfl

theorem level_afterOr : (stage.afterOr last).level = stage.level.afterOr last.tree := by
  unfold Level.afterOr
  rw [← tree_total]
  rfl

end Stage

/-- A depth that waits for its parenthesis to be closed. -/
structure Pending where
  /-- Where the parenthesis stands. -/
  position : Nat
  stage : Stage
  /-- The negations that stand before the parenthesis. -/
  negations : Nat

namespace Pending

/-- What the reader keeps of the depth. -/
def frame (pending : Pending) : Frame :=
  ⟨pending.position, pending.stage.level, pending.negations⟩

/-- The tokens of depths, the innermost of which comes first, with their parentheses. -/
def tokensOf : List Pending → List Token
  | [] => []
  | pending :: outer =>
    tokensOf outer ++ pending.stage.tokens ++ List.replicate pending.negations .not ++ [.openParen]

end Pending

/-- What tokens read so far derive. -/
inductive Progress where
  /-- A primary must follow, under some negations. -/
  | wanting (stage : Stage) (negations : Nat) (depths : List Pending)
  /-- An adjacency is complete, which may still grow. -/
  | holding (stage : Stage) (last : Derivation .adjacency) (depths : List Pending)

namespace Progress

/-- Before the first token. -/
def start : Progress := .wanting .start 0 []

/-- The tokens that were read. -/
def tokens : Progress → List Token
  | .wanting stage negations depths =>
    Pending.tokensOf depths ++ stage.tokens ++ List.replicate negations .not
  | .holding stage last depths => Pending.tokensOf depths ++ stage.tokens ++ last.tokens

/-- The state of the reader. -/
def state : Progress → State
  | .wanting stage negations depths =>
    .wanting stage.level negations (depths.map Pending.frame)
  | .holding stage last depths => .holding stage.level last.tree (depths.map Pending.frame)

end Progress

end Foldback.Rule
