/-
The reader accepts exactly the grammar.

One way, every step of the reader extends what has been derived by the token it
takes, so whatever it accepts has a derivation. The other way, the reader takes
the tokens of a derivation from any state that can begin one, level by level,
and ends up holding the tree of the derivation. A rule text therefore has a
meaning exactly if it can be cut into tokens that the grammar derives, and its
condition is the flattened tree of any such derivation.
-/

import Mathlib
import Foldback.Rule.Basic
import Foldback.Proofs.Rule.Grammar
import Foldback.Proofs.Rule.NormalForm

namespace Foldback.Rule

/-! ### What is accepted can be derived -/

namespace Progress

/-- A step derives the token that it takes. -/
theorem exists_of_step {progress : Progress} {placed : Placed} {next : State}
    (steps : progress.state.step placed = .ok next) :
    ∃ later : Progress, later.state = next ∧ later.tokens = progress.tokens ++ [placed.token] := by
  obtain ⟨token, position⟩ := placed
  cases progress with
  | wanting stage negations depths =>
    cases token with
    | atom name =>
      cases steps
      refine ⟨.holding stage (.adjacency (.negated negations (.atom name))) depths, ?_, ?_⟩
      · rw [state, Derivation.tree, Derivation.tree_negated]
        rfl
      · rw [tokens, tokens, Derivation.tokens, Derivation.tokens_negated, List.append_assoc,
          List.append_assoc, List.append_assoc]
        rfl
    | not =>
      cases steps
      refine ⟨.wanting stage (negations + 1) depths, rfl, ?_⟩
      rw [tokens, tokens, List.replicate_succ', List.append_assoc _ _ [Token.not]]
    | openParen =>
      cases steps
      refine ⟨.wanting .start 0 (⟨position, stage, negations⟩ :: depths), rfl, ?_⟩
      exact (List.append_nil _).trans (List.append_nil _)
    | and => cases steps
    | or => cases steps
    | closeParen => cases steps
  | holding stage last depths =>
    cases token with
    | atom name =>
      cases steps
      exact ⟨.holding stage (.beside last name) depths, rfl, (List.append_assoc _ _ _).symm⟩
    | and =>
      cases steps
      refine ⟨.wanting (stage.afterAnd last) 0 depths, ?_, ?_⟩
      · rw [state, Stage.level_afterAnd]
      · rw [tokens, tokens, Stage.tokens_afterAnd]
        simp only [List.append_assoc, List.replicate_zero, List.append_nil]
    | or =>
      cases steps
      refine ⟨.wanting (stage.afterOr last) 0 depths, ?_, ?_⟩
      · rw [state, Stage.level_afterOr]
      · rw [tokens, tokens, Stage.tokens_afterOr]
        simp only [List.append_assoc, List.replicate_zero, List.append_nil]
    | closeParen =>
      cases depths with
      | nil => cases steps
      | cons pending outer =>
        cases steps
        refine ⟨.holding pending.stage
          (.adjacency (.negated pending.negations (.group (stage.total last)))) outer, ?_, ?_⟩
        · rw [state, Derivation.tree, Derivation.tree_negated, Derivation.tree, Stage.tree_total]
          rfl
        · rw [tokens, tokens, Derivation.tokens, Derivation.tokens_negated, Derivation.tokens,
            Stage.tokens_total, Pending.tokensOf]
          simp only [List.append_assoc, List.cons_append, List.nil_append]
    | not => cases steps
    | openParen => cases steps

/-- The tokens of a run are derived. -/
theorem exists_of_run {progress : Progress} {placed : List Placed} {final : State}
    (runs : progress.state.run placed = .ok final) :
    ∃ later : Progress, later.state = final ∧
      later.tokens = progress.tokens ++ placed.map (·.token) := by
  induction placed generalizing progress with
  | nil =>
    cases runs
    exact ⟨progress, rfl, (List.append_nil _).symm⟩
  | cons first rest inductionHypothesis =>
    rw [State.run_cons] at runs
    cases steps : progress.state.step first with
    | error fault =>
      rw [steps] at runs
      cases runs
    | ok next =>
      rw [steps] at runs
      obtain ⟨middle, rfl, middleTokens⟩ := exists_of_step steps
      obtain ⟨later, laterState, laterTokens⟩ := inductionHypothesis runs
      refine ⟨later, laterState, ?_⟩
      rw [laterTokens, middleTokens, List.append_assoc]
      rfl

/-- At the end, the whole is derived. -/
theorem exists_of_finish {progress : Progress} {condition : Condition}
    (finishes : progress.state.finish = .ok condition) :
    ∃ derivation : Derivation .disjunction,
      derivation.tokens = progress.tokens ∧ derivation.tree = condition := by
  cases progress with
  | wanting stage negations depths => cases finishes
  | holding stage last depths =>
    cases depths with
    | cons pending outer => cases finishes
    | nil =>
      cases finishes
      exact ⟨stage.total last, stage.tokens_total last, stage.tree_total last⟩

end Progress

/-! ### What can be derived is accepted -/

theorem negate_not (count : Nat) (condition : Condition) :
    negate count (.not condition) = negate (count + 1) condition := by
  induction count with
  | zero => rfl
  | succ count inductionHypothesis => exact congrArg Condition.not inductionHypothesis

/-- What the reader does with the tokens of a condition, wherever a condition of the level can
begin: it ends up holding the condition, or the last member of it. -/
def Reads : Stratum → Condition → List Placed → Prop
  | .primary, condition, placed => ∀ level negations frames,
    (State.wanting level negations frames).run placed =
      .ok (.holding level (negate negations condition) frames)
  | .adjacency, condition, placed => ∀ level frames,
    (State.wanting level 0 frames).run placed = .ok (.holding level condition frames)
  | .conjunction, condition, placed => ∀ alternatives frames, ∃ level last,
    (State.wanting ⟨alternatives, none⟩ 0 frames).run placed = .ok (.holding level last frames) ∧
      level.alternatives = alternatives ∧ level.conjoin last = condition
  | .disjunction, condition, placed => ∀ frames, ∃ level last,
    (State.wanting .start 0 frames).run placed = .ok (.holding level last frames) ∧
      level.total last = condition

theorem run_append_of_run {state middle : State} {first : List Placed}
    (runs : state.run first = .ok middle) (second : List Placed) :
    state.run (first ++ second) = middle.run second := by
  rw [State.run_append, runs]
  rfl

-- By induction on the derivation. Each level says only what the levels above it ask for: an
-- adjacency is held as it is, a conjunction up to its last member, a disjunction likewise.
theorem reads_tokens {stratum : Stratum} (derivation : Derivation stratum) {placed : List Placed}
    (spelled : placed.map (·.token) = derivation.tokens) :
    Reads stratum derivation.tree placed := by
  induction derivation generalizing placed with
  | atom name =>
    obtain ⟨⟨_, position⟩, rfl, rfl⟩ := List.map_eq_singleton_iff.mp spelled
    intro level negations frames
    rfl
  | not member inductionHypothesis =>
    obtain ⟨⟨_, position⟩, rest, rfl, rfl, restSpelled⟩ := List.map_eq_cons_iff.mp spelled
    intro level negations frames
    -- The reader counts negations from outside, the derivation nests them from inside.
    rw [Derivation.tree, negate_not]
    exact inductionHypothesis restSpelled level (negations + 1) frames
  | group inside inductionHypothesis =>
    obtain ⟨⟨_, position⟩, rest, rfl, rfl, restSpelled⟩ := List.map_eq_cons_iff.mp spelled
    obtain ⟨within, close, rfl, withinSpelled, closeSpelled⟩ := List.map_eq_append_iff.mp restSpelled
    obtain ⟨⟨_, closePosition⟩, rfl, rfl⟩ := List.map_eq_singleton_iff.mp closeSpelled
    intro level negations frames
    obtain ⟨innerLevel, last, runs, whole⟩ :=
      inductionHypothesis withinSpelled (⟨position, level, negations⟩ :: frames)
    rw [Derivation.tree, ← whole]
    exact run_append_of_run runs _
  | adjacency first inductionHypothesis =>
    intro level frames
    exact inductionHypothesis spelled level 0 frames
  | beside front name inductionHypothesis =>
    obtain ⟨first, second, rfl, firstSpelled, secondSpelled⟩ := List.map_eq_append_iff.mp spelled
    obtain ⟨⟨_, position⟩, rfl, rfl⟩ := List.map_eq_singleton_iff.mp secondSpelled
    intro level frames
    rw [run_append_of_run (inductionHypothesis firstSpelled level frames)]
    rfl
  | conjunction first inductionHypothesis =>
    intro alternatives frames
    exact ⟨_, _, inductionHypothesis spelled ⟨alternatives, none⟩ frames, rfl, rfl⟩
  | and front last frontHypothesis lastHypothesis =>
    obtain ⟨first, second, rfl, firstSpelled, secondSpelled⟩ := List.map_eq_append_iff.mp spelled
    obtain ⟨⟨_, position⟩, rest, rfl, rfl, restSpelled⟩ := List.map_eq_cons_iff.mp secondSpelled
    intro alternatives frames
    obtain ⟨level, member, runs, rfl, whole⟩ := frontHypothesis firstSpelled alternatives frames
    refine ⟨level.afterAnd member, last.tree, ?_, rfl, ?_⟩
    · rw [run_append_of_run runs]
      exact lastHypothesis restSpelled (level.afterAnd member) frames
    · rw [Derivation.tree, ← whole]
      rfl
  | disjunction first inductionHypothesis =>
    intro frames
    obtain ⟨level, last, runs, none_before, whole⟩ := inductionHypothesis spelled none frames
    refine ⟨level, last, runs, ?_⟩
    rw [Level.total, none_before]
    exact whole
  | or front last frontHypothesis lastHypothesis =>
    obtain ⟨first, second, rfl, firstSpelled, secondSpelled⟩ := List.map_eq_append_iff.mp spelled
    obtain ⟨⟨_, position⟩, rest, rfl, rfl, restSpelled⟩ := List.map_eq_cons_iff.mp secondSpelled
    intro frames
    obtain ⟨level, member, runs, frontWhole⟩ := frontHypothesis firstSpelled frames
    obtain ⟨lastLevel, lastMember, lastRuns, alternatives, lastWhole⟩ :=
      lastHypothesis restSpelled (some (level.total member)) frames
    refine ⟨lastLevel, lastMember, ?_, ?_⟩
    · rw [run_append_of_run runs]
      exact lastRuns
    · rw [Level.total, alternatives, lastWhole, frontWhole]
      rfl

/-! ### Conditions and rules -/

/-- The reader gives a condition exactly if the grammar derives the tokens with its tree. -/
theorem readCondition_eq_ok_iff {placed : List Placed} {condition : Condition} :
    readCondition placed = .ok condition ↔
      ∃ derivation : Derivation .disjunction,
        derivation.tokens = placed.map (·.token) ∧ derivation.tree = condition := by
  constructor
  · intro reads
    unfold readCondition at reads
    split at reads
    · cases reads
    · cases runs : State.start.run placed with
      | error fault =>
        rw [runs] at reads
        cases reads
      | ok final =>
        rw [runs] at reads
        have fromStart : Progress.start.state.run placed = .ok final := runs
        obtain ⟨progress, rfl, spelled⟩ := Progress.exists_of_run fromStart
        obtain ⟨derivation, whole, tree⟩ := Progress.exists_of_finish reads
        exact ⟨derivation, whole.trans spelled, tree⟩
  · rintro ⟨derivation, spelled, rfl⟩
    obtain ⟨level, last, runs, whole⟩ := reads_tokens derivation spelled.symm []
    have inhabited : ¬placed.isEmpty = true := by
      intro empty
      rw [List.isEmpty_iff.mp empty] at spelled
      exact derivation.tokens_ne_nil spelled
    unfold readCondition
    rw [if_neg inhabited, State.start, runs, ← whole]
    rfl

/-- A text is a rule exactly if the grammar derives its tokens; the condition is the flattened
tree of the derivation. -/
theorem parse_eq_ok_iff {text : String} {rule : Rule} :
    parse text = .ok rule ↔
      ∃ placed, scan text = .ok placed ∧ ∃ derivation : Derivation .disjunction,
        derivation.tokens = placed.map (·.token) ∧ rule = ⟨text, derivation.tree.simplify⟩ := by
  unfold parse
  cases scanned : scan text with
  | error bad => simp
  | ok placed =>
    simp only [Except.ok.injEq, exists_eq_left']
    cases reads : readCondition placed with
    | error fault =>
      constructor
      · intro same
        cases same
      · rintro ⟨derivation, spelled, _⟩
        rw [readCondition_eq_ok_iff.mpr ⟨derivation, spelled, rfl⟩] at reads
        cases reads
    | ok condition =>
      constructor
      · intro same
        cases same
        obtain ⟨derivation, spelled, rfl⟩ := readCondition_eq_ok_iff.mp reads
        exact ⟨derivation, spelled, rfl⟩
      · rintro ⟨derivation, spelled, rfl⟩
        rw [readCondition_eq_ok_iff.mpr ⟨derivation, spelled, rfl⟩] at reads
        cases reads
        rfl

/-- A text is a rule exactly if it can be cut into tokens and the grammar derives them. However
they are derived, the condition is the flattened tree of the derivation, and the rule holds for
the sets for which the derivation does. -/
theorem parse_derives (text : String) :
    ((∃ rule, parse text = .ok rule) ↔
      ∃ placed, scan text = .ok placed ∧
        ∃ derivation : Derivation .disjunction, derivation.tokens = placed.map (·.token)) ∧
    ∀ rule placed (derivation : Derivation .disjunction), parse text = .ok rule →
      scan text = .ok placed → derivation.tokens = placed.map (·.token) →
        rule.condition = derivation.tree.simplify ∧
          ∀ active, rule.holds active = derivation.value active := by
  refine ⟨⟨?_, ?_⟩, ?_⟩
  · rintro ⟨rule, parses⟩
    obtain ⟨placed, scanned, derivation, spelled, _⟩ := parse_eq_ok_iff.mp parses
    exact ⟨placed, scanned, derivation, spelled⟩
  · rintro ⟨placed, scanned, derivation, spelled⟩
    exact ⟨_, parse_eq_ok_iff.mpr ⟨placed, scanned, derivation, spelled, rfl⟩⟩
  · intro rule placed derivation parses scanned spelled
    rw [parse_eq_ok_iff.mpr ⟨placed, scanned, derivation, spelled, rfl⟩] at parses
    cases parses
    refine ⟨rfl, fun active => ?_⟩
    rw [holds, Condition.holds_simplify, Derivation.holds_tree]

/-- All three levels at once, with alternatives side by side and a negated group. -/
theorem parse_derives_negated_group :
    ∃ rule, parse "a b && !(c || d)" = .ok rule ∧
      rule.condition =
        .all [.any [.atom "a", .atom "b"], .not (.any [.atom "c", .atom "d"])] ∧
      ∀ active, rule.holds active =
        ((active.contains "a" || active.contains "b") &&
          !(active.contains "c" || active.contains "d")) := by
  have scanned : scan "a b && !(c || d)" = .ok
      [⟨.atom "a", 0⟩, ⟨.atom "b", 2⟩, ⟨.and, 4⟩, ⟨.not, 7⟩, ⟨.openParen, 8⟩, ⟨.atom "c", 9⟩,
        ⟨.or, 11⟩, ⟨.atom "d", 14⟩, ⟨.closeParen, 15⟩] := by cbv
  let group : Derivation .primary := .group (.or
    (.disjunction (.conjunction (.adjacency (.atom "c")))) (.conjunction (.adjacency (.atom "d"))))
  let whole : Derivation .disjunction := .disjunction (.and
    (.conjunction (.beside (.adjacency (.atom "a")) "b")) (.adjacency (.not group)))
  obtain ⟨accepted, meaning⟩ := parse_derives "a b && !(c || d)"
  obtain ⟨rule, parses⟩ := accepted.mpr ⟨_, scanned, whole, rfl⟩
  obtain ⟨condition, value⟩ := meaning rule _ whole parses scanned rfl
  exact ⟨rule, parses, condition, value⟩

end Foldback.Rule
