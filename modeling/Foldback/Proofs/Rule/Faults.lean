/-
What is wrong with a text that is cut into tokens and still is no rule.

The reader never takes a token too many: the tokens that it has taken are always
those with which some rule begins, since an operand and the parentheses that are
missing complete them. So it stops exactly at the first token with which no rule
goes on, and blames that one. If it stops nowhere, the text ends too early: an
operand is missing, or the innermost open parenthesis has no partner. Which
parenthesis that is can be told from the tokens alone, and the frames of the
reader are followed with this in view.
-/

import Foldback.Traced
import Foldback.Proofs.Rule.Reading
import Foldback.Proofs.Rule.Scanning

namespace Foldback.Rule

/-! ### Tokens with which a rule begins -/

/-- The tokens are those of a rule text. -/
def OfRule (tokens : List Token) : Prop :=
  ∃ text rule placed, parse text = .ok rule ∧ scan text = .ok placed ∧
    placed.map (·.token) = tokens

/-- Some rule begins with the tokens. -/
def BeginsRule (tokens : List Token) : Prop :=
  ∃ whole, OfRule whole ∧ tokens <+: whole

/-- The text of a token and a space are read as the token, whatever follows. -/
theorem symbol_spaced {token : Token} (isName : ∀ name, token = .atom name → IsName name) :
    Symbol (token.text.toList ++ [' ']) [token] := by
  have space : Symbol [' '] [] := symbol_blank rfl
  cases token with
  | atom name => exact (word_name (isName name rfl)).append_symbol space rfl rfl
  | or => exact symbol_or.append space
  | and => exact symbol_and.append space
  | not => exact Symbol.append (symbol_single rfl) space
  | openParen => exact Symbol.append (symbol_single rfl) space
  | closeParen => exact Symbol.append (symbol_single rfl) space

theorem spells_spaced {tokens : List Token} (named : ∀ name, .atom name ∈ tokens → IsName name) :
    Spells (tokens.flatMap fun token => token.text.toList ++ [' ']) tokens := by
  induction tokens with
  | nil => exact spells_nil
  | cons token rest inductionHypothesis =>
    have here := symbol_spaced fun name (same : token = .atom name) =>
      named name (same ▸ List.mem_cons_self)
    exact here _ _ (inductionHypothesis fun name inside => named name (List.mem_cons_of_mem _ inside))

/-- Derived tokens are those of a rule text, if their atoms are names. -/
theorem Derivation.ofRule (derivation : Derivation .disjunction)
    (named : ∀ name, .atom name ∈ derivation.tokens → IsName name) : OfRule derivation.tokens := by
  let characters := derivation.tokens.flatMap fun token => token.text.toList ++ [' ']
  obtain ⟨placed, scans, spelled⟩ := spells_spaced named 0
  have scanned : scan (String.ofList characters) = .ok placed := by
    rw [scan_eq_ok_iff, String.toList_ofList]
    exact scans
  exact ⟨_, _, placed, parse_eq_ok_iff.mpr ⟨placed, scanned, derivation, spelled.symm, rfl⟩,
    scanned, spelled⟩

/-! ### What the reader has taken can be completed -/

/-- The open parentheses, the innermost first. -/
def State.frames : State → List Frame
  | .wanting _ _ frames | .holding _ _ frames => frames

/-- An operand and the parentheses that are missing then. -/
def State.completion (state : State) : List Placed :=
  ⟨.atom "a", 0⟩ :: state.frames.map fun _ => ⟨.closeParen, 0⟩

theorem exists_run_closing (level : Level) (value : Condition) (frames : List Frame) :
    ∃ outermost whole, (State.holding level value frames).run
      (frames.map fun _ => ⟨.closeParen, 0⟩) = .ok (.holding outermost whole []) := by
  induction frames generalizing level value with
  | nil => exact ⟨level, value, rfl⟩
  | cons frame outer inductionHypothesis =>
    exact inductionHypothesis frame.level (negate frame.negations (level.total value))

theorem exists_run_completion (state : State) :
    ∃ level value, state.run state.completion = .ok (.holding level value []) := by
  cases state with
  | wanting level negations frames =>
    exact exists_run_closing level (negate negations (.atom "a")) frames
  | holding level value frames =>
    exact exists_run_closing level (.any [value, .atom "a"]) frames

theorem exists_derivation_of_run {placed : List Placed} {state : State}
    (runs : State.start.run placed = .ok state) :
    ∃ derivation : Derivation .disjunction,
      derivation.tokens = (placed ++ state.completion).map (·.token) := by
  obtain ⟨level, value, completes⟩ := exists_run_completion state
  have reads : readCondition (placed ++ state.completion) = .ok (level.total value) := by
    unfold readCondition
    rw [if_neg (by simp [State.completion]), run_append_of_run runs, completes]
    rfl
  obtain ⟨derivation, spelled, -⟩ := readCondition_eq_ok_iff.mp reads
  exact ⟨derivation, spelled⟩

theorem run_of_prefix {derivation : Derivation .disjunction} {placed : List Placed}
    (begins : placed.map (·.token) <+: derivation.tokens) :
    ∃ state, State.start.run placed = .ok state := by
  obtain ⟨rest, whole⟩ := begins
  let behind : List Placed := rest.map fun token => ⟨token, 0⟩
  have spelled : (placed ++ behind).map (·.token) = derivation.tokens := by
    rw [← whole, List.map_append, List.map_map]
    exact congrArg _ (List.map_id rest)
  obtain ⟨level, last, runs, -⟩ := reads_tokens derivation spelled []
  rw [State.run_append] at runs
  obtain ⟨state, taken, -⟩ := exists_of_bind_eq_ok runs
  exact ⟨state, taken⟩

/-- The reader takes exactly the tokens with which some rule begins. -/
theorem beginsRule_iff {placed : List Placed} (named : Named placed) :
    BeginsRule (placed.map (·.token)) ↔ ∃ state, State.start.run placed = .ok state := by
  constructor
  · rintro ⟨whole, ⟨text, rule, others, parses, scanned, rfl⟩, begins⟩
    obtain ⟨again, scannedAgain, derivation, spelled, -⟩ := parse_eq_ok_iff.mp parses
    cases scanned.symm.trans scannedAgain
    rw [← spelled] at begins
    exact run_of_prefix begins
  · rintro ⟨state, runs⟩
    obtain ⟨derivation, spelled⟩ := exists_derivation_of_run runs
    refine ⟨derivation.tokens, derivation.ofRule fun name inside => ?_, ?_⟩
    · rw [spelled, List.map_append, List.mem_append] at inside
      rcases inside with before | completing
      · obtain ⟨⟨_, position⟩, listed, rfl⟩ := List.mem_map.mp before
        exact named name position listed
      · have operand : name = "a" := by simpa [State.completion] using completing
        rw [operand]
        exact ⟨by decide, List.all_eq_true.mp rfl⟩
    · rw [spelled, List.map_append]
      exact List.prefix_append _ _

/-! ### The first wrong token -/

theorem exists_wrong_of_run {state : State} {placed : List Placed} {fault : Fault}
    (stops : state.run placed = .error fault) :
    ∃ before wrong behind middle, placed = before ++ wrong :: behind ∧
      state.run before = .ok middle ∧ middle.step wrong = .error fault := by
  induction placed generalizing state with
  | nil => cases stops
  | cons first rest inductionHypothesis =>
    rw [State.run_cons] at stops
    cases steps : state.step first with
    | error reason =>
      rw [steps] at stops
      cases stops
      exact ⟨[], first, rest, state, rfl, rfl, steps⟩
    | ok next =>
      rw [steps] at stops
      obtain ⟨before, wrong, behind, middle, rfl, runs, refuses⟩ := inductionHypothesis stops
      refine ⟨first :: before, wrong, behind, middle, rfl, ?_, refuses⟩
      rw [State.run_cons, steps]
      exact runs

/-- A token that the reader does not take is blamed itself. -/
theorem fault_of_step {state : State} {wrong : Placed} {fault : Fault}
    (refuses : state.step wrong = .error fault) : fault = misplaced wrong := by
  obtain ⟨token, position⟩ := wrong
  cases state with
  | wanting level negations frames => cases token <;> cases refuses <;> rfl
  | holding level value frames =>
    cases token with
    | closeParen =>
      cases frames with
      | nil =>
        cases refuses
        rfl
      | cons frame outer => cases refuses
    | _ => cases refuses <;> rfl

theorem misplaced_eq (wrong : Placed) :
    misplaced wrong = if wrong.token = .closeParen then .unmatchedClose wrong.position
      else .unexpectedToken wrong.token wrong.position := by
  obtain ⟨token, position⟩ := wrong
  cases token <;> rfl

/-! ### What a step does -/

/-- Whether an operand must follow the token. -/
def Token.asksOperand : Token → Bool
  | .or | .and | .not | .openParen => true
  | .atom _ | .closeParen => false

/-- Whether an operand must follow. -/
def State.asksOperand : State → Bool
  | .wanting _ _ _ => true
  | .holding _ _ _ => false

/-- How a token at a position moves the open parentheses. -/
inductive Moves (position : Nat) : Token → List Frame → List Frame → Prop where
  | opened (level : Level) (negations : Nat) (frames : List Frame) :
      Moves position .openParen frames (⟨position, level, negations⟩ :: frames)
  | closed (frame : Frame) (outer : List Frame) : Moves position .closeParen (frame :: outer) outer
  | kept {token : Token} (opens : token ≠ .openParen) (closes : token ≠ .closeParen)
      (frames : List Frame) : Moves position token frames frames

/-- Behind a token, the state asks for an operand if the token does. -/
theorem moves_of_step {state next : State} {placed : Placed}
    (steps : state.step placed = .ok next) :
    next.asksOperand = placed.token.asksOperand ∧
      Moves placed.position placed.token state.frames next.frames := by
  obtain ⟨token, position⟩ := placed
  cases state with
  | wanting level negations frames =>
    cases token with
    | openParen =>
      cases steps
      exact ⟨rfl, .opened level negations frames⟩
    | _ => cases steps <;> exact ⟨rfl, .kept (by simp) (by simp) frames⟩
  | holding level value frames =>
    cases token with
    | closeParen =>
      cases frames with
      | nil => cases steps
      | cons frame outer =>
        cases steps
        exact ⟨rfl, .closed frame outer⟩
    | _ => cases steps <;> exact ⟨rfl, .kept (by simp) (by simp) frames⟩

/-! ### Parentheses that are still open -/

/-- Every parenthesis among the tokens has its partner among them. -/
def Closed (tokens : List Token) : Prop :=
  tokens.count .openParen = tokens.count .closeParen ∧
    ∀ length, (tokens.take length).count .closeParen ≤ (tokens.take length).count .openParen

/-- At the position stands the innermost parenthesis that is still open: all that follow are closed. -/
def InnermostOpen (placed : List Placed) (position : Nat) : Prop :=
  ∃ before inside, placed = before ++ ⟨.openParen, position⟩ :: inside ∧
    Closed (inside.map (·.token))

theorem closed_nil : Closed [] :=
  ⟨rfl, fun length => by rw [List.take_nil]; exact Nat.le_refl 0⟩

theorem closed_singleton {token : Token} (opens : token ≠ .openParen)
    (closes : token ≠ .closeParen) : Closed [token] := by
  have neither : [token].count .openParen = 0 ∧ [token].count .closeParen = 0 := by
    simp [opens, closes]
  refine ⟨neither.1.trans neither.2.symm, fun length => ?_⟩
  have few := (List.take_sublist length [token]).count_le .closeParen
  omega

theorem Closed.append {first second : List Token} (firstClosed : Closed first)
    (secondClosed : Closed second) : Closed (first ++ second) := by
  refine ⟨?_, fun length => ?_⟩
  · rw [List.count_append, List.count_append, firstClosed.1, secondClosed.1]
  · rw [List.take_append, List.count_append, List.count_append]
    exact Nat.add_le_add (firstClosed.2 length) (secondClosed.2 _)

theorem Closed.group {inside : List Token} (closed : Closed inside) :
    Closed (.openParen :: (inside ++ [.closeParen])) := by
  refine ⟨by simp [closed.1], fun length => ?_⟩
  cases length with
  | zero => exact Nat.le_refl 0
  | succ length =>
    have last : ([Token.closeParen].take (length - inside.length)).count .closeParen ≤ 1 :=
      (List.take_sublist _ _).count_le _
    rw [List.take_succ_cons, List.take_append, List.count_cons_of_ne (by decide),
      List.count_cons_self, List.count_append, List.count_append]
    calc (inside.take length).count .closeParen +
          ([Token.closeParen].take (length - inside.length)).count .closeParen
        ≤ (inside.take length).count .openParen + 1 := Nat.add_le_add (closed.2 length) last
      _ ≤ _ := Nat.add_le_add_right (Nat.le_add_right _ _) 1

/-- The frames are those of the parentheses that the tokens leave open. -/
def Encloses : List Frame → List Placed → Prop
  | [], placed => Closed (placed.map (·.token))
  | frame :: outer, placed => ∃ before inside,
    placed = before ++ ⟨.openParen, frame.position⟩ :: inside ∧
      Closed (inside.map (·.token)) ∧ Encloses outer before

theorem encloses_start : Encloses State.start.frames [] :=
  closed_nil

theorem Encloses.append {frames : List Frame} {placed more : List Placed}
    (encloses : Encloses frames placed) (closed : Closed (more.map (·.token))) :
    Encloses frames (placed ++ more) := by
  cases frames with
  | nil =>
    unfold Encloses at encloses ⊢
    rw [List.map_append]
    exact encloses.append closed
  | cons frame outer =>
    obtain ⟨before, inside, rfl, insideClosed, around⟩ := encloses
    refine ⟨before, inside ++ more, List.append_assoc _ _ _, ?_, around⟩
    rw [List.map_append]
    exact insideClosed.append closed

/-- A token keeps the frames in line with the tokens. -/
theorem Encloses.move {frames later : List Frame} {before : List Placed} {placed : Placed}
    (encloses : Encloses frames before) (moves : Moves placed.position placed.token frames later) :
    Encloses later (before ++ [placed]) := by
  obtain ⟨token, position⟩ := placed
  cases moves with
  | opened level negations frames => exact ⟨before, [], rfl, closed_nil, encloses⟩
  | closed frame outer =>
    obtain ⟨around, inside, rfl, closed, enclosesOuter⟩ := encloses
    -- The group that ends here began at this depth, so nothing of it stays open.
    have group : Closed ((⟨.openParen, frame.position⟩ :: inside ++
        [⟨.closeParen, position⟩] : List Placed).map (·.token)) := by
      rw [List.map_append]
      exact closed.group
    rw [List.append_assoc]
    exact enclosesOuter.append group
  | kept opens closes frames => exact encloses.append (closed_singleton opens closes)

theorem encloses_of_run {state final : State} {before placed : List Placed}
    (encloses : Encloses state.frames before) (runs : state.run placed = .ok final) :
    Encloses final.frames (before ++ placed) := by
  induction placed generalizing state before with
  | nil =>
    cases runs
    rw [List.append_nil]
    exact encloses
  | cons first rest inductionHypothesis =>
    rw [State.run_cons] at runs
    cases steps : state.step first with
    | error fault =>
      rw [steps] at runs
      cases runs
    | ok next =>
      rw [steps] at runs
      rw [List.append_cons]
      exact inductionHypothesis (encloses.move (moves_of_step steps).2) runs

/-! ### Texts that end too early -/

/-- What is missing at the end, told from the last token. -/
theorem fault_of_finish {before : List Placed} {last : Placed} {final : State} {fault : Fault}
    (runs : State.start.run (before ++ [last]) = .ok final) (fails : final.finish = .error fault) :
    if last.token.asksOperand then fault = .unexpectedEnd
    else ∃ position, InnermostOpen (before ++ [last]) position ∧ fault = .unmatchedOpen position := by
  have encloses : Encloses final.frames ([] ++ (before ++ [last])) :=
    encloses_of_run encloses_start runs
  rw [State.run_append] at runs
  obtain ⟨middle, -, lastRuns⟩ := exists_of_bind_eq_ok runs
  rw [State.run_cons] at lastRuns
  obtain ⟨next, steps, ends⟩ := exists_of_bind_eq_ok lastRuns
  cases ends
  rw [← (moves_of_step steps).1]
  cases final with
  | wanting level negations frames =>
    cases fails
    rfl
  | holding level value frames =>
    cases frames with
    | nil => cases fails
    | cons frame outer =>
      cases fails
      obtain ⟨around, inside, whole, closed, -⟩ := encloses
      exact ⟨frame.position, ⟨around, inside, whole, closed⟩, rfl⟩

/-! ### The fault of a text -/

/-- What is wrong with tokens that are those of no rule. -/
structure Explains (placed : List Placed) (fault : Fault) : Prop where
  /-- There is nothing to read. -/
  nothing : placed = [] → fault = .empty
  /-- All tokens can be used, but more of them must follow. -/
  early : ∀ before last, placed = before ++ [last] → BeginsRule (placed.map (·.token)) →
    if last.token.asksOperand then fault = .unexpectedEnd
    else ∃ position, InnermostOpen placed position ∧ fault = .unmatchedOpen position
  /-- There is a first token with which no rule goes on. -/
  wrong : ¬BeginsRule (placed.map (·.token)) →
    ∃ before first behind, placed = before ++ first :: behind ∧
      BeginsRule (before.map (·.token)) ∧ ¬BeginsRule ((before ++ [first]).map (·.token)) ∧
      fault = if first.token = .closeParen then .unmatchedClose first.position
        else .unexpectedToken first.token first.position

theorem Named.of_subset {placed others : List Placed} (named : Named placed)
    (subset : others ⊆ placed) : Named others :=
  fun name position inside => named name position (subset inside)

/-- The reader stops at the first token with which no rule goes on. -/
theorem exists_first_wrong {placed : List Placed} {fault : Fault} (named : Named placed)
    (stops : State.start.run placed = .error fault) :
    ∃ before first behind, placed = before ++ first :: behind ∧
      BeginsRule (before.map (·.token)) ∧ ¬BeginsRule ((before ++ [first]).map (·.token)) ∧
      fault = if first.token = .closeParen then .unmatchedClose first.position
        else .unexpectedToken first.token first.position := by
  obtain ⟨before, first, behind, middle, rfl, taken, refuses⟩ := exists_wrong_of_run stops
  have namedBefore : Named before := named.of_subset (by simp)
  have namedUpTo : Named (before ++ [first]) := named.of_subset (by simp)
  refine ⟨before, first, behind, rfl, (beginsRule_iff namedBefore).mpr ⟨middle, taken⟩, ?_, ?_⟩
  · intro begins
    obtain ⟨state, goesOn⟩ := (beginsRule_iff namedUpTo).mp begins
    rw [run_append_of_run taken, State.run_cons, refuses] at goesOn
    cases goesOn
  · rw [fault_of_step refuses, misplaced_eq]

theorem explains_of_read {placed : List Placed} {fault : Fault} (named : Named placed)
    (fails : readCondition placed = .error fault) : Explains placed fault := by
  have stopped (reason : Fault) (stops : State.start.run placed = .error reason) :
      ¬BeginsRule (placed.map (·.token)) := by
    intro begins
    obtain ⟨state, goesOn⟩ := (beginsRule_iff named).mp begins
    cases stops.symm.trans goesOn
  unfold readCondition at fails
  constructor
  · rintro rfl
    cases fails
    rfl
  · rintro before last rfl begins
    rw [if_neg (by simp)] at fails
    cases runs : State.start.run (before ++ [last]) with
    | ok final =>
      rw [runs] at fails
      exact fault_of_finish runs fails
    | error reason => exact absurd begins (stopped reason runs)
  · intro noRule
    cases runs : State.start.run placed with
    | ok final => exact absurd ((beginsRule_iff named).mpr ⟨final, runs⟩) noRule
    | error reason =>
      have inhabited : ¬placed.isEmpty = true := by
        intro empty
        rw [List.isEmpty_iff.mp empty] at runs
        cases runs
      rw [if_neg inhabited, runs] at fails
      cases fails
      exact exists_first_wrong named runs

/-- A text that is cut into tokens and is no rule has tokens that are those of no rule, and its
fault is the one that they have. -/
theorem parse_explains {text : String} {placed : List Placed} {error : RuleError}
    (scanned : scan text = .ok placed) (fails : parse text = .error error) :
    error.text = text ∧ ¬OfRule (placed.map (·.token)) ∧ Explains placed error.fault := by
  have named : Named placed := (scan_eq_ok_iff.mp scanned).named
  have unread : ∃ fault, readCondition placed = .error fault ∧ error = ⟨text, fault⟩ := by
    unfold parse at fails
    rw [scanned] at fails
    dsimp only at fails
    split at fails
    · rename_i fault reads
      cases fails
      exact ⟨fault, reads, rfl⟩
    · cases fails
  obtain ⟨fault, reads, rfl⟩ := unread
  refine ⟨rfl, ?_, explains_of_read named reads⟩
  rintro ⟨other, rule, others, parses, scannedOther, same⟩
  obtain ⟨again, scannedAgain, derivation, spelled, -⟩ := parse_eq_ok_iff.mp parses
  cases scannedOther.symm.trans scannedAgain
  have read := readCondition_eq_ok_iff.mpr ⟨derivation, spelled.trans same, rfl⟩
  cases reads.symm.trans read

/-- The inner group is closed, so the outer parenthesis is the one without a partner. -/
theorem parse_explains_open_group :
    ∃ placed, scan "a && (b || !(c d)" = .ok placed ∧
      parse "a && (b || !(c d)" = .error ⟨"a && (b || !(c d)", .unmatchedOpen 5⟩ ∧
      ¬OfRule (placed.map (·.token)) ∧ BeginsRule (placed.map (·.token)) ∧
      InnermostOpen placed 5 := by
  have scanned : scan "a && (b || !(c d)" = .ok
      [⟨.atom "a", 0⟩, ⟨.and, 2⟩, ⟨.openParen, 5⟩, ⟨.atom "b", 6⟩, ⟨.or, 8⟩, ⟨.not, 11⟩,
        ⟨.openParen, 12⟩, ⟨.atom "c", 13⟩, ⟨.atom "d", 15⟩, ⟨.closeParen, 16⟩] := by cbv
  have fails : parse "a && (b || !(c d)" =
      .error ⟨"a && (b || !(c d)", .unmatchedOpen 5⟩ := by cbv
  obtain ⟨-, noRule, explains⟩ := parse_explains scanned fails
  have begins := (beginsRule_iff (scan_eq_ok_iff.mp scanned).named).mpr ⟨_, rfl⟩
  obtain ⟨position, innermost, same⟩ := explains.early [⟨.atom "a", 0⟩, ⟨.and, 2⟩, ⟨.openParen, 5⟩,
    ⟨.atom "b", 6⟩, ⟨.or, 8⟩, ⟨.not, 11⟩, ⟨.openParen, 12⟩, ⟨.atom "c", 13⟩, ⟨.atom "d", 15⟩]
    ⟨.closeParen, 16⟩ rfl begins
  cases same
  exact ⟨_, scanned, fails, noRule, begins, innermost⟩

end Foldback.Rule
