/-
Reading a condition from tokens. The language has three levels: a disjunction
of conjunctions, each member of which is a primary condition followed by any
number of atoms (atoms that stand side by side are alternatives). A primary
condition is an atom, a negated primary condition, or a condition in
parentheses.

The reader is a machine with one step per token. Its state says whether an
operand or an operator comes next, what is complete at the present depth, and
which parentheses are open. A token that no valid rule has at its place stops
the machine there, so that an error always names the first wrong token.
-/

import Foldback.Rule.Token
import Foldback.Rule.Condition

namespace Foldback.Rule

/-- Why a rule text has no meaning. -/
inductive Fault where
  /-- No token starts with the character. -/
  | badCharacter (bad : BadCharacter)
  /-- There are no tokens at all. -/
  | empty
  /-- The text ends where an operand should follow. -/
  | unexpectedEnd
  /-- A token stands where it cannot be used. -/
  | unexpectedToken (token : Token) (position : Nat)
  /-- An opening parenthesis is never closed. -/
  | unmatchedOpen (position : Nat)
  /-- A closing parenthesis has no partner. -/
  | unmatchedClose (position : Nat)
  deriving DecidableEq, Repr

/-- What is complete at one parenthesis depth. -/
structure Level where
  /-- The alternatives up to the last `||`. -/
  alternatives : Option Condition
  /-- The conjunction up to the last `&&`, after that `||`. -/
  conjuncts : Option Condition
  deriving DecidableEq, Repr

namespace Level

/-- Nothing has been read at this depth. -/
def start : Level := ⟨none, none⟩

/-- The conjunction that a last member completes. -/
def conjoin (level : Level) (value : Condition) : Condition :=
  match level.conjuncts with
  | none => value
  | some left => .all [left, value]

/-- The whole condition of the depth, once its last member is known. -/
def total (level : Level) (value : Condition) : Condition :=
  match level.alternatives with
  | none => level.conjoin value
  | some left => .any [left, level.conjoin value]

/-- The depth after `value &&`. -/
def afterAnd (level : Level) (value : Condition) : Level :=
  ⟨level.alternatives, some (level.conjoin value)⟩

/-- The depth after `value ||`. -/
def afterOr (level : Level) (value : Condition) : Level :=
  ⟨some (level.total value), none⟩

end Level

/-- An open parenthesis: where it stands, what was complete around it, and how
many negation marks stand before it. -/
structure Frame where
  position : Nat
  level : Level
  negations : Nat
  deriving DecidableEq, Repr

/-- The state of the reader. -/
inductive State where
  /-- An operand must follow, after some negation marks. -/
  | wanting (level : Level) (negations : Nat) (frames : List Frame)
  /-- An operand is complete. -/
  | holding (level : Level) (value : Condition) (frames : List Frame)
  deriving DecidableEq, Repr

/-- A condition under a number of negations. -/
def negate : Nat → Condition → Condition
  | 0, value => value
  | count + 1, value => .not (negate count value)

/-- The fault of a token that cannot stand where it does. -/
def misplaced (placed : Placed) : Fault :=
  match placed.token with
  | .closeParen => .unmatchedClose placed.position
  | token => .unexpectedToken token placed.position

namespace State

/-- Before the first token. -/
def start : State := .wanting .start 0 []

/-- Takes one token. -/
def step : State → Placed → Except Fault State
  | .wanting level negations frames, placed =>
    match placed.token with
    | .atom name => .ok (.holding level (negate negations (.atom name)) frames)
    | .not => .ok (.wanting level (negations + 1) frames)
    | .openParen => .ok (.wanting .start 0 (⟨placed.position, level, negations⟩ :: frames))
    | .and | .or | .closeParen => .error (misplaced placed)
  | .holding level value frames, placed =>
    match placed.token, frames with
    | .atom name, _ => .ok (.holding level (.any [value, .atom name]) frames)
    | .and, _ => .ok (.wanting (level.afterAnd value) 0 frames)
    | .or, _ => .ok (.wanting (level.afterOr value) 0 frames)
    | .closeParen, frame :: outer =>
      .ok (.holding frame.level (negate frame.negations (level.total value)) outer)
    | .closeParen, [] | .not, _ | .openParen, _ => .error (misplaced placed)

/-- The condition that is complete at the end of the tokens. -/
def finish : State → Except Fault Condition
  | .wanting _ _ _ => .error .unexpectedEnd
  | .holding level value [] => .ok (level.total value)
  | .holding _ _ (frame :: _) => .error (.unmatchedOpen frame.position)

/-- Takes the tokens of a list one after the other. -/
def run : State → List Placed → Except Fault State
  | state, [] => .ok state
  | state, placed :: rest =>
    match state.step placed with
    | .error fault => .error fault
    | .ok next => next.run rest

end State

/-- The condition that a token list denotes, as it was written. -/
def readCondition (tokens : List Placed) : Except Fault Condition :=
  if tokens.isEmpty then .error .empty
  else (State.start.run tokens).bind State.finish

/-! ### One step at a time -/

theorem State.run_nil (state : State) : state.run [] = .ok state := by
  rw [State.run]

theorem State.run_cons (state : State) (placed : Placed) (rest : List Placed) :
    state.run (placed :: rest) = (state.step placed).bind fun next => next.run rest := by
  rw [State.run]
  cases state.step placed <;> rfl

theorem State.run_append (state : State) (first second : List Placed) :
    state.run (first ++ second) = (state.run first).bind fun next => next.run second := by
  induction first generalizing state with
  | nil => rfl
  | cons placed rest inductionHypothesis =>
    rw [List.cons_append, run_cons, run_cons]
    cases state.step placed with
    | error fault => rfl
    | ok next => exact inductionHypothesis next

end Foldback.Rule
