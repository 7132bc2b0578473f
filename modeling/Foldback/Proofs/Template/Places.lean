/-
Passes place by place. A step of a pass does two things that do not depend on
each other: the text and the open blocks say what the line shows, and a command
moves the blocks. A pass is then told by the blocks that are open before each
place of its source: every line shows what its text shows under these blocks.
-/

import Mathlib.Data.List.ReduceOption
import Foldback.Template.Pass
import Foldback.Proofs.Template.Escape

namespace Foldback

open Directive

/-! ### One step -/

/-- What a line shows under given blocks. -/
def BlockStack.shown (stack : BlockStack) (text : String) : Option String :=
  match parse text with
  | some .comment | some (.command _ _) => none
  | some (.escaped literal) => some literal
  | none => if stack.published then some (Placeholder.substitute stack.lookup text) else none

namespace Setup

/-- The blocks that are open after a line. Only a command moves them. -/
def advance (setup : Setup) (line : Nat) (stack : BlockStack) (text : String) :
    Except RenderError BlockStack :=
  match call? text with
  | some (name, arguments) => (setup.dispatch ⟨name, arguments, line, stack⟩).outcome
  | none => .ok stack

theorem advance_of_call {text name arguments : String}
    (called : call? text = some (name, arguments)) (setup : Setup) (line : Nat)
    (stack : BlockStack) :
    setup.advance line stack text = (setup.dispatch ⟨name, arguments, line, stack⟩).outcome := by
  rw [advance, called]

theorem advance_of_not_call {text : String} (uncalled : call? text = none) (setup : Setup)
    (line : Nat) (stack : BlockStack) : setup.advance line stack text = .ok stack := by
  rw [advance, uncalled]

theorem outcome_step (setup : Setup) (line : Nat) (stack : BlockStack) (text : String) :
    (setup.step line stack text).outcome =
      (setup.advance line stack text).map fun next => (stack.shown text, next) := by
  unfold step advance call? BlockStack.shown
  cases parse text with
  | none => cases published : stack.published <;> rfl
  | some directive =>
    cases directive with
    | comment => rfl
    | escaped literal => rfl
    | command name arguments =>
      simp only [Traced.outcome_bind, Traced.outcome_pure]
      cases (setup.dispatch ⟨name, arguments, line, stack⟩).outcome <;> rfl

theorem passFrom_cons_error {setup : Setup} {line : Nat} {stack : BlockStack} {text : String}
    {error : RenderError} (fails : setup.advance line stack text = .error error)
    (rest : List String) : setup.passFrom line stack (text :: rest) = ⟨[], .error error⟩ := by
  rw [passFrom, outcome_step, fails]
  rfl

theorem passFrom_cons_ok {setup : Setup} {line : Nat} {stack next : BlockStack} {text : String}
    (moves : setup.advance line stack text = .ok next) (rest : List String) :
    setup.passFrom line stack (text :: rest) =
      ⟨⟨stack.shown text, text⟩ :: (setup.passFrom (line + 1) next rest).lines,
        (setup.passFrom (line + 1) next rest).ending⟩ := by
  rw [passFrom, outcome_step, moves]
  rfl

/-- Setups that move the blocks alike at every line of a source give the same pass. -/
theorem passFrom_congr_advance {first second : Setup} {source : List String}
    (agree : ∀ text ∈ source, ∀ line stack,
      first.advance line stack text = second.advance line stack text)
    (line : Nat) (stack : BlockStack) :
    first.passFrom line stack source = second.passFrom line stack source := by
  induction source generalizing line stack with
  | nil => rfl
  | cons text rest inductionHypothesis =>
    obtain ⟨here, behind⟩ := List.forall_mem_cons.mp agree
    cases moved : first.advance line stack text with
    | error error =>
      rw [passFrom_cons_error moved, passFrom_cons_error ((here line stack).symm.trans moved)]
    | ok next =>
      rw [passFrom_cons_ok moved, passFrom_cons_ok ((here line stack).symm.trans moved),
        inductionHypothesis behind]

theorem ending_passFrom_cons (setup : Setup) (line : Nat) (stack : BlockStack) (text : String)
    (rest : List String) :
    (setup.passFrom line stack (text :: rest)).ending =
      (setup.advance line stack text).bind fun next =>
        (setup.passFrom (line + 1) next rest).ending := by
  cases moved : setup.advance line stack text with
  | error error =>
    rw [passFrom_cons_error moved]
    rfl
  | ok next =>
    rw [passFrom_cons_ok moved]
    rfl

/-- A pass without error has moved the blocks at every line of its source. -/
theorem exists_advance_of_ending {setup : Setup} {line : Nat} {stack final : BlockStack}
    {source : List String} (ends : (setup.passFrom line stack source).ending = .ok final)
    {text : String} (member : text ∈ source) :
    ∃ place before next, setup.advance place before text = .ok next := by
  induction source generalizing line stack with
  | nil => cases member
  | cons first rest inductionHypothesis =>
    rw [ending_passFrom_cons] at ends
    obtain ⟨next, moved, onward⟩ := exists_of_bind_eq_ok ends
    rcases List.mem_cons.mp member with rfl | behind
    · exact ⟨line, stack, next, moved⟩
    · exact inductionHypothesis onward behind

theorem ending_passFrom_append (setup : Setup) (line : Nat) (stack : BlockStack)
    (first second : List String) :
    (setup.passFrom line stack (first ++ second)).ending =
      (setup.passFrom line stack first).ending.bind fun next =>
        (setup.passFrom (line + first.length) next second).ending := by
  induction first generalizing line stack with
  | nil => rfl
  | cons text rest inductionHypothesis =>
    rw [List.cons_append, ending_passFrom_cons, ending_passFrom_cons]
    cases setup.advance line stack text with
    | error error => rfl
    | ok next =>
      rw [show line + (text :: rest).length = line + 1 + rest.length by
        rw [List.length_cons]; omega]
      exact inductionHypothesis (line + 1) next

theorem passFrom_append {setup : Setup} {line : Nat} {stack middle : BlockStack}
    {first : List String} (ends : (setup.passFrom line stack first).ending = .ok middle)
    (second : List String) :
    setup.passFrom line stack (first ++ second) =
      ⟨(setup.passFrom line stack first).lines ++
          (setup.passFrom (line + first.length) middle second).lines,
        (setup.passFrom (line + first.length) middle second).ending⟩ := by
  induction first generalizing line stack with
  | nil =>
    cases ends
    rfl
  | cons text rest inductionHypothesis =>
    rw [ending_passFrom_cons] at ends
    cases moved : setup.advance line stack text with
    | error error =>
      rw [moved] at ends
      cases ends
    | ok next =>
      rw [moved] at ends
      rw [List.cons_append, passFrom_cons_ok moved, passFrom_cons_ok moved,
        inductionHypothesis ends,
        show line + (text :: rest).length = line + 1 + rest.length by
          rw [List.length_cons]; omega]
      rfl

/-- A pass with an error goes on up to one line. -/
theorem exists_failure {setup : Setup} {line : Nat} {stack : BlockStack} {source : List String}
    {error : RenderError}
    (ends : (setup.passFrom line stack source).ending = .error error) :
    ∃ before text after reached, source = before ++ text :: after ∧
      (setup.passFrom line stack before).ending = .ok reached ∧
      setup.advance (line + before.length) reached text = .error error ∧
      (setup.passFrom line stack source).lines.map (·.source) = before := by
  induction source generalizing line stack with
  | nil => cases ends
  | cons text rest inductionHypothesis =>
    rw [ending_passFrom_cons] at ends
    cases moved : setup.advance line stack text with
    | error reason =>
      rw [moved] at ends
      cases ends
      refine ⟨[], text, rest, stack, rfl, rfl, moved, ?_⟩
      rw [passFrom_cons_error moved]
      rfl
    | ok next =>
      rw [moved] at ends
      obtain ⟨before, failing, after, reached, rfl, passed, fails, shown⟩ :=
        inductionHypothesis ends
      refine ⟨text :: before, failing, after, reached, rfl, ?_, ?_, ?_⟩
      · rw [ending_passFrom_cons, moved]
        exact passed
      · rw [List.length_cons, Nat.add_comm before.length, ← Nat.add_assoc]
        exact fails
      · rw [passFrom_cons_ok moved, List.map_cons, shown]

/-! ### The blocks before a place -/

/-- The blocks that are open behind some lines, if the pass gets that far; else none are. -/
def openFrom (setup : Setup) (line : Nat) (stack : BlockStack) (source : List String) :
    BlockStack :=
  match (setup.passFrom line stack source).ending with
  | .ok final => final
  | .error _ => []

/-- The blocks that are open before the line at a place, counted from zero. -/
def openBefore (setup : Setup) (source : List String) (place : Nat) : BlockStack :=
  setup.openFrom 1 [] (source.take place)

theorem openFrom_nil (setup : Setup) (line : Nat) (stack : BlockStack) :
    setup.openFrom line stack [] = stack := rfl

theorem openFrom_cons {setup : Setup} {line : Nat} {stack next : BlockStack} {text : String}
    (moves : setup.advance line stack text = .ok next) (rest : List String) :
    setup.openFrom line stack (text :: rest) = setup.openFrom (line + 1) next rest := by
  unfold openFrom
  rw [ending_passFrom_cons, moves]
  rfl

/-- Every line of a pass without error shows what its text shows under the blocks before it. -/
theorem lines_passFrom {setup : Setup} {line : Nat} {stack final : BlockStack}
    {source : List String} (ends : (setup.passFrom line stack source).ending = .ok final) :
    (setup.passFrom line stack source).lines =
      source.mapIdx fun place text =>
        ⟨(setup.openFrom line stack (source.take place)).shown text, text⟩ := by
  induction source generalizing line stack with
  | nil => rfl
  | cons text rest inductionHypothesis =>
    rw [ending_passFrom_cons] at ends
    cases moved : setup.advance line stack text with
    | error error =>
      rw [moved] at ends
      cases ends
    | ok next =>
      rw [moved] at ends
      rw [passFrom_cons_ok moved, List.mapIdx_cons, inductionHypothesis ends]
      simp only [List.take_zero, openFrom_nil, List.take_succ_cons, openFrom_cons moved]

/-! ### Sources that render -/

/-- The pass over a source meets no error. -/
def Renders (setup : Setup) (source : List String) : Prop :=
  ∃ final, (setup.pass source).ending = .ok final

theorem render_eq_ok_iff {setup : Setup} {source texts : List String} :
    setup.render source = .ok texts ↔
      setup.Renders source ∧ (setup.pass source).visible = texts := by
  unfold render Pass.rendered Renders
  cases (setup.pass source).ending with
  | error error => simp
  | ok final => simp

/-- A source that renders has run each of its calls, and none of them failed. -/
theorem Renders.exists_dispatch {setup : Setup} {source : List String}
    (renders : setup.Renders source) {name arguments : String}
    (member : (name, arguments) ∈ calls source) :
    ∃ line stack next, (setup.dispatch ⟨name, arguments, line, stack⟩).outcome = .ok next := by
  obtain ⟨final, ends⟩ := renders
  obtain ⟨text, listed, called⟩ := List.mem_filterMap.mp member
  obtain ⟨line, stack, next, moved⟩ := exists_advance_of_ending ends listed
  rw [advance_of_call called] at moved
  exact ⟨line, stack, next, moved⟩

theorem Renders.take {setup : Setup} {source : List String} (renders : setup.Renders source)
    (place : Nat) : setup.Renders (source.take place) := by
  obtain ⟨final, ends⟩ := renders
  rw [← List.take_append_drop place source, pass, ending_passFrom_append] at ends
  cases taken : (setup.passFrom 1 [] (source.take place)).ending with
  | error error =>
    rw [taken] at ends
    cases ends
  | ok next => exact ⟨next, taken⟩

/-- The lines of a source that renders, told by the blocks before each place. -/
theorem lines_pass {setup : Setup} {source : List String} (renders : setup.Renders source) :
    (setup.pass source).lines =
      source.mapIdx fun place text => ⟨(setup.openBefore source place).shown text, text⟩ := by
  obtain ⟨final, ends⟩ := renders
  exact lines_passFrom ends

/-- What the lines of a source that renders show, told by the blocks before each place. -/
theorem outputs_pass {setup : Setup} {source : List String} (renders : setup.Renders source) :
    (setup.pass source).lines.map (·.output) =
      source.mapIdx fun place text => (setup.openBefore source place).shown text := by
  rw [lines_pass renders]
  refine List.ext_getElem? fun place => ?_
  rw [List.getElem?_map, List.getElem?_mapIdx, List.getElem?_mapIdx, Option.map_map]
  rfl

theorem visible_eq_reduceOption (pass : Pass) :
    pass.visible = (pass.lines.map (·.output)).reduceOption := by
  rw [Pass.visible, List.reduceOption, List.filterMap_map]
  rfl

/-- A line of a pass that is shown is neither a command nor a comment. -/
theorem isSilent_eq_false_of_shown {stack : BlockStack} {text shown : String}
    (visible : stack.shown text = some shown) : isSilent text = false := by
  unfold BlockStack.shown at visible
  unfold isSilent
  split at visible <;> simp_all

end Setup

end Foldback
