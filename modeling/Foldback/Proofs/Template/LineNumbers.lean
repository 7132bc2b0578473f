/-
Line numbers do not matter. A block remembers the line that opened it, and a
command knows the line it stands on, but both only go into errors and into the
next blocks. With the numbers forgotten, what a built-in command does depends on
its name, its arguments and the blocks around it, and whether it fails does too.

So the blocks of a pass are a function of the commands of its source: two
sources with the same commands have the same blocks at their ends, however many
other lines stand between the commands, and one of them renders exactly if the
other does.
-/

import Foldback.Proofs.Template.Commands
import Foldback.Proofs.Template.Places

namespace Foldback

open Directive

/-! ### Blocks without line numbers -/

namespace Block

/-- A block without the line it starts at. -/
def unnumbered (block : Block) : Block :=
  { block with startLine := 0 }

@[simp]
theorem kind_unnumbered (block : Block) : block.unnumbered.kind = block.kind := rfl

@[simp]
theorem branchTaken_unnumbered (block : Block) :
    block.unnumbered.branchTaken = block.branchTaken := rfl

@[simp]
theorem value?_unnumbered (block : Block) (name : String) :
    block.unnumbered.value? name = block.value? name := rfl

@[simp]
theorem unnumbered_conditional (published branchTaken : Bool) (line : Nat) :
    (conditional published branchTaken line).unnumbered = conditional published branchTaken 0 :=
  rfl

@[simp]
theorem unnumbered_binding (name value : String) (line : Nat) :
    (binding name value line).unnumbered = binding name value 0 := rfl

end Block

namespace BlockStack

/-- The open blocks without the lines they start at. -/
def unnumbered (stack : BlockStack) : BlockStack :=
  stack.map Block.unnumbered

@[simp]
theorem unnumbered_nil : unnumbered [] = [] := rfl

@[simp]
theorem unnumbered_cons (block : Block) (stack : BlockStack) :
    unnumbered (block :: stack) = block.unnumbered :: stack.unnumbered := rfl

@[simp]
theorem unnumbered_unnumbered (stack : BlockStack) :
    stack.unnumbered.unnumbered = stack.unnumbered := by
  unfold unnumbered
  rw [List.map_map]
  rfl

theorem published_unnumbered (stack : BlockStack) :
    stack.unnumbered.published = stack.published := by
  unfold published unnumbered
  rw [List.all_map]
  rfl

theorem lookup_unnumbered (stack : BlockStack) : stack.unnumbered.lookup = stack.lookup := by
  funext name
  unfold lookup unnumbered
  rw [List.findSome?_map]
  rfl

/-- What a line shows does not depend on line numbers. -/
theorem shown_unnumbered (stack : BlockStack) (text : String) :
    stack.unnumbered.shown text = stack.shown text := by
  unfold shown
  rw [published_unnumbered, lookup_unnumbered]

end BlockStack

/-! ### Commands -/

/-- What an outcome makes of the open blocks, line numbers aside; nothing if it is an error. -/
def effect (outcome : Except RenderError BlockStack) : Option BlockStack :=
  outcome.toOption.map BlockStack.unnumbered

@[simp]
theorem effect_ok (stack : BlockStack) : effect (.ok stack) = some stack.unnumbered := rfl

@[simp]
theorem effect_error (error : RenderError) : effect (.error error) = none := rfl

section Effects

variable (surroundings : Surroundings) (arguments : String) (line : Nat) (stack : BlockStack)

theorem effect_condition (active : Categories) (taken : Bool) :
    effect ((Call.condition active line arguments).map fun published =>
        .conditional published taken line :: stack) =
      effect ((Call.condition active 0 arguments).map fun published =>
        .conditional published taken 0 :: stack.unnumbered) := by
  unfold Call.condition
  cases Rule.parse arguments with
  | error error => rfl
  | ok rule => simp [Except.map]

/-- Leaving a block and going on has the same effect under other line numbers, if going on has. -/
theorem effect_left (name : String) (kind : BlockKind)
    {next nextUnnumbered : Block × BlockStack → Except RenderError BlockStack}
    (same : ∀ block outer, effect (next (block, outer)) =
      effect (nextUnnumbered (block.unnumbered, outer.unnumbered))) :
    effect ((Call.left line name kind stack).bind next) =
      effect ((Call.left 0 name kind stack.unnumbered).bind nextUnnumbered) := by
  cases stack with
  | nil => rfl
  | cons block outer =>
    by_cases fits : block.kind = kind
    · rw [BlockStack.unnumbered_cons, Call.left_cons_of_eq fits,
        Call.left_cons_of_eq (block.kind_unnumbered.trans fits)]
      exact same block outer
    · rw [BlockStack.unnumbered_cons, Call.left_cons_of_ne fits,
        Call.left_cons_of_ne fun stillFits => fits (block.kind_unnumbered.symm.trans stillFits)]
      rfl

theorem effect_blankCheck (name : String) {next nextUnnumbered : Except RenderError BlockStack}
    (same : effect next = effect nextUnnumbered) :
    effect ((Call.blankCheck line name arguments).bind fun _ => next) =
      effect ((Call.blankCheck 0 name arguments).bind fun _ => nextUnnumbered) := by
  unfold Call.blankCheck
  split
  · exact same
  · rfl

theorem effect_bound (name : String)
    {next nextUnnumbered : String × String → Except RenderError BlockStack}
    (same : ∀ pair, effect (next pair) = effect (nextUnnumbered pair)) :
    effect ((Call.bound line name arguments).bind next) =
      effect ((Call.bound 0 name arguments).bind nextUnnumbered) := by
  unfold Call.bound
  cases Call.binding? arguments with
  | none => rfl
  | some pair => exact same pair

theorem effect_closes (block : Block) :
    effect ((block.closes line arguments).map fun _ => stack) =
      effect ((block.unnumbered.closes 0 arguments).map fun _ => stack.unnumbered) := by
  unfold Block.closes
  by_cases unbound : (!(Text.trim arguments).isEmpty &&
      (block.value? (Text.trim arguments)).isNone) = true
  · rw [if_pos unbound, Block.value?_unnumbered, if_pos unbound]
    rfl
  · rw [if_neg unbound, Block.value?_unnumbered, if_neg unbound]
    simp [Except.map]

end Effects

/-- The commands of a table do the same on every line, line numbers aside. -/
def CommandTable.IgnoresLines (table : CommandTable) : Prop :=
  ∀ name command, table.find? name = some command →
    ∀ surroundings arguments line stack,
      effect (command.run surroundings ⟨name, arguments, line, stack⟩).outcome =
        effect (command.run surroundings ⟨name, arguments, 0, stack.unnumbered⟩).outcome

theorem effect_runConditional {name : String} (listed : name ∈ conditionalNames)
    (surroundings : Surroundings) (arguments : String) (line : Nat) (stack : BlockStack) :
    effect (runConditional surroundings ⟨name, arguments, line, stack⟩).outcome =
      effect (runConditional surroundings ⟨name, arguments, 0, stack.unnumbered⟩).outcome := by
  simp only [conditionalNames, List.mem_cons, List.not_mem_nil, or_false] at listed
  rcases listed with rfl | rfl | rfl | rfl
  · rw [outcome_if, outcome_if]
    exact effect_condition arguments line stack surroundings.categories false
  · rw [outcome_elif, outcome_elif]
    refine effect_left line stack _ _ fun block outer => ?_
    cases taken : block.branchTaken with
    | true => simp [taken, Except.map]
    | false =>
      simp only [Block.branchTaken_unnumbered, taken, Bool.false_eq_true, if_false]
      exact effect_condition arguments line outer surroundings.categories false
  · rw [outcome_else, outcome_else]
    refine effect_blankCheck arguments line _ (effect_left line stack _ _ fun block outer => ?_)
    simp
  · rw [outcome_endif, outcome_endif]
    refine effect_blankCheck arguments line _ (effect_left line stack _ _ fun block outer => ?_)
    simp

theorem effect_runBinding {name : String} (listed : name ∈ bindingNames)
    (surroundings : Surroundings) (arguments : String) (line : Nat) (stack : BlockStack) :
    effect (runBinding surroundings ⟨name, arguments, line, stack⟩).outcome =
      effect (runBinding surroundings ⟨name, arguments, 0, stack.unnumbered⟩).outcome := by
  simp only [bindingNames, List.mem_cons, List.not_mem_nil, or_false] at listed
  rcases listed with rfl | rfl | rfl
  · rw [outcome_with, outcome_with]
    refine effect_bound arguments line _ fun pair => ?_
    simp
  · rw [outcome_withfile, outcome_withfile]
    refine effect_bound arguments line _ fun (name, path) => ?_
    unfold Surroundings.value
    cases read : surroundings.firstLine path with
    | error error => simp [read, Except.map]
    | ok value => simp [read, Except.map]
  · rw [outcome_endwith, outcome_endwith]
    refine effect_left line stack _ _ fun block outer => ?_
    exact effect_closes arguments line outer block

theorem ignoresLines_builtin : CommandTable.builtin.IgnoresLines := by
  intro name command found surroundings arguments line stack
  rcases find?_builtin found with ⟨listed, rfl⟩ | ⟨listed, rfl⟩
  · exact effect_runConditional listed surroundings arguments line stack
  · exact effect_runBinding listed surroundings arguments line stack

/-! ### Passes -/

namespace Setup

/-- What a command makes of blocks without line numbers. -/
def follow (setup : Setup) (stack : BlockStack) (call : String × String) : Option BlockStack :=
  effect (setup.dispatch ⟨call.1, call.2, 0, stack⟩).outcome

/-- What the commands of a source make of blocks without line numbers, one after the other. -/
def followAll (setup : Setup) (stack : BlockStack) (calls : List (String × String)) :
    Option BlockStack :=
  calls.foldlM setup.follow stack

variable {setup : Setup}

theorem ignoresLines_of_builtin (builtin : setup.commands = .builtin) :
    setup.commands.IgnoresLines := by
  rw [builtin]
  exact ignoresLines_builtin

theorem effect_dispatch (ignores : setup.commands.IgnoresLines) (name arguments : String)
    (line : Nat) (stack : BlockStack) :
    effect (setup.dispatch ⟨name, arguments, line, stack⟩).outcome =
      setup.follow stack.unnumbered (name, arguments) := by
  unfold follow dispatch
  cases found : setup.commands.find? name with
  | none => rfl
  | some command =>
    simp only [Traced.outcome_bind, Traced.outcome_mark]
    exact ignores name command found setup.surroundings arguments line stack

/-- The blocks behind a source, line numbers aside, are what its commands make of the blocks
before it; the pass fails exactly if one of the commands does. -/
theorem effect_ending (ignores : setup.commands.IgnoresLines) (line : Nat) (stack : BlockStack)
    (source : List String) :
    effect (setup.passFrom line stack source).ending =
      setup.followAll stack.unnumbered (calls source) := by
  induction source generalizing line stack with
  | nil => rfl
  | cons text rest inductionHypothesis =>
    rw [ending_passFrom_cons]
    cases called : call? text with
    | none =>
      rw [advance_of_not_call called, calls, List.filterMap_cons_none called]
      exact inductionHypothesis (line + 1) stack
    | some call =>
      obtain ⟨name, arguments⟩ := call
      rw [advance_of_call called, calls, List.filterMap_cons_some called, followAll,
        List.foldlM_cons, ← effect_dispatch ignores name arguments line stack]
      cases (setup.dispatch ⟨name, arguments, line, stack⟩).outcome with
      | error error => rfl
      | ok next => exact inductionHypothesis (line + 1) next

/-- A source renders exactly if none of its commands fails. -/
theorem renders_iff (ignores : setup.commands.IgnoresLines) (source : List String) :
    setup.Renders source ↔ (setup.followAll [] (calls source)).isSome = true := by
  have ending := effect_ending ignores 1 [] source
  rw [BlockStack.unnumbered_nil] at ending
  unfold Renders pass
  rw [← ending]
  cases (setup.passFrom 1 [] source).ending with
  | error error => simp
  | ok final => simp

/-- What a line shows behind some lines that render is a matter of the commands among them. -/
theorem shown_openFrom (ignores : setup.commands.IgnoresLines) {source : List String}
    (renders : setup.Renders source) (text : String) :
    (setup.openFrom 1 [] source).shown text =
      ((setup.followAll [] (calls source)).getD []).shown text := by
  have ending := effect_ending ignores 1 [] source
  rw [BlockStack.unnumbered_nil] at ending
  obtain ⟨final, ends⟩ := renders
  rw [← ending]
  unfold openFrom
  rw [show (setup.passFrom 1 [] source).ending = .ok final from ends]
  exact (BlockStack.shown_unnumbered final text).symm

/-- What a line shows at a place is a matter of the commands before the place. -/
theorem shown_openBefore_eq (ignores : setup.commands.IgnoresLines) {first second : List String}
    (firstRenders : setup.Renders first) (secondRenders : setup.Renders second)
    {firstPlace secondPlace : Nat}
    (same : calls (first.take firstPlace) = calls (second.take secondPlace)) (text : String) :
    (setup.openBefore first firstPlace).shown text =
      (setup.openBefore second secondPlace).shown text := by
  unfold openBefore
  rw [shown_openFrom ignores (firstRenders.take firstPlace),
    shown_openFrom ignores (secondRenders.take secondPlace), same]

end Setup

end Foldback
