/-
What the built-in commands do to the open blocks, one statement for each. The
notes are forgotten; what remains is the error or the stack behind the command.
-/

import Foldback.Template.Builtin

namespace Foldback

/-! ### The parts of a command -/

namespace Call

/-- The value of a condition, or the error that names the line. -/
def condition (active : Categories) (line : Nat) (arguments : String) :
    Except RenderError Bool :=
  match Rule.parse arguments with
  | .error error => .error (.rule line error)
  | .ok rule => .ok (rule.holds active)

@[simp]
theorem outcome_evaluate (call : Call) (active : Categories) :
    (call.evaluate active).outcome = condition active call.line call.arguments := by
  unfold evaluate condition
  cases Rule.parse call.arguments <;> rfl

@[simp]
theorem outcome_enter (stack : BlockStack) (block : Block) :
    (enter stack block).outcome = .ok (block :: stack) := rfl

/-- The innermost block and those around it, or the error that the command meets. -/
def left (line : Nat) (name : String) (kind : BlockKind) (stack : BlockStack) :
    Except RenderError (Block × BlockStack) :=
  match stack with
  | [] => .error (.block (.notInBlock line name))
  | block :: outer =>
    if block.kind = kind then .ok (block, outer)
    else .error (.block (.kindMismatch line name kind block.kind block.startLine))

theorem left_cons_of_eq {block : Block} {kind : BlockKind} (same : block.kind = kind) (line : Nat)
    (name : String) (outer : BlockStack) :
    left line name kind (block :: outer) = .ok (block, outer) :=
  if_pos same

theorem left_cons_of_ne {block : Block} {kind : BlockKind} (other : block.kind ≠ kind) (line : Nat)
    (name : String) (outer : BlockStack) :
    left line name kind (block :: outer) =
      .error (.block (.kindMismatch line name kind block.kind block.startLine)) :=
  if_neg other

@[simp]
theorem outcome_leave (call : Call) (kind : BlockKind) :
    (call.leave kind).outcome = left call.line call.name kind call.stack := by
  unfold leave BlockStack.leave
  cases call.stack with
  | nil => rfl
  | cons block outer =>
    by_cases same : block.kind = kind
    · rw [left_cons_of_eq same]
      simp only [if_pos same]
      rfl
    · rw [left_cons_of_ne same]
      simp only [if_neg same]
      rfl

/-- The outcome of a check for blank arguments. -/
def blankCheck (line : Nat) (name arguments : String) : Except RenderError Unit :=
  if (Text.trimBlanks arguments.toList).isEmpty then .ok ()
  else .error (.block (.unexpectedArgument line name arguments))

@[simp]
theorem outcome_takesNoArgument (call : Call) :
    call.takesNoArgument.outcome = blankCheck call.line call.name call.arguments := by
  unfold takesNoArgument blankCheck
  split <;> rfl

/-- The name and the value of the arguments, or the error that names the line. -/
def bound (line : Nat) (name arguments : String) : Except RenderError (String × String) :=
  match binding? arguments with
  | none => .error (.block (.invalidBinding line name arguments))
  | some pair => .ok pair

@[simp]
theorem outcome_binding (call : Call) :
    call.binding.outcome = bound call.line call.name call.arguments := by
  unfold binding bound
  cases binding? call.arguments <;> rfl

end Call

/-! ### Conditionals -/

section Conditionals

variable (surroundings : Surroundings) (arguments : String) (line : Nat) (stack : BlockStack)

theorem outcome_if :
    (runConditional surroundings ⟨"if", arguments, line, stack⟩).outcome =
      (Call.condition surroundings.categories line arguments).map fun published =>
        .conditional published false line :: stack := by
  simp only [runConditional, Traced.outcome_bind, Call.outcome_evaluate, Call.outcome_enter]
  cases Call.condition surroundings.categories line arguments <;> rfl

/-- The condition of an `elif` is only read when no branch before it was taken. -/
theorem outcome_elif :
    (runConditional surroundings ⟨"elif", arguments, line, stack⟩).outcome =
      (Call.left line "elif" .conditional stack).bind fun (previous, outer) =>
        (if previous.branchTaken then .ok false
          else Call.condition surroundings.categories line arguments).map fun published =>
            .conditional published previous.branchTaken line :: outer := by
  simp only [runConditional, Traced.outcome_bind, Call.outcome_leave]
  refine congrArg (Except.bind _) (funext fun (previous, outer) => ?_)
  cases taken : previous.branchTaken with
  | true => rfl
  | false =>
    simp only [Bool.false_eq_true, if_false, Traced.outcome_bind, Call.outcome_evaluate,
      Call.outcome_enter]
    cases Call.condition surroundings.categories line arguments <;> rfl

theorem outcome_else :
    (runConditional surroundings ⟨"else", arguments, line, stack⟩).outcome =
      (Call.blankCheck line "else" arguments).bind fun _ =>
        (Call.left line "else" .conditional stack).bind fun (previous, outer) =>
          .ok (.conditional (!previous.branchTaken) previous.branchTaken line :: outer) := by
  simp only [runConditional, Traced.outcome_bind, Call.outcome_takesNoArgument,
    Call.outcome_leave, Call.outcome_enter]

theorem outcome_endif :
    (runConditional surroundings ⟨"endif", arguments, line, stack⟩).outcome =
      (Call.blankCheck line "endif" arguments).bind fun _ =>
        (Call.left line "endif" .conditional stack).bind fun (_, outer) => .ok outer := by
  simp only [runConditional, Traced.outcome_bind, Call.outcome_takesNoArgument,
    Call.outcome_leave, Traced.outcome_pure]

end Conditionals

/-! ### Bindings -/

section Bindings

variable (surroundings : Surroundings) (arguments : String) (line : Nat) (stack : BlockStack)

theorem outcome_with :
    (runBinding surroundings ⟨"with", arguments, line, stack⟩).outcome =
      (Call.bound line "with" arguments).bind fun (name, value) =>
        .ok (.binding name value line :: stack) := by
  simp only [runBinding, Traced.outcome_bind, Call.outcome_binding, Call.outcome_enter]

/-- The value that a file gives, or the error that names the line. -/
def Surroundings.value (surroundings : Surroundings) (line : Nat) (path : String) :
    Except RenderError String :=
  match surroundings.firstLine path with
  | .error error => .error (.file line path error)
  | .ok value => .ok (Text.trim value)

theorem outcome_withfile :
    (runBinding surroundings ⟨"withfile", arguments, line, stack⟩).outcome =
      (Call.bound line "withfile" arguments).bind fun (name, path) =>
        (surroundings.value line path).map fun value => .binding name value line :: stack := by
  simp only [runBinding, Traced.outcome_bind, Call.outcome_binding]
  refine congrArg (Except.bind _) (funext fun (name, path) => ?_)
  simp only [Surroundings.value]
  cases surroundings.firstLine path <;> rfl

/-- A name behind `endwith` must be bound by the block that ends. -/
def Block.closes (block : Block) (line : Nat) (arguments : String) : Except RenderError Unit :=
  if !(Text.trim arguments).isEmpty && (block.value? (Text.trim arguments)).isNone then
    .error (.block (.unboundName line (Text.trim arguments) block.startLine))
  else .ok ()

theorem Block.closes_of_blank {arguments : String}
    (blank : (Text.trimBlanks arguments.toList).isEmpty = true) (block : Block) (line : Nat) :
    block.closes line arguments = .ok () := by
  have empty : Text.trim arguments = "" := by
    rw [Text.trim, List.isEmpty_iff.mp blank]
  rw [Block.closes, empty]
  exact if_neg Bool.false_ne_true

theorem outcome_endwith :
    (runBinding surroundings ⟨"endwith", arguments, line, stack⟩).outcome =
      (Call.left line "endwith" .binding stack).bind fun (block, outer) =>
        (block.closes line arguments).map fun _ => outer := by
  simp only [runBinding, Traced.outcome_bind, Call.outcome_leave]
  refine congrArg (Except.bind _) (funext fun (block, outer) => ?_)
  simp only [Block.closes]
  split <;> rfl

end Bindings

/-! ### The table -/

/-- A command of the built-in table answers to one of its own names. -/
theorem find?_builtin {name : String} {command : Command}
    (found : CommandTable.builtin.find? name = some command) :
    (name ∈ conditionalNames ∧ command = conditionalCommand) ∨
      (name ∈ bindingNames ∧ command = bindingCommand) := by
  obtain ⟨before, behind, whole, _⟩ := List.lookup_eq_some_iff.mp found
  have member : (name, command) ∈ CommandTable.builtin.entries := by
    rw [whole]
    exact List.mem_append_right before List.mem_cons_self
  rcases List.mem_append.mp member with conditional | binding
  · obtain ⟨other, listed, same⟩ := List.mem_map.mp conditional
    cases same
    exact .inl ⟨listed, rfl⟩
  · obtain ⟨other, listed, same⟩ := List.mem_map.mp binding
    cases same
    exact .inr ⟨listed, rfl⟩

end Foldback
