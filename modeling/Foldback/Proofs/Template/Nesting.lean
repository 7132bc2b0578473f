/-
A pass over the lines of a template shows what the template means, from any open
blocks, and leaves these blocks as they were.

What a block does to the lines inside it is what its branch or binding does to
the scope; so each item is passed by the blocks around it alone. Along a
conditional the invariant is that its block remembers whether some branch so far
held: the next one is then published exactly if it is the first that holds.
-/

import Mathlib
import Foldback.Proofs.Template.Commands
import Foldback.Proofs.Template.Outline
import Foldback.Proofs.Template.Places

namespace Foldback

open Text

variable {firstLine : String → Except FileError String}

/-! ### Scopes of blocks -/

namespace BlockStack

variable (stack : BlockStack)

theorem scope_conditional (published taken : Bool) (line : Nat) :
    scope (.conditional published taken line :: stack) = stack.scope.branch published := rfl

theorem scope_binding (name value : String) (line : Nat) :
    scope (.binding name value line :: stack) = stack.scope.bind name value := by
  refine congrArg (Scope.mk stack.published) (funext fun other => ?_)
  rw [lookup, List.findSome?_cons, Block.value?, Block.binding, List.lookup_cons, List.lookup_nil]
  by_cases same : other = name
  · rw [if_pos same, same, beq_self_eq_true]
  · rw [if_neg same, beq_false_of_ne same]
    rfl

theorem shown_plain {text : String} (reads : Directive.parse text = none) :
    stack.shown text = stack.scope.shown text := by
  unfold shown
  rw [reads]
  rfl

theorem shown_comment {text : String} (reads : Directive.parse text = some .comment) :
    stack.shown text = none := by
  unfold shown
  rw [reads]

theorem shown_escaped {text literal : String}
    (reads : Directive.parse text = some (.escaped literal)) :
    stack.shown text = some literal := by
  unfold shown
  rw [reads]

theorem shown_call {name : String} (call : CallLine name) : stack.shown call.text = none := by
  unfold shown
  rw [call.reads]

theorem shown_branch (opening : BranchLine) : stack.shown opening.text = none := by
  cases opening with
  | elif opening => exact stack.shown_call opening.toCallLine
  | otherwise opening => exact stack.shown_call opening.toCallLine

end BlockStack

/-! ### What the lines of blocks do -/

namespace Setup

section Commands

variable (active : Categories) (firstLine : String → Except FileError String) (line : Nat)

theorem advance_builtin {name : String} {command : Command}
    (found : CommandTable.builtin.find? name = some command) (call : CallLine name)
    (stack : BlockStack) :
    (builtin active firstLine).advance line stack call.text =
      (command.run (builtin active firstLine).surroundings
        ⟨name, call.arguments, line, stack⟩).outcome := by
  have called : Directive.call? call.text = some (name, call.arguments) := by
    rw [Directive.call?, call.reads]
  have builtinFound : (builtin active firstLine).commands.find? name = some command := found
  rw [advance_of_call called, dispatch, builtinFound]
  rfl

theorem advance_if (opening : ConditionLine "if") (stack : BlockStack) :
    (builtin active firstLine).advance line stack opening.text =
      .ok (.conditional (opening.rule.holds active) false line :: stack) := by
  have found : CommandTable.builtin.find? "if" = some conditionalCommand := rfl
  rw [advance_builtin active firstLine line found, conditionalCommand, outcome_if, Call.condition,
    opening.parses]
  rfl

theorem advance_elif (opening : ConditionLine "elif") {block : Block}
    (conditional : block.kind = .conditional) (stack : BlockStack) :
    (builtin active firstLine).advance line (block :: stack) opening.text =
      .ok (.conditional (!block.branchTaken && opening.rule.holds active) block.branchTaken line ::
        stack) := by
  have found : CommandTable.builtin.find? "elif" = some conditionalCommand := rfl
  rw [advance_builtin active firstLine line found, conditionalCommand, outcome_elif,
    Call.left_cons_of_eq conditional, Call.condition, opening.parses]
  show Except.map _ (if block.branchTaken = true then _ else _) = _
  cases block.branchTaken <;> rfl

theorem advance_else (opening : BareLine "else") {block : Block}
    (conditional : block.kind = .conditional) (stack : BlockStack) :
    (builtin active firstLine).advance line (block :: stack) opening.text =
      .ok (.conditional (!block.branchTaken) block.branchTaken line :: stack) := by
  have found : CommandTable.builtin.find? "else" = some conditionalCommand := rfl
  rw [advance_builtin active firstLine line found, conditionalCommand, outcome_else,
    Call.blankCheck, if_pos opening.blank, Call.left_cons_of_eq conditional]
  rfl

theorem advance_branch (opening : BranchLine) {block : Block}
    (conditional : block.kind = .conditional) (stack : BlockStack) :
    (builtin active firstLine).advance line (block :: stack) opening.text =
      .ok (.conditional (!block.branchTaken && opening.holds active) block.branchTaken line ::
        stack) := by
  cases opening with
  | elif opening => exact advance_elif active firstLine line opening conditional stack
  | otherwise opening =>
    rw [BranchLine.holds, Bool.and_true]
    exact advance_else active firstLine line opening conditional stack

theorem advance_endif (closing : BareLine "endif") {block : Block}
    (conditional : block.kind = .conditional) (stack : BlockStack) :
    (builtin active firstLine).advance line (block :: stack) closing.text = .ok stack := by
  have found : CommandTable.builtin.find? "endif" = some conditionalCommand := rfl
  rw [advance_builtin active firstLine line found, conditionalCommand, outcome_endif,
    Call.blankCheck, if_pos closing.blank, Call.left_cons_of_eq conditional]
  rfl

theorem advance_binding {command : String} (opening : BindingLine firstLine command)
    (stack : BlockStack) :
    (builtin active firstLine).advance line stack opening.text =
      .ok (.binding opening.name opening.value line :: stack) := by
  obtain ⟨call, name, value, binds⟩ := opening
  cases binds with
  | written pair =>
    have found : CommandTable.builtin.find? "with" = some bindingCommand := rfl
    rw [advance_builtin active firstLine line found, bindingCommand, outcome_with, Call.bound,
      pair]
    rfl
  | @filed _ _ path content pair read =>
    have found : CommandTable.builtin.find? "withfile" = some bindingCommand := rfl
    have value : (builtin active firstLine).surroundings.value line path =
        .ok (trim content) := by
      have same : (builtin active firstLine).surroundings.firstLine path = .ok content := read
      rw [Surroundings.value, same]
    rw [advance_builtin active firstLine line found, bindingCommand, outcome_withfile, Call.bound,
      pair]
    show Except.map _ (Surroundings.value _ line path) = _
    rw [value]
    rfl

theorem advance_endwith {name : String} (closing : EndwithLine name) (value : String) (start : Nat)
    (stack : BlockStack) :
    (builtin active firstLine).advance line (.binding name value start :: stack) closing.text =
      .ok stack := by
  have found : CommandTable.builtin.find? "endwith" = some bindingCommand := rfl
  have inside : (Block.binding name value start).kind = .binding := rfl
  have closes : (Block.binding name value start).closes line closing.arguments = .ok () := by
    unfold Block.closes
    rcases closing.fits with bare | named
    · rw [bare]
      rfl
    · rw [named]
      simp [Block.value?, Block.binding]
  rw [advance_builtin active firstLine line found, bindingCommand, outcome_endwith,
    Call.left_cons_of_eq inside]
  show Except.map _ (Block.closes _ line closing.arguments) = _
  rw [closes]
  rfl

end Commands

/-! ### The pass over a template -/

/-- The pass over the sources of the lines gives these lines and ends with these blocks. -/
def Passes (setup : Setup) (line : Nat) (stack : BlockStack) (lines : List Line)
    (final : BlockStack) : Prop :=
  setup.passFrom line stack (lines.map (·.source)) = ⟨lines, .ok final⟩

namespace Passes

variable {setup : Setup} {line : Nat} {stack middle final : BlockStack}

theorem nil : setup.Passes line stack [] stack := rfl

theorem cons {text : String} {shown : Option String} {rest : List Line}
    (shows : stack.shown text = shown) (moves : setup.advance line stack text = .ok middle)
    (behind : setup.Passes (line + 1) middle rest final) :
    setup.Passes line stack (⟨shown, text⟩ :: rest) final := by
  unfold Passes at behind ⊢
  rw [List.map_cons, passFrom_cons_ok moves, behind, shows]

theorem append {first second : List Line} (before : setup.Passes line stack first middle)
    (behind : setup.Passes (line + first.length) middle second final) :
    setup.Passes line stack (first ++ second) final := by
  unfold Passes at before behind ⊢
  have ends : (setup.passFrom line stack (first.map (·.source))).ending = .ok middle := by
    rw [before]
  rw [List.map_append, passFrom_append ends, before, List.length_map, behind]

end Passes

end Setup

theorem isSelected_append (before : List Bool) (now : Bool) (after : List Bool) :
    isSelected (before ++ now :: after) before.length = (!before.contains true && now) := by
  rw [isSelected, List.getElem?_append_right (Nat.le_refl _), Nat.sub_self, List.take_left]
  cases now <;> simp

open Setup

-- The recursion follows the tree. A block of a conditional is opened by one line and closed by
-- another one further on, so the branches are taken together with the line that ends them.
mutual

/-- A pass over an item gives its meaning and ends with the blocks it began with. -/
theorem Item.passes (active : Categories) (item : Item firstLine) (line : Nat)
    (stack : BlockStack) :
    (builtin active firstLine).Passes line stack (item.meaning active stack.scope) stack := by
  cases item with
  | plain text reads =>
    have uncalled : Directive.call? text = none := by rw [Directive.call?, reads]
    exact .cons (stack.shown_plain reads) (advance_of_not_call uncalled _ _ _) .nil
  | comment text reads =>
    have uncalled : Directive.call? text = none := by rw [Directive.call?, reads]
    exact .cons (stack.shown_comment reads) (advance_of_not_call uncalled _ _ _) .nil
  | escaped text literal reads =>
    have uncalled : Directive.call? text = none := by rw [Directive.call?, reads]
    exact .cons (stack.shown_escaped reads) (advance_of_not_call uncalled _ _ _) .nil
  | conditional opening body later closing =>
    have opens := advance_if active firstLine line opening stack
    have first : isSelected (opening.rule.holds active :: later.holding active) 0 =
        opening.rule.holds active := isSelected_append [] _ _
    have taken : (Block.conditional (opening.rule.holds active) false line).branchTaken =
        [opening.rule.holds active].contains true := by
      cases opening.rule.holds active <;> rfl
    rw [Item.meaning, first, ← stack.scope_conditional _ false line, List.append_assoc]
    exact (Passes.cons (stack.shown_call _) opens (body.passes active _ _)).append
      (later.passes active closing _ stack rfl taken)
  | binding opening body closing =>
    have opens := advance_binding active firstLine line opening stack
    have closes (last : Nat) := advance_endwith active firstLine last closing opening.value line
      stack
    rw [Item.meaning, ← stack.scope_binding opening.name opening.value line]
    exact (Passes.cons (stack.shown_call _) opens (body.passes active _ _)).append
      (.cons (BlockStack.shown_call _ _) (closes _) .nil)

theorem Template.passes (active : Categories) (template : Template firstLine) (line : Nat)
    (stack : BlockStack) :
    (builtin active firstLine).Passes line stack (template.meaning active stack.scope) stack := by
  cases template with
  | nil => exact .nil
  | cons item rest => exact (item.passes active line stack).append (rest.passes active _ stack)

/-- The branches and the end of a conditional, from inside the branch before. -/
theorem Branches.passes (active : Categories) (branches : Branches firstLine)
    (closing : BareLine "endif") (line : Nat) (stack : BlockStack) {block : Block}
    {before : List Bool} (conditional : block.kind = .conditional)
    (taken : block.branchTaken = before.contains true) :
    (builtin active firstLine).Passes line (block :: stack)
      (branches.meaning active stack.scope (before ++ branches.holding active) before.length ++
        [⟨none, closing.text⟩]) stack := by
  cases branches with
  | nil =>
    have closes := advance_endif active firstLine line closing conditional stack
    exact .cons (BlockStack.shown_call _ _) closes .nil
  | cons opening body rest =>
    have opens := advance_branch active firstLine line opening conditional stack
    have selected := isSelected_append before (opening.holds active) (rest.holding active)
    rw [← taken] at selected
    -- The new block remembers this branch too, and that is the invariant for the branches behind.
    have takenAfter : (Block.conditional (!block.branchTaken && opening.holds active)
        block.branchTaken line).branchTaken = (before ++ [opening.holds active]).contains true := by
      rw [List.contains_append, ← taken]
      cases block.branchTaken <;> cases opening.holds active <;> rfl
    have behind (last : Nat) := rest.passes active closing last stack rfl takenAfter
    rw [List.length_append, List.append_assoc] at behind
    rw [Branches.holding, Branches.meaning, selected,
      ← stack.scope_conditional _ block.branchTaken line, List.append_assoc]
    exact (Passes.cons (BlockStack.shown_branch _ _) opens (body.passes active _ _)).append
      (behind _)

end

/-- A pass over the lines of a template, from any line and with any blocks open, gives every line
what it means under these blocks, and ends with the same blocks open. Of every conditional at most
one branch is selected. -/
theorem Template.passFrom_lines (template : Template firstLine) (active : Categories) (line : Nat)
    (stack : BlockStack) :
    (builtin active firstLine).passFrom line stack template.lines =
        ⟨template.meaning active stack.scope, .ok stack⟩ ∧
      (template.meaning active stack.scope).map (·.source) = template.lines ∧
      ∀ (opening : ConditionLine "if") (later : Branches firstLine) (first second : Nat),
        isSelected (opening.rule.holds active :: later.holding active) first = true →
          isSelected (opening.rule.holds active :: later.holding active) second = true →
            first = second := by
  have sources := template.source_meaning active stack.scope
  have passes := template.passes active line stack
  rw [Passes, sources] at passes
  exact ⟨passes, sources, fun _ _ _ _ => isSelected_unique⟩

/-- A binding around a conditional whose second branch is selected and binds the name again. -/
theorem Template.passFrom_lines_second_branch :
    (builtin (.ofList ["web"]) fun _ => .ok " 81 ").passFrom 4 [.binding "q" "7" 3]
        ["#@with p=80", "#@if db", "@@p@@", "#@elif web", "@@p@@ @@q@@", "#@withfile p=port",
          "@@p@@", "#@endwith p", "#@else", "@@p@@", "#@@p", "#@endif", "#@endwith"] =
      ⟨[⟨none, "#@with p=80"⟩, ⟨none, "#@if db"⟩, ⟨none, "@@p@@"⟩, ⟨none, "#@elif web"⟩,
          ⟨some "80 7", "@@p@@ @@q@@"⟩, ⟨none, "#@withfile p=port"⟩, ⟨some "81", "@@p@@"⟩,
          ⟨none, "#@endwith p"⟩, ⟨none, "#@else"⟩, ⟨none, "@@p@@"⟩, ⟨some "#@p", "#@@p"⟩,
          ⟨none, "#@endif"⟩, ⟨none, "#@endwith"⟩],
        .ok [.binding "q" "7" 3]⟩ ∧
      ∀ place, isSelected [false, true, true] place = true → place = 1 := by
  have pair : Call.binding? "p=port" = some ("p", "port") := rfl
  let port : BindingLine (fun _ => .ok " 81 ") "withfile" :=
    ⟨⟨"#@withfile p=port", "p=port", rfl⟩, "p", _, .filed pair rfl⟩
  let filed : Item fun _ => .ok " 81 " :=
    .binding port (.cons (.plain "@@p@@" rfl) .nil) ⟨⟨"#@endwith p", "p", rfl⟩, .inr rfl⟩
  let second : Template fun _ => .ok " 81 " := .cons (.plain "@@p@@ @@q@@" rfl) (.cons filed .nil)
  let third : Template fun _ => .ok " 81 " :=
    .cons (.plain "@@p@@" rfl) (.cons (.escaped "#@@p" "#@p" rfl) .nil)
  let later : Branches fun _ => .ok " 81 " :=
    .cons (.elif ⟨⟨"#@elif web", "web", rfl⟩, ⟨"web", .atom "web"⟩, rfl⟩) second
      (.cons (.otherwise ⟨⟨"#@else", "", rfl⟩, rfl⟩) third .nil)
  let opening : ConditionLine "if" := ⟨⟨"#@if db", "db", rfl⟩, ⟨"db", .atom "db"⟩, rfl⟩
  let choice : Item fun _ => .ok " 81 " :=
    .conditional opening (.cons (.plain "@@p@@" rfl) .nil) later ⟨⟨"#@endif", "", rfl⟩, rfl⟩
  let written : BindingLine (fun _ => .ok " 81 ") "with" :=
    ⟨⟨"#@with p=80", "p=80", rfl⟩, "p", "80", .written rfl⟩
  let whole : Item fun _ => .ok " 81 " :=
    .binding written (.cons choice .nil) ⟨⟨"#@endwith", "", rfl⟩, .inl rfl⟩
  obtain ⟨passes, _, unique⟩ := Template.passFrom_lines (.cons whole .nil) (.ofList ["web"]) 4
    [.binding "q" "7" 3]
  refine ⟨passes.trans ?_, fun place selected => unique opening later place 1 selected rfl⟩
  cbv

end Foldback
