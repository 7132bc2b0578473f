/-
Blocks must be balanced, and nothing else is asked of commands whose arguments
are in order: a source renders exactly if the names of its commands can be
completed to a well-nested word. Otherwise the pass ends at the first line where
they cannot, and the error tells which block is open there.

The invariant of a pass divides the lines behind it. Each open block begins with
the command that opened or last continued it, and between that command and the
one that opened the block inside it, or the place that was reached, the names are
well-nested.
-/

import Foldback.Proofs.Template.Nesting
import Foldback.Proofs.Template.Words

namespace Foldback

open Text Directive

/-- The names of the commands of a source in order. -/
def commandNames (source : List String) : List String :=
  (calls source).map Prod.fst

theorem commandNames_append (first second : List String) :
    commandNames (first ++ second) = commandNames first ++ commandNames second := by
  rw [commandNames, calls, List.filterMap_append, List.map_append]
  rfl

theorem commandNames_cons_of_call {text name arguments : String}
    (called : call? text = some (name, arguments)) (rest : List String) :
    commandNames (text :: rest) = name :: commandNames rest := by
  rw [commandNames, calls, List.filterMap_cons_some called]
  rfl

theorem commandNames_of_not_call {text : String} (uncalled : call? text = none) :
    commandNames [text] = [] := by
  rw [commandNames, calls, List.filterMap_cons_none uncalled]
  rfl

/-- What can be completed behind some lines could be before. -/
theorem Viable.of_prefix {lines more : List String} (viable : Viable (commandNames more))
    (within : lines <+: more) : Viable (commandNames lines) := by
  obtain ⟨rest, rfl⟩ := within
  rw [commandNames_append] at viable
  exact viable.of_append

/-! ### Arguments in order -/

/-- The command answers to its name, and no fault is in its arguments. -/
inductive InOrder (firstLine : String → Except FileError String) :
    (name arguments : String) → Prop where
  | condition {name arguments : String} {rule : Rule} (listed : name ∈ ["if", "elif"])
      (parses : Rule.parse arguments = .ok rule) : InOrder firstLine name arguments
  | bare {name arguments : String} (listed : name ∈ ["else", "endif", "endwith"])
      (blank : (trimBlanks arguments.toList).isEmpty = true) : InOrder firstLine name arguments
  | binding {command arguments name value : String}
      (binds : Binds firstLine command arguments name value) :
      InOrder firstLine command arguments

theorem InOrder.of_call {firstLine : String → Except FileError String}
    {text name arguments : String} (called : call? text = some (name, arguments))
    (fits : InOrder firstLine name arguments) (other otherArguments : String)
    (again : call? text = some (other, otherArguments)) :
    InOrder firstLine other otherArguments := by
  rw [called] at again
  cases again
  exact fits

/-- The only faults in a source are those of its blocks. -/
def Orderly (firstLine : String → Except FileError String) (source : List String) : Prop :=
  ∀ text ∈ source, ∀ name arguments, call? text = some (name, arguments) →
    InOrder firstLine name arguments

/-! ### One command -/

/-- What a command does to the open blocks, as its name tells. -/
inductive Moves (line : Nat) (name : String) :
    BlockStack → Except RenderError BlockStack → Prop where
  | opens {block : Block} {stack : BlockStack} (role : role? name = some (.opens block.kind))
      (start : block.startLine = line) : Moves line name stack (.ok (block :: stack))
  | continues {previous block : Block} {outer : BlockStack}
      (role : role? name = some (.continues previous.kind)) (same : block.kind = previous.kind)
      (start : block.startLine = line) :
      Moves line name (previous :: outer) (.ok (block :: outer))
  | closes {block : Block} {outer : BlockStack} (role : role? name = some (.closes block.kind)) :
      Moves line name (block :: outer) (.ok outer)
  | outside {expected : BlockKind} (needs : (role? name).bind Role.needs = some expected) :
      Moves line name [] (.error (.block (.notInBlock line name)))
  | mismatch {expected : BlockKind} {block : Block} {outer : BlockStack}
      (needs : (role? name).bind Role.needs = some expected) (other : block.kind ≠ expected) :
      Moves line name (block :: outer)
        (.error (.block (.kindMismatch line name expected block.kind block.startLine)))

namespace Moves

variable {line : Nat} {name : String} {stack : BlockStack}

/-- A command that leaves the innermost block and then goes on. -/
theorem of_left {expected : BlockKind} (needs : (role? name).bind Role.needs = some expected)
    {next : Block × BlockStack → Except RenderError BlockStack}
    (fits : ∀ block outer, block.kind = expected →
      Moves line name (block :: outer) (next (block, outer))) :
    Moves line name stack ((Call.left line name expected stack).bind next) := by
  cases stack with
  | nil => exact .outside needs
  | cons block outer =>
    by_cases same : block.kind = expected
    · rw [Call.left_cons_of_eq same]
      exact fits block outer same
    · rw [Call.left_cons_of_ne same]
      exact .mismatch needs same

/-- The kinds of the open blocks are moved as the name is read. -/
theorem readName_of_ok {next : BlockStack} (moves : Moves line name stack (.ok next)) :
    readName (stack.map (·.kind)) name = some (next.map (·.kind)) := by
  cases moves with
  | opens role start => rw [readName_of_role role]; rfl
  | continues role same start =>
    rw [readName_of_role role, List.map_cons, List.map_cons, same]
    exact if_pos rfl
  | closes role =>
    rw [readName_of_role role]
    exact if_pos rfl

theorem readName_of_error {error : RenderError} (moves : Moves line name stack (.error error)) :
    readName (stack.map (·.kind)) name = none := by
  cases moves with
  | outside needs => exact readName_nil needs
  | mismatch needs other => exact readName_cons_of_ne needs other _

end Moves

section Commands

variable {firstLine : String → Except FileError String} {text name arguments : String}

/-- A command whose arguments are in order does what its name tells. -/
theorem moves_of_inOrder (active : Categories) (called : call? text = some (name, arguments))
    (inOrder : InOrder firstLine name arguments) (line : Nat) (stack : BlockStack) :
    Moves line name stack ((Setup.builtin active firstLine).advance line stack text) := by
  have ran {command : Command} (found : CommandTable.builtin.find? name = some command) :
      (Setup.builtin active firstLine).advance line stack text =
        (command.run (Setup.builtin active firstLine).surroundings
          ⟨name, arguments, line, stack⟩).outcome :=
    Setup.advance_builtin active firstLine line found ⟨text, arguments, parse_of_call called⟩ stack
  cases inOrder with
  | condition listed parses =>
    simp only [List.mem_cons, List.not_mem_nil, or_false] at listed
    rcases listed with rfl | rfl
    · rw [ran rfl, conditionalCommand, outcome_if, Call.condition, parses]
      exact .opens rfl rfl
    · rw [ran rfl, conditionalCommand, outcome_elif, Call.condition, parses]
      refine .of_left rfl fun block outer same => ?_
      have role : role? "elif" = some (.continues block.kind) := by rw [same]; rfl
      show Moves _ _ _ (Except.map _ (if block.branchTaken = true then _ else _))
      cases block.branchTaken <;> exact .continues role same.symm rfl
  | bare listed blank =>
    simp only [List.mem_cons, List.not_mem_nil, or_false] at listed
    rcases listed with rfl | rfl | rfl
    · rw [ran rfl, conditionalCommand, outcome_else, Call.blankCheck, if_pos blank]
      refine .of_left rfl fun block outer same => ?_
      exact .continues (by rw [same]; rfl) same.symm rfl
    · rw [ran rfl, conditionalCommand, outcome_endif, Call.blankCheck, if_pos blank]
      exact .of_left rfl fun block outer same => .closes (by rw [same]; rfl)
    · rw [ran rfl, bindingCommand, outcome_endwith]
      refine .of_left rfl fun block outer same => ?_
      show Moves _ _ _ (Except.map _ (block.closes line arguments))
      rw [block.closes_of_blank blank]
      exact .closes (by rw [same]; rfl)
  | binding binds =>
    cases binds with
    | written pair =>
      rw [ran rfl, bindingCommand, outcome_with, Call.bound, pair]
      exact .opens rfl rfl
    | filed pair found =>
      have read : (Setup.builtin active firstLine).surroundings.firstLine _ = .ok _ := found
      rw [ran rfl, bindingCommand, outcome_withfile, Call.bound, pair]
      show Moves _ _ _ (Except.map _ (Surroundings.value _ _ _))
      rw [Surroundings.value, read]
      exact .opens rfl rfl

end Commands

/-! ### The blocks behind some lines -/

/-- The blocks are open behind the lines, innermost first: each begins at the line of the command
that opened or last continued it, and what stands between such commands is well-nested. -/
inductive Opened : List String → BlockStack → Prop where
  | none {lines : List String} (nested : Nested (commandNames lines)) : Opened lines []
  | opens {before inside : List String} {text name arguments : String} {block : Block}
      {outer : BlockStack} (around : Opened before outer)
      (called : call? text = some (name, arguments))
      (role : role? name = some (.opens block.kind)) (start : block.startLine = before.length + 1)
      (nested : Nested (commandNames inside)) :
      Opened (before ++ text :: inside) (block :: outer)
  | continues {before inside : List String} {text name arguments : String}
      {previous block : Block} {outer : BlockStack} (around : Opened before (previous :: outer))
      (called : call? text = some (name, arguments))
      (role : role? name = some (.continues previous.kind)) (same : block.kind = previous.kind)
      (start : block.startLine = before.length + 1) (nested : Nested (commandNames inside)) :
      Opened (before ++ text :: inside) (block :: outer)

theorem opened_nil : Opened [] [] := .none .empty

namespace Opened

variable {lines more : List String} {block : Block} {stack outer : BlockStack}

/-- Well-nested lines leave the blocks open. -/
theorem append (opened : Opened lines stack) (nested : Nested (commandNames more)) :
    Opened (lines ++ more) stack := by
  cases opened with
  | none before =>
    refine .none ?_
    rw [commandNames_append]
    exact before.append nested
  | opens around called role start before =>
    rw [List.append_assoc, List.cons_append]
    refine .opens around called role start ?_
    rw [commandNames_append]
    exact before.append nested
  | continues around called role same start before =>
    rw [List.append_assoc, List.cons_append]
    refine .continues around called role same start ?_
    rw [commandNames_append]
    exact before.append nested

/-- Lines that complete the innermost block leave those around it open. -/
theorem close (opened : Opened lines (block :: outer))
    (completes : Completes [block.kind] (commandNames more)) : Opened (lines ++ more) outer := by
  generalize whole : block :: outer = stack at opened
  -- The induction goes back over the branches of the block, each of which is completed with the
  -- ones behind it, to the command that opened it.
  induction opened generalizing block outer more with
  | none => cases whole
  | opens around called role start nested =>
    cases whole
    rw [List.append_assoc]
    refine around.append ?_
    rw [List.cons_append, commandNames_cons_of_call called, commandNames_append]
    refine (Completes.of_readName ?_ (completes.prepend nested)).nested
    exact readName_of_role role []
  | @continues before inside text name arguments previous block outer around called role same start
      nested inductionHypothesis =>
    cases whole
    rw [List.append_assoc]
    refine inductionHypothesis ?_ rfl
    rw [List.cons_append, commandNames_cons_of_call called, commandNames_append]
    refine .of_readName ?_ (completes.prepend nested)
    rw [readName_of_role role, same]
    exact if_pos rfl

/-- The kinds of the blocks are read off the names alone. -/
theorem readWord (opened : Opened lines stack) :
    readWord [] (commandNames lines) = some (stack.map (·.kind)) := by
  induction opened with
  | none nested => exact nested.readWord []
  | opens around called role start nested inductionHypothesis =>
    rw [commandNames_append, commandNames_cons_of_call called, readWord_append,
      inductionHypothesis, Option.bind_some, readWord_cons, readName_of_role role]
    exact nested.readWord _
  | @continues before inside text name arguments previous block outer around called role same start
      nested inductionHypothesis =>
    have fits : readName ((previous :: outer).map (·.kind)) name =
        some ((block :: outer).map (·.kind)) :=
      Moves.readName_of_ok (.continues role same start)
    rw [commandNames_append, commandNames_cons_of_call called, readWord_append,
      inductionHypothesis, Option.bind_some, readWord_cons, fits]
    exact nested.readWord _

/-- What one command preserves. -/
theorem step {text name arguments : String} {next : BlockStack} (opened : Opened lines stack)
    (called : call? text = some (name, arguments))
    (moves : Moves (lines.length + 1) name stack (.ok next)) : Opened (lines ++ [text]) next := by
  cases moves with
  | opens role start => exact .opens opened called role start .empty
  | continues role same start => exact .continues opened called role same start .empty
  | closes role =>
    refine opened.close ?_
    rw [commandNames_cons_of_call called]
    refine .of_readName ?_ (.done .empty)
    rw [readName_of_role role]
    exact if_pos rfl

end Opened

/-! ### The pass -/

/-- The innermost block that is open behind the lines is of the kind, and begins at the line with
the number: its command opened or continued it, and the names behind that are well-nested. -/
inductive Innermost : List String → Nat → BlockKind → Prop where
  | begins {around inside : List String} {text opener arguments : String} {kind : BlockKind}
      (called : call? text = some (opener, arguments))
      (opening : (role? opener).bind Role.begins = some kind)
      (nested : Nested (commandNames inside)) :
      Innermost (around ++ text :: inside) (around.length + 1) kind

theorem Opened.innermost {lines : List String} {block : Block} {outer : BlockStack}
    (opened : Opened lines (block :: outer)) : Innermost lines block.startLine block.kind := by
  cases opened with
  | opens around called role start nested =>
    rw [start]
    exact .begins called (by rw [role]; rfl) nested
  | continues around called role same start nested =>
    rw [start]
    exact .begins called (by rw [role, same]; rfl) nested

namespace Innermost

variable {lines : List String} {start other : Nat} {kind found : BlockKind}

theorem not_nested (innermost : Innermost lines start kind) : ¬Nested (commandNames lines) := by
  obtain ⟨called, opening, nested⟩ := innermost
  rw [commandNames_append, commandNames_cons_of_call called]
  exact not_nested_of_open opening nested _

/-- Where a block begins with well-nested names behind it, no other one begins later. -/
theorem le_of_nested {around inside : List String} {text : String}
    (innermost : Innermost (around ++ text :: inside) start kind)
    (nested : Nested (commandNames inside)) : start ≤ around.length + 1 := by
  generalize whole : around ++ text :: inside = lines at innermost
  obtain ⟨called, opening, nestedAgain⟩ := innermost
  rename_i later behind other opener arguments
  refine Nat.succ_le_succ (Nat.le_of_not_lt fun before => ?_)
  have split : around ++ text :: inside = (around ++ [text]) ++ inside := by simp
  rw [split] at whole
  obtain ⟨between, rfl⟩ := List.prefix_of_prefix_length_le
    (List.prefix_append (around ++ [text]) inside) (whole ▸ List.prefix_append later _)
    (by simpa using before)
  have onward : inside = between ++ other :: behind :=
    List.append_cancel_left (whole.trans (List.append_assoc _ _ _))
  rw [onward] at nested
  exact not_nested (.begins called opening nestedAgain) nested

theorem unique (innermost : Innermost lines start kind) (again : Innermost lines other found) :
    other = start ∧ found = kind := by
  have first := innermost
  obtain ⟨called, opening, nested⟩ := first
  rename_i around inside text opener arguments
  have notLater := again.le_of_nested nested
  generalize whole : around ++ text :: inside = lines at again innermost
  obtain ⟨calledAgain, openingAgain, nestedAgain⟩ := again
  have notBefore := innermost.le_of_nested nestedAgain
  obtain ⟨rfl, same⟩ := List.append_inj whole (by omega)
  cases same
  rw [called] at calledAgain
  cases calledAgain
  rw [opening] at openingAgain
  cases openingAgain
  exact ⟨rfl, rfl⟩

end Innermost

/-- Why the command with a name fails behind some lines: it needs an open block, and none is, or
the innermost one is of another kind. -/
inductive Unbalanced (before : List String) (name : String) : RenderError → Prop where
  | outside (nested : Nested (commandNames before)) :
      Unbalanced before name (.block (.notInBlock (before.length + 1) name))
  | mismatch {start : Nat} {expected found : BlockKind}
      (innermost : Innermost before start found)
      (needs : (role? name).bind Role.needs = some expected) (other : found ≠ expected) :
      Unbalanced before name
        (.block (.kindMismatch (before.length + 1) name expected found start))

namespace Unbalanced

variable {before : List String} {name : String} {error other : RenderError}

theorem of_opened {stack : BlockStack} (opened : Opened before stack)
    (moves : Moves (before.length + 1) name stack (.error error)) :
    Unbalanced before name error := by
  cases moves with
  | outside needs =>
    cases opened with
    | none nested => exact .outside nested
  | mismatch needs other => exact .mismatch opened.innermost needs other

theorem line (unbalanced : Unbalanced before name error) : error.line = before.length + 1 := by
  cases unbalanced <;> rfl

/-- The lines and the name tell the error. -/
theorem unique (unbalanced : Unbalanced before name error) (again : Unbalanced before name other) :
    other = error := by
  cases unbalanced with
  | outside nested =>
    cases again with
    | outside _ => rfl
    | mismatch innermost _ _ => exact absurd nested innermost.not_nested
  | mismatch innermost needs _ =>
    cases again with
    | outside nested => exact absurd nested innermost.not_nested
    | mismatch innermostAgain needsAgain _ =>
      obtain ⟨rfl, rfl⟩ := innermost.unique innermostAgain
      rw [needs] at needsAgain
      cases needsAgain
      rfl

end Unbalanced

namespace Setup

variable {firstLine : String → Except FileError String} {source : List String}

/-- What a run preserves. -/
theorem opened_of_passFrom (active : Categories) (orderly : Orderly firstLine source)
    {done : List String} {stack final : BlockStack} (opened : Opened done stack)
    (ends : ((builtin active firstLine).passFrom (done.length + 1) stack source).ending =
      .ok final) : Opened (done ++ source) final := by
  induction source generalizing done stack with
  | nil =>
    cases ends
    rwa [List.append_nil]
  | cons text rest inductionHypothesis =>
    rw [ending_passFrom_cons] at ends
    obtain ⟨next, moved, onward⟩ := exists_of_bind_eq_ok ends
    obtain ⟨here, behind⟩ := List.forall_mem_cons.mp orderly
    have split : done ++ text :: rest = done ++ [text] ++ rest := by simp
    rw [split]
    refine inductionHypothesis behind ?_ (by simpa using onward)
    cases called : call? text with
    | none =>
      rw [advance_of_not_call called] at moved
      cases moved
      refine opened.append ?_
      rw [commandNames_of_not_call called]
      exact .empty
    | some call =>
      refine opened.step called ?_
      rw [← moved]
      exact moves_of_inOrder active called (here _ _ called) _ stack

/-- A pass with an error fails at a name that cannot be completed, over the blocks that are open. -/
theorem unbalanced_of_failure (active : Categories) (orderly : Orderly firstLine source)
    {error : RenderError} (ends : ((builtin active firstLine).pass source).ending = .error error) :
    ∃ before text after name arguments, source = before ++ text :: after ∧
      Viable (commandNames before) ∧ ¬Viable (commandNames (before ++ [text])) ∧
      call? text = some (name, arguments) ∧ Unbalanced before name error ∧
      ((builtin active firstLine).pass source).lines.map (·.source) = before := by
  obtain ⟨before, text, after, reached, whole, passed, fails, shown⟩ := exists_failure ends
  have orderlyBefore : Orderly firstLine before := fun other member =>
    orderly other (whole ▸ List.mem_append_left _ member)
  have opened : Opened before reached :=
    opened_of_passFrom active orderlyBefore opened_nil passed
  cases called : call? text with
  | none =>
    rw [advance_of_not_call called] at fails
    cases fails
  | some call =>
    obtain ⟨name, arguments⟩ := call
    have member : text ∈ source := whole ▸ List.mem_append_right _ List.mem_cons_self
    have moves := moves_of_inOrder active called (orderly text member name arguments called)
      (1 + before.length) reached
    rw [fails, Nat.add_comm] at moves
    refine ⟨before, text, after, name, arguments, whole, (viable_iff _).mpr ⟨_, opened.readWord⟩,
      fun viable => ?_, called, Unbalanced.of_opened opened moves, shown⟩
    obtain ⟨kinds, read⟩ := (viable_iff _).mp viable
    rw [commandNames_append, commandNames_cons_of_call called, readWord_append, opened.readWord,
      Option.bind_some, readWord_cons, moves.readName_of_error] at read
    cases read

/-- A source whose arguments are in order renders exactly if its commands can be completed to a
well-nested word. If they cannot, the pass goes on up to the first line at which they no longer
can, and the error of that line tells which block is open there. -/
theorem render_ok_iff_viable (active : Categories) (orderly : Orderly firstLine source) :
    ((∃ texts, (builtin active firstLine).render source = .ok texts) ↔
        Viable (commandNames source)) ∧
      (¬Viable (commandNames source) →
        ∃ before text after name arguments error, source = before ++ text :: after ∧
          (∀ earlier, earlier <+: before → Viable (commandNames earlier)) ∧
          ¬Viable (commandNames (before ++ [text])) ∧ call? text = some (name, arguments) ∧
          (∀ other, Unbalanced before name other ↔ other = error) ∧
          error.line = before.length + 1 ∧
          (builtin active firstLine).render source = .error error ∧
          ((builtin active firstLine).pass source).lines.map (·.source) = before ∧
          ((builtin active firstLine).pass source).stream =
            ((builtin active firstLine).pass source).lines.map .ok ++ [.error error]) := by
  refine ⟨⟨fun ⟨texts, rendered⟩ => ?_, fun viable => ?_⟩, fun unviable => ?_⟩
  · obtain ⟨⟨final, ends⟩, -⟩ := render_eq_ok_iff.mp rendered
    exact (viable_iff _).mpr ⟨_, (opened_of_passFrom active orderly opened_nil ends).readWord⟩
  · cases ends : ((builtin active firstLine).pass source).ending with
    | ok final => exact ⟨_, render_eq_ok_iff.mpr ⟨⟨final, ends⟩, rfl⟩⟩
    | error error =>
      obtain ⟨before, text, after, name, arguments, rfl, -, stuck, -⟩ :=
        unbalanced_of_failure active orderly ends
      refine absurd (viable.of_prefix ⟨after, ?_⟩) stuck
      rw [List.append_assoc]
      rfl
  · cases ends : ((builtin active firstLine).pass source).ending with
    | ok final =>
      exact absurd ((viable_iff _).mpr
        ⟨_, (opened_of_passFrom active orderly opened_nil ends).readWord⟩) unviable
    | error error =>
      obtain ⟨before, text, after, name, arguments, whole, viable, stuck, called, unbalanced,
        shown⟩ := unbalanced_of_failure active orderly ends
      refine ⟨before, text, after, name, arguments, error, whole,
        fun earlier within => viable.of_prefix within, stuck, called,
        fun other => ⟨unbalanced.unique, fun same => same ▸ unbalanced⟩, unbalanced.line, ?_, shown,
        ?_⟩
      · rw [render, Pass.rendered, ends]
      · rw [Pass.stream, ends]

/-- The block that `else` goes on with is open where `endwith` stands, and begins there. -/
theorem render_ok_iff_viable_endwith_in_else :
    Orderly (fun _ => .ok "")
        ["#@if x", "#@with p=80", "#@endwith", "#@else", "a", "#@endwith"] ∧
      ¬Viable ["if", "with", "endwith", "else", "endwith"] ∧
      (builtin (.ofList ["x"]) fun _ => .ok "").render
          ["#@if x", "#@with p=80", "#@endwith", "#@else", "a", "#@endwith"] =
        .error (.block (.kindMismatch 6 "endwith" .binding .conditional 4)) ∧
      ∃ before name, Unbalanced before name
        (.block (.kindMismatch 6 "endwith" .binding .conditional 4)) := by
  have orderly : Orderly (fun _ => .ok "")
      ["#@if x", "#@with p=80", "#@endwith", "#@else", "a", "#@endwith"] := by
    have opening : Rule.parse "x" = .ok ⟨"x", .atom "x"⟩ := rfl
    simp only [Orderly, List.forall_mem_cons]
    refine ⟨.of_call rfl (.condition (by decide) opening), .of_call rfl (.binding (.written rfl)),
      .of_call rfl (.bare (by decide) rfl), .of_call rfl (.bare (by decide) rfl), ?_,
      .of_call rfl (.bare (by decide) rfl), ?_⟩
    · rintro name arguments ⟨⟩
    · rintro text ⟨⟩
  have failed : (builtin (.ofList ["x"]) fun _ => .ok "").render
      ["#@if x", "#@with p=80", "#@endwith", "#@else", "a", "#@endwith"] =
        .error (.block (.kindMismatch 6 "endwith" .binding .conditional 4)) := rfl
  obtain ⟨balanced, fails⟩ := render_ok_iff_viable (.ofList ["x"]) orderly
  have unviable : ¬Viable ["if", "with", "endwith", "else", "endwith"] := by
    intro viable
    obtain ⟨texts, rendered⟩ := balanced.mpr viable
    rw [failed] at rendered
    cases rendered
  obtain ⟨before, text, after, name, arguments, error, -, -, -, -, one, -, rendered, -⟩ :=
    fails unviable
  rw [failed] at rendered
  cases rendered
  exact ⟨orderly, unviable, failed, before, name, (one _).mpr rfl⟩

end Setup

end Foldback
