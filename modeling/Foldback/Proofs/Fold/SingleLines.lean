/-
Rendered lines are single lines. A line feed could come into a rendered line from
the source or from a bound value. The value of a binding is a part of a source
line or of the first line of a file; so if the source was cut at its line feeds,
there is none in the open blocks, none in the rendered lines, and none in the
lines that edits are folded back to.
-/

import Foldback.Proofs.Fold.RoundTrip
import Foldback.Proofs.Template.Filling
import Foldback.Proofs.Text.Lines

namespace Foldback

open Text Directive

/-! ### Parts of single lines -/

namespace Text

theorem oneLine_ofList {characters : List Char} :
    OneLine (String.ofList characters) ↔ '\n' ∉ characters := by
  unfold OneLine
  rw [String.toList_ofList]

theorem oneLine_firstLineOf (text : String) : OneLine (firstLineOf text) := by
  unfold firstLineOf
  cases cut : linesOf text with
  | nil => decide
  | cons line rest =>
    have member : line ∈ linesOf text := by
      rw [cut]
      exact List.mem_cons_self
    exact oneLine_of_mem_linesOf member

theorem oneLine_trim {text : String} (single : OneLine text) : OneLine (trim text) := by
  unfold trim trimBlanks
  rw [oneLine_ofList, List.mem_reverse]
  refine fun member => single ?_
  have inside := List.mem_reverse.mp ((List.dropWhile_suffix _).subset member)
  exact (List.dropWhile_suffix _).subset inside

end Text

theorem Placeholder.feed_not_mem_fill {lookup : String → Option String}
    (values : ∀ name value, lookup name = some value → OneLine value) (text : List Char)
    (single : '\n' ∉ text) : '\n' ∉ fill lookup text := by
  fun_induction fill lookup text with
  | case1 text cut => exact single
  | case2 text before opened cut uncut =>
    rwa [cutDelimiter_eq_some cut] at single
  | case3 text before opened cut name closed inner value found inductionHypothesis =>
    rw [cutDelimiter_eq_some cut, cutDelimiter_eq_some inner] at single
    simp only [List.mem_append, List.mem_cons, not_or] at single ⊢
    exact ⟨⟨single.1, values _ _ found⟩, inductionHypothesis single.2.2.2.2.2.2⟩
  | case4 text before opened cut name closed inner missing inductionHypothesis =>
    rw [cutDelimiter_eq_some cut] at single
    simp only [List.mem_append, List.mem_cons, not_or] at single ⊢
    exact ⟨single.1, single.2.1, single.2.2.1, inductionHypothesis single.2.2.2⟩

/-- The text that a directive hands on: the literal of an escaped line, the arguments of a
command. -/
def Directive.carried : Directive → String
  | .comment => ""
  | .escaped literal => literal
  | .command _ arguments => arguments

theorem Directive.oneLine_carried {text : String} {directive : Directive} (single : OneLine text)
    (reads : parse text = some directive) : OneLine directive.carried := by
  unfold parse read at reads
  split at reads
  next mark rest whole =>
    unfold OneLine at single
    rw [whole] at single
    split at reads
    · unfold classify at reads
      split at reads
      · cases reads
      · cases reads
        decide
      · cases reads
        rw [carried, oneLine_ofList]
        simp_all
      · split at reads
        · cases reads
          exact List.not_mem_nil
        next name arguments cut =>
          cases reads
          rw [(cutAt_eq_some cut).1] at single
          rw [carried, oneLine_ofList]
          exact fun member => single (by simp [member])
    · cases reads
  · cases reads

theorem Call.oneLine_of_binding? {arguments name value : String} (single : OneLine arguments)
    (bound : binding? arguments = some (name, value)) : OneLine value := by
  unfold binding? at bound
  split at bound
  · cases bound
  next cut =>
    split at bound
    · cases bound
      obtain ⟨whole, -⟩ := cutAt_eq_some cut
      rw [oneLine_ofList]
      refine fun member => single ?_
      rw [whole]
      exact List.mem_append_right _ (List.mem_cons_of_mem _ member)
    · cases bound

/-! ### Blocks that bind single lines -/

/-- All values that a block binds are single lines. -/
def Block.BindsLines (block : Block) : Prop :=
  ∀ pair ∈ block.bindings, OneLine pair.2

/-- All values that the open blocks bind are single lines. -/
def BlockStack.BindsLines (stack : BlockStack) : Prop :=
  ∀ block ∈ stack, block.BindsLines

theorem Block.bindsLines_conditional (published taken : Bool) (line : Nat) :
    (conditional published taken line).BindsLines :=
  fun _ member => nomatch member

theorem Block.bindsLines_binding {value : String} (single : OneLine value) (name : String)
    (line : Nat) : (binding name value line).BindsLines := by
  intro pair member
  rw [List.mem_singleton.mp member]
  exact single

namespace BlockStack

variable {stack : BlockStack}

theorem BindsLines.lookup (binds : stack.BindsLines) (name value : String)
    (found : stack.lookup name = some value) : OneLine value := by
  obtain ⟨block, member, given⟩ := List.exists_of_findSome?_eq_some found
  obtain ⟨before, behind, whole, -⟩ := List.lookup_eq_some_iff.mp given
  refine binds block member (name, value) ?_
  rw [whole]
  exact List.mem_append_right before List.mem_cons_self

theorem BindsLines.shown (binds : stack.BindsLines) {text visible : String}
    (single : OneLine text) (shows : stack.shown text = some visible) : OneLine visible := by
  unfold BlockStack.shown at shows
  split at shows
  · cases shows
  · cases shows
  next literal reads =>
    cases shows
    exact oneLine_carried single reads
  · split at shows
    · cases shows
      unfold Placeholder.substitute
      rw [oneLine_ofList]
      exact Placeholder.feed_not_mem_fill binds.lookup _ single
    · cases shows

end BlockStack

/-! ### Commands -/

section Commands

variable {surroundings : Surroundings} {arguments : String} {line : Nat} {stack next : BlockStack}

theorem BlockStack.BindsLines.push {block : Block} (binds : stack.BindsLines)
    (inner : block.BindsLines) : BlockStack.BindsLines (block :: stack) :=
  List.forall_mem_cons.mpr ⟨inner, binds⟩

/-- The blocks around the one that is left bind single lines as well. -/
theorem BlockStack.BindsLines.outer {name : String} {kind : BlockKind} {block : Block}
    {outer : BlockStack} (binds : stack.BindsLines)
    (leaves : Call.left line name kind stack = .ok (block, outer)) : outer.BindsLines := by
  unfold Call.left at leaves
  split at leaves
  · cases leaves
  · split at leaves
    · cases leaves
      exact (List.forall_mem_cons.mp binds).2
    · cases leaves

theorem bindsLines_of_runConditional {name : String} (listed : name ∈ conditionalNames)
    (binds : stack.BindsLines)
    (runs : (runConditional surroundings ⟨name, arguments, line, stack⟩).outcome = .ok next) :
    next.BindsLines := by
  simp only [conditionalNames, List.mem_cons, List.not_mem_nil, or_false] at listed
  rcases listed with rfl | rfl | rfl | rfl
  · rw [outcome_if] at runs
    obtain ⟨published, -, rfl⟩ := exists_of_map_eq_ok runs
    exact binds.push (Block.bindsLines_conditional _ _ _)
  · rw [outcome_elif] at runs
    obtain ⟨⟨previous, outer⟩, leaves, runs⟩ := exists_of_bind_eq_ok runs
    obtain ⟨published, -, rfl⟩ := exists_of_map_eq_ok runs
    exact (binds.outer leaves).push (Block.bindsLines_conditional _ _ _)
  · rw [outcome_else] at runs
    obtain ⟨_, -, runs⟩ := exists_of_bind_eq_ok runs
    obtain ⟨⟨previous, outer⟩, leaves, runs⟩ := exists_of_bind_eq_ok runs
    cases runs
    exact (binds.outer leaves).push (Block.bindsLines_conditional _ _ _)
  · rw [outcome_endif] at runs
    obtain ⟨_, -, runs⟩ := exists_of_bind_eq_ok runs
    obtain ⟨⟨previous, outer⟩, leaves, runs⟩ := exists_of_bind_eq_ok runs
    cases runs
    exact binds.outer leaves

theorem bindsLines_of_runBinding {name : String} (listed : name ∈ bindingNames)
    (files : ∀ path content, surroundings.firstLine path = .ok content → OneLine content)
    (single : OneLine arguments) (binds : stack.BindsLines)
    (runs : (runBinding surroundings ⟨name, arguments, line, stack⟩).outcome = .ok next) :
    next.BindsLines := by
  have bound : ∀ {command pair}, Call.bound line command arguments = .ok pair →
      OneLine pair.2 := by
    intro command pair given
    unfold Call.bound at given
    split at given
    · cases given
    next found =>
      cases given
      exact Call.oneLine_of_binding? single found
  simp only [bindingNames, List.mem_cons, List.not_mem_nil, or_false] at listed
  rcases listed with rfl | rfl | rfl
  · rw [outcome_with] at runs
    obtain ⟨⟨name, value⟩, pair, runs⟩ := exists_of_bind_eq_ok runs
    cases runs
    exact binds.push (Block.bindsLines_binding (bound pair) name line)
  · rw [outcome_withfile] at runs
    obtain ⟨⟨name, path⟩, pair, runs⟩ := exists_of_bind_eq_ok runs
    obtain ⟨value, read, rfl⟩ := exists_of_map_eq_ok runs
    have content : OneLine value := by
      unfold Surroundings.value at read
      split at read
      · cases read
      next found =>
        cases read
        exact oneLine_trim (files path _ found)
    exact binds.push (Block.bindsLines_binding content name line)
  · rw [outcome_endwith] at runs
    obtain ⟨⟨previous, outer⟩, leaves, runs⟩ := exists_of_bind_eq_ok runs
    obtain ⟨_, -, rfl⟩ := exists_of_map_eq_ok runs
    exact binds.outer leaves

end Commands

/-! ### Passes -/

namespace Setup

variable {active : Categories} {firstLine : String → Except FileError String}

theorem bindsLines_of_advance
    (files : ∀ path content, firstLine path = .ok content → OneLine content) {line : Nat}
    {stack next : BlockStack} {text : String} (single : OneLine text) (binds : stack.BindsLines)
    (moves : (builtin active firstLine).advance line stack text = .ok next) : next.BindsLines := by
  cases called : call? text with
  | none =>
    rw [advance_of_not_call called] at moves
    cases moves
    exact binds
  | some call =>
    obtain ⟨name, arguments⟩ := call
    have carried : OneLine arguments := by
      unfold call? at called
      split at called
      next reads =>
        cases called
        exact oneLine_carried single reads
      · cases called
    rw [advance_of_call called, dispatch] at moves
    split at moves
    · cases moves
    next command found =>
      simp only [Traced.outcome_bind, Traced.outcome_mark] at moves
      rcases find?_builtin found with ⟨listed, rfl⟩ | ⟨listed, rfl⟩
      · exact bindsLines_of_runConditional listed binds moves
      · exact bindsLines_of_runBinding listed files carried binds moves

theorem oneLine_of_mem_passFrom
    (files : ∀ path content, firstLine path = .ok content → OneLine content) {line : Nat}
    {stack : BlockStack} {source : List String} (single : ∀ text ∈ source, OneLine text)
    (binds : stack.BindsLines) {shown : String}
    (member : shown ∈ ((builtin active firstLine).passFrom line stack source).visible) :
    OneLine shown := by
  induction source generalizing line stack with
  | nil => cases member
  | cons text rest inductionHypothesis =>
    obtain ⟨first, later⟩ := List.forall_mem_cons.mp single
    cases moved : (builtin active firstLine).advance line stack text with
    | error error =>
      rw [passFrom_cons_error moved] at member
      cases member
    | ok next =>
      rw [passFrom_cons_ok moved] at member
      obtain ⟨visible, listed, shows⟩ := List.mem_filterMap.mp member
      rcases List.mem_cons.mp listed with rfl | behind
      · exact binds.shown first shows
      · exact inductionHypothesis later (bindsLines_of_advance files first binds moved)
          (List.mem_filterMap.mpr ⟨visible, behind, shows⟩)

/-- Single lines render to single lines. -/
theorem oneLine_of_render
    (files : ∀ path content, firstLine path = .ok content → OneLine content)
    {source canonical : List String} (single : ∀ text ∈ source, OneLine text)
    (renders : (builtin active firstLine).render source = .ok canonical) :
    ∀ shown ∈ canonical, OneLine shown := by
  obtain ⟨-, rfl⟩ := render_eq_ok_iff.mp renders
  exact fun shown member =>
    oneLine_of_mem_passFrom files single (List.forall_mem_nil Block.BindsLines) member

end Setup

/-! ### Folding back -/

theorem Directive.oneLine_escape {text : String} (single : OneLine text) :
    OneLine (escape text) := by
  unfold escape escapeChars
  rw [oneLine_ofList]
  unfold OneLine at single
  split
  next mark rest whole =>
    rw [whole] at single
    split
    · simp_all
    · exact single
  · exact single

open Fold in
/-- Single lines are folded back to single lines. -/
theorem Setup.oneLine_of_foldBack {setup : Setup} {source edited merged : List String}
    (single : ∀ text ∈ source, OneLine text) (edits : ∀ text ∈ edited, OneLine text)
    (folds : setup.foldBack source edited = .ok merged) : ∀ text ∈ merged, OneLine text := by
  obtain ⟨renders, pieces, weaves, rfl⟩ := exists_weaves_of_foldBack folds
  intro text member
  obtain ⟨piece, listed, rfl⟩ := List.mem_map.mp member
  cases piece with
  | kept place line =>
    have inside : (line, place) ∈ (setup.pass source).lines.zipIdx :=
      weaves.filterMap_kept?_sublist.subset (List.mem_filterMap.mpr ⟨_, listed, rfl⟩)
    refine single line.source ?_
    rw [← source_lines_pass renders]
    exact List.mem_map_of_mem (List.fst_mem_of_mem_zipIdx inside)
  | fresh inserted replaces =>
    refine oneLine_escape (edits inserted ?_)
    rw [← filterMap_edited?_of_weaves weaves]
    exact List.mem_filterMap.mpr ⟨_, listed, rfl⟩

end Foldback
