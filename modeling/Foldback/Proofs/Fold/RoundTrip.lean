/-
Rendering a merged source again. Every kept piece shows what its line showed
before: the commands in front of it are the same, so the same blocks are open,
however much line numbers have shifted. A text that the edit brought in shows as
itself if it is marked, since its escaped form stands for it; any other text is a
plain line at its place, filled with the bindings there and shown only where
every open block is published.

So an edit comes back unchanged as long as its unmarked texts land at published
places and hold no placeholder that is bound there. Without placeholders the
place alone decides.
-/

import Mathlib
import Foldback.Proofs.Fold.Pieces
import Foldback.Proofs.Template.Filling
import Foldback.Proofs.Template.LineNumbers

namespace Foldback

open Diff Directive Fold

/-! ### Pieces at their places -/

theorem BlockStack.shown_escape (stack : BlockStack) (text : String) :
    stack.shown (escape text) =
      if isMarked text then some text
      else if stack.published then some (Placeholder.substitute stack.lookup text) else none := by
  unfold BlockStack.shown
  rw [parse_escape]
  cases marked : isMarked text with
  | true => rfl
  | false =>
    rw [escape_of_unmarked marked]
    rfl

/-- What a piece shows in the merged source, under the blocks that are open before it. -/
def Fold.Piece.shownUnder (stack : BlockStack) : Piece → Option String
  | kept _ line => line.output
  | fresh text _ =>
    if isMarked text then some text
    else if stack.published then some (Placeholder.substitute stack.lookup text) else none

theorem Fold.Piece.shownUnder_fresh (stack : BlockStack) (text : String) (replaces : Bool) :
    (fresh text replaces).shownUnder stack =
      if isMarked text then some text
      else if stack.published then some (Placeholder.substitute stack.lookup text) else none := rfl

namespace Setup

variable {setup view : Setup} {source edited : List String} {pieces : List Piece}

theorem renders_merged_iff (ignores : view.commands.IgnoresLines) (renders : setup.Renders source)
    (weaves : setup.Weaves source edited pieces) :
    view.Renders (pieces.map Piece.source) ↔ view.Renders source := by
  rw [renders_iff ignores, renders_iff ignores,
    calls_eq_of_silentLines_eq (silentLines_of_weaves renders weaves)]

theorem exists_split_of_getElem? {place : Nat} {piece : Piece}
    (there : pieces[place]? = some piece) :
    ∃ before after, pieces = before ++ piece :: after ∧ before.length = place := by
  obtain ⟨inside, same⟩ := List.getElem?_eq_some_iff.mp there
  refine ⟨pieces.take place, pieces.drop (place + 1), ?_,
    List.length_take_of_le (Nat.le_of_lt inside)⟩
  rw [← same, ← List.drop_eq_getElem_cons inside, List.take_append_drop]

/-- In the pass of any setup, a kept piece shows in the merged source what its line shows in the
source. -/
theorem shown_kept (ignores : view.commands.IgnoresLines) (renders : setup.Renders source)
    (viewRenders : view.Renders source) (weaves : setup.Weaves source edited pieces)
    {place origin : Nat} {line : Line} (there : pieces[place]? = some (.kept origin line))
    (text : String) :
    (view.openBefore (pieces.map Piece.source) place).shown text =
      (view.openBefore source origin).shown text := by
  have mergedRenders := (renders_merged_iff ignores renders weaves).mpr viewRenders
  obtain ⟨before, after, rfl, rfl⟩ := exists_split_of_getElem? there
  refine shown_openBefore_eq ignores mergedRenders viewRenders ?_ text
  rw [List.map_append, List.take_left' (List.length_map ..)]
  exact calls_eq_of_silentLines_eq (silentLines_before_kept renders weaves).2

/-- The lines of a merged source show what its pieces show. -/
theorem outputs_merged (ignores : setup.commands.IgnoresLines) (renders : setup.Renders source)
    (weaves : setup.Weaves source edited pieces) :
    (setup.pass (pieces.map Piece.source)).lines.map (·.output) =
      pieces.mapIdx fun place piece =>
        piece.shownUnder (setup.openBefore (pieces.map Piece.source) place) := by
  have mergedRenders := (renders_merged_iff ignores renders weaves).mpr renders
  rw [outputs_pass mergedRenders]
  refine List.ext_getElem? fun place => ?_
  rw [List.getElem?_mapIdx, List.getElem?_mapIdx, List.getElem?_map]
  cases there : pieces[place]? with
  | none => rfl
  | some piece =>
    refine congrArg some ?_
    cases piece with
    | fresh text replaces => exact BlockStack.shown_escape _ text
    | kept origin line =>
      obtain ⟨before, after, rfl, rfl⟩ := exists_split_of_getElem? there
      have found := (silentLines_before_kept renders weaves).1
      rw [lines_pass renders, List.getElem?_mapIdx] at found
      obtain ⟨text, _, rfl⟩ := Option.map_eq_some_iff.mp found
      exact shown_kept ignores renders renders weaves there text

/-- A merged source renders to what its pieces show, each at its place. -/
theorem render_merged (ignores : setup.commands.IgnoresLines) (renders : setup.Renders source)
    (weaves : setup.Weaves source edited pieces) :
    setup.render (pieces.map Piece.source) = .ok
      (pieces.mapIdx fun place piece =>
        piece.shownUnder (setup.openBefore (pieces.map Piece.source) place)).reduceOption := by
  rw [render_eq_ok_iff, visible_eq_reduceOption, outputs_merged ignores renders weaves]
  exact ⟨(renders_merged_iff ignores renders weaves).mpr renders, rfl⟩

theorem filterMap_edited?_of_weaves (weaves : setup.Weaves source edited pieces) :
    pieces.filterMap Piece.edited? = edited :=
  weaves.filterMap_edited? (replays_lineOps _ _)

end Setup

/-! ### Lists that lose items -/

section Losses

variable {Item Value : Type}

theorem reduceOption_mapIdx_cons (first : Item) (rest : List Item)
    (shown : Nat → Item → Option Value) :
    ((first :: rest).mapIdx shown).reduceOption =
      (shown 0 first).toList ++ (rest.mapIdx fun place => shown (place + 1)).reduceOption := by
  rw [List.mapIdx_cons]
  cases shown 0 first <;> rfl

theorem filterMap_cons_toList (first : Item) (rest : List Item) (meant : Item → Option Value) :
    (first :: rest).filterMap meant = (meant first).toList ++ rest.filterMap meant := by
  cases meaning : meant first with
  | none => rw [List.filterMap_cons_none meaning]; rfl
  | some value => rw [List.filterMap_cons_some meaning]; rfl

/-- Showing every item as it is meant, or not at all, loses items and does nothing else. -/
theorem reduceOption_mapIdx_sublist {items : List Item} {shown : Nat → Item → Option Value}
    {meant : Item → Option Value}
    (each : ∀ place item, items[place]? = some item →
      shown place item = none ∨ shown place item = meant item) :
    (items.mapIdx shown).reduceOption.Sublist (items.filterMap meant) := by
  induction items generalizing shown with
  | nil => exact List.Sublist.slnil
  | cons first rest inductionHypothesis =>
    rw [reduceOption_mapIdx_cons, filterMap_cons_toList]
    have behind := inductionHypothesis fun place item there => each (place + 1) item there
    rcases each 0 first rfl with lost | same
    · rw [lost]
      exact behind.trans (List.sublist_append_right _ _)
    · rw [same]
      exact (List.Sublist.refl _).append behind

/-- Nothing is lost exactly if every item is shown as it is meant. -/
theorem reduceOption_mapIdx_eq_iff {items : List Item} {shown : Nat → Item → Option Value}
    {meant : Item → Option Value}
    (each : ∀ place item, items[place]? = some item →
      shown place item = none ∨ shown place item = meant item) :
    (items.mapIdx shown).reduceOption = items.filterMap meant ↔
      ∀ place item, items[place]? = some item → shown place item = meant item := by
  induction items generalizing shown with
  | nil => simp
  | cons first rest inductionHypothesis =>
    have eachBehind : ∀ place item, rest[place]? = some item →
        shown (place + 1) item = none ∨ shown (place + 1) item = meant item :=
      fun place item there => each (place + 1) item there
    have behind := inductionHypothesis eachBehind
    rw [reduceOption_mapIdx_cons, filterMap_cons_toList]
    constructor
    · intro whole
      have firstSame : shown 0 first = meant first := by
        rcases each 0 first rfl with lost | same
        · cases meaning : meant first with
          | none => exact lost
          | some value =>
            -- One item more on the right: the rest cannot make up for it.
            have lengths := congrArg List.length whole
            have shorter := (reduceOption_mapIdx_sublist eachBehind).length_le
            rw [lost, meaning] at lengths
            simp only [Option.toList_none, Option.toList_some, List.nil_append,
              List.cons_append, List.length_cons] at lengths
            omega
        · exact same
      rw [firstSame] at whole
      intro place item there
      cases place with
      | zero =>
        cases there
        exact firstSame
      | succ place => exact behind.mp (List.append_cancel_left whole) place item there
    · intro all
      rw [all 0 first rfl, behind.mpr fun place item there => all (place + 1) item there]

end Losses

/-! ### Rendering what was folded back -/

/-- The built-in commands with no category active and no file to read. -/
def Setup.bare : Setup := .builtin .empty fun _ => .error .notFound

namespace Fold.Piece

/-- The piece comes out as the text it stands for: it is marked, or at a published place with
nothing to fill in. A kept piece always does. -/
def Faithful (stack : BlockStack) (piece : Piece) : Prop :=
  ∀ text replaces, piece = .fresh text replaces →
    isMarked text = true ∨
      stack.published = true ∧ Placeholder.substitute stack.lookup text = text

theorem shownUnder_eq_edited? {stack : BlockStack} {piece : Piece}
    (faithful : piece.Faithful stack) : piece.shownUnder stack = piece.edited? := by
  cases piece with
  | kept => rfl
  | fresh text replaces =>
    rw [shownUnder_fresh]
    rcases faithful text replaces rfl with marked | ⟨published, unfilled⟩
    · rw [if_pos marked]
      rfl
    · rw [published, unfilled, if_pos rfl]
      exact ite_self _

/-- Where nothing can be filled in, a piece comes out as it should or not at all. -/
theorem shownUnder_of_plain (stack : BlockStack) {piece : Piece}
    (plain : ∀ text ∈ piece.edited?, ¬['@', '@'] <:+: text.toList) :
    piece.shownUnder stack = none ∨ piece.shownUnder stack = piece.edited? := by
  cases piece with
  | kept => exact .inr rfl
  | fresh text replaces =>
    have unfilled := Placeholder.substitute_of_plain stack.lookup (plain text rfl)
    cases published : stack.published with
    | true =>
      refine .inr (shownUnder_eq_edited? ?_)
      rintro _ _ ⟨⟩
      exact .inr ⟨published, unfilled⟩
    | false =>
      cases marked : isMarked text with
      | true =>
        refine .inr (shownUnder_eq_edited? ?_)
        rintro _ _ ⟨⟩
        exact .inl marked
      | false =>
        refine .inl ?_
        rw [shownUnder_fresh, marked, published]
        rfl

/-- A fresh text comes out at all exactly if it is marked or its place is published. -/
theorem shownUnder_fresh_eq_none_iff (stack : BlockStack) (text : String) (replaces : Bool) :
    (fresh text replaces).shownUnder stack = none ↔
      ¬(isMarked text = true ∨ stack.published = true) := by
  rw [shownUnder_fresh]
  cases isMarked text <;> cases stack.published <;> simp

end Fold.Piece

namespace Setup

variable {setup : Setup} {source edited canonical : List String}

/-- Folding back gives a source that renders, and to the edited lines but for the texts the edit
brought in: a marked one comes out as it is, any other one filled with what is bound at its
place, or not at all if the place is not published. -/
theorem render_foldBack (builtin : setup.commands = .builtin)
    (rendered : setup.render source = .ok canonical) :
    ∃ pieces merged, setup.Weaves source edited pieces ∧ merged = pieces.map Piece.source ∧
      setup.foldBack source edited = .ok merged ∧
      pieces.filterMap Piece.operation? =
        (lineOps canonical edited).filter (·.kind ≠ .delete) ∧
      pieces.filterMap Piece.edited? = edited ∧
      setup.render merged = .ok
        (pieces.mapIdx fun place piece =>
          piece.shownUnder (setup.openBefore merged place)).reduceOption ∧
      ((∀ place (piece : Piece), pieces[place]? = some piece →
          piece.Faithful (setup.openBefore merged place)) →
        setup.render merged = .ok edited) := by
  have ignores := ignoresLines_of_builtin builtin
  obtain ⟨renders, visible⟩ := render_eq_ok_iff.mp rendered
  obtain ⟨pieces, weaves⟩ := setup.exists_weaves source edited
  have again := render_merged ignores renders weaves
  have meant := filterMap_edited?_of_weaves weaves
  refine ⟨pieces, _, weaves, rfl, foldBack_of_weaves renders weaves, ?_, meant, again, ?_⟩
  · rw [weaves.filterMap_operation?, visible]
  · intro faithful
    have same : ∀ place (piece : Piece), pieces[place]? = some piece →
        piece.shownUnder (setup.openBefore (pieces.map Piece.source) place) = piece.edited? :=
      fun place piece there => Piece.shownUnder_eq_edited? (faithful place piece there)
    have whole := reduceOption_mapIdx_eq_iff fun place piece there => .inr (same place piece there)
    rw [again, whole.mpr same, meant]

set_option maxRecDepth 8000 in
theorem render_foldBack_into_hidden_block :
    bare.commands = .builtin ∧
      bare.render ["#@with p=80", "listen @@p@@", "#@if web", "#@@x", "#@endif"] =
        .ok ["listen 80", "#@x"] ∧
      ∃ pieces merged,
        bare.Weaves ["#@with p=80", "listen @@p@@", "#@if web", "#@@x", "#@endif"]
          ["#@y", "new", "@@p@@"] pieces ∧
        merged = pieces.map Piece.source ∧
        bare.foldBack ["#@with p=80", "listen @@p@@", "#@if web", "#@@x", "#@endif"]
          ["#@y", "new", "@@p@@"] = .ok merged ∧
        pieces.filterMap Piece.operation? =
          (lineOps ["listen 80", "#@x"] ["#@y", "new", "@@p@@"]).filter (·.kind ≠ .delete) ∧
        pieces.filterMap Piece.edited? = ["#@y", "new", "@@p@@"] ∧
        bare.render merged = .ok
          (pieces.mapIdx fun place piece =>
            piece.shownUnder (bare.openBefore merged place)).reduceOption ∧
        ((∀ place (piece : Piece), pieces[place]? = some piece →
            piece.Faithful (bare.openBefore merged place)) →
          bare.render merged = .ok ["#@y", "new", "@@p@@"]) := by
  have rendered :
      bare.render ["#@with p=80", "listen @@p@@", "#@if web", "#@@x", "#@endif"] =
        .ok ["listen 80", "#@x"] := by cbv
  exact ⟨rfl, rendered, render_foldBack rfl rendered⟩

/-- Without placeholders in the edit, nothing but the loss of lines can happen, and it does not
happen exactly if every text the edit brought in is marked or came to a published place. -/
theorem render_foldBack_eq_edited_iff (builtin : setup.commands = .builtin)
    (rendered : setup.render source = .ok canonical)
    (plain : ∀ text ∈ edited, ¬['@', '@'] <:+: text.toList) :
    ∃ pieces merged, setup.Weaves source edited pieces ∧ merged = pieces.map Piece.source ∧
      setup.foldBack source edited = .ok merged ∧
      (∃ again, setup.render merged = .ok again ∧ again.Sublist edited) ∧
      (setup.render merged = .ok edited ↔
        ∀ place text replaces, pieces[place]? = some (.fresh text replaces) →
          isMarked text = true ∨ (setup.openBefore merged place).published = true) := by
  have ignores := ignoresLines_of_builtin builtin
  obtain ⟨renders, _⟩ := render_eq_ok_iff.mp rendered
  obtain ⟨pieces, weaves⟩ := setup.exists_weaves source edited
  have again := render_merged ignores renders weaves
  have meant := filterMap_edited?_of_weaves weaves
  have lostOrSame : ∀ place (piece : Piece), pieces[place]? = some piece →
      piece.shownUnder (setup.openBefore (pieces.map Piece.source) place) = none ∨
        piece.shownUnder (setup.openBefore (pieces.map Piece.source) place) = piece.edited? := by
    intro place piece there
    refine Piece.shownUnder_of_plain _ fun text stands => plain text ?_
    rw [← meant]
    exact List.mem_filterMap.mpr ⟨piece, List.mem_of_getElem? there, stands⟩
  refine ⟨pieces, _, weaves, rfl, foldBack_of_weaves renders weaves, ⟨_, again, ?_⟩, ?_⟩
  · rw [← meant]
    exact reduceOption_mapIdx_sublist lostOrSame
  · have whole := reduceOption_mapIdx_eq_iff lostOrSame
    rw [meant] at whole
    rw [again, Except.ok.injEq, whole]
    constructor
    · intro same place text replaces there
      by_contra hidden
      have lost := (Piece.shownUnder_fresh_eq_none_iff _ text replaces).mpr hidden
      rw [same place _ there] at lost
      cases lost
    · intro shown place piece there
      rcases lostOrSame place piece there with lost | same
      · cases piece with
        | kept => exact rfl
        | fresh text replaces =>
          exact absurd (shown place text replaces there)
            ((Piece.shownUnder_fresh_eq_none_iff _ text replaces).mp lost)
      · exact same

theorem render_foldBack_eq_edited_iff_before_escaped_line :
    bare.commands = .builtin ∧
      bare.render ["a", "#@if web", "#@@x", "#@endif", "b"] = .ok ["a", "#@x", "b"] ∧
      (∀ text ∈ ["a", "new", "#@x", "b"], ¬['@', '@'] <:+: text.toList) ∧
      ∃ pieces merged,
        bare.Weaves ["a", "#@if web", "#@@x", "#@endif", "b"] ["a", "new", "#@x", "b"] pieces ∧
        merged = pieces.map Piece.source ∧
        bare.foldBack ["a", "#@if web", "#@@x", "#@endif", "b"] ["a", "new", "#@x", "b"] =
          .ok merged ∧
        (∃ again, bare.render merged = .ok again ∧ again.Sublist ["a", "new", "#@x", "b"]) ∧
        (bare.render merged = .ok ["a", "new", "#@x", "b"] ↔
          ∀ place text replaces, pieces[place]? = some (.fresh text replaces) →
            isMarked text = true ∨ (bare.openBefore merged place).published = true) := by
  have rendered : bare.render ["a", "#@if web", "#@@x", "#@endif", "b"] =
      .ok ["a", "#@x", "b"] := by cbv
  have plain : ∀ text ∈ ["a", "new", "#@x", "b"], ¬['@', '@'] <:+: text.toList := by decide
  exact ⟨rfl, rendered, plain, render_foldBack_eq_edited_iff rfl rendered plain⟩

/-- A line inserted between a published line and an escaped line of a hidden block goes into the
block, and is lost. -/
theorem insertion_lost_before_escaped_line :
    bare.render ["a", "#@if web", "#@@x", "#@endif", "b"] = .ok ["a", "#@x", "b"] ∧
      (∀ text ∈ ["a", "new", "#@x", "b"], ¬['@', '@'] <:+: text.toList) ∧
      bare.foldBack ["a", "#@if web", "#@@x", "#@endif", "b"] ["a", "new", "#@x", "b"] =
        .ok ["a", "#@if web", "new", "#@@x", "#@endif", "b"] ∧
      bare.render ["a", "#@if web", "new", "#@@x", "#@endif", "b"] = .ok ["a", "#@x", "b"] ∧
      bare.render ["a", "#@if web", "new", "#@@x", "#@endif", "b"] ≠
        .ok ["a", "new", "#@x", "b"] := by
  have again : bare.render ["a", "#@if web", "new", "#@@x", "#@endif", "b"] =
      .ok ["a", "#@x", "b"] := by cbv
  refine ⟨by cbv, by decide, by cbv, again, ?_⟩
  rw [again]
  simp

end Setup

end Foldback
