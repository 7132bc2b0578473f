/-
An edit stays where it is made. The alignment keeps the common ends of the
rendering and its edited form, so the merge takes every line there as it stands,
hidden lines included. Cut just behind the line that shows the end of the common
beginning, and just before the line that shows the start of the common end, the
source falls into three parts: the outer two come back unchanged, and what the
merge makes of the inner one still has all of its hidden lines.

The cuts lie beside visible lines for a reason. Insertions wait for the next
visible line, so those of the middle come before the first line of the last part
and not somewhere in it.
-/

import Foldback.Proofs.Diff.Trimming
import Foldback.Proofs.Fold.Shares
import Foldback.Proofs.Fold.Unchanged

namespace Foldback

open Diff

namespace Fold

/-! ### Weaving parts of a source -/

/-- No insertion among some operations can be left to wait for hidden lines among more lines. -/
def Parted (operations : List LineOp) (more : List Line) : Prop :=
  (∀ operation ∈ operations, operation.kind ≠ .insert) ∨
    ∀ source rest, more ≠ ⟨none, source⟩ :: rest

theorem Parted.tail {operation : LineOp} {operations : List LineOp} {more : List Line}
    (parted : Parted (operation :: operations) more) : Parted operations more :=
  parted.imp_left fun calm other member => calm other (List.mem_cons_of_mem _ member)

/-- Parts of a source that are parted in this way can be woven one after the other. -/
theorem Woven.append {place : Nat} {lines more : List Line}
    {operations moreOperations : List LineOp} {pieces morePieces : List Piece}
    (first : Woven place lines operations pieces)
    (second : Woven (place + lines.length) more moreOperations morePieces)
    (parted : Parted operations more) :
    Woven place (lines ++ more) (operations ++ moreOperations) (pieces ++ morePieces) := by
  have counted (place : Nat) (line : Line) (rest : List Line) :
      place + (line :: rest).length = place + 1 + rest.length := by
    rw [List.length_cons]
    omega
  induction first with
  | done => exact second
  | hidden source _ inductionHypothesis =>
    rw [counted] at second
    exact (inductionHypothesis second parted).hidden source
  | @insert place lines operations pieces text due _ inductionHypothesis =>
    refine (inductionHypothesis second parted.tail).insert text fun source rest hides => ?_
    cases lines with
    | nil =>
      -- The insertion is the last thing of the first part: here the two parts must be parted.
      rcases parted with calm | visible
      · exact calm (.insert text) List.mem_cons_self rfl
      · exact visible source rest hides
    | cons line lines =>
      obtain ⟨rfl, _⟩ := List.cons_eq_cons.mp hides
      exact due source lines rfl
  | equal shown source _ inductionHypothesis =>
    rw [counted] at second
    exact (inductionHypothesis second parted.tail).equal shown source
  | delete shown source _ inductionHypothesis =>
    rw [counted] at second
    exact (inductionHypothesis second parted.tail).delete shown source
  | replace shown source text _ inductionHypothesis =>
    rw [counted] at second
    exact (inductionHypothesis second parted.tail).replace shown source text

/-! ### Hidden lines -/

/-- The hidden ones of some lines, as they stand in the source. -/
def hiddenSources (lines : List Line) : List String :=
  (lines.filter (·.output.isNone)).map (·.source)

/-- The hidden lines are among the pieces, in order. -/
theorem Woven.hiddenSources_sublist {place : Nat} {lines : List Line}
    {operations : List LineOp} {pieces : List Piece}
    (woven : Woven place lines operations pieces) :
    (hiddenSources lines).Sublist (pieces.map Piece.source) := by
  induction woven with
  | done => exact .slnil
  | hidden source _ inductionHypothesis => exact inductionHypothesis.cons_cons source
  | insert _ _ _ inductionHypothesis => exact inductionHypothesis.cons _
  | equal _ source _ inductionHypothesis => exact inductionHypothesis.cons source
  | delete _ _ _ inductionHypothesis => exact inductionHypothesis
  | replace _ _ _ _ inductionHypothesis => exact inductionHypothesis.cons _

/-! ### Cuts beside visible lines -/

/-- Lines that show two texts after one another can be cut just behind the last line of the
first. -/
theorem exists_cut_behind (lines : List Line) {front rest : List String}
    (shows : lines.filterMap (·.output) = front ++ rest) :
    ∃ head behind, lines = head ++ behind ∧ head.filterMap (·.output) = front ∧
      behind.filterMap (·.output) = rest ∧ ∀ line ∈ head.getLast?, line.output ≠ none := by
  induction lines generalizing front with
  | nil =>
    obtain ⟨rfl, rfl⟩ := List.append_eq_nil_iff.mp shows.symm
    exact ⟨[], [], rfl, rfl, rfl, nofun⟩
  | cons line lines inductionHypothesis =>
    cases front with
    | nil => exact ⟨[], line :: lines, rfl, rfl, shows, nofun⟩
    | cons text more =>
      obtain ⟨output, source⟩ := line
      cases output with
      | none =>
        obtain ⟨head, behind, rfl, inFront, atBack, visible⟩ := inductionHypothesis shows
        refine ⟨⟨none, source⟩ :: head, behind, rfl, inFront, atBack, ?_⟩
        cases head with
        | nil => cases inFront
        | cons => exact visible
      | some shown =>
        obtain ⟨rfl, later⟩ := List.cons_eq_cons.mp shows
        obtain ⟨head, behind, rfl, inFront, atBack, visible⟩ := inductionHypothesis later
        refine ⟨⟨some shown, source⟩ :: head, behind, rfl, congrArg (shown :: ·) inFront,
          atBack, ?_⟩
        cases head with
        | nil =>
          rintro line ⟨⟩
          nofun
        | cons => exact visible

/-- They can also be cut just before the first line of the second. -/
theorem exists_cut_before (lines : List Line) {rest back : List String}
    (shows : lines.filterMap (·.output) = rest ++ back) :
    ∃ before tail, lines = before ++ tail ∧ before.filterMap (·.output) = rest ∧
      tail.filterMap (·.output) = back ∧ ∀ line ∈ tail.head?, line.output ≠ none := by
  have turned : lines.reverse.filterMap (·.output) = back.reverse ++ rest.reverse := by
    rw [List.filterMap_reverse, shows, List.reverse_append]
  obtain ⟨head, behind, whole, inFront, atBack, visible⟩ := exists_cut_behind lines.reverse turned
  refine ⟨behind.reverse, head.reverse, ?_, ?_, ?_, ?_⟩
  · rw [← List.reverse_append, ← whole, List.reverse_reverse]
  · rw [List.filterMap_reverse, atBack, List.reverse_reverse]
  · rw [List.filterMap_reverse, inFront, List.reverse_reverse]
  · rw [List.head?_reverse]
    exact visible

end Fold

namespace Setup

open Fold

/-- The line at a place of a source renders to the text at an index of its rendering. -/
def RendersTo (setup : Setup) (source : List String) (place index : Nat) : Prop :=
  ∃ line text, (setup.pass source).lines[place]? = some line ∧ line.output = some text ∧
    (setup.pass source).visible[index]? = some text ∧
    visibleBefore (setup.pass source).lines place = index

/-- The beginning of a source up to and including the line that renders to the last of so many
texts; nothing if there are none. -/
def BeginsThrough (setup : Setup) (source : List String) (count : Nat) (head : List String) :
    Prop :=
  match count with
  | 0 => head = []
  | index + 1 => ∃ place, setup.RendersTo source place index ∧ head = source.take (place + 1)

/-- The end of a source from the line that renders to the first of the last so many texts; nothing
if there are none. -/
def EndsFrom (setup : Setup) (source : List String) (count : Nat) (tail : List String) : Prop :=
  match count with
  | 0 => tail = []
  | _ + 1 => ∃ place,
      setup.RendersTo source place ((setup.pass source).visible.length - count) ∧
        tail = source.drop place

variable {setup : Setup} {source canonical : List String}

theorem rendersTo_of_split {before after : List Line} {line : Line}
    (whole : (setup.pass source).lines = before ++ line :: after) (visible : line.output ≠ none) :
    setup.RendersTo source before.length (before.filterMap (·.output)).length := by
  obtain ⟨text, shows⟩ := Option.ne_none_iff_exists'.mp visible
  unfold RendersTo Pass.visible visibleBefore
  rw [whole]
  refine ⟨line, text, ?_, shows, ?_, ?_⟩
  · rw [List.getElem?_append_right (Nat.le_refl _), Nat.sub_self]
    rfl
  · rw [List.filterMap_append, List.filterMap_cons_some shows,
      List.getElem?_append_right (Nat.le_refl _), Nat.sub_self]
    rfl
  · rw [List.take_left]

theorem beginsThrough_of_split (renders : setup.Renders source) {head behind : List Line}
    (whole : (setup.pass source).lines = head ++ behind)
    (visible : ∀ line ∈ head.getLast?, line.output ≠ none) :
    setup.BeginsThrough source (head.filterMap (·.output)).length (head.map (·.source)) := by
  rcases List.eq_nil_or_concat' head with rfl | ⟨before, line, rfl⟩
  · exact rfl
  · have shows : line.output ≠ none := visible line List.getLast?_concat
    have split : (setup.pass source).lines = before ++ line :: behind := by
      rw [whole, List.append_assoc, List.singleton_append]
    have counted : ((before ++ [line]).filterMap (·.output)).length =
        (before.filterMap (·.output)).length + 1 := by
      obtain ⟨text, same⟩ := Option.ne_none_iff_exists'.mp shows
      rw [List.filterMap_append, List.length_append, List.filterMap_cons_some same]
      rfl
    have parts : source = (before ++ [line]).map (·.source) ++ behind.map (·.source) := by
      rw [← source_lines_pass renders, whole, List.map_append]
    have length : before.length + 1 = ((before ++ [line]).map (·.source)).length := by
      rw [List.length_map, List.length_append]
      rfl
    rw [counted]
    refine ⟨before.length, rendersTo_of_split split shows, ?_⟩
    rw [length, parts, List.take_left]

theorem endsFrom_of_split (renders : setup.Renders source) {before tail : List Line}
    (whole : (setup.pass source).lines = before ++ tail)
    (visible : ∀ line ∈ tail.head?, line.output ≠ none) :
    setup.EndsFrom source (tail.filterMap (·.output)).length (tail.map (·.source)) := by
  cases tail with
  | nil => exact rfl
  | cons line after =>
    have shows : line.output ≠ none := visible line rfl
    obtain ⟨text, same⟩ := Option.ne_none_iff_exists'.mp shows
    have counted : ((line :: after).filterMap (·.output)).length =
        (after.filterMap (·.output)).length + 1 := by
      rw [List.filterMap_cons_some same]
      rfl
    have place : (setup.pass source).visible.length - ((after.filterMap (·.output)).length + 1) =
        (before.filterMap (·.output)).length := by
      rw [Pass.visible, whole, List.filterMap_append, List.length_append, counted,
        Nat.add_sub_cancel]
    rw [counted]
    refine ⟨before.length, place ▸ rendersTo_of_split whole shows, ?_⟩
    have length : before.length = (before.map (·.source)).length := (List.length_map _).symm
    rw [← source_lines_pass renders, whole, List.map_append, length, List.drop_left]

/-- An edit that keeps the beginning and the end of a rendering leaves the source as it is up to
the line that renders to the last text of the beginning, and from the line that renders to the
first text of the end; between them all hidden lines stay, in order. -/
theorem foldBack_between (rendered : setup.render source = .ok canonical) (edited : List String) :
    ∃ front oldMiddle newMiddle back,
      Trimmed canonical edited front oldMiddle newMiddle back ∧
      ∃ head rest tail between,
        source = head ++ (rest ++ tail) ∧
        setup.BeginsThrough source front.length head ∧
        setup.EndsFrom source back.length tail ∧
        setup.foldBack source edited = .ok (head ++ (between ++ tail)) ∧
        (hiddenSources (((setup.pass source).lines.drop head.length).take rest.length)).Sublist
          between := by
  obtain ⟨renders, rfl⟩ := render_eq_ok_iff.mp rendered
  obtain ⟨front, oldMiddle, newMiddle, back, trimmed, middle, operations, replays⟩ :=
    exists_lineOps_trimmed (setup.pass source).visible edited
  refine ⟨front, oldMiddle, newMiddle, back, trimmed, ?_⟩
  obtain ⟨head, behind, cutFront, rfl, showsBehind, lastVisible⟩ :=
    exists_cut_behind (setup.pass source).lines trimmed.old_eq
  obtain ⟨rest, tail, rfl, showsRest, rfl, firstVisible⟩ := exists_cut_before behind showsBehind
  obtain ⟨pieces, woven⟩ := exists_woven (0 + head.length) rest (showsRest ▸ replays)
  have inner := woven.append (woven_allKept _ tail) (.inr fun source rest hides => by
    rw [hides] at firstVisible
    exact firstVisible _ rfl rfl)
  have weaves : setup.Weaves source edited
      (allKept 0 head ++ (pieces ++ allKept (0 + head.length + rest.length) tail)) := by
    unfold Weaves
    rw [operations, cutFront]
    exact (woven_allKept 0 head).append inner (.inl fun operation member => by
      obtain ⟨text, _, rfl⟩ := List.mem_map.mp member
      nofun)
  have parts : source = head.map (·.source) ++ (rest.map (·.source) ++ tail.map (·.source)) := by
    rw [← source_lines_pass renders, cutFront, List.map_append, List.map_append]
  refine ⟨head.map (·.source), rest.map (·.source), tail.map (·.source),
    pieces.map Piece.source, parts, beginsThrough_of_split renders cutFront lastVisible, ?_, ?_, ?_⟩
  · have cutBack : (setup.pass source).lines = (head ++ rest) ++ tail := by
      rw [cutFront, List.append_assoc]
    exact endsFrom_of_split renders cutBack firstVisible
  · rw [foldBack_of_weaves renders weaves, List.map_append, List.map_append, source_allKept,
      source_allKept]
  · rw [cutFront, List.length_map, List.length_map, List.drop_left, List.take_left]
    exact woven.hiddenSources_sublist

/-- The edited line stands between hidden branches, and the lines around it look like the lines
that the edit adds. -/
theorem foldBack_between_repeated_lines :
    bare.render ["a", "#@if web", "x", "#@else", "b", "#@endif", "a", "#@# end"] =
        .ok ["a", "b", "a"] ∧
      ∃ front oldMiddle newMiddle back,
        Trimmed ["a", "b", "a"] ["a", "c", "a", "a"] front oldMiddle newMiddle back ∧
        ∃ head rest tail between,
          ["a", "#@if web", "x", "#@else", "b", "#@endif", "a", "#@# end"] =
            head ++ (rest ++ tail) ∧
          bare.BeginsThrough ["a", "#@if web", "x", "#@else", "b", "#@endif", "a", "#@# end"]
            front.length head ∧
          bare.EndsFrom ["a", "#@if web", "x", "#@else", "b", "#@endif", "a", "#@# end"]
            back.length tail ∧
          bare.foldBack ["a", "#@if web", "x", "#@else", "b", "#@endif", "a", "#@# end"]
            ["a", "c", "a", "a"] = .ok (head ++ (between ++ tail)) ∧
          (hiddenSources (((bare.pass
            ["a", "#@if web", "x", "#@else", "b", "#@endif", "a", "#@# end"]).lines.drop
              head.length).take rest.length)).Sublist between := by
  have rendered :
      bare.render ["a", "#@if web", "x", "#@else", "b", "#@endif", "a", "#@# end"] =
        .ok ["a", "b", "a"] := by cbv
  exact ⟨rendered, foldBack_between rendered ["a", "c", "a", "a"]⟩

end Setup

end Foldback
