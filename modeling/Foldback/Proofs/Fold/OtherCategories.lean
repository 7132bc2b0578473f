/-
What an edit under some categories leaves alone under all others. The merge does
not know of them, but a pass under any categories hangs on the commands of its
source, and those an edit cannot touch: they are hidden lines, which stay, and
no text of an edit is read as one of them. So a merged source renders under
other categories exactly if the source did, and every line that was kept shows
there what it showed before.

What holds of one edit holds of any number of them, each under categories of its
own.
-/

import Foldback.Proofs.Fold.RoundTrip

namespace Foldback

open Diff Directive Fold

namespace Setup

/-! ### One edit -/

variable {setup view : Setup} {source edited : List String} {pieces : List Piece}

theorem source_of_kept (renders : setup.Renders source)
    (weaves : setup.Weaves source edited pieces) {place origin : Nat} {line : Line}
    (there : pieces[place]? = some (.kept origin line)) : source[origin]? = some line.source := by
  obtain ⟨before, after, rfl, rfl⟩ := exists_split_of_getElem? there
  have found := (silentLines_before_kept renders weaves).1
  rw [← source_lines_pass renders, List.getElem?_map, found]
  rfl

/-- Under any setup, a kept line is rendered in the merged source as it is in the source. -/
theorem lines_pass_kept (ignores : view.commands.IgnoresLines) (renders : setup.Renders source)
    (viewRenders : view.Renders source) (weaves : setup.Weaves source edited pieces)
    {place origin : Nat} {line : Line} (there : pieces[place]? = some (.kept origin line)) :
    (view.pass (pieces.map Piece.source)).lines[place]? = (view.pass source).lines[origin]? := by
  have mergedRenders := (renders_merged_iff ignores renders weaves).mpr viewRenders
  rw [lines_pass mergedRenders, lines_pass viewRenders, List.getElem?_mapIdx,
    List.getElem?_mapIdx, List.getElem?_map, there, source_of_kept renders weaves there]
  show some (Line.mk (BlockStack.shown _ line.source) line.source) = some (Line.mk _ line.source)
  rw [shown_kept ignores renders viewRenders weaves there]

/-- A text of the edit goes into the merged source in its escaped form. -/
theorem source_of_fresh (weaves : setup.Weaves source edited pieces) {place : Nat} {text : String}
    {replaces : Bool} (there : pieces[place]? = some (.fresh text replaces)) :
    (pieces.map Piece.source)[place]? = some (escape text) ∧ text ∈ edited := by
  refine ⟨?_, ?_⟩
  · rw [List.getElem?_map, there]
    rfl
  · rw [← filterMap_edited?_of_weaves weaves]
    exact List.mem_filterMap.mpr ⟨_, List.mem_of_getElem? there, rfl⟩

/-! ### Any number of edits -/

/-- Some edit under some categories turns the first source into the second. -/
def FoldsBack (firstLine : String → Except FileError String) (source merged : List String) : Prop :=
  ∃ active edited, (builtin active firstLine).foldBack source edited = .ok merged

variable {firstLine : String → Except FileError String} {merged : List String}

theorem FoldsBack.silentLines (folds : FoldsBack firstLine source merged) :
    silentLines merged = silentLines source := by
  obtain ⟨active, edited, folded⟩ := folds
  obtain ⟨renders, pieces, weaves, rfl⟩ := exists_weaves_of_foldBack folded
  exact silentLines_of_weaves renders weaves

theorem FoldsBack.renders_iff (folds : FoldsBack firstLine source merged) (other : Categories) :
    (builtin other firstLine).Renders merged ↔ (builtin other firstLine).Renders source := by
  obtain ⟨active, edited, folded⟩ := folds
  obtain ⟨renders, pieces, weaves, rfl⟩ := exists_weaves_of_foldBack folded
  exact renders_merged_iff ignoresLines_builtin renders weaves

theorem silentLines_of_run {first last : List String}
    (run : Relation.ReflTransGen (FoldsBack firstLine) first last) :
    Directive.silentLines last = Directive.silentLines first := by
  induction run with
  | refl => rfl
  | tail _ folds inductionHypothesis => exact folds.silentLines.trans inductionHypothesis

theorem renders_iff_of_run {first last : List String}
    (run : Relation.ReflTransGen (FoldsBack firstLine) first last) (other : Categories) :
    (builtin other firstLine).Renders last ↔ (builtin other firstLine).Renders first := by
  induction run with
  | refl => rfl
  | tail _ folds inductionHypothesis => exact (folds.renders_iff other).trans inductionHypothesis

/-- Folding an edit back under some categories keeps the commands and comments, and under all
other categories it keeps whether the source renders and what the kept lines show; all other
lines are escaped texts of the edit. A run of such edits keeps the commands and comments too, and
whether the source renders. -/
theorem foldBack_under_others (firstLine : String → Except FileError String) :
    (∀ active source edited merged,
      (builtin active firstLine).foldBack source edited = .ok merged →
        Directive.silentLines merged = Directive.silentLines source ∧
        (∀ other, (builtin other firstLine).Renders merged ↔
          (builtin other firstLine).Renders source) ∧
        ∃ pieces : List Piece, (builtin active firstLine).Weaves source edited pieces ∧
          merged = pieces.map Piece.source ∧
          (pieces.filterMap Piece.kept?).Sublist
            ((builtin active firstLine).pass source).lines.zipIdx ∧
          (pieces.filterMap Piece.kept?).filter (·.1.output.isNone) =
            ((builtin active firstLine).pass source).lines.zipIdx.filter (·.1.output.isNone) ∧
          pieces.filterMap Piece.operation? =
            (lineOps ((builtin active firstLine).pass source).visible edited).filter
              (·.kind ≠ .delete) ∧
          (∀ (place origin : Nat) (line : Line), pieces[place]? = some (.kept origin line) →
            source[origin]? = some line.source ∧ merged[place]? = some line.source ∧
            ∀ other, (builtin other firstLine).Renders source →
              ((builtin other firstLine).pass merged).lines[place]? =
                ((builtin other firstLine).pass source).lines[origin]?) ∧
          (∀ (place : Nat) text replaces, pieces[place]? = some (.fresh text replaces) →
            merged[place]? = some (escape text) ∧ text ∈ edited)) ∧
    (∀ first last, Relation.ReflTransGen (FoldsBack firstLine) first last →
      Directive.silentLines last = Directive.silentLines first ∧
      ∀ other, (builtin other firstLine).Renders last ↔
        (builtin other firstLine).Renders first) := by
  refine ⟨fun active source edited merged folded => ?_, fun first last run =>
    ⟨silentLines_of_run run, renders_iff_of_run run⟩⟩
  have folds : FoldsBack firstLine source merged := ⟨active, edited, folded⟩
  refine ⟨folds.silentLines, folds.renders_iff, ?_⟩
  obtain ⟨renders, pieces, weaves, rfl⟩ := exists_weaves_of_foldBack folded
  refine ⟨pieces, weaves, rfl, weaves.filterMap_kept?_sublist, weaves.filter_hidden_kept?,
    weaves.filterMap_operation?, ?_, fun place text replaces => source_of_fresh weaves⟩
  intro place origin line there
  refine ⟨source_of_kept renders weaves there, ?_, fun other otherRenders => ?_⟩
  · rw [List.getElem?_map, there]
    rfl
  · exact lines_pass_kept ignoresLines_builtin renders otherRenders weaves there

theorem foldBack_under_others_two_hosts :
    bare.foldBack ["#@if web", "on", "#@else", "off", "#@endif"] ["none", "#@x"] =
        .ok ["#@if web", "on", "#@else", "none", "#@endif", "#@@x"] ∧
      (builtin (.ofList ["web"]) bare.firstLine).foldBack
          ["#@if web", "on", "#@else", "none", "#@endif", "#@@x"] ["#@y", "#@x"] =
        .ok ["#@if web", "#@@y", "#@else", "none", "#@endif", "#@@x"] ∧
      Directive.silentLines ["#@if web", "on", "#@else", "none", "#@endif", "#@@x"] =
        Directive.silentLines ["#@if web", "on", "#@else", "off", "#@endif"] ∧
      (∃ pieces : List Piece,
        ["#@if web", "on", "#@else", "none", "#@endif", "#@@x"] = pieces.map Piece.source ∧
        ∀ (place : Nat) text replaces, pieces[place]? = some (.fresh text replaces) →
          text ∈ ["none", "#@x"]) ∧
      ∀ other, (builtin other bare.firstLine).Renders
          ["#@if web", "#@@y", "#@else", "none", "#@endif", "#@@x"] ↔
        (builtin other bare.firstLine).Renders ["#@if web", "on", "#@else", "off", "#@endif"] := by
  have first : bare.foldBack ["#@if web", "on", "#@else", "off", "#@endif"] ["none", "#@x"] =
      .ok ["#@if web", "on", "#@else", "none", "#@endif", "#@@x"] := by cbv
  have second : (builtin (.ofList ["web"]) bare.firstLine).foldBack
      ["#@if web", "on", "#@else", "none", "#@endif", "#@@x"] ["#@y", "#@x"] =
        .ok ["#@if web", "#@@y", "#@else", "none", "#@endif", "#@@x"] := by cbv
  obtain ⟨one, run⟩ := foldBack_under_others bare.firstLine
  obtain ⟨silent, _, pieces, _, same, _, _, _, _, fresh⟩ := one _ _ _ _ first
  refine ⟨first, second, silent, ⟨pieces, same, fun place text replaces there => ?_⟩, ?_⟩
  · exact (fresh place text replaces there).2
  · exact (run _ _ (.tail (.single ⟨_, _, first⟩) ⟨_, _, second⟩)).2

end Setup

end Foldback
