/-
What the pieces of a merged source are, whatever the edit. Read as operations
they are the operations of the edit without its deletions, so that read as
edited lines they are the edited text. The kept ones are lines of the old source
in their old order, every hidden line among them. And since neither a visible
line nor an escaped text is a command or a comment, the commands and comments
before a kept piece are those before its line in the old source.
-/

import Foldback.Proofs.Fold.Weave

namespace Foldback

open Diff Directive

/-! ### The edited lines -/

namespace Fold

theorem Piece.text_operation? (piece : Piece) :
    piece.operation?.map LineOp.text = piece.edited? := by
  rcases piece with ⟨_, ⟨_ | shown, source⟩⟩ | ⟨text, _ | _⟩ <;> rfl

namespace Woven

variable {place : Nat} {lines : List Line} {operations : List LineOp} {pieces : List Piece}

/-- The pieces stand for the operations that are not deletions, in order. -/
theorem filterMap_operation? (woven : Woven place lines operations pieces) :
    pieces.filterMap Piece.operation? = operations.filter (·.kind ≠ .delete) := by
  induction woven with
  | done => rfl
  | hidden _ _ inductionHypothesis => exact inductionHypothesis
  | insert text _ _ inductionHypothesis =>
    exact congrArg (LineOp.insert text :: ·) inductionHypothesis
  | equal shown _ _ inductionHypothesis =>
    exact congrArg (LineOp.equal shown :: ·) inductionHypothesis
  | delete _ _ _ inductionHypothesis => exact inductionHypothesis
  | replace _ _ text _ inductionHypothesis =>
    exact congrArg (LineOp.replace text :: ·) inductionHypothesis

/-- The pieces stand for the edited lines, in order. -/
theorem filterMap_edited? (woven : Woven place lines operations pieces) {old new : List String}
    (replays : Replays operations old new) : pieces.filterMap Piece.edited? = new := by
  rw [← replays.map_text, ← woven.filterMap_operation?, List.map_filterMap]
  exact congrArg (pieces.filterMap ·) (funext fun piece => piece.text_operation?.symm)

/-! ### The kept lines -/

/-- The kept pieces are lines of the old source with their places, in order. -/
theorem filterMap_kept?_sublist (woven : Woven place lines operations pieces) :
    (pieces.filterMap Piece.kept?).Sublist (lines.zipIdx place) := by
  induction woven with
  | done => exact List.Sublist.slnil
  | hidden source _ inductionHypothesis => exact inductionHypothesis.cons_cons _
  | insert _ _ _ inductionHypothesis => exact inductionHypothesis
  | equal shown source _ inductionHypothesis => exact inductionHypothesis.cons_cons _
  | delete _ _ _ inductionHypothesis => exact inductionHypothesis.cons _
  | replace _ _ _ _ inductionHypothesis => exact inductionHypothesis.cons _

/-- Every hidden line of the old source is kept. -/
theorem filter_hidden_kept? (woven : Woven place lines operations pieces) :
    (pieces.filterMap Piece.kept?).filter (·.1.output.isNone) =
      (lines.zipIdx place).filter (·.1.output.isNone) := by
  induction woven with
  | done => rfl
  | hidden source _ inductionHypothesis => exact congrArg (_ :: ·) inductionHypothesis
  | insert _ _ _ inductionHypothesis => exact inductionHypothesis
  | equal _ _ _ inductionHypothesis => exact inductionHypothesis
  | delete _ _ _ inductionHypothesis => exact inductionHypothesis
  | replace _ _ _ _ inductionHypothesis => exact inductionHypothesis

/-- What is woven before a kept piece is woven from the lines before its line. -/
theorem split_kept (woven : Woven place lines operations pieces) {before after : List Piece}
    {origin : Nat} {line : Line} (split : pieces = before ++ .kept origin line :: after) :
    ∃ first second firstOperations, lines = first ++ line :: second ∧
      origin = place + first.length ∧ Woven place first firstOperations before := by
  induction woven generalizing before with
  | done place =>
    cases before <;> cases split
  | @hidden place rest operations pieces source _ inductionHypothesis =>
    rcases List.cons_eq_append_iff.mp split with ⟨rfl, here⟩ | ⟨beforeRest, rfl, later⟩
    · cases here
      exact ⟨[], rest, [], rfl, rfl, .done _⟩
    · obtain ⟨first, second, firstOperations, rfl, rfl, start⟩ := inductionHypothesis later
      exact ⟨⟨none, source⟩ :: first, second, firstOperations, rfl, by simp; omega,
        start.hidden source⟩
  | @insert place lines operations pieces text due _ inductionHypothesis =>
    rcases List.cons_eq_append_iff.mp split with ⟨rfl, here⟩ | ⟨beforeRest, rfl, later⟩
    · cases here
    · obtain ⟨first, second, firstOperations, whole, rfl, start⟩ := inductionHypothesis later
      refine ⟨first, second, .insert text :: firstOperations, whole, rfl,
        start.insert text fun source rest hides => ?_⟩
      rw [hides] at whole
      exact due _ _ whole
  | @equal place rest operations pieces shown source _ inductionHypothesis =>
    rcases List.cons_eq_append_iff.mp split with ⟨rfl, here⟩ | ⟨beforeRest, rfl, later⟩
    · cases here
      exact ⟨[], rest, [], rfl, rfl, .done _⟩
    · obtain ⟨first, second, firstOperations, rfl, rfl, start⟩ := inductionHypothesis later
      exact ⟨⟨some shown, source⟩ :: first, second, .equal shown :: firstOperations, rfl,
        by simp; omega, start.equal shown source⟩
  | delete shown source _ inductionHypothesis =>
    obtain ⟨first, second, firstOperations, rfl, rfl, start⟩ := inductionHypothesis split
    exact ⟨⟨some shown, source⟩ :: first, second, .delete shown :: firstOperations, rfl,
      by simp; omega, start.delete shown source⟩
  | replace shown source text _ inductionHypothesis =>
    rcases List.cons_eq_append_iff.mp split with ⟨rfl, here⟩ | ⟨beforeRest, rfl, later⟩
    · cases here
    · obtain ⟨first, second, firstOperations, rfl, rfl, start⟩ := inductionHypothesis later
      exact ⟨⟨some shown, source⟩ :: first, second, .replace text :: firstOperations, rfl,
        by simp; omega, start.replace shown source text⟩

end Woven

/-! ### Commands and comments -/

/-- No visible line is a command or a comment. -/
def VisibleLoud (lines : List Line) : Prop :=
  ∀ line ∈ lines, ∀ shown, line.output = some shown → isSilent line.source = false

theorem VisibleLoud.tail {line : Line} {rest : List Line} (loud : VisibleLoud (line :: rest)) :
    VisibleLoud rest :=
  fun other member => loud other (List.mem_cons_of_mem line member)

/-- The pieces have the commands and comments of the old source, in order. -/
theorem Woven.silentLines_source {place : Nat} {lines : List Line} {operations : List LineOp}
    {pieces : List Piece} (woven : Woven place lines operations pieces)
    (loud : VisibleLoud lines) :
    silentLines (pieces.map Piece.source) = silentLines (lines.map (·.source)) := by
  induction woven with
  | done => rfl
  | hidden source _ inductionHypothesis =>
    exact silentLines_cons_congr source (inductionHypothesis loud.tail)
  | insert text _ _ inductionHypothesis =>
    exact (silentLines_cons_of_not_silent (isSilent_escape text) _).trans (inductionHypothesis loud)
  | equal shown source _ inductionHypothesis =>
    exact silentLines_cons_congr source (inductionHypothesis loud.tail)
  | delete shown source _ inductionHypothesis =>
    have dropped := silentLines_cons_of_not_silent (loud _ List.mem_cons_self shown rfl)
    exact (inductionHypothesis loud.tail).trans (dropped _).symm
  | replace shown source text _ inductionHypothesis =>
    have dropped := silentLines_cons_of_not_silent (loud _ List.mem_cons_self shown rfl)
    exact (silentLines_cons_of_not_silent (isSilent_escape text) _).trans
      ((inductionHypothesis loud.tail).trans (dropped _).symm)

end Fold

namespace Setup

open Fold

theorem visibleLoud_pass {setup : Setup} {source : List String} (renders : setup.Renders source) :
    VisibleLoud (setup.pass source).lines := by
  intro line member shown visible
  rw [lines_pass renders] at member
  obtain ⟨place, inside, rfl⟩ := List.mem_mapIdx.mp member
  exact isSilent_eq_false_of_shown visible

theorem source_lines_pass {setup : Setup} {source : List String} (renders : setup.Renders source) :
    (setup.pass source).lines.map (·.source) = source := by
  rw [lines_pass renders]
  refine List.ext_getElem? fun place => ?_
  rw [List.getElem?_map, List.getElem?_mapIdx, Option.map_map]
  cases source[place]? <;> rfl

/-- A merged source has the commands and comments of the source, in order. -/
theorem silentLines_of_weaves {setup : Setup} {source edited : List String} {pieces : List Piece}
    (renders : setup.Renders source) (weaves : setup.Weaves source edited pieces) :
    silentLines (pieces.map Piece.source) = silentLines source := by
  rw [weaves.silentLines_source (visibleLoud_pass renders), source_lines_pass renders]

/-- Before a kept piece stand the commands and comments that stand before its line in the
source. -/
theorem silentLines_before_kept {setup : Setup} {source edited : List String}
    {before after : List Piece} {origin : Nat} {line : Line} (renders : setup.Renders source)
    (weaves : setup.Weaves source edited (before ++ .kept origin line :: after)) :
    (setup.pass source).lines[origin]? = some line ∧
      silentLines (before.map Piece.source) = silentLines (source.take origin) := by
  obtain ⟨first, second, _, whole, rfl, start⟩ := weaves.split_kept rfl
  have loud : VisibleLoud first := by
    intro other member
    refine visibleLoud_pass renders other ?_
    rw [whole]
    exact List.mem_append_left _ member
  have taken : source.take first.length = first.map (·.source) := by
    rw [← source_lines_pass renders, whole, List.map_append, List.take_left' (List.length_map ..)]
  rw [Nat.zero_add, whole, taken, start.silentLines_source loud]
  exact ⟨List.getElem?_append_right (Nat.le_refl _) |>.trans (by rw [Nat.sub_self]; rfl), rfl⟩

end Setup

end Foldback
