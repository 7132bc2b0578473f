/-
An edit that changes nothing. The script from a list of lines to itself keeps
every one, and so do the operations. The merge then takes every visible line as
it stands in the source, the escaped, the filled and the repeated ones too, so
what is folded back is the source itself.
-/

import Foldback.Proofs.Diff.Trimming
import Foldback.Proofs.Fold.RoundTrip

namespace Foldback

/-! ### A list aligned with itself -/

namespace Diff

/-- The operations that turn lines into themselves keep every one. -/
theorem lineOps_self (lines : List String) : lineOps lines lines = lines.map .equal := by
  have kept := LineOp.ofScript_keeps_append lines []
  rw [List.append_nil, ← script_self] at kept
  exact kept.trans (List.append_nil _)

end Diff

/-! ### Lines that are all kept -/

namespace Fold

/-- The pieces of a source that nothing was changed in. -/
def allKept (place : Nat) (lines : List Line) : List Piece :=
  (lines.zipIdx place).map fun (line, origin) => .kept origin line

theorem woven_allKept (place : Nat) (lines : List Line) :
    Woven place lines ((lines.filterMap (·.output)).map .equal) (allKept place lines) := by
  induction lines generalizing place with
  | nil => exact .done place
  | cons line rest inductionHypothesis =>
    obtain ⟨output, source⟩ := line
    cases output with
    | none => exact (inductionHypothesis (place + 1)).hidden source
    | some shown => exact (inductionHypothesis (place + 1)).equal shown source

theorem source_allKept (place : Nat) (lines : List Line) :
    (allKept place lines).map Piece.source = lines.map (·.source) := by
  induction lines generalizing place with
  | nil => rfl
  | cons line rest inductionHypothesis =>
    exact congrArg (line.source :: ·) (inductionHypothesis (place + 1))

end Fold

namespace Setup

open Fold

variable {setup : Setup} {source canonical : List String}

/-- Folding the unchanged rendering of a source back gives the source. -/
theorem foldBack_canonical (rendered : setup.render source = .ok canonical) :
    setup.foldBack source canonical = .ok source := by
  obtain ⟨renders, rfl⟩ := render_eq_ok_iff.mp rendered
  have weaves : setup.Weaves source (setup.pass source).visible
      (allKept 0 (setup.pass source).lines) := by
    unfold Weaves
    rw [Diff.lineOps_self]
    exact woven_allKept 0 (setup.pass source).lines
  rw [foldBack_of_weaves renders weaves, source_allKept, source_lines_pass renders]

set_option maxRecDepth 8000 in
/-- A repeated line, a filled placeholder, an escaped line in a hidden branch, and two blocks that
are left open. -/
theorem foldBack_canonical_of_open_blocks :
    bare.render ["a", "#@with p=a", "@@p@@", "#@if web", "#@@if", "a"] = .ok ["a", "a", "#@if"] ∧
      bare.foldBack ["a", "#@with p=a", "@@p@@", "#@if web", "#@@if", "a"] ["a", "a", "#@if"] =
        .ok ["a", "#@with p=a", "@@p@@", "#@if web", "#@@if", "a"] := by
  have rendered : bare.render ["a", "#@with p=a", "@@p@@", "#@if web", "#@@if", "a"] =
      .ok ["a", "a", "#@if"] := by cbv
  exact ⟨rendered, foldBack_canonical rendered⟩

end Setup

end Foldback
