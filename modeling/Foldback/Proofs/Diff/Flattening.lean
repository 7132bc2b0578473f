/-
An alignment of lines, flattened to operations, can be carried out line by line.
Walking over the old lines, the operations that keep or delete find the line that
they carry, those that replace take any line, and no line is left over; the texts
of the operations that do not delete are the new lines.

The operations of one run do the same for the lines of that run. A changed run
with lines on both sides is paired off from its start: as many lines are replaced
as both sides have, and the surplus of one side is inserted or deleted.
-/

import Foldback.Proofs.Diff.Tiling

namespace Foldback.Diff

/-- Walks over lines with operations and gives the lines that are left, if every operation fits.
One that keeps or deletes a line must carry its text; an insertion takes no line. -/
def replay : List LineOp → List String → Option (List String)
  | [], lines => some lines
  | .insert _ :: later, lines => replay later lines
  | .replace _ :: later, _ :: lines => replay later lines
  | .equal text :: later, line :: lines => if text = line then replay later lines else none
  | .delete text :: later, line :: lines => if text = line then replay later lines else none
  | _ :: _, [] => none

/-- Operations that replay some lines take exactly those, whatever stands behind them. -/
theorem Replays.replay_append {operations : List LineOp} {old new : List String}
    (replays : Replays operations old new) (behind : List String) :
    replay operations (old ++ behind) = some behind := by
  induction replays with
  | done => rfl
  | equal text _ inductionHypothesis => exact (if_pos rfl).trans inductionHypothesis
  | insert text _ inductionHypothesis => exact inductionHypothesis
  | delete text _ inductionHypothesis => exact (if_pos rfl).trans inductionHypothesis
  | replace before text _ inductionHypothesis => exact inductionHypothesis

theorem Replays.replay_eq {operations : List LineOp} {old new : List String}
    (replays : Replays operations old new) : replay operations old = some [] := by
  have whole := replays.replay_append []
  rw [List.append_nil] at whole
  exact whole

/-! ### The operations of a run -/

/-- The kinds of the operations for a run in order: as many replacements as both sides have lines,
then the surplus. -/
def Run.operationKinds (run : Run) : List RunKind :=
  if run.kind = .equal then List.replicate run.old.size .equal
  else
    List.replicate (min run.old.size run.new.size) .replace ++
      List.replicate (run.new.size - run.old.size) .insert ++
      List.replicate (run.old.size - run.new.size) .delete

theorem map_kind_ofChunk_changed (old new : List String) :
    (LineOp.ofChunk (.changed old new)).map LineOp.kind =
      List.replicate (min old.length new.length) .replace ++
        List.replicate (new.length - old.length) .insert ++
        List.replicate (old.length - new.length) .delete := by
  have inserts : new.length - min old.length new.length = new.length - old.length := by omega
  have deletes : old.length - min old.length new.length = old.length - new.length := by omega
  simp only [LineOp.ofChunk, List.map_append, List.map_map, Function.comp_def, LineOp.kind,
    List.map_const', List.length_take, List.length_drop, inserts, deletes]
  rw [Nat.min_eq_left (Nat.min_le_right _ _)]

theorem Run.Marks.map_kind_ofChunk {run : Run} {chunk : Chunk String} {old new : List String}
    (marks : run.Marks chunk old new) :
    (LineOp.ofChunk chunk).map LineOp.kind = run.operationKinds := by
  rw [Run.operationKinds, marks.kind, marks.old.size, marks.new.size]
  cases chunk with
  | same lines =>
    have equal : (Chunk.same lines).kind = .equal := rfl
    rw [if_pos equal, LineOp.ofChunk, List.map_map]
    exact List.map_const' ..
  | changed oldLines newLines =>
    rw [if_neg (Chunk.kind_changed_ne _ _)]
    exact map_kind_ofChunk_changed oldLines newLines

/-- The operations between two lists of lines replay the old ones to the last and carry the new
ones. They fall into parts, one for each run, that do so for the lines of the run; a changed run
gives replacements as far as both of its sides reach, and then the surplus. -/
theorem replay_lineOps (old new : List String) :
    replay (lineOps old new) old = some [] ∧
      ((lineOps old new).filter (·.kind ≠ .delete)).map LineOp.text = new ∧
      ∃ parts : List (List LineOp), lineOps old new = parts.flatten ∧
        List.Forall₂
          (fun run part => part.map LineOp.kind = run.operationKinds ∧
            replay part (run.old.items old) = some [] ∧
            (part.filter (·.kind ≠ .delete)).map LineOp.text = run.new.items new)
          (runs old new) parts := by
  have replays := replays_lineOps old new
  refine ⟨replays.replay_eq, replays.map_text, (chunks old new).map LineOp.ofChunk, ?_, ?_⟩
  · rw [lineOps, List.flatMap_def]
  · refine List.forall₂_map_right_iff.mpr ((marks_runs old new).imp fun run chunk marks => ?_)
    rw [marks.old.items_eq, marks.new.items_eq]
    exact ⟨marks.map_kind_ofChunk, (replays_ofChunk chunk).replay_eq,
      (replays_ofChunk chunk).map_text⟩

example : lineOps ["a", "b"] ["a", "B", "c"] = [.equal "a", .replace "B", .insert "c"] := by decide

end Foldback.Diff
