/-
An alignment keeps as much as any could. The table over two sequences holds, in
every cell, a script that keeps a longest common subsequence of the suffixes that
the cell is for; where two first items differ, a common subsequence can use at
most one of them, so it lies behind the one or the other, and the better of the
two neighbours wins.

Common items at the two ends may be kept before the table is asked: a common
subsequence of two sequences with the same first item is at most one item longer
than one of what lies behind, and the same holds at the back. So what the equal
runs of an alignment keep is a longest common subsequence of the whole sequences,
as long as the table would have found without the trimming.
-/

import Mathlib
import Foldback.Proofs.Diff.Tiling

namespace Foldback.Diff

variable {α : Type}

/-! ### Longest common subsequences -/

/-- A common subsequence of two sequences, and no other one is longer. -/
structure LongestCommon (common old new : List α) : Prop where
  inOld : common.Sublist old
  inNew : common.Sublist new
  longest : ∀ other : List α, other.Sublist old → other.Sublist new →
    other.length ≤ common.length

namespace LongestCommon

variable {common less old new oldRest newRest : List α}

theorem length_eq {other : List α} (first : LongestCommon common old new)
    (second : LongestCommon other old new) : common.length = other.length :=
  Nat.le_antisymm (second.longest common first.inOld first.inNew)
    (first.longest other second.inOld second.inNew)

theorem symm (longest : LongestCommon common old new) : LongestCommon common new old :=
  ⟨longest.inNew, longest.inOld, fun other inNew inOld => longest.longest other inOld inNew⟩

theorem reverse (longest : LongestCommon common old new) :
    LongestCommon common.reverse old.reverse new.reverse := by
  refine ⟨longest.inOld.reverse, longest.inNew.reverse, fun other inOld inNew => ?_⟩
  have turned := longest.longest other.reverse (List.reverse_sublist.mp (by simpa using inOld))
    (List.reverse_sublist.mp (by simpa using inNew))
  simpa using turned

/-- An item that both sequences have in front can be kept. -/
theorem cons (longest : LongestCommon common old new) (item : α) :
    LongestCommon (item :: common) (item :: old) (item :: new) := by
  refine ⟨longest.inOld.cons_cons item, longest.inNew.cons_cons item, fun other inOld inNew => ?_⟩
  have behind := longest.longest other.tail inOld.tail inNew.tail
  rw [List.length_tail] at behind
  rw [List.length_cons]
  omega

theorem front (longest : LongestCommon common old new) (items : List α) :
    LongestCommon (items ++ common) (items ++ old) (items ++ new) := by
  induction items with
  | nil => exact longest
  | cons item _ inductionHypothesis => exact inductionHypothesis.cons item

theorem back (longest : LongestCommon common old new) (items : List α) :
    LongestCommon (common ++ items) (old ++ items) (new ++ items) := by
  have turned := (longest.reverse.front items.reverse).reverse
  simpa only [List.reverse_append, List.reverse_reverse] using turned

/-- Of two different first items a common subsequence uses at most one. -/
theorem sublist_behind {other : List α} {oldItem newItem : α} (differ : oldItem ≠ newItem)
    (inOld : other.Sublist (oldItem :: oldRest)) (inNew : other.Sublist (newItem :: newRest)) :
    other.Sublist oldRest ∨ other.Sublist newRest := by
  cases inOld with
  | cons _ behind => exact .inl behind
  | cons_cons _ _ =>
    cases inNew with
    | cons _ behind => exact .inr behind
    | cons_cons _ _ => exact absurd rfl differ

/-- The first old item is of no use if what lies behind it keeps as much as what lies behind a
different new one. -/
theorem drop {oldItem newItem : α} (differ : oldItem ≠ newItem)
    (behindOld : LongestCommon common oldRest (newItem :: newRest))
    (behindNew : LongestCommon less (oldItem :: oldRest) newRest)
    (enough : less.length ≤ common.length) :
    LongestCommon common (oldItem :: oldRest) (newItem :: newRest) := by
  refine ⟨behindOld.inOld.cons oldItem, behindOld.inNew, fun other inOld inNew => ?_⟩
  rcases sublist_behind differ inOld inNew with behind | behind
  · exact behindOld.longest other behind inNew
  · exact (behindNew.longest other inOld behind).trans enough

/-- Against an empty sequence an item is of no use. -/
theorem cons_nil (longest : LongestCommon common old []) (item : α) :
    LongestCommon common (item :: old) [] := by
  refine ⟨longest.inOld.cons item, longest.inNew, fun other _ inNew => ?_⟩
  rw [List.eq_nil_of_sublist_nil inNew]
  exact Nat.zero_le _

end LongestCommon

theorem longestCommon_nil : LongestCommon ([] : List α) [] [] :=
  ⟨.slnil, .slnil, fun _ inOld _ => inOld.length_le⟩

/-! ### What a script keeps -/

/-- The item that an edit keeps. -/
def Edit.kept? : Edit α → Option α
  | .keep item => some item
  | .drop _ | .add _ => none

/-- The items that a script keeps. -/
def keptItems (script : List (Edit α)) : List α :=
  script.filterMap Edit.kept?

theorem keptItems_append (first second : List (Edit α)) :
    keptItems (first ++ second) = keptItems first ++ keptItems second :=
  List.filterMap_append

theorem keptItems_keeps (items : List α) : keptItems (items.map .keep) = items := by
  rw [keptItems, List.filterMap_map]
  exact List.filterMap_some

namespace Cell

/-- A cell is best for two sequences: its script keeps a longest common subsequence, and its
number is the length of that. -/
structure Best (cell : Cell α) (old new : List α) : Prop where
  counted : cell.kept = (keptItems cell.script).length
  longest : LongestCommon (keptItems cell.script) old new

namespace Best

variable {cell both behindOld behindNew : Cell α} {old new oldRest newRest : List α}

theorem keeping (best : Best cell old new) (item : α) :
    Best (cell.keeping item) (item :: old) (item :: new) :=
  ⟨congrArg (· + 1) best.counted, best.longest.cons item⟩

theorem dropping (best : Best cell old new) {item : α}
    (longest : LongestCommon (keptItems cell.script) oldRest newRest) :
    Best (cell.dropping item) oldRest newRest :=
  ⟨best.counted, longest⟩

theorem adding (best : Best cell old new) {item : α}
    (longest : LongestCommon (keptItems cell.script) oldRest newRest) :
    Best (cell.adding item) oldRest newRest :=
  ⟨best.counted, longest⟩

/-- A cell chosen from three best neighbours is best. -/
theorem choose [DecidableEq α] {oldItem newItem : α} (bestBoth : Best both oldRest newRest)
    (bestOld : Best behindOld oldRest (newItem :: newRest))
    (bestNew : Best behindNew (oldItem :: oldRest) newRest) :
    Best (choose oldItem newItem both behindOld behindNew) (oldItem :: oldRest)
      (newItem :: newRest) := by
  unfold Cell.choose
  split
  · rename_i same
    rw [← same]
    exact bestBoth.keeping oldItem
  · rename_i differ
    split
    · rename_i enough
      rw [bestOld.counted, bestNew.counted] at enough
      exact bestOld.dropping (bestOld.longest.drop differ bestNew.longest enough)
    · rename_i short
      have enough := Nat.le_of_not_le short
      rw [bestOld.counted, bestNew.counted] at enough
      exact bestNew.adding
        (bestNew.longest.symm.drop (Ne.symm differ) bestOld.longest.symm enough).symm

end Best

end Cell

section Alignment

variable [DecidableEq α]

/-- The cell of two sequences is best, by the recurrence of the table. -/
theorem best_bestCell (old new : List α) : (bestCell old new).Best old new := by
  -- A cell rests on its three neighbours, two of which have the shorter old sequence.
  induction old generalizing new with
  | nil =>
    induction new with
    | nil => exact ⟨rfl, longestCommon_nil⟩
    | cons item rest inductionHypothesis =>
      rw [bestCell_nil_cons]
      exact inductionHypothesis.adding (inductionHypothesis.longest.symm.cons_nil item).symm
  | cons oldItem oldRest behindOld =>
    induction new with
    | nil =>
      rw [bestCell_cons_nil]
      exact (behindOld []).dropping ((behindOld []).longest.cons_nil oldItem)
    | cons newItem newRest behindNew =>
      rw [bestCell_cons_cons]
      exact (behindOld newRest).choose (behindOld (newItem :: newRest)) behindNew

theorem longestCommon_scriptBetween (old new : List α) :
    LongestCommon (keptItems (scriptBetween old new)) old new := by
  have shared := commonBack_suffix old new
  have whole := (best_bestCell (old.take (old.length - (commonBack old new).length))
    (new.take (new.length - (commonBack old new).length))).longest.back (commonBack old new)
  rw [List.suffix_iff_eq_append.mp shared.1, List.suffix_iff_eq_append.mp shared.2] at whole
  rw [scriptBetween, keptItems_append, keptItems_keeps]
  exact whole

/-- The script between two sequences keeps a longest common subsequence of them. -/
theorem longestCommon_script (old new : List α) :
    LongestCommon (keptItems (script old new)) old new := by
  have shared := commonFront_prefix old new
  have whole := (longestCommon_scriptBetween (old.drop (commonFront old new).length)
    (new.drop (commonFront old new).length)).front (commonFront old new)
  rw [List.prefix_iff_eq_append.mp shared.1, List.prefix_iff_eq_append.mp shared.2] at whole
  rw [script, keptItems_append, keptItems_keeps]
  exact whole

end Alignment

/-! ### What the runs keep -/

namespace Chunk

/-- The items that a chunk keeps. -/
def kept : Chunk α → List α
  | .same items => items
  | .changed _ _ => []

theorem flatMap_kept_consKeep (item : α) (chunks : List (Chunk α)) :
    (consKeep item chunks).flatMap kept = item :: chunks.flatMap kept := by
  unfold consKeep
  split <;> rfl

theorem flatMap_kept_consChanged (old new : List α) (chunks : List (Chunk α)) :
    (consChanged old new chunks).flatMap kept = chunks.flatMap kept := by
  unfold consChanged
  split <;> rfl

/-- The chunks of a script keep what the script keeps. -/
theorem flatMap_kept_ofScript (script : List (Edit α)) :
    (ofScript script).flatMap kept = keptItems script := by
  induction script with
  | nil => rfl
  | cons edit rest inductionHypothesis =>
    cases edit with
    | keep item =>
      rw [ofScript, flatMap_kept_consKeep, inductionHypothesis]
      rfl
    | drop item =>
      rw [ofScript, consDrop_eq_consChanged, flatMap_kept_consChanged, inductionHypothesis]
      rfl
    | add item =>
      rw [ofScript, consAdd_eq_consChanged, flatMap_kept_consChanged, inductionHypothesis]
      rfl

end Chunk

/-- The runs that keep items. -/
def equalRuns (runs : List Run) : List Run :=
  runs.filter (·.kind = .equal)

theorem equalRuns_cons_of_equal {run : Run} (equal : run.kind = .equal) (runs : List Run) :
    equalRuns (run :: runs) = run :: equalRuns runs :=
  List.filter_cons_of_pos (by simpa using equal)

theorem equalRuns_cons_of_ne {run : Run} (unequal : run.kind ≠ .equal) (runs : List Run) :
    equalRuns (run :: runs) = equalRuns runs :=
  List.filter_cons_of_neg (by simpa using unequal)

/-- The items of the equal runs are those that the marked chunks keep. -/
theorem equalRuns_of_marks {old new : List α} {runs : List Run} {chunks : List (Chunk α)}
    (marks : List.Forall₂ (fun run chunk => run.Marks chunk old new) runs chunks) :
    (equalRuns runs).flatMap (·.old.items old) = chunks.flatMap Chunk.kept ∧
      (equalRuns runs).flatMap (·.new.items new) = chunks.flatMap Chunk.kept ∧
      ((equalRuns runs).map (·.old.size)).sum = (chunks.flatMap Chunk.kept).length := by
  induction marks with
  | nil => exact ⟨rfl, rfl, rfl⟩
  | @cons run chunk runs chunks mark _ inductionHypothesis =>
    obtain ⟨onOld, onNew, total⟩ := inductionHypothesis
    cases chunk with
    | same items =>
      rw [equalRuns_cons_of_equal mark.kind]
      simp only [List.flatMap_cons, List.map_cons, List.sum_cons, mark.old.items_eq,
        mark.new.items_eq, mark.old.size, onOld, onNew, total, List.length_append]
      exact ⟨rfl, rfl, rfl⟩
    | changed oldItems newItems =>
      have unequal : run.kind ≠ .equal := by
        rw [mark.kind]
        exact Chunk.kind_changed_ne oldItems newItems
      rw [equalRuns_cons_of_ne unequal]
      exact ⟨onOld, onNew, total⟩

/-- The equal runs of an alignment keep a longest common subsequence of both sequences, on either
side; their total length is what the table keeps for the untrimmed sequences. -/
theorem longestCommon_equalRuns [DecidableEq α] (old new : List α) :
    ∃ common, LongestCommon common old new ∧
      (equalRuns (runs old new)).flatMap (·.old.items old) = common ∧
      (equalRuns (runs old new)).flatMap (·.new.items new) = common ∧
      ((equalRuns (runs old new)).map (·.old.size)).sum = common.length ∧
      (bestCell old new).kept = common.length := by
  have longest := longestCommon_script old new
  have best := best_bestCell old new
  obtain ⟨onOld, onNew, total⟩ := equalRuns_of_marks (marks_runs old new)
  rw [chunks, Chunk.flatMap_kept_ofScript] at onOld onNew total
  exact ⟨_, longest, onOld, onNew, total, best.counted.trans (best.longest.length_eq longest)⟩

end Foldback.Diff
