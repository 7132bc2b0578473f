/-
The runs of an alignment tile the two sequences. Taken one after another they
lead from both starts to both ends, without a gap and without an overlap; equal
runs and others take turns, and every run has items on the sides that its kind
names, the same ones on both if it is equal.

Two facts carry this. The chunks that a script is gathered to are never empty,
and kept and changed ones alternate, because an item that comes in front joins a
chunk of its own sort where there is one. And a run marks where its chunk stands
in both sequences, so what holds of the chunk can be read off there.
-/

import Mathlib.Data.List.Chain
import Mathlib.Data.List.Forall2
import Foldback.Proofs.Diff.Replay

namespace Foldback.Diff

variable {α : Type}

/-! ### Items in a range -/

namespace IndexRange

/-- The items that stand in a range of a sequence. -/
def items (range : IndexRange) (whole : List α) : List α :=
  (whole.drop range.start).take range.size

/-- A range is the place of some items in a sequence. -/
structure Holds (range : IndexRange) (items whole : List α) : Prop where
  stop : range.stop = range.start + items.length
  inside : ∃ before after, whole = before ++ (items ++ after) ∧ before.length = range.start

theorem holds_behind (before items after : List α) :
    Holds ⟨before.length, before.length + items.length⟩ items (before ++ (items ++ after)) :=
  ⟨rfl, before, after, rfl, rfl⟩

namespace Holds

variable {range : IndexRange} {items whole : List α}

theorem size (holds : range.Holds items whole) : range.size = items.length := by
  rw [IndexRange.size, holds.stop, Nat.add_sub_cancel_left]

theorem items_eq (holds : range.Holds items whole) : range.items whole = items := by
  obtain ⟨before, after, rfl, place⟩ := holds.inside
  rw [IndexRange.items, holds.size, ← place, List.drop_left, List.take_left]

theorem getElem? (holds : range.Holds items whole) {place : Nat} (early : place < range.size) :
    whole[range.start + place]? = items[place]? := by
  rw [holds.size] at early
  obtain ⟨before, after, rfl, start⟩ := holds.inside
  rw [← start, List.getElem?_append_right (Nat.le_add_right _ _), Nat.add_sub_cancel_left,
    List.getElem?_append_left early]

end Holds

end IndexRange

/-! ### Runs as the places of chunks -/

/-- A run tells the kind and the place of a chunk in two sequences. -/
structure Run.Marks (run : Run) (chunk : Chunk α) (old new : List α) : Prop where
  kind : run.kind = chunk.kind
  old : run.old.Holds chunk.old old
  new : run.new.Holds chunk.new new

/-- Behind what was passed, the runs mark the chunks that are left. -/
theorem marks_runsFrom (oldPassed newPassed : List α) (chunks : List (Chunk α)) :
    List.Forall₂
      (fun run chunk => run.Marks chunk (oldPassed ++ chunks.flatMap Chunk.old)
        (newPassed ++ chunks.flatMap Chunk.new))
      (runsFrom oldPassed.length newPassed.length chunks) chunks := by
  induction chunks generalizing oldPassed newPassed with
  | nil => exact .nil
  | cons chunk rest inductionHypothesis =>
    simp only [List.flatMap_cons]
    refine .cons ⟨rfl, IndexRange.holds_behind _ _ _, IndexRange.holds_behind _ _ _⟩ ?_
    have behind := inductionHypothesis (oldPassed ++ chunk.old) (newPassed ++ chunk.new)
    rw [List.length_append, List.length_append, List.append_assoc, List.append_assoc] at behind
    exact behind

theorem marks_runs [DecidableEq α] (old new : List α) :
    List.Forall₂ (fun run chunk => run.Marks chunk old new) (runs old new) (chunks old new) := by
  have marks := marks_runsFrom [] [] (chunks old new)
  rw [flatMap_old_chunks, flatMap_new_chunks] at marks
  exact marks

/-- Runs go on, each where the one before it stops, from a pair of indices to another. -/
inductive Run.Path : Nat → Nat → List Run → Nat → Nat → Prop where
  | done (oldAt newAt : Nat) : Path oldAt newAt [] oldAt newAt
  | run {oldEnd newEnd : Nat} {rest : List Run} (run : Run)
      (behind : Path run.old.stop run.new.stop rest oldEnd newEnd) :
      Path run.old.start run.new.start (run :: rest) oldEnd newEnd

theorem path_runsFrom (oldAt newAt : Nat) (chunks : List (Chunk α)) :
    Run.Path oldAt newAt (runsFrom oldAt newAt chunks)
      (oldAt + (chunks.flatMap Chunk.old).length) (newAt + (chunks.flatMap Chunk.new).length) := by
  induction chunks generalizing oldAt newAt with
  | nil => exact .done oldAt newAt
  | cons chunk rest inductionHypothesis =>
    simp only [List.flatMap_cons, List.length_append, ← Nat.add_assoc]
    exact .run ⟨chunk.kind, ⟨oldAt, _⟩, ⟨newAt, _⟩⟩ (inductionHypothesis _ _)

/-! ### Chunks take turns -/

/-- Of two kinds exactly one is equal. -/
def RunKind.TurnsTo (first second : RunKind) : Prop :=
  first = .equal ↔ second ≠ .equal

namespace Chunk

/-- A chunk has items. -/
def Filled (chunk : Chunk α) : Prop :=
  chunk.old ≠ [] ∨ chunk.new ≠ []

theorem kind_changed_ne (old new : List α) : (changed old new).kind ≠ .equal := by
  rcases old with _ | ⟨item, rest⟩ <;> rcases new with _ | ⟨other, more⟩ <;> nofun

theorem same_turnsTo_changed (items old new : List α) :
    (same items).kind.TurnsTo (changed old new).kind :=
  iff_of_true rfl (kind_changed_ne old new)

theorem changed_turnsTo_same (old new items : List α) :
    (changed old new).kind.TurnsTo (same items).kind :=
  iff_of_false (kind_changed_ne old new) fun other => other rfl

/-- All chunks have items, and kept ones and changed ones take turns. -/
structure Tidy (chunks : List (Chunk α)) : Prop where
  filled : ∀ chunk ∈ chunks, chunk.Filled
  turns : (chunks.map kind).IsChain RunKind.TurnsTo

theorem tidy_nil : Tidy ([] : List (Chunk α)) :=
  ⟨fun _ none => (nomatch none), .nil⟩

theorem tidy_single {chunk : Chunk α} (filled : chunk.Filled) : Tidy [chunk] :=
  ⟨List.forall_mem_singleton.mpr filled, .singleton chunk.kind⟩

namespace Tidy

variable {chunk : Chunk α} {chunks rest : List (Chunk α)}

theorem push {next : Chunk α} (tidy : Tidy (next :: rest)) (turns : chunk.kind.TurnsTo next.kind)
    (filled : chunk.Filled) : Tidy (chunk :: next :: rest) :=
  ⟨List.forall_mem_cons.mpr ⟨filled, tidy.filled⟩, tidy.turns.cons_cons turns⟩

/-- The first chunk may get other items, as long as it has some and stays kept or changed. -/
theorem refill {refilled : Chunk α} (tidy : Tidy (chunk :: rest))
    (alike : refilled.kind = .equal ↔ chunk.kind = .equal) (filled : refilled.Filled) :
    Tidy (refilled :: rest) := by
  refine ⟨List.forall_mem_cons.mpr ⟨filled, (List.forall_mem_cons.mp tidy.filled).2⟩, ?_⟩
  obtain ⟨first, later⟩ := List.isChain_cons.mp tidy.turns
  exact List.isChain_cons.mpr ⟨fun next member => alike.trans (first next member), later⟩

theorem refill_changed {old new oldItems newItems : List α}
    (tidy : Tidy (.changed old new :: rest)) (filled : (changed oldItems newItems).Filled) :
    Tidy (.changed oldItems newItems :: rest) :=
  tidy.refill (iff_of_false (kind_changed_ne _ _) (kind_changed_ne _ _)) filled

theorem consKeep (tidy : Tidy chunks) (item : α) : Tidy (consKeep item chunks) := by
  have filled (items : List α) : (same (item :: items)).Filled := .inl (List.cons_ne_nil _ _)
  match chunks with
  | [] => exact tidy_single (filled [])
  | .same items :: rest => exact tidy.refill Iff.rfl (filled items)
  | .changed old new :: rest => exact tidy.push (same_turnsTo_changed _ _ _) (filled [])

/-- Changed items join a changed chunk in front, or become one. -/
theorem consChanged (tidy : Tidy chunks) {old new : List α} (filled : (changed old new).Filled) :
    Tidy (consChanged old new chunks) := by
  match chunks with
  | [] => exact tidy_single filled
  | .same items :: rest => exact tidy.push (changed_turnsTo_same _ _ _) filled
  | .changed oldRest newRest :: rest =>
    exact tidy.refill_changed
      (filled.imp (List.append_ne_nil_of_left_ne_nil · _) (List.append_ne_nil_of_left_ne_nil · _))

end Tidy

/-- However a script goes, its chunks are tidy. -/
theorem tidy_ofScript (script : List (Edit α)) : Tidy (ofScript script) := by
  induction script with
  | nil => exact tidy_nil
  | cons edit rest inductionHypothesis =>
    cases edit with
    | keep item => exact inductionHypothesis.consKeep item
    | drop item =>
      rw [ofScript, consDrop_eq_consChanged]
      exact inductionHypothesis.consChanged (.inl (List.cons_ne_nil _ _))
    | add item =>
      rw [ofScript, consAdd_eq_consChanged]
      exact inductionHypothesis.consChanged (.inr (List.cons_ne_nil _ _))

end Chunk

/-! ### The tiling -/

/-- A run goes forward and has items on the sides that its kind names; the items of an equal run
are the same on both sides. -/
structure Run.Fits (run : Run) (old new : List α) : Prop where
  oldForward : run.old.start ≤ run.old.stop
  newForward : run.new.start ≤ run.new.stop
  sides : match run.kind with
    | .equal => 0 < run.old.size ∧ run.new.size = run.old.size ∧
        ∀ place < run.old.size, ∃ item,
          old[run.old.start + place]? = some item ∧ new[run.new.start + place]? = some item
    | .insert => run.old.size = 0 ∧ 0 < run.new.size
    | .delete => 0 < run.old.size ∧ run.new.size = 0
    | .replace => 0 < run.old.size ∧ 0 < run.new.size

theorem Run.Marks.fits {run : Run} {chunk : Chunk α} {old new : List α}
    (marks : run.Marks chunk old new) (filled : chunk.Filled) : run.Fits old new := by
  refine ⟨?_, ?_, ?_⟩
  · rw [marks.old.stop]
    exact Nat.le_add_right _ _
  · rw [marks.new.stop]
    exact Nat.le_add_right _ _
  · rw [marks.kind, marks.old.size, marks.new.size]
    match chunk with
    | .same items =>
      have nonempty : items ≠ [] := filled.elim id id
      refine ⟨List.length_pos_of_ne_nil nonempty, rfl, fun place early => ⟨items[place], ?_, ?_⟩⟩
      · rw [marks.old.getElem? (by rw [marks.old.size]; exact early)]
        exact List.getElem?_eq_getElem early
      · rw [marks.new.getElem? (by rw [marks.new.size]; exact early)]
        exact List.getElem?_eq_getElem early
    | .changed [] new =>
      exact ⟨rfl, List.length_pos_of_ne_nil (filled.resolve_left fun filledOld => filledOld rfl)⟩
    | .changed (item :: old) [] => exact ⟨Nat.succ_pos _, rfl⟩
    | .changed (item :: old) (other :: new) => exact ⟨Nat.succ_pos _, Nat.succ_pos _⟩

/-- Runs that mark chunks with items fit the two sequences. -/
theorem fits_of_marks {old new : List α} {runs : List Run} {chunks : List (Chunk α)}
    (marks : List.Forall₂ (fun run chunk => run.Marks chunk old new) runs chunks)
    (filled : ∀ chunk ∈ chunks, chunk.Filled) : ∀ run ∈ runs, run.Fits old new := by
  induction marks with
  | nil => exact fun run none => nomatch none
  | cons mark _ inductionHypothesis =>
    obtain ⟨here, later⟩ := List.forall_mem_cons.mp filled
    exact List.forall_mem_cons.mpr ⟨mark.fits here, inductionHypothesis later⟩

theorem map_kind_runsFrom (oldAt newAt : Nat) (chunks : List (Chunk α)) :
    (runsFrom oldAt newAt chunks).map Run.kind = chunks.map Chunk.kind := by
  induction chunks generalizing oldAt newAt with
  | nil => rfl
  | cons chunk rest inductionHypothesis =>
    exact congrArg (chunk.kind :: ·) (inductionHypothesis _ _)

/-- Runs tile two sequences. -/
structure Tiling (old new : List α) (runs : List Run) : Prop where
  /-- They lead from both starts to both ends, each going on where the one before stops. -/
  path : Run.Path 0 0 runs old.length new.length
  /-- Each has the items that its kind asks for. -/
  fits : ∀ run ∈ runs, run.Fits old new
  /-- Of two neighbours exactly one is equal. -/
  turns : (runs.map Run.kind).IsChain RunKind.TurnsTo

/-- The runs between two sequences tile them. -/
theorem tiling_runs [DecidableEq α] (old new : List α) : Tiling old new (runs old new) := by
  have tidy : Chunk.Tidy (chunks old new) := Chunk.tidy_ofScript (script old new)
  refine ⟨?_, fits_of_marks (marks_runs old new) tidy.filled, ?_⟩
  · have path := path_runsFrom 0 0 (chunks old new)
    rw [flatMap_old_chunks, flatMap_new_chunks, Nat.zero_add, Nat.zero_add] at path
    exact path
  · rw [runs, map_kind_runsFrom]
    exact tidy.turns

example : (runs ["a", "b", "c"] ["a", "x", "c", "d"]).map Run.kind =
    [.equal, .replace, .equal, .insert] := by decide

end Foldback.Diff
