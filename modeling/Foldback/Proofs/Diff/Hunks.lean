/-
The hunks of an alignment fit the two sequences. What the hunks leave out are
kept items only, so outside of them both sides have the same; and the running
indices of both sides are the lengths of what was passed. A kept stretch that
parts two hunks is longer than both contexts together, so something always
stays out between them.
-/

import Foldback.Diff.Hunk
import Foldback.Proofs.Diff.Patch

namespace Foldback.Diff

variable {α : Type}

/-! ### Hunks as a patch states them -/

namespace Chunk

/-- The edits of a chunk: what goes stands before what comes. -/
def edits : Chunk α → List (Edit α)
  | .same items => items.map .keep
  | .changed old new => old.map .drop ++ new.map .add

theorem filterMap_old?_edits (chunk : Chunk α) : chunk.edits.filterMap Edit.old? = chunk.old := by
  cases chunk with
  | same items => simp [edits, old, List.filterMap_map, Function.comp_def, Edit.old?]
  | changed old new => simp [edits, Chunk.old, List.filterMap_map, Function.comp_def, Edit.old?]

theorem filterMap_new?_edits (chunk : Chunk α) : chunk.edits.filterMap Edit.new? = chunk.new := by
  cases chunk with
  | same items => simp [edits, new, List.filterMap_map, Function.comp_def, Edit.new?]
  | changed old new => simp [edits, Chunk.new, List.filterMap_map, Function.comp_def, Edit.new?]

end Chunk

namespace Hunk

/-- The hunk with its ranges written out. -/
def stated (hunk : Hunk α) : StatedHunk α where
  old := ⟨hunk.oldStart, hunk.oldStart + hunk.old.length⟩
  new := ⟨hunk.newStart, hunk.newStart + hunk.new.length⟩
  body := hunk.body.flatMap Chunk.edits

theorem before_stated (hunk : Hunk α) : hunk.stated.before = hunk.old := by
  unfold StatedHunk.before stated old
  rw [List.filterMap_flatMap]
  exact congrArg (hunk.body.flatMap ·) (funext Chunk.filterMap_old?_edits)

theorem after_stated (hunk : Hunk α) : hunk.stated.after = hunk.new := by
  unfold StatedHunk.after stated new
  rw [List.filterMap_flatMap]
  exact congrArg (hunk.body.flatMap ·) (funext Chunk.filterMap_new?_edits)

end Hunk

/-! ### The context of a hunk -/

theorem take_append_lastItems (count : Nat) (items : List α) :
    items.take (items.length - count) ++ lastItems count items = items :=
  List.take_append_drop _ _

/-- Between the contexts of two hunks something stays out. -/
theorem exists_gap {context : Nat} {items : List α} (long : 2 * context < items.length) :
    ∃ gap : List α, 1 ≤ gap.length ∧
      items.take context ++ (gap ++ lastItems context items) = items := by
  have same : lastItems context (items.drop context) = lastItems context items := by
    unfold lastItems
    rw [List.drop_drop, List.length_drop]
    congr 1
    omega
  refine ⟨(items.drop context).take ((items.drop context).length - context), ?_, ?_⟩
  · rw [List.length_take, List.length_drop]
    omega
  · rw [← same, take_append_lastItems, List.take_append_drop]

/-! ### The hunks of an alignment -/

/-- What is shown behind a place, the rest of a hunk and the hunks after it, fits what is left of
the two sequences there. -/
def FitsBehind (oldAt newAt : Nat) (old new : List α)
    (shown : List (Chunk α) × List (Hunk α)) : Prop :=
  ∃ oldRest newRest,
    old = shown.1.flatMap Chunk.old ++ oldRest ∧ new = shown.1.flatMap Chunk.new ++ newRest ∧
      Fits 1 (oldAt + (shown.1.flatMap Chunk.old).length)
        (newAt + (shown.1.flatMap Chunk.new).length) (shown.2.map Hunk.stated) oldRest newRest

namespace FitsBehind

variable {oldAt newAt : Nat} {old new : List α} {body : List (Chunk α)} {later : List (Hunk α)}

theorem cons (chunk : Chunk α)
    (behind : FitsBehind (oldAt + chunk.old.length) (newAt + chunk.new.length) old new
      (body, later)) :
    FitsBehind oldAt newAt (chunk.old ++ old) (chunk.new ++ new) (chunk :: body, later) := by
  obtain ⟨oldRest, newRest, rfl, rfl, fits⟩ := behind
  refine ⟨oldRest, newRest, ?_, ?_, ?_⟩
  · rw [List.flatMap_cons, List.append_assoc]
  · rw [List.flatMap_cons, List.append_assoc]
  · simp only [List.flatMap_cons, List.length_append, ← Nat.add_assoc]
    exact fits

/-- A hunk may be opened behind items that both sides have. -/
theorem opened {least : Nat} (gap : List α) (wide : least ≤ gap.length)
    (behind : FitsBehind (oldAt + gap.length) (newAt + gap.length) old new (body, later)) :
    Fits least oldAt newAt
      ((⟨oldAt + gap.length, newAt + gap.length, body⟩ :: later : List (Hunk α)).map Hunk.stated)
      (gap ++ old) (gap ++ new) := by
  obtain ⟨oldRest, newRest, rfl, rfl, fits⟩ := behind
  let hunk : Hunk α := ⟨oldAt + gap.length, newAt + gap.length, body⟩
  have placed : Fits least oldAt newAt (hunk.stated :: later.map Hunk.stated)
      (gap ++ (hunk.stated.before ++ oldRest)) (gap ++ (hunk.stated.after ++ newRest)) :=
    .hunk gap hunk.stated wide (by rw [hunk.before_stated]; rfl)
      (by rw [hunk.after_stated]; rfl) fits
  rw [hunk.before_stated, hunk.after_stated] at placed
  exact placed

/-- The hunk may start with the last of the items before it. -/
theorem led {least : Nat} {gap : List α} (lead : List α) (wide : least ≤ gap.length)
    (behind : FitsBehind (oldAt + (gap ++ lead).length) (newAt + (gap ++ lead).length) old new
      (body, later)) :
    Fits least oldAt newAt
      ((⟨oldAt + gap.length, newAt + gap.length, .same lead :: body⟩ :: later :
        List (Hunk α)).map Hunk.stated)
      (gap ++ lead ++ old) (gap ++ lead ++ new) := by
  simp only [List.length_append, ← Nat.add_assoc] at behind
  rw [List.append_assoc, List.append_assoc]
  exact opened gap wide (FitsBehind.cons (.same lead) behind)

/-- A stretch that both sides have ends a hunk with its first items and opens another one with its
last items. -/
theorem parted (front : List α) {gap : List α} (lead : List α) (wide : 1 ≤ gap.length)
    (behind : FitsBehind (oldAt + (front ++ (gap ++ lead)).length)
      (newAt + (front ++ (gap ++ lead)).length) old new (body, later)) :
    FitsBehind oldAt newAt (front ++ (gap ++ lead) ++ old) (front ++ (gap ++ lead) ++ new)
      ([.same front], ⟨oldAt + front.length + gap.length, newAt + front.length + gap.length,
        .same lead :: body⟩ :: later) := by
  rw [List.length_append, ← Nat.add_assoc, ← Nat.add_assoc] at behind
  refine ⟨gap ++ lead ++ old, gap ++ lead ++ new, ?_, ?_, ?_⟩
  · simp [Chunk.old]
  · simp [Chunk.new]
  · simp only [List.flatMap_cons, List.flatMap_nil, List.append_nil, Chunk.old, Chunk.new]
    exact led lead wide behind

end FitsBehind

theorem fits_hunksBehind (context oldAt newAt : Nat) (chunks : List (Chunk α)) :
    FitsBehind oldAt newAt (chunks.flatMap Chunk.old) (chunks.flatMap Chunk.new)
      (hunksBehind context oldAt newAt chunks) := by
  fun_induction hunksBehind context oldAt newAt chunks with
  | case1 => exact ⟨[], [], rfl, rfl, .done _ _ _ _⟩
  | case2 oldAt newAt old new rest body later shown inductionHypothesis =>
    rw [shown] at inductionHypothesis
    exact inductionHypothesis.cons (.changed old new)
  | case3 oldAt newAt items =>
    refine ⟨items.drop context, items.drop context, ?_, ?_, .done _ _ _ _⟩
    · simp [Chunk.old]
    · simp [Chunk.new]
  | case4 oldAt newAt items rest _ body later shown short inductionHypothesis =>
    rw [shown] at inductionHypothesis
    exact inductionHypothesis.cons (.same items)
  | case5 oldAt newAt items rest _ body later shown long lead inductionHypothesis =>
    rw [shown] at inductionHypothesis
    obtain ⟨gap, wide, (whole : items.take context ++ (gap ++ lead) = items)⟩ :=
      exists_gap (Nat.lt_of_not_le long)
    have lengths := congrArg List.length whole
    simp only [List.length_append] at lengths
    have oldPlace : oldAt + items.length - lead.length =
        oldAt + (items.take context).length + gap.length := by omega
    have newPlace : newAt + items.length - lead.length =
        newAt + (items.take context).length + gap.length := by omega
    have cut := FitsBehind.parted (items.take context) lead wide
      (by rw [whole]; exact inductionHypothesis)
    rw [whole] at cut
    rw [oldPlace, newPlace]
    exact cut

/-- The hunks of chunks fit the two sequences that the chunks are of. -/
theorem fits_hunksOf (context : Nat) (chunks : List (Chunk α)) :
    Fits 0 0 0 ((hunksOf context chunks).map Hunk.stated) (chunks.flatMap Chunk.old)
      (chunks.flatMap Chunk.new) := by
  fun_cases hunksOf context chunks with
  | case1 => exact .done _ _ _ _
  | case2 items => exact .done _ _ _ _
  | case3 items rest _ body later shown lead =>
    have whole : items.take (items.length - context) ++ lead = items :=
      take_append_lastItems context items
    have lengths := congrArg List.length whole
    rw [List.length_append] at lengths
    have place : items.length - lead.length = 0 + (items.take (items.length - context)).length := by
      omega
    have behind := fits_hunksBehind context items.length items.length rest
    rw [shown] at behind
    have fits : Fits 0 0 0 _ _ _ :=
      FitsBehind.led lead (Nat.zero_le _) (by rw [whole, Nat.zero_add]; exact behind)
    rw [whole] at fits
    rw [place]
    exact fits
  | case4 old new rest body later shown =>
    have behind := fits_hunksBehind context 0 0 (.changed old new :: rest)
    rw [shown] at behind
    exact FitsBehind.opened [] (Nat.zero_le 0) behind

/-! ### The hunks between two sequences -/

theorem Chunk.ofScript_keeps (item : α) (rest : List α) :
    ofScript ((item :: rest).map .keep) = [.same (item :: rest)] := by
  induction rest generalizing item with
  | nil => rfl
  | cons next rest inductionHypothesis =>
    rw [List.map_cons, ofScript, inductionHypothesis next]
    rfl

section Between

variable [DecidableEq α]

theorem fits_hunks (context : Nat) (old new : List α) :
    Fits 0 0 0 ((hunks context old new).map Hunk.stated) old new := by
  have fits := fits_hunksOf context (chunks old new)
  rw [flatMap_old_chunks, flatMap_new_chunks] at fits
  exact fits

/-- There is nothing to show exactly between equal sequences. -/
theorem hunks_eq_nil_iff (context : Nat) (old new : List α) :
    hunks context old new = [] ↔ old = new := by
  constructor
  · intro empty
    have fits := fits_hunks context old new
    rw [empty] at fits
    cases fits
    rfl
  · rintro rfl
    unfold hunks chunks
    rw [script_self]
    cases old with
    | nil => rfl
    | cons item rest => rw [Chunk.ofScript_keeps, hunksOf]

end Between

end Foldback.Diff
