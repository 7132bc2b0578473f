/-
Patches. A hunk of a patch states its range on both sides and holds one edit for
every line. To apply it is to go to the place that it states, to find the items
there that it keeps and drops, and to write those that it keeps and adds; a hunk
whose items are not found there is refused. Turned round, a patch leads back.

`Fits` says what makes a patch right for two sequences: outside of its hunks the
sequences agree, and every hunk has the items of both at the places that it
states. The relation is symmetric in the two sides. So from one fact about
hunks follows that they apply, that they apply in reverse, and that their ranges
come in order without touching.
-/

import Mathlib.Data.List.Basic
import Foldback.Proofs.Diff.Replay

namespace Foldback.Diff

variable {α : Type}

/-- An edit in the other direction. -/
def Edit.reversed : Edit α → Edit α
  | .keep item => .keep item
  | .drop item => .add item
  | .add item => .drop item

theorem Edit.old?_reversed (edit : Edit α) : edit.reversed.old? = edit.new? := by
  cases edit <;> rfl

theorem Edit.new?_reversed (edit : Edit α) : edit.reversed.new? = edit.old? := by
  cases edit <;> rfl

/-- A hunk as a patch states it: a range on both sides, and an edit for every item. -/
structure StatedHunk (α : Type) where
  old : IndexRange
  new : IndexRange
  body : List (Edit α)
  deriving DecidableEq, Repr

namespace StatedHunk

/-- The items that must be there: the kept and the dropped ones. -/
def before (hunk : StatedHunk α) : List α :=
  hunk.body.filterMap Edit.old?

/-- The items that are there afterwards: the kept and the added ones. -/
def after (hunk : StatedHunk α) : List α :=
  hunk.body.filterMap Edit.new?

/-- The hunk that leads back. -/
def reversed (hunk : StatedHunk α) : StatedHunk α :=
  ⟨hunk.new, hunk.old, hunk.body.map Edit.reversed⟩

theorem before_reversed (hunk : StatedHunk α) : hunk.reversed.before = hunk.after := by
  unfold before after reversed
  rw [List.filterMap_map]
  exact congrArg (hunk.body.filterMap ·) (funext Edit.old?_reversed)

theorem after_reversed (hunk : StatedHunk α) : hunk.reversed.after = hunk.before := by
  unfold before after reversed
  rw [List.filterMap_map]
  exact congrArg (hunk.body.filterMap ·) (funext Edit.new?_reversed)

/-- One hunk ends before another starts, on both sides. -/
def Precedes (first second : StatedHunk α) : Prop :=
  first.old.stop < second.old.start ∧ first.new.stop < second.new.start

end StatedHunk

/-! ### Applying hunks -/

section Application

variable [DecidableEq α]

/-- Applies hunks to the items from a given position on. -/
def applyFrom (position : Nat) : List (StatedHunk α) → List α → Option (List α)
  | [], items => some items
  | hunk :: later, items =>
    let gap := hunk.old.start - position
    if position ≤ hunk.old.start ∧ gap ≤ items.length then do
      let rest ← (items.drop gap).dropPrefix? hunk.before
      let behind ← applyFrom hunk.old.stop later rest
      some (items.take gap ++ (hunk.after ++ behind))
    else none

/-- Applies hunks to a whole sequence. -/
def applyHunks (hunks : List (StatedHunk α)) (items : List α) : Option (List α) :=
  applyFrom 0 hunks items

theorem applyFrom_cons {position : Nat} {gap oldRest newRest : List α} {hunk : StatedHunk α}
    {later : List (StatedHunk α)} (place : hunk.old.start = position + gap.length)
    (behind : applyFrom hunk.old.stop later oldRest = some newRest) :
    applyFrom position (hunk :: later) (gap ++ (hunk.before ++ oldRest)) =
      some (gap ++ (hunk.after ++ newRest)) := by
  have width : hunk.old.start - position = gap.length := by omega
  have inside : position ≤ hunk.old.start ∧
      gap.length ≤ (gap ++ (hunk.before ++ oldRest)).length := by
    rw [List.length_append]
    omega
  have found : (hunk.before ++ oldRest).dropPrefix? hunk.before = some oldRest :=
    List.dropPrefix?_append_of_beq _ (beq_self_eq_true _)
  simp only [applyFrom, width, if_pos inside, List.drop_left, List.take_left, found, behind,
    Option.bind_eq_bind, Option.bind_some]

end Application

/-! ### Hunks that fit -/

/-- Hunks fit two sequences, of which the items from two given positions on are left. Between the
hunks both have the same items; at least so many must come before the next hunk, and at least one
before each that follows. -/
inductive Fits : Nat → Nat → Nat → List (StatedHunk α) → List α → List α → Prop where
  | done (least oldAt newAt : Nat) (same : List α) : Fits least oldAt newAt [] same same
  | hunk {least oldAt newAt : Nat} {later : List (StatedHunk α)} {oldRest newRest : List α}
      (gap : List α) (hunk : StatedHunk α) (wide : least ≤ gap.length)
      (oldRange : hunk.old = ⟨oldAt + gap.length, oldAt + gap.length + hunk.before.length⟩)
      (newRange : hunk.new = ⟨newAt + gap.length, newAt + gap.length + hunk.after.length⟩)
      (behind : Fits 1 hunk.old.stop hunk.new.stop later oldRest newRest) :
      Fits least oldAt newAt (hunk :: later) (gap ++ (hunk.before ++ oldRest))
        (gap ++ (hunk.after ++ newRest))

namespace Fits

variable {least oldAt newAt : Nat} {hunks : List (StatedHunk α)} {old new : List α}

theorem applyFrom [DecidableEq α] (fits : Fits least oldAt newAt hunks old new) :
    applyFrom oldAt hunks old = some new := by
  induction fits with
  | done => rfl
  | hunk gap hunk _ oldRange _ _ inductionHypothesis =>
    exact applyFrom_cons (by rw [oldRange]) inductionHypothesis

theorem reversed (fits : Fits least oldAt newAt hunks old new) :
    Fits least newAt oldAt (hunks.map StatedHunk.reversed) new old := by
  induction fits with
  | done => exact .done _ _ _ _
  | hunk gap hunk wide oldRange newRange _ inductionHypothesis =>
    have turned := Fits.hunk gap hunk.reversed wide
      (by rw [hunk.before_reversed]; exact newRange) (by rw [hunk.after_reversed]; exact oldRange)
      inductionHypothesis
    rw [hunk.before_reversed, hunk.after_reversed] at turned
    exact turned

/-- The range that a hunk states has as many places as the hunk has items. -/
theorem stop_eq (fits : Fits least oldAt newAt hunks old new) :
    ∀ hunk ∈ hunks, hunk.old.stop = hunk.old.start + hunk.before.length ∧
      hunk.new.stop = hunk.new.start + hunk.after.length := by
  induction fits with
  | done => exact fun hunk member => nomatch member
  | hunk gap hunk _ oldRange newRange _ inductionHypothesis =>
    refine List.forall_mem_cons.mpr ⟨?_, inductionHypothesis⟩
    rw [oldRange, newRange]
    exact ⟨rfl, rfl⟩

/-- The items of a hunk are items of the two sequences. -/
theorem subset (fits : Fits least oldAt newAt hunks old new) :
    ∀ hunk ∈ hunks, (∀ item ∈ hunk.before, item ∈ old) ∧ ∀ item ∈ hunk.after, item ∈ new := by
  induction fits with
  | done => exact fun hunk member => nomatch member
  | hunk gap hunk _ _ _ _ inductionHypothesis =>
    refine List.forall_mem_cons.mpr ⟨⟨fun item here => ?_, fun item here => ?_⟩,
      fun other member => ?_⟩
    · exact List.mem_append_right _ (List.mem_append_left _ here)
    · exact List.mem_append_right _ (List.mem_append_left _ here)
    · obtain ⟨inOld, inNew⟩ := inductionHypothesis other member
      refine ⟨fun item here => ?_, fun item here => ?_⟩
      · exact List.mem_append_right _ (List.mem_append_right _ (inOld item here))
      · exact List.mem_append_right _ (List.mem_append_right _ (inNew item here))

theorem le_start (fits : Fits least oldAt newAt hunks old new) :
    ∀ hunk ∈ hunks, oldAt + least ≤ hunk.old.start ∧ newAt + least ≤ hunk.new.start := by
  induction fits with
  | done => exact fun hunk member => nomatch member
  | @hunk least oldAt newAt later _ _ gap hunk wide oldRange newRange _ inductionHypothesis =>
    rw [oldRange, newRange] at inductionHypothesis
    refine List.forall_mem_cons.mpr ⟨?_, fun other member => ?_⟩
    · rw [oldRange, newRange]
      exact ⟨Nat.add_le_add_left wide _, Nat.add_le_add_left wide _⟩
    · have further := inductionHypothesis other member
      dsimp only at further
      omega

/-- The ranges come in order, and never touch. -/
theorem pairwise_precedes (fits : Fits least oldAt newAt hunks old new) :
    hunks.Pairwise StatedHunk.Precedes := by
  induction fits with
  | done => exact List.Pairwise.nil
  | hunk gap hunk _ _ _ behind inductionHypothesis =>
    exact List.Pairwise.cons (fun other member => behind.le_start other member)
      inductionHypothesis

end Fits

end Foldback.Diff
