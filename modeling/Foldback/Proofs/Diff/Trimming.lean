/-
What an alignment does at the two ends. The common items in front and at the
back are kept, whatever the table finds in between, so an alignment is the one of
the middle with the ends put back.

The operations of lines show this too. In front it is plain. At the back the
chunks are in the way: a kept line joins the kept chunk before it, so the chunks
of a longer script are not those of the shorter one and some more. Their
operations are, which is shown with the changed items that still wait for the
next kept line carried along.
-/

import Foldback.Proofs.Diff.Replay

namespace Foldback.Diff

variable {α : Type}

/-! ### Common ends -/

/-- Two sequences with their common ends taken off: first the longest common beginning, then the
longest common end of what remains. -/
structure Trimmed (old new front oldMiddle newMiddle back : List α) : Prop where
  old_eq : old = front ++ (oldMiddle ++ back)
  new_eq : new = front ++ (newMiddle ++ back)
  front_longest : ∀ other : List α, other <+: old → other <+: new → other <+: front
  back_longest : ∀ other : List α, other <:+ oldMiddle ++ back → other <:+ newMiddle ++ back →
    other <:+ back

section Ends

variable [DecidableEq α]

theorem prefix_commonFront {other old new : List α} (inOld : other <+: old)
    (inNew : other <+: new) : other <+: commonFront old new := by
  induction other generalizing old new with
  | nil => exact List.nil_prefix
  | cons item rest inductionHypothesis =>
    obtain ⟨oldBehind, rfl⟩ := inOld
    obtain ⟨newBehind, rfl⟩ := inNew
    rw [List.cons_append, List.cons_append, commonFront, if_pos rfl]
    exact List.cons_prefix_cons.mpr
      ⟨rfl, inductionHypothesis (List.prefix_append _ _) (List.prefix_append _ _)⟩

theorem suffix_commonBack {other old new : List α} (inOld : other <:+ old)
    (inNew : other <:+ new) : other <:+ commonBack old new := by
  have turned := prefix_commonFront (List.reverse_prefix.mpr inOld) (List.reverse_prefix.mpr inNew)
  rw [commonBack, ← List.reverse_prefix, List.reverse_reverse]
  exact turned

/-- The script of two sequences keeps their common ends and leads through what lies between. -/
theorem exists_trimmed (old new : List α) :
    ∃ front oldMiddle newMiddle back, Trimmed old new front oldMiddle newMiddle back ∧
      ∃ middle, script old new = front.map .keep ++ (middle ++ back.map .keep) ∧
        Leads middle oldMiddle newMiddle := by
  have inFront := commonFront_prefix old new
  have atBack := commonBack_suffix (old.drop (commonFront old new).length)
    (new.drop (commonFront old new).length)
  have oldBehind := List.suffix_iff_eq_append.mp atBack.1
  have newBehind := List.suffix_iff_eq_append.mp atBack.2
  refine ⟨commonFront old new, _, _, commonBack _ _, ⟨?_, ?_, ?_, ?_⟩, _, rfl, leads_bestCell _ _⟩
  · rw [oldBehind]
    exact (List.prefix_iff_eq_append.mp inFront.1).symm
  · rw [newBehind]
    exact (List.prefix_iff_eq_append.mp inFront.2).symm
  · exact fun other => prefix_commonFront
  · rw [oldBehind, newBehind]
    exact fun other => suffix_commonBack

end Ends

/-! ### Changed items in front of chunks -/

namespace Chunk

theorem consChanged_consChanged (old new oldRest newRest : List α) (chunks : List (Chunk α)) :
    consChanged old new (consChanged oldRest newRest chunks) =
      consChanged (old ++ oldRest) (new ++ newRest) chunks := by
  match chunks with
  | [] => rfl
  | .same items :: rest => rfl
  | .changed oldLast newLast :: rest => simp only [consChanged, List.append_assoc]

theorem consChanged_consKeep (old new : List α) (item : α) (chunks : List (Chunk α)) :
    consChanged old new (consKeep item chunks) = .changed old new :: consKeep item chunks := by
  unfold consKeep
  split <;> rfl

end Chunk

/-! ### The operations of a script -/

/-- The operations of a script of lines. -/
def LineOp.ofScript (script : List (Edit String)) : List LineOp :=
  (Chunk.ofScript script).flatMap LineOp.ofChunk

theorem flatMap_ofChunk_consKeep (line : String) (chunks : List (Chunk String)) :
    (Chunk.consKeep line chunks).flatMap LineOp.ofChunk =
      .equal line :: chunks.flatMap LineOp.ofChunk := by
  unfold Chunk.consKeep
  split <;> rfl

theorem flatMap_ofChunk_consChanged_nil (chunks : List (Chunk String)) :
    (Chunk.consChanged [] [] chunks).flatMap LineOp.ofChunk =
      chunks.flatMap LineOp.ofChunk := by
  match chunks with
  | [] => rfl
  | .same lines :: rest => rfl
  | .changed old new :: rest => rfl

namespace LineOp

theorem ofScript_keeps_append (lines : List String) (script : List (Edit String)) :
    ofScript (lines.map .keep ++ script) = lines.map .equal ++ ofScript script := by
  induction lines with
  | nil => rfl
  | cons line rest inductionHypothesis =>
    have first := flatMap_ofChunk_consKeep line (Chunk.ofScript (rest.map .keep ++ script))
    exact first.trans (congrArg (.equal line :: ·) inductionHypothesis)

/-- In front of a kept line the operations are settled, with whatever changed lines wait. -/
theorem ofScript_append_keep_waiting (script : List (Edit String)) (old new : List String)
    (line : String) (rest : List (Edit String)) :
    (Chunk.consChanged old new (Chunk.ofScript (script ++ .keep line :: rest))).flatMap ofChunk =
      (Chunk.consChanged old new (Chunk.ofScript script)).flatMap ofChunk ++
        ofScript (.keep line :: rest) := by
  induction script generalizing old new with
  | nil =>
    have alone : (Chunk.consChanged old new []).flatMap ofChunk = ofChunk (.changed old new) :=
      List.append_nil _
    rw [Chunk.ofScript, alone]
    exact congrArg (List.flatMap ofChunk) (Chunk.consChanged_consKeep old new line _)
  | cons edit script inductionHypothesis =>
    cases edit with
    | keep item =>
      -- The kept line ends the changed chunk that waits, so nothing waits behind it.
      have none := inductionHypothesis [] []
      rw [flatMap_ofChunk_consChanged_nil, flatMap_ofChunk_consChanged_nil] at none
      rw [List.cons_append, Chunk.ofScript, Chunk.ofScript, Chunk.consChanged_consKeep,
        Chunk.consChanged_consKeep, List.flatMap_cons, List.flatMap_cons,
        flatMap_ofChunk_consKeep, flatMap_ofChunk_consKeep, none, List.append_assoc,
        List.cons_append]
    | drop item =>
      rw [List.cons_append, Chunk.ofScript, Chunk.ofScript, Chunk.consDrop_eq_consChanged,
        Chunk.consDrop_eq_consChanged, Chunk.consChanged_consChanged,
        Chunk.consChanged_consChanged, inductionHypothesis]
    | add item =>
      rw [List.cons_append, Chunk.ofScript, Chunk.ofScript, Chunk.consAdd_eq_consChanged,
        Chunk.consAdd_eq_consChanged, Chunk.consChanged_consChanged,
        Chunk.consChanged_consChanged, inductionHypothesis]

theorem ofScript_append_keeps (script : List (Edit String)) (lines : List String) :
    ofScript (script ++ lines.map .keep) = ofScript script ++ lines.map .equal := by
  cases lines with
  | nil => rw [List.map_nil, List.append_nil, List.map_nil, List.append_nil]
  | cons line rest =>
    have settled := ofScript_append_keep_waiting script [] [] line (rest.map .keep)
    rw [flatMap_ofChunk_consChanged_nil, flatMap_ofChunk_consChanged_nil] at settled
    have kept := ofScript_keeps_append (line :: rest) []
    rw [List.append_nil] at kept
    exact settled.trans (congrArg (ofScript script ++ ·) (kept.trans (List.append_nil _)))

end LineOp

/-- The operations between two lists of lines keep the common ends, and replay what lies between. -/
theorem exists_lineOps_trimmed (old new : List String) :
    ∃ front oldMiddle newMiddle back, Trimmed old new front oldMiddle newMiddle back ∧
      ∃ middle, lineOps old new = front.map .equal ++ (middle ++ back.map .equal) ∧
        Replays middle oldMiddle newMiddle := by
  obtain ⟨front, oldMiddle, newMiddle, back, trimmed, middle, whole, leads⟩ :=
    exists_trimmed old new
  refine ⟨front, oldMiddle, newMiddle, back, trimmed, LineOp.ofScript middle, ?_, ?_⟩
  · show LineOp.ofScript (script old new) = _
    rw [whole, LineOp.ofScript_keeps_append, LineOp.ofScript_append_keeps]
  · have replays := replays_flatMap_ofChunk (Chunk.ofScript middle)
    have same := Chunk.leads_ofScript middle
    rw [← same.consumes, ← same.gives, leads.consumes, leads.gives] at replays
    exact replays

end Foldback.Diff
