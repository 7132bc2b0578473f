/-
An alignment can be replayed. Walking over the old sequence, the edits of a
script that keep or drop consume it item by item, and those that keep or add
give the new sequence. Chunks and line operations inherit this: the operations
of two lists of lines consume every old line in order, with the text they carry,
and bring in exactly the new lines.

`Replays` is the invariant of everything that walks over a rendering with the
operations of an edit: the operations that are left always replay the visible
lines that are left.
-/

import Foldback.Diff.LineOp

namespace Foldback.Diff

variable {α : Type}

/-! ### Scripts -/

namespace Edit

/-- The item of the old sequence that an edit consumes. -/
def old? : Edit α → Option α
  | .keep item | .drop item => some item
  | .add _ => none

/-- The item of the new sequence that an edit gives. -/
def new? : Edit α → Option α
  | .keep item | .add item => some item
  | .drop _ => none

end Edit

/-- A script leads from one sequence to another: it consumes all of the first and gives all of
the second. -/
structure Leads (script : List (Edit α)) (old new : List α) : Prop where
  consumes : script.filterMap Edit.old? = old
  gives : script.filterMap Edit.new? = new

namespace Leads

theorem append {first second : List (Edit α)} {old new oldRest newRest : List α}
    (front : Leads first old new) (back : Leads second oldRest newRest) :
    Leads (first ++ second) (old ++ oldRest) (new ++ newRest) where
  consumes := by rw [List.filterMap_append, front.consumes, back.consumes]
  gives := by rw [List.filterMap_append, front.gives, back.gives]

theorem keep (item : α) {script : List (Edit α)} {old new : List α} (rest : Leads script old new) :
    Leads (.keep item :: script) (item :: old) (item :: new) where
  consumes := congrArg (item :: ·) rest.consumes
  gives := congrArg (item :: ·) rest.gives

theorem drop (item : α) {script : List (Edit α)} {old new : List α} (rest : Leads script old new) :
    Leads (.drop item :: script) (item :: old) new where
  consumes := congrArg (item :: ·) rest.consumes
  gives := rest.gives

theorem add (item : α) {script : List (Edit α)} {old new : List α} (rest : Leads script old new) :
    Leads (.add item :: script) old (item :: new) where
  consumes := rest.consumes
  gives := congrArg (item :: ·) rest.gives

end Leads

theorem leads_nil : Leads ([] : List (Edit α)) [] [] := ⟨rfl, rfl⟩

theorem leads_keeps (items : List α) : Leads (items.map .keep) items items := by
  induction items with
  | nil => exact leads_nil
  | cons item rest inductionHypothesis => exact inductionHypothesis.keep item

section Best

variable [DecidableEq α]

/-- Whatever the table chooses for two first items, the script that it starts leads from the one
sequence to the other. -/
theorem leads_choose {old new : α} {oldRest newRest : List α} {both behindOld behindNew : Cell α}
    (bothLeads : Leads both.script oldRest newRest)
    (oldLeads : Leads behindOld.script oldRest (new :: newRest))
    (newLeads : Leads behindNew.script (old :: oldRest) newRest) :
    Leads (Cell.choose old new both behindOld behindNew).script (old :: oldRest)
      (new :: newRest) := by
  unfold Cell.choose
  split
  · rename_i same
    rw [← same]
    exact bothLeads.keep old
  · split
    · exact oldLeads.drop old
    · exact newLeads.add new

theorem leads_bestCell (old new : List α) : Leads (bestCell old new).script old new := by
  induction old generalizing new with
  | nil =>
    induction new with
    | nil => exact leads_nil
    | cons item rest inductionHypothesis =>
      rw [bestCell_nil_cons]
      exact inductionHypothesis.add item
  | cons oldItem oldRest behindOld =>
    induction new with
    | nil =>
      rw [bestCell_cons_nil]
      exact (behindOld []).drop oldItem
    | cons newItem newRest behindNew =>
      rw [bestCell_cons_cons]
      exact leads_choose (behindOld newRest) (behindOld (newItem :: newRest)) behindNew

theorem commonFront_prefix (old new : List α) :
    commonFront old new <+: old ∧ commonFront old new <+: new := by
  fun_induction commonFront old new with
  | case1 item oldRest newRest inductionHypothesis =>
    exact ⟨List.cons_prefix_cons.mpr ⟨rfl, inductionHypothesis.1⟩,
      List.cons_prefix_cons.mpr ⟨rfl, inductionHypothesis.2⟩⟩
  | case2 => exact ⟨List.nil_prefix, List.nil_prefix⟩
  | case3 => exact ⟨List.nil_prefix, List.nil_prefix⟩

theorem commonBack_suffix (old new : List α) :
    commonBack old new <:+ old ∧ commonBack old new <:+ new := by
  have shared := commonFront_prefix old.reverse new.reverse
  unfold commonBack
  exact ⟨List.reverse_prefix.mp (by rw [List.reverse_reverse]; exact shared.1),
    List.reverse_prefix.mp (by rw [List.reverse_reverse]; exact shared.2)⟩

theorem leads_scriptBetween (old new : List α) : Leads (scriptBetween old new) old new := by
  have shared := commonBack_suffix old new
  have whole := (leads_bestCell (old.take (old.length - (commonBack old new).length))
    (new.take (new.length - (commonBack old new).length))).append
      (leads_keeps (commonBack old new))
  rw [List.suffix_iff_eq_append.mp shared.1, List.suffix_iff_eq_append.mp shared.2] at whole
  exact whole

/-- The script between two sequences leads from the one to the other. -/
theorem leads_script (old new : List α) : Leads (script old new) old new := by
  have shared := commonFront_prefix old new
  have whole := (leads_keeps (commonFront old new)).append
    (leads_scriptBetween (old.drop (commonFront old new).length)
      (new.drop (commonFront old new).length))
  rw [List.prefix_iff_eq_append.mp shared.1, List.prefix_iff_eq_append.mp shared.2] at whole
  exact whole

end Best

/-! ### A sequence aligned with itself -/

section Identical

variable [DecidableEq α]

theorem commonFront_self (items : List α) : commonFront items items = items := by
  induction items with
  | nil => rfl
  | cons item rest inductionHypothesis => rw [commonFront, if_pos rfl, inductionHypothesis]

/-- Aligned with itself, a sequence is all common front; the table is never asked. -/
theorem script_self (items : List α) : script items items = items.map .keep := by
  have behind : scriptBetween ([] : List α) [] = [] := rfl
  rw [script, commonFront_self]
  simp only [List.drop_length]
  rw [behind, List.append_nil]

end Identical

/-! ### Chunks -/

namespace Chunk

theorem sides_consKeep (item : α) (chunks : List (Chunk α)) :
    (consKeep item chunks).flatMap old = item :: chunks.flatMap old ∧
      (consKeep item chunks).flatMap new = item :: chunks.flatMap new := by
  unfold consKeep
  split <;> exact ⟨rfl, rfl⟩

/-- Puts changed items in front: a dropped and an added one are the two cases with one item. -/
def consChanged (old new : List α) : List (Chunk α) → List (Chunk α)
  | .changed oldRest newRest :: rest => .changed (old ++ oldRest) (new ++ newRest) :: rest
  | rest => .changed old new :: rest

theorem consDrop_eq_consChanged (item : α) (chunks : List (Chunk α)) :
    consDrop item chunks = consChanged [item] [] chunks := by
  match chunks with
  | [] | .same _ :: _ | .changed _ _ :: _ => rfl

theorem consAdd_eq_consChanged (item : α) (chunks : List (Chunk α)) :
    consAdd item chunks = consChanged [] [item] chunks := by
  match chunks with
  | [] | .same _ :: _ | .changed _ _ :: _ => rfl

theorem sides_consChanged (oldItems newItems : List α) (chunks : List (Chunk α)) :
    (consChanged oldItems newItems chunks).flatMap old = oldItems ++ chunks.flatMap old ∧
      (consChanged oldItems newItems chunks).flatMap new = newItems ++ chunks.flatMap new := by
  unfold consChanged
  split
  · exact ⟨List.append_assoc _ _ _, List.append_assoc _ _ _⟩
  · exact ⟨rfl, rfl⟩

/-- The chunks of a script have the items that it consumes on the old side and the items that it
gives on the new one. -/
theorem leads_ofScript (script : List (Edit α)) :
    Leads script ((ofScript script).flatMap old) ((ofScript script).flatMap new) := by
  induction script with
  | nil => exact leads_nil
  | cons edit rest inductionHypothesis =>
    cases edit with
    | keep item =>
      rw [ofScript, (sides_consKeep item _).1, (sides_consKeep item _).2]
      exact inductionHypothesis.keep item
    | drop item =>
      rw [ofScript, consDrop_eq_consChanged, (sides_consChanged _ _ _).1,
        (sides_consChanged _ _ _).2]
      exact inductionHypothesis.drop item
    | add item =>
      rw [ofScript, consAdd_eq_consChanged, (sides_consChanged _ _ _).1,
        (sides_consChanged _ _ _).2]
      exact inductionHypothesis.add item

end Chunk

section Sides

variable [DecidableEq α]

theorem flatMap_old_chunks (old new : List α) : (chunks old new).flatMap Chunk.old = old :=
  (Chunk.leads_ofScript (script old new)).consumes.symm.trans (leads_script old new).consumes

theorem flatMap_new_chunks (old new : List α) : (chunks old new).flatMap Chunk.new = new :=
  (Chunk.leads_ofScript (script old new)).gives.symm.trans (leads_script old new).gives

end Sides

/-! ### Line operations -/

/-- Operations replay old lines into new ones. An operation that keeps or deletes a line carries
its text; one that replaces a line carries the new text only. -/
inductive Replays : List LineOp → List String → List String → Prop where
  | done : Replays [] [] []
  | equal {operations : List LineOp} {old new : List String} (text : String)
      (rest : Replays operations old new) :
      Replays (.equal text :: operations) (text :: old) (text :: new)
  | insert {operations : List LineOp} {old new : List String} (text : String)
      (rest : Replays operations old new) : Replays (.insert text :: operations) old (text :: new)
  | delete {operations : List LineOp} {old new : List String} (text : String)
      (rest : Replays operations old new) : Replays (.delete text :: operations) (text :: old) new
  | replace {operations : List LineOp} {old new : List String} (before text : String)
      (rest : Replays operations old new) :
      Replays (.replace text :: operations) (before :: old) (text :: new)

namespace Replays

theorem append {first second : List LineOp} {old new oldRest newRest : List String}
    (front : Replays first old new) (back : Replays second oldRest newRest) :
    Replays (first ++ second) (old ++ oldRest) (new ++ newRest) := by
  induction front with
  | done => exact back
  | equal text _ inductionHypothesis => exact inductionHypothesis.equal text
  | insert text _ inductionHypothesis => exact inductionHypothesis.insert text
  | delete text _ inductionHypothesis => exact inductionHypothesis.delete text
  | replace before text _ inductionHypothesis => exact inductionHypothesis.replace before text

/-- The operations that are not deletions carry the new lines in order. -/
theorem map_text {operations : List LineOp} {old new : List String}
    (replays : Replays operations old new) :
    (operations.filter (·.kind ≠ .delete)).map LineOp.text = new := by
  induction replays with
  | done => rfl
  | equal text _ inductionHypothesis => exact congrArg (text :: ·) inductionHypothesis
  | insert text _ inductionHypothesis => exact congrArg (text :: ·) inductionHypothesis
  | delete _ _ inductionHypothesis => exact inductionHypothesis
  | replace _ text _ inductionHypothesis => exact congrArg (text :: ·) inductionHypothesis

end Replays

theorem replays_equals (lines : List String) : Replays (lines.map .equal) lines lines := by
  induction lines with
  | nil => exact .done
  | cons line _ inductionHypothesis => exact inductionHypothesis.equal line

theorem replays_inserts (lines : List String) : Replays (lines.map .insert) [] lines := by
  induction lines with
  | nil => exact .done
  | cons line _ inductionHypothesis => exact inductionHypothesis.insert line

theorem replays_deletes (lines : List String) : Replays (lines.map .delete) lines [] := by
  induction lines with
  | nil => exact .done
  | cons line _ inductionHypothesis => exact inductionHypothesis.delete line

/-- Where both sides of a changed chunk have lines, the first two are paired. -/
theorem LineOp.ofChunk_changed_cons (oldLine newLine : String) (old new : List String) :
    ofChunk (.changed (oldLine :: old) (newLine :: new)) =
      .replace newLine :: ofChunk (.changed old new) := by
  simp only [ofChunk, List.length_cons, Nat.succ_min_succ, List.take_succ_cons,
    List.drop_succ_cons, List.map_cons, List.cons_append]

theorem replays_changed (old new : List String) :
    Replays (LineOp.ofChunk (.changed old new)) old new := by
  induction old generalizing new with
  | nil =>
    simp only [LineOp.ofChunk, List.length_nil, Nat.zero_min, List.take_zero, List.drop_zero,
      List.map_nil, List.nil_append, List.append_nil]
    exact replays_inserts new
  | cons oldLine oldRest inductionHypothesis =>
    cases new with
    | nil => exact replays_deletes (oldLine :: oldRest)
    | cons newLine newRest =>
      rw [LineOp.ofChunk_changed_cons]
      exact (inductionHypothesis newRest).replace oldLine newLine

theorem replays_ofChunk (chunk : Chunk String) :
    Replays (LineOp.ofChunk chunk) chunk.old chunk.new := by
  cases chunk with
  | same lines => exact replays_equals lines
  | changed old new => exact replays_changed old new

theorem replays_flatMap_ofChunk (chunks : List (Chunk String)) :
    Replays (chunks.flatMap LineOp.ofChunk) (chunks.flatMap Chunk.old)
      (chunks.flatMap Chunk.new) := by
  induction chunks with
  | nil => exact .done
  | cons chunk rest inductionHypothesis =>
    simp only [List.flatMap_cons]
    exact (replays_ofChunk chunk).append inductionHypothesis

/-- The operations between two lists of lines replay the one into the other. -/
theorem replays_lineOps (old new : List String) : Replays (lineOps old new) old new := by
  have whole := replays_flatMap_ofChunk (chunks old new)
  rw [flatMap_old_chunks, flatMap_new_chunks] at whole
  exact whole

end Foldback.Diff
