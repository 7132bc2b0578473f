/-
The merge as a relation. A merged source is a list of pieces: lines of the old
source that stay, each with its place there, and texts of the edit that come in.
`Woven` tells step by step how the pieces arise from the lines of a pass and the
operations of an edit; it is what the merge computes, without its errors.

An alignment always replays the visible lines of the pass, and operations that
replay the visible lines can always be woven. So the merge never meets an
operation that does not fit: the only errors of folding back are those of the
rendering that it starts with.
-/

import Foldback.Fold.Merge
import Foldback.Proofs.Diff.Replay
import Foldback.Proofs.Template.Places

namespace Foldback

open Diff Directive

namespace Fold

/-! ### Pieces -/

/-- A line of a merged source, told by where it comes from. -/
inductive Piece where
  /-- A line of the old source that stays: a hidden one, or a visible one that the edit
  matched. Its place there is counted from zero. -/
  | kept (place : Nat) (line : Line)
  /-- A text of the edit, which was inserted or replaces a line of the old source. -/
  | fresh (text : String) (replaces : Bool)
  deriving DecidableEq, Repr

namespace Piece

/-- The line that the piece is in the merged source. -/
def source : Piece → String
  | kept _ line => line.source
  | fresh text _ => escape text

/-- The operation behind the piece; a hidden line needs none. -/
def operation? : Piece → Option LineOp
  | kept _ ⟨some shown, _⟩ => some (.equal shown)
  | kept _ ⟨none, _⟩ => none
  | fresh text false => some (.insert text)
  | fresh text true => some (.replace text)

/-- The line of the edit that the piece stands for, if it stands for one. -/
def edited? : Piece → Option String
  | kept _ line => line.output
  | fresh text _ => some text

/-- The line of the old source that the piece is, with its place there. -/
def kept? : Piece → Option (Line × Nat)
  | kept place line => some (line, place)
  | fresh _ _ => none

end Piece

/-- How pieces arise from the lines of a pass, the first of which stands at a given place, and
the operations of an edit. Insertions wait until a visible line or the end comes next. -/
inductive Woven : Nat → List Line → List LineOp → List Piece → Prop where
  | done (place : Nat) : Woven place [] [] []
  | hidden {place : Nat} {rest : List Line} {operations : List LineOp} {pieces : List Piece}
      (source : String) (behind : Woven (place + 1) rest operations pieces) :
      Woven place (⟨none, source⟩ :: rest) operations (.kept place ⟨none, source⟩ :: pieces)
  | insert {place : Nat} {lines : List Line} {operations : List LineOp} {pieces : List Piece}
      (text : String) (due : ∀ source rest, lines ≠ ⟨none, source⟩ :: rest)
      (behind : Woven place lines operations pieces) :
      Woven place lines (.insert text :: operations) (.fresh text false :: pieces)
  | equal {place : Nat} {rest : List Line} {operations : List LineOp} {pieces : List Piece}
      (shown source : String) (behind : Woven (place + 1) rest operations pieces) :
      Woven place (⟨some shown, source⟩ :: rest) (.equal shown :: operations)
        (.kept place ⟨some shown, source⟩ :: pieces)
  | delete {place : Nat} {rest : List Line} {operations : List LineOp} {pieces : List Piece}
      (shown source : String) (behind : Woven (place + 1) rest operations pieces) :
      Woven place (⟨some shown, source⟩ :: rest) (.delete shown :: operations) pieces
  | replace {place : Nat} {rest : List Line} {operations : List LineOp} {pieces : List Piece}
      (shown source text : String) (behind : Woven (place + 1) rest operations pieces) :
      Woven place (⟨some shown, source⟩ :: rest) (.replace text :: operations)
        (.fresh text true :: pieces)

/-! ### The merge weaves -/

theorem takeInsertions_insert (text : String) (operations : List LineOp) :
    takeInsertions (.insert text :: operations) =
      (text :: (takeInsertions operations).1, (takeInsertions operations).2) := rfl

theorem finish_insert (text : String) (operations : List LineOp) :
    finish (.insert text :: operations) =
      (finish operations).map (escape text :: ·) := by
  unfold finish
  rw [takeInsertions_insert]
  obtain ⟨texts, behind⟩ := takeInsertions operations
  cases behind <;> rfl

/-- An insertion that is due comes in front of whatever the merge makes of the rest. -/
theorem mergeFrom_insert (number : Nat) {lines : List (Except RenderError Line)}
    (due : ∀ source rest, lines ≠ .ok ⟨none, source⟩ :: rest) (text : String)
    (operations : List LineOp) :
    mergeFrom number lines (.insert text :: operations) =
      (mergeFrom number lines operations).map (escape text :: ·) := by
  match lines with
  | [] =>
    simp only [mergeFrom, finish_insert]
    cases finish operations <;> rfl
  | .error error :: rest => rfl
  | .ok ⟨none, source⟩ :: rest => exact absurd rfl (due source rest)
  | .ok ⟨some shown, source⟩ :: rest =>
    simp only [mergeFrom, takeInsertions_insert]
    cases settle number shown source (takeInsertions operations).2.head? with
    | error error => rfl
    | ok lines =>
      cases mergeFrom (number + 1) rest (takeInsertions operations).2.tail <;> rfl

/-- Woven pieces are what the merge computes. -/
theorem mergeFrom_of_woven {place : Nat} {lines : List Line} {operations : List LineOp}
    {pieces : List Piece} (woven : Woven place lines operations pieces) (number : Nat) :
    mergeFrom number (lines.map .ok) operations = .ok (pieces.map Piece.source) := by
  induction woven generalizing number with
  | done => rfl
  | hidden source _ inductionHypothesis =>
    rw [List.map_cons, mergeFrom, inductionHypothesis]
    rfl
  | @insert place lines operations pieces text due _ inductionHypothesis =>
    have stillDue : ∀ source rest,
        lines.map (Except.ok : Line → Except RenderError Line) ≠ .ok ⟨none, source⟩ :: rest := by
      intro source rest hides
      obtain ⟨line, lineRest, first, same, _⟩ := List.map_eq_cons_iff.mp hides
      cases same
      exact due source lineRest first
    rw [mergeFrom_insert number stillDue, inductionHypothesis]
    rfl
  | equal shown source _ inductionHypothesis =>
    simp only [List.map_cons, mergeFrom, takeInsertions, List.head?_cons, settle, if_true,
      List.tail_cons, inductionHypothesis]
    rfl
  | delete shown source _ inductionHypothesis =>
    simp only [List.map_cons, mergeFrom, takeInsertions, List.head?_cons, settle, if_true,
      List.tail_cons, inductionHypothesis]
    rfl
  | replace shown source text _ inductionHypothesis =>
    simp only [List.map_cons, mergeFrom, takeInsertions, List.head?_cons, settle,
      List.tail_cons, inductionHypothesis]
    rfl

/-! ### Operations that replay the visible lines can be woven -/

/-- Behind the last line only insertions are left. -/
theorem exists_woven_nil (place : Nat) {operations : List LineOp} {new : List String}
    (replays : Replays operations [] new) : ∃ pieces, Woven place [] operations pieces := by
  generalize none_left : ([] : List String) = old at replays
  induction replays with
  | done => exact ⟨[], .done place⟩
  | insert text _ inductionHypothesis =>
    obtain ⟨pieces, woven⟩ := inductionHypothesis none_left
    refine ⟨.fresh text false :: pieces, woven.insert text ?_⟩
    intro source rest empty
    cases empty
  | equal => cases none_left
  | delete => cases none_left
  | replace => cases none_left

/-- At a visible line some insertions come first, and then an operation that fits the line. -/
theorem exists_woven_visible (place : Nat) (shown source : String) {rest : List Line}
    {visible : List String}
    (behind : ∀ operations new, Replays operations visible new →
      ∃ pieces, Woven (place + 1) rest operations pieces)
    {operations : List LineOp} {new : List String}
    (replays : Replays operations (shown :: visible) new) :
    ∃ pieces, Woven place (⟨some shown, source⟩ :: rest) operations pieces := by
  generalize left : shown :: visible = old at replays
  induction replays with
  | done => cases left
  | equal text later _ =>
    cases left
    obtain ⟨pieces, woven⟩ := behind _ _ later
    exact ⟨_, woven.equal shown source⟩
  | insert text _ inductionHypothesis =>
    obtain ⟨pieces, woven⟩ := inductionHypothesis left
    refine ⟨.fresh text false :: pieces, woven.insert text ?_⟩
    intro other otherRest hides
    cases hides
  | delete text later _ =>
    cases left
    obtain ⟨pieces, woven⟩ := behind _ _ later
    exact ⟨_, woven.delete shown source⟩
  | replace before text later _ =>
    cases left
    obtain ⟨pieces, woven⟩ := behind _ _ later
    exact ⟨_, woven.replace shown source text⟩

/-- Operations that replay the visible lines never drift from them. -/
theorem exists_woven (place : Nat) (lines : List Line) {operations : List LineOp}
    {new : List String} (replays : Replays operations (lines.filterMap (·.output)) new) :
    ∃ pieces, Woven place lines operations pieces := by
  induction lines generalizing place operations new with
  | nil => exact exists_woven_nil place replays
  | cons line rest inductionHypothesis =>
    obtain ⟨output, source⟩ := line
    cases output with
    | none =>
      obtain ⟨pieces, woven⟩ := inductionHypothesis (place + 1) replays
      exact ⟨_, woven.hidden source⟩
    | some shown =>
      exact exists_woven_visible place shown source
        (fun operations new later => inductionHypothesis (place + 1) later) replays

end Fold

/-! ### Folding back -/

namespace Setup

open Fold Diff

/-- The pieces that an edit of a source's rendering is folded back to. -/
def Weaves (setup : Setup) (source edited : List String) (pieces : List Piece) : Prop :=
  Woven 0 (setup.pass source).lines (lineOps (setup.pass source).visible edited) pieces

theorem exists_weaves (setup : Setup) (source edited : List String) :
    ∃ pieces, setup.Weaves source edited pieces :=
  exists_woven 0 (setup.pass source).lines (replays_lineOps (setup.pass source).visible edited)

/-- Folding back into a source that renders gives the lines of the pieces. -/
theorem foldBack_of_weaves {setup : Setup} {source edited : List String} {pieces : List Piece}
    (renders : setup.Renders source) (weaves : setup.Weaves source edited pieces) :
    setup.foldBack source edited = .ok (pieces.map Piece.source) := by
  obtain ⟨final, ends⟩ := renders
  have rendered : setup.render source = .ok (setup.pass source).visible :=
    render_eq_ok_iff.mpr ⟨⟨final, ends⟩, rfl⟩
  have stream : (setup.pass source).stream = (setup.pass source).lines.map .ok := by
    unfold Pass.stream
    rw [ends]
    exact List.append_nil _
  unfold foldBack
  rw [rendered, stream]
  exact mergeFrom_of_woven weaves 1

/-- A source that does not render is not merged at all. -/
theorem foldBack_of_render_error {setup : Setup} {source : List String} {error : RenderError}
    (fails : setup.render source = .error error) (edited : List String) :
    setup.foldBack source edited = .error (.render error) := by
  unfold foldBack
  rw [fails]
  rfl

theorem render_eq_error_or_renders (setup : Setup) (source : List String) :
    (∃ error, setup.render source = .error error) ∨ setup.Renders source := by
  unfold render Pass.rendered Renders
  cases (setup.pass source).ending with
  | error error => exact .inl ⟨error, rfl⟩
  | ok final => exact .inr ⟨final, rfl⟩

/-- What folding back gives was woven, from a source that renders. -/
theorem exists_weaves_of_foldBack {setup : Setup} {source edited merged : List String}
    (folded : setup.foldBack source edited = .ok merged) :
    setup.Renders source ∧
      ∃ pieces, setup.Weaves source edited pieces ∧ merged = pieces.map Piece.source := by
  rcases render_eq_error_or_renders setup source with ⟨error, fails⟩ | renders
  · rw [foldBack_of_render_error fails edited] at folded
    cases folded
  · obtain ⟨pieces, weaves⟩ := setup.exists_weaves source edited
    rw [foldBack_of_weaves renders weaves] at folded
    cases folded
    exact ⟨renders, pieces, weaves, rfl⟩

/-- Folding back fails exactly if rendering the source does, and with the same error; no edit can
fail to fit. -/
theorem foldBack_eq_error_iff (setup : Setup) (source edited : List String) :
    (∀ fault, setup.foldBack source edited ≠ .error (.alignment fault)) ∧
      (∀ error, setup.foldBack source edited = .error error ↔
        ∃ cause, setup.render source = .error cause ∧ error = .render cause) := by
  rcases render_eq_error_or_renders setup source with ⟨cause, fails⟩ | renders
  · rw [foldBack_of_render_error fails edited, fails]
    refine ⟨fun fault same => ?_, fun error => ⟨fun same => ?_, ?_⟩⟩
    · cases same
    · cases same
      exact ⟨cause, rfl, rfl⟩
    · rintro ⟨other, same, rfl⟩
      cases same
      rfl
  · obtain ⟨pieces, weaves⟩ := setup.exists_weaves source edited
    rw [foldBack_of_weaves renders weaves, render_eq_ok_iff.mpr ⟨renders, rfl⟩]
    refine ⟨fun fault same => ?_, fun error => ⟨fun same => ?_, ?_⟩⟩
    · cases same
    · cases same
    · rintro ⟨cause, same, _⟩
      cases same

end Setup

end Foldback
