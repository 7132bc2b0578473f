/-
The merge on any lines and any operations, whether an alignment made them or not.
Operations fall into shares: some insertions, and behind them the operation that
settles one visible line. The merge gives every visible line its share, in order,
and goes on while the share suits the line; insertions that no other operation
follows come at the end. It is stopped by whatever comes first: an error in the
stream, a visible line that is left without an operation that suits, or, behind
the last line, an operation that is not an insertion.

`Shared` tells how far the merge comes, `Stops` what stops it there. Every stream
is either shared to its end or stopped once, so together they say what the merge
gives on any input.
-/

import Mathlib.Data.List.Forall2
import Foldback.Proofs.Fold.Weave

namespace Foldback.Fold

open Diff Directive

/-! ### Shares -/

/-- The operation can settle a visible line: it replaces the line or carries its text. -/
def Suits : LineOp → String → Prop
  | .equal text, shown | .delete text, shown => text = shown
  | .replace _, _ => True
  | .insert _, _ => False

/-- The operations for one visible line. -/
structure Share where
  /-- The texts that are inserted before the line. -/
  inserted : List String
  /-- The operation that settles the line. -/
  operation : LineOp

namespace Share

/-- The operations of a share in order. -/
def operations (share : Share) : List LineOp :=
  share.inserted.map .insert ++ [share.operation]

/-- The lines that come from a share and the source line that it is for. -/
def lines (share : Share) (source : String) : List String :=
  share.inserted.map escape ++
    match share.operation with
    | .equal _ => [source]
    | .replace text => [escape text]
    | .delete _ | .insert _ => []

end Share

/-- How many of the lines before a place are visible. -/
def visibleBefore (lines : List Line) (place : Nat) : Nat :=
  ((lines.take place).filterMap (·.output)).length

/-- What comes in the place of a line: a hidden line itself, and what its share makes of a
visible one. -/
def inPlace (line : Line) (share? : Option Share) : List String :=
  match line.output with
  | none => [line.source]
  | some _ => share?.elim [] (·.lines line.source)

/-- The lines of a source, the visible ones settled by their shares in order. -/
def settled (lines : List Line) (shares : List Share) : List String :=
  (lines.mapIdx fun place line => inPlace line shares[visibleBefore lines place]?).flatten

theorem settled_hidden (source : String) (rest : List Line) (shares : List Share) :
    settled (⟨none, source⟩ :: rest) shares = source :: settled rest shares := by
  unfold settled
  rw [List.mapIdx_cons, List.flatten_cons]
  rfl

theorem settled_visible (shown source : String) (rest : List Line) (share : Share)
    (shares : List Share) :
    settled (⟨some shown, source⟩ :: rest) (share :: shares) =
      share.lines source ++ settled rest shares := by
  unfold settled
  rw [List.mapIdx_cons, List.flatten_cons]
  rfl

/-- Operations begin with insertions, and go on with one that is none. -/
theorem exists_inserted (operations : List LineOp) :
    ∃ (inserted : List String) (behind : List LineOp),
      operations = inserted.map .insert ++ behind ∧
      ∀ operation ∈ behind.head?, operation.kind ≠ .insert := by
  induction operations with
  | nil => exact ⟨[], [], rfl, fun operation none => nomatch none⟩
  | cons operation rest inductionHypothesis =>
    by_cases inserts : operation.kind = .insert
    · obtain ⟨inserted, behind, rfl, late⟩ := inductionHypothesis
      cases operation with
      | insert text => exact ⟨text :: inserted, behind, rfl, late⟩
      | equal | delete | replace => cases inserts
    · refine ⟨[], operation :: rest, rfl, fun first member => ?_⟩
      cases member
      exact inserts

theorem takeInsertions_inserted {behind : List LineOp}
    (late : ∀ operation ∈ behind.head?, operation.kind ≠ .insert) (inserted : List String) :
    takeInsertions (inserted.map .insert ++ behind) = (inserted, behind) := by
  induction inserted with
  | nil =>
    match behind with
    | [] => rfl
    | .insert text :: rest => exact absurd rfl (late _ rfl)
    | .equal _ :: _ | .delete _ :: _ | .replace _ :: _ => rfl
  | cons text rest inductionHypothesis =>
    rw [List.map_cons, List.cons_append, takeInsertions_insert, inductionHypothesis]

theorem takeInsertions_all (inserted : List String) :
    takeInsertions (inserted.map .insert) = (inserted, []) := by
  have late : ∀ operation ∈ ([] : List LineOp).head?, operation.kind ≠ .insert :=
    fun operation none => nomatch none
  rw [← takeInsertions_inserted late inserted, List.append_nil]

/-- Every list of operations falls into shares and insertions behind them, in one way. -/
theorem exists_shares (operations : List LineOp) :
    ∃ (shares : List Share) (trailing : List String),
      operations = shares.flatMap Share.operations ++ trailing.map .insert ∧
        shares.map Share.operation = operations.filter (·.kind ≠ .insert) := by
  induction operations with
  | nil => exact ⟨[], [], rfl, rfl⟩
  | cons operation rest inductionHypothesis =>
    obtain ⟨shares, trailing, rfl, settling⟩ := inductionHypothesis
    by_cases inserts : operation.kind = .insert
    · rw [List.filter_cons_of_neg (by simpa using inserts), ← settling]
      cases operation with
      | insert text =>
        cases shares with
        | nil => exact ⟨[], text :: trailing, rfl, rfl⟩
        | cons share later => exact ⟨⟨text :: share.inserted, share.operation⟩ :: later,
            trailing, rfl, rfl⟩
      | equal | delete | replace => cases inserts
    · refine ⟨⟨[], operation⟩ :: shares, trailing, rfl, ?_⟩
      rw [List.filter_cons_of_pos (by simpa using inserts), List.map_cons, settling]

/-! ### How far the merge comes -/

/-- A stream begins with lines whose visible ones the first operations fit, share by share;
behind the lines is the rest of the stream, behind the shares what is left of the operations. -/
structure Shared (stream : List (Except RenderError Line)) (operations : List LineOp)
    (lines : List Line) (rest : List (Except RenderError Line)) (shares : List Share)
    (left : List LineOp) : Prop where
  stream : stream = lines.map .ok ++ rest
  operations : operations = shares.flatMap Share.operations ++ left
  suits : List.Forall₂ (fun share shown => Suits share.operation shown) shares
    (lines.filterMap (·.output))

/-- What stops the merge behind a number of lines, in front of the rest of the stream and with
some operations left. -/
inductive Stops (number : Nat) : List (Except RenderError Line) → List LineOp → FoldError → Prop
  /-- The stream itself fails. -/
  | render (error : RenderError) (rest : List (Except RenderError Line)) (left : List LineOp) :
    Stops number (.error error :: rest) left (.render error)
  /-- For a visible line nothing but insertions is left. -/
  | missing (shown source : String) (rest : List (Except RenderError Line))
    (inserted : List String) :
    Stops number (.ok ⟨some shown, source⟩ :: rest) (inserted.map .insert)
      (.alignment (.missingOperation (number + 1)))
  /-- The operation for a visible line carries another text. -/
  | mismatched (shown source text : String) (rest : List (Except RenderError Line))
    (inserted : List String) (operation : LineOp) (more : List LineOp)
    (carries : operation = .equal text ∨ operation = .delete text) (other : text ≠ shown) :
    Stops number (.ok ⟨some shown, source⟩ :: rest) (inserted.map .insert ++ operation :: more)
      (.alignment (.mismatchedLine (number + 1) text shown))
  /-- Behind the last line an operation is left that is not an insertion. -/
  | trailing (inserted : List String) (operation : LineOp) (more : List LineOp)
    (late : operation.kind ≠ .insert) :
    Stops number [] (inserted.map .insert ++ operation :: more)
      (.alignment (.trailingOperation operation))

/-! ### What the merge gives there -/

theorem settle_of_suits {operation : LineOp} {shown : String} (suits : Suits operation shown)
    (number : Nat) (source : String) :
    settle number shown source (some operation) = .ok (Share.lines ⟨[], operation⟩ source) := by
  cases operation with
  | equal text => exact if_pos suits
  | insert text => cases suits
  | delete text => exact if_pos suits
  | replace text => rfl

theorem kind_ne_insert_of_suits {operation : LineOp} {shown : String}
    (suits : Suits operation shown) : operation.kind ≠ .insert := by
  rintro inserts
  cases operation with
  | insert text => cases suits
  | equal | delete | replace => cases inserts

/-- A share that suits a visible line settles it, and the merge goes on behind both. -/
theorem mergeFrom_share {share : Share} {shown : String} (suits : Suits share.operation shown)
    (number : Nat) (source : String) (rest : List (Except RenderError Line))
    (behind : List LineOp) :
    mergeFrom number (.ok ⟨some shown, source⟩ :: rest) (share.operations ++ behind) =
      (mergeFrom (number + 1) rest behind).map (share.lines source ++ ·) := by
  obtain ⟨inserted, operation⟩ := share
  have late : ∀ first ∈ (operation :: behind).head?, first.kind ≠ .insert := by
    intro first member
    cases member
    exact kind_ne_insert_of_suits suits
  rw [Share.operations, List.append_assoc, List.singleton_append, mergeFrom]
  simp only [takeInsertions_inserted late, List.head?_cons, settle_of_suits suits, List.tail_cons]
  cases mergeFrom (number + 1) rest behind <;> rfl

/-- Behind lines that have their shares the merge goes on with the rest and with what is left. -/
theorem mergeFrom_of_shared {stream rest : List (Except RenderError Line)}
    {operations left : List LineOp} {lines : List Line} {shares : List Share}
    (shared : Shared stream operations lines rest shares left) (number : Nat) :
    mergeFrom number stream operations =
      (mergeFrom (number + lines.length) rest left).map (settled lines shares ++ ·) := by
  obtain ⟨rfl, rfl, suits⟩ := shared
  induction lines generalizing shares number with
  | nil =>
    cases suits
    show mergeFrom number rest left = (mergeFrom number rest left).map fun later => later
    cases mergeFrom number rest left <;> rfl
  | cons line more inductionHypothesis =>
    have counted : number + (line :: more).length = number + 1 + more.length := by
      rw [List.length_cons]
      omega
    obtain ⟨output, source⟩ := line
    cases output with
    | none =>
      rw [List.map_cons, List.cons_append, mergeFrom, inductionHypothesis (number + 1) suits,
        counted, settled_hidden]
      cases mergeFrom (number + 1 + more.length) rest left <;> rfl
    | some shown =>
      obtain ⟨share, later, suitsHere, suitsLater, rfl⟩ := List.forall₂_cons_right_iff.mp suits
      rw [List.map_cons, List.cons_append, List.flatMap_cons, List.append_assoc,
        mergeFrom_share suitsHere, inductionHypothesis (number + 1) suitsLater, counted,
        settled_visible]
      cases mergeFrom (number + 1 + more.length) rest left with
      | error error => rfl
      | ok lines => exact congrArg Except.ok (List.append_assoc _ _ _).symm

theorem mergeFrom_of_stops {number : Nat} {rest : List (Except RenderError Line)}
    {left : List LineOp} {error : FoldError} (stops : Stops number rest left error) :
    mergeFrom (number + 1) rest left = .error error := by
  cases stops with
  | render error rest left => rfl
  | missing shown source rest inserted =>
    rw [mergeFrom]
    simp only [takeInsertions_all]
    rfl
  | mismatched shown source text rest inserted operation more carries other =>
    have late : ∀ first ∈ (operation :: more).head?, first.kind ≠ .insert := by
      intro first member
      cases member
      rcases carries with rfl | rfl <;> simp [LineOp.kind]
    rw [mergeFrom]
    simp only [takeInsertions_inserted late, List.head?_cons]
    rcases carries with rfl | rfl <;> simp only [settle, if_neg other] <;> rfl
  | trailing inserted operation more late =>
    have lateFirst : ∀ first ∈ (operation :: more).head?, first.kind ≠ .insert := by
      intro first member
      cases member
      exact late
    rw [mergeFrom, finish]
    simp only [takeInsertions_inserted lateFirst]
    rfl

theorem finish_inserted (trailing : List String) :
    finish (trailing.map .insert) = .ok (trailing.map escape) := by
  rw [finish, takeInsertions_all]

/-! ### Every stream is shared to its end or stopped -/

theorem Shared.hidden {stream rest : List (Except RenderError Line)}
    {operations left : List LineOp} {lines : List Line} {shares : List Share}
    (shared : Shared stream operations lines rest shares left) (source : String) :
    Shared (.ok ⟨none, source⟩ :: stream) operations (⟨none, source⟩ :: lines) rest shares left :=
  ⟨congrArg _ shared.stream, shared.operations, shared.suits⟩

theorem Shared.visible {stream rest : List (Except RenderError Line)}
    {operations left : List LineOp} {lines : List Line} {shares : List Share}
    (shared : Shared stream operations lines rest shares left) (share : Share) {shown : String}
    (suits : Suits share.operation shown) (source : String) :
    Shared (.ok ⟨some shown, source⟩ :: stream) (share.operations ++ operations)
      (⟨some shown, source⟩ :: lines) rest (share :: shares) left := by
  refine ⟨congrArg _ shared.stream, ?_, shared.suits.cons suits⟩
  rw [shared.operations, List.flatMap_cons, List.append_assoc]

/-- An operation that does not fit a visible line, and is no insertion, carries another text. -/
theorem exists_text_of_not_suits {operation : LineOp} {shown : String}
    (unsuited : ¬Suits operation shown) (late : operation.kind ≠ .insert) :
    ∃ text, (operation = .equal text ∨ operation = .delete text) ∧ text ≠ shown := by
  cases operation with
  | equal text => exact ⟨text, .inl rfl, unsuited⟩
  | insert text => exact absurd rfl late
  | delete text => exact ⟨text, .inr rfl, unsuited⟩
  | replace text => exact absurd trivial unsuited

theorem shared_or_stops (stream : List (Except RenderError Line)) (operations : List LineOp) :
    ∃ lines rest shares left, Shared stream operations lines rest shares left ∧
      ((rest = [] ∧ ∃ trailing : List String, left = trailing.map .insert) ∨
        ∀ number, ∃ error, Stops number rest left error) := by
  induction stream generalizing operations with
  | nil =>
    obtain ⟨inserted, behind, rfl, late⟩ := exists_inserted operations
    refine ⟨[], [], [], _, ⟨rfl, rfl, .nil⟩, ?_⟩
    cases behind with
    | nil => exact .inl ⟨rfl, inserted, List.append_nil _⟩
    | cons operation more =>
      exact .inr fun number => ⟨_, .trailing inserted operation more (late operation rfl)⟩
  | cons item stream inductionHypothesis =>
    match item with
    | .error error =>
      exact ⟨[], _, [], operations, ⟨rfl, rfl, .nil⟩,
        .inr fun number => ⟨_, .render error stream operations⟩⟩
    | .ok ⟨none, source⟩ =>
      obtain ⟨lines, rest, shares, left, shared, ends⟩ := inductionHypothesis operations
      exact ⟨_, rest, shares, left, shared.hidden source, ends⟩
    | .ok ⟨some shown, source⟩ =>
      obtain ⟨inserted, behind, rfl, late⟩ := exists_inserted operations
      cases behind with
      | nil =>
        rw [List.append_nil]
        exact ⟨[], _, [], _, ⟨rfl, rfl, .nil⟩,
          .inr fun number => ⟨_, .missing shown source stream inserted⟩⟩
      | cons operation more =>
        by_cases suits : Suits operation shown
        · obtain ⟨lines, rest, shares, left, shared, ends⟩ := inductionHypothesis more
          have whole := shared.visible ⟨inserted, operation⟩ suits source
          rw [Share.operations, List.append_assoc, List.singleton_append] at whole
          exact ⟨_, rest, _, left, whole, ends⟩
        · obtain ⟨text, carries, other⟩ := exists_text_of_not_suits suits (late operation rfl)
          exact ⟨[], _, [], _, ⟨rfl, rfl, .nil⟩, .inr fun number =>
            ⟨_, .mismatched shown source text stream inserted operation more carries other⟩⟩

/-! ### The merge -/

variable {stream : List (Except RenderError Line)} {operations : List LineOp}

theorem merge_of_shared_to_end {lines : List Line} {shares : List Share} {trailing : List String}
    (shared : Shared stream operations lines [] shares (trailing.map .insert)) :
    merge stream operations = .ok (settled lines shares ++ trailing.map escape) := by
  rw [merge, mergeFrom_of_shared shared, mergeFrom, finish_inserted]
  rfl

theorem merge_of_stops {lines : List Line} {rest : List (Except RenderError Line)}
    {shares : List Share} {left : List LineOp} {error : FoldError}
    (shared : Shared stream operations lines rest shares left)
    (stops : Stops lines.length rest left error) : merge stream operations = .error error := by
  rw [merge, mergeFrom_of_shared shared, Nat.add_comm, mergeFrom_of_stops stops]
  rfl

theorem merge_eq_ok_iff {merged : List String} :
    merge stream operations = .ok merged ↔
      ∃ (lines : List Line) (shares : List Share) (trailing : List String),
      Shared stream operations lines [] shares (trailing.map .insert) ∧
        merged = settled lines shares ++ trailing.map escape := by
  constructor
  · intro merges
    obtain ⟨lines, rest, shares, left, shared, ⟨rfl, trailing, rfl⟩ | stops⟩ :=
      shared_or_stops stream operations
    · exact ⟨lines, shares, trailing, shared,
        Except.ok.inj (merges.symm.trans (merge_of_shared_to_end shared))⟩
    · obtain ⟨error, stop⟩ := stops lines.length
      cases merges.symm.trans (merge_of_stops shared stop)
  · rintro ⟨lines, shares, trailing, shared, rfl⟩
    exact merge_of_shared_to_end shared

theorem merge_eq_error_iff {error : FoldError} :
    merge stream operations = .error error ↔ ∃ lines rest shares left,
      Shared stream operations lines rest shares left ∧ Stops lines.length rest left error := by
  constructor
  · intro fails
    obtain ⟨lines, rest, shares, left, shared, ⟨rfl, trailing, rfl⟩ | stops⟩ :=
      shared_or_stops stream operations
    · cases fails.symm.trans (merge_of_shared_to_end shared)
    · obtain ⟨other, stop⟩ := stops lines.length
      cases fails.symm.trans (merge_of_stops shared stop)
      exact ⟨lines, rest, shares, left, shared, stop⟩
  · rintro ⟨lines, rest, shares, left, shared, stop⟩
    exact merge_of_stops shared stop

/-- The operations that settle lines are those that are no insertions. -/
theorem Shared.filter_operations {lines : List Line} {rest : List (Except RenderError Line)}
    {shares : List Share} {trailing : List String}
    (shared : Shared stream operations lines rest shares (trailing.map .insert)) :
    operations.filter (·.kind ≠ .insert) = shares.map Share.operation := by
  obtain ⟨-, rfl, suits⟩ := shared
  have inserts : ∀ texts : List String,
      (texts.map LineOp.insert).filter (·.kind ≠ .insert) = [] := by
    intro texts
    refine List.filter_eq_nil_iff.mpr fun operation member => ?_
    obtain ⟨text, -, rfl⟩ := List.mem_map.mp member
    exact of_decide_eq_false rfl
  rw [List.filter_append, inserts, List.append_nil]
  generalize lines.filterMap (·.output) = visible at suits
  induction suits with
  | nil => rfl
  | @cons share _ _ _ suitsHere _ inductionHypothesis =>
    have settles : [share.operation].filter (·.kind ≠ .insert) = [share.operation] :=
      List.filter_cons_of_pos (decide_eq_true (kind_ne_insert_of_suits suitsHere))
    rw [List.flatMap_cons, List.filter_append, inductionHypothesis, Share.operations,
      List.filter_append, inserts, settles]
    rfl

/-- The merge succeeds exactly if no line of the stream fails and the operations that are no
insertions fit the visible lines one by one. Then every hidden line stands in its place, every
visible one behind what is inserted before it, kept, dropped or replaced, and the last insertions
stand at the end. Otherwise it fails with what stops it first. -/
theorem merge_on_any_input (stream : List (Except RenderError Line)) (operations : List LineOp) :
    ((∃ merged, merge stream operations = .ok merged) ↔ ∃ lines : List Line,
      stream = lines.map .ok ∧
        List.Forall₂ Suits (operations.filter (·.kind ≠ .insert)) (lines.filterMap (·.output))) ∧
    (∀ merged, merge stream operations = .ok merged ↔
      ∃ (lines : List Line) (shares : List Share) (trailing : List String),
      Shared stream operations lines [] shares (trailing.map .insert) ∧
        merged = settled lines shares ++ trailing.map escape) ∧
    (∀ error, merge stream operations = .error error ↔ ∃ lines rest shares left,
      Shared stream operations lines rest shares left ∧ Stops lines.length rest left error) := by
  refine ⟨⟨?_, ?_⟩, fun merged => merge_eq_ok_iff, fun error => merge_eq_error_iff⟩
  · rintro ⟨merged, merges⟩
    obtain ⟨lines, shares, trailing, shared, -⟩ := merge_eq_ok_iff.mp merges
    refine ⟨lines, shared.stream.trans (List.append_nil _), ?_⟩
    rw [shared.filter_operations, List.forall₂_map_left_iff]
    exact shared.suits
  · rintro ⟨lines, rfl, suits⟩
    obtain ⟨shares, trailing, spelled, settling⟩ := exists_shares operations
    rw [← settling, List.forall₂_map_left_iff] at suits
    exact ⟨_, merge_of_shared_to_end ⟨(List.append_nil _).symm, spelled, suits⟩⟩

end Foldback.Fold
