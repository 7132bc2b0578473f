/-
Merging edits into a source. The merge walks over the lines of a rendering pass
with the operations of an edit. Hidden lines stay where they are. Before every
visible line the insertions that come next are taken in; one more operation
then decides what becomes of the line. Operations that are left at the end of
the source must all be insertions.

Text that an edit brings in is escaped, so that it is read back as itself.
-/

import Foldback.Template.Pass
import Foldback.Diff.LineOp
import Foldback.Text.Quoted

namespace Foldback

open Diff Text

/-- Why operations do not fit the visible lines. -/
inductive AlignmentError where
  /-- No operation is left for a visible line. -/
  | missingOperation (line : Nat)
  /-- An operation carries another text than the line it is for. -/
  | mismatchedLine (line : Nat) (expected found : String)
  /-- An operation is left over that is not an insertion. -/
  | trailingOperation (operation : LineOp)
  deriving DecidableEq, Repr

/-- The message for an alignment error. -/
def AlignmentError.message : AlignmentError → String
  | .missingOperation line => s!"Line {line}: no diff opcode left for published line"
  | .mismatchedLine line expected found =>
    s!"Line {line}: diff expected {quotedText expected}, rendered {quotedText found}"
  | .trailingOperation operation =>
    s!"Unexpected trailing diff opcode {operation.kind.word} {quotedText operation.text}"

/-- Why edits cannot be folded into a source. -/
inductive FoldError where
  /-- The source does not render. -/
  | render (error : RenderError)
  /-- The edits do not fit the rendered lines. -/
  | alignment (error : AlignmentError)
  deriving DecidableEq, Repr

namespace FoldError

/-- The message for a folding error. -/
def message : FoldError → String
  | .render error => error.message
  | .alignment error => error.message

/-- The message of the error behind a folding error, where there is one. -/
def cause? : FoldError → Option String
  | .render error => error.cause?
  | .alignment _ => none

end FoldError

namespace Fold

/-- The texts of the insertions that come first, and the operations behind them. -/
def takeInsertions : List LineOp → List String × List LineOp
  | .insert text :: rest =>
    let (texts, behind) := takeInsertions rest
    (text :: texts, behind)
  | operations => ([], operations)

/-- What one operation makes of a visible line: the lines that take its place. -/
def settle (number : Nat) (shown source : String) :
    Option LineOp → Except AlignmentError (List String)
  | some (.equal text) =>
    if text = shown then .ok [source] else .error (.mismatchedLine number text shown)
  | some (.delete text) =>
    if text = shown then .ok [] else .error (.mismatchedLine number text shown)
  | some (.replace text) => .ok [Directive.escape text]
  | some (.insert _) | none => .error (.missingOperation number)

/-- Takes in the operations that are left at the end of the source. -/
def finish (operations : List LineOp) : Except AlignmentError (List String) :=
  match takeInsertions operations with
  | (texts, []) => .ok (texts.map Directive.escape)
  | (_, operation :: _) => .error (.trailingOperation operation)

/-- Merges operations into the lines from a given number on. -/
def mergeFrom (number : Nat) : List (Except RenderError Line) → List LineOp →
    Except FoldError (List String)
  | [], operations => (finish operations).mapError .alignment
  | .error error :: _, _ => .error (.render error)
  | .ok ⟨none, source⟩ :: rest, operations => do
    let later ← mergeFrom (number + 1) rest operations
    pure (source :: later)
  | .ok ⟨some shown, source⟩ :: rest, operations => do
    let (texts, behind) := takeInsertions operations
    let lines ← (settle number shown source behind.head?).mapError .alignment
    let later ← mergeFrom (number + 1) rest behind.tail
    pure (texts.map Directive.escape ++ lines ++ later)

/-- Merges operations into the lines of a pass. -/
def merge (lines : List (Except RenderError Line)) (operations : List LineOp) :
    Except FoldError (List String) :=
  mergeFrom 1 lines operations

end Fold

/-- Folds the edited form of a rendered source back into the source. -/
def Setup.foldBack (setup : Setup) (source edited : List String) :
    Except FoldError (List String) := do
  let canonical ← (setup.render source).mapError .render
  Fold.merge (setup.pass source).stream (lineOps canonical edited)

end Foldback
