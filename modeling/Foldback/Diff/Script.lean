/-
Edit scripts between two sequences. A script keeps, drops and adds single
items; what it keeps is a longest common subsequence. The common items at the
two ends are kept first, and a table over the suffixes of what lies between
finds the rest.

A cell of the table holds the number of items that a best script keeps and the
script itself. The cells of a row share their scripts with the row below, so
the answer is read off without a second walk. Where dropping an old item and
adding a new one keep equally many, the old item is dropped first.
-/

namespace Foldback.Diff

/-- What a script does with one item. -/
inductive Edit (α : Type) where
  /-- The item is in both sequences. -/
  | keep (item : α)
  /-- The item is in the old sequence only. -/
  | drop (item : α)
  /-- The item is in the new sequence only. -/
  | add (item : α)
  deriving DecidableEq, Repr

variable {α : Type} [DecidableEq α]

/-- A best script between two suffixes. -/
structure Cell (α : Type) where
  /-- How many items the script keeps. -/
  kept : Nat
  script : List (Edit α)
  deriving Repr

namespace Cell

/-- The script between two empty sequences. -/
def done : Cell α := ⟨0, []⟩

/-- First keeps an item. -/
def keeping (cell : Cell α) (item : α) : Cell α := ⟨cell.kept + 1, .keep item :: cell.script⟩

/-- First drops an item. -/
def dropping (cell : Cell α) (item : α) : Cell α := ⟨cell.kept, .drop item :: cell.script⟩

/-- First adds an item. -/
def adding (cell : Cell α) (item : α) : Cell α := ⟨cell.kept, .add item :: cell.script⟩

/-- The cell for two first items from the cells behind both, behind the old one
and behind the new one. -/
def choose (old new : α) (both behindOld behindNew : Cell α) : Cell α :=
  if old = new then both.keeping old
  else if behindNew.kept ≤ behindOld.kept then behindOld.dropping old
  else behindNew.adding new

end Cell

/-- The cells of an exhausted old sequence against every suffix of the new one. -/
def lastRow : List α → List (Cell α)
  | [] => [.done]
  | item :: rest =>
    let right := lastRow rest
    (right.headD .done).adding item :: right

/-- The cells of one more old item, from the row of the items behind it. -/
def rowAbove (item : α) : List α → List (Cell α) → List (Cell α)
  | [], below => [(below.headD .done).dropping item]
  | new :: rest, below =>
    let right := rowAbove item rest below.tail
    Cell.choose item new (below.tail.headD .done) (below.headD .done) (right.headD .done) :: right

/-- The cells of an old sequence against every suffix of a new one. -/
def row (new : List α) : List α → List (Cell α)
  | [] => lastRow new
  | item :: rest => rowAbove item new (row new rest)

/-- The cell of two whole sequences. -/
def bestCell (old new : List α) : Cell α :=
  (row new old).headD .done

/-- The longest common prefix. -/
def commonFront : List α → List α → List α
  | old :: oldRest, new :: newRest => if old = new then old :: commonFront oldRest newRest else []
  | _, _ => []

/-- The longest common suffix. -/
def commonBack (old new : List α) : List α :=
  (commonFront old.reverse new.reverse).reverse

/-- The script without trimming the back. -/
def scriptBetween (old new : List α) : List (Edit α) :=
  let back := commonBack old new
  (bestCell (old.take (old.length - back.length)) (new.take (new.length - back.length))).script ++
    back.map .keep

/-- The script from one sequence to another. -/
def script (old new : List α) : List (Edit α) :=
  let front := commonFront old new
  front.map .keep ++ scriptBetween (old.drop front.length) (new.drop front.length)

/-! ### The recurrence of the table -/

theorem rowAbove_tail (item new : α) (rest : List α) (below : List (Cell α)) :
    (rowAbove item (new :: rest) below).tail = rowAbove item rest below.tail := rfl

theorem row_tail (new : α) (rest old : List α) : (row (new :: rest) old).tail = row rest old := by
  induction old with
  | nil => rfl
  | cons item more inductionHypothesis =>
    rw [row, rowAbove_tail, inductionHypothesis]
    rfl

theorem bestCell_nil_cons (new : α) (rest : List α) :
    bestCell [] (new :: rest) = (bestCell [] rest).adding new := rfl

theorem bestCell_cons_nil (old : α) (rest : List α) :
    bestCell (old :: rest) [] = (bestCell rest []).dropping old := rfl

theorem bestCell_cons_cons (old new : α) (oldRest newRest : List α) :
    bestCell (old :: oldRest) (new :: newRest) =
      Cell.choose old new (bestCell oldRest newRest) (bestCell oldRest (new :: newRest))
        (bestCell (old :: oldRest) newRest) := by
  unfold bestCell
  rw [row, rowAbove, row_tail]
  rfl

end Foldback.Diff
