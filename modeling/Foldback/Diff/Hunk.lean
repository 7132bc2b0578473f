/-
Hunks, the parts of an alignment that are worth showing: every change, with up
to a given number of unchanged lines before and behind it. Two changes share a
hunk when the unchanged lines between them all belong to the context of one or
the other.
-/

import Foldback.Diff.Chunk

namespace Foldback.Diff

variable {α : Type}

/-- A part of an alignment, with the indices at which it starts on both sides. -/
structure Hunk (α : Type) where
  oldStart : Nat
  newStart : Nat
  body : List (Chunk α)
  deriving DecidableEq, Repr

namespace Hunk

/-- The lines of the old side. -/
def old (hunk : Hunk α) : List α :=
  hunk.body.flatMap Chunk.old

/-- The lines of the new side. -/
def new (hunk : Hunk α) : List α :=
  hunk.body.flatMap Chunk.new

end Hunk

/-- The last items of a list, at most so many. -/
def lastItems (count : Nat) (items : List α) : List α :=
  items.drop (items.length - count)

/-- How the chunks behind a change go on: the rest of the hunk that the change
stands in, and the hunks after it. -/
def hunksBehind (context : Nat) (oldStart newStart : Nat) :
    List (Chunk α) → List (Chunk α) × List (Hunk α)
  | [] => ([], [])
  | .changed old new :: rest =>
    let (body, later) := hunksBehind context (oldStart + old.length) (newStart + new.length) rest
    (.changed old new :: body, later)
  | [.same items] => ([.same (items.take context)], [])
  | .same items :: rest =>
    let (body, later) :=
      hunksBehind context (oldStart + items.length) (newStart + items.length) rest
    if items.length ≤ 2 * context then (.same items :: body, later)
    else
      let lead := lastItems context items
      ([.same (items.take context)],
        ⟨oldStart + items.length - lead.length, newStart + items.length - lead.length,
          .same lead :: body⟩ :: later)

/-- The hunks of an alignment. -/
def hunksOf (context : Nat) : List (Chunk α) → List (Hunk α)
  | [] => []
  | [.same _] => []
  | .same items :: rest =>
    let (body, later) := hunksBehind context items.length items.length rest
    let lead := lastItems context items
    ⟨items.length - lead.length, items.length - lead.length, .same lead :: body⟩ :: later
  | .changed old new :: rest =>
    let (body, later) := hunksBehind context 0 0 (.changed old new :: rest)
    ⟨0, 0, body⟩ :: later

/-- The hunks between two sequences. -/
def hunks [DecidableEq α] (context : Nat) (old new : List α) : List (Hunk α) :=
  hunksOf context (chunks old new)

end Foldback.Diff
