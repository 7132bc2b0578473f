/-
Chunks of an alignment: the maximal stretches of a script that keep their
items, and the changed stretches between them. A changed chunk holds the
dropped and the added items, each in order. Chunks are also given as runs,
which name their kind and their index ranges in both sequences.
-/

import Foldback.Diff.Script

namespace Foldback.Diff

variable {α : Type}

/-- A stretch of an alignment. -/
inductive Chunk (α : Type) where
  /-- The items are in both sequences. -/
  | same (items : List α)
  /-- The old items are replaced by the new ones. -/
  | changed (old new : List α)
  deriving DecidableEq, Repr

namespace Chunk

/-- The items on the old side. -/
def old : Chunk α → List α
  | .same items => items
  | .changed old _ => old

/-- The items on the new side. -/
def new : Chunk α → List α
  | .same items => items
  | .changed _ new => new

/-- Puts a kept item in front. -/
def consKeep (item : α) : List (Chunk α) → List (Chunk α)
  | .same items :: rest => .same (item :: items) :: rest
  | rest => .same [item] :: rest

/-- Puts a dropped item in front. -/
def consDrop (item : α) : List (Chunk α) → List (Chunk α)
  | .changed old new :: rest => .changed (item :: old) new :: rest
  | rest => .changed [item] [] :: rest

/-- Puts an added item in front. -/
def consAdd (item : α) : List (Chunk α) → List (Chunk α)
  | .changed old new :: rest => .changed old (item :: new) :: rest
  | rest => .changed [] [item] :: rest

/-- The chunks of a script. -/
def ofScript : List (Edit α) → List (Chunk α)
  | [] => []
  | .keep item :: rest => consKeep item (ofScript rest)
  | .drop item :: rest => consDrop item (ofScript rest)
  | .add item :: rest => consAdd item (ofScript rest)

end Chunk

/-- The chunks of the alignment of two sequences. -/
def chunks [DecidableEq α] (old new : List α) : List (Chunk α) :=
  Chunk.ofScript (script old new)

/-! ### Runs -/

/-- The kind of a run. -/
inductive RunKind where
  /-- Both sides have the same items. -/
  | equal
  /-- Only the new side has items. -/
  | insert
  /-- Only the old side has items. -/
  | delete
  /-- Both sides have items, which differ. -/
  | replace
  deriving DecidableEq, Repr

/-- The word for a kind of run. -/
def RunKind.word : RunKind → String
  | .equal => "equal"
  | .insert => "insert"
  | .delete => "delete"
  | .replace => "replace"

/-- The kind of a chunk. -/
def Chunk.kind : Chunk α → RunKind
  | .same _ => .equal
  | .changed [] _ => .insert
  | .changed (_ :: _) [] => .delete
  | .changed (_ :: _) (_ :: _) => .replace

/-- A half-open range of indices. -/
structure IndexRange where
  start : Nat
  stop : Nat
  deriving DecidableEq, Repr

/-- The number of indices in a range. -/
def IndexRange.size (range : IndexRange) : Nat :=
  range.stop - range.start

/-- A chunk given by its place in both sequences. -/
structure Run where
  kind : RunKind
  old : IndexRange
  new : IndexRange
  deriving DecidableEq, Repr

/-- The runs of chunks that start at two given indices. -/
def runsFrom (oldStart newStart : Nat) : List (Chunk α) → List Run
  | [] => []
  | chunk :: rest =>
    let oldStop := oldStart + chunk.old.length
    let newStop := newStart + chunk.new.length
    ⟨chunk.kind, ⟨oldStart, oldStop⟩, ⟨newStart, newStop⟩⟩ :: runsFrom oldStop newStop rest

/-- The runs of the alignment of two sequences. -/
def runs [DecidableEq α] (old new : List α) : List Run :=
  runsFrom 0 0 (chunks old new)

end Foldback.Diff
