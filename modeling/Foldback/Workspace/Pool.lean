/-
Pools: the work on several files at a time. All works share one disk. In its turn a
work takes one step, so the steps of the works may come in any order and between each
other. Which work has its turn is not for the program to say. When no more turns are
given, the works are ended one after the other, so a pool that is given no turns works
on one file at a time.

The outcomes are those of the files in their order, whatever the turns are. Notes come
in the order in which they are made.
-/

import Foldback.Workspace.Batch
import Foldback.Workspace.Steps

namespace Foldback

/-- Works that go on on one disk. -/
structure Pool (value : Type) where
  disk : Disk
  /-- What the works have noted, in order. -/
  notes : List FileNote
  /-- What is still to be done, for each file. -/
  works : List (Steps value)

namespace Pool

variable {value : Type}

/-- One work takes a step. Nothing happens if it has ended, or if there is no such work. -/
def advance (pool : Pool value) (index : Nat) : Pool value :=
  match pool.works[index]? with
  | some (.noted note rest) =>
    { pool with notes := pool.notes ++ [note], works := pool.works.set index rest }
  | some (.acted operation rest) =>
    let (answer, after) := operation.perform pool.disk
    { pool with disk := after, works := pool.works.set index (rest answer) }
  | some (.ended _) | none => pool

/-- The works take steps in turns. -/
def follow (pool : Pool value) (turns : List Nat) : Pool value :=
  turns.foldl advance pool

/-- Ends works one after the other: the notes, the outcomes in order, and the disk at the end. -/
def endAll (disk : Disk) :
    List (Steps value) → List FileNote × List (Except Failure value) × Disk
  | [] => ([], [], disk)
  | work :: rest =>
    let (traced, next) := work.alone disk
    let (notes, outcomes, after) := endAll next rest
    (traced.notes ++ notes, traced.outcome :: outcomes, after)

end Pool

namespace Batch

/-- In which way the files of a batch are worked on. -/
inductive Mode where
  /-- One at a time, in order. -/
  | sequential
  /-- Together, in turns. -/
  | pooled (turns : List Nat)
  deriving DecidableEq, Repr

/-- The turns that are given before the works are ended one after the other. -/
def Mode.turns : Mode → List Nat
  | .sequential => []
  | .pooled turns => turns

/-- The pool in which the work on some files begins. -/
def pool {result : Type} (work : String → Steps result) (disk : Disk) (files : List String) :
    Pool result :=
  ⟨disk, [], files.map work⟩

/-- The work on some files: the notes, the outcomes in the order of the files, and the disk at the
end. -/
def process {result : Type} (mode : Mode) (work : String → Steps result) (disk : Disk)
    (files : List String) : List FileNote × List (Outcome result) × Disk :=
  match mode with
  | .sequential => run (fun disk file => (work file).alone disk) disk files
  | .pooled turns =>
    let reached := (pool work disk files).follow turns
    let (notes, outcomes, after) := Pool.endAll reached.disk reached.works
    (reached.notes ++ notes, List.zipWith Outcome.mk files outcomes, after)

end Batch

end Foldback
