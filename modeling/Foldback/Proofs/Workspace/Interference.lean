/-
Works that go on at the same time. What a work may meet is bounded by what the others
may do to the disk, and what it may do bounds what the others meet. A work is safe if,
whatever the others have done before each of its operations, it does what it may and
ends as it should. The invariant of a pool is that every work in it is safe: a turn of
one work keeps the others safe, if what the one may do is what the others may meet. So
all works of a pool end as they should, whatever turns they take.

Every way to work on the files of a batch is a run of a pool, at the end of which all
works have ended.
-/

import Mathlib.Data.List.Basic
import Mathlib.Logic.Relation
import Foldback.Workspace.Pool

namespace Foldback

namespace Steps

variable {value other : Type} {meets does : Disk → Disk → Prop}
  {ends : Except Failure value → Disk → Prop} {disk : Disk}

/-! ### Safe works -/

/-- Others may do nothing, and they may do one thing after another. -/
structure Steady (meets : Disk → Disk → Prop) : Prop where
  still : ∀ disk, meets disk disk
  onward : ∀ {first middle last}, meets first middle → meets middle last → meets first last

/-- Whatever the others do before each operation, as far as it may be met, the work does what it
may and ends as it should. -/
def Safe (meets does : Disk → Disk → Prop) (ends : Except Failure value → Disk → Prop) :
    Steps value → Disk → Prop
  | .ended outcome, disk => ∀ later, meets disk later → ends outcome later
  | .noted _ rest, disk => rest.Safe meets does ends disk
  | .acted operation rest, disk => ∀ later, meets disk later →
      does later (operation.perform later).2 ∧
        (rest (operation.perform later).1).Safe meets does ends (operation.perform later).2

/-- A safe work stays safe while others go on. -/
theorem Safe.later (steady : Steady meets) {work : Steps value} {later : Disk}
    (safe : work.Safe meets does ends disk) (met : meets disk later) :
    work.Safe meets does ends later := by
  induction work with
  | ended outcome => exact fun next further => safe next (steady.onward met further)
  | noted note rest inductionHypothesis => exact inductionHypothesis safe
  | acted operation rest _ => exact fun next further => safe next (steady.onward met further)

theorem Safe.imp {work : Steps value} {last : Except Failure value → Disk → Prop}
    (safe : work.Safe meets does ends disk)
    (implies : ∀ outcome disk, ends outcome disk → last outcome disk) :
    work.Safe meets does last disk := by
  induction work generalizing disk with
  | ended outcome => exact fun later met => implies outcome later (safe later met)
  | noted note rest inductionHypothesis => exact inductionHypothesis safe
  | acted operation rest inductionHypothesis =>
    exact fun later met => ⟨(safe later met).1, inductionHypothesis _ (safe later met).2⟩

/-- A work that does no more than it may is safe if it may do more. -/
theorem Safe.of_does {work : Steps value} {more : Disk → Disk → Prop}
    (safe : work.Safe meets does ends disk)
    (implies : ∀ before after, does before after → more before after) :
    work.Safe meets more ends disk := by
  induction work generalizing disk with
  | ended outcome => exact safe
  | noted note rest inductionHypothesis => exact inductionHypothesis safe
  | acted operation rest inductionHypothesis =>
    exact fun later met =>
      ⟨implies _ _ (safe later met).1, inductionHypothesis _ (safe later met).2⟩

/-- Work that goes on after a value is safe if what follows is. -/
theorem Safe.andThen (steady : Steady meets) {first : Steps value}
    {next : value → Steps other} {last : Except Failure other → Disk → Prop}
    (safe : first.Safe meets does ends disk)
    (failed : ∀ failure disk, ends (.error failure) disk → last (.error failure) disk)
    (goesOn : ∀ result disk, ends (.ok result) disk → (next result).Safe meets does last disk) :
    (first >>= next).Safe meets does last disk := by
  induction first generalizing disk with
  | ended outcome =>
    cases outcome with
    | error failure => exact fun later met => failed failure later (safe later met)
    | ok result => exact goesOn result disk (safe disk (steady.still disk))
  | noted note rest inductionHypothesis => exact inductionHypothesis safe
  | acted operation rest inductionHypothesis =>
    exact fun later met => ⟨(safe later met).1, inductionHypothesis _ (safe later met).2⟩

/-- Notes change nothing. -/
theorem Safe.note {next : Unit → Steps other} {ends : Except Failure other → Disk → Prop}
    (safe : (next ()).Safe meets does ends disk) (notes : List FileNote) :
    (note notes >>= next).Safe meets does ends disk := by
  induction notes with
  | nil => exact safe
  | cons first rest inductionHypothesis => exact inductionHypothesis

/-- Others that may do anything. -/
theorem steady_true : Steady fun _ _ => True := ⟨fun _ => trivial, fun _ _ => trivial⟩

/-- Nothing is asked of any work. -/
theorem safe_of_true (work : Steps value) (disk : Disk) :
    work.Safe (fun _ _ => True) (fun _ _ => True) (fun _ _ => True) disk := by
  induction work generalizing disk with
  | ended outcome => exact fun _ _ => trivial
  | noted note rest inductionHypothesis => exact inductionHypothesis disk
  | acted operation rest inductionHypothesis =>
    exact fun later _ => ⟨trivial, inductionHypothesis _ _⟩

/-! ### Works that only read -/

/-- No operation of the work changes the disk. -/
def OnlyReads : Steps value → Prop
  | .ended _ => True
  | .noted _ rest => rest.OnlyReads
  | .acted operation rest => (∀ disk, (operation.perform disk).2 = disk) ∧
      ∀ answer, (rest answer).OnlyReads

theorem OnlyReads.andThen {first : Steps value} {next : value → Steps other}
    (reads : first.OnlyReads) (goesOn : ∀ result, (next result).OnlyReads) :
    (first >>= next).OnlyReads := by
  induction first with
  | ended outcome =>
    cases outcome with
    | error failure => trivial
    | ok result => exact goesOn result
  | noted note rest inductionHypothesis => exact inductionHypothesis reads
  | acted operation rest inductionHypothesis =>
    exact ⟨reads.1, fun answer => inductionHypothesis answer (reads.2 answer)⟩

/-- Among others that only read, such a work ends as at one go. -/
theorem OnlyReads.safe {work : Steps value} (reads : work.OnlyReads) (disk : Disk) :
    work.Safe Eq Eq (fun outcome _ => outcome = (work.alone disk).1.outcome) disk := by
  induction work with
  | ended outcome => exact fun _ _ => rfl
  | noted note rest inductionHypothesis => exact inductionHypothesis reads
  | acted operation rest inductionHypothesis =>
    rintro later rfl
    refine ⟨(reads.1 disk).symm, ?_⟩
    rw [alone_acted, reads.1 disk]
    exact inductionHypothesis _ (reads.2 _)

end Steps

namespace Pool

variable {value : Type} {pool : Pool value} {meets does : Nat → Disk → Disk → Prop}
  {ends : Nat → Except Failure value → Disk → Prop}

/-! ### Safe pools -/

/-- All works of a pool are safe. -/
protected def Safe (meets does : Nat → Disk → Disk → Prop)
    (ends : Nat → Except Failure value → Disk → Prop) (pool : Pool value) : Prop :=
  ∀ index (work : Steps value), pool.works[index]? = some work →
    work.Safe (meets index) (does index) (ends index) pool.disk

/-- What one of so many works may do. -/
def Does (does : Nat → Disk → Disk → Prop) (count : Nat) (before after : Disk) : Prop :=
  ∃ index < count, does index before after

@[simp]
theorem length_works_advance (pool : Pool value) (index : Nat) :
    (pool.advance index).works.length = pool.works.length := by
  unfold advance
  split <;> simp

section Turns

variable (steady : ∀ index, Steps.Steady (meets index))
  (bound : ∀ index other, index ≠ other → ∀ before after, does index before after →
    meets other before after)
include steady bound

/-- A work that is safe after a step of its own is put back among the others. -/
theorem Safe.set (safe : pool.Safe meets does ends) {index : Nat} {rest : Steps value}
    {after : Disk} (done : does index pool.disk after ∨ after = pool.disk)
    (safeRest : rest.Safe (meets index) (does index) (ends index) after) (notes : List FileNote) :
    (⟨after, notes, pool.works.set index rest⟩ : Pool value).Safe meets does ends := by
  intro other work listed
  by_cases same : index = other
  · subst same
    rw [List.getElem?_set_self'] at listed
    obtain ⟨-, -, rfl⟩ := Option.map_eq_some_iff.mp listed
    exact safeRest
  · rw [List.getElem?_set_ne same] at listed
    rcases done with done | rfl
    · exact (safe other work listed).later (steady other) (bound index other same _ _ done)
    · exact safe other work listed

/-- A turn keeps all works safe and does what its work may do, or nothing. -/
theorem Safe.advance (safe : pool.Safe meets does ends) (index : Nat) :
    (pool.advance index).Safe meets does ends ∧
      ((pool.advance index).disk = pool.disk ∨
        Does does pool.works.length pool.disk (pool.advance index).disk) := by
  unfold Pool.advance
  split
  next note rest listed =>
    have safeRest : rest.Safe (meets index) (does index) (ends index) pool.disk :=
      safe index (.noted note rest) listed
    exact ⟨safe.set steady bound (.inr rfl) safeRest _, .inl rfl⟩
  next operation rest listed =>
    obtain ⟨done, safeRest⟩ := safe index _ listed pool.disk ((steady index).still pool.disk)
    obtain ⟨within, -⟩ := List.getElem?_eq_some_iff.mp listed
    exact ⟨safe.set steady bound (.inl done) safeRest _, .inr ⟨index, within, done⟩⟩
  next => exact ⟨safe, .inl rfl⟩
  next => exact ⟨safe, .inl rfl⟩

/-- A run of turns does what its works may do, one after the other. -/
theorem Safe.follow (safe : pool.Safe meets does ends) (turns : List Nat) :
    (pool.follow turns).Safe meets does ends ∧
      Relation.ReflTransGen (Does does pool.works.length) pool.disk (pool.follow turns).disk := by
  induction turns generalizing pool with
  | nil => exact ⟨safe, .refl⟩
  | cons index rest inductionHypothesis =>
    obtain ⟨safeNext, done⟩ := safe.advance steady bound index
    obtain ⟨safeLast, chain⟩ := inductionHypothesis safeNext
    rw [length_works_advance] at chain
    refine ⟨safeLast, ?_⟩
    rcases done with same | done
    · rwa [same] at chain
    · exact .head done chain

end Turns

/-! ### Works that have ended -/

theorem follow_append (pool : Pool value) (first second : List Nat) :
    pool.follow (first ++ second) = (pool.follow first).follow second :=
  List.foldl_append

/-- With enough turns of its own, a work ends as at one go. -/
theorem exists_turns_of_work {index : Nat} {work : Steps value}
    (listed : pool.works[index]? = some work) :
    ∃ turns, pool.follow turns = ⟨(work.alone pool.disk).2,
      pool.notes ++ (work.alone pool.disk).1.notes,
      pool.works.set index (.ended (work.alone pool.disk).1.outcome)⟩ := by
  induction work generalizing pool with
  | ended outcome =>
    refine ⟨[], ?_⟩
    show pool = ⟨pool.disk, pool.notes ++ [], pool.works.set index (.ended outcome)⟩
    obtain ⟨within, here⟩ := List.getElem?_eq_some_iff.mp listed
    rw [List.append_nil, ← here, List.set_getElem_self]
  | noted note rest inductionHypothesis =>
    have turn : pool.advance index =
        ⟨pool.disk, pool.notes ++ [note], pool.works.set index rest⟩ := by
      unfold Pool.advance
      rw [listed]
    have put : (pool.advance index).works[index]? = some rest := by
      rw [turn, List.getElem?_set_self', listed]
      rfl
    obtain ⟨turns, reached⟩ := inductionHypothesis put
    refine ⟨index :: turns, ?_⟩
    show (pool.advance index).follow turns = _
    rw [reached, turn]
    simp [Steps.alone]
  | acted operation rest inductionHypothesis =>
    have turn : pool.advance index = ⟨(operation.perform pool.disk).2, pool.notes,
        pool.works.set index (rest (operation.perform pool.disk).1)⟩ := by
      unfold Pool.advance
      rw [listed]
    have put : (pool.advance index).works[index]? =
        some (rest (operation.perform pool.disk).1) := by
      rw [turn, List.getElem?_set_self', listed]
      rfl
    obtain ⟨turns, reached⟩ := inductionHypothesis _ put
    refine ⟨index :: turns, ?_⟩
    show (pool.advance index).follow turns = _
    rw [reached, turn]
    simp [Steps.alone]

/-- Ending works one after the other is a run of turns. -/
theorem exists_turns (disk : Disk) (notes : List FileNote) (done rest : List (Steps value)) :
    ∃ turns, (⟨disk, notes, done ++ rest⟩ : Pool value).follow turns =
      ⟨(endAll disk rest).2.2, notes ++ (endAll disk rest).1,
        done ++ (endAll disk rest).2.1.map .ended⟩ := by
  induction rest generalizing disk notes done with
  | nil => exact ⟨[], by simp [follow, endAll]⟩
  | cons work rest inductionHypothesis =>
    have listed : (⟨disk, notes, done ++ work :: rest⟩ : Pool value).works[done.length]? =
        some work := by simp
    obtain ⟨first, reached⟩ := exists_turns_of_work listed
    obtain ⟨later, ended⟩ := inductionHypothesis (work.alone disk).2
      (notes ++ (work.alone disk).1.notes) (done ++ [.ended (work.alone disk).1.outcome])
    dsimp only at reached
    rw [List.set_append_right _ _ (Nat.le_refl _), Nat.sub_self, List.set_cons_zero] at reached
    rw [List.append_assoc, List.singleton_append] at ended
    refine ⟨first ++ later, ?_⟩
    rw [follow_append, reached, ended]
    simp [endAll]

@[simp]
theorem length_works_follow (pool : Pool value) (turns : List Nat) :
    (pool.follow turns).works.length = pool.works.length := by
  induction turns generalizing pool with
  | nil => rfl
  | cons index rest inductionHypothesis =>
    exact (inductionHypothesis (pool.advance index)).trans (length_works_advance pool index)

theorem length_endAll (disk : Disk) (works : List (Steps value)) :
    (endAll disk works).2.1.length = works.length := by
  induction works generalizing disk with
  | nil => rfl
  | cons work rest inductionHypothesis =>
    exact congrArg (· + 1) (inductionHypothesis (work.alone disk).2)

end Pool

namespace Batch

variable {result : Type} (mode : Mode) (work : String → Steps result) (disk : Disk)
  (files : List String)

/-! ### Batches -/

theorem endAll_map : Pool.endAll disk (files.map work) =
    ((process .sequential work disk files).1,
      (process .sequential work disk files).2.1.map Outcome.outcome,
      (process .sequential work disk files).2.2) := by
  induction files generalizing disk with
  | nil => rfl
  | cons file rest inductionHypothesis =>
    rw [List.map_cons, Pool.endAll]
    simp only [inductionHypothesis]
    rfl

/-- Every file has one outcome, and the outcomes are in the order of the files. -/
theorem file_of_process : (process mode work disk files).2.1.map Outcome.file = files := by
  cases mode with
  | sequential => exact file_of_run _ disk files
  | pooled turns =>
    show (List.zipWith Outcome.mk files _).map Outcome.file = files
    exact List.ext_getElem (by simp [Pool.length_endAll, pool]) (by simp)

/-- A pool that is given no turns works on one file at a time. -/
theorem process_without_turns :
    process (.pooled []) work disk files = process .sequential work disk files := by
  have outcomes : List.zipWith Outcome.mk files
      ((process .sequential work disk files).2.1.map Outcome.outcome) =
        (process .sequential work disk files).2.1 := by
    have names := file_of_process .sequential work disk files
    generalize (process .sequential work disk files).2.1 = outcomes at names ⊢
    subst names
    exact List.ext_getElem (by simp) (by simp)
  show ([] ++ (Pool.endAll disk (files.map work)).1, List.zipWith Outcome.mk files
    (Pool.endAll disk (files.map work)).2.1, (Pool.endAll disk (files.map work)).2.2) = _
  rw [endAll_map, outcomes]
  rfl

/-- In whichever way the files are worked on, it is a run of the pool at the end of which all
works have ended, and which begins with the turns that were given. -/
theorem exists_run : ∃ later, (pool work disk files).follow (mode.turns ++ later) =
    ⟨(process mode work disk files).2.2, (process mode work disk files).1,
      (process mode work disk files).2.1.map fun outcome => .ended outcome.outcome⟩ := by
  have pooled (turns : List Nat) : ∃ later, (pool work disk files).follow (turns ++ later) =
      ⟨(process (.pooled turns) work disk files).2.2, (process (.pooled turns) work disk files).1,
        (process (.pooled turns) work disk files).2.1.map fun outcome =>
          .ended outcome.outcome⟩ := by
    have works : (process (.pooled turns) work disk files).2.1.map Outcome.outcome =
        (Pool.endAll ((pool work disk files).follow turns).disk
          ((pool work disk files).follow turns).works).2.1 := by
      show (List.zipWith Outcome.mk files _).map Outcome.outcome = _
      exact List.ext_getElem (by simp [Pool.length_endAll, pool]) (by simp)
    obtain ⟨later, ended⟩ := Pool.exists_turns ((pool work disk files).follow turns).disk
      ((pool work disk files).follow turns).notes [] ((pool work disk files).follow turns).works
    refine ⟨later, ?_⟩
    rw [Pool.follow_append]
    refine Eq.trans ended ?_
    rw [List.nil_append, ← works, List.map_map]
    rfl
  cases mode with
  | pooled turns => exact pooled turns
  | sequential =>
    rw [← process_without_turns]
    exact pooled []

/-- If the work on every file is safe beside the others, then every work ends as it should, and the
disk changes only by what works may do. -/
theorem ends_of_safe (meets does : Nat → Disk → Disk → Prop)
    (ends : Nat → Except Failure result → Disk → Prop)
    (steady : ∀ index, Steps.Steady (meets index))
    (bound : ∀ index other, index ≠ other → ∀ before after, does index before after →
      meets other before after)
    (safe : ∀ index file, files[index]? = some file →
      (work file).Safe (meets index) (does index) (ends index) disk) :
    (∀ index outcome, (process mode work disk files).2.1[index]? = some outcome →
      ends index outcome.outcome (process mode work disk files).2.2) ∧
    Relation.ReflTransGen (Pool.Does does files.length) disk
      (process mode work disk files).2.2 := by
  obtain ⟨later, reached⟩ := exists_run mode work disk files
  have start : (pool work disk files).Safe meets does ends := by
    intro index steps listed
    obtain ⟨file, here, rfl⟩ := Option.map_eq_some_iff.mp ((List.getElem?_map ..).symm.trans listed)
    exact safe index file here
  obtain ⟨safeLast, chain⟩ := start.follow steady bound (mode.turns ++ later)
  rw [reached] at safeLast chain
  have length : (pool work disk files).works.length = files.length := List.length_map work
  rw [length] at chain
  refine ⟨fun index outcome listed => ?_, chain⟩
  have ended : Steps.Safe (meets index) (does index) (ends index) (.ended outcome.outcome)
      (process mode work disk files).2.2 := safeLast index _ (by simp [listed])
  exact ended _ ((steady index).still _)

/-- Works that only read leave the disk as it is and end as at one go, in whichever way the files
are worked on. -/
theorem process_of_onlyReads (reads : ∀ file, (work file).OnlyReads) :
    (process mode work disk files).2 =
      (files.map fun file => ⟨file, ((work file).alone disk).1.outcome⟩, disk) := by
  obtain ⟨ends, chain⟩ := ends_of_safe mode work disk files (fun _ => Eq) (fun _ => Eq)
    (fun index outcome _ => ∀ file, files[index]? = some file →
      outcome = ((work file).alone disk).1.outcome)
    (fun _ => ⟨fun _ => rfl, Eq.trans⟩) (fun _ _ _ _ _ same => same)
    fun index file listed => ((reads file).safe disk).imp fun outcome _ ended other again => by
      rw [Option.some.inj (again.symm.trans listed), ended]
  have still : (process mode work disk files).2.2 = disk := by
    generalize (process mode work disk files).2.2 = after at chain
    induction chain with
    | refl => rfl
    | tail _ done inductionHypothesis =>
      obtain ⟨index, within, rfl⟩ := done
      exact inductionHypothesis
  refine Prod.ext (List.ext_getElem? fun index => ?_) still
  have here : files[index]? = ((process mode work disk files).2.1[index]?).map Outcome.file := by
    rw [← List.getElem?_map, file_of_process]
  rw [List.getElem?_map, here]
  cases listed : (process mode work disk files).2.1[index]? with
  | none => rfl
  | some outcome =>
    rw [listed] at here
    have ended := ends index outcome listed outcome.file here
    exact congrArg (fun ended => some (Outcome.mk outcome.file ended)) ended

end Batch

end Foldback
