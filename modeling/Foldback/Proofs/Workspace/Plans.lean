/-
What a plan is made of, and how it is carried out. A plan to build holds the
lines that the source renders to, a plan to take a file back holds the source
with the edits; either knows the lines that are there now. There are five ways in
which the work on a file ends, and the notes have no part in any of them.
-/

import Foldback.Proofs.Disk.Footprint
import Foldback.Proofs.Text.Lines
import Foldback.Workspace.Basic

namespace Foldback

open Text

/-! ### Writing -/

/-- Whether a failure came when a file was to be written. -/
def Failure.whileWriting : Failure → Bool
  | .creating _ _ | .writing _ _ => true
  | .reading _ _ | .notBuilt _ | .rendering _ _ | .foldingBack _ _ => false

namespace Plan

variable {plan : Plan} {disk after : Disk}

theorem whileWriting_of_write {failure : Failure}
    (broken : plan.write disk = (.error failure, after)) : failure.whileWriting = true := by
  unfold write at broken
  split at broken
  · cases broken
    rfl
  · split at broken
    · cases broken
      rfl
    · cases broken

/-- Directories are made on the way, and then the file may be written. -/
theorem exists_paved_of_write {route : Path.Route} {result : Except Failure Unit}
    (routed : Path.route plan.path = .ok route) (write : plan.write disk = (result, after)) :
    ∃ prepared, Disk.Paved (disk.start route) route.names.dropLast disk prepared ∧
      ((∃ failure, result = .error failure ∧ after = prepared) ∨
        result = .ok () ∧ ∃ place, route.directory = false ∧ Disk.Enters (prepared.start route)
          route.names place (.file (.text (ofLines plan.lines))) prepared after) := by
  have paved := disk.paved_makeParent routed
  unfold Plan.write at write
  split at write
  next refused =>
    cases write
    rw [refused] at paved
    exact ⟨after, paved, .inl ⟨_, rfl, rfl⟩⟩
  next prepared made =>
    rw [made] at paved
    refine ⟨prepared, paved, ?_⟩
    split at write
    · cases write
      exact .inl ⟨_, rfl, rfl⟩
    next written =>
      cases write
      obtain ⟨way, place, taken, plain, enters⟩ := Disk.enters_of_write written
      cases routed.symm.trans taken
      exact .inr ⟨rfl, place, plain, enters⟩

theorem footprint_write {route : Path.Route} (routed : Path.route plan.path = .ok route)
    {result : Except Failure Unit} (write : plan.write disk = (result, after)) :
    Disk.Footprint plan.path disk after := by
  obtain ⟨prepared, paved, ⟨failure, -, rfl⟩ | ⟨-, place, -, enters⟩⟩ :=
    exists_paved_of_write routed write
  · exact .of_paved routed paved
  · exact .enter routed paved enters

theorem read_of_write (written : plan.write disk = (.ok (), after)) :
    after.read plan.path = .ok (ofLines plan.lines) := by
  unfold Plan.write at written
  split at written
  · cases written
  · split at written
    · cases written
    next entered =>
      cases written
      obtain ⟨route, place, routed, plain, enters⟩ := Disk.enters_of_write entered
      exact Disk.read_of_enters routed plain enters

/-- Lines that were written are read back, each without the carriage return that it may end with. -/
theorem readLines_of_write (written : plan.write disk = (.ok (), after))
    (single : ∀ line ∈ plan.lines, OneLine line) :
    after.readLines plan.path = .ok (plan.lines.map dropReturn) := by
  unfold Disk.readLines
  rw [read_of_write written]
  exact congrArg Except.ok (linesOf_ofLines single)

theorem readLines_of_write_bare (written : plan.write disk = (.ok (), after))
    (single : ∀ line ∈ plan.lines, OneLine line)
    (bare : ∀ line ∈ plan.lines, line.toList.getLast? ≠ some '\r') :
    after.readLines plan.path = .ok plan.lines := by
  rw [readLines_of_write written single]
  exact congrArg Except.ok (map_dropReturn_eq_self_iff.mpr bare)

/-- The empty path names no place for a file. -/
theorem opened_nowhere (disk : Disk) : disk.opened "" = .error .notFound := by
  have route : Path.route "" = .error .notFound := by decide +kernel
  unfold Disk.opened
  rw [route]
  rfl

theorem write_nowhere (nowhere : plan.path = "") :
    plan.write disk = (.error (.writing "" .notFound), disk) := by
  have parent : Path.parent? "" = none := by decide +kernel
  unfold Plan.write Disk.makeParent Disk.write
  rw [nowhere, parent]
  dsimp only
  rw [opened_nowhere]
  rfl

end Plan

namespace Workspace

variable {workspace : Workspace} {disk : Disk} {file : String}

/-! ### Endings -/

/-- How the work on a file ends: the outcome and the disk that is left. -/
inductive Ends (workspace : Workspace) (planned : Except Failure Plan) (disk : Disk) :
    Except Failure Status → Disk → Prop
  /-- There is no plan. -/
  | unplanned {failure : Failure} (refused : planned = .error failure) :
    Ends workspace planned disk (.error failure) disk
  /-- The file holds the lines already. -/
  | current {plan : Plan} (made : planned = .ok plan) (same : plan.current = some plan.lines) :
    Ends workspace planned disk (.ok .unchanged) disk
  /-- Nothing may be written. -/
  | dry {plan : Plan} (made : planned = .ok plan) (other : plan.current ≠ some plan.lines)
    (dry : workspace.dryRun = true) : Ends workspace planned disk (.ok .planned) disk
  /-- The file cannot be written. -/
  | broken {plan : Plan} {failure : Failure} {after : Disk} (made : planned = .ok plan)
    (other : plan.current ≠ some plan.lines) (wet : workspace.dryRun = false)
    (write : plan.write disk = (.error failure, after)) :
    Ends workspace planned disk (.error failure) after
  /-- The file is written. -/
  | written {plan : Plan} {after : Disk} (made : planned = .ok plan)
    (other : plan.current ≠ some plan.lines) (wet : workspace.dryRun = false)
    (write : plan.write disk = (.ok (), after)) :
    Ends workspace planned disk (.ok .written) after

theorem ends_carryOut (workspace : Workspace) (planned : Traced FileNote Failure Plan)
    (disk : Disk) :
    Ends workspace planned.outcome disk (workspace.carryOut planned disk).1.outcome
      (workspace.carryOut planned disk).2 := by
  unfold carryOut
  split
  next refused => exact .unplanned refused
  next plan made =>
    unfold Plan.carryOut
    by_cases same : plan.current = some plan.lines
    · rw [if_pos same]
      exact .current made same
    · rw [if_neg same]
      cases dryness : workspace.dryRun with
      | true => exact .dry made same dryness
      | false =>
        rw [if_neg Bool.false_ne_true]
        cases write : plan.write disk with
        | mk result after =>
          cases result with
          | error failure => exact .broken made same dryness write
          | ok _ => exact .written made same dryness write

theorem ends_build (workspace : Workspace) (disk : Disk) (file : String) :
    Ends workspace (workspace.planBuild disk file).outcome disk
      (workspace.build disk file).1.outcome (workspace.build disk file).2 :=
  workspace.ends_carryOut (workspace.planBuild disk file) disk

theorem ends_back (workspace : Workspace) (disk : Disk) (file : String) :
    Ends workspace (workspace.planBack disk file).outcome disk
      (workspace.back disk file).1.outcome (workspace.back disk file).2 :=
  workspace.ends_carryOut (workspace.planBack disk file) disk

namespace Ends

variable {outcome : Except Failure Status} {after : Disk}

/-- Without a plan nothing changes. -/
theorem of_error {failure : Failure} (ends : Ends workspace (.error failure) disk outcome after) :
    outcome = .error failure ∧ after = disk := by
  cases ends with
  | unplanned refused =>
    cases refused
    exact ⟨rfl, rfl⟩
  | current made => cases made
  | dry made => cases made
  | broken made => cases made
  | written made => cases made

/-- Neither does anything change if the file holds the lines already. -/
theorem of_current {plan : Plan} (ends : Ends workspace (.ok plan) disk outcome after)
    (same : plan.current = some plan.lines) : outcome = .ok .unchanged ∧ after = disk := by
  cases ends with
  | unplanned refused => cases refused
  | current => exact ⟨rfl, rfl⟩
  | dry made other =>
    cases made
    exact absurd same other
  | broken made other =>
    cases made
    exact absurd same other
  | written made other =>
    cases made
    exact absurd same other

/-- What is done when lines are to be written. -/
theorem of_other {plan : Plan} (ends : Ends workspace (.ok plan) disk outcome after)
    (other : plan.current ≠ some plan.lines) (wet : workspace.dryRun = false) :
    outcome = (plan.write disk).1.map (fun _ => Status.written) ∧ after = (plan.write disk).2 := by
  cases ends with
  | unplanned refused => cases refused
  | current made same =>
    cases made
    exact absurd same other
  | dry made _ dry => exact absurd (wet.symm.trans dry) Bool.false_ne_true
  | broken made _ _ write =>
    cases made
    rw [write]
    exact ⟨rfl, rfl⟩
  | written made _ _ write =>
    cases made
    rw [write]
    exact ⟨rfl, rfl⟩

end Ends

/-! ### The parts of a plan -/

/-- The lines that a build of a file computes. -/
def BuildsTo (workspace : Workspace) (disk : Disk) (file : String) (lines : List String) : Prop :=
  ∃ source, workspace.readSource disk file = .ok source ∧
    (workspace.setup disk).render source = .ok lines

/-- The lines that taking a file back computes. -/
def FoldsTo (workspace : Workspace) (disk : Disk) (file : String) (lines : List String) : Prop :=
  ∃ source edited, workspace.readSource disk file = .ok source ∧
    workspace.readTarget disk file = .ok (some edited) ∧
      (workspace.setup disk).foldBack source edited = .ok lines

/-- A rendered file is read, or there is none. -/
theorem readLines_of_readTarget {current : Option (List String)}
    (read : workspace.readTarget disk file = .ok current) :
    disk.readLines (workspace.targetPath file) = current.elim (.error .notFound) .ok := by
  unfold readTarget at read
  split at read
  next found => cases read; exact found
  next missing => cases read; exact missing
  next => cases read

theorem outcome_planBuild {plan : Plan}
    (made : (workspace.planBuild disk file).outcome = .ok plan) :
    workspace.BuildsTo disk file plan.lines ∧
      workspace.readTarget disk file = .ok plan.current ∧
      plan.path = workspace.targetPath file := by
  unfold planBuild rendered at made
  simp only [Traced.outcome_bind, Traced.outcome_ofExcept, Traced.outcome_pure] at made
  obtain ⟨source, read, made⟩ := exists_of_bind_eq_ok made
  obtain ⟨lines, rendered, made⟩ := exists_of_bind_eq_ok made
  obtain ⟨current, target, made⟩ := exists_of_bind_eq_ok made
  cases made
  exact ⟨⟨source, read, mapError_eq_ok.mp rendered⟩, target, rfl⟩

theorem outcome_planBack {plan : Plan} (made : (workspace.planBack disk file).outcome = .ok plan) :
    workspace.FoldsTo disk file plan.lines ∧
      (workspace.readSource disk file).map some = .ok plan.current ∧
        plan.path = workspace.sourcePath file := by
  unfold planBack merged at made
  simp only [Traced.outcome_bind, Traced.outcome_ofExcept] at made
  obtain ⟨source, read, made⟩ := exists_of_bind_eq_ok made
  obtain ⟨current, target, made⟩ := exists_of_bind_eq_ok made
  cases current with
  | none => cases made
  | some edited =>
    simp only [Traced.outcome_bind, Traced.outcome_pure] at made
    obtain ⟨lines, merged, made⟩ := exists_of_bind_eq_ok made
    cases made
    refine ⟨⟨source, edited, read, target, mapError_eq_ok.mp merged⟩, ?_, rfl⟩
    rw [read]
    rfl

end Workspace

end Foldback
