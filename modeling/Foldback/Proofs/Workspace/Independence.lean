/-
Builds that meet nowhere: none of them writes what another one reads or writes,
though they may share the directories that are made for them. One after the other or
in any turns, each of them ends as it ends alone, and the disk that is left holds the
changes that they make one by one, and no others. A step of one build is growth for
the others, towards what they do not read or write; so each build is safe beside the
others. The invariant of a run is that whatever has changed is a change of a build.
-/

import Mathlib.Data.List.Pairwise
import Mathlib.Data.List.Perm.Subperm
import Foldback.Proofs.Workspace.Beside

namespace Foldback.Workspace

open Disk

variable {workspace : Workspace} {disk middle next : Disk} {file other : String}
  {files order : List String} {place : Location}

/-- The outcomes of the builds of some files, in the order of the files. -/
def batchOutcomes (workspace : Workspace) (mode : Batch.Mode) (disk : Disk) (files : List String) :
    List (Batch.Outcome Status) :=
  (Batch.process mode workspace.buildSteps disk files).2.1

/-- The disk that the builds of some files leave. -/
def batchDisk (workspace : Workspace) (mode : Batch.Mode) (disk : Disk) (files : List String) :
    Disk :=
  (Batch.process mode workspace.buildSteps disk files).2.2

/-- The outcome for a file that is built alone. -/
def outcomeAlone (workspace : Workspace) (disk : Disk) (file : String) : Batch.Outcome Status :=
  ⟨file, (workspace.build disk file).1.outcome⟩

/-! ### Builds alone -/

/-- What a build may change: the place of the rendered file, and missing directories on the way
there. -/
theorem changed_alone (plain : Path.Plain (workspace.targetPath file))
    (different : (workspace.build disk file).2.node? place ≠ disk.node? place) :
    disk.destination (workspace.targetPath file) = .ok place ∨
      disk.node? place = none ∧ (workspace.build disk file).2.node? place = some .directory ∧
        ∃ aim, disk.destination (workspace.targetPath file) = .ok aim ∧ place <+: aim := by
  have footprint := footprint_build workspace disk file
  rw [← destination_congr footprint.keeps.working]
  refine (footprint.changed place different).imp destination_of_locate ?_
  rintro ⟨missing, made, route, routed, passed, start, led⟩
  have inside := start.trans (List.dropLast_prefix route.names)
  have names := plain.names routed
  refine ⟨missing, made, _, destination_plain plain routed, ?_⟩
  rw [follow_of_walk led, follow_plain fun name member => names name (inside.subset member)]
  exact (List.prefix_append_right_inj _).mpr inside

/-! ### Builds that meet nowhere -/

/-- No path that the first build touches is the one that the second build writes, or below it. -/
def Clear (workspace : Workspace) (disk : Disk) (first second : String) : Prop :=
  ∀ path, workspace.Touches disk first path → ¬disk.Above (workspace.targetPath second) path

/-- The builds of some files meet nowhere on a disk: no build writes what another one reads or
writes. They may share the directories that are made for them. -/
structure Independent (workspace : Workspace) (disk : Disk) (files : List String) : Prop where
  tree : disk.IsTree
  plain : ∀ file ∈ files, ∀ path, workspace.Touches disk file path → Path.Plain path
  apart : files.Pairwise fun first second =>
    workspace.Clear disk first second ∧ workspace.Clear disk second first

theorem Independent.of_subperm (independent : workspace.Independent disk files)
    (among : order.Subperm files) : workspace.Independent disk order := by
  refine ⟨independent.tree, fun file member => independent.plain file (among.subset member), ?_⟩
  obtain ⟨kept, same, part⟩ := among
  exact (same.pairwise_iff fun clear => clear.symm).mp (independent.apart.sublist part)

theorem Independent.clear (independent : workspace.Independent disk files) {index place : Nat}
    (different : index ≠ place) (listed : files[index]? = some file)
    (listedOther : files[place]? = some other) :
    workspace.Clear disk file other ∧ workspace.Clear disk other file := by
  obtain ⟨within, rfl⟩ := List.getElem?_eq_some_iff.mp listed
  obtain ⟨withinOther, rfl⟩ := List.getElem?_eq_some_iff.mp listedOther
  rcases Nat.lt_or_gt_of_ne different with earlier | later
  · exact List.pairwise_iff_getElem.mp independent.apart _ _ within withinOther earlier
  · exact (List.pairwise_iff_getElem.mp independent.apart _ _ withinOther within later).symm

/-- The reason for which a build fails cannot depend on the builds of some other files: no name in
what it touches is too long, and nothing of it is a directory on the way to what they write. -/
def Undisturbed (workspace : Workspace) (disk : Disk) (files : List String) (file : String) :
    Prop :=
  ∀ path, workspace.Touches disk file path → ¬Path.Overlong path ∧
    ∀ other ∈ files, other ≠ file → ¬disk.Above path (workspace.targetPath other)

/-- A disk on which the builds of some files have left their changes: whatever one of them
changes alone is as that build leaves it, and everything else is as it was. -/
structure Merges (workspace : Workspace) (disk : Disk) (files : List String) (after : Disk) :
    Prop where
  working : after.working = disk.working
  changed : ∀ file ∈ files, ∀ place,
    (workspace.build disk file).2.node? place ≠ disk.node? place →
      after.node? place = (workspace.build disk file).2.node? place
  kept : ∀ place, (∀ file ∈ files, (workspace.build disk file).2.node? place = disk.node? place) →
    after.node? place = disk.node? place

/-! ### All together -/

/-- An outcome is that of the build alone: the same status, and the same failure unless other
builds hinder it. -/
structure EndsAlone (workspace : Workspace) (disk : Disk) (files : List String)
    (outcome : Batch.Outcome Status) : Prop where
  status : outcome.outcome.toOption = (workspace.build disk outcome.file).1.outcome.toOption
  same : workspace.Undisturbed disk files outcome.file →
    outcome = workspace.outcomeAlone disk outcome.file

/-- What the builds of other files aim at. -/
def Aimed (workspace : Workspace) (disk : Disk) (files : List String) (index : Nat)
    (aim : Location) : Prop :=
  ∃ place file, place ≠ index ∧ files[place]? = some file ∧
    disk.destination (workspace.targetPath file) = .ok aim

theorem beside_of_independent (independent : workspace.Independent disk files) {index : Nat}
    (listed : files[index]? = some file) :
    workspace.Beside (workspace.Aimed disk files index) disk file := by
  refine ⟨independent.tree, independent.plain file (List.mem_of_getElem? listed), ?_, ?_⟩
  · rintro path touched place aim led ⟨position, other, different, listedOther, aimed⟩ inside
    exact (independent.clear different listedOther listed).2 path touched
      ⟨aim, place, aimed, led, inside⟩
  · rintro place aim led ⟨position, other, different, listedOther, aimed⟩ inside
    exact (independent.clear different listedOther listed).1 _ touches_target
      ⟨place, aim, led, aimed, inside⟩

/-- A step of one build is growth towards what the others are beside. -/
theorem Contributes.grown {before after : Disk} {index place : Nat}
    (contributes : workspace.Contributes disk file before after)
    (listed : files[index]? = some file) (different : index ≠ place) :
    Grown (workspace.Aimed disk files place) before after := by
  have aimed {aim : Location} (led : disk.destination (workspace.targetPath file) = .ok aim) :
      workspace.Aimed disk files place aim := ⟨index, file, different, listed, led⟩
  refine ⟨contributes.working, fun position changes => ?_⟩
  exact (contributes.changed position changes).imp (fun written => aimed written.2)
    fun ⟨missing, made, _, aim, led, way⟩ => ⟨missing, made, aim, aimed led, way⟩

/-- Nothing has changed but what builds change alone: files that they write, and directories that
they make. -/
structure Attributed (workspace : Workspace) (disk : Disk) (files : List String) (after : Disk) :
    Prop where
  working : after.working = disk.working
  changed : ∀ place, after.node? place ≠ disk.node? place → ∃ file ∈ files,
    (workspace.build disk file).1.outcome = .ok .written ∧
        disk.destination (workspace.targetPath file) = .ok place ∨
      disk.node? place = none ∧ after.node? place = some .directory ∧
        (workspace.build disk file).2.node? place = some .directory

/-- One more step of a build. -/
theorem Attributed.step (attributed : workspace.Attributed disk files middle)
    (member : file ∈ files) (contributes : workspace.Contributes disk file middle next) :
    workspace.Attributed disk files next := by
  refine ⟨contributes.working.trans attributed.working, fun place different => ?_⟩
  by_cases same : next.node? place = middle.node? place
  · rw [same] at different ⊢
    exact attributed.changed place different
  · rcases contributes.changed place same with written | ⟨missing, made, alone, -⟩
    · exact ⟨file, member, .inl written⟩
    · by_cases earlier : middle.node? place = disk.node? place
      · exact ⟨file, member, .inr ⟨earlier ▸ missing, made, alone⟩⟩
      · obtain ⟨other, listed, written | ⟨-, there, -⟩⟩ := attributed.changed place earlier
        · exact ⟨other, listed, .inl written⟩
        · rw [missing] at there
          cases there

/-- Builds that meet nowhere, in whichever way they are worked on: each of them ends as among
others that aim elsewhere, and nothing changes but what they change alone. -/
theorem ends_of_independent (wet : workspace.dryRun = false)
    (independent : workspace.Independent disk files) (mode : Batch.Mode) :
    (∀ index outcome, (workspace.batchOutcomes mode disk files)[index]? = some outcome →
      workspace.EndsAmong (workspace.Aimed disk files index) disk outcome.file outcome.outcome
        (workspace.batchDisk mode disk files)) ∧
    workspace.Attributed disk files (workspace.batchDisk mode disk files) := by
  have names := Batch.file_of_process mode workspace.buildSteps disk files
  obtain ⟨ends, chain⟩ := Batch.ends_of_safe mode workspace.buildSteps disk files
    (fun index => Grown (workspace.Aimed disk files index))
    (fun index before after =>
      ∃ file, files[index]? = some file ∧ workspace.Contributes disk file before after)
    (fun index outcome later => ∀ file, files[index]? = some file →
      workspace.EndsAmong (workspace.Aimed disk files index) disk file outcome later)
    (fun _ => steady_grown _)
    (fun index place different before after ⟨file, listed, contributes⟩ =>
      contributes.grown listed different)
    fun index file listed => by
      have safe := safe_buildSteps (beside_of_independent independent listed) wet
        (Grown.refl _ disk)
      refine (safe.imp fun outcome later ends other again => ?_).of_does
        fun before after contributes => ⟨file, listed, contributes⟩
      cases listed.symm.trans again
      exact ends
  refine ⟨fun index outcome listed => ends index outcome listed outcome.file ?_, ?_⟩
  · rw [← names, List.getElem?_map]
    exact congrArg (Option.map Batch.Outcome.file) listed
  · unfold batchDisk
    generalize (Batch.process mode workspace.buildSteps disk files).2.2 = after at chain
    induction chain with
    | refl => exact ⟨rfl, fun _ different => absurd rfl different⟩
    | tail _ done inductionHypothesis =>
      obtain ⟨index, -, file, listed, contributes⟩ := done
      exact inductionHypothesis.step (List.mem_of_getElem? listed) contributes

/-- Every file has an outcome. -/
theorem exists_outcome (workspace : Workspace) (mode : Batch.Mode) (disk : Disk)
    (member : file ∈ files) : ∃ (index : Nat) (outcome : Batch.Outcome Status),
      (workspace.batchOutcomes mode disk files)[index]? = some outcome ∧ outcome.file = file := by
  rw [← Batch.file_of_process mode workspace.buildSteps disk files] at member
  obtain ⟨outcome, listed, rfl⟩ := List.mem_map.mp member
  obtain ⟨index, here⟩ := List.getElem?_of_mem listed
  exact ⟨index, outcome, here, rfl⟩

/-- The disk holds what the builds change alone, and nothing else. -/
theorem merges_of_independent (wet : workspace.dryRun = false)
    (independent : workspace.Independent disk files) (mode : Batch.Mode) :
    workspace.Merges disk files (workspace.batchDisk mode disk files) := by
  obtain ⟨ends, attributed⟩ := ends_of_independent wet independent mode
  refine ⟨attributed.working, fun file member place changes => ?_, fun place kept => ?_⟩
  · obtain ⟨index, outcome, listed, rfl⟩ := workspace.exists_outcome mode disk member
    exact (ends index outcome listed).changed place changes
  · by_contra different
    obtain ⟨file, member, ⟨written, led⟩ | ⟨missing, -, made⟩⟩ := attributed.changed place different
    · obtain ⟨index, outcome, listed, rfl⟩ := workspace.exists_outcome mode disk member
      exact different (((ends index outcome listed).written written place led).trans
        (kept _ member))
    · have same := kept file member
      rw [made, missing] at same
      cases same

/-- What others do hinders no build that is undisturbed. -/
theorem unhindered_of_undisturbed (independent : workspace.Independent disk files) {index : Nat}
    (listed : files[index]? = some file) (undisturbed : workspace.Undisturbed disk files file) :
    workspace.Unhindered (workspace.Aimed disk files index) disk file := by
  intro path touched
  obtain ⟨short, aside⟩ := undisturbed path touched
  refine ⟨short, ?_⟩
  rintro ⟨place, aim, led, ⟨position, other, different, listedOther, aimed⟩, way⟩
  refine aside other (List.mem_of_getElem? listedOther) ?_ ⟨place, aim, led, aimed, way⟩
  rintro rfl
  exact (independent.clear different listedOther listed).1 _ touches_target
    ⟨aim, aim, aimed, aimed, List.prefix_rfl⟩

theorem endsAlone_of_independent (wet : workspace.dryRun = false)
    (independent : workspace.Independent disk files) (mode : Batch.Mode) :
    ∀ outcome ∈ workspace.batchOutcomes mode disk files,
      workspace.EndsAlone disk files outcome := by
  intro outcome member
  obtain ⟨index, listed⟩ := List.getElem?_of_mem member
  have alike := ((ends_of_independent wet independent mode).1 index outcome listed).alike
  have here : files[index]? = some outcome.file := by
    rw [← Batch.file_of_process mode workspace.buildSteps disk files, List.getElem?_map]
    exact congrArg (Option.map Batch.Outcome.file) listed
  refine ⟨alike.toOption, fun undisturbed => ?_⟩
  have unhindered := unhindered_of_undisturbed independent here undisturbed
  exact congrArg (Batch.Outcome.mk outcome.file)
    (alike.resolve_right fun ends => ends.2.2 unhindered)

/-- What one build leaves in its file is not changed by the others. -/
theorem contents_of_independent (independent : workspace.Independent disk files)
    {after : Disk} (merged : workspace.Merges disk files after) {file : String}
    (member : file ∈ files) {aim : Location}
    (aimed : disk.destination (workspace.targetPath file) = .ok aim) :
    after.node? aim = (workspace.build disk file).2.node? aim := by
  by_cases same : (workspace.build disk file).2.node? aim = disk.node? aim
  · rw [same]
    refine merged.kept aim fun other listed => ?_
    by_contra changes
    have different : other ≠ file := fun equal => changes (equal ▸ same)
    have : Std.Symm fun first second => workspace.Clear disk first second ∧
        workspace.Clear disk second first := ⟨fun _ _ clear => clear.symm⟩
    have clear := (independent.apart.forall listed member different).1
    rcases changed_alone (independent.plain other listed _ touches_target) changes with
      led | ⟨-, -, place, led, way⟩
    · exact clear _ touches_target ⟨_, _, aimed, led, List.prefix_rfl⟩
    · exact clear _ touches_target ⟨_, _, aimed, led, way⟩
  · exact merged.changed file member aim same

/-- Disks that hold the changes of the same builds hold the same. -/
theorem Merges.node?_eq {first second : Disk} (merges : workspace.Merges disk files first)
    (mergesToo : workspace.Merges disk order second) (same : order.Perm files)
    (place : Location) : second.node? place = first.node? place := by
  by_cases kept : ∀ file ∈ files, (workspace.build disk file).2.node? place = disk.node? place
  · rw [merges.kept place kept,
      mergesToo.kept place fun file member => kept file (same.mem_iff.mp member)]
  · push Not at kept
    obtain ⟨file, member, changes⟩ := kept
    rw [merges.changed file member place changes,
      mergesToo.changed file (same.mem_iff.mpr member) place changes]

/-! ### Checking what files touch -/

/-- The paths that a build of a file touches. -/
def touched (workspace : Workspace) (disk : Disk) (file : String) : List String :=
  workspace.sourcePath file :: workspace.targetPath file ::
    Directive.filesRead ((workspace.readSource disk file).toOption.getD [])

theorem mem_touched_iff {path : String} :
    path ∈ workspace.touched disk file ↔ workspace.Touches disk file path := by
  unfold touched Touches
  rw [List.mem_cons, List.mem_cons, Directive.mem_filesRead_iff]
  cases workspace.readSource disk file with
  | ok source => simp [Except.toOption]
  | error failure => simp [Except.toOption, Directive.ReadsFile, Directive.calls]

theorem forall_touches_iff {claim : String → Prop} :
    (∀ path, workspace.Touches disk file path → claim path) ↔
      ∀ path ∈ workspace.touched disk file, claim path :=
  forall_congr' fun _ => by rw [mem_touched_iff]

instance (workspace : Workspace) (disk : Disk) (first second : String) :
    Decidable (workspace.Clear disk first second) :=
  decidable_of_iff _ forall_touches_iff.symm

instance (workspace : Workspace) (disk : Disk) (files : List String) (file : String) :
    Decidable (workspace.Undisturbed disk files file) :=
  decidable_of_iff _ forall_touches_iff.symm

/-- On a tree it can be checked whether builds meet nowhere. -/
theorem independent_of_check (tree : disk.IsTree)
    (plain : ∀ file ∈ files, ∀ path ∈ workspace.touched disk file, Path.Plain path)
    (apart : files.Pairwise fun first second =>
      workspace.Clear disk first second ∧ workspace.Clear disk second first) :
    workspace.Independent disk files :=
  ⟨tree, fun file member => forall_touches_iff.mpr (plain file member), apart⟩

end Foldback.Workspace
