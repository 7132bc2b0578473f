/-
Batches of builds, one file at a time or together on a pool. Every file has its
entry, in order, and a batch fails if one of its files does. If the builds of the
files meet nowhere, each one ends as it ends alone, in any order, whatever turns they
take, and also if some are left out: the disk that is left holds the changes that the
builds make one by one, and no others.

Only the reason for which a build fails may depend on the others, as directories
that they have made are there already; so the messages of failures are the same
only if no name is too long and no source is looked for where another build makes a
directory.
-/

import Foldback.Proofs.Workspace.Independence
import Foldback.Proofs.Workspace.Previews

namespace Foldback

namespace Batch

variable {result : Type} {work : Disk → String → Traced FileNote Failure result × Disk}

/-- The work on more files goes on where the work on the first ones ends. -/
theorem outcomes_append (disk : Disk) (first second : List String) :
    (run work disk (first ++ second)).2.1 =
      (run work disk first).2.1 ++ (run work (run work disk first).2.2 second).2.1 := by
  induction first generalizing disk with
  | nil => rfl
  | cons file rest inductionHypothesis =>
    exact congrArg (_ :: ·) (inductionHypothesis (work disk file).2)

theorem name_of_entry (outcome : Outcome Status) : outcome.entry.name = outcome.file := by
  unfold Outcome.entry
  split <;> rfl

/-- Without a status there is the one of a failure. -/
theorem status_of_entry (outcome : Outcome Status) :
    outcome.entry.status = outcome.outcome.toOption.getD .failed := by
  unfold Outcome.entry
  cases outcome.outcome <;> rfl

theorem failed_iff {outcome : Outcome Status} (ended : outcome.outcome ≠ .ok .failed) :
    outcome.entry.status = .failed ↔ ∃ failure, outcome.outcome = .error failure := by
  rw [status_of_entry]
  cases given : outcome.outcome with
  | error failure => exact ⟨fun _ => ⟨failure, rfl⟩, fun _ => rfl⟩
  | ok status =>
    refine ⟨fun failed => ?_, fun ⟨failure, failed⟩ => nomatch failed⟩
    rw [given] at ended
    exact absurd (congrArg Except.ok failed) ended

theorem verdict_error_iff (report : Report) :
    (∃ failed, verdict report = .error failed) ↔
      ∃ entry ∈ report.entries, entry.status = .failed := by
  unfold verdict Report.failures Report.count
  split
  next none =>
    rw [List.countP_eq_zero] at none
    simpa using none
  next some =>
    rw [List.countP_eq_zero] at some
    simpa using some

end Batch

namespace Workspace

open Disk

variable {workspace : Workspace} {disk : Disk} {file : String} {files : List String}

/-- The entries for the builds of some files. -/
def batchEntries (workspace : Workspace) (mode : Batch.Mode) (disk : Disk) (files : List String) :
    List Report.Entry :=
  (Batch.report (workspace.batchOutcomes mode disk files)).entries

/-! ### Entries -/

/-- Carrying out a plan does not come to the status of a failure, whatever else goes on. -/
theorem safe_carryOutSteps (plan : Plan) (dryRun : Bool) (disk : Disk) :
    (plan.carryOutSteps dryRun).Safe (fun _ _ => True) (fun _ _ => True)
      (fun outcome _ => outcome ≠ .ok .failed) disk := by
  have comes {status : Status} (other : status ≠ .failed) (notes : List FileNote) (disk : Disk) :
      (Steps.note notes >>= fun _ => pure status).Safe (fun _ _ => True) (fun _ _ => True)
        (fun outcome _ => outcome ≠ .ok .failed) disk := by
    refine Steps.Safe.note ?_ notes
    exact fun _ _ same => other (Except.ok.inj same)
  unfold Plan.carryOutSteps
  split
  · exact comes (by decide) _ disk
  · split
    · exact comes (by decide) _ disk
    · exact (Steps.safe_of_true _ disk).andThen Steps.steady_true (fun _ _ _ same => nomatch same)
        fun _ last _ => comes (by decide) _ last

theorem outcome_ne_failed (workspace : Workspace) (mode : Batch.Mode) (disk : Disk)
    (files : List String) : ∀ outcome ∈ workspace.batchOutcomes mode disk files,
      outcome.outcome ≠ .ok .failed := by
  intro outcome member
  obtain ⟨index, listed⟩ := List.getElem?_of_mem member
  refine (Batch.ends_of_safe mode workspace.buildSteps disk files (fun _ _ _ => True)
    (fun _ _ _ => True) (fun _ outcome _ => outcome ≠ .ok .failed) (fun _ => Steps.steady_true)
    (fun _ _ _ _ _ _ => trivial) fun index file _ => ?_).1 index outcome listed
  exact (Steps.safe_of_true _ disk).andThen Steps.steady_true (fun _ _ _ same => nomatch same)
    fun plan last _ => safe_carryOutSteps plan workspace.dryRun last

/-- What the entries of a batch tell: there is one for each file, in order. -/
structure Accounted (workspace : Workspace) (mode : Batch.Mode) (disk : Disk)
    (files : List String) : Prop where
  names : (workspace.batchEntries mode disk files).map Report.Entry.name = files
  /-- With the turns that were given and some more, the builds come to their ends on the disk that
  is left, and an entry tells of a failure if its build came to one. -/
  failed : ∃ later reached,
    (Batch.pool workspace.buildSteps disk files).follow (mode.turns ++ later) = reached ∧
    reached.disk = workspace.batchDisk mode disk files ∧
      ∀ (index : Nat) (entry : Report.Entry),
        (workspace.batchEntries mode disk files)[index]? = some entry →
        ∃ outcome, reached.works[index]? = some (.ended outcome) ∧
          (entry.status = .failed ↔ ∃ failure, outcome = .error failure)
  /-- One at a time, each build meets the disk that those before it have left. -/
  oneAtATime : mode = .sequential → ∀ before file after, files = before ++ file :: after →
    ∃ entry, (workspace.batchEntries mode disk files)[before.length]? = some entry ∧
      (entry.status = .failed ↔ ∃ failure,
        (workspace.build (workspace.batchDisk mode disk before) file).1.outcome = .error failure)
  /-- The batch fails if a build has failed. -/
  verdict : (∃ failed, Batch.verdict (Batch.report (workspace.batchOutcomes mode disk files)) =
      .error failed) ↔
    ∃ entry ∈ workspace.batchEntries mode disk files, entry.status = .failed

theorem accounted (workspace : Workspace) (mode : Batch.Mode) (disk : Disk) (files : List String) :
    workspace.Accounted mode disk files := by
  refine ⟨?_, ?_, ?_, Batch.verdict_error_iff _⟩
  · rw [batchEntries, Batch.report, List.map_map]
    exact (List.map_congr_left fun outcome _ => Batch.name_of_entry outcome).trans
      (Batch.file_of_process mode workspace.buildSteps disk files)
  · obtain ⟨later, reached⟩ := Batch.exists_run mode workspace.buildSteps disk files
    refine ⟨later, _, reached, rfl, fun index entry listed => ?_⟩
    rw [batchEntries, Batch.report, List.getElem?_map] at listed
    obtain ⟨outcome, here, rfl⟩ := Option.map_eq_some_iff.mp listed
    refine ⟨outcome.outcome, ?_, Batch.failed_iff
      (workspace.outcome_ne_failed mode disk files outcome (List.mem_of_getElem? here))⟩
    rw [List.getElem?_map]
    exact congrArg (Option.map _) here
  · rintro rfl before file after rfl
    have run := workspace.process_sequential disk
    have length := congrArg List.length (Batch.file_of_run workspace.build disk before)
    rw [List.length_map] at length
    have listed :
        (workspace.batchOutcomes .sequential disk (before ++ file :: after))[before.length]? =
          some (workspace.outcomeAlone (workspace.batchDisk .sequential disk before) file) := by
      unfold batchOutcomes batchDisk
      rw [run, run, Batch.outcomes_append, List.getElem?_append_right (Nat.le_of_eq length), length,
        Nat.sub_self]
      rfl
    refine ⟨_, ?_, Batch.failed_iff
      (workspace.outcome_ne_failed .sequential disk _ _ (List.mem_of_getElem? listed))⟩
    rw [batchEntries, Batch.report, List.getElem?_map, listed]
    rfl

/-! ### Builds that end as alone -/

/-- How a batch goes in which every build ends as it ends alone. -/
structure AsAlone (workspace : Workspace) (mode : Batch.Mode) (disk : Disk)
    (files : List String) : Prop where
  /-- The entries have the statuses of the builds alone. -/
  statuses :
    (workspace.batchEntries mode disk files).map (fun entry => (entry.name, entry.status)) =
      files.map fun file => (file, (workspace.outcomeAlone disk file).entry.status)
  /-- They have their messages as well, as far as these cannot depend on other builds. -/
  messages : ∀ entry ∈ workspace.batchEntries mode disk files,
    workspace.Undisturbed disk files entry.name →
      entry = (workspace.outcomeAlone disk entry.name).entry
  /-- Every rendered file is as its build alone leaves it. -/
  contents : ∀ file ∈ files, ∀ aim, disk.destination (workspace.targetPath file) = .ok aim →
    (workspace.batchDisk mode disk files).node? aim = (workspace.build disk file).2.node? aim
  /-- The disk holds the changes of the builds alone, and no others. -/
  merged : workspace.Merges disk files (workspace.batchDisk mode disk files)

theorem asAlone_of_ends {mode : Batch.Mode}
    (ends : ∀ outcome ∈ workspace.batchOutcomes mode disk files,
      workspace.EndsAlone disk files outcome)
    (contents : ∀ file ∈ files, ∀ aim, disk.destination (workspace.targetPath file) = .ok aim →
      (workspace.batchDisk mode disk files).node? aim = (workspace.build disk file).2.node? aim)
    (merged : workspace.Merges disk files (workspace.batchDisk mode disk files)) :
    workspace.AsAlone mode disk files := by
  refine ⟨?_, fun entry member undisturbed => ?_, contents, merged⟩
  · have names : (workspace.batchOutcomes mode disk files).map Batch.Outcome.file = files :=
      Batch.file_of_process mode workspace.buildSteps disk files
    conv_rhs => rw [← names]
    rw [batchEntries, Batch.report, List.map_map, List.map_map]
    refine List.map_congr_left fun outcome member => ?_
    refine Prod.ext (Batch.name_of_entry outcome) ?_
    show outcome.entry.status = (workspace.outcomeAlone disk outcome.file).entry.status
    rw [Batch.status_of_entry, Batch.status_of_entry, (ends outcome member).status]
    rfl
  · obtain ⟨outcome, listed, rfl⟩ := List.mem_map.mp member
    rw [Batch.name_of_entry] at undisturbed ⊢
    exact congrArg Batch.Outcome.entry ((ends outcome listed).same undisturbed)

theorem disk_of_build_dry (dry : workspace.dryRun = true) (disk : Disk) (file : String) :
    (workspace.build disk file).2 = disk := by
  have careful : workspace.Careful (workspace.targetPath file) (fun _ => True) disk _ _ :=
    (workspace.ends_build disk file).careful fun plan made =>
      ⟨(outcome_planBuild made).2.2, trivial⟩
  exact careful.dry dry

/-- In a dry run every build ends as alone, whatever they touch. -/
theorem asAlone_of_dry (dry : workspace.dryRun = true) (mode : Batch.Mode) (disk : Disk)
    (files : List String) : workspace.AsAlone mode disk files := by
  have still := disk_of_build_dry dry disk
  have process := Batch.process_of_onlyReads mode workspace.buildSteps disk files
    fun file => workspace.onlyReads_buildSteps_dry file dry
  have left : workspace.batchDisk mode disk files = disk := congrArg Prod.snd process
  refine asAlone_of_ends ?_ (fun file member aim aimed => by rw [left, still]) ?_
  · have outcomes : workspace.batchOutcomes mode disk files = _ := congrArg Prod.fst process
    rw [outcomes]
    refine List.forall_mem_map.mpr fun file member => ?_
    rw [alone_buildSteps]
    exact ⟨rfl, fun _ => rfl⟩
  · rw [left]
    exact ⟨rfl, fun file member place changes => absurd (by rw [still]) changes, fun _ _ => rfl⟩

theorem asAlone_of_independent (independent : workspace.Independent disk files)
    (mode : Batch.Mode) : workspace.AsAlone mode disk files := by
  by_cases wet : workspace.dryRun = false
  · have merged := merges_of_independent wet independent mode
    exact asAlone_of_ends (endsAlone_of_independent wet independent mode)
      (fun file member aim aimed => contents_of_independent independent merged member aimed) merged
  · exact asAlone_of_dry (Bool.of_not_eq_false wet) mode disk files

/-! ### Any order -/

/-- Every batch accounts for its files, in whichever way they are worked on. If the builds of the
files meet nowhere, then each one ends as it ends alone, in any order, in any turns, and also if
some of the others are left out; and neither the order nor the turns make a difference to the disk
that is left.

The steps between which the others may take their turns are single operations: a file is read, a
directory is made or looked for, a file is opened for writing or filled. Disks are trees of
directories and files, with no links, no permissions and no failing devices. -/
theorem batches_of_builds (workspace : Workspace) (disk : Disk) (files : List String) :
    (∀ mode, workspace.Accounted mode disk files) ∧
    (workspace.Independent disk files →
      (∀ mode order, order.Subperm files → workspace.AsAlone mode disk order) ∧
      ∀ mode other order, order.Perm files → ∀ place,
        (workspace.batchDisk mode disk order).node? place =
          (workspace.batchDisk other disk files).node? place) := by
  refine ⟨fun mode => workspace.accounted mode disk files, fun independent =>
    ⟨fun mode order among => asAlone_of_independent (independent.of_subperm among) mode,
      fun mode other order same place => ?_⟩⟩
  have all := asAlone_of_independent independent other
  have ordered := asAlone_of_independent (independent.of_subperm same.subperm) mode
  exact all.merged.node?_eq ordered.merged same place

/-- Two sources, one of which reads a file; nothing was built. -/
def twoSources : Disk :=
  (((Disk.empty.put ["work", "src"] .directory).put ["work", "src", "host"]
    (.file (.text "#@withfile p=port\nlisten @@p@@\n"))).put ["work", "src", "motd"]
      (.file (.text "hello\n"))).put ["work", "port"] (.file (.text "80\n"))

/-- Turns in which builds of three files are begun before one of them has ended. -/
def someTurns : List Nat := [2, 0, 1, 2, 0, 2, 0, 0, 2, 1, 2, 0]

/-- A batch in which a source is missing, in another order and in turns. -/
theorem batches_of_builds_one_missing :
    plain.Independent twoSources ["host", "lost", "motd"] ∧
    (plain.batchEntries (.pooled someTurns) twoSources ["motd", "lost", "host"]).map
      (fun entry => (entry.name, entry.status)) =
        [("motd", .written), ("lost", .failed), ("host", .written)] ∧
    (∀ entry ∈ plain.batchEntries (.pooled someTurns) twoSources ["motd", "lost", "host"],
      entry = (plain.outcomeAlone twoSources entry.name).entry) ∧
    ∀ place,
      (plain.batchDisk (.pooled someTurns) twoSources ["motd", "lost", "host"]).node? place =
        (plain.batchDisk .sequential twoSources ["host", "lost", "motd"]).node? place := by
  have tree : twoSources.IsTree := .of_entries (by decide +kernel) (by decide +kernel)
  have independent : plain.Independent twoSources ["host", "lost", "motd"] :=
    independent_of_check tree (by decide +kernel) (by decide +kernel)
  have reordered : ["motd", "lost", "host"].Perm ["host", "lost", "motd"] := by decide
  obtain ⟨-, ends⟩ := batches_of_builds plain twoSources ["host", "lost", "motd"]
  obtain ⟨alone, same⟩ := ends independent
  have ordered := alone (.pooled someTurns) _ reordered.subperm
  refine ⟨independent, ?_, fun entry member => ordered.messages entry member ?_,
    same _ _ _ reordered⟩
  · rw [ordered.statuses]
    decide +kernel
  · have names :=
      (plain.accounted (.pooled someTurns) twoSources ["motd", "lost", "host"]).names
    have listed : entry.name ∈ ["motd", "lost", "host"] :=
      names ▸ List.mem_map_of_mem member
    have undisturbed : ∀ file ∈ ["motd", "lost", "host"],
        plain.Undisturbed twoSources ["motd", "lost", "host"] file := by decide +kernel
    exact undisturbed _ listed

end Workspace

end Foldback
