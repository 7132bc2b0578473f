/-
What the work on a file does to the disk. A build changes the rendered file and
makes the missing directories on the way there; taking a file back changes the
source. Whatever ends the work before the file is to be written leaves the disk
as it was, and so does every dry run and every preview. A file that was written
holds the computed lines.

Where a path leads is looked up on the disk, so two spellings of a path, also
with points in them, are one place.
-/

import Foldback.Proofs.Text.Lines
import Foldback.Proofs.Workspace.Alone
import Foldback.Proofs.Workspace.Plans

namespace Foldback.Workspace

open Text

variable {workspace : Workspace} {disk : Disk} {file : String}

/-! ### Routes of the files -/

/-- A path that the system reads, or finds nothing at, is one that it takes, or empty. -/
theorem route_of_readLines {path : String}
    (read : (∃ lines, disk.readLines path = .ok lines) ∨ disk.readLines path = .error .notFound) :
    path = "" ∨ ∃ route, Path.route path = .ok route := by
  cases routed : Path.route path with
  | ok route => exact .inr ⟨route, rfl⟩
  | error reason =>
    have refused : disk.readLines path = .error reason := by
      unfold Disk.readLines Disk.read Disk.find
      rw [routed]
      rfl
    rw [refused] at read
    rcases read with ⟨lines, same⟩ | missing
    · cases same
    · cases missing
      exact .inl (Path.eq_empty_of_route routed)

theorem route_of_planBuild {plan : Plan}
    (made : (workspace.planBuild disk file).outcome = .ok plan) :
    plan.path = "" ∨ ∃ route, Path.route plan.path = .ok route := by
  obtain ⟨-, target, path⟩ := outcome_planBuild made
  have read := readLines_of_readTarget target
  rw [path]
  cases current : plan.current with
  | none =>
    rw [current] at read
    exact route_of_readLines (.inr read)
  | some lines =>
    rw [current] at read
    exact route_of_readLines (.inl ⟨lines, read⟩)

/-- The source of a file that is taken back is there. -/
theorem locate_of_planBack {plan : Plan}
    (made : (workspace.planBack disk file).outcome = .ok plan) :
    ∃ place, disk.locate (workspace.sourcePath file) = .ok place ∧ (disk.node? place).isSome := by
  obtain ⟨⟨source, edited, read, -⟩, -⟩ := outcome_planBack made
  obtain ⟨text, whole, -⟩ := Disk.read_of_readLines (mapError_eq_ok.mp read)
  obtain ⟨place, led, here⟩ := Disk.locate_of_read whole
  exact ⟨place, led, Option.isSome_of_eq_some here⟩

theorem route_of_planBack {plan : Plan} (made : (workspace.planBack disk file).outcome = .ok plan) :
    ∃ route, Path.route (workspace.sourcePath file) = .ok route := by
  obtain ⟨place, led, -⟩ := locate_of_planBack made
  obtain ⟨route, routed, -⟩ := exists_of_bind_eq_ok led
  exact ⟨route, routed⟩

/-! ### The disk that is left -/

/-- However the work ends, only the file of the plan and directories on the way are touched. -/
theorem Ends.footprint {path : String} {planned : Except Failure Plan}
    {outcome : Except Failure Status} {after : Disk}
    (ends : Ends workspace planned disk outcome after)
    (routed : ∀ plan, planned = .ok plan → plan.path = path ∧
      (path = "" ∨ ∃ route, Path.route path = .ok route)) : Disk.Footprint path disk after := by
  have writing : ∀ {plan result}, planned = .ok plan → plan.write disk = (result, after) →
      Disk.Footprint path disk after := by
    intro plan result made write
    obtain ⟨rfl, nowhere | ⟨route, taken⟩⟩ := routed plan made
    · rw [Plan.write_nowhere nowhere] at write
      cases write
      exact .refl _ disk
    · exact Plan.footprint_write taken write
  cases ends with
  | unplanned refused => exact .refl path disk
  | current made same => exact .refl path disk
  | dry made other dry => exact .refl path disk
  | broken made other wet write => exact writing made write
  | written made other wet write => exact writing made write

theorem footprint_build (workspace : Workspace) (disk : Disk) (file : String) :
    Disk.Footprint (workspace.targetPath file) disk (workspace.build disk file).2 := by
  refine (workspace.ends_build disk file).footprint fun plan made => ?_
  have path := (outcome_planBuild made).2.2
  exact ⟨path, path ▸ route_of_planBuild made⟩

theorem footprint_back (workspace : Workspace) (disk : Disk) (file : String) :
    Disk.Footprint (workspace.sourcePath file) disk (workspace.back disk file).2 :=
  (workspace.ends_back disk file).footprint fun _ made =>
    ⟨(outcome_planBack made).2.2, .inr (route_of_planBack made)⟩

/-- Taking a file back makes no directories, as the source is there. -/
theorem locate_of_back {place : Location}
    (different : (workspace.back disk file).2.node? place ≠ disk.node? place) :
    disk.locate (workspace.sourcePath file) = .ok place := by
  have ends := workspace.ends_back disk file
  cases made : (workspace.planBack disk file).outcome with
  | error failure =>
    rw [made] at ends
    rw [ends.of_error.2] at different
    exact absurd rfl different
  | ok plan =>
    obtain ⟨found, led, there⟩ := locate_of_planBack made
    rwa [(footprint_back workspace disk file).only led there different]

/-! ### The care that is taken -/

/-- The work on a file takes care of the disk: it leaves the disk as it was unless
the file is to be written, and a file that was written holds the computed lines. -/
structure Careful (workspace : Workspace) (path : String) (computes : List String → Prop)
    (before : Disk) (outcome : Except Failure Status) (after : Disk) : Prop where
  dry : workspace.dryRun = true → after = before
  refused : ∀ failure, outcome = .error failure → failure.whileWriting = false → after = before
  kept : outcome = .ok .unchanged ∨ outcome = .ok .planned → after = before
  written : outcome = .ok .written → ∃ lines, computes lines ∧
    after.read path = .ok (String.join (lines.map (· ++ "\n")))

/-- Nothing was written. -/
theorem Careful.still {path : String} {computes : List String → Prop}
    {outcome : Except Failure Status} (quiet : outcome ≠ .ok .written) :
    Careful workspace path computes disk outcome disk :=
  ⟨fun _ => rfl, fun _ _ _ => rfl, fun _ => rfl, fun written => absurd written quiet⟩

theorem Ends.careful {path : String} {computes : List String → Prop}
    {planned : Except Failure Plan} {outcome : Except Failure Status} {after : Disk}
    (ends : Ends workspace planned disk outcome after)
    (computed : ∀ plan, planned = .ok plan → plan.path = path ∧ computes plan.lines) :
    Careful workspace path computes disk outcome after := by
  cases ends with
  | unplanned refused => exact .still (fun written => nomatch written)
  | current made same => exact .still (fun written => nomatch written)
  | dry made other dry => exact .still (fun written => nomatch written)
  | broken made other wet write =>
    have late := Plan.whileWriting_of_write write
    refine ⟨fun dry => ?_, fun failure same early => ?_, fun kept => ?_, fun written => ?_⟩
    · exact absurd (wet.symm.trans dry) Bool.false_ne_true
    · cases same
      exact absurd (early.symm.trans late) Bool.false_ne_true
    · rcases kept with same | same <;> cases same
    · cases written
  | written made other wet write =>
    obtain ⟨rfl, lines⟩ := computed _ made
    refine ⟨fun dry => ?_, fun failure same => ?_, fun kept => ?_, fun _ => ⟨_, lines, ?_⟩⟩
    · exact absurd (wet.symm.trans dry) Bool.false_ne_true
    · cases same
    · rcases kept with same | same <;> cases same
    · rw [← ofLines_eq_join]
      exact Plan.read_of_write write

/-! ### The commands -/

/-- A build touches the rendered file and missing directories on the way there,
taking a file back touches the source, and a preview touches nothing. Both write
the computed lines or, in a dry run, if there is nothing to change, or after a
failure that is not one of writing, nothing at all.

A preview only gives a text by its type. What it does to a disk is what its steps
do: for the files of a batch, in whichever way these are worked on, they come to the
previews and leave the disk as it was. The same is said of the steps of dry runs.
Disks are trees of directories and files here, with no links, no permissions and no
failing devices. -/
theorem commands_contained (workspace : Workspace) (disk : Disk) (file : String)
    (files : List String) :
    Disk.Footprint (workspace.targetPath file) disk (workspace.build disk file).2 ∧
    workspace.Careful (workspace.targetPath file) (workspace.BuildsTo disk file) disk
      (workspace.build disk file).1.outcome (workspace.build disk file).2 ∧
    (disk.Keeps (workspace.back disk file).2 ∧
      ∀ place, (workspace.back disk file).2.node? place ≠ disk.node? place →
        disk.locate (workspace.sourcePath file) = .ok place) ∧
    workspace.Careful (workspace.sourcePath file) (workspace.FoldsTo disk file) disk
      (workspace.back disk file).1.outcome (workspace.back disk file).2 ∧
    (Batch.run (Batch.reading workspace.buildPreview) disk files).2.2 = disk ∧
    (Batch.run (Batch.reading workspace.backPreview) disk files).2.2 = disk ∧
    (∀ mode,
      (Batch.process mode workspace.buildPreviewSteps disk files).2 =
          (files.map fun file => ⟨file, (workspace.buildPreview disk file).outcome⟩, disk) ∧
        (Batch.process mode workspace.backPreviewSteps disk files).2 =
          (files.map fun file => ⟨file, (workspace.backPreview disk file).outcome⟩, disk)) ∧
    (workspace.dryRun = true → ∀ mode,
      (Batch.process mode workspace.buildSteps disk files).2 =
          (files.map fun file => ⟨file, (workspace.build disk file).1.outcome⟩, disk) ∧
        (Batch.process mode workspace.backSteps disk files).2 =
          (files.map fun file => ⟨file, (workspace.back disk file).1.outcome⟩, disk)) := by
  have back := footprint_back workspace disk file
  -- steps that only read end as at one go, in whichever way the files are worked on
  have reading {result : Type} {work : String → Steps result}
      {seen : String → Except Failure result} (mode : Batch.Mode)
      (reads : ∀ file, (work file).OnlyReads)
      (ends : ∀ file, ((work file).alone disk).1.outcome = seen file) :
      (Batch.process mode work disk files).2 = (files.map fun file => ⟨file, seen file⟩, disk) := by
    rw [Batch.process_of_onlyReads mode work disk files reads]
    simp only [ends]
  refine ⟨footprint_build workspace disk file, ?_, ⟨back.keeps, fun _ => locate_of_back⟩, ?_,
    Batch.disk_of_run_reading workspace.buildPreview disk files,
    Batch.disk_of_run_reading workspace.backPreview disk files,
    fun mode => ⟨reading mode workspace.onlyReads_buildPreviewSteps fun file => ?_,
      reading mode workspace.onlyReads_backPreviewSteps fun file => ?_⟩,
    fun dry mode => ⟨reading mode (workspace.onlyReads_buildSteps_dry · dry) fun file => ?_,
      reading mode (workspace.onlyReads_backSteps_dry · dry) fun file => ?_⟩⟩
  · exact (workspace.ends_build disk file).careful fun plan made =>
      ⟨(outcome_planBuild made).2.2, (outcome_planBuild made).1⟩
  · exact (workspace.ends_back disk file).careful fun plan made =>
      ⟨(outcome_planBack made).2.2, (outcome_planBack made).1⟩
  · rw [workspace.observes_buildPreviewSteps file disk]
  · rw [workspace.observes_backPreviewSteps file disk]
  · rw [workspace.alone_buildSteps]
  · rw [workspace.alone_backSteps]

/-- A workspace below the working directory. -/
def plain : Workspace := ⟨.empty, "src", "out", false⟩

/-- A disk with one source that was not built. -/
def unbuilt : Disk :=
  (Disk.empty.put ["work", "src"] .directory).put ["work", "src", "host"] (.file (.text "a\n"))

/-- The first build of a file: it is written, and so is the directory that it needs, and nothing
else is. Its preview and a dry run leave everything as it was. -/
theorem commands_contained_written :
    (plain.build unbuilt "host").1.outcome = .ok .written ∧
    (plain.build unbuilt "host").2.read "out/host" = .ok "a\n" ∧
    (∀ place, (plain.build unbuilt "host").2.node? place ≠ unbuilt.node? place →
      place = ["work", "out", "host"] ∨
        unbuilt.node? place = none ∧ (plain.build unbuilt "host").2.node? place = some .directory) ∧
    ∀ mode,
      (Batch.process mode plain.buildPreviewSteps unbuilt ["host"]).2 =
          ([⟨"host", (plain.buildPreview unbuilt "host").outcome⟩], unbuilt) ∧
        (Batch.process mode { plain with dryRun := true }.buildSteps unbuilt ["host"]).2 =
          ([⟨"host", .ok .planned⟩], unbuilt) := by
  obtain ⟨footprint, careful, -, -, -, -, previews, -⟩ :=
    commands_contained plain unbuilt "host" ["host"]
  obtain ⟨-, -, -, -, -, -, -, dry⟩ :=
    commands_contained { plain with dryRun := true } unbuilt "host" ["host"]
  have written : (plain.build unbuilt "host").1.outcome = .ok .written := by decide +kernel
  have path : plain.targetPath "host" = "out/host" := by decide +kernel
  have led : (plain.build unbuilt "host").2.locate "out/host" = .ok ["work", "out", "host"] := by
    decide +kernel
  obtain ⟨lines, ⟨source, read, rendered⟩, there⟩ := careful.written written
  have sources : plain.readSource unbuilt "host" = .ok ["a"] := by decide +kernel
  cases sources.symm.trans read
  have renders : (plain.setup unbuilt).render ["a"] = .ok ["a"] := by decide +kernel
  cases renders.symm.trans rendered
  rw [path] at there footprint
  refine ⟨written, there, fun place different => ?_, fun mode => ⟨(previews mode).1, ?_⟩⟩
  · refine (footprint.changed place different).imp (fun reached => ?_) fun ⟨missing, made, _⟩ =>
      ⟨missing, made⟩
    exact Except.ok.inj (reached.symm.trans led)
  · have planned :
        ({ plain with dryRun := true }.build unbuilt "host").1.outcome = .ok .planned := by
      decide +kernel
    rw [(dry rfl mode).1, List.map_singleton, planned]

end Foldback.Workspace
