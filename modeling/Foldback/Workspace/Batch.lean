/-
Batches: the work on several files, here one after the other. Each file meets the
disk as the files before it have left it, and a failure ends the work on its
own file only. At the end the outcomes are reported. To work on the files together is
for pools.
-/

import Foldback.Workspace.Basic
import Foldback.Console.Layout

namespace Foldback

open Console

/-- The event for a note on a file. -/
def FileNote.event : FileNote → Event
  | .pass note => .ofPassNote note
  | .aligned => ⟨.trace, .alignment, "aligned", ["expected", "edited", "ops", "changed"]⟩
  | .foldingBack => ⟨.debug, .folding, "backport", ["source", "canonical", "edited"]⟩
  | .upToDate path => .debug (path ++ " is up to date")
  | .wouldWrite path => .dryRun ("would write " ++ path)
  | .wrote path => .info ("wrote " ++ path)

/-- Some files of a batch failed. -/
structure FailedFiles where
  count : Nat
  deriving DecidableEq, Repr

/-- The message for failed files. -/
def FailedFiles.message (failed : FailedFiles) : String :=
  s!"{failed.count} file(s) failed"

namespace Batch

/-- A file and how the work on it ended. -/
structure Outcome (result : Type) where
  file : String
  outcome : Except Failure result

/-- The work on some files: the notes, the outcomes in order, and the disk at
the end. -/
def run {result : Type} (work : Disk → String → Traced FileNote Failure result × Disk)
    (disk : Disk) : List String → List FileNote × List (Outcome result) × Disk
  | [] => ([], [], disk)
  | file :: rest =>
    let (traced, next) := work disk file
    let (notes, outcomes, after) := run work next rest
    (traced.notes ++ notes, ⟨file, traced.outcome⟩ :: outcomes, after)

/-- Every file has one outcome, and the outcomes are in the order of the files. -/
theorem file_of_run {result : Type} (work : Disk → String → Traced FileNote Failure result × Disk)
    (disk : Disk) (files : List String) : (run work disk files).2.1.map Outcome.file = files := by
  induction files generalizing disk with
  | nil => rfl
  | cons file rest inductionHypothesis =>
    show file :: ((run work (work disk file).2 rest).2.1.map Outcome.file) = file :: rest
    rw [inductionHypothesis]

/-- The entry for an outcome. -/
def Outcome.entry (outcome : Outcome Status) : Report.Entry :=
  match outcome.outcome with
  | .ok status => ⟨outcome.file, status, none⟩
  | .error failure => ⟨outcome.file, .failed, some failure.message⟩

/-- The report on some outcomes. -/
def report (outcomes : List (Outcome Status)) : Report :=
  ⟨outcomes.map Outcome.entry⟩

/-- The events that report failures. -/
def failureEvents (outcomes : List (Outcome Status)) : List Event :=
  outcomes.filterMap fun outcome =>
    match outcome.outcome with
    | .ok _ => none
    | .error failure => some (.error (outcome.file ++ ": " ++ failure.message))

/-- The events of a summary. -/
def summaryEvents (report : Report) : List Event :=
  match report.summaryLines with
  | [] => []
  | lines => .stage "Summary" :: lines.map .info

/-- The events at the end of a batch. -/
def closingEvents (outcomes : List (Outcome Status)) : List Event :=
  failureEvents outcomes ++ summaryEvents (report outcomes)

/-- Whether a batch succeeded: no file may have failed. -/
def verdict (report : Report) : Except FailedFiles Unit :=
  if report.failures = 0 then .ok () else .error ⟨report.failures⟩

/-! ### Previews -/

/-- The status of a file for its preview: an empty one means no change. -/
def previewStatus (preview : String) : Status :=
  if preview.isEmpty then .unchanged else .planned

/-- The outcomes of previews as those of files. -/
def Outcome.ofPreview (outcome : Outcome String) : Outcome Status :=
  ⟨outcome.file, outcome.outcome.map previewStatus⟩

/-- The texts of the previews that there are, in order. -/
def previewTexts (outcomes : List (Outcome String)) : List String :=
  outcomes.filterMap (·.outcome.toOption)

/-- Work that only reads. -/
def reading {result : Type} (work : Disk → String → Traced FileNote Failure result)
    (disk : Disk) (file : String) : Traced FileNote Failure result × Disk :=
  (work disk file, disk)

/-- Work that only reads leaves the disk alone. -/
theorem disk_of_run_reading {result : Type} (work : Disk → String → Traced FileNote Failure result)
    (disk : Disk) (files : List String) : (run (reading work) disk files).2.2 = disk := by
  induction files with
  | nil => rfl
  | cons file rest inductionHypothesis => exact inductionHypothesis

end Batch

end Foldback
