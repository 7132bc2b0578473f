/-
Workspaces: a directory of sources, a directory of rendered files, and the
categories that connect them. To build a file is to render its source and write
the result; to take it back is to fold its edits into the source and write that.

Both are planned first, which only reads, and then carried out. A preview shows
the plan as a difference. So a failure while planning, a dry run and a preview
leave the disk as it is by construction.
-/

import Foldback.Fold.Merge
import Foldback.Diff.Unified
import Foldback.Disk.Basic
import Foldback.Report

namespace Foldback

open Diff Text

/-- Why the work on a file failed. -/
inductive Failure where
  /-- A source or a rendered file cannot be read. -/
  | reading (path : String) (error : FileError)
  /-- There is no rendered file to take back. -/
  | notBuilt (path : String)
  /-- The source at the path does not render. -/
  | rendering (path : String) (error : RenderError)
  /-- The edits of the file at the path cannot be folded back. -/
  | foldingBack (path : String) (error : FoldError)
  /-- A directory cannot be created. -/
  | creating (path : String) (error : FileError)
  /-- A file cannot be written. -/
  | writing (path : String) (error : FileError)
  deriving DecidableEq, Repr

namespace Failure

/-- The messages for a failure: what was done, what went wrong, and why. -/
def chain : Failure → List String
  | .reading path error => ["reading " ++ path, error.message]
  | .notBuilt path => [path ++ " has not been built"]
  | .rendering path error => ["rendering " ++ path, error.message] ++ error.cause?.toList
  | .foldingBack path error => ["backporting " ++ path, error.message] ++ error.cause?.toList
  | .creating path error => ["creating directory " ++ path, error.message]
  | .writing path error => ["writing " ++ path, error.message]

/-- The message for a failure. -/
def message (failure : Failure) : String :=
  ": ".intercalate failure.chain

end Failure

/-- What the work on a file notes. -/
inductive FileNote where
  /-- A pass noted something. -/
  | pass (note : PassNote)
  /-- The rendered lines were aligned with the edited ones. -/
  | aligned
  /-- The edits are folded back. -/
  | foldingBack
  /-- The file at the path needs no change. -/
  | upToDate (path : String)
  /-- The file at the path would be written. -/
  | wouldWrite (path : String)
  /-- The file at the path was written. -/
  | wrote (path : String)
  deriving DecidableEq, Repr

/-! ### Plans -/

/-- A file to write. -/
structure Plan where
  /-- Where the file is. -/
  path : String
  /-- The lines that it holds now, if it is there. -/
  current : Option (List String)
  /-- The lines that it should hold. -/
  lines : List String
  deriving DecidableEq, Repr

namespace Plan

/-- The change that a plan makes, in the unified form. -/
def preview (plan : Plan) : String :=
  unified (plan.current.getD []) plan.lines plan.path plan.path

/-- Writes the lines, after the directories that the file needs. -/
def write (plan : Plan) (disk : Disk) : Except Failure Unit × Disk :=
  match disk.makeParent plan.path with
  | (.error error, partly) =>
    (.error (.creating ((Path.parent? plan.path).getD "") error), partly)
  | (.ok (), prepared) =>
    match prepared.write plan.path (.text (ofLines plan.lines)) with
    | .error error => (.error (.writing plan.path error), prepared)
    | .ok written => (.ok (), written)

/-- Carries a plan out, unless the file holds the lines already. -/
def carryOut (plan : Plan) (dryRun : Bool) (disk : Disk) :
    Traced FileNote Failure Status × Disk :=
  if plan.current = some plan.lines then (⟨[.upToDate plan.path], .ok .unchanged⟩, disk)
  else if dryRun then (⟨[.wouldWrite plan.path], .ok .planned⟩, disk)
  else
    match plan.write disk with
    | (.error failure, partly) => (.fail failure, partly)
    | (.ok (), written) => (⟨[.wrote plan.path], .ok .written⟩, written)

/-- A plan for lines that are there already does nothing. -/
theorem carryOut_current {plan : Plan} (same : plan.current = some plan.lines) (dryRun : Bool)
    (disk : Disk) :
    plan.carryOut dryRun disk = (⟨[.upToDate plan.path], .ok .unchanged⟩, disk) := by
  rw [carryOut, if_pos same]

end Plan

/-! ### Workspaces -/

/-- What the file commands work on. No command can be added to those of a workspace: what is said
about all workspaces is said about passes with the built-in table. Whether files are worked on
together is left to each batch. -/
structure Workspace where
  /-- The active categories. -/
  categories : Categories
  /-- The directory of the sources. -/
  root : String
  /-- The directory of the rendered files. -/
  target : String
  /-- Whether nothing may be written. -/
  dryRun : Bool

namespace Workspace

/-- The setup of the passes over the sources, which always has the built-in commands. -/
def setup (workspace : Workspace) (disk : Disk) : Setup :=
  .builtin workspace.categories disk.firstLine

/-- The path of a source. -/
def sourcePath (workspace : Workspace) (file : String) : String :=
  Path.join workspace.root file

/-- The path of a rendered file. -/
def targetPath (workspace : Workspace) (file : String) : String :=
  Path.join workspace.target file

/-- The lines of a source. -/
def readSource (workspace : Workspace) (disk : Disk) (file : String) :
    Except Failure (List String) :=
  (disk.readLines (workspace.sourcePath file)).mapError (.reading (workspace.sourcePath file))

/-- The lines of a rendered file; none if there is no such file. -/
def readTarget (workspace : Workspace) (disk : Disk) (file : String) :
    Except Failure (Option (List String)) :=
  match disk.readLines (workspace.targetPath file) with
  | .ok lines => .ok (some lines)
  | .error .notFound => .ok none
  | .error error => .error (.reading (workspace.targetPath file) error)

/-- The lines that a source renders to. -/
def rendered (workspace : Workspace) (disk : Disk) (file : String) (source : List String) :
    Traced FileNote Failure (List String) :=
  let setup := workspace.setup disk
  ⟨(setup.notes source).map .pass,
    (setup.render source).mapError (.rendering (workspace.sourcePath file))⟩

/-- The lines of a source with the edits of its rendered file. A second pass
follows when the first one has succeeded. -/
def merged (workspace : Workspace) (disk : Disk) (file : String) (source edited : List String) :
    Traced FileNote Failure (List String) :=
  let setup := workspace.setup disk
  let passNotes := (setup.notes source).map FileNote.pass
  let later := if (setup.render source).isOk then [.aligned, .foldingBack] ++ passNotes else []
  ⟨passNotes ++ later,
    (setup.foldBack source edited).mapError (.foldingBack (workspace.targetPath file))⟩

/-- The plan to render a source. -/
def planBuild (workspace : Workspace) (disk : Disk) (file : String) :
    Traced FileNote Failure Plan := do
  let source ← .ofExcept (workspace.readSource disk file)
  let lines ← workspace.rendered disk file source
  let current ← .ofExcept (workspace.readTarget disk file)
  pure ⟨workspace.targetPath file, current, lines⟩

/-- The plan to fold the edits of a rendered file back. -/
def planBack (workspace : Workspace) (disk : Disk) (file : String) :
    Traced FileNote Failure Plan := do
  let source ← .ofExcept (workspace.readSource disk file)
  let current ← .ofExcept (workspace.readTarget disk file)
  match current with
  | none => .fail (.notBuilt (workspace.targetPath file))
  | some edited =>
    let lines ← workspace.merged disk file source edited
    pure ⟨workspace.sourcePath file, some source, lines⟩

/-- Carries out what was planned. -/
def carryOut (workspace : Workspace) (planned : Traced FileNote Failure Plan) (disk : Disk) :
    Traced FileNote Failure Status × Disk :=
  match planned.outcome with
  | .error failure => (⟨planned.notes, .error failure⟩, disk)
  | .ok plan =>
    let (result, after) := plan.carryOut workspace.dryRun disk
    (⟨planned.notes ++ result.notes, result.outcome⟩, after)

/-- Renders a source into its rendered file. -/
def build (workspace : Workspace) (disk : Disk) (file : String) :
    Traced FileNote Failure Status × Disk :=
  workspace.carryOut (workspace.planBuild disk file) disk

/-- Folds the edits of a rendered file back into its source. -/
def back (workspace : Workspace) (disk : Disk) (file : String) :
    Traced FileNote Failure Status × Disk :=
  workspace.carryOut (workspace.planBack disk file) disk

/-- How a build would change the rendered file. -/
def buildPreview (workspace : Workspace) (disk : Disk) (file : String) :
    Traced FileNote Failure String :=
  Plan.preview <$> workspace.planBuild disk file

/-- How folding back would change the source. -/
def backPreview (workspace : Workspace) (disk : Disk) (file : String) :
    Traced FileNote Failure String :=
  Plan.preview <$> workspace.planBack disk file

end Workspace

end Foldback
