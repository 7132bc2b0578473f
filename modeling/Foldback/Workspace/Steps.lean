/-
Work in steps. The work on a file is a course of single operations of the system, in
which every answer says how to go on, and of notes between them. Whoever carries it
out may do other things in between. Carried out at one go, the steps of a build are
the build, and so it is with the other commands.

A file is read in one operation, and a directory is made in one. A file is written in
two: when it was opened it is empty, and then it is filled.
-/

import Foldback.Workspace.Basic

namespace Foldback

open Diff Text

/-- An operation of the system on its disk. -/
inductive Operation where
  /-- Reads the text of a file. -/
  | read (path : String)
  /-- Makes one directory in a directory that is there. -/
  | makeDirectory (way : Path.Route)
  /-- Looks whether there is a directory. -/
  | seekDirectory (way : Path.Route)
  /-- Opens a file for writing. The file is there and empty then. -/
  | clear (path : String)
  /-- Fills a file that was opened. -/
  | fill (place : Location) (text : String)

namespace Operation

/-- What an operation answers. -/
@[reducible]
def Answer : Operation → Type
  | .read _ => Except FileError String
  | .makeDirectory _ => Except FileError Unit
  | .seekDirectory _ => Bool
  | .clear _ => Except FileError Location
  | .fill _ _ => Unit

/-- The answer of an operation, and the disk that it leaves. -/
def perform : (operation : Operation) → Disk → operation.Answer × Disk
  | .read path, disk => (disk.read path, disk)
  | .makeDirectory way, disk =>
    match disk.makeDirectory way.pointed (disk.start way) way.names with
    | .error reason => (.error reason, disk)
    | .ok made => (.ok (), made)
  | .seekDirectory way, disk => (disk.leadsToDirectory (disk.start way) way.names, disk)
  | .clear path, disk =>
    match disk.opened path with
    | .error reason => (.error reason, disk)
    | .ok place => (.ok place, disk.put place (.file (.text "")))
  | .fill place text, disk => ((), disk.put place (.file (.text text)))

end Operation

/-- Work that is still to be done. -/
inductive Steps (value : Type) where
  /-- There is nothing to be done any more. -/
  | ended (outcome : Except Failure value)
  /-- Something is noted, and the rest follows. -/
  | noted (note : FileNote) (rest : Steps value)
  /-- An operation is carried out, and the rest hangs on its answer. -/
  | acted (operation : Operation) (rest : operation.Answer → Steps value)

namespace Steps

variable {value other : Type}

/-- Goes on after a value. A failure ends the work. -/
def andThen (first : Steps value) (next : value → Steps other) : Steps other :=
  match first with
  | .ended (.error failure) => .ended (.error failure)
  | .ended (.ok result) => next result
  | .noted note rest => .noted note (rest.andThen next)
  | .acted operation rest => .acted operation fun answer => (rest answer).andThen next

instance : Monad Steps where
  pure result := .ended (.ok result)
  bind := andThen

/-- The work fails. -/
def fail (failure : Failure) : Steps value := .ended (.error failure)

/-- The work has come to an outcome. -/
def ofExcept (outcome : Except Failure value) : Steps value := .ended outcome

/-- Notes in order. -/
def note : List FileNote → Steps Unit
  | [] => pure ()
  | first :: rest => .noted first (note rest)

/-- Carries the work out at one go. -/
def alone : Steps value → Disk → Traced FileNote Failure value × Disk
  | .ended outcome, disk => (⟨[], outcome⟩, disk)
  | .noted note rest, disk =>
    let (traced, after) := rest.alone disk
    (⟨note :: traced.notes, traced.outcome⟩, after)
  | .acted operation rest, disk =>
    let (answer, between) := operation.perform disk
    (rest answer).alone between

theorem alone_acted (operation : Operation) (rest : operation.Answer → Steps value) (disk : Disk) :
    (acted operation rest).alone disk =
      (rest (operation.perform disk).1).alone (operation.perform disk).2 := rfl

/-! ### Reading -/

/-- Reads a file and takes from its text what is needed. -/
def reading (path : String) (view : String → value) : Steps (Except FileError value) :=
  .acted (.read path) fun text => .ended (.ok (Except.map view text))

/-- What a pass that comes to a line knows of the files: the one that the line reads. -/
def readFor (text : String) : Steps (String → Except FileError String) :=
  match Directive.fileRead? text with
  | none => pure fun _ => .error .notFound
  | some path => (fun found _ => found) <$> reading path firstLineOf

/-- A pass over lines that reads files when it comes to the lines that name them. -/
def pass (categories : Categories) (line : Nat) (stack : BlockStack) : List String → Steps Pass
  | [] => do
    note (if stack.isEmpty then [] else [.pass .stillOpen])
    pure ⟨[], .ok stack⟩
  | text :: rest => do
    let firstLine ← readFor text
    let traced := (Setup.builtin categories firstLine).step line stack text
    note (traced.notes.map .pass)
    match traced.outcome with
    | .error error => pure ⟨[], .error error⟩
    | .ok (output, next) => do
      let later ← pass categories (line + 1) next rest
      pure ⟨⟨output, text⟩ :: later.lines, later.ending⟩

/-! ### Writing -/

/-- Makes one directory. -/
def makeDirectory (way : Path.Route) : Steps (Except FileError Unit) :=
  .acted (.makeDirectory way) fun made => .ended (.ok made)

/-- A directory was not made, which is no obstacle if there is one. -/
def settle (refusal : FileError → Failure) (way : Path.Route) (reason : FileError) : Steps Unit :=
  .acted (.seekDirectory way) fun there =>
    .ended (if there then .ok () else .error (refusal reason))

/-- Makes a directory. If the way there is missing, it is made first. -/
def makeWithWay (refusal : FileError → Failure) (way : Path.Route) (first : Steps Unit) :
    Steps Unit := do
  match ← makeDirectory way with
  | .ok () => pure ()
  | .error .notFound => do
    first
    match ← makeDirectory way with
    | .ok () => pure ()
    | .error reason => settle refusal way reason
  | .error reason => settle refusal way reason

/-- Makes a directory and the missing ones that lead to it; the names are given from the last one
on. The longest path is tried first. -/
def makeDirectories (refusal : FileError → Failure) (absolute : Bool) :
    Bool → List String → Steps Unit
  | _, [] => pure ()
  | pointed, last :: before =>
    makeWithWay refusal ⟨absolute, (last :: before).reverse, false, pointed⟩
      (makeDirectories refusal absolute false before)

/-- Makes the directory of a path and the missing ones that lead to it. -/
def makePath (refusal : FileError → Failure) (path : String) : Steps Unit :=
  if path.isEmpty then pure ()
  else
    match Path.route path with
    | .error reason => fail (refusal reason)
    | .ok route => makeDirectories refusal route.absolute route.pointed route.names.reverse

/-- Makes the directory that a file needs: its parent, if the path names one. -/
def makeParent (path : String) : Steps Unit :=
  match Path.parent? path with
  | none => pure ()
  | some parent => makePath (.creating parent) parent

/-- Writes a text into a file, in a directory that is there. -/
def writeText (path text : String) : Steps Unit :=
  .acted (.clear path) fun
    | .error error => fail (.writing path error)
    | .ok place => .acted (.fill place text) fun _ => pure ()

end Steps

namespace Plan

/-- The steps in which a plan is written. -/
def writeSteps (plan : Plan) : Steps Unit := do
  Steps.makeParent plan.path
  Steps.writeText plan.path (ofLines plan.lines)

/-- The steps in which a plan is carried out. -/
def carryOutSteps (plan : Plan) (dryRun : Bool) : Steps Status :=
  if plan.current = some plan.lines then do
    Steps.note [.upToDate plan.path]
    pure .unchanged
  else if dryRun then do
    Steps.note [.wouldWrite plan.path]
    pure .planned
  else do
    plan.writeSteps
    Steps.note [.wrote plan.path]
    pure .written

end Plan

namespace Workspace

/-- The steps to the lines of a source. -/
def sourceSteps (workspace : Workspace) (file : String) : Steps (List String) := do
  let lines ← Steps.reading (workspace.sourcePath file) linesOf
  .ofExcept (lines.mapError (.reading (workspace.sourcePath file)))

/-- The steps to the lines of a rendered file; none if there is no such file. -/
def targetSteps (workspace : Workspace) (file : String) : Steps (Option (List String)) := do
  let lines ← Steps.reading (workspace.targetPath file) linesOf
  .ofExcept <| match lines with
    | .ok lines => .ok (some lines)
    | .error .notFound => .ok none
    | .error error => .error (.reading (workspace.targetPath file) error)

/-- The steps to the lines that a source renders to. -/
def renderSteps (workspace : Workspace) (file : String) (source : List String) :
    Steps (List String) := do
  let pass ← Steps.pass workspace.categories 1 [] source
  .ofExcept (pass.rendered.mapError (.rendering (workspace.sourcePath file)))

/-- The steps to the lines of a source with the edits of its rendered file. The files that the
source names are read anew in the second pass. -/
def mergeSteps (workspace : Workspace) (file : String) (source edited : List String) :
    Steps (List String) := do
  let refuse := Failure.foldingBack (workspace.targetPath file)
  let first ← Steps.pass workspace.categories 1 [] source
  let canonical ← .ofExcept (first.rendered.mapError fun error => refuse (.render error))
  Steps.note [.aligned, .foldingBack]
  let second ← Steps.pass workspace.categories 1 [] source
  .ofExcept ((Fold.merge second.stream (lineOps canonical edited)).mapError refuse)

/-- The steps to the plan to render a source. -/
def planBuildSteps (workspace : Workspace) (file : String) : Steps Plan := do
  let source ← workspace.sourceSteps file
  let lines ← workspace.renderSteps file source
  let current ← workspace.targetSteps file
  pure ⟨workspace.targetPath file, current, lines⟩

/-- The steps to the plan to fold the edits of a rendered file back. -/
def planBackSteps (workspace : Workspace) (file : String) : Steps Plan := do
  let source ← workspace.sourceSteps file
  match ← workspace.targetSteps file with
  | none => .fail (.notBuilt (workspace.targetPath file))
  | some edited => do
    let lines ← workspace.mergeSteps file source edited
    pure ⟨workspace.sourcePath file, some source, lines⟩

/-- The steps of a build. -/
def buildSteps (workspace : Workspace) (file : String) : Steps Status := do
  let plan ← workspace.planBuildSteps file
  plan.carryOutSteps workspace.dryRun

/-- The steps in which edits are folded back. -/
def backSteps (workspace : Workspace) (file : String) : Steps Status := do
  let plan ← workspace.planBackSteps file
  plan.carryOutSteps workspace.dryRun

/-- The steps to the preview of a build. -/
def buildPreviewSteps (workspace : Workspace) (file : String) : Steps String :=
  Plan.preview <$> workspace.planBuildSteps file

/-- The steps to the preview of folding back. -/
def backPreviewSteps (workspace : Workspace) (file : String) : Steps String :=
  Plan.preview <$> workspace.planBackSteps file

end Workspace

end Foldback
