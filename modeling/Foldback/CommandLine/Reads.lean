/-
The paths that a request may read. A request works on a disk, and whoever
copies files to such a disk has to know which ones to copy. The answer grows
with the disk: the settings file tells where the sources are, and the sources
tell which files they bind.
-/

import Foldback.CommandLine.Run

namespace Foldback

/-- The paths of the files whose first lines some source lines bind. -/
def filesBound (source : List String) : List String :=
  source.filterMap fun line =>
    match Directive.parse line with
    | some (.command "withfile" arguments) => (Call.binding? arguments).map (·.2)
    | _ => none

namespace CommandLine

/-- The paths that the work on a file may read. -/
def pathsOfFile (workspace : Workspace) (disk : Disk) (file : String) : List String :=
  let source := (workspace.readSource disk file).toOption.getD []
  workspace.sourcePath file :: workspace.targetPath file :: filesBound source

/-- The paths that a request may read, as far as the disk tells. -/
def pathsRead (options : Options) (disk : Disk) : List String :=
  let files := match options.request, openWorkspace options disk with
    | .files _ names, .ok workspace => names.flatMap (pathsOfFile workspace disk)
    | _, _ => []
  options.choices.config.toList ++ files

/-- How often the answer can grow: by the settings file, by the sources and by
what they bind. -/
def readStages : Nat := 3

end CommandLine

end Foldback
