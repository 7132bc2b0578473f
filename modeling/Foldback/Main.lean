/-
The program. The files that a request may read are copied from the system to a
disk, the request is performed on that disk, and the files that it has changed
are copied back.
-/

import Foldback.CommandLine.Reads

namespace Foldback.CommandLine

/-- The path of a place in the system. -/
def systemPath (place : Location) : String :=
  "/" ++ "/".intercalate place

/-- Copies what some names lead through to the disk. -/
def observeNames (disk : Disk) (place : Location) : List String → IO Disk
  | [] => return disk
  | ".." :: rest => observeNames disk place.dropLast rest
  | name :: rest => do
    let here := place ++ [name]
    let path := (← IO.currentDir) / systemPath here
    if ← path.isDir then observeNames (disk.put here .directory) here rest
    else if ← path.pathExists then
      return disk.put here (.file (.ofBytes (← IO.FS.readBinFile path)))
    else return disk

/-- Copies what a path leads through to the disk. -/
def observe (disk : Disk) (path : String) : IO Disk :=
  match Path.route path with
  | .error _ => return disk
  | .ok route => observeNames disk (disk.start route) route.names

/-- Copies what a request may read to the disk. -/
def observeAll (options : Options) (disk : Disk) : IO Disk := do
  let mut seen := disk
  for _ in List.range readStages do
    seen ← (pathsRead options seen).foldlM observe seen
  return seen

/-- Copies a node from the disk to the system. -/
def restore (entry : Location × Node) : IO Unit :=
  match entry with
  | (place, .directory) => IO.FS.createDirAll (systemPath place)
  | (place, .file (.text text)) => IO.FS.writeFile (systemPath place) text
  | (place, .file (.bytes bytes)) => IO.FS.writeBinFile (systemPath place) ⟨bytes.toArray⟩

/-- The part of the environment that the console looks at. -/
def readEnvironment : IO Environment := do
  let filter ← IO.getEnv "RUST_LOG"
  let plain ← IO.getEnv "NO_COLOR"
  return ⟨filter.getD "", !(plain.getD "").isEmpty⟩

/-- The disk for a command line. -/
def readDisk (arguments : List String) : IO Disk := do
  let working := (Path.pieces (← IO.currentDir).toString).filter (!·.isEmpty)
  match read arguments with
  | .ok options => observeAll options (.around working)
  | .error _ => return .around working

end Foldback.CommandLine

open Foldback CommandLine in
/-- Runs the program on the system. -/
def main (arguments : List String) : IO UInt32 := do
  let environment ← readEnvironment
  let disk ← readDisk arguments
  let execution := runProgram environment arguments disk
  (execution.disk.changesSince disk).forM restore
  IO.print execution.output
  IO.eprint execution.errors
  return execution.exitCode
