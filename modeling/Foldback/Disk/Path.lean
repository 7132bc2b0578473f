/-
Paths as they are written. A path is a text whose names are separated by
slashes; it is absolute when it starts with one. The operations here work on
the text alone; what a path names is for the disk to say.
-/

import Foldback.Disk.Error

namespace Foldback.Path

/-- The pieces of a path between its slashes, empty ones included. -/
def pieces (path : String) : List String :=
  (path.toList.splitOn '/').map String.ofList

/-- Whether a path starts at the top of the file system. -/
def isAbsolute (path : String) : Bool :=
  path.toList.head? == some '/'

/-- Whether a piece leads nowhere else: it is empty or a single point. -/
def isIdle (piece : String) : Bool :=
  piece.isEmpty || piece == "."

/-- A path below another one. An absolute path stands for itself. -/
def join (base path : String) : String :=
  if isAbsolute path || base.isEmpty then path
  else if base.toList.getLast? == some '/' then base ++ path
  else base ++ "/" ++ path

/-- Pieces from the last one on, without the idle ones at their end. The first
piece of a path is never idle. -/
def dropIdle : List String → List String
  | last :: before :: more =>
    if isIdle last then dropIdle (before :: more) else last :: before :: more
  | pieces => pieces

/-- The path of the directory that holds what a path names; the empty path if
that is where the path starts. A path without a last name has none. -/
def parent? (path : String) : Option String :=
  match dropIdle (pieces path).reverse with
  | [] => none
  | [only] => if only.isEmpty then none else some ""
  | _ :: before =>
    let kept := dropIdle before
    if kept == [""] then some "/" else some ("/".intercalate kept.reverse)

/-! ### Routes -/

/-- A path taken apart: where it starts, which names it goes through, whether it
insists on a directory at its end, and whether a single point follows its last
name. -/
structure Route where
  absolute : Bool
  names : List String
  directory : Bool
  pointed : Bool
  deriving DecidableEq, Repr

/-- The number of bytes that a whole path may have. -/
def longestPath : Nat := 4095

/-- The number of bytes that one name may have. -/
def longestName : Nat := 255

/-- The route of a path. -/
def route (path : String) : Except FileError Route :=
  if path.toList.contains '\x00' then .error .nulInPath
  else if path.isEmpty then .error .notFound
  else if longestPath < path.utf8ByteSize then .error .nameTooLong
  else
    let parts := pieces path
    .ok ⟨isAbsolute path, parts.filter (!isIdle ·), parts.getLast?.any isIdle,
      (parts.filter (!·.isEmpty)).getLast? == some "."⟩

end Foldback.Path
