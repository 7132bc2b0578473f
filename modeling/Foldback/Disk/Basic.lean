/-
The disk: a tree of directories and files. A place in the tree is given by the
names that lead to it from the top; the top itself is always a directory. The
disk also knows the working directory, from which relative paths start.

The names `.` and `..` and the slash at the end of a path have their usual
meaning, and every refusal has the cause that a system of this kind reports
first: names are looked up from left to right.

There is nothing else on this disk: no link that leads elsewhere, no file that may
not be read or written, no device that is full or fails. What is said about disks is
said about trees of this kind.
-/

import Foldback.Disk.Path
import Foldback.Text.Lines

namespace Foldback

open Text

/-- What a file holds: text, or bytes that are not text. -/
inductive Content where
  | text (whole : String)
  | bytes (whole : List UInt8)
  deriving DecidableEq

/-- The content that some bytes make. -/
def Content.ofBytes (bytes : ByteArray) : Content :=
  match String.fromUTF8? bytes with
  | some whole => .text whole
  | none => .bytes bytes.toList

/-- A file or a directory. -/
inductive Node where
  | file (content : Content)
  | directory
  deriving DecidableEq

/-- A place in the tree: the names that lead to it from the top. -/
abbrev Location := List String

/-- A tree of files, seen from a working directory. -/
structure Disk where
  /-- What is where, besides the top. -/
  entries : List (Location × Node)
  /-- Where relative paths start. -/
  working : Location

namespace Disk

/-! ### Places -/

/-- What is at a place. -/
def node? (disk : Disk) (place : Location) : Option Node :=
  if place.isEmpty then some .directory else disk.entries.lookup place

/-- Puts a node at a place, instead of what may be there. -/
def put (disk : Disk) (place : Location) (node : Node) : Disk :=
  { disk with entries := (place, node) :: disk.entries.filter (·.1 != place) }

/-- Takes away what is at a place. -/
def drop (disk : Disk) (place : Location) : Disk :=
  { disk with entries := disk.entries.filter (·.1 != place) }

theorem node?_put_self (disk : Disk) {place : Location} (node : Node) (below : place ≠ []) :
    (disk.put place node).node? place = some node := by
  simp [node?, put, below]

theorem lookup_filter_other {entries : List (Location × Node)} {place other : Location}
    (different : other ≠ place) :
    (entries.filter (·.1 != place)).lookup other = entries.lookup other := by
  induction entries with
  | nil => rfl
  | cons entry rest inductionHypothesis =>
    obtain ⟨first, node⟩ := entry
    by_cases removed : first = place
    · subst removed
      have unequal : (other == first) = false := by simpa using different
      simp [List.lookup_cons, inductionHypothesis, unequal]
    · simp [removed, List.lookup_cons, inductionHypothesis]

theorem node?_put_other (disk : Disk) {place other : Location} (node : Node)
    (different : other ≠ place) : (disk.put place node).node? other = disk.node? other := by
  unfold node? put
  split
  · rfl
  · have unequal : (other == place) = false := by simpa using different
    simp only [List.lookup_cons, unequal]
    exact lookup_filter_other different

theorem put_put (disk : Disk) (place : Location) (first second : Node) :
    (disk.put place first).put place second = disk.put place second := by
  simp [put, List.filter_filter]

/-! ### Paths -/

/-- The place that some names lead to from another place. -/
def walk (disk : Disk) (place : Location) : List String → Except FileError Location
  | [] => .ok place
  | name :: rest =>
    if disk.node? place ≠ some .directory then .error .notDirectory
    else if name = ".." then disk.walk place.dropLast rest
    else if Path.longestName < name.utf8ByteSize then .error .nameTooLong
    else if (disk.node? (place ++ [name])).isSome then disk.walk (place ++ [name]) rest
    else .error .notFound

/-- Where a route starts. -/
def start (disk : Disk) (route : Path.Route) : Location :=
  if route.absolute then [] else disk.working

/-- What a path names. -/
def find (disk : Disk) (path : String) : Except FileError Node := do
  let route ← Path.route path
  let place ← disk.walk (disk.start route) route.names
  match disk.node? place with
  | some .directory => pure .directory
  | some (.file content) =>
    if route.directory then throw .notDirectory else pure (.file content)
  | none => throw .notFound

/-- Whether a path names anything. -/
def has (disk : Disk) (path : String) : Bool :=
  (disk.find path).isOk

/-! ### Reading -/

/-- The text of a file. -/
def read (disk : Disk) (path : String) : Except FileError String := do
  match ← disk.find path with
  | .directory => throw .isDirectory
  | .file (.bytes _) => throw .notText
  | .file (.text text) => pure text

/-- The lines of a file. -/
def readLines (disk : Disk) (path : String) : Except FileError (List String) :=
  linesOf <$> disk.read path

/-- The first line of a file, empty if there is none. -/
def firstLine (disk : Disk) (path : String) : Except FileError String :=
  firstLineOf <$> disk.read path

/-! ### Writing -/

/-- The place of a new or existing entry: the names before the last one lead to
a directory. The last name comes with it; a path that ends in `..` or `.` has
none, and a point needs a directory before it. -/
def slot (disk : Disk) (pointed : Bool) (base : Location) :
    List String → Except FileError (Location × Option String)
  | [] => .ok (base, none)
  | [name] =>
    if pointed then do
      let place ← disk.walk base [name]
      if disk.node? place = some .directory then pure (place, none) else throw .notDirectory
    else if disk.node? base ≠ some .directory then .error .notDirectory
    else if name = ".." then .ok (base, none)
    else .ok (base, some name)
  | name :: next :: rest => do
    let place ← disk.walk base [name]
    disk.slot pointed place (next :: rest)

/-- Creates one directory in a directory that is there. -/
def makeDirectory (disk : Disk) (pointed : Bool) (base : Location) (names : List String) :
    Except FileError Disk := do
  match ← disk.slot pointed base names with
  | (_, none) => throw .alreadyExists
  | (place, some name) =>
    if Path.longestName < name.utf8ByteSize then throw .nameTooLong
    else if (disk.node? (place ++ [name])).isSome then throw .alreadyExists
    else pure (disk.put (place ++ [name]) .directory)

/-- Whether names lead to a directory. -/
def leadsToDirectory (disk : Disk) (base : Location) (names : List String) : Bool :=
  match disk.walk base names with
  | .ok place => disk.node? place == some .directory
  | .error _ => false

/-- Creates a directory and the missing ones that lead to it; the names are
given from the last one on. The longest path is tried first, and a name that is
a directory already is no obstacle. What was created before a refusal stays. A
path that ends in a point is never created itself, as the point needs a
directory before it. -/
def makeDirectories (base : Location) :
    Bool → List String → Disk → Except FileError Unit × Disk
  | _, [], disk => (.ok (), disk)
  | pointed, last :: before, disk =>
    let settle (disk : Disk) (reason : FileError) : Except FileError Unit × Disk :=
      if disk.leadsToDirectory base (last :: before).reverse then (.ok (), disk)
      else (.error reason, disk)
    match disk.makeDirectory pointed base (last :: before).reverse with
    | .ok made => (.ok (), made)
    | .error .notFound =>
      match makeDirectories base false before disk with
      | (.error reason, partly) => (.error reason, partly)
      | (.ok (), prepared) =>
        match prepared.makeDirectory pointed base (last :: before).reverse with
        | .ok made => (.ok (), made)
        | .error reason => settle prepared reason
    | .error reason => settle disk reason

/-- Creates the directory of a path and the missing ones that lead to it. -/
def makePath (disk : Disk) (path : String) : Except FileError Unit × Disk :=
  if path.isEmpty then (.ok (), disk)
  else
    match Path.route path with
    | .error reason => (.error reason, disk)
    | .ok route => makeDirectories (disk.start route) route.pointed route.names.reverse disk

/-- The place of a file that is opened for writing: the directory is there, and the file is there
or can be. -/
def opened (disk : Disk) (path : String) : Except FileError Location := do
  let route ← Path.route path
  match ← disk.slot route.pointed (disk.start route) route.names with
  | (_, none) => throw .isDirectory
  | (place, some name) =>
    if route.directory then throw .isDirectory
    else if Path.longestName < name.utf8ByteSize then throw .nameTooLong
    else if disk.node? (place ++ [name]) = some .directory then throw .isDirectory
    else pure (place ++ [name])

/-- Writes a file into a directory that is there. -/
def write (disk : Disk) (path : String) (content : Content) : Except FileError Disk :=
  (disk.opened path).map fun place => disk.put place (.file content)

/-- The directory that a file needs: its parent, if the path names one. -/
def makeParent (disk : Disk) (path : String) : Except FileError Unit × Disk :=
  match Path.parent? path with
  | none => (.ok (), disk)
  | some parent => disk.makePath parent

/-- The disk with a file and the directories that lead to it, as far as they can
be made. -/
def deposit (disk : Disk) (path : String) (content : Content) : Disk :=
  let (_, prepared) := disk.makeParent path
  (prepared.write path content).toOption.getD prepared

/-- The disk without the file that a path names; directories stay. -/
def remove (disk : Disk) (path : String) : Disk :=
  match disk.find path, Path.route path with
  | .ok (.file _), .ok route =>
    match disk.walk (disk.start route) route.names with
    | .ok place => disk.drop place
    | .error _ => disk
  | _, _ => disk

/-! ### Views -/

/-- A disk that holds nothing but the directories that lead to a working
directory. -/
def around (working : Location) : Disk :=
  ⟨(List.range working.length).map fun above => (working.take (above + 1), .directory), working⟩

/-- An empty working directory. -/
def empty : Disk := around ["work"]

/-- The nodes that differ from those of an earlier disk, the oldest first. -/
def changesSince (after before : Disk) : List (Location × Node) :=
  after.entries.reverse.filter fun (place, node) => before.node? place ≠ some node

/-- What is below the working directory, with the names that lead there. -/
def listing (disk : Disk) : List (Location × Node) :=
  disk.entries.filterMap fun (place, node) =>
    if disk.working.isPrefixOf place ∧ place ≠ disk.working then
      some (place.drop disk.working.length, node)
    else none

end Disk

end Foldback
