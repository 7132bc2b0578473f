/-
The unified form of a difference: two header lines that name the sides, then
every hunk under a line that gives its range on both sides. A range counts
lines from one; a range of one line is given by its number alone, and an empty
range by the number of the line before it. Equal sequences have an empty form.
-/

import Foldback.Diff.Hunk

namespace Foldback.Diff

/-- The number of unchanged lines shown around a change. -/
def contextSize : Nat := 3

/-- The range of a hunk on one side. -/
def rangeText (start count : Nat) : String :=
  match count with
  | 0 => s!"{start},0"
  | 1 => s!"{start + 1}"
  | count => s!"{start + 1},{count}"

/-- The lines of one chunk, each behind its mark. -/
def Chunk.unifiedLines : Chunk String → List String
  | .same lines => lines.map (" " ++ ·)
  | .changed old new => old.map ("-" ++ ·) ++ new.map ("+" ++ ·)

/-- The line that introduces a hunk. -/
def Hunk.header (hunk : Hunk String) : String :=
  s!"@@ -{rangeText hunk.oldStart hunk.old.length} " ++
    s!"+{rangeText hunk.newStart hunk.new.length} @@"

/-- The lines of a hunk, its introduction first. -/
def Hunk.unifiedLines (hunk : Hunk String) : List String :=
  hunk.header :: hunk.body.flatMap Chunk.unifiedLines

/-- The lines of the unified form. -/
def unifiedLines (old new : List String) (oldName newName : String) : List String :=
  match hunks contextSize old new with
  | [] => []
  | shown => ("--- " ++ oldName) :: ("+++ " ++ newName) :: shown.flatMap Hunk.unifiedLines

/-- The unified form of the difference between two line lists. -/
def unified (old new : List String) (oldName newName : String) : String :=
  String.join ((unifiedLines old new oldName newName).map (· ++ "\n"))

end Foldback.Diff
