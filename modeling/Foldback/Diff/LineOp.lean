/-
Line operations, an alignment of lines flattened to one operation per line. A
changed chunk first replaces line by line as far as both sides reach, then
inserts what is left of the new side or deletes what is left of the old one.
-/

import Foldback.Diff.Chunk

namespace Foldback.Diff

/-- What an edit does to one line. -/
inductive LineOp where
  /-- The line stays; its text is carried. -/
  | equal (text : String)
  /-- A new line comes in; its text is carried. -/
  | insert (text : String)
  /-- The line goes; its text is carried. -/
  | delete (text : String)
  /-- The line is replaced; the new text is carried. -/
  | replace (text : String)
  deriving DecidableEq, Repr

namespace LineOp

/-- The kind of an operation. -/
def kind : LineOp → RunKind
  | .equal _ => .equal
  | .insert _ => .insert
  | .delete _ => .delete
  | .replace _ => .replace

/-- The text that an operation carries. -/
def text : LineOp → String
  | .equal text | .insert text | .delete text | .replace text => text

/-- The operations of a chunk of lines. -/
def ofChunk : Chunk String → List LineOp
  | .same lines => lines.map .equal
  | .changed old new =>
    let paired := min old.length new.length
    (new.take paired).map .replace ++ (new.drop paired).map .insert ++
      (old.drop paired).map .delete

end LineOp

/-- The operations that turn the old lines into the new ones. -/
def lineOps (old new : List String) : List LineOp :=
  (chunks old new).flatMap LineOp.ofChunk

end Foldback.Diff
