/-
Directive lines. A line is a directive when it starts with one of the marks
`"`, `!` and `#`, directly followed by `@` and at least one more character; the
mark lets a directive hide in the comment syntax of the file that is templated.
A directive is a comment, an escaped line, which stands for the line with one
`@` less, or a command.

`escape` writes a line so that it is read back as itself and never as a
command.
-/

import Foldback.Text.Cut

namespace Foldback

open Text

/-- The meaning of a directive line. -/
inductive Directive where
  /-- The line says nothing. -/
  | comment
  /-- The line stands for another text. -/
  | escaped (text : String)
  /-- The line runs a command. -/
  | command (name arguments : String)
  deriving DecidableEq, Repr

namespace Directive

/-- The characters that may start a directive. -/
def isMark (character : Char) : Bool :=
  character == '"' || character == '!' || character == '#'

/-- The directive with a given mark and a given text behind `@`. -/
def classify (mark : Char) : List Char → Option Directive
  | [] => none
  | '#' :: _ => some .comment
  | '@' :: literal => some (.escaped (String.ofList (mark :: '@' :: literal)))
  | rest =>
    match cutAt ' ' rest with
    | none => some (.command (String.ofList rest) "")
    | some (name, arguments) =>
      some (.command (String.ofList name) (String.ofList arguments))

/-- The directive that the characters of a line are, if they are one. -/
def read : List Char → Option Directive
  | mark :: '@' :: rest => if isMark mark then classify mark rest else none
  | _ => none

/-- The directive that a line is, if it is one. -/
def parse (line : String) : Option Directive :=
  read line.toList

/-- The characters of a line with the `@` of a directive doubled. -/
def escapeChars : List Char → List Char
  | mark :: '@' :: rest => if isMark mark then mark :: '@' :: '@' :: rest else mark :: '@' :: rest
  | line => line

/-- The line that is read back as the given text. -/
def escape (line : String) : String :=
  String.ofList (escapeChars line.toList)

/-- Whether a line starts with a mark and `@`, with or without more text. -/
def isMarked (line : String) : Bool :=
  match line.toList with
  | mark :: '@' :: _ => isMark mark
  | _ => false

end Directive

end Foldback
