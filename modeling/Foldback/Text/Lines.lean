/-
Lines of a text. A line feed ends a line, and a carriage return directly before
the line feed belongs to the terminator. What stands after the last line feed
is a line of its own unless it is empty. Writing puts a bare line feed after
every line.
-/

namespace Foldback.Text

/-- The lines of a text, without their terminators. -/
def cutLines : List Char → List (List Char)
  | [] => []
  | '\r' :: '\n' :: rest => [] :: cutLines rest
  | '\n' :: rest => [] :: cutLines rest
  | character :: rest =>
    match cutLines rest with
    | [] => [[character]]
    | line :: more => (character :: line) :: more

/-- The text that holds the lines, each ended by a line feed. -/
def joinLines (lines : List (List Char)) : List Char :=
  lines.flatMap (· ++ ['\n'])

/-- The lines of a string. -/
def linesOf (text : String) : List String :=
  (cutLines text.toList).map String.ofList

/-- The string that holds the lines, each ended by a line feed. -/
def ofLines (lines : List String) : String :=
  String.ofList (joinLines (lines.map String.toList))

/-- The first line of a string, empty if there is none. -/
def firstLineOf (text : String) : String :=
  (linesOf text).head?.getD ""

theorem cutLines_nil : cutLines [] = [] := by
  rw [cutLines]

theorem cutLines_feed (rest : List Char) : cutLines ('\n' :: rest) = [] :: cutLines rest := by
  rw [cutLines]

theorem cutLines_return_feed (rest : List Char) :
    cutLines ('\r' :: '\n' :: rest) = [] :: cutLines rest := by
  rw [cutLines]

end Foldback.Text
