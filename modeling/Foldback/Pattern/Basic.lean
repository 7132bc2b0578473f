/-
Patterns, the regular expressions that may be asked of the value of a field. No
value is ever matched here, so a pattern keeps no more than its form: what is
in it, how it is nested, and where it sets the switches that change the meaning
of what follows.

Patterns belong to a package outside of the program. Its rules are followed here as
far as they say whether a filter is taken, and no theorem of the library rests on
them.
-/

namespace Foldback

namespace Pattern

/-- A switch that a group or a place of its own can set. -/
inductive Switch where
  /-- Letters stand for both cases. -/
  | ignoreCase
  /-- The ends of lines are anchors too. -/
  | multiLine
  /-- The point stands for line ends too. -/
  | dotAll
  /-- Repetitions are lazy unless they are marked. -/
  | swapGreed
  /-- Characters are meant, and not bytes. -/
  | unicode
  /-- Line ends may be written with a carriage return. -/
  | lineEnds
  /-- Blanks and comments may stand between the elements. -/
  | verbose
  deriving DecidableEq, Repr

/-- The switch with a letter. -/
def Switch.ofLetter? : Char → Option Switch
  | 'i' => some .ignoreCase
  | 'm' => some .multiLine
  | 's' => some .dotAll
  | 'U' => some .swapGreed
  | 'u' => some .unicode
  | 'R' => some .lineEnds
  | 'x' => some .verbose
  | _ => none

/-- Switches with the position that each is set to. -/
abbrev Switches := List (Switch × Bool)

/-- The position of a switch: the one it is set to, or else the one it had. -/
def Switches.position (switches : Switches) (switch : Switch) (before : Bool) : Bool :=
  (List.lookup switch switches).getD before

/-- What stands between the brackets of a set. -/
inductive Members where
  | empty
  | literal (character : Char)
  | range (low high : Char)
  /-- A class of ASCII characters by its name. -/
  | named (negated : Bool)
  /-- A class by a letter, negated if it is a capital one. -/
  | shorthand (letter : Char)
  /-- A set in brackets of its own. -/
  | nested (negated : Bool) (members : Members)
  /-- Elements beside each other. -/
  | union (elements : List Members)
  /-- The two sides of an operator. -/
  | joined (left right : Members)

end Pattern

/-- A pattern. -/
inductive Pattern where
  | empty
  /-- A place that sets switches for what follows it in its group. -/
  | setting (switches : Pattern.Switches)
  /-- A character that stands for itself; `byte` if it is written by the two digits of a byte. -/
  | literal (character : Char) (byte : Bool)
  /-- The point, which stands for any character. -/
  | any
  /-- An end of the text or of a line. -/
  | anchor
  /-- The edge of a word, or a place that is none. -/
  | wordEdge
  /-- A class by a letter, negated if it is a capital one. -/
  | shorthand (letter : Char)
  | set (negated : Bool) (members : Pattern.Members)
  /-- A group, with the switches that its head sets. -/
  | group (switches : Pattern.Switches) (inner : Pattern)
  | repetition (inner : Pattern)
  | sequence (parts : List Pattern)
  | alternatives (branches : List Pattern)

namespace Pattern

/-! ### Depth -/

mutual

/-- How deep the members of a set are nested. -/
def Members.depth : Members → Nat
  | .nested _ members => members.depth + 1
  | .union elements => Members.depthOfAll elements + 1
  | .joined left right => max left.depth right.depth + 1
  | .empty | .literal _ | .range _ _ | .named _ | .shorthand _ => 0

/-- The greatest depth among some elements of a set. -/
def Members.depthOfAll : List Members → Nat
  | [] => 0
  | first :: rest => max first.depth (Members.depthOfAll rest)

end

mutual

/-- How deep a pattern is nested. -/
def depth : Pattern → Nat
  | .set _ members => members.depth + 1
  | .group _ inner => inner.depth + 1
  | .repetition inner => inner.depth + 1
  | .sequence parts => depthOfAll parts + 1
  | .alternatives branches => depthOfAll branches + 1
  | .empty | .setting _ | .literal _ _ | .any | .anchor | .wordEdge | .shorthand _ => 0

/-- The greatest depth among some patterns. -/
def depthOfAll : List Pattern → Nat
  | [] => 0
  | first :: rest => max first.depth (depthOfAll rest)

end

/-- The elements of a list as one element: the only one, or all of them joined. -/
def joinAll {element : Type} (none : element) (join : List element → element) :
    List element → element
  | [] => none
  | [only] => only
  | several => join several

end Pattern

end Foldback
