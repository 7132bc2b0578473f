/-
The written form of patterns. A pattern is read character by character; what
follows a character is looked at where its meaning depends on it. A counted
repetition, a class by property and a look at the text around are no patterns
here: the first two need a closing brace or a table, and the last is no regular
expression.

These are rules of a package outside of the program, which are followed here; no
theorem of the library rests on them.
-/

import Foldback.Pattern.Basic
import Foldback.Text.Blank
import Foldback.Text.CodePoint
import Foldback.Text.Letter

namespace Foldback.Pattern

open Text

/-! ### The state of the reading -/

/-- A set that is being read. -/
structure OpenSet where
  negated : Bool
  /-- What the last operator joins to what follows. -/
  left : Option Members
  /-- The elements since then, the last one first. -/
  elements : List Members

/-- A group that is being read, or the whole pattern. -/
structure OpenGroup where
  /-- The switches of its head. -/
  switches : Switches
  /-- Whether the text around it is verbose. -/
  verboseAround : Bool
  /-- The alternatives that are complete, the last one first. -/
  branches : List Pattern
  /-- The parts of the current alternative, the last one first. -/
  parts : List Pattern

/-- Where an element that begins with a backslash stands. -/
inductive Place where
  | outside
  /-- In a set. -/
  | element
  /-- At the end of a range. -/
  | rangeEnd (first : Pattern)

/-- How far the reading of the front of a set is. -/
inductive Front where
  /-- Behind the bracket that opens it. -/
  | bracket
  /-- Behind the caret that negates it. -/
  | caret
  /-- Behind the hyphens that it starts with. -/
  | hyphens
  deriving DecidableEq, Repr

/-- Where the reading of a pattern is. -/
inductive Stage where
  /-- Between the parts of a pattern. -/
  | between
  /-- Right behind a repetition. -/
  | repeated
  /-- Behind an opening parenthesis. -/
  | head
  /-- In the name of a group, the last character first. -/
  | name (before : List Char)
  /-- In the switches of a group, which may be turned off, perhaps right before. -/
  | switches (before : Switches) (off dangling : Bool)
  /-- Behind a backslash. -/
  | escape (place : Place)
  /-- In a code point that needs some more digits. -/
  | digits (place : Place) (byte : Bool) (needed code : Nat)
  /-- At the front of a set. -/
  | front (front : Front)
  /-- Between the elements of a set. -/
  | elements
  /-- Behind an element of a set, which may yet start a range. -/
  | behind (first : Pattern)
  /-- Behind the hyphen of a range. -/
  | hyphen (first : Pattern)
  /-- In front of characters that are known already. -/
  | skip (count : Nat) (next : Stage)
  /-- In a comment. -/
  | comment (next : Stage)

/-- The state of the reading of a pattern. -/
structure Reading where
  /-- The innermost open group. -/
  group : OpenGroup
  /-- The groups around it, the innermost one first. -/
  around : List OpenGroup
  /-- The open sets, the innermost one first. -/
  sets : List OpenSet
  /-- The names of the groups so far. -/
  names : List (List Char)
  verbose : Bool
  stage : Stage

/-- What has been read of a set. -/
def OpenSet.members (set : OpenSet) : Members :=
  let right := joinAll .empty .union set.elements.reverse
  match set.left with
  | none => right
  | some left => .joined left right

/-- The current alternative of a group. -/
def OpenGroup.branch (group : OpenGroup) : Pattern :=
  joinAll .empty .sequence group.parts.reverse

/-- What has been read of a group. -/
def OpenGroup.inner (group : OpenGroup) : Pattern :=
  joinAll .empty .alternatives (group.branch :: group.branches).reverse

namespace Reading

/-- The start of a reading. -/
def start : Reading :=
  { group := ⟨[], false, [], []⟩, around := [], sets := [], names := [], verbose := false,
    stage := .between }

/-- The reading, moved to another stage. -/
def moveTo (reading : Reading) (stage : Stage) : Reading :=
  { reading with stage }

/-! ### Groups -/

/-- Adds a part to the innermost group. -/
def addPart (reading : Reading) (part : Pattern) : Reading :=
  { reading with
    group := { reading.group with parts := part :: reading.group.parts }, stage := .between }

/-- Opens a group. -/
def openGroup (reading : Reading) (switches : Switches) : Reading :=
  { reading with
    group := ⟨switches, reading.verbose, [], []⟩, around := reading.group :: reading.around,
    verbose := switches.position .verbose reading.verbose, stage := .between }

/-- Closes the innermost group. -/
def closeGroup (reading : Reading) : Option Reading :=
  match reading.around with
  | [] => none
  | outer :: around =>
    let closed : Pattern := .group reading.group.switches reading.group.inner
    some { reading with
      group := { outer with parts := closed :: outer.parts }, around,
      verbose := reading.group.verboseAround, stage := .between }

/-- Ends the current alternative. -/
def endBranch (reading : Reading) : Reading :=
  { reading with
    group := { reading.group with
      branches := reading.group.branch :: reading.group.branches, parts := [] },
    stage := .between }

/-- Repeats the last part. A place that sets switches cannot be repeated. -/
def repeatPart (reading : Reading) : Option Reading :=
  match reading.group.parts with
  | [] | .setting _ :: _ => none
  | last :: parts =>
    some { reading with
      group := { reading.group with parts := .repetition last :: parts }, stage := .repeated }

/-- Sets switches for what follows in the innermost group. -/
def apply (reading : Reading) (switches : Switches) : Reading :=
  { reading.addPart (.setting switches) with
    verbose := switches.position .verbose reading.verbose }

/-! ### Sets -/

/-- Opens a set. -/
def openSet (reading : Reading) : Reading :=
  { reading with sets := ⟨false, none, []⟩ :: reading.sets, stage := .front .bracket }

/-- Changes the innermost set. -/
def changeSet (reading : Reading) (change : OpenSet → OpenSet) : Reading :=
  match reading.sets with
  | [] => reading
  | innermost :: around => { reading with sets := change innermost :: around }

/-- Adds an element to the innermost set. -/
def addElement (reading : Reading) (element : Members) : Reading :=
  (reading.changeSet fun current => { current with elements := element :: current.elements }).moveTo
    .elements

/-- Joins what has been read of the innermost set to what follows. -/
def joinSet (reading : Reading) : Reading :=
  reading.changeSet fun current => { current with left := some current.members, elements := [] }

/-- Closes the innermost set. -/
def closeSet (reading : Reading) : Option Reading :=
  match reading.sets with
  | [] => none
  | [only] => some ({ reading with sets := [] }.addPart (.set only.negated only.members))
  | inner :: around =>
    some ({ reading with sets := around }.addElement (.nested inner.negated inner.members))

/-- What a pattern is as an element of a set. -/
def element? : Pattern → Option Members
  | .literal character _ => some (.literal character)
  | .shorthand letter => some (.shorthand letter)
  | _ => none

/-- Puts an element where it was written. -/
def put (reading : Reading) (place : Place) (element : Pattern) : Option Reading :=
  match place with
  | .outside => some (reading.addPart element)
  | .element => some (reading.moveTo (.behind element))
  | .rangeEnd first =>
    match first, element with
    | .literal low _, .literal high _ =>
      if low ≤ high then some (reading.addElement (.range low high)) else none
    | _, _ => none

/-! ### Looking ahead -/

/-- The names of the classes of ASCII characters. -/
def classNames : List String :=
  ["alnum", "alpha", "ascii", "blank", "cntrl", "digit", "graph", "lower", "print", "punct",
    "space", "upper", "word", "xdigit"]

/-- The named class behind a bracket: whether it is negated, and the number of
its characters behind the bracket. -/
def namedClass? : List Char → Option (Bool × Nat)
  | ':' :: rest =>
    let (negated, behind) := match rest with
      | '^' :: behind => (true, behind)
      | behind => (false, behind)
    let name := behind.takeWhile (· != ':')
    match behind.dropWhile (· != ':') with
    | ':' :: ']' :: _ =>
      if classNames.contains (String.ofList name) then
        some (negated, name.length + (if negated then 4 else 3))
      else none
    | _ => none
  | _ => none

/-- The first character that is neither a blank nor the first sign of a comment. -/
def shown (inComment : Bool) : List Char → Option Char
  | [] => none
  | character :: rest =>
    if isBlank character then shown inComment rest
    else if character == '#' && !inComment then shown true rest
    else some character

/-- Whether a hyphen with this text behind it makes a range. -/
def makesRange (reading : Reading) (rest : List Char) : Bool :=
  let next := if reading.verbose then shown false rest else rest.head?
  next != some ']' && next != some '-'

/-! ### Steps -/

/-- Goes on between the parts of a pattern. -/
def part (reading : Reading) : Char → Option Reading
  | '(' => some (reading.moveTo .head)
  | ')' => reading.closeGroup
  | '|' => some reading.endBranch
  | '[' => some reading.openSet
  | '\x7b' => none
  | '*' | '+' | '?' => reading.repeatPart
  | '\\' => some (reading.moveTo (.escape .outside))
  | '.' => some (reading.addPart .any)
  | '^' | '$' => some (reading.addPart .anchor)
  | character => some (reading.addPart (.literal character false))

/-- Goes on behind an opening parenthesis. -/
def inHead (reading : Reading) (character : Char) (rest : List Char) : Option Reading :=
  if character == '?' then
    some (reading.moveTo (match rest with
      | 'P' :: '<' :: _ => .skip 2 (.name [])
      | '<' :: _ => .skip 1 (.name [])
      | _ => .switches [] false false))
  else ({ reading with stage := .between }.openGroup []).part character

/-- Goes on in the name of a group. Names differ from each other. -/
def inName (reading : Reading) (before : List Char) (character : Char) : Option Reading :=
  if character == '>' then
    if before.isEmpty || reading.names.contains before then none
    else some { reading.openGroup [] with names := before :: reading.names }
  else if character == '_' || isLetter character ||
      !before.isEmpty && (isAlphanumeric character || ['.', '[', ']'].contains character) then
    some (reading.moveTo (.name (character :: before)))
  else none

/-- Goes on in the switches of a group. Each one is set only once. -/
def inSwitches (reading : Reading) (before : Switches) (off dangling : Bool) :
    Char → Option Reading
  | ':' => if dangling then none else some (reading.openGroup before)
  | ')' => if dangling || before.isEmpty then none else some (reading.apply before)
  | '-' => if off then none else some (reading.moveTo (.switches before true true))
  | letter =>
    match Switch.ofLetter? letter with
    | none => none
    | some switch =>
      if (List.lookup switch before).isSome then none
      else some (reading.moveTo (.switches ((switch, !off) :: before) off false))

/-- Goes on behind a backslash. -/
def inEscape (reading : Reading) (place : Place) : Char → Option Reading
  | 'x' => some (reading.moveTo (.digits place true 2 0))
  | 'u' => some (reading.moveTo (.digits place false 4 0))
  | 'U' => some (reading.moveTo (.digits place false 8 0))
  | 'a' => reading.put place (.literal '\x07' false)
  | 'f' => reading.put place (.literal '\x0c' false)
  | 't' => reading.put place (.literal '\t' false)
  | 'n' => reading.put place (.literal '\n' false)
  | 'r' => reading.put place (.literal '\r' false)
  | 'v' => reading.put place (.literal '\x0b' false)
  | 'A' | 'z' => reading.put place .anchor
  | 'b' | 'B' | '<' | '>' => reading.put place .wordEdge
  | character =>
    if ['d', 's', 'w', 'D', 'S', 'W'].contains character then
      reading.put place (.shorthand character)
    else if character.toNat < 0x80 && !character.isAlphanum then
      reading.put place (.literal character false)
    else none

/-- Goes on in a code point. -/
def inDigits (reading : Reading) (place : Place) (byte : Bool) (needed code : Nat)
    (character : Char) : Option Reading := do
  let digit ← hexDigit? character
  let grown := 16 * code + digit
  if needed ≤ 1 then reading.put place (.literal (← scalar? grown) byte)
  else pure (reading.moveTo (.digits place byte (needed - 1) grown))

/-- Goes on between the elements of a set. -/
def inElements (reading : Reading) (character : Char) (rest : List Char) : Option Reading :=
  if character == '[' then
    match namedClass? rest with
    | some (negated, count) =>
      some ((reading.addElement (.named negated)).moveTo (.skip count .elements))
    | none => some reading.openSet
  else if character == ']' then reading.closeSet
  else if ['&', '-', '~'].contains character && rest.head? == some character then
    some (reading.joinSet.moveTo (.skip 1 .elements))
  else if character == '\\' then some (reading.moveTo (.escape .element))
  else some (reading.moveTo (.behind (.literal character false)))

/-- Goes on at the front of a set. -/
def inFront (reading : Reading) (front : Front) (character : Char) (rest : List Char) :
    Option Reading :=
  if front = .bracket && character == '^' then
    some ((reading.changeSet fun current => { current with negated := true }).moveTo (.front .caret))
  else if front ≠ .hyphens && character == ']' then some (reading.addElement (.literal ']'))
  else if character == '-' then
    some ((reading.addElement (.literal '-')).moveTo (.front .hyphens))
  else reading.inElements character rest

/-- Goes on behind an element of a set. -/
def inBehind (reading : Reading) (first : Pattern) (character : Char) (rest : List Char) :
    Option Reading :=
  if character == '-' && reading.makesRange rest then some (reading.moveTo (.hyphen first))
  else do
    let element ← element? first
    (reading.addElement element).inElements character rest

/-- Goes on behind the hyphen of a range. -/
def inHyphen (reading : Reading) (first : Pattern) (character : Char) : Option Reading :=
  if character == '\\' then some (reading.moveTo (.escape (.rangeEnd first)))
  else reading.put (.rangeEnd first) (.literal character false)

/-- Goes on with a character, at a stage where no blank has been skipped. -/
def meaning (reading : Reading) (character : Char) (rest : List Char) : Option Reading :=
  match reading.stage with
  | .between => reading.part character
  | .repeated => if character == '?' then some (reading.moveTo .between) else reading.part character
  | .head => reading.inHead character rest
  | .name before => reading.inName before character
  | .switches before off dangling => reading.inSwitches before off dangling character
  | .escape place => reading.inEscape place character
  | .digits place byte needed code => reading.inDigits place byte needed code character
  | .front front => reading.inFront front character rest
  | .elements => reading.inElements character rest
  | .behind first => reading.inBehind first character rest
  | .hyphen first => reading.inHyphen first character
  | .skip count next => some (reading.moveTo (if count ≤ 1 then next else .skip (count - 1) next))
  | .comment next => some (if character == '\n' then reading.moveTo next else reading)

/-- The stage behind a blank or a comment, where these are skipped. -/
def Stage.behindBlank? : Stage → Option Stage
  | .repeated => some .between
  | .name _ | .switches _ _ _ | .escape _ | .skip _ _ | .comment _ => none
  | stage => some stage

/-- Goes on with a character. -/
def step (reading : Reading) (character : Char) (rest : List Char) : Option Reading :=
  match if reading.verbose then Stage.behindBlank? reading.stage else none with
  | none => reading.meaning character rest
  | some stage =>
    if isBlank character then some (reading.moveTo stage)
    else if character == '#' then some (reading.moveTo (.comment stage))
    else reading.meaning character rest

/-- Goes on with the rest of a text. -/
def run (reading : Reading) : List Char → Option Reading
  | [] => some reading
  | character :: rest =>
    match reading.step character rest with
    | none => none
    | some next => next.run rest

/-- The pattern, if it is complete. -/
def pattern? (reading : Reading) : Option Pattern :=
  match reading.stage, reading.around with
  | .between, [] | .repeated, [] | .comment .between, [] => some reading.group.inner
  | _, _ => none

end Reading

/-- Reads a pattern. -/
def read (text : List Char) : Option Pattern :=
  (Reading.start.run text).bind (·.pattern?)

end Foldback.Pattern
