/-
The written form of filters: rules with commas between them. A rule is a limit,
a start of a topic name, or a start with a limit behind an equals sign. A pair
of brackets, alone or behind the start, asks for a span by its name, for a field
in braces, or for both; the field may have a value behind an equals sign, which
is a number or a pattern. Rules that cannot be read are left out and reported.

The marks between the parts of a rule are sought in the rule without the blanks
around it. The parts themselves are then taken from the rule as it is written,
between the same distances in bytes from its beginning. So blanks at the end
belong to the last part, and blanks at the beginning move all parts.

Filters are read by a package outside of the program, whose rules are followed here;
no theorem of the library rests on them.
-/

import Foldback.Console.Filter.Basic
import Foldback.Pattern.Support
import Foldback.Text.Blank
import Foldback.Text.Cut
import Foldback.Text.Word

namespace Foldback.Console.Filter

open Text

/-! ### Limits -/

/-- The names of the limits in the order of their ranks. -/
def limitNames : List String := ["off", "error", "warn", "info", "debug", "trace"]

/-- The number that digits denote, behind a plus sign or not. -/
def number? (text : String) : Option Nat :=
  let digits := match text.toList with
    | '+' :: rest => rest
    | whole => whole
  if !digits.isEmpty && digits.all Char.isDigit then
    some (digits.foldl (fun value digit => 10 * value + (digit.toNat - '0'.toNat)) 0)
  else none

/-- The limit that a text names, by a word in any case or by its rank. -/
def limit? (text : String) : Option Nat :=
  match number? text with
  | some rank => if rank < limitNames.length then some rank else none
  | none => limitNames.findIdx? (· == text.toLower)

/-! ### Values -/

/-- Whether a text is empty or an exponent: a letter, a sign or none, and digits. -/
def isExponent : List Char → Bool
  | [] => true
  | letter :: rest =>
    let digits := match rest with
      | '+' :: digits | '-' :: digits => digits
      | digits => digits
    letter.toLower == 'e' && !digits.isEmpty && digits.all Char.isDigit

/-- Whether a text is a number without a sign: digits, perhaps with a point among
or around them and an exponent, or a word for what is no finite number. -/
def isNumber (text : List Char) : Bool :=
  let whole := text.takeWhile Char.isDigit
  let (fraction, rest) := match text.dropWhile Char.isDigit with
    | '.' :: behind => (behind.takeWhile Char.isDigit, behind.dropWhile Char.isDigit)
    | rest => ([], rest)
  !(whole ++ fraction).isEmpty && isExponent rest ||
    ["inf", "infinity", "nan"].contains (String.ofList (text.map Char.toLower))

/-- What is wrong with a value, if anything is. It is a number, which may have a
plus sign, or a pattern; every number without a plus sign is a pattern too. -/
def valueFault? : List Char → Option Pattern.Fault
  | '+' :: rest => if isNumber rest then none else Pattern.fault? ('+' :: rest)
  | text => Pattern.fault? text

/-! ### Faults -/

/-- Why a rule cannot be read. -/
inductive Fault where
  /-- It does not have the form of a rule. -/
  | malformed
  /-- The value of its field is neither a number nor a pattern that can be used. -/
  | badValue (fault : Pattern.Fault)
  /-- The text behind its equals sign is not a limit. -/
  | badLimit
  deriving DecidableEq, Repr

/-- The message for a rule that is left out. -/
def Fault.message (fault : Fault) (text : String) : String :=
  let reason := match fault with
    | .malformed => "invalid filter directive"
    | .badValue fault => "invalid field filter: " ++ fault.message
    | .badLimit =>
      "error parsing level filter: expected one of \"off\", \"error\", \"warn\", " ++
        "\"info\", \"debug\", \"trace\", or a number 0-5"
  "ignoring \x60" ++ text ++ "\x60: " ++ reason

/-! ### Parts of a rule -/

/-- What is still to be read of a rule: its bytes without the blanks around the
rule, in which marks are sought, and those of the rule as it is written. -/
structure Rest where
  shape : List UInt8
  written : List UInt8
  deriving DecidableEq, Repr

namespace Rest

/-- A whole rule. -/
def ofText (text : String) : Rest :=
  ⟨(trim text).toUTF8.toList, text.toUTF8.toList⟩

/-- The text of some bytes. A part that begins or ends inside a character is none. -/
def part (bytes : List UInt8) : Except Fault String :=
  match String.fromUTF8? ⟨bytes.toArray⟩ with
  | some text => .ok text
  | none => .error .malformed

/-- What follows a mark, if the rest starts with it. -/
def skip (rest : Rest) (mark : Char) : Option Rest :=
  match rest.shape with
  | [] => none
  | byte :: shape => if byte = mark.toUInt8 then some ⟨shape, rest.written.drop 1⟩ else none

/-- The part before the first one of some marks, the mark and what follows it;
without a mark the part is all that is left. -/
def cut (rest : Rest) (marks : List Char) : Except Fault (String × Option (Char × Rest)) :=
  let before := rest.shape.takeWhile fun byte => !marks.any (·.toUInt8 == byte)
  match rest.shape.drop before.length with
  | [] => do pure (← part rest.written, none)
  | mark :: shape => do
    pure (← part (rest.written.take before.length),
      some (Char.ofNat mark.toNat, ⟨shape, rest.written.drop (before.length + 1)⟩))

end Rest

/-! ### Rules -/

/-- Whether a rule may start with a character, besides a bracket. -/
def startsRule (character : Char) : Bool :=
  isWordChar character || character == '-' || character == ':'

/-- Reads a limit; without a text it is the widest one. -/
def readLimit (rest : Rest) : Except Fault Nat := do
  let text ← Rest.part rest.written
  if text.isEmpty then pure widest
  else
    match limit? text with
    | some limit => pure limit
    | none => throw .badLimit

/-- Reads what follows a closing bracket: nothing, or an equals sign and a limit. -/
def readBehind (rest : Rest) : Except Fault Nat :=
  if rest.shape.isEmpty then .ok widest
  else
    match rest.skip '=' with
    | some behind => readLimit behind
    | none => .error .malformed

/-- Reads a field. Behind a second equals sign it may hold anything. -/
def readField (text : String) : Except Fault Field :=
  if text.isEmpty then .error .malformed
  else
    match cutAt '=' text.toList with
    | some (name, behind) =>
      match valueFault? (behind.takeWhile (· != '=')) with
      | none => .ok ⟨String.ofList name, true⟩
      | some fault => .error (.badValue fault)
    | none => .ok ⟨text, false⟩

/-- Reads a rule behind its opening bracket. -/
def readBrackets (start : String) (rest : Rest) : Except Fault Rule := do
  match ← rest.cut [']', '\x7b'] with
  | (_, none) => throw .malformed
  | (span, some (']', behind)) => pure ⟨start, some span, none, ← readBehind behind⟩
  | (span, some (_, inside)) =>
    match ← inside.cut ['\x7d'] with
    | (_, none) => throw .malformed
    | (text, some (_, closing)) =>
      let field ← readField text
      match closing.skip ']' with
      | none => throw .malformed
      | some behind =>
        pure ⟨start, if span.isEmpty then none else some span, some field, ← readBehind behind⟩

/-- Reads a rule. -/
def readRule (text : String) : Except Fault Rule := do
  let rest := Rest.ofText text
  match rest.skip '[' with
  | some inside => readBrackets "" inside
  | none =>
    if !(trim text).toList.head?.any startsRule then throw .malformed
    else
      match ← rest.cut ['=', '['] with
      | (start, some ('=', behind)) => pure ⟨start, none, none, ← readLimit behind⟩
      | (start, some (_, inside)) => readBrackets start inside
      | (whole, none) =>
        match limit? whole with
        | some limit => pure ⟨"", none, none, limit⟩
        | none => pure ⟨whole, none, none, widest⟩

/-! ### Filters -/

/-- The rules of a filter text, as they are written. -/
def parts (text : String) : List String :=
  ((text.toList.splitOn ',').map String.ofList).filter (!·.isEmpty)

/-- Reads a filter, with a message for every rule that is left out. A text
without any rule stands for the given limit. -/
def read (limit : Nat) (text : String) : Filter × List String :=
  let results := (parts text).map fun part => (part, readRule part)
  let rules := results.filterMap (·.2.toOption)
  let faults := results.filterMap fun (part, result) =>
    match result with
    | .error fault => some (fault.message part)
    | .ok _ => none
  (if rules.isEmpty then upTo limit else ⟨rules⟩, faults)

end Foldback.Console.Filter
