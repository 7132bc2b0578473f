/-
The part of the TOML format that a settings file can use. Settings are strings
and lists of strings, so a document with any other kind of value, with a table
or with a dotted key is refused here just as a malformed one is.

A document is first cut into tokens. Strings have the four forms of the format:
basic and literal, on one line or on several. Comments and blanks vanish; line
ends count, since they end an entry.

Documents are read by a package outside of the program, whose rules are followed
here. No theorem of the library rests on them: those on settings begin with the lists
that were read.
-/

import Foldback.Text.CodePoint

namespace Foldback.Toml

open Text

/-- A token of a document. -/
inductive Token where
  /-- A bare key. -/
  | word (text : String)
  /-- A string, and whether it has the form for one line. -/
  | text (text : String) (oneLine : Bool)
  | equals
  | openList
  | closeList
  | comma
  | lineEnd
  deriving DecidableEq, Repr

/-- Whether a character may stand in a bare key. -/
def isBare (character : Char) : Bool :=
  character.isAlphanum || character == '_' || character == '-'

/-- Whether a character may stand in a comment or a string: all but the controls,
the tab excepted. -/
def isPlain (character : Char) : Bool :=
  character == '\t' || (0x20 ≤ character.toNat && character.toNat ≠ 0x7F)

/-- The character that a one-letter escape stands for. -/
def escapeLetter? : Char → Option Char
  | 'b' => some '\x08'
  | 't' => some '\t'
  | 'n' => some '\n'
  | 'f' => some '\x0c'
  | 'r' => some '\r'
  | '"' => some '"'
  | '\\' => some '\\'
  | _ => none

/-- Puts a bare character in front of the tokens behind it: it extends the bare
key that starts directly behind it. -/
def extendWord (character : Char) (adjacent : Bool) : List Token → List Token
  | .word text :: rest =>
    if adjacent then .word (String.singleton character ++ text) :: rest
    else .word (String.singleton character) :: .word text :: rest
  | rest => .word (String.singleton character) :: rest

mutual

/-- The tokens of a text outside of strings and comments. -/
def tokens : List Char → Option (List Token)
  | [] => some []
  | '\r' :: '\n' :: rest => (.lineEnd :: ·) <$> tokens rest
  | '\n' :: rest => (.lineEnd :: ·) <$> tokens rest
  | '#' :: rest => comment rest
  | '=' :: rest => (.equals :: ·) <$> tokens rest
  | '[' :: rest => (.openList :: ·) <$> tokens rest
  | ']' :: rest => (.closeList :: ·) <$> tokens rest
  | ',' :: rest => (.comma :: ·) <$> tokens rest
  | '"' :: '"' :: '"' :: '\r' :: '\n' :: rest => longBasic false [] rest
  | '"' :: '"' :: '"' :: '\n' :: rest => longBasic false [] rest
  | '"' :: '"' :: '"' :: rest => longBasic false [] rest
  | '"' :: rest => basic [] rest
  | '\'' :: '\'' :: '\'' :: '\r' :: '\n' :: rest => longLiteral [] rest
  | '\'' :: '\'' :: '\'' :: '\n' :: rest => longLiteral [] rest
  | '\'' :: '\'' :: '\'' :: rest => longLiteral [] rest
  | '\'' :: rest => literal [] rest
  | character :: rest =>
    if character == ' ' || character == '\t' then tokens rest
    else if isBare character then
      extendWord character (rest.head?.any isBare) <$> tokens rest
    else none
termination_by structural text => text

/-- The tokens behind a comment. -/
def comment : List Char → Option (List Token)
  | [] => some []
  | '\r' :: '\n' :: rest => (.lineEnd :: ·) <$> tokens rest
  | '\n' :: rest => (.lineEnd :: ·) <$> tokens rest
  | character :: rest => if isPlain character then comment rest else none
termination_by structural text => text

/-- The tokens from inside a literal string; its text so far is given backwards. -/
def literal (before : List Char) : List Char → Option (List Token)
  | [] => none
  | '\'' :: rest => (.text (String.ofList before.reverse) true :: ·) <$> tokens rest
  | character :: rest =>
    if isPlain character then literal (character :: before) rest else none
termination_by structural text => text

/-- The tokens from inside a literal string on several lines. -/
def longLiteral (before : List Char) : List Char → Option (List Token)
  | [] => none
  | '\'' :: '\'' :: '\'' :: '\'' :: '\'' :: rest =>
    (.text (String.ofList ('\'' :: '\'' :: before).reverse) false :: ·) <$> tokens rest
  | '\'' :: '\'' :: '\'' :: '\'' :: rest =>
    (.text (String.ofList ('\'' :: before).reverse) false :: ·) <$> tokens rest
  | '\'' :: '\'' :: '\'' :: rest =>
    (.text (String.ofList before.reverse) false :: ·) <$> tokens rest
  | '\r' :: '\n' :: rest => longLiteral ('\n' :: before) rest
  | '\n' :: rest => longLiteral ('\n' :: before) rest
  | character :: rest =>
    if isPlain character then longLiteral (character :: before) rest else none
termination_by structural text => text

/-- The tokens from inside a basic string. -/
def basic (before : List Char) : List Char → Option (List Token)
  | [] => none
  | '"' :: rest => (.text (String.ofList before.reverse) true :: ·) <$> tokens rest
  | '\\' :: rest => escape false before rest
  | character :: rest =>
    if isPlain character then basic (character :: before) rest else none
termination_by structural text => text

/-- The tokens from inside a basic string on several lines. Behind an escaped
line end, blanks and line ends are left out up to the next other character. -/
def longBasic (folding : Bool) (before : List Char) : List Char → Option (List Token)
  | [] => none
  | '"' :: '"' :: '"' :: '"' :: '"' :: rest =>
    (.text (String.ofList ('"' :: '"' :: before).reverse) false :: ·) <$> tokens rest
  | '"' :: '"' :: '"' :: '"' :: rest =>
    (.text (String.ofList ('"' :: before).reverse) false :: ·) <$> tokens rest
  | '"' :: '"' :: '"' :: rest =>
    (.text (String.ofList before.reverse) false :: ·) <$> tokens rest
  | '\\' :: rest => escape true before rest
  | '\r' :: '\n' :: rest =>
    if folding then longBasic true before rest else longBasic false ('\n' :: before) rest
  | '\n' :: rest =>
    if folding then longBasic true before rest else longBasic false ('\n' :: before) rest
  | character :: rest =>
    if folding && (character == ' ' || character == '\t') then longBasic true before rest
    else if isPlain character then longBasic false (character :: before) rest
    else none
termination_by structural text => text

/-- The tokens from behind a backslash in a basic string; `long` tells its form. -/
def escape (long : Bool) (before : List Char) : List Char → Option (List Token)
  | [] => none
  | 'u' :: rest => codePoint long before 4 0 rest
  | 'U' :: rest => codePoint long before 8 0 rest
  | '\r' :: '\n' :: rest => if long then longBasic true before rest else none
  | '\n' :: rest => if long then longBasic true before rest else none
  | character :: rest =>
    if character == ' ' || character == '\t' then
      if long then foldedLine before rest else none
    else
      match escapeLetter? character with
      | none => none
      | some meant =>
        if long then longBasic false (meant :: before) rest else basic (meant :: before) rest
termination_by structural text => text

/-- The tokens from inside a code point escape that still needs some digits. -/
def codePoint (long : Bool) (before : List Char) (needed code : Nat) :
    List Char → Option (List Token)
  | [] => none
  | character :: rest =>
    match hexDigit? character with
    | none => none
    | some digit =>
      if needed ≤ 1 then
        match scalar? (16 * code + digit) with
        | none => none
        | some meant =>
          if long then longBasic false (meant :: before) rest else basic (meant :: before) rest
      else codePoint long before (needed - 1) (16 * code + digit) rest
termination_by structural text => text

/-- The tokens from between a backslash and the line end that it escapes. -/
def foldedLine (before : List Char) : List Char → Option (List Token)
  | [] => none
  | '\r' :: '\n' :: rest => longBasic true before rest
  | '\n' :: rest => longBasic true before rest
  | character :: rest =>
    if character == ' ' || character == '\t' then foldedLine before rest else none
termination_by structural text => text

end

/-! ### Entries -/

/-- A value that a setting can have. -/
inductive Value where
  | text (text : String)
  | list (items : List String)
  deriving DecidableEq, Repr

mutual

/-- The entries of tokens that start a line. -/
def entries : List Token → Option (List (String × Value))
  | [] => some []
  | .lineEnd :: rest => entries rest
  | .word key :: .equals :: rest => entryValue key rest
  | .text key true :: .equals :: rest => entryValue key rest
  | _ => none

/-- The entry with a key, and the entries behind it. -/
def entryValue (key : String) : List Token → Option (List (String × Value))
  | .text text _ :: rest => ((key, .text text) :: ·) <$> entryEnd rest
  | .openList :: rest => listItem key [] rest
  | _ => none

/-- The entries behind a value, which must end its line. -/
def entryEnd : List Token → Option (List (String × Value))
  | [] => some []
  | .lineEnd :: rest => entries rest
  | _ => none

/-- Inside a list, where an item or the end may follow; the items so far are
given backwards. -/
def listItem (key : String) (items : List String) : List Token → Option (List (String × Value))
  | .lineEnd :: rest => listItem key items rest
  | .text text _ :: rest => listComma key (text :: items) rest
  | .closeList :: rest => ((key, .list items.reverse) :: ·) <$> entryEnd rest
  | _ => none

/-- Inside a list, behind an item. -/
def listComma (key : String) (items : List String) : List Token → Option (List (String × Value))
  | .lineEnd :: rest => listComma key items rest
  | .comma :: rest => listItem key items rest
  | .closeList :: rest => ((key, .list items.reverse) :: ·) <$> entryEnd rest
  | _ => none

end

/-- The text without the byte order mark that it may start with. -/
def withoutMark : List Char → List Char
  | '\ufeff' :: rest => rest
  | text => text

/-- The entries of a document, if all its values are strings and lists of strings. -/
def document (text : String) : Option (List (String × Value)) :=
  (tokens (withoutMark text.toList)).bind entries

end Foldback.Toml
