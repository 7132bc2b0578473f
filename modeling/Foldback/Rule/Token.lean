/-
Tokens of a rule text and the scanner. A rule text is cut into atoms, the two
doubled operators, the negation mark and the parentheses; white space separates
tokens and is otherwise dropped. Each token carries the byte offset at which it
starts in the UTF-8 form of the text.

The scanner recurses on the characters. An atom is built from its end: a
character that may stand in an atom extends the atom that starts directly
behind it, and begins an atom of its own when none does.
-/

import Foldback.Text.Blank

namespace Foldback.Rule

open Text

/-- A token of the rule language. -/
inductive Token where
  /-- A category name. -/
  | atom (name : String)
  /-- The disjunction `||`. -/
  | or
  /-- The conjunction `&&`. -/
  | and
  /-- The negation `!`. -/
  | not
  /-- An opening parenthesis. -/
  | openParen
  /-- A closing parenthesis. -/
  | closeParen
  deriving DecidableEq, Repr

/-- The text of a token, as it stands in a rule. -/
def Token.text : Token → String
  | .atom name => name
  | .or => "||"
  | .and => "&&"
  | .not => "!"
  | .openParen => "("
  | .closeParen => ")"

/-- A token and the byte offset at which it starts. -/
structure Placed where
  token : Token
  position : Nat
  deriving DecidableEq, Repr

/-- A character with which no token starts, and its byte offset. A single `|` or
`&` is such a character too. -/
structure BadCharacter where
  position : Nat
  character : Char
  deriving DecidableEq, Repr

/-- Whether a character may stand in an atom. -/
def isAtomChar (character : Char) : Bool :=
  character.isAlphanum || character == '.' || character == '_' || character == '-'

/-- Puts an atom character in front of the tokens that follow it: the atom that
starts at `next`, directly behind the character, is extended; otherwise the
character is an atom. -/
def extendAtom (position next : Nat) (character : Char) : List Placed → List Placed
  | ⟨.atom name, start⟩ :: rest =>
    if start = next then ⟨.atom (String.singleton character ++ name), position⟩ :: rest
    else ⟨.atom (String.singleton character), position⟩ :: ⟨.atom name, start⟩ :: rest
  | rest => ⟨.atom (String.singleton character), position⟩ :: rest

/-- The token that one character makes. -/
def singleToken? : Char → Option Token
  | '!' => some .not
  | '(' => some .openParen
  | ')' => some .closeParen
  | _ => none

/-- The tokens of the characters that start at a byte offset. -/
def scanFrom (position : Nat) : List Char → Except BadCharacter (List Placed)
  | [] => .ok []
  | '|' :: '|' :: rest => (⟨.or, position⟩ :: ·) <$> scanFrom (position + 2) rest
  | '&' :: '&' :: rest => (⟨.and, position⟩ :: ·) <$> scanFrom (position + 2) rest
  | character :: rest =>
    let next := position + character.utf8Size
    if isBlank character then scanFrom next rest
    else if isAtomChar character then extendAtom position next character <$> scanFrom next rest
    else
      match singleToken? character with
      | some token => (⟨token, position⟩ :: ·) <$> scanFrom next rest
      | none => .error ⟨position, character⟩

/-- The tokens of a rule text. -/
def scan (text : String) : Except BadCharacter (List Placed) :=
  scanFrom 0 text.toList

theorem scanFrom_nil (position : Nat) : scanFrom position [] = .ok [] := by
  rw [scanFrom]

end Foldback.Rule
