/-
Quoted texts and characters as they stand in messages. The quote of the form,
the backslash and the four named controls are escaped by a letter; every
character that is unprintable or an extender is written by its code point in
lower case hexadecimal digits; all others stand as they are.
-/

import Foldback.Text.Printable
import Foldback.Text.Extender

namespace Foldback.Text

/-- A code point escape. -/
def codeEscape (character : Char) : List Char :=
  ['\\', 'u', '\x7b'] ++ Nat.toDigits 16 character.toNat ++ ['\x7d']

/-- One character of a quoted form whose quote is `quote`. -/
def quoteChar (quote character : Char) : List Char :=
  if character = '\x00' then ['\\', '0']
  else if character = '\t' then ['\\', 't']
  else if character = '\r' then ['\\', 'r']
  else if character = '\n' then ['\\', 'n']
  else if character = '\\' ∨ character = quote then ['\\', character]
  else if isExtender character || !isPrintable character then codeEscape character
  else [character]

/-- A text in double quotes. -/
def quotedText (text : String) : String :=
  String.ofList ('"' :: text.toList.flatMap (quoteChar '"') ++ ['"'])

/-- A character in single quotes. -/
def quotedCharacter (character : Char) : String :=
  String.ofList ('\'' :: quoteChar '\'' character ++ ['\''])

end Foldback.Text
