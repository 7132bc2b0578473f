/-
White space. The class is the whole White_Space property of the character
database: the separators of every width and the line breaks count, the zero
width characters do not. Category lists, rule texts and command arguments all
use this one class.
-/

import Foldback.Text.Ranges

namespace Foldback.Text

/-- The ranges of the White_Space property. -/
def blankRanges : List CodeRange :=
  [(0x09, 0x0D), (0x20, 0x20), (0x85, 0x85), (0xA0, 0xA0), (0x1680, 0x1680), (0x2000, 0x200A),
    (0x2028, 0x2029), (0x202F, 0x202F), (0x205F, 0x205F), (0x3000, 0x3000)]

/-- Whether a character is white space. -/
def isBlank (character : Char) : Bool :=
  inRanges blankRanges character

/-- A text without the white space at its two ends. -/
def trimBlanks (characters : List Char) : List Char :=
  ((characters.dropWhile isBlank).reverse.dropWhile isBlank).reverse

/-- A string without the white space at its two ends. -/
def trim (text : String) : String :=
  String.ofList (trimBlanks text.toList)

/-- Every character that the core library calls white space is blank. -/
theorem isBlank_of_isWhitespace (character : Char) (white : character.isWhitespace = true) :
    isBlank character = true := by
  simp only [Char.isWhitespace, Bool.or_eq_true, decide_eq_true_eq] at white
  rcases white with ((rfl | rfl) | rfl) | rfl <;> rfl

end Foldback.Text
