/-
Characters that are written by their code point in hexadecimal digits.
-/

namespace Foldback.Text

/-- The value of a hexadecimal digit. -/
def hexDigit? (character : Char) : Option Nat :=
  if '0' ≤ character ∧ character ≤ '9' then some (character.toNat - '0'.toNat)
  else if 'a' ≤ character ∧ character ≤ 'f' then some (character.toNat - 'a'.toNat + 10)
  else if 'A' ≤ character ∧ character ≤ 'F' then some (character.toNat - 'A'.toNat + 10)
  else none

/-- The character with a code point. -/
def scalar? (code : Nat) : Option Char :=
  if code.isValidChar then some (Char.ofNat code) else none

/-- The character whose code point some digits give. -/
def ofCodePoint? (digits : List Char) : Option Char := do
  let values ← digits.mapM hexDigit?
  scalar? (values.foldl (fun code value => 16 * code + value) 0)

/-- A character in range is the character of its own code point. -/
theorem scalar?_toNat (character : Char) : scalar? character.toNat = some character := by
  have valid : character.toNat.isValidChar := character.valid
  rw [scalar?, if_pos valid, Char.ofNat_toNat]

end Foldback.Text
