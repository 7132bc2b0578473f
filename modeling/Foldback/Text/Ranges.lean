/-
Character classes as data. A class of the character database is kept as the
ascending list of its closed code point ranges, and a character belongs to the
class when one of the ranges covers it. The tables themselves stand in modules
named for the property they hold.
-/

namespace Foldback.Text

/-- A closed range of code points, first and last. -/
abbrev CodeRange := Nat × Nat

/-- Whether a range covers a code point. -/
def CodeRange.covers (range : CodeRange) (code : Nat) : Bool :=
  range.1 ≤ code && code ≤ range.2

/-- Whether some range of a class covers the character. -/
def inRanges (ranges : List CodeRange) (character : Char) : Bool :=
  ranges.any fun range => range.covers character.toNat

theorem inRanges_iff (ranges : List CodeRange) (character : Char) :
    inRanges ranges character = true ↔
      ∃ range ∈ ranges, range.1 ≤ character.toNat ∧ character.toNat ≤ range.2 := by
  simp [inRanges, CodeRange.covers]

end Foldback.Text
