/-
Placeholders. A placeholder is a name between two `@@` delimiters. Filling a
line replaces every placeholder whose name is bound by its value and leaves all
other text alone; a value is never looked at again. When a name is not bound,
only the delimiter before it is settled: the one behind it may still open the
next placeholder.
-/

namespace Foldback.Placeholder

/-- The parts before and behind the first delimiter. -/
def cutDelimiter : List Char → Option (List Char × List Char)
  | [] => none
  | '@' :: '@' :: rest => some ([], rest)
  | character :: rest =>
    match cutDelimiter rest with
    | none => none
    | some (before, behind) => some (character :: before, behind)

theorem length_of_cutDelimiter {text before behind : List Char}
    (cut : cutDelimiter text = some (before, behind)) :
    text.length = before.length + behind.length + 2 := by
  fun_induction cutDelimiter text generalizing before behind with
  | case1 => cases cut
  | case2 rest =>
    cases cut
    simp
  | case3 character rest _ uncut => simp_all
  | case4 character rest _ first second inner inductionHypothesis =>
    cases cut
    have shorter := inductionHypothesis inner
    simp only [List.length_cons]
    omega

/-- The characters of a line with every bound placeholder filled. -/
def fill (lookup : String → Option String) (text : List Char) : List Char :=
  match _opening : cutDelimiter text with
  | none => text
  | some (before, opened) =>
    match _closing : cutDelimiter opened with
    | none => before ++ '@' :: '@' :: opened
    | some (name, closed) =>
      match lookup (String.ofList name) with
      | some value => before ++ value.toList ++ fill lookup closed
      | none => before ++ '@' :: '@' :: fill lookup opened
termination_by text.length
decreasing_by
  · have outer := length_of_cutDelimiter _opening
    have inner := length_of_cutDelimiter _closing
    omega
  · have outer := length_of_cutDelimiter _opening
    omega

/-- A line with every bound placeholder filled. -/
def substitute (lookup : String → Option String) (line : String) : String :=
  String.ofList (fill lookup line.toList)

end Foldback.Placeholder
