/-
Filling a line. A delimiter is cut out where the first one stands: none begins
before it, not even one that would end with its first character. A line without a
delimiter holds no placeholder, and filling leaves it as it is under any bindings.
-/

import Mathlib.Data.List.Infix
import Foldback.Template.Placeholder

namespace Foldback.Placeholder

theorem cutDelimiter_eq_some {text before behind : List Char}
    (cut : cutDelimiter text = some (before, behind)) : text = before ++ '@' :: '@' :: behind := by
  fun_induction cutDelimiter text generalizing before behind with
  | case1 => cases cut
  | case2 rest =>
    cases cut
    rfl
  | case3 character rest _ uncut => simp_all
  | case4 character rest _ first second inner inductionHypothesis =>
    cases cut
    rw [inductionHypothesis inner]
    rfl

theorem cutDelimiter_eq_none {text : List Char} (plain : ¬['@', '@'] <:+: text) :
    cutDelimiter text = none := by
  cases cut : cutDelimiter text with
  | none => rfl
  | some parts =>
    obtain ⟨before, behind⟩ := parts
    refine absurd ⟨before, behind, ?_⟩ plain
    rw [cutDelimiter_eq_some cut, List.append_assoc]
    rfl

/-- A character at which no delimiter begins is passed over. -/
theorem cutDelimiter_cons {character : Char} {rest : List Char}
    (apart : ¬['@', '@'] <+: character :: rest) :
    cutDelimiter (character :: rest) =
      (cutDelimiter rest).map fun (before, behind) => (character :: before, behind) := by
  rw [cutDelimiter]
  · cases cutDelimiter rest <;> rfl
  · rintro onward rfl rfl
    exact apart ⟨onward, rfl⟩

/-- A text that is not cut has no delimiter. -/
theorem plain_of_cutDelimiter {text : List Char} (uncut : cutDelimiter text = none) :
    ¬['@', '@'] <:+: text := by
  induction text with
  | nil => simp
  | cons character rest inductionHypothesis =>
    by_cases begins : ['@', '@'] <+: character :: rest
    · obtain ⟨onward, whole⟩ := begins
      rw [← whole] at uncut
      cases uncut
    · rw [cutDelimiter_cons begins, Option.map_eq_none_iff] at uncut
      rw [List.infix_cons_iff, not_or]
      exact ⟨begins, inductionHypothesis uncut⟩

/-- Whether a delimiter begins at a character in front of another one is seen from the first
character of that one. -/
theorem delimiter_prefix_iff (character : Char) (between behind : List Char) :
    ['@', '@'] <+: character :: (between ++ '@' :: '@' :: behind) ↔
      ['@', '@'] <+: character :: (between ++ ['@']) := by
  cases between <;> simp [List.cons_prefix_cons]

/-- The delimiter that is cut out is the first one. -/
theorem leftmost_of_cutDelimiter {text before behind : List Char}
    (cut : cutDelimiter text = some (before, behind)) : ¬['@', '@'] <:+: before ++ ['@'] := by
  induction text generalizing before with
  | nil => cases cut
  | cons character rest inductionHypothesis =>
    by_cases begins : ['@', '@'] <+: character :: rest
    · obtain ⟨onward, whole⟩ := begins
      rw [← whole] at cut
      cases cut
      exact fun inside => absurd inside.length_le (by decide)
    · rw [cutDelimiter_cons begins] at cut
      obtain ⟨⟨first, second⟩, inner, parts⟩ := Option.map_eq_some_iff.mp cut
      cases parts
      rw [List.cons_append, List.infix_cons_iff, not_or]
      refine ⟨fun early => begins ?_, inductionHypothesis inner⟩
      rw [cutDelimiter_eq_some inner]
      exact (delimiter_prefix_iff _ _ _).mpr early

/-- Where the first delimiter stands, the text is cut. -/
theorem cutDelimiter_of_leftmost {before : List Char} (leftmost : ¬['@', '@'] <:+: before ++ ['@'])
    (behind : List Char) : cutDelimiter (before ++ '@' :: '@' :: behind) = some (before, behind) := by
  induction before with
  | nil => rfl
  | cons character rest inductionHypothesis =>
    rw [List.cons_append, List.infix_cons_iff, not_or] at leftmost
    have apart : ¬['@', '@'] <+: character :: (rest ++ '@' :: '@' :: behind) :=
      fun early => leftmost.1 ((delimiter_prefix_iff character rest behind).mp early)
    rw [List.cons_append, cutDelimiter_cons apart, inductionHypothesis leftmost.2]
    rfl

/-- A line without a delimiter is left as it is. -/
theorem substitute_of_plain (lookup : String → Option String) {line : String}
    (plain : ¬['@', '@'] <:+: line.toList) : substitute lookup line = line := by
  have unchanged : fill lookup line.toList = line.toList := by
    rw [fill]
    split
    · rfl
    · rename_i before opened cut
      rw [cutDelimiter_eq_none plain] at cut
      cases cut
  rw [substitute, unchanged, String.ofList_toList]

end Foldback.Placeholder
