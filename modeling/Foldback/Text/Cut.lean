/-
Cutting a text at the first place where a separator stands. The separator is a
character here; the two parts around it are kept whole.
-/

namespace Foldback.Text

/-- The parts before and behind the first occurrence of a character. -/
def cutAt (separator : Char) : List Char → Option (List Char × List Char)
  | [] => none
  | character :: rest =>
    if character = separator then some ([], rest)
    else
      match cutAt separator rest with
      | none => none
      | some (before, behind) => some (character :: before, behind)

theorem cutAt_eq_some {separator : Char} {text before behind : List Char}
    (cut : cutAt separator text = some (before, behind)) :
    text = before ++ separator :: behind ∧ separator ∉ before := by
  induction text generalizing before with
  | nil => cases cut
  | cons character rest inductionHypothesis =>
    simp only [cutAt] at cut
    split at cut
    · rename_i found
      cases cut
      exact ⟨by rw [found]; rfl, List.not_mem_nil⟩
    · rename_i other
      split at cut
      · cases cut
      · rename_i first second inner
        cases cut
        obtain ⟨whole, free⟩ := inductionHypothesis inner
        refine ⟨by rw [whole]; rfl, ?_⟩
        rw [List.mem_cons, not_or]
        exact ⟨fun same => other same.symm, free⟩

theorem cutAt_eq_none {separator : Char} {text : List Char} (uncut : cutAt separator text = none) :
    separator ∉ text := by
  induction text with
  | nil => exact List.not_mem_nil
  | cons character rest inductionHypothesis =>
    simp only [cutAt] at uncut
    split at uncut
    · cases uncut
    · rename_i other
      split at uncut
      · rename_i inner
        rw [List.mem_cons, not_or]
        exact ⟨fun same => other same.symm, inductionHypothesis inner⟩
      · cases uncut

end Foldback.Text
