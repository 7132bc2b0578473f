/-
Escaping takes the danger out of a text. A text that starts with a mark and `@`
is escaped to a line that stands for it; any other text is its own escaped form
and is no directive at all. Either way the escaped form is never silent: it
neither runs a command nor vanishes as a comment.

The silent lines of a source, its commands and comments, are what the blocks of
a pass hang on. That no escaped text is among them is the reason why lines can
be put into a source without moving a block.
-/

import Foldback.Template.Directive

namespace Foldback.Directive

open Text

/-! ### Marked texts -/

theorem isMarked_iff {text : String} :
    isMarked text = true ↔
      ∃ mark rest, isMark mark = true ∧ text.toList = mark :: '@' :: rest := by
  unfold isMarked
  split
  · rename_i mark rest spelled
    constructor
    · intro marked
      exact ⟨mark, rest, marked, spelled⟩
    · rintro ⟨other, otherRest, marked, otherSpelled⟩
      rw [spelled] at otherSpelled
      cases otherSpelled
      exact marked
  · rename_i unspelled
    constructor
    · intro absurdity
      cases absurdity
    · rintro ⟨mark, rest, _, spelled⟩
      exact absurd spelled (unspelled mark rest)

theorem toList_escape (text : String) : (escape text).toList = escapeChars text.toList :=
  String.toList_ofList

/-- A marked text is escaped to a line that stands for it. -/
theorem parse_escape_of_marked {text : String} (marked : isMarked text = true) :
    parse (escape text) = some (.escaped text) := by
  obtain ⟨mark, rest, isMark, spelled⟩ := isMarked_iff.mp marked
  have written : (escape text).toList = mark :: '@' :: '@' :: rest := by
    rw [toList_escape, spelled, escapeChars, if_pos isMark]
  have named : String.ofList (mark :: '@' :: rest) = text := by
    rw [← spelled, String.ofList_toList]
  rw [parse, written, read, if_pos isMark, classify, named]

theorem isMark_of_unmarked {text : String} {mark : Char} {rest : List Char}
    (unmarked : isMarked text = false) (spelled : text.toList = mark :: '@' :: rest) :
    ¬isMark mark = true := by
  unfold isMarked at unmarked
  rw [spelled] at unmarked
  rw [show isMark mark = false from unmarked]
  exact Bool.false_ne_true

/-- An unmarked text is its own escaped form. -/
theorem escape_of_unmarked {text : String} (unmarked : isMarked text = false) :
    escape text = text := by
  have unchanged : escapeChars text.toList = text.toList := by
    unfold escapeChars
    split
    · rename_i mark rest spelled
      rw [if_neg (isMark_of_unmarked unmarked spelled), spelled]
    · rfl
  rw [escape, unchanged, String.ofList_toList]

/-- An unmarked text is no directive. -/
theorem parse_of_unmarked {text : String} (unmarked : isMarked text = false) :
    parse text = none := by
  unfold parse read
  split
  · rename_i mark rest spelled
    rw [if_neg (isMark_of_unmarked unmarked spelled)]
  · rfl

/-- What an escaped text is read back as. -/
theorem parse_escape (text : String) :
    parse (escape text) = if isMarked text then some (.escaped text) else none := by
  cases marked : isMarked text with
  | true => exact parse_escape_of_marked marked
  | false =>
    rw [escape_of_unmarked marked, parse_of_unmarked marked]
    rfl

/-! ### Silent lines -/

/-- The name and the arguments of the command that a line is, if it is one. -/
def call? (text : String) : Option (String × String) :=
  match parse text with
  | some (.command name arguments) => some (name, arguments)
  | _ => none

theorem parse_of_call {text name arguments : String}
    (called : call? text = some (name, arguments)) :
    parse text = some (.command name arguments) := by
  unfold call? at called
  split at called
  · cases called
    assumption
  · cases called

/-- Whether a line is a command or a comment. -/
def isSilent (text : String) : Bool :=
  match parse text with
  | some .comment | some (.command _ _) => true
  | some (.escaped _) | none => false

/-- The commands of a source in order. -/
def calls (source : List String) : List (String × String) :=
  source.filterMap call?

/-- The commands and comments of a source in order. -/
def silentLines (source : List String) : List String :=
  source.filter isSilent

theorem isSilent_escape (text : String) : isSilent (escape text) = false := by
  unfold isSilent
  rw [parse_escape]
  cases isMarked text <;> rfl

theorem silentLines_cons_of_not_silent {text : String} (loud : isSilent text = false)
    (rest : List String) : silentLines (text :: rest) = silentLines rest :=
  List.filter_cons_of_neg (by rw [loud]; exact Bool.false_ne_true)

theorem silentLines_cons_congr (text : String) {first second : List String}
    (same : silentLines first = silentLines second) :
    silentLines (text :: first) = silentLines (text :: second) := by
  unfold silentLines at same ⊢
  rw [List.filter_cons, List.filter_cons, same]

theorem call?_eq_none_of_not_silent {text : String} (loud : isSilent text = false) :
    call? text = none := by
  unfold isSilent at loud
  unfold call?
  split at loud <;> simp_all

/-- The commands of a source are those of its silent lines. -/
theorem calls_silentLines (source : List String) : calls (silentLines source) = calls source := by
  induction source with
  | nil => rfl
  | cons text rest inductionHypothesis =>
    cases silent : isSilent text with
    | true =>
      unfold calls silentLines at inductionHypothesis ⊢
      rw [List.filter_cons_of_pos silent, List.filterMap_cons, List.filterMap_cons,
        inductionHypothesis]
    | false =>
      rw [silentLines_cons_of_not_silent silent, inductionHypothesis, calls, calls,
        List.filterMap_cons_none (call?_eq_none_of_not_silent silent)]

/-- Sources with the same silent lines run the same commands. -/
theorem calls_eq_of_silentLines_eq {first second : List String}
    (same : silentLines first = silentLines second) : calls first = calls second := by
  rw [← calls_silentLines first, same, calls_silentLines]

end Foldback.Directive
