/-
Lines and the texts that hold them. The lines that are cut from a text hold no
line feed. Lines without a line feed can be told apart again in the text that
holds them if it is cut at the bare line feeds. The cut that takes a carriage
return before a line feed for a part of the terminator finds them as well, but
each without the carriage return that it may end with.

Lines cut from a text may end with a carriage return: the last one, if the text
does not end it, and one in front of a terminator that has a carriage return of
its own.
-/

import Mathlib.Data.List.Infix
import Foldback.Text.Lines

namespace Foldback.Text

/-- A text of one line: no line feed stands in it. -/
def OneLine (text : String) : Prop :=
  '\n' ∉ text.toList

instance (text : String) : Decidable (OneLine text) := by
  unfold OneLine
  infer_instance

theorem mem_of_mem_intercalate {α : Type} {separator : List α} {parts : List (List α)} {item : α}
    (member : item ∈ separator.intercalate parts) :
    item ∈ separator ∨ ∃ part ∈ parts, item ∈ part := by
  induction parts with
  | nil => cases member
  | cons first rest inductionHypothesis =>
    cases rest with
    | nil =>
      rw [List.intercalate_singleton] at member
      exact .inr ⟨first, List.mem_cons_self, member⟩
    | cons second rest =>
      rw [List.intercalate_cons_cons, List.mem_append, List.mem_append] at member
      rcases member with (inFirst | inSeparator) | later
      · exact .inr ⟨first, List.mem_cons_self, inFirst⟩
      · exact .inl inSeparator
      · rcases inductionHypothesis later with inSeparator | ⟨part, listed, inside⟩
        · exact .inl inSeparator
        · exact .inr ⟨part, List.mem_cons_of_mem first listed, inside⟩

theorem map_ofList_toList (texts : List String) :
    (texts.map String.toList).map String.ofList = texts := by
  rw [List.map_map]
  exact (List.map_congr_left fun text _ => String.ofList_toList).trans (List.map_id texts)

theorem ofLines_eq_join (lines : List String) :
    ofLines lines = String.join (lines.map (· ++ "\n")) := by
  unfold ofLines joinLines
  rw [← String.toList_inj, String.toList_join, String.toList_ofList, List.flatMap_map,
    List.flatMap_map]
  simp

/-! ### Cutting at bare line feeds -/

theorem joinLines_eq_intercalate (lines : List (List Char)) :
    joinLines lines = ['\n'].intercalate (lines ++ [[]]) := by
  induction lines with
  | nil => rfl
  | cons line rest inductionHypothesis =>
    have nonempty : rest ++ [[]] ≠ [] := List.append_ne_nil_of_right_ne_nil _ (List.cons_ne_nil _ _)
    rw [List.cons_append, List.intercalate_cons_of_ne_nil nonempty, ← inductionHypothesis]
    rfl

theorem splitOn_joinLines {lines : List (List Char)} (single : ∀ line ∈ lines, '\n' ∉ line) :
    (joinLines lines).splitOn '\n' = lines ++ [[]] := by
  rw [joinLines_eq_intercalate]
  refine List.splitOn_intercalate '\n' (fun line member => ?_)
    (List.append_ne_nil_of_right_ne_nil _ (List.cons_ne_nil _ _))
  rcases List.mem_append.mp member with listed | last
  · exact single line listed
  · rw [List.mem_singleton.mp last]
    exact List.not_mem_nil

/-! ### Cutting at terminators -/

/-- A character that does not begin a terminator stands in front of the first line. -/
theorem cutLines_cons {character : Char} {rest : List Char} (plain : character ≠ '\n')
    (unterminated : ∀ behind, character = '\r' → rest ≠ '\n' :: behind) :
    cutLines (character :: rest) =
      (character :: (cutLines rest).headD []) :: (cutLines rest).tail := by
  rw [cutLines]
  · cases cutLines rest <;> rfl
  · exact unterminated
  · exact plain

theorem feed_not_mem_of_mem_cutLines (text : List Char) : ∀ line ∈ cutLines text, '\n' ∉ line := by
  fun_induction cutLines text with
  | case1 => exact fun line member => nomatch member
  | case2 rest inductionHypothesis =>
    exact List.forall_mem_cons.mpr ⟨List.not_mem_nil, inductionHypothesis⟩
  | case3 rest inductionHypothesis =>
    exact List.forall_mem_cons.mpr ⟨List.not_mem_nil, inductionHypothesis⟩
  | case4 character rest _ other cut inductionHypothesis =>
    refine List.forall_mem_cons.mpr ⟨?_, fun line member => nomatch member⟩
    rw [List.mem_singleton]
    exact fun same => other same.symm
  | case5 character rest _ other line more cut inductionHypothesis =>
    rw [cut] at inductionHypothesis
    obtain ⟨first, later⟩ := List.forall_mem_cons.mp inductionHypothesis
    refine List.forall_mem_cons.mpr ⟨?_, later⟩
    rw [List.mem_cons, not_or]
    exact ⟨fun same => other same.symm, first⟩

theorem oneLine_of_mem_linesOf {text line : String} (member : line ∈ linesOf text) :
    OneLine line := by
  obtain ⟨characters, cut, rfl⟩ := List.mem_map.mp member
  unfold OneLine
  rw [String.toList_ofList]
  exact feed_not_mem_of_mem_cutLines text.toList characters cut

/-- The line without the carriage return that it may end with. -/
def withoutReturn (line : List Char) : List Char :=
  if line.getLast? = some '\r' then line.dropLast else line

theorem withoutReturn_cons {character : Char} {more : List Char}
    (inside : more = [] → character ≠ '\r') :
    withoutReturn (character :: more) = character :: withoutReturn more := by
  cases more with
  | nil =>
    have other : [character].getLast? ≠ some '\r' := fun same => inside rfl (Option.some.inj same)
    exact if_neg other
  | cons next later =>
    unfold withoutReturn
    rw [List.getLast?_cons_cons, List.dropLast_cons_cons]
    split <;> rfl

theorem withoutReturn_eq_self_iff {line : List Char} :
    withoutReturn line = line ↔ line.getLast? ≠ some '\r' := by
  unfold withoutReturn
  split
  next returns =>
    have inhabited : 0 < line.length := List.length_pos_of_mem (List.mem_of_getLast? returns)
    refine iff_of_false (fun same => ?_) (not_not_intro returns)
    have size := congrArg List.length same
    rw [List.length_dropLast] at size
    omega
  next bare => exact iff_of_true rfl bare

/-- A line is cut off at the next line feed. -/
theorem cutLines_line {line : List Char} (single : '\n' ∉ line) (rest : List Char) :
    cutLines (line ++ '\n' :: rest) = withoutReturn line :: cutLines rest := by
  induction line with
  | nil => exact cutLines_feed rest
  | cons character more inductionHypothesis =>
    rw [List.mem_cons, not_or] at single
    by_cases terminates : more = [] ∧ character = '\r'
    · obtain ⟨rfl, rfl⟩ := terminates
      exact cutLines_return_feed rest
    · have unterminated : ∀ behind, character = '\r' → more ++ '\n' :: rest ≠ '\n' :: behind := by
        rintro behind rfl here
        cases more with
        | nil => exact terminates ⟨rfl, rfl⟩
        | cons next later =>
          cases here
          exact single.2 List.mem_cons_self
      rw [List.cons_append, cutLines_cons (fun same => single.1 same.symm) unterminated,
        inductionHypothesis single.2,
        withoutReturn_cons fun last same => terminates ⟨last, same⟩]
      rfl

theorem cutLines_joinLines {lines : List (List Char)} (single : ∀ line ∈ lines, '\n' ∉ line) :
    cutLines (joinLines lines) = lines.map withoutReturn := by
  induction lines with
  | nil => exact cutLines_nil
  | cons line rest inductionHypothesis =>
    obtain ⟨here, later⟩ := List.forall_mem_cons.mp single
    rw [joinLines, List.flatMap_cons, List.append_assoc, List.singleton_append,
      cutLines_line here]
    exact congrArg (withoutReturn line :: ·) (inductionHypothesis later)

/-- The text without the carriage return that it may end with. -/
def dropReturn (text : String) : String :=
  String.ofList (withoutReturn text.toList)

theorem dropReturn_eq_self_iff {text : String} :
    dropReturn text = text ↔ text.toList.getLast? ≠ some '\r' := by
  rw [← withoutReturn_eq_self_iff, ← String.toList_inj, dropReturn, String.toList_ofList]

/-- Lines that were written are read back, each without the carriage return that it may end with. -/
theorem linesOf_ofLines {lines : List String} (single : ∀ line ∈ lines, OneLine line) :
    linesOf (ofLines lines) = lines.map dropReturn := by
  rw [linesOf, ofLines, String.toList_ofList,
    cutLines_joinLines (List.forall_mem_map.mpr single), List.map_map, List.map_map]
  rfl

theorem map_dropReturn_eq_self_iff {lines : List String} :
    lines.map dropReturn = lines ↔ ∀ line ∈ lines, line.toList.getLast? ≠ some '\r' := by
  calc
    lines.map dropReturn = lines ↔ lines.map dropReturn = lines.map id := by rw [List.map_id]
    _ ↔ ∀ line ∈ lines, dropReturn line = line := List.map_inj_left
    _ ↔ ∀ line ∈ lines, line.toList.getLast? ≠ some '\r' :=
      forall₂_congr fun line _ => dropReturn_eq_self_iff

/-! ### Lines that end with a carriage return -/

/-- The text leaves a carriage return in a line: it ends with one, or holds one in front of a
terminator that has its own. -/
def LeavesReturn (text : List Char) : Prop :=
  text.getLast? = some '\r' ∨ ['\r', '\r', '\n'] <:+: text

instance (text : List Char) : Decidable (LeavesReturn text) := by
  unfold LeavesReturn
  infer_instance

theorem leavesReturn_cons {character : Char} {rest : List Char} (inhabited : rest ≠ [])
    (apart : ¬['\r', '\r', '\n'] <+: character :: rest) :
    LeavesReturn (character :: rest) ↔ LeavesReturn rest := by
  obtain ⟨next, later, rfl⟩ := List.exists_cons_of_ne_nil inhabited
  unfold LeavesReturn
  rw [List.getLast?_cons_cons, List.infix_cons_iff, or_iff_right apart]

theorem leavesReturn_feed (rest : List Char) :
    LeavesReturn ('\n' :: rest) ↔ LeavesReturn rest := by
  cases rest with
  | nil => decide
  | cons next later => exact leavesReturn_cons (List.cons_ne_nil _ _) (by simp)

/-- How a text begins: it is empty, or with a terminator, or with a character of its first line. -/
theorem cutLines_cases (text : List Char) :
    text = [] ∨ (∃ rest, text = '\n' :: rest) ∨ (∃ rest, text = '\r' :: '\n' :: rest) ∨
      ∃ character line more, cutLines text = (character :: line) :: more := by
  cases text with
  | nil => exact .inl rfl
  | cons character rest =>
    by_cases feed : character = '\n'
    · exact .inr (.inl ⟨rest, feed ▸ rfl⟩)
    by_cases unterminated : ∀ behind, character = '\r' → rest ≠ '\n' :: behind
    · exact .inr (.inr (.inr ⟨_, _, _, cutLines_cons feed unterminated⟩))
    · push Not at unterminated
      obtain ⟨behind, rfl, rfl⟩ := unterminated
      exact .inr (.inr (.inl ⟨behind, rfl⟩))

theorem eq_nil_of_cutLines {text : List Char} (cut : cutLines text = []) : text = [] := by
  rcases cutLines_cases text with empty | ⟨rest, rfl⟩ | ⟨rest, rfl⟩ | ⟨character, line, more, found⟩
  · exact empty
  · rw [cutLines_feed] at cut
    cases cut
  · rw [cutLines_return_feed] at cut
    cases cut
  · rw [found] at cut
    cases cut

/-- A text whose first line is empty begins with a terminator. -/
theorem first_of_cutLines {text : List Char} {more : List (List Char)}
    (cut : cutLines text = [] :: more) :
    (∃ rest, text = '\n' :: rest) ∨ ∃ rest, text = '\r' :: '\n' :: rest := by
  rcases cutLines_cases text with rfl | feed | ended | ⟨character, line, others, found⟩
  · rw [cutLines_nil] at cut
    cases cut
  · exact .inl feed
  · exact .inr ended
  · rw [found] at cut
    cases cut

theorem exists_return_iff (text : List Char) :
    (∃ line ∈ cutLines text, line.getLast? = some '\r') ↔ LeavesReturn text := by
  fun_induction cutLines text with
  | case1 => decide
  | case2 rest inductionHypothesis =>
    rw [List.exists_mem_cons_iff, or_iff_right (by simp), inductionHypothesis,
      leavesReturn_cons (List.cons_ne_nil _ _) (by simp), leavesReturn_feed]
  | case3 rest inductionHypothesis =>
    rw [List.exists_mem_cons_iff, or_iff_right (by simp), inductionHypothesis, leavesReturn_feed]
  | case4 character rest _ other cut inductionHypothesis =>
    cases eq_nil_of_cutLines cut
    have short : ¬['\r', '\r', '\n'] <:+: [character] := fun inside => by
      simpa using inside.length_le
    rw [LeavesReturn, or_iff_left short]
    simp only [List.mem_singleton, exists_eq_left]
  | case5 character rest unterminated other line more cut inductionHypothesis =>
    rw [cut, List.exists_mem_cons_iff] at inductionHypothesis
    rw [List.exists_mem_cons_iff]
    have inhabited : rest ≠ [] := by
      rintro rfl
      rw [cutLines_nil] at cut
      cases cut
    by_cases returns : line = [] ∧ character = '\r'
    · -- The first line is the carriage return alone, so a terminator with its own comes behind.
      obtain ⟨rfl, rfl⟩ := returns
      rcases first_of_cutLines cut with ⟨behind, rfl⟩ | ⟨behind, rfl⟩
      · exact (unterminated behind rfl rfl).elim
      · exact iff_of_true (.inl rfl) (.inr (List.infix_append [] _ behind))
    · have last : (character :: line).getLast? = some '\r' ↔ line.getLast? = some '\r' := by
        cases line with
        | nil => simpa using returns
        | cons next later => rw [List.getLast?_cons_cons]
      have apart : ¬['\r', '\r', '\n'] <+: character :: rest := by
        rintro ⟨behind, whole⟩
        cases whole
        cases (cutLines_return_feed behind).symm.trans cut
        exact returns ⟨rfl, rfl⟩
      rw [last, inductionHypothesis, leavesReturn_cons inhabited apart]

end Foldback.Text
