/-
The unified form read back. The reader knows the form only: two header lines,
then hunk by hunk a line with two ranges and as many lines as the ranges count.
It is given the bare text and must use all of it.

What is read from the form of a difference are the hunks of the difference. As
these fit the two sequences, the form is a patch: it leads from the old lines to
the new ones, and back.
-/

import Foldback.Diff.Unified
import Foldback.Proofs.Diff.Hunks
import Foldback.Proofs.Text.Lines

namespace Foldback.Diff

open Text

/-! ### Reading -/

/-- The lines of a text that ends every line with a line feed. -/
def fedLines? (text : String) : Option (List String) :=
  match (text.toList.splitOn '\n').reverse with
  | [] :: lines => some (lines.reverse.map String.ofList)
  | _ => none

def readNumber? (digits : List Char) : Option Nat :=
  if digits ≠ [] ∧ digits.all Char.isDigit then some (Nat.ofDigitChars 10 digits 0) else none

/-- The range of so many lines that starts with a given one, counted from one. An empty range is
given by the line before it. -/
def rangeOf? : (first count : Nat) → Option IndexRange
  | first, 0 => some ⟨first, first⟩
  | 0, _ + 1 => none
  | first + 1, count => some ⟨first, first + count⟩

def readRange? (text : List Char) : Option IndexRange :=
  match text.splitOn ',' with
  | [first] => (readNumber? first).bind (rangeOf? · 1)
  | [first, count] => do rangeOf? (← readNumber? first) (← readNumber? count)
  | _ => none

/-- The two ranges of the line that introduces a hunk. -/
def readRanges? (line : String) : Option (IndexRange × IndexRange) :=
  match line.toList.splitOn ' ' with
  | [['@', '@'], '-' :: old, '+' :: new, ['@', '@']] => do
    pure (← readRange? old, ← readRange? new)
  | _ => none

def readEdit? (line : String) : Option (Edit String) :=
  match line.toList with
  | ' ' :: text => some (.keep (String.ofList text))
  | '-' :: text => some (.drop (String.ofList text))
  | '+' :: text => some (.add (String.ofList text))
  | _ => none

/-- How many old and new lines are left to come behind an edit, of so many with it. -/
def Edit.countedOff? : Edit String → (old new : Nat) → Option (Nat × Nat)
  | .keep _, old + 1, new + 1 => some (old, new)
  | .drop _, old + 1, new => some (old, new)
  | .add _, old, new + 1 => some (old, new)
  | _, _, _ => none

/-- Reads lines of which so many old and new ones belong to an open hunk: the rest of this hunk,
and the hunks behind it. -/
def readHunks? (old new : Nat) :
    List String → Option (List (Edit String) × List (StatedHunk String))
  | [] => if old = 0 ∧ new = 0 then some ([], []) else none
  | line :: rest =>
    if old = 0 ∧ new = 0 then do
      let (oldRange, newRange) ← readRanges? line
      let (body, later) ← readHunks? oldRange.size newRange.size rest
      pure ([], ⟨oldRange, newRange, body⟩ :: later)
    else do
      let edit ← readEdit? line
      let (oldLeft, newLeft) ← edit.countedOff? old new
      let (body, later) ← readHunks? oldLeft newLeft rest
      pure (edit :: body, later)

/-- A text in the unified form: the names of the two sides, unless the text is empty, and the
hunks. -/
structure Patch where
  names : Option (String × String)
  hunks : List (StatedHunk String)
  deriving DecidableEq, Repr

namespace Patch

/-- Applies the hunks of a patch. -/
def apply (patch : Patch) (lines : List String) : Option (List String) :=
  applyHunks patch.hunks lines

/-- The patch that leads back. -/
def reversed (patch : Patch) : Patch :=
  ⟨patch.names.map Prod.swap, patch.hunks.map StatedHunk.reversed⟩

end Patch

/-- Reads a name behind the mark of its header line. -/
def readName? (mark : List Char) (line : String) : Option String :=
  (line.toList.dropPrefix? mark).map String.ofList

def Patch.read? (text : String) : Option Patch := do
  match ← fedLines? text with
  | [] => pure ⟨none, []⟩
  | first :: second :: rest =>
    let oldName ← readName? ['-', '-', '-', ' '] first
    let newName ← readName? ['+', '+', '+', ' '] second
    let (_, hunks) ← readHunks? 0 0 rest
    pure ⟨some (oldName, newName), hunks⟩
  | [_] => none

/-! ### Ranges are read back -/

/-- The numbers that a range is written with. -/
def rangeNumbers (start count : Nat) : List Nat :=
  match count with
  | 0 => [start, 0]
  | 1 => [start + 1]
  | count => [start + 1, count]

theorem toList_toString (number : Nat) : (toString number).toList = Nat.toDigits 10 number := by
  rw [Nat.toString_eq_ofList_toDigits, String.toList_ofList]

theorem toList_rangeText (start count : Nat) :
    (rangeText start count).toList =
      [','].intercalate ((rangeNumbers start count).map (Nat.toDigits 10)) := by
  match count with
  | 0 =>
    show (toString start ++ ",0").toList = _
    rw [String.toList_append, toList_toString]
    rfl
  | 1 => exact (toList_toString (start + 1)).trans (List.append_nil _).symm
  | count + 2 =>
    show (toString (start + 1) ++ "," ++ toString (count + 2)).toList = _
    rw [String.toList_append, String.toList_append, toList_toString, toList_toString]
    simp [rangeNumbers]

theorem isDigit_of_mem_toDigits {number : Nat} {character : Char}
    (member : character ∈ Nat.toDigits 10 number) : character.isDigit = true :=
  Nat.isDigit_of_mem_toDigits (by decide) (by decide) member

theorem readNumber?_toDigits (number : Nat) :
    readNumber? (Nat.toDigits 10 number) = some number := by
  have digits : (Nat.toDigits 10 number).all Char.isDigit = true :=
    List.all_eq_true.mpr fun _ member => isDigit_of_mem_toDigits member
  rw [readNumber?, if_pos ⟨Nat.toDigits_ne_nil, digits⟩, Nat.ofDigitChars_ten_toDigits]

/-- A range is written in digits, with a comma at most. -/
theorem mem_toList_rangeText {start count : Nat} {character : Char}
    (member : character ∈ (rangeText start count).toList) :
    character.isDigit = true ∨ character = ',' := by
  rw [toList_rangeText] at member
  rcases mem_of_mem_intercalate member with comma | ⟨digits, listed, inside⟩
  · exact .inr (List.mem_singleton.mp comma)
  · obtain ⟨number, _, rfl⟩ := List.mem_map.mp listed
    exact .inl (isDigit_of_mem_toDigits inside)

theorem readRange?_rangeText (start count : Nat) :
    readRange? (rangeText start count).toList = some ⟨start, start + count⟩ := by
  have apart : ∀ digits ∈ (rangeNumbers start count).map (Nat.toDigits 10), ',' ∉ digits := by
    intro digits member comma
    obtain ⟨number, _, rfl⟩ := List.mem_map.mp member
    exact absurd (isDigit_of_mem_toDigits comma) (by decide)
  have nonempty : (rangeNumbers start count).map (Nat.toDigits 10) ≠ [] := by
    unfold rangeNumbers
    split <;> simp
  rw [readRange?, toList_rangeText, List.splitOn_intercalate ',' apart nonempty]
  match count with
  | 0 =>
    simp only [rangeNumbers, List.map_cons, List.map_nil, readNumber?_toDigits]
    cases start <;> rfl
  | 1 => simp only [rangeNumbers, List.map_cons, List.map_nil, readNumber?_toDigits]; rfl
  | count + 2 => simp only [rangeNumbers, List.map_cons, List.map_nil, readNumber?_toDigits]; rfl

/-- The words of the line that introduces a hunk. -/
def Hunk.headerWords (hunk : Hunk String) : List (List Char) :=
  [['@', '@'], '-' :: (rangeText hunk.oldStart hunk.old.length).toList,
    '+' :: (rangeText hunk.newStart hunk.new.length).toList, ['@', '@']]

theorem Hunk.toList_header (hunk : Hunk String) :
    hunk.header.toList = [' '].intercalate hunk.headerWords := by
  show ("@@ -" ++ rangeText hunk.oldStart hunk.old.length ++ " " ++
    ("+" ++ rangeText hunk.newStart hunk.new.length ++ " @@")).toList = _
  simp [headerWords]

/-- Neither a blank nor a line feed stands in a word of the line. -/
theorem Hunk.not_mem_headerWords {character : Char} (plain : character = ' ' ∨ character = '\n')
    (hunk : Hunk String) : ∀ word ∈ hunk.headerWords, character ∉ word := by
  have outside (start count : Nat) : character ∉ (rangeText start count).toList := by
    intro member
    have written := mem_toList_rangeText member
    rcases plain with rfl | rfl <;> exact absurd written (by decide)
  have other : character ≠ '@' ∧ character ≠ '-' ∧ character ≠ '+' := by
    rcases plain with rfl | rfl <;> decide
  simp [headerWords, outside, other]

theorem readRanges?_header (hunk : Hunk String) :
    readRanges? hunk.header = some (hunk.stated.old, hunk.stated.new) := by
  unfold readRanges?
  rw [hunk.toList_header, List.splitOn_intercalate ' ' (hunk.not_mem_headerWords (.inl rfl))
    (List.cons_ne_nil _ _)]
  show (do pure (← readRange? _, ← readRange? _)) = _
  rw [readRange?_rangeText, readRange?_rangeText]
  rfl

theorem Hunk.oneLine_header (hunk : Hunk String) : OneLine hunk.header := by
  intro feed
  rw [hunk.toList_header] at feed
  rcases mem_of_mem_intercalate feed with blank | ⟨word, listed, inside⟩
  · exact absurd blank (by decide)
  · exact hunk.not_mem_headerWords (.inr rfl) word listed inside

/-! ### Hunks are read back -/

/-- The line of an edit. -/
def Edit.line : Edit String → String
  | .keep text => " " ++ text
  | .drop text => "-" ++ text
  | .add text => "+" ++ text

/-- The text that an edit carries. -/
def Edit.text : Edit String → String
  | .keep text | .drop text | .add text => text

theorem readEdit?_line (edit : Edit String) : readEdit? edit.line = some edit := by
  cases edit <;> simp [readEdit?, Edit.line]

theorem Edit.oneLine_line {edit : Edit String} (single : OneLine edit.text) :
    OneLine edit.line := by
  cases edit <;> simp_all [OneLine, Edit.line, Edit.text]

theorem Chunk.unifiedLines_eq (chunk : Chunk String) :
    chunk.unifiedLines = chunk.edits.map Edit.line := by
  cases chunk <;> simp [unifiedLines, edits, Edit.line, Function.comp_def]

theorem Hunk.unifiedLines_eq (hunk : Hunk String) :
    hunk.unifiedLines = hunk.header :: hunk.stated.body.map Edit.line := by
  unfold unifiedLines stated
  rw [List.map_flatMap]
  exact congrArg (hunk.header :: hunk.body.flatMap ·) (funext Chunk.unifiedLines_eq)

/-- As many lines as are counted are read into the open hunk. -/
theorem readHunks?_edits (edits : List (Edit String)) {rest : List String}
    {later : List (StatedHunk String)} (behind : readHunks? 0 0 rest = some ([], later)) :
    readHunks? (edits.filterMap Edit.old?).length (edits.filterMap Edit.new?).length
        (edits.map Edit.line ++ rest) = some (edits, later) := by
  induction edits with
  | nil => exact behind
  | cons edit more inductionHypothesis =>
    have counted : edit.countedOff? ((edit :: more).filterMap Edit.old?).length
        ((edit :: more).filterMap Edit.new?).length =
          some ((more.filterMap Edit.old?).length, (more.filterMap Edit.new?).length) := by
      cases edit <;> rfl
    have unfinished : ¬(((edit :: more).filterMap Edit.old?).length = 0 ∧
        ((edit :: more).filterMap Edit.new?).length = 0) := by
      cases edit <;> simp [Edit.old?, Edit.new?]
    rw [List.map_cons, List.cons_append, readHunks?, if_neg unfinished]
    simp only [readEdit?_line, counted, inductionHypothesis, Option.bind_eq_bind,
      Option.bind_some, Option.pure_def]

theorem IndexRange.size_stated (start count : Nat) :
    (⟨start, start + count⟩ : IndexRange).size = count :=
  Nat.add_sub_cancel_left start count

theorem readHunks?_hunks (shown : List (Hunk String)) :
    readHunks? 0 0 (shown.flatMap Hunk.unifiedLines) = some ([], shown.map Hunk.stated) := by
  induction shown with
  | nil => rfl
  | cons hunk rest inductionHypothesis =>
    have body := readHunks?_edits hunk.stated.body inductionHypothesis
    have oldSize : hunk.stated.old.size = (hunk.stated.body.filterMap Edit.old?).length := by
      rw [← StatedHunk.before, hunk.before_stated]
      exact IndexRange.size_stated hunk.oldStart hunk.old.length
    have newSize : hunk.stated.new.size = (hunk.stated.body.filterMap Edit.new?).length := by
      rw [← StatedHunk.after, hunk.after_stated]
      exact IndexRange.size_stated hunk.newStart hunk.new.length
    rw [← oldSize, ← newSize] at body
    rw [List.flatMap_cons, hunk.unifiedLines_eq, List.cons_append, readHunks?,
      if_pos ⟨rfl, rfl⟩]
    simp only [readRanges?_header, body, Option.bind_eq_bind, Option.bind_some, Option.pure_def,
      List.map_cons]

/-! ### The whole text is read back -/

theorem fedLines?_ofLines {lines : List String} (single : ∀ line ∈ lines, OneLine line) :
    fedLines? (ofLines lines) = some lines := by
  have apart : ∀ line ∈ lines.map String.toList, '\n' ∉ line := by
    intro characters member
    obtain ⟨line, listed, rfl⟩ := List.mem_map.mp member
    exact single line listed
  unfold fedLines?
  rw [ofLines, String.toList_ofList, splitOn_joinLines apart]
  simp [Function.comp_def]

theorem unified_eq_ofLines (old new : List String) (oldName newName : String) :
    unified old new oldName newName = ofLines (unifiedLines old new oldName newName) :=
  (ofLines_eq_join _).symm

theorem readName?_append (mark : List Char) (name : String) :
    readName? mark (String.ofList mark ++ name) = some name := by
  have found : (mark ++ name.toList).dropPrefix? mark = some name.toList :=
    List.dropPrefix?_append_of_beq _ (beq_self_eq_true _)
  rw [readName?, String.toList_append, String.toList_ofList, found, Option.map_some,
    String.ofList_toList]

theorem StatedHunk.text_mem {hunk : StatedHunk String} {edit : Edit String}
    (member : edit ∈ hunk.body) : edit.text ∈ hunk.before ∨ edit.text ∈ hunk.after := by
  cases edit with
  | keep text => exact .inl (List.mem_filterMap.mpr ⟨_, member, rfl⟩)
  | drop text => exact .inl (List.mem_filterMap.mpr ⟨_, member, rfl⟩)
  | add text => exact .inr (List.mem_filterMap.mpr ⟨_, member, rfl⟩)

theorem Hunk.oneLine_unifiedLines {hunk : Hunk String}
    (oldSingle : ∀ line ∈ hunk.old, OneLine line) (newSingle : ∀ line ∈ hunk.new, OneLine line) :
    ∀ line ∈ hunk.unifiedLines, OneLine line := by
  rw [hunk.unifiedLines_eq]
  refine List.forall_mem_cons.mpr ⟨hunk.oneLine_header, fun line member => ?_⟩
  obtain ⟨edit, listed, rfl⟩ := List.mem_map.mp member
  refine Edit.oneLine_line ?_
  rcases StatedHunk.text_mem listed with kept | written
  · rw [hunk.before_stated] at kept
    exact oldSingle _ kept
  · rw [hunk.after_stated] at written
    exact newSingle _ written

theorem unifiedLines_of_ne {old new : List String} (differ : old ≠ new) (oldName newName : String) :
    unifiedLines old new oldName newName =
      ("--- " ++ oldName) :: ("+++ " ++ newName) ::
        (hunks contextSize old new).flatMap Hunk.unifiedLines := by
  unfold unifiedLines
  split
  · rename_i empty
    exact absurd ((hunks_eq_nil_iff contextSize old new).mp empty) differ
  · rfl

theorem unified_eq_empty_iff (old new : List String) (oldName newName : String) :
    unified old new oldName newName = "" ↔ old = new := by
  rw [unified_eq_ofLines]
  constructor
  · intro empty
    by_contra differ
    rw [unifiedLines_of_ne differ, ← String.toList_inj] at empty
    simp [ofLines, joinLines] at empty
  · rintro rfl
    rw [unifiedLines, (hunks_eq_nil_iff contextSize old old).mpr rfl]
    rfl

section Reading

variable {old new : List String} {oldName newName : String}

/-- From the unified form of a difference its hunks are read, and the names of the two sides. -/
theorem read?_unified (oldSingle : ∀ line ∈ old, OneLine line)
    (newSingle : ∀ line ∈ new, OneLine line) (oldNamed : OneLine oldName)
    (newNamed : OneLine newName) :
    Patch.read? (unified old new oldName newName) =
      some ⟨if old = new then none else some (oldName, newName),
        (hunks contextSize old new).map Hunk.stated⟩ := by
  by_cases same : old = new
  · rw [(unified_eq_empty_iff old new oldName newName).mpr same,
      (hunks_eq_nil_iff contextSize old new).mpr same, if_pos same]
    rfl
  · have fits := fits_hunks contextSize old new
    have bodies : ∀ hunk ∈ hunks contextSize old new, ∀ line ∈ hunk.unifiedLines, OneLine line := by
      intro hunk member
      have inside := fits.subset hunk.stated (List.mem_map_of_mem member)
      rw [hunk.before_stated, hunk.after_stated] at inside
      exact Hunk.oneLine_unifiedLines (fun line here => oldSingle line (inside.1 line here))
        fun line here => newSingle line (inside.2 line here)
    have single : ∀ line ∈ unifiedLines old new oldName newName, OneLine line := by
      rw [unifiedLines_of_ne same]
      refine List.forall_mem_cons.mpr ⟨?_, List.forall_mem_cons.mpr ⟨?_, fun line member => ?_⟩⟩
      · simpa [OneLine] using oldNamed
      · simpa [OneLine] using newNamed
      · obtain ⟨hunk, shown, inside⟩ := List.mem_flatMap.mp member
        exact bodies hunk shown line inside
    rw [unified_eq_ofLines, Patch.read?, fedLines?_ofLines single, unifiedLines_of_ne same,
      if_neg same]
    have oldRead := readName?_append ['-', '-', '-', ' '] oldName
    have newRead := readName?_append ['+', '+', '+', ' '] newName
    simp only [Option.bind_eq_bind, Option.bind_some]
    rw [show readName? ['-', '-', '-', ' '] ("--- " ++ oldName) = some oldName from oldRead,
      show readName? ['+', '+', '+', ' '] ("+++ " ++ newName) = some newName from newRead,
      readHunks?_hunks]
    rfl

example : Patch.read? "--- a\n+++ b\n@@ -1 +0,0 @@\n-x\n" =
    some ⟨some ("a", "b"), [⟨⟨0, 1⟩, ⟨0, 0⟩, [.drop "x"]⟩]⟩ := by cbv

/-- A text whose last hunk is one line short is not read. -/
example : Patch.read? "--- a\n+++ b\n@@ -1 +0,0 @@\n-x\n@@ -3,2 +2 @@\n y\n" = none := by cbv

/-- The unified form of a difference is a patch. It is empty exactly between equal lists of lines.
Read by its counts, all of it, it gives hunks with as many lines as their ranges count and ranges
that come in order on both sides; they lead from the old lines to the new ones, and turned round
from the new lines to the old ones. -/
theorem unified_leads_both_ways (oldSingle : ∀ line ∈ old, OneLine line)
    (newSingle : ∀ line ∈ new, OneLine line) (oldNamed : OneLine oldName)
    (newNamed : OneLine newName) :
    (unified old new oldName newName = "" ↔ old = new) ∧
      (old ≠ new → ∃ patch,
        Patch.read? (unified old new oldName newName) = some patch ∧
        patch.names = some (oldName, newName) ∧
        (∀ hunk ∈ patch.hunks, hunk.old.stop = hunk.old.start + hunk.before.length ∧
          hunk.new.stop = hunk.new.start + hunk.after.length) ∧
        patch.hunks.Pairwise StatedHunk.Precedes ∧
        patch.apply old = some new ∧
        patch.reversed.apply new = some old) := by
  refine ⟨unified_eq_empty_iff old new oldName newName, fun differ => ?_⟩
  have read := read?_unified oldSingle newSingle oldNamed newNamed
  have fits := fits_hunks contextSize old new
  rw [if_neg differ] at read
  exact ⟨_, read, rfl, fits.stop_eq, fits.pairwise_precedes, fits.applyFrom,
    fits.reversed.applyFrom⟩

/-- Two changes at the ends, parted by one line more than both contexts. -/
theorem unified_leads_both_ways_at_ends :
    (∀ line ∈ ["x", "1", "2", "3", "4", "5", "6", "7"], OneLine line) ∧
      (∀ line ∈ ["1", "2", "3", "4", "5", "6", "7", "-y"], OneLine line) ∧
      OneLine "old" ∧ OneLine "new" ∧
      (unified ["x", "1", "2", "3", "4", "5", "6", "7"] ["1", "2", "3", "4", "5", "6", "7", "-y"]
          "old" "new" = "" ↔
        ["x", "1", "2", "3", "4", "5", "6", "7"] = ["1", "2", "3", "4", "5", "6", "7", "-y"]) ∧
      (["x", "1", "2", "3", "4", "5", "6", "7"] ≠ ["1", "2", "3", "4", "5", "6", "7", "-y"] →
        ∃ patch,
          Patch.read? (unified ["x", "1", "2", "3", "4", "5", "6", "7"]
            ["1", "2", "3", "4", "5", "6", "7", "-y"] "old" "new") = some patch ∧
          patch.names = some ("old", "new") ∧
          (∀ hunk ∈ patch.hunks, hunk.old.stop = hunk.old.start + hunk.before.length ∧
            hunk.new.stop = hunk.new.start + hunk.after.length) ∧
          patch.hunks.Pairwise StatedHunk.Precedes ∧
          patch.apply ["x", "1", "2", "3", "4", "5", "6", "7"] =
            some ["1", "2", "3", "4", "5", "6", "7", "-y"] ∧
          patch.reversed.apply ["1", "2", "3", "4", "5", "6", "7", "-y"] =
            some ["x", "1", "2", "3", "4", "5", "6", "7"]) := by
  have oldSingle : ∀ line ∈ ["x", "1", "2", "3", "4", "5", "6", "7"], OneLine line := by decide
  have newSingle : ∀ line ∈ ["1", "2", "3", "4", "5", "6", "7", "-y"], OneLine line := by decide
  have oldNamed : OneLine "old" := by decide
  have newNamed : OneLine "new" := by decide
  exact ⟨oldSingle, newSingle, oldNamed, newNamed,
    unified_leads_both_ways oldSingle newSingle oldNamed newNamed⟩

end Reading

end Foldback.Diff
