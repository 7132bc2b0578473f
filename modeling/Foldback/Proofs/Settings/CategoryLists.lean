/-
Lists of categories as texts. The names of a list are its runs of characters that
separate nothing, as long as they can be. Both the names that are read and the runs
that stand in a text are told by one equation: where a separator stands, what is on
its two sides is told apart.

So a set is read back from its listing exactly if all its names can stand in a list.
The entries of a settings file and of a command line count as if they stood in one
list with commas between them. Only which names are runs of some entry matters:
neither the entry that a name stands in, nor the order, nor how often it is there.
-/

import Mathlib.Data.List.Basic
import Foldback.Settings.Basic

namespace Foldback

open Text

namespace Categories

variable {separator : Char} {text first second run : List Char}

/-! ### Runs -/

/-- A character that can stand in a listed name: it is neither a comma nor white space. -/
def IsNameChar (character : Char) : Prop :=
  character ≠ ',' ∧ isBlank character = false

theorem isSeparator_eq_false_iff {character : Char} :
    isSeparator character = false ↔ IsNameChar character := by
  simp [isSeparator, IsNameChar]

theorem isSeparator_iff {character : Char} :
    isSeparator character = true ↔ ¬IsNameChar character := by
  rw [← isSeparator_eq_false_iff, Bool.not_eq_false]

theorem not_isNameChar_comma : ¬IsNameChar ',' := fun inside => inside.1 rfl

theorem not_isNameChar_space : ¬IsNameChar ' ' := isSeparator_iff.mp rfl

/-- What can stand as a name in a list: some characters, none of which separates names. -/
def Listable (name : List Char) : Prop :=
  name ≠ [] ∧ ∀ character ∈ name, IsNameChar character

/-- A name behind the text begins there: the text is empty or ends with a separator. -/
def EndsApart (text : List Char) : Prop :=
  ∀ character ∈ text.getLast?, ¬IsNameChar character

/-- A name in front of the text ends there: the text is empty or begins with a separator. -/
def BeginsApart (text : List Char) : Prop :=
  ∀ character ∈ text.head?, ¬IsNameChar character

/-- The run stands in the text, is a name, and cannot be made longer at its place. -/
def RunOf (text run : List Char) : Prop :=
  Listable run ∧ ∃ before behind, text = before ++ (run ++ behind) ∧ EndsApart before ∧
    BeginsApart behind

theorem endsApart_append_cons (apart : ¬IsNameChar separator) :
    EndsApart (first ++ separator :: second) ↔ EndsApart second := by
  unfold EndsApart
  rw [List.getLast?_append, List.getLast?_cons, Option.some_or]
  cases second.getLast? with
  | none => simp [apart]
  | some character => simp

theorem beginsApart_append_cons (apart : ¬IsNameChar separator) :
    BeginsApart (first ++ separator :: second) ↔ BeginsApart first := by
  cases first with
  | nil => simp [BeginsApart, apart]
  | cons character rest => rfl

/-- The runs on the two sides of a separator are those of the whole text. -/
theorem runOf_separated (apart : ¬IsNameChar separator) :
    RunOf (first ++ separator :: second) run ↔ RunOf first run ∨ RunOf second run := by
  constructor
  · rintro ⟨listable, before, behind, whole, opens, ends⟩
    have outside : separator ∉ run := fun inside => apart (listable.2 separator inside)
    rcases List.append_eq_append_iff.mp whole with ⟨more, rfl, onward⟩ | ⟨more, rfl, onward⟩
    · -- the run stands behind the first side, so the separator stands before it
      cases more with
      | nil =>
        obtain ⟨letter, letters, rfl⟩ := List.exists_cons_of_ne_nil listable.1
        cases onward
        exact absurd List.mem_cons_self outside
      | cons other more =>
        cases onward
        exact .inr ⟨listable, more, behind, rfl, (endsApart_append_cons apart).mp opens, ends⟩
    · rcases List.append_eq_append_iff.mp onward with ⟨last, rfl, rfl⟩ | ⟨last, rfl, rest⟩
      · exact .inl ⟨listable, before, last, rfl, opens, (beginsApart_append_cons apart).mp ends⟩
      · cases last with
        | nil => exact .inl ⟨listable, before, [], by simp, opens, nofun⟩
        | cons other last =>
          cases rest
          exact absurd (List.mem_append_right more List.mem_cons_self) outside
  · rintro (⟨listable, before, behind, rfl, opens, ends⟩ |
      ⟨listable, before, behind, rfl, opens, ends⟩)
    · refine ⟨listable, before, behind ++ separator :: second, by simp, opens, ?_⟩
      exact (beginsApart_append_cons apart).mpr ends
    · refine ⟨listable, first ++ separator :: before, behind, by simp, ?_, ends⟩
      exact (endsApart_append_cons apart).mpr opens

/-- A text without separators has no run but itself. -/
theorem runOf_of_plain (plain : ∀ character ∈ text, IsNameChar character) :
    RunOf text run ↔ run = text ∧ text ≠ [] := by
  constructor
  · rintro ⟨listable, before, behind, rfl, opens, ends⟩
    have front : before = [] := by
      cases last : before.getLast? with
      | none => exact List.getLast?_eq_none_iff.mp last
      | some character =>
        have inside := List.mem_append_left (run ++ behind) (List.mem_of_getLast? last)
        exact absurd (plain character inside) (opens character last)
    have back : behind = [] := by
      cases next : behind.head? with
      | none => exact List.head?_eq_none_iff.mp next
      | some character =>
        have inside := List.mem_append_right before
          (List.mem_append_right run (List.mem_of_head? next))
        exact absurd (plain character inside) (ends character next)
    subst front back
    simpa using listable.1
  · rintro ⟨rfl, inhabited⟩
    exact ⟨⟨inhabited, plain⟩, [], [], by simp, nofun, nofun⟩

/-! ### Reading a list -/

/-- The names of a list as they are read, one after the other. -/
def runs (text : List Char) : List (List Char) :=
  (text.splitOnP isSeparator).filter (!·.isEmpty)

theorem listedNames_eq (text : String) :
    listedNames text = (runs text.toList).map String.ofList := rfl

theorem runs_separated (apart : ¬IsNameChar separator) (first second : List Char) :
    runs (first ++ separator :: second) = runs first ++ runs second := by
  rw [runs, List.splitOnP_append_cons _ _ (isSeparator_iff.mpr apart), List.filter_append]
  rfl

theorem runs_of_plain (plain : ∀ character ∈ text, IsNameChar character) :
    runs text = if text = [] then [] else [text] := by
  rw [runs, List.splitOnP_eq_singleton fun character inside =>
    isSeparator_eq_false_iff.mpr (plain character inside)]
  cases text <;> rfl

/-- What is read from a text are its runs. -/
theorem mem_runs_iff : run ∈ runs text ↔ RunOf text run := by
  induction size : text.length using Nat.strongRecOn generalizing text with
  | ind length inductionHypothesis =>
    subst size
    by_cases plain : ∀ character ∈ text, IsNameChar character
    · rw [runs_of_plain plain, runOf_of_plain plain]
      split <;> simp_all
    · obtain ⟨separator, inside, apart⟩ :
          ∃ character ∈ text, ¬IsNameChar character := by simpa using plain
      obtain ⟨first, second, rfl⟩ := List.append_of_mem inside
      rw [runs_separated apart, runOf_separated apart, List.mem_append,
        inductionHypothesis first.length (by simp) rfl,
        inductionHypothesis second.length (by simp; omega) rfl]

/-- The names of a list text are its runs. -/
theorem mem_parse_iff {text name : String} :
    name ∈ (parse text).names ↔ RunOf text.toList name.toList := by
  rw [parse, mem_ofList, listedNames_eq, ← mem_runs_iff, List.mem_map]
  constructor
  · rintro ⟨run, listed, rfl⟩
    rwa [String.toList_ofList]
  · intro listed
    exact ⟨name.toList, listed, String.ofList_toList⟩

-- White space of every width separates names, and a zero width space does not.
example : (parse "web,\u3000db,, \u200bweb\tweb").names = ["db", "web", "\u200bweb"] := by
  decide +kernel

/-! ### Joining texts -/

theorem runs_append_of_apart {between : List Char}
    (apart : ∀ character ∈ between, ¬IsNameChar character) (second : List Char) :
    runs (between ++ second) = runs second := by
  induction between with
  | nil => rfl
  | cons separator rest inductionHypothesis =>
    obtain ⟨here, behind⟩ := List.forall_mem_cons.mp apart
    rw [← inductionHypothesis behind]
    exact runs_separated here [] (rest ++ second)

/-- Where something stands between texts that no name goes on in, they are read apart. -/
theorem runs_intercalate {between : List Char} (inhabited : between ≠ [])
    (apart : ∀ character ∈ between, ¬IsNameChar character) (texts : List (List Char)) :
    runs (between.intercalate texts) = texts.flatMap runs := by
  obtain ⟨separator, others, rfl⟩ := List.exists_cons_of_ne_nil inhabited
  obtain ⟨here, behind⟩ := List.forall_mem_cons.mp apart
  induction texts with
  | nil => rfl
  | cons first rest inductionHypothesis =>
    cases rest with
    | nil => simp
    | cons second rest =>
      rw [List.intercalate_cons_cons, List.append_assoc, List.cons_append, runs_separated here,
        runs_append_of_apart behind, inductionHypothesis]
      rfl

theorem listedNames_intercalate {between : String} (inhabited : between.toList ≠ [])
    (apart : ∀ character ∈ between.toList, ¬IsNameChar character) (texts : List String) :
    listedNames (between.intercalate texts) = texts.flatMap listedNames := by
  rw [listedNames_eq, String.toList_intercalate, runs_intercalate inhabited apart,
    List.map_flatMap, List.flatMap_map]
  rfl

/-! ### Listings -/

theorem listedNames_of_listable {name : String} (listable : Listable name.toList) :
    listedNames name = [name] := by
  rw [listedNames_eq, runs_of_plain listable.2, if_neg listable.1, List.map_singleton,
    String.ofList_toList]

/-- A set is read back from its listing exactly if its names can stand in a list. -/
theorem parse_listing_iff {set : Categories} :
    parse set.listing = set ↔ ∀ name ∈ set.names, Listable name.toList := by
  constructor
  · intro same name member
    rw [← same, mem_parse_iff] at member
    exact member.1
  · intro listable
    have read : listedNames set.listing = set.names := by
      have apart : ∀ character ∈ ", ".toList, ¬IsNameChar character :=
        List.forall_mem_cons.mpr
          ⟨not_isNameChar_comma, List.forall_mem_singleton.mpr not_isNameChar_space⟩
      rw [listing, listedNames_intercalate (by decide) apart,
        List.flatMap_congr fun name member => listedNames_of_listable (listable name member),
        List.flatMap_singleton']
    exact ext_names fun name => by rw [parse, read, mem_ofList]

end Categories

/-! ### Entries of settings -/

namespace Settings

open Categories

theorem mem_foldl_extend_iff {entries : List String} {set : Categories} {name : String} :
    name ∈ (entries.foldl (fun set entry => set.extend (parse entry).names) set).names ↔
      name ∈ set.names ∨ ∃ entry ∈ entries, name ∈ (parse entry).names := by
  induction entries generalizing set with
  | nil => simp
  | cons entry rest inductionHypothesis =>
    rw [List.foldl_cons, inductionHypothesis, mem_extend]
    simp only [List.exists_mem_cons_iff, or_assoc, or_left_comm]

theorem mem_categorySet_iff {settings : Settings} {name : String} :
    name ∈ settings.categorySet.names ↔
      ∃ entry ∈ settings.categories, name ∈ (parse entry).names := by
  rw [categorySet, mem_foldl_extend_iff]
  simp [Categories.empty]

/-- The entries of settings count as one list. -/
theorem categorySet_eq_parse (settings : Settings) :
    settings.categorySet = parse (",".intercalate settings.categories) := by
  have apart : ∀ character ∈ ",".toList, ¬IsNameChar character :=
    List.forall_mem_singleton.mpr not_isNameChar_comma
  refine ext_names fun name => ?_
  rw [mem_categorySet_iff, parse, listedNames_intercalate (by decide) apart, mem_ofList,
    List.mem_flatMap]
  simp only [parse, mem_ofList]

/-- The names of a list text are its runs; a set is read back from its listing exactly if all its
names can stand in a list; and the categories of a settings file under a command line are those of
one list of all entries, so that they are settled by which names are runs of some entry. -/
theorem categorySet_of_lists :
    (∀ text name : String, name ∈ (parse text).names ↔ RunOf text.toList name.toList) ∧
    (∀ set : Categories, parse set.listing = set ↔ ∀ name ∈ set.names, Listable name.toList) ∧
    (∀ file line : Settings, (file.override line).categorySet =
      parse (",".intercalate (file.categories ++ line.categories))) ∧
    ∀ file line otherFile otherLine : Settings,
      (file.override line).categorySet = (otherFile.override otherLine).categorySet ↔
        ∀ name : String,
          (∃ entry ∈ file.categories ++ line.categories, RunOf entry.toList name.toList) ↔
            ∃ entry ∈ otherFile.categories ++ otherLine.categories,
              RunOf entry.toList name.toList := by
  have settled (file line : Settings) (name : String) :
      name ∈ (file.override line).categorySet.names ↔
        ∃ entry ∈ file.categories ++ line.categories, RunOf entry.toList name.toList := by
    simp only [mem_categorySet_iff, mem_parse_iff, override]
  refine ⟨fun text name => mem_parse_iff, fun set => parse_listing_iff,
    fun file line => categorySet_eq_parse (file.override line),
    fun file line otherFile otherLine => ?_⟩
  simp only [← settled]
  constructor
  · intro same name
    rw [same]
  · exact ext_names

end Settings

end Foldback
