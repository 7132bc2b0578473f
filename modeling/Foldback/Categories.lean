/-
Category sets: the names that are active for a rendering. A category is an
opaque name that is only tested for membership. The set is kept as the strictly
ascending list of its names, so that two sets with the same members are equal
and every listing has one order.
-/

import Foldback.Text.Blank
import Foldback.Text.Names

namespace Foldback

open Text

/-- A finite set of category names. -/
structure Categories where
  /-- The members in ascending order. -/
  names : List String
  /-- No name is repeated or out of order. -/
  ascending : Ascending names
  deriving DecidableEq

namespace Categories

/-- No category is active. -/
def empty : Categories := ⟨[], List.Pairwise.nil⟩

instance : Inhabited Categories := ⟨empty⟩

/-- The set with one more name. -/
def insert (categories : Categories) (name : String) : Categories :=
  ⟨insertName name categories.names, ascending_insertName name categories.ascending⟩

/-- Whether a name is active. -/
def contains (categories : Categories) (name : String) : Bool :=
  categories.names.contains name

/-- The set with all names of a list added. -/
def extend (categories : Categories) (names : List String) : Categories :=
  names.foldl insert categories

/-- The set of the names of a list. -/
def ofList (names : List String) : Categories :=
  empty.extend names

/-- The number of active names. -/
def size (categories : Categories) : Nat :=
  categories.names.length

/-- Whether no name is active. -/
def isEmpty (categories : Categories) : Bool :=
  categories.names.isEmpty

/-! ### The written form -/

/-- Commas and white space separate the names of a list. -/
def isSeparator (character : Char) : Bool :=
  character == ',' || isBlank character

/-- The names of a list text, in order; empty items do not count. -/
def listedNames (text : String) : List String :=
  ((text.toList.splitOnP isSeparator).filter (!·.isEmpty)).map String.ofList

/-- The set that a list text names. -/
def parse (text : String) : Categories :=
  ofList (listedNames text)

/-- The names in order, separated by a comma and a space. -/
def listing (categories : Categories) : String :=
  ", ".intercalate categories.names

/-! ### Membership -/

theorem mem_insert {categories : Categories} {name other : String} :
    other ∈ (categories.insert name).names ↔ other = name ∨ other ∈ categories.names :=
  mem_insertName

theorem mem_extend {categories : Categories} {names : List String} {name : String} :
    name ∈ (categories.extend names).names ↔ name ∈ names ∨ name ∈ categories.names := by
  induction names generalizing categories with
  | nil => simp [extend]
  | cons first rest inductionHypothesis =>
    rw [extend, List.foldl_cons, ← extend, inductionHypothesis, mem_insert, List.mem_cons]
    grind

theorem mem_ofList {names : List String} {name : String} :
    name ∈ (ofList names).names ↔ name ∈ names := by
  simp [ofList, mem_extend, empty]

theorem contains_iff {categories : Categories} {name : String} :
    categories.contains name = true ↔ name ∈ categories.names := by
  simp [contains]

theorem nodup_of_ascending {names : List String} (ascending : Ascending names) : names.Nodup :=
  List.Pairwise.imp (fun {_ _} below equal => by subst equal; exact String.lt_irrefl _ below)
    ascending

/-- Two ascending lists with the same members are the same list. -/
theorem eq_of_mem_iff {first second : List String} (firstAscending : Ascending first)
    (secondAscending : Ascending second) (same : ∀ name, name ∈ first ↔ name ∈ second) :
    first = second := by
  refine List.Perm.eq_of_pairwise (fun left right _ _ below above => ?_) firstAscending
    secondAscending ?_
  · exact absurd (String.lt_trans below above) (String.lt_irrefl left)
  · exact (List.perm_ext_iff_of_nodup (nodup_of_ascending firstAscending)
      (nodup_of_ascending secondAscending)).mpr same

/-- A set is determined by its members. -/
theorem ext_names {first second : Categories}
    (same : ∀ name, name ∈ first.names ↔ name ∈ second.names) : first = second := by
  obtain ⟨firstNames, firstAscending⟩ := first
  obtain ⟨secondNames, secondAscending⟩ := second
  cases eq_of_mem_iff firstAscending secondAscending same
  rfl

end Categories

end Foldback
