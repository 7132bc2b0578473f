/-
Sorted lists of names. A set of names is kept as the list of its members in
code point order without repetition; `insertName` is the one operation that
builds such a list, and keeps it strictly ascending.
-/

namespace Foldback.Text

/-- Puts a name at its place in an ascending list, unless it is there already. -/
def insertName (name : String) : List String → List String
  | [] => [name]
  | head :: rest =>
    if name < head then name :: head :: rest
    else if name = head then head :: rest
    else head :: insertName name rest

/-- The ascending list of the names of a list. -/
def sortNames (names : List String) : List String :=
  names.foldl (fun sorted name => insertName name sorted) []

/-- Strictly ascending lists of names. -/
abbrev Ascending (names : List String) : Prop :=
  names.Pairwise (· < ·)

theorem mem_insertName {name other : String} {names : List String} :
    other ∈ insertName name names ↔ other = name ∨ other ∈ names := by
  induction names with
  | nil => simp [insertName]
  | cons head rest inductionHypothesis =>
    simp only [insertName]
    split
    · simp
    · split
      · rename_i same
        subst same
        simp
      · simp only [List.mem_cons, inductionHypothesis]
        grind

theorem ascending_insertName {names : List String} (name : String) (ascending : Ascending names) :
    Ascending (insertName name names) := by
  induction names with
  | nil => simp [insertName, Ascending]
  | cons head rest inductionHypothesis =>
    obtain ⟨above, restAscending⟩ := List.pairwise_cons.mp ascending
    simp only [insertName]
    split
    · rename_i below
      refine List.pairwise_cons.mpr ⟨fun other member => ?_, ascending⟩
      rcases List.mem_cons.mp member with rfl | inRest
      · exact below
      · exact String.lt_trans below (above other inRest)
    · split
      · exact ascending
      · rename_i notBelow different
        refine List.pairwise_cons.mpr ⟨fun other member => ?_, inductionHypothesis restAscending⟩
        rcases mem_insertName.mp member with rfl | inRest
        · exact (Std.lt_trichotomy other head).resolve_left notBelow |>.resolve_left different
        · exact above other inRest

theorem ascending_foldl_insertName (names : List String) {sorted : List String}
    (ascending : Ascending sorted) :
    Ascending (names.foldl (fun sorted name => insertName name sorted) sorted) := by
  induction names generalizing sorted with
  | nil => exact ascending
  | cons name rest inductionHypothesis =>
    exact inductionHypothesis (ascending_insertName name ascending)

theorem mem_foldl_insertName (names : List String) {sorted : List String} {name : String} :
    name ∈ names.foldl (fun sorted name => insertName name sorted) sorted ↔
      name ∈ names ∨ name ∈ sorted := by
  induction names generalizing sorted with
  | nil => simp
  | cons first rest inductionHypothesis =>
    simp only [List.foldl_cons, inductionHypothesis, mem_insertName, List.mem_cons]
    grind

theorem ascending_sortNames (names : List String) : Ascending (sortNames names) :=
  ascending_foldl_insertName names List.Pairwise.nil

theorem mem_sortNames {names : List String} {name : String} :
    name ∈ sortNames names ↔ name ∈ names := by
  simp [sortNames, mem_foldl_insertName]

end Foldback.Text
