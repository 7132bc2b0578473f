/-
Paths that are written from names. Joined by slashes the names are the pieces of
the path, so the path leads down through them, and one more name can be written
behind.
-/

import Foldback.Proofs.Disk.Tree

namespace Foldback.Path

/-- A name that leads down, though it may be too long. -/
structure Name (name : String) : Prop where
  single : '/' ∉ name.toList
  text : '\x00' ∉ name.toList
  busy : isIdle name = false
  down : name ≠ ".."

theorem Name.ne_empty {name : String} (named : Name name) : name ≠ "" := by
  rintro rfl
  exact absurd named.busy (by decide)

theorem plain_of_names {names : List String} (some : names ≠ [])
    (named : ∀ name ∈ names, Name name) : Plain ("/".intercalate names) := by
  intro piece member
  rw [pieces_intercalate some fun name listed => (named name listed).single] at member
  refine ⟨?_, (named piece member).down⟩
  rintro rfl
  exact absurd (named _ member).busy (by decide)

theorem isAbsolute_of_names {first : String} (rest : List String) (named : Name first) :
    isAbsolute ("/".intercalate (first :: rest)) = false := by
  obtain ⟨head, more, characters⟩ :=
    List.exists_cons_of_ne_nil (mt String.toList_eq_nil_iff.mp named.ne_empty)
  have other : head ≠ '/' := fun same => named.single (by rw [characters, same]; simp)
  unfold isAbsolute
  rw [String.toList_intercalate, List.map_cons]
  cases rest with
  | nil => simpa [List.intercalate, characters] using other
  | cons next later => simpa [List.intercalate, characters] using other

theorem intercalate_ne_empty {names : List String} (some : names ≠ [])
    (named : ∀ name ∈ names, Name name) : "/".intercalate names ≠ "" := by
  intro empty
  have whole := pieces_intercalate some fun name member => (named name member).single
  have ends : pieces "" = [""] := by decide +kernel
  obtain ⟨first, rest, rfl⟩ := List.exists_cons_of_ne_nil some
  rw [empty, ends] at whole
  exact (named first List.mem_cons_self).ne_empty (List.cons.inj whole).1.symm

/-- A path that is written from names leads through these names. -/
theorem route_of_names {names : List String} (some : names ≠ []) (named : ∀ name ∈ names, Name name)
    (short : ("/".intercalate names).utf8ByteSize ≤ longestPath) :
    route ("/".intercalate names) = .ok ⟨false, names, false, false⟩ := by
  have whole := pieces_intercalate some fun name member => (named name member).single
  have busy : names.filter (!isIdle ·) = names := List.filter_eq_self.mpr fun name member => by
    rw [(named name member).busy]
    rfl
  have full : names.filter (!·.isEmpty) = names := List.filter_eq_self.mpr fun name member => by
    simpa using (named name member).ne_empty
  have last := (named _ (List.getLast_mem some)).busy
  have pointed : names.getLast some ≠ "." := fun point => by
    rw [point] at last
    exact absurd last (by decide)
  have nul : '\x00' ∉ ("/".intercalate names).toList := by
    rw [String.toList_intercalate]
    intro member
    rcases Text.mem_of_mem_intercalate member with slash | ⟨part, listed, inside⟩
    · exact absurd slash (by decide)
    · obtain ⟨name, given, rfl⟩ := List.mem_map.mp listed
      exact (named name given).text inside
  obtain ⟨first, rest, rfl⟩ := List.exists_cons_of_ne_nil some
  refine route_eq_ok_iff.mpr ⟨nul, intercalate_ne_empty some named, short, ?_⟩
  rw [whole, busy, full, isAbsolute_of_names rest (named first List.mem_cons_self),
      List.getLast?_eq_some_getLast some, Option.any_some, last, beq_eq_false_iff_ne.mpr]
  exact fun same => pointed (Option.some.inj same)

/-- One more name is written behind a path. -/
theorem join_of_names {names : List String} {file : String} (some : names ≠ [])
    (named : ∀ name ∈ names, Name name) (fileNamed : Name file) :
    join ("/".intercalate names) file = "/".intercalate (names ++ [file]) := by
  have relative : isAbsolute file = false := isAbsolute_of_names [] fileNamed
  have behind : ("/".intercalate names).toList.getLast? ≠ '/' := by
    obtain ⟨text, ends⟩ : ∃ text, "/".intercalate names = text ++ names.getLast some := by
      have whole := List.dropLast_concat_getLast some
      rcases eq_or_ne names.dropLast [] with none | more
      · rw [none, List.nil_append] at whole
        exact ⟨"", (congrArg "/".intercalate whole.symm).trans String.empty_append.symm⟩
      · exact ⟨_, (congrArg "/".intercalate whole.symm).trans
          (String.intercalate_append_of_ne_nil more (List.cons_ne_nil _ []))⟩
    have last := named _ (List.getLast_mem some)
    have full := mt String.toList_eq_nil_iff.mp last.ne_empty
    rw [ends, String.toList_append, List.getLast?_append_of_ne_nil _ full,
      List.getLast?_eq_some_getLast full]
    exact fun same => last.single (Option.some.inj same ▸ List.getLast_mem full)
  rw [join, relative, Bool.false_or, if_neg (by simpa using intercalate_ne_empty some named),
    if_neg (mt beq_iff_eq.mp behind),
    String.intercalate_append_of_ne_nil some (List.cons_ne_nil file [])]
  rfl

end Foldback.Path
