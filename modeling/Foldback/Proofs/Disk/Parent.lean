/-
The path of the directory that a path needs. Its text is a beginning of the text
of the path, so the system takes it whenever it takes the path, and both start at
the same place. Its names are the names of the path without the last one: the
idle pieces that are dropped on the way are no names.
-/

import Mathlib.Data.List.Basic
import Foldback.Disk.Path
import Foldback.Proofs.Text.Lines

namespace Foldback.Path

/-! ### Pieces -/

theorem slash_not_mem_of_mem_splitOn (text : List Char) :
    ∀ piece ∈ text.splitOn '/', '/' ∉ piece := by
  induction text with
  | nil => simp
  | cons character rest inductionHypothesis =>
    rw [List.splitOn_cons_eq_if_modifyHead]
    split
    · exact List.forall_mem_cons.mpr ⟨List.not_mem_nil, inductionHypothesis⟩
    next other =>
      have unequal : '/' ≠ character := fun same => other (beq_iff_eq.mpr same.symm)
      cases cut : rest.splitOn '/' with
      | nil => exact absurd cut (List.splitOn_ne_nil '/' rest)
      | cons first more =>
        rw [cut] at inductionHypothesis
        obtain ⟨inFirst, inMore⟩ := List.forall_mem_cons.mp inductionHypothesis
        refine List.forall_mem_cons.mpr ⟨?_, inMore⟩
        rw [List.mem_cons, not_or]
        exact ⟨unequal, inFirst⟩

theorem slash_not_mem_of_mem_pieces {path piece : String} (member : piece ∈ pieces path) :
    '/' ∉ piece.toList := by
  obtain ⟨characters, cut, rfl⟩ := List.mem_map.mp member
  rw [String.toList_ofList]
  exact slash_not_mem_of_mem_splitOn path.toList characters cut

theorem intercalate_pieces (path : String) : "/".intercalate (pieces path) = path := by
  have characters : (pieces path).map String.toList = path.toList.splitOn '/' := by
    unfold pieces
    rw [List.map_map]
    exact (List.map_congr_left fun piece _ => String.toList_ofList).trans (List.map_id _)
  rw [← String.toList_inj, String.toList_intercalate, characters]
  exact List.intercalate_splitOn '/'

theorem pieces_intercalate {parts : List String} (some : parts ≠ [])
    (plain : ∀ part ∈ parts, '/' ∉ part.toList) : pieces ("/".intercalate parts) = parts := by
  unfold pieces
  rw [String.toList_intercalate, show "/".toList = ['/'] from rfl, List.splitOn_intercalate '/'
    (by simpa using plain) (by simpa using some), Text.map_ofList_toList]

/-! ### Idle pieces -/

/-- The pieces that are dropped from the end are idle. -/
theorem exists_append_dropIdle (parts : List String) :
    ∃ idle, parts = idle ++ dropIdle parts ∧ idle.filter (!isIdle ·) = [] := by
  fun_induction dropIdle parts with
  | case1 last before more idle inductionHypothesis =>
    obtain ⟨rest, split, quiet⟩ := inductionHypothesis
    refine ⟨last :: rest, congrArg (last :: ·) split, ?_⟩
    rw [List.filter_cons_of_neg (by simpa using idle), quiet]
  | case2 => exact ⟨[], rfl, rfl⟩
  | case3 => exact ⟨[], rfl, rfl⟩

/-- Only a piece that stands alone can be idle and stay. -/
theorem not_isIdle_of_dropIdle {parts before : List String} {last : String}
    (dropped : dropIdle parts = last :: before) (more : before ≠ []) : isIdle last = false := by
  fun_induction dropIdle parts with
  | case1 first second rest idle inductionHypothesis => exact inductionHypothesis dropped
  | case2 first second rest busy =>
    cases dropped
    exact Bool.eq_false_iff.mpr busy
  | case3 parts short =>
    cases dropped
    cases before with
    | nil => exact absurd rfl more
    | cons second rest => exact absurd rfl (short last second rest)

theorem dropIdle_ne_nil {parts : List String} (some : parts ≠ []) : dropIdle parts ≠ [] := by
  fun_induction dropIdle parts with
  | case1 last before more idle inductionHypothesis =>
    exact inductionHypothesis (List.cons_ne_nil before more)
  | case2 => exact some
  | case3 => exact some

/-! ### The parent -/

/-- The text of some pieces of a path; the empty first piece alone is the top. -/
def spelled (parts : List String) : String :=
  if parts == [""] then "/" else "/".intercalate parts

/-- The parent keeps the first pieces of a path; the others hold its last name. -/
theorem exists_pieces_of_parent {path above : String} (parent : parent? path = some above)
    (named : above ≠ "") :
    ∃ kept behind last, pieces path = kept ++ behind ∧ kept ≠ [] ∧ behind ≠ [] ∧
      behind.filter (!isIdle ·) = [last] ∧ above = spelled kept := by
  obtain ⟨trailing, whole, trailingIdle⟩ := exists_append_dropIdle (pieces path).reverse
  unfold parent? at parent
  cases dropped : dropIdle (pieces path).reverse with
  | nil =>
    rw [dropped] at parent
    cases parent
  | cons last before =>
    rw [dropped] at parent whole
    cases before with
    | nil =>
      -- the path has one piece: it has no parent, or the empty one
      dsimp only at parent
      split at parent
      · cases parent
      · exact absurd (Option.some.inj parent).symm named
    | cons next more =>
      dsimp only at parent
      have busy := not_isIdle_of_dropIdle dropped (List.cons_ne_nil next more)
      obtain ⟨between, rest, betweenIdle⟩ := exists_append_dropIdle (next :: more)
      have some := dropIdle_ne_nil (List.cons_ne_nil next more)
      generalize dropIdle (next :: more) = kept at parent rest some
      refine ⟨kept.reverse, (trailing ++ last :: between).reverse, last, ?_, ?_, ?_, ?_, ?_⟩
      · rw [← List.reverse_append, List.append_assoc, List.cons_append, ← rest, ← whole,
          List.reverse_reverse]
      · exact mt List.reverse_eq_nil_iff.mp some
      · simp
      · rw [List.filter_reverse, List.filter_append, trailingIdle, List.nil_append,
          List.filter_cons_of_pos (by simpa using busy), betweenIdle]
        rfl
      · have top : (kept.reverse == [""]) = (kept == [""]) := by
          rw [Bool.eq_iff_iff, beq_iff_eq, beq_iff_eq, List.reverse_eq_iff]
          rfl
        rw [← apply_ite Option.some] at parent
        rw [spelled, top]
        exact (Option.some.inj parent).symm

/-- The text of the first pieces is a beginning of the text of all. -/
theorem exists_append_spelled {kept behind : List String} (first : kept ≠ []) (more : behind ≠ []) :
    ∃ rest, "/".intercalate (kept ++ behind) = spelled kept ++ rest := by
  rw [String.intercalate_append_of_ne_nil first more]
  unfold spelled
  split
  next top =>
    rw [beq_iff_eq.mp top]
    exact ⟨_, rfl⟩
  next => exact ⟨_, String.append_assoc⟩

theorem route_eq_ok_iff {path : String} {taken : Route} :
    route path = .ok taken ↔ '\x00' ∉ path.toList ∧ path ≠ "" ∧ path.utf8ByteSize ≤ longestPath ∧
      taken = ⟨isAbsolute path, (pieces path).filter (!isIdle ·), (pieces path).getLast?.any isIdle,
        ((pieces path).filter (!·.isEmpty)).getLast? == some "."⟩ := by
  unfold route
  by_cases nul : '\x00' ∈ path.toList
  · rw [if_pos (List.contains_iff_mem.mpr nul)]
    exact ⟨fun routed => (nomatch routed), fun accepted => absurd nul accepted.1⟩
  rw [if_neg (mt List.contains_iff_mem.mp nul)]
  by_cases text : path = ""
  · rw [if_pos (by rw [text]; rfl)]
    exact ⟨fun routed => (nomatch routed), fun accepted => absurd text accepted.2.1⟩
  rw [if_neg (by simpa using text)]
  by_cases long : longestPath < path.utf8ByteSize
  · rw [if_pos long]
    exact ⟨fun routed => (nomatch routed),
      fun accepted => absurd accepted.2.2.1 (Nat.not_le_of_lt long)⟩
  rw [if_neg long, Except.ok.injEq]
  exact ⟨fun same => ⟨nul, text, Nat.le_of_not_lt long, same.symm⟩,
    fun accepted => accepted.2.2.2.symm⟩

/-- Nothing is where only the empty path would lead. -/
theorem eq_empty_of_route {path : String} (missing : route path = .error .notFound) :
    path = "" := by
  unfold route at missing
  split at missing
  · cases missing
  · split at missing
    next empty => simpa using empty
    · split at missing <;> cases missing

/-- The directory that a path needs is where the names before the last one lead. -/
theorem route_of_parent {path above : String} {taken : Route} (routed : route path = .ok taken)
    (parent : parent? path = some above) (named : above ≠ "") :
    ∃ way, route above = .ok way ∧ way.absolute = taken.absolute ∧
      way.names = taken.names.dropLast := by
  obtain ⟨plain, text, short, rfl⟩ := route_eq_ok_iff.mp routed
  obtain ⟨kept, behind, last, split, first, more, name, rfl⟩ := exists_pieces_of_parent parent named
  obtain ⟨rest, whole⟩ := exists_append_spelled first more
  rw [← split, intercalate_pieces] at whole
  have inside : '\x00' ∉ (spelled kept).toList := fun member => plain (by
    rw [whole, String.toList_append]
    exact List.mem_append_left _ member)
  have shorter : (spelled kept).utf8ByteSize ≤ longestPath := by
    rw [whole, String.utf8ByteSize_append] at short
    exact Nat.le_of_add_right_le short
  refine ⟨_, route_eq_ok_iff.mpr ⟨inside, named, shorter, rfl⟩, ?_, ?_⟩
  · show isAbsolute (spelled kept) = isAbsolute path
    unfold isAbsolute
    rw [whole, String.toList_append, List.head?_append_of_ne_nil]
    simpa using named
  · show (pieces (spelled kept)).filter (!isIdle ·) = ((pieces path).filter (!isIdle ·)).dropLast
    rw [split, List.filter_append, name, List.dropLast_concat, spelled]
    by_cases top : kept = [""]
    · rw [top]
      decide +kernel
    · have plain : ∀ part ∈ kept, '/' ∉ part.toList := by
        intro part member
        have inside : part ∈ pieces path := by
          rw [split]
          exact List.mem_append_left behind member
        exact slash_not_mem_of_mem_pieces inside
      rw [if_neg (mt beq_iff_eq.mp top), pieces_intercalate first plain]

/-- A path whose parent is not written has one name at most. -/
theorem dropLast_of_no_parent {path : String} {taken : Route} (routed : route path = .ok taken)
    (nowhere : (parent? path).getD "" = "") : taken.names.dropLast = [] := by
  obtain ⟨-, -, -, rfl⟩ := route_eq_ok_iff.mp routed
  obtain ⟨trailing, whole, trailingIdle⟩ := exists_append_dropIdle (pieces path).reverse
  have names : (pieces path).filter (!isIdle ·) =
      ((dropIdle (pieces path).reverse).filter (!isIdle ·)).reverse := by
    have cut := congrArg (List.filter (!isIdle ·)) whole
    rw [List.filter_append, trailingIdle, List.nil_append, List.filter_reverse] at cut
    rw [← cut, List.reverse_reverse]
  show ((pieces path).filter (!isIdle ·)).dropLast = []
  rw [names]
  unfold parent? at nowhere
  cases dropped : dropIdle (pieces path).reverse with
  | nil => rfl
  | cons last before =>
    rw [dropped] at nowhere whole
    cases before with
    | nil =>
      rw [List.filter_cons]
      split <;> rfl
    | cons next more =>
      exfalso
      dsimp only at nowhere
      split at nowhere
      · exact absurd nowhere (by decide)
      next other =>
        obtain ⟨between, rest, -⟩ := exists_append_dropIdle (next :: more)
        have some : (dropIdle (next :: more)).reverse ≠ [] :=
          mt List.reverse_eq_nil_iff.mp (dropIdle_ne_nil (List.cons_ne_nil next more))
        have plain : ∀ part ∈ (dropIdle (next :: more)).reverse, '/' ∉ part.toList := by
          intro part member
          have inside : part ∈ (pieces path).reverse := by
            rw [whole, rest]
            simp [List.mem_reverse.mp member]
          exact slash_not_mem_of_mem_pieces (List.mem_reverse.mp inside)
        have kept := pieces_intercalate some plain
        rw [show "/".intercalate _ = "" from nowhere] at kept
        have empty : pieces "" = [""] := by decide +kernel
        rw [empty, eq_comm, List.reverse_eq_iff] at kept
        exact other (beq_iff_eq.mpr kept)

end Foldback.Path
