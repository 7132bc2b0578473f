/-
Filling, piece by piece. The delimiters of a line, taken from the left so that
they do not overlap, cut the line into pieces in one way only. A piece between
two delimiters is a name: where it is bound, it goes with both delimiters around
it and its value comes; where it is not, it stays with the one before it, and the
piece behind it is the next name.

The pieces never change while this goes on, because filling goes on either behind
the second delimiter or behind the first, and both are ends of pieces. So what is
replaced is settled by the line and by which names are bound; the values come in
afterwards, and nothing in them is looked at.
-/

import Foldback.Proofs.Template.Filling

namespace Foldback.Placeholder

/-! ### Pieces -/

/-- A line cut into pieces at its delimiters: each is the first one in what is left. -/
inductive Cuts : List Char → List (List Char) → Prop where
  | last {line : List Char} (plain : ¬['@', '@'] <:+: line) : Cuts line [line]
  | cut {piece rest : List Char} {later : List (List Char)}
      (leftmost : ¬['@', '@'] <:+: piece ++ ['@']) (behind : Cuts rest later) :
      Cuts (piece ++ '@' :: '@' :: rest) (piece :: later)

/-- Pieces, each behind a delimiter. -/
def delimited (pieces : List (List Char)) : List Char :=
  pieces.flatMap fun piece => '@' :: '@' :: piece

namespace Cuts

variable {line first : List Char} {pieces later : List (List Char)}

theorem of_uncut (uncut : cutDelimiter line = none) : Cuts line pieces ↔ pieces = [line] := by
  constructor
  · intro cuts
    cases cuts with
    | last => rfl
    | cut leftmost behind =>
      rw [cutDelimiter_of_leftmost leftmost] at uncut
      cases uncut
  · rintro rfl
    exact .last (plain_of_cutDelimiter uncut)

theorem of_cut {before behind : List Char} (cut : cutDelimiter line = some (before, behind)) :
    Cuts line pieces ↔ ∃ later, Cuts behind later ∧ pieces = before :: later := by
  constructor
  · intro cuts
    cases cuts with
    | last plain =>
      rw [cutDelimiter_eq_none plain] at cut
      cases cut
    | cut leftmost onward =>
      rw [cutDelimiter_of_leftmost leftmost] at cut
      cases cut
      exact ⟨_, onward, rfl⟩
  · rintro ⟨later, onward, rfl⟩
    rw [cutDelimiter_eq_some cut]
    exact .cut (leftmost_of_cutDelimiter cut) onward

theorem ne_nil (cuts : Cuts line pieces) : pieces ≠ [] := by
  cases cuts <;> exact List.cons_ne_nil _ _

theorem unique {others : List (List Char)} (cuts : Cuts line pieces) (again : Cuts line others) :
    others = pieces := by
  induction cuts generalizing others with
  | last plain => exact (of_uncut (cutDelimiter_eq_none plain)).mp again
  | cut leftmost behind inductionHypothesis =>
    obtain ⟨later, onward, rfl⟩ := (of_cut (cutDelimiter_of_leftmost leftmost _)).mp again
    rw [inductionHypothesis onward]

/-- The pieces and the delimiters between them are the line. -/
theorem joined (cuts : Cuts line (first :: later)) : first ++ delimited later = line := by
  generalize whole : first :: later = pieces at cuts
  induction cuts generalizing first later with
  | last =>
    cases whole
    exact List.append_nil _
  | cut leftmost behind inductionHypothesis =>
    cases whole
    obtain ⟨next, more, rfl⟩ := List.exists_cons_of_ne_nil behind.ne_nil
    rw [delimited, List.flatMap_cons, ← inductionHypothesis rfl]
    rfl

end Cuts

/-- Every line can be cut. -/
theorem exists_cuts (line : List Char) : ∃ first later, Cuts line (first :: later) := by
  cases found : cutDelimiter line with
  | none => exact ⟨line, [], (Cuts.of_uncut found).mpr rfl⟩
  | some parts =>
    obtain ⟨before, behind⟩ := parts
    have shorter := length_of_cutDelimiter found
    obtain ⟨first, later, onward⟩ := exists_cuts behind
    exact ⟨before, first :: later, (Cuts.of_cut found).mpr ⟨_, onward, rfl⟩⟩
termination_by line.length
decreasing_by omega

/-! ### Filling the pieces -/

/-- What is written for the pieces behind the first one. -/
def refill (lookup : String → Option String) : List (List Char) → List Char
  | [] => []
  | [piece] => '@' :: '@' :: piece
  | name :: piece :: rest =>
    match lookup (String.ofList name) with
    | some value => value.toList ++ piece ++ refill lookup rest
    | none => '@' :: '@' :: name ++ refill lookup (piece :: rest)

variable {lookup : String → Option String}

/-- Filling a line fills its pieces. -/
theorem fill_of_cuts {line first : List Char} {later : List (List Char)}
    (cuts : Cuts line (first :: later)) : fill lookup line = first ++ refill lookup later := by
  fun_induction fill lookup line generalizing first later with
  | case1 line uncut =>
    cases (Cuts.of_uncut uncut).mp cuts
    exact (List.append_nil line).symm
  | case2 line before opened cut unclosed =>
    obtain ⟨more, onward, same⟩ := (Cuts.of_cut cut).mp cuts
    cases same
    cases (Cuts.of_uncut unclosed).mp onward
    rfl
  | case3 line before opened cut name closed closing value bound inductionHypothesis =>
    obtain ⟨more, onward, same⟩ := (Cuts.of_cut cut).mp cuts
    cases same
    obtain ⟨most, behind, rfl⟩ := (Cuts.of_cut closing).mp onward
    obtain ⟨piece, rest, rfl⟩ := List.exists_cons_of_ne_nil behind.ne_nil
    rw [inductionHypothesis behind, refill, bound]
    simp only [List.append_assoc]
  | case4 line before opened cut name closed closing unbound inductionHypothesis =>
    obtain ⟨more, onward, same⟩ := (Cuts.of_cut cut).mp cuts
    cases same
    obtain ⟨most, behind, rfl⟩ := (Cuts.of_cut closing).mp onward
    obtain ⟨piece, rest, rfl⟩ := List.exists_cons_of_ne_nil behind.ne_nil
    rw [inductionHypothesis onward, refill, unbound]
    rfl

/-- Where no name between two delimiters is bound, the pieces are written as they are. -/
theorem refill_of_unbound {pieces : List (List Char)}
    (unbound : ∀ name ∈ pieces.dropLast, lookup (String.ofList name) = none) :
    refill lookup pieces = delimited pieces := by
  fun_induction refill lookup pieces with
  | case1 => rfl
  | case2 piece => exact (List.append_nil _).symm
  | case3 name piece rest value bound =>
    rw [unbound name List.mem_cons_self] at bound
    cases bound
  | case4 name piece rest _ inductionHypothesis =>
    rw [inductionHypothesis fun other member => unbound other (List.mem_cons_of_mem _ member)]
    rfl

/-! ### The parts of a line -/

/-- A part of a line: a character that stays, or a placeholder that is filled. -/
inductive Part where
  | kept (character : Char)
  | filled (name : String)
  deriving DecidableEq, Repr

namespace Part

/-- How the part stands in the line. -/
def source : Part → List Char
  | .kept character => [character]
  | .filled name => '@' :: '@' :: name.toList ++ ['@', '@']

/-- How the part is written. -/
def written (lookup : String → Option String) : Part → List Char
  | .kept character => [character]
  | .filled name => ((lookup name).getD "").toList

theorem flatMap_source_kept (text : List Char) : (text.map kept).flatMap source = text := by
  rw [List.flatMap_map]
  exact List.flatMap_singleton' text

theorem flatMap_written_kept (text : List Char) :
    (text.map kept).flatMap (written lookup) = text := by
  rw [List.flatMap_map]
  exact List.flatMap_singleton' text

end Part

/-- The parts of the pieces behind the first one, under the names that are bound. -/
def partsBehind (bound : String → Bool) : List (List Char) → List Part
  | [] => []
  | [piece] => ('@' :: '@' :: piece).map .kept
  | name :: piece :: rest =>
    if bound (String.ofList name) then
      .filled (String.ofList name) :: piece.map .kept ++ partsBehind bound rest
    else ('@' :: '@' :: name).map .kept ++ partsBehind bound (piece :: rest)

theorem source_partsBehind (bound : String → Bool) (pieces : List (List Char)) :
    (partsBehind bound pieces).flatMap Part.source = delimited pieces := by
  fun_induction partsBehind bound pieces with
  | case1 => rfl
  | case2 piece =>
    rw [Part.flatMap_source_kept]
    exact (List.append_nil _).symm
  | case3 name piece rest _ inductionHypothesis =>
    rw [List.cons_append, List.flatMap_cons, List.flatMap_append, Part.flatMap_source_kept,
      inductionHypothesis, Part.source, String.toList_ofList]
    simp [delimited]
  | case4 name piece rest _ inductionHypothesis =>
    rw [List.flatMap_append, Part.flatMap_source_kept, inductionHypothesis]
    rfl

theorem written_partsBehind {bound : String → Bool}
    (same : ∀ name, (lookup name).isSome = bound name) (pieces : List (List Char)) :
    (partsBehind bound pieces).flatMap (Part.written lookup) = refill lookup pieces := by
  fun_induction partsBehind bound pieces with
  | case1 => rfl
  | case2 piece =>
    rw [Part.flatMap_written_kept]
    rfl
  | case3 name piece rest named inductionHypothesis =>
    obtain ⟨value, found⟩ := Option.isSome_iff_exists.mp ((same _).trans named)
    rw [List.cons_append, List.flatMap_cons, List.flatMap_append, Part.flatMap_written_kept,
      inductionHypothesis, Part.written, refill, found]
    simp
  | case4 name piece rest unnamed inductionHypothesis =>
    have missing : lookup (String.ofList name) = none := by
      rw [← Option.not_isSome_iff_eq_none, same]
      exact unnamed
    rw [List.flatMap_append, Part.flatMap_written_kept, inductionHypothesis, refill, missing]

theorem bound_of_mem_partsBehind {bound : String → Bool} {pieces : List (List Char)}
    {name : String} (member : .filled name ∈ partsBehind bound pieces) : bound name = true := by
  have notKept (text : List Char) : Part.filled name ∉ text.map .kept := by
    simp
  fun_induction partsBehind bound pieces with
  | case1 => cases member
  | case2 piece => exact absurd member (notKept _)
  | case3 found piece rest named inductionHypothesis =>
    rcases List.mem_cons.mp member with here | behind
    · cases here
      exact named
    · exact inductionHypothesis ((List.mem_append.mp behind).resolve_left (notKept _))
  | case4 found piece rest unnamed inductionHypothesis =>
    exact inductionHypothesis ((List.mem_append.mp member).resolve_left (notKept _))

/-! ### Filling a line -/

/-- Where no name is bound, a line is left as it is. -/
theorem substitute_of_unbound (unbound : ∀ name, lookup name = none) (line : String) :
    substitute lookup line = line := by
  obtain ⟨first, later, cuts⟩ := exists_cuts line.toList
  rw [substitute, fill_of_cuts cuts, refill_of_unbound fun name _ => unbound _, cuts.joined,
    String.ofList_toList]

/-- A line is filled piece by piece, and only its bound names are replaced: which parts of it are
placeholders is settled before any value is known, and all others stay. Where no name between two
delimiters is bound, nothing happens. -/
theorem substitute_eq_refill (line : String) :
    ∃ first later, (∀ pieces, Cuts line.toList pieces ↔ pieces = first :: later) ∧
      (∀ lookup, substitute lookup line = String.ofList (first ++ refill lookup later)) ∧
      (∀ bound : String → Bool, ∃ parts : List Part, parts.flatMap Part.source = line.toList ∧
        (∀ name, .filled name ∈ parts → bound name = true) ∧
        ∀ lookup, (∀ name, (lookup name).isSome = bound name) →
          substitute lookup line = String.ofList (parts.flatMap (Part.written lookup))) ∧
      ∀ lookup, (∀ name ∈ later.dropLast, lookup (String.ofList name) = none) →
        substitute lookup line = line := by
  obtain ⟨first, later, cuts⟩ := exists_cuts line.toList
  have filled (lookup : String → Option String) :
      substitute lookup line = String.ofList (first ++ refill lookup later) := by
    rw [substitute, fill_of_cuts cuts]
  refine ⟨first, later, fun pieces => ⟨cuts.unique, fun same => same ▸ cuts⟩, filled,
    fun bound => ?_, fun lookup unbound => ?_⟩
  · refine ⟨first.map .kept ++ partsBehind bound later, ?_, fun name member => ?_,
      fun lookup same => ?_⟩
    · rw [List.flatMap_append, Part.flatMap_source_kept, source_partsBehind, cuts.joined]
    · refine bound_of_mem_partsBehind ((List.mem_append.mp member).resolve_left ?_)
      simp
    · rw [filled, List.flatMap_append, Part.flatMap_written_kept, written_partsBehind same]
  · rw [filled, refill_of_unbound unbound, cuts.joined, String.ofList_toList]

-- The value of a name is not looked at, and an unbound name gives its second delimiter away.
example : substitute (fun name => [("port", "80"), ("hook", "@@port@@")].lookup name)
    "@@hook@@@@host@@port@@:@@" = "@@port@@@@host80:@@" := by cbv

end Foldback.Placeholder
