/-
Which placeholders a line keeps. A scan that looks for a bound placeholder at
every place fills each of them, unless it begins inside one that was filled
before. Filling does not look at every place: it takes delimiters two characters
at a time, and where no bound placeholder begins at a delimiter, it goes on
behind both of its characters.

What it misses is told by the run of `@` that leads up to a placeholder: behind
an even number of them it is filled, behind an odd number it is kept, because the
delimiter that would open it is never tried.
-/

import Mathlib.Algebra.Group.Nat.Even
import Mathlib.Data.List.DropRight
import Foldback.Proofs.Template.Pieces

namespace Foldback.Placeholder

variable {lookup : String → Option String} {text rest before : List Char}
  {parts others : List Part} {name other : String}

/-! ### Placeholders -/

/-- No bound name has an `@`. -/
def PlainNames (lookup : String → Option String) : Prop :=
  ∀ name, (lookup name).isSome → '@' ∉ name.toList

/-- A placeholder with a bound name begins the text. -/
def Opens (lookup : String → Option String) (text : List Char) : Prop :=
  ∃ name, (lookup name).isSome ∧ (Part.filled name).source <+: text

theorem leftmost_of_not_mem {name : List Char} (plain : '@' ∉ name) :
    ¬['@', '@'] <:+: name ++ ['@'] := by
  intro inside
  have fewer := inside.sublist.count_le '@'
  rw [List.count_append, List.count_eq_zero_of_not_mem plain] at fewer
  exact absurd fewer (by decide)

theorem placeholder_append (name : String) (rest : List Char) :
    (Part.filled name).source ++ rest = '@' :: '@' :: (name.toList ++ '@' :: '@' :: rest) := by
  simp [Part.source]

/-- The name of a placeholder ends at the first delimiter behind the one that opens it. -/
theorem cutDelimiter_of_placeholder (plain : '@' ∉ name.toList)
    (stands : (Part.filled name).source ++ rest = '@' :: '@' :: text) :
    cutDelimiter text = some (name.toList, rest) := by
  rw [placeholder_append] at stands
  rw [← List.cons_injective (List.cons_injective stands)]
  exact cutDelimiter_of_leftmost (leftmost_of_not_mem plain) rest

/-- At most one placeholder begins a text. -/
theorem placeholder_unique {more : List Char} (plain : '@' ∉ name.toList)
    (plainOther : '@' ∉ other.toList)
    (same : (Part.filled name).source ++ rest = (Part.filled other).source ++ more) :
    name = other ∧ rest = more := by
  have first := cutDelimiter_of_placeholder plain (placeholder_append name rest)
  have second := cutDelimiter_of_placeholder plainOther
    (same.symm.trans (placeholder_append name rest))
  rw [first, Option.some.injEq, Prod.mk.injEq, String.toList_inj] at second
  exact second

theorem not_opens_nil : ¬Opens lookup [] := by
  rintro ⟨name, -, stands⟩
  cases List.prefix_nil.mp stands

/-- Where no delimiter begins, no placeholder does. -/
theorem not_opens_of_apart (apart : ¬['@', '@'] <+: text) : ¬Opens lookup text := by
  rintro ⟨name, -, rest, rfl⟩
  exact apart ⟨_, (placeholder_append name rest).symm⟩

/-- A delimiter opens a bound placeholder if the text behind it, up to the next delimiter, is a
bound name. -/
theorem not_opens_of_cut (plain : PlainNames lookup)
    (unbound : ∀ name closed, cutDelimiter text = some (name, closed) →
      lookup (String.ofList name) = none) : ¬Opens lookup ('@' :: '@' :: text) := by
  rintro ⟨name, bound, closed, stands⟩
  have missing := unbound _ _ (cutDelimiter_of_placeholder (plain name bound) stands)
  rw [String.ofList_toList] at missing
  rw [missing] at bound
  cases bound

/-! ### Two ways through a line -/

/-- The parts of a line for a scan that looks for a placeholder at every place. -/
inductive Scans (lookup : String → Option String) : List Char → List Part → Prop where
  | done : Scans lookup [] []
  | fill {name : String} {rest text : List Char} {parts : List Part}
      (bound : (lookup name).isSome) (stands : (Part.filled name).source ++ rest = text)
      (onward : Scans lookup rest parts) : Scans lookup text (.filled name :: parts)
  | copy {character : Char} {rest : List Char} {parts : List Part}
      (closed : ¬Opens lookup (character :: rest)) (onward : Scans lookup rest parts) :
      Scans lookup (character :: rest) (.kept character :: parts)

/-- The parts of a line for filling, which leaves a delimiter as a whole. -/
inductive Fills (lookup : String → Option String) : List Char → List Part → Prop where
  | done : Fills lookup [] []
  | fill {name : String} {rest text : List Char} {parts : List Part}
      (bound : (lookup name).isSome) (stands : (Part.filled name).source ++ rest = text)
      (onward : Fills lookup rest parts) : Fills lookup text (.filled name :: parts)
  | pass {rest : List Char} {parts : List Part}
      (closed : ¬Opens lookup ('@' :: '@' :: rest)) (onward : Fills lookup rest parts) :
      Fills lookup ('@' :: '@' :: rest) (.kept '@' :: .kept '@' :: parts)
  | copy {character : Char} {rest : List Char} {parts : List Part}
      (apart : ¬['@', '@'] <+: character :: rest) (onward : Fills lookup rest parts) :
      Fills lookup (character :: rest) (.kept character :: parts)

namespace Scans

theorem unique (plain : PlainNames lookup) (scans : Scans lookup text parts)
    (again : Scans lookup text others) : others = parts := by
  induction scans generalizing others with
  | done =>
    cases again with
    | done => rfl
    | fill bound stands onward => exact absurd ⟨_, bound, _, stands⟩ not_opens_nil
  | fill bound stands onward inductionHypothesis =>
    cases again with
    | done => exact absurd ⟨_, bound, _, stands⟩ not_opens_nil
    | fill boundAgain standsAgain onwardAgain =>
      obtain ⟨rfl, rfl⟩ := placeholder_unique (plain _ bound) (plain _ boundAgain)
        (stands.trans standsAgain.symm)
      rw [inductionHypothesis onwardAgain]
    | copy closed _ => exact absurd ⟨_, bound, _, stands⟩ closed
  | copy closed onward inductionHypothesis =>
    cases again with
    | fill bound stands _ => exact absurd ⟨_, bound, _, stands⟩ closed
    | copy _ onwardAgain => rw [inductionHypothesis onwardAgain]

end Scans

/-- Every line can be scanned. -/
theorem exists_scans (lookup : String → Option String) (text : List Char) :
    ∃ parts, Scans lookup text parts := by
  by_cases opens : Opens lookup text
  · obtain ⟨name, bound, rest, stands⟩ := opens
    have shorter : rest.length < text.length := by
      rw [← stands, placeholder_append]
      simp only [List.length_cons, List.length_append]
      omega
    obtain ⟨parts, onward⟩ := exists_scans lookup rest
    exact ⟨_, .fill bound stands onward⟩
  · cases text with
    | nil => exact ⟨[], .done⟩
    | cons character rest =>
      obtain ⟨parts, onward⟩ := exists_scans lookup rest
      exact ⟨_, .copy opens onward⟩
termination_by text.length

namespace Fills

theorem unique (plain : PlainNames lookup) (fills : Fills lookup text parts)
    (again : Fills lookup text others) : others = parts := by
  induction fills generalizing others with
  | done =>
    cases again with
    | done => rfl
    | fill bound stands onward => exact absurd ⟨_, bound, _, stands⟩ not_opens_nil
  | fill bound stands onward inductionHypothesis =>
    cases again with
    | done => exact absurd ⟨_, bound, _, stands⟩ not_opens_nil
    | fill boundAgain standsAgain onwardAgain =>
      obtain ⟨rfl, rfl⟩ := placeholder_unique (plain _ bound) (plain _ boundAgain)
        (stands.trans standsAgain.symm)
      rw [inductionHypothesis onwardAgain]
    | pass closed _ => exact absurd ⟨_, bound, _, stands⟩ closed
    | copy apart _ => exact absurd ⟨_, bound, _, stands⟩ (not_opens_of_apart apart)
  | pass closed onward inductionHypothesis =>
    cases again with
    | fill bound stands _ => exact absurd ⟨_, bound, _, stands⟩ closed
    | pass _ onwardAgain => rw [inductionHypothesis onwardAgain]
    | copy apart _ => exact absurd ⟨_, rfl⟩ apart
  | copy apart onward inductionHypothesis =>
    cases again with
    | fill bound stands _ => exact absurd ⟨_, bound, _, stands⟩ (not_opens_of_apart apart)
    | pass _ _ => exact absurd ⟨_, rfl⟩ apart
    | copy _ onwardAgain => rw [inductionHypothesis onwardAgain]

theorem of_plain (plain : ¬['@', '@'] <:+: text) : Fills lookup text (text.map .kept) := by
  induction text with
  | nil => exact .done
  | cons character rest inductionHypothesis =>
    rw [List.infix_cons_iff, not_or] at plain
    exact .copy plain.1 (inductionHypothesis plain.2)

/-- The text before the first delimiter is copied. -/
theorem behind {opened : List Char} (cut : cutDelimiter text = some (before, opened))
    (onward : Fills lookup ('@' :: '@' :: opened) parts) :
    Fills lookup text (before.map .kept ++ parts) := by
  have leftmost := leftmost_of_cutDelimiter cut
  rw [cutDelimiter_eq_some cut]
  clear cut
  induction before with
  | nil => exact onward
  | cons character rest inductionHypothesis =>
    rw [List.cons_append, List.infix_cons_iff, not_or] at leftmost
    refine .copy (fun early => leftmost.1 ?_) (inductionHypothesis leftmost.2)
    exact (delimiter_prefix_iff character rest opened).mp early

end Fills

/-- Filling goes through a line in its own way. -/
theorem exists_fills (plain : PlainNames lookup) (text : List Char) :
    ∃ parts, Fills lookup text parts ∧ fill lookup text = parts.flatMap (Part.written lookup) := by
  fun_induction fill lookup text with
  | case1 text uncut =>
    exact ⟨_, .of_plain (plain_of_cutDelimiter uncut), (Part.flatMap_written_kept text).symm⟩
  | case2 text before opened cut unclosed =>
    have closed : ¬Opens lookup ('@' :: '@' :: opened) :=
      not_opens_of_cut plain fun name closed found => by
        rw [unclosed] at found
        cases found
    refine ⟨_, .behind cut (.pass closed (.of_plain (plain_of_cutDelimiter unclosed))), ?_⟩
    simp [Part.flatMap_written_kept, Part.written]
  | case3 text before opened cut name closed closing value bound inductionHypothesis =>
    obtain ⟨parts, onward, same⟩ := inductionHypothesis
    have stands : (Part.filled (String.ofList name)).source ++ closed = '@' :: '@' :: opened := by
      rw [placeholder_append, String.toList_ofList, cutDelimiter_eq_some closing]
    refine ⟨_, .behind cut (.fill (Option.isSome_of_eq_some bound) stands onward), ?_⟩
    simp [Part.flatMap_written_kept, Part.written, bound, same]
  | case4 text before opened cut name closed closing unbound inductionHypothesis =>
    obtain ⟨parts, onward, same⟩ := inductionHypothesis
    have untouched : ¬Opens lookup ('@' :: '@' :: opened) :=
      not_opens_of_cut plain fun found rest again => by
        rw [closing] at again
        cases again
        exact unbound
    refine ⟨_, .behind cut (.pass untouched onward), ?_⟩
    simp [Part.flatMap_written_kept, Part.written, same]

/-! ### Places -/

/-- The placeholder behind `before` is one of the parts. -/
def FilledAt (parts : List Part) (before : List Char) (name : String) : Prop :=
  ∃ early late, parts = early ++ .filled name :: late ∧ early.flatMap Part.source = before

/-- A placeholder that is one of the parts begins before the place and ends behind it. -/
def Overlapped (parts : List Part) (place : Nat) : Prop :=
  ∃ early other late, parts = early ++ .filled other :: late ∧
    (early.flatMap Part.source).length < place ∧
    place < (early.flatMap Part.source).length + (Part.filled other).source.length

theorem Part.source_ne_nil (part : Part) : part.source ≠ [] := by
  cases part <;> exact List.cons_ne_nil _ _

theorem filledAt_nil {part : Part} : FilledAt (part :: parts) [] name ↔ part = .filled name := by
  constructor
  · rintro ⟨early, late, whole, empty⟩
    cases early with
    | nil =>
      cases whole
      rfl
    | cons first more =>
      rw [List.flatMap_cons, List.append_eq_nil_iff] at empty
      exact absurd empty.1 first.source_ne_nil
  · rintro rfl
    exact ⟨[], parts, rfl, rfl⟩

theorem filledAt_cons {part : Part} :
    FilledAt (part :: parts) (part.source ++ before) name ↔ FilledAt parts before name := by
  constructor
  · rintro ⟨early, late, whole, same⟩
    cases early with
    | nil => exact absurd (List.append_eq_nil_iff.mp same.symm).1 part.source_ne_nil
    | cons first more =>
      cases whole
      exact ⟨more, late, rfl, List.append_cancel_left same⟩
  · rintro ⟨early, late, rfl, rfl⟩
    exact ⟨part :: early, late, rfl, rfl⟩

theorem not_overlapped_zero : ¬Overlapped parts 0 := by
  rintro ⟨early, other, late, -, fewer, -⟩
  exact absurd fewer (Nat.not_lt_zero _)

theorem overlapped_cons {part : Part} {place : Nat} :
    Overlapped (part :: parts) (part.source.length + place) ↔ Overlapped parts place := by
  constructor
  · rintro ⟨early, other, late, whole, fewer, more⟩
    cases early with
    | nil =>
      cases whole
      simp only [List.flatMap_nil, List.length_nil] at more
      omega
    | cons first rest =>
      cases whole
      rw [List.flatMap_cons, List.length_append] at fewer more
      exact ⟨rest, other, late, rfl, by omega, by omega⟩
  · rintro ⟨early, other, late, rfl, fewer, more⟩
    refine ⟨part :: early, other, late, rfl, ?_, ?_⟩ <;>
      rw [List.flatMap_cons, List.length_append] <;> omega

/-- What stands at a place stands inside or behind the first part. -/
theorem place_cases {part : Part} {inner : List Char}
    (stands : before ++ inner <+: part.source ++ rest) :
    before.length < part.source.length ∨
      ∃ later, before = part.source ++ later ∧ later ++ inner <+: rest := by
  rcases Nat.lt_or_ge before.length part.source.length with inside | beyond
  · exact .inl inside
  · obtain ⟨later, rfl⟩ := List.prefix_of_prefix_length_le (List.prefix_append part.source rest)
      ((List.prefix_append before inner).trans stands) beyond
    rw [List.append_assoc, List.prefix_append_right_inj] at stands
    exact .inr ⟨later, rfl, stands⟩

/-- A placeholder stands at, inside or behind one that is filled. -/
theorem filled_cases {first : String} (plain : PlainNames lookup) (boundFirst : (lookup first).isSome)
    (bound : (lookup name).isSome)
    (stands : before ++ (Part.filled name).source <+: (Part.filled first).source ++ rest) :
    (before = [] ∧ first = name) ∨ Overlapped (.filled first :: parts) before.length ∨
      ∃ later, before = (Part.filled first).source ++ later ∧
        later ++ (Part.filled name).source <+: rest := by
  rcases place_cases stands with inside | behind
  · cases before with
    | nil =>
      obtain ⟨more, same⟩ := stands
      exact .inl ⟨rfl, (placeholder_unique (plain _ bound) (plain _ boundFirst) same).1.symm⟩
    | cons character before =>
      refine .inr (.inl ⟨[], first, parts, rfl, Nat.succ_pos _, ?_⟩)
      rwa [List.flatMap_nil, List.length_nil, Nat.zero_add]
  · exact .inr (.inr behind)

/-- No placeholder stands at a character that is copied. -/
theorem kept_cases {character : Char} (closed : ¬Opens lookup (character :: rest))
    (bound : (lookup name).isSome)
    (stands : before ++ (Part.filled name).source <+: character :: rest) :
    ∃ later, before = (Part.kept character).source ++ later ∧
      later ++ (Part.filled name).source <+: rest := by
  have split : character :: rest = (Part.kept character).source ++ rest := rfl
  rw [split] at stands
  refine (place_cases stands).resolve_left fun inside => ?_
  rw [List.eq_nil_of_length_eq_zero (Nat.lt_one_iff.mp inside)] at stands
  exact closed ⟨name, bound, stands⟩

/-- What a scan meets: every bound placeholder is filled, or begins inside one that is. -/
theorem Scans.reached (plain : PlainNames lookup) (scans : Scans lookup text parts)
    (bound : (lookup name).isSome) (stands : before ++ (Part.filled name).source <+: text) :
    Overlapped parts before.length ∨ FilledAt parts before name := by
  induction scans generalizing before with
  | done =>
    have empty := List.prefix_nil.mp stands
    exact absurd (List.append_eq_nil_iff.mp empty).2 (Part.source_ne_nil _)
  | fill boundFirst standsFirst onward inductionHypothesis =>
    subst standsFirst
    rcases filled_cases plain boundFirst bound stands with
      ⟨rfl, rfl⟩ | inside | ⟨later, rfl, behind⟩
    · exact .inr (filledAt_nil.mpr rfl)
    · exact .inl inside
    · rw [List.length_append, overlapped_cons, filledAt_cons]
      exact inductionHypothesis behind
  | copy closed onward inductionHypothesis =>
    obtain ⟨later, rfl, behind⟩ := kept_cases closed bound stands
    rw [List.length_append, overlapped_cons, filledAt_cons]
    exact inductionHypothesis behind

/-! ### Runs of marks -/

/-- The length of the run of `@` that a text ends with. -/
def marksBehind (text : List Char) : Nat :=
  (text.rtakeWhile (· == '@')).length

theorem marksBehind_mark (text : List Char) : marksBehind (text ++ ['@']) = marksBehind text + 1 := by
  simp [marksBehind]

theorem marksBehind_other {character : Char} (different : character ≠ '@') (text : List Char) :
    marksBehind (text ++ [character]) = 0 := by
  simp [marksBehind, different]

theorem even_marksBehind_delimiter (text : List Char) :
    Even (marksBehind (text ++ ['@', '@'])) ↔ Even (marksBehind text) := by
  have split : text ++ ['@', '@'] = text ++ ['@'] ++ ['@'] := by simp
  rw [split, marksBehind_mark, marksBehind_mark]
  simp [Nat.even_add_one]

/-- A placeholder ends with a delimiter, and only an empty name joins it to the other one. -/
theorem even_marksBehind_placeholder (plain : '@' ∉ name.toList)
    (even : Even (marksBehind text)) : Even (marksBehind (text ++ (Part.filled name).source)) := by
  have split : text ++ (Part.filled name).source =
      text ++ ['@', '@'] ++ name.toList ++ ['@', '@'] := by simp [Part.source]
  rw [split, even_marksBehind_delimiter]
  rcases List.eq_nil_or_concat name.toList with empty | ⟨front, last, ends⟩
  · rwa [empty, List.append_nil, even_marksBehind_delimiter]
  · have different : last ≠ '@' := by
      rintro rfl
      exact plain (by simp [ends])
    rw [ends, List.concat_eq_append, ← List.append_assoc, marksBehind_other different]
    exact Even.zero

/-! ### What filling meets -/

/-- A placeholder that begins with the second character of a delimiter that is passed over. -/
theorem not_filledAt_passed : ¬FilledAt (.kept '@' :: .kept '@' :: parts) ['@'] name := by
  have split : ['@'] = (Part.kept '@').source ++ [] := rfl
  rw [split, filledAt_cons, filledAt_nil]
  exact Part.noConfusion

theorem not_overlapped_passed : ¬Overlapped (.kept '@' :: .kept '@' :: parts) 1 := by
  have split : 1 = (Part.kept '@').source.length + 0 := rfl
  rw [split, overlapped_cons]
  exact not_overlapped_zero

/-- What filling meets, from the left: the run of `@` behind what is done is even wherever another
`@` follows, so a placeholder is passed over exactly where it stands behind an odd run. -/
theorem Fills.reached (plain : PlainNames lookup) (fills : Fills lookup text parts)
    {done : List Char} (paired : text.head? = some '@' → Even (marksBehind done))
    (bound : (lookup name).isSome) (stands : before ++ (Part.filled name).source <+: text) :
    Overlapped parts before.length ∨
      (FilledAt parts before name ↔ Even (marksBehind (done ++ before))) := by
  induction fills generalizing done before with
  | done =>
    have empty := List.prefix_nil.mp stands
    exact absurd (List.append_eq_nil_iff.mp empty).2 (Part.source_ne_nil _)
  | fill boundFirst standsFirst onward inductionHypothesis =>
    subst standsFirst
    have even : Even (marksBehind done) := paired (by rw [placeholder_append]; rfl)
    rcases filled_cases plain boundFirst bound stands with
      ⟨rfl, rfl⟩ | inside | ⟨later, rfl, behind⟩
    · rw [filledAt_nil, List.append_nil]
      exact .inr (iff_of_true rfl even)
    · exact .inl inside
    · rw [List.length_append, overlapped_cons, filledAt_cons, ← List.append_assoc]
      exact inductionHypothesis
        (fun _ => even_marksBehind_placeholder (plain _ boundFirst) even) behind
  | @pass rest parts closed onward inductionHypothesis =>
    have even : Even (marksBehind done) := paired rfl
    obtain ⟨later, rfl, second⟩ := kept_cases closed bound stands
    have split : '@' :: rest = (Part.kept '@').source ++ rest := rfl
    rw [split] at second
    rcases place_cases second with inside | ⟨last, rfl, behind⟩
    -- The placeholder that begins with the second mark is the one that is missed.
    · rw [List.eq_nil_of_length_eq_zero (Nat.lt_one_iff.mp inside)]
      refine .inr (iff_of_false not_filledAt_passed ?_)
      rw [List.append_nil, Part.source, marksBehind_mark, Nat.even_add_one, not_not]
      exact even
    · have delimiter : (Part.kept '@').source ++ ((Part.kept '@').source ++ last) =
        ['@', '@'] ++ last := rfl
      rw [List.length_append, overlapped_cons, List.length_append, overlapped_cons, filledAt_cons,
        filledAt_cons, delimiter, ← List.append_assoc]
      exact inductionHypothesis (fun _ => (even_marksBehind_delimiter done).mpr even) behind
  | copy apart onward inductionHypothesis =>
    obtain ⟨later, rfl, behind⟩ := kept_cases (not_opens_of_apart apart) bound stands
    rw [List.length_append, overlapped_cons, filledAt_cons, ← List.append_assoc]
    refine inductionHypothesis (fun begins => ?_) behind
    -- A mark is copied only where no other one follows, so the pairing starts anew.
    rw [Part.source, marksBehind_other]
    · exact Even.zero
    · rintro rfl
      obtain ⟨more, rfl⟩ := List.head?_eq_some_iff.mp begins
      exact apart ⟨more, rfl⟩

/-- Filling is a scan where it fills every placeholder that it meets. -/
theorem Fills.scans (fills : Fills lookup text parts)
    (reached : ∀ before name, (lookup name).isSome → before ++ (Part.filled name).source <+: text →
      Overlapped parts before.length ∨ FilledAt parts before name) : Scans lookup text parts := by
  induction fills with
  | done => exact .done
  | fill bound stands onward inductionHypothesis =>
    refine .fill bound stands (inductionHypothesis fun before name boundLater behind => ?_)
    rw [← overlapped_cons, ← filledAt_cons, ← List.length_append]
    refine reached _ name boundLater ?_
    rwa [← stands, List.append_assoc, List.prefix_append_right_inj]
  | pass closed onward inductionHypothesis =>
    refine .copy closed (.copy ?_ (inductionHypothesis fun before name bound behind => ?_))
    · rintro ⟨name, bound, begins⟩
      rcases reached ['@'] name bound (by simpa using begins) with inside | filled
      · exact not_overlapped_passed inside
      · exact not_filledAt_passed filled
    · have met := reached ('@' :: '@' :: before) name bound (by simpa using behind)
      have split : '@' :: '@' :: before =
        (Part.kept '@').source ++ ((Part.kept '@').source ++ before) := rfl
      rwa [split, List.length_append, overlapped_cons, List.length_append, overlapped_cons,
        filledAt_cons, filledAt_cons] at met
  | @copy character rest parts apart onward inductionHypothesis =>
    refine .copy (not_opens_of_apart apart) (inductionHypothesis fun before name bound behind => ?_)
    have met := reached (character :: before) name bound (by simpa using behind)
    have split : character :: before = (Part.kept character).source ++ before := rfl
    rwa [split, List.length_append, overlapped_cons, filledAt_cons] at met

/-- A bound placeholder of the line that no placeholder filled before it overlaps. -/
structure Standing (lookup : String → Option String) (line : List Char) (parts : List Part)
    (before : List Char) (name : String) : Prop where
  bound : (lookup name).isSome
  stands : before ++ (Part.filled name).source <+: line
  apart : ¬Overlapped parts before.length

/-- Filling replaces a bound placeholder that no earlier one overlaps exactly where an even number
of `@` leads up to it. So it is the scan that looks for placeholders at every place exactly on
lines where this holds of all of them. -/
theorem substitute_filled_iff_even (plain : PlainNames lookup) (line : String) :
    ∃ parts scanned, (∀ others, Fills lookup line.toList others ↔ others = parts) ∧
      (∀ others, Scans lookup line.toList others ↔ others = scanned) ∧
      substitute lookup line = String.ofList (parts.flatMap (Part.written lookup)) ∧
      (∀ before name, Standing lookup line.toList parts before name →
        (FilledAt parts before name ↔ Even (marksBehind before))) ∧
      (∀ before name, Standing lookup line.toList scanned before name →
        FilledAt scanned before name) ∧
      (scanned = parts ↔ ∀ before name, Standing lookup line.toList parts before name →
        Even (marksBehind before)) := by
  obtain ⟨parts, fills, filled⟩ := exists_fills plain line.toList
  obtain ⟨scanned, scans⟩ := exists_scans lookup line.toList
  have unstarted : line.toList.head? = some '@' → Even (marksBehind []) := fun _ => Even.zero
  have parity (before : List Char) (name : String)
      (standing : Standing lookup line.toList parts before name) :
      FilledAt parts before name ↔ Even (marksBehind before) :=
    (fills.reached plain unstarted standing.bound standing.stands).resolve_left standing.apart
  have met (others : List Part) (again : Scans lookup line.toList others) (before : List Char)
      (name : String) (standing : Standing lookup line.toList others before name) :
      FilledAt others before name :=
    (again.reached plain standing.bound standing.stands).resolve_left standing.apart
  refine ⟨parts, scanned, fun others => ⟨fills.unique plain, fun same => same ▸ fills⟩,
    fun others => ⟨scans.unique plain, fun same => same ▸ scans⟩, ?_, parity, met scanned scans,
    fun same before name standing => ?_, fun even => ?_⟩
  · rw [substitute, filled]
  · exact (parity before name standing).mp (met parts (same ▸ scans) before name standing)
  · refine (scans.unique plain (fills.scans fun before name bound stands => ?_)).symm
    by_cases inside : Overlapped parts before.length
    · exact .inl inside
    · exact .inr ((parity before name ⟨bound, stands, inside⟩).mpr (even _ _ ⟨bound, stands, inside⟩))

/-- The lookup with one bound name. -/
def onlyName (bound value : String) : String → Option String := fun name =>
  if name = bound then some value else none

theorem plainNames_onlyName {value : String} (plain : '@' ∉ name.toList) :
    PlainNames (onlyName name value) := by
  intro found bound
  rw [onlyName] at bound
  split at bound
  · subst found
    exact plain
  · cases bound

theorem substitute_filled_iff_even_one_name :
    PlainNames (onlyName "host" "b.org") ∧
      ∃ parts scanned,
        (∀ others, Fills (onlyName "host" "b.org") "me@@@host@@".toList others ↔
          others = parts) ∧
        (∀ others, Scans (onlyName "host" "b.org") "me@@@host@@".toList others ↔
          others = scanned) ∧
        substitute (onlyName "host" "b.org") "me@@@host@@" =
          String.ofList (parts.flatMap (Part.written (onlyName "host" "b.org"))) ∧
        (∀ before name,
          Standing (onlyName "host" "b.org") "me@@@host@@".toList parts before name →
            (FilledAt parts before name ↔ Even (marksBehind before))) ∧
        (∀ before name,
          Standing (onlyName "host" "b.org") "me@@@host@@".toList scanned before name →
            FilledAt scanned before name) ∧
        (scanned = parts ↔ ∀ before name,
          Standing (onlyName "host" "b.org") "me@@@host@@".toList parts before name →
            Even (marksBehind before)) :=
  ⟨plainNames_onlyName (by decide), substitute_filled_iff_even (plainNames_onlyName (by decide)) _⟩

example : substitute (onlyName "port" "8080") "@@@@port@@" = "@@8080" := by cbv

/-- A mark in front of a placeholder keeps it from being filled. -/
theorem placeholder_kept_behind_mark :
    ¬∀ lookup line scanned, PlainNames lookup → Scans lookup line.toList scanned →
      substitute lookup line = String.ofList (scanned.flatMap (Part.written lookup)) := by
  have plain : PlainNames (onlyName "host" "b.org") := plainNames_onlyName (by decide)
  have unopened : ¬Opens (onlyName "host" "b.org") "@@@host@@".toList := by
    refine not_opens_of_cut plain fun name closed cut => ?_
    cases cut
    decide
  have scans : Scans (onlyName "host" "b.org") "me@@@host@@".toList
      [.kept 'm', .kept 'e', .kept '@', .filled "host"] :=
    .copy (not_opens_of_apart (by decide)) (.copy (not_opens_of_apart (by decide))
      (.copy unopened (.fill rfl rfl .done)))
  have kept : substitute (onlyName "host" "b.org") "me@@@host@@" = "me@@@host@@" := by cbv
  have scanned : String.ofList ([.kept 'm', .kept 'e', .kept '@', .filled "host"].flatMap
      (Part.written (onlyName "host" "b.org"))) = "me@b.org" := by cbv
  intro complete
  have filled := complete _ _ _ plain scans
  rw [kept, scanned] at filled
  exact absurd filled (by decide)

end Foldback.Placeholder
