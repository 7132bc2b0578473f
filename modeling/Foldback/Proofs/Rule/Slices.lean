/-
Where tokens lie in their text, and where scanning stops. Offsets count the bytes
of the characters before, so they are told here from what stands before a token,
not from its place in a list of characters.

The tokens of a text are the pieces of its only cutting, so each fact about them
follows from the layout of the pieces: what a token reads as is what stands at
its offset, the tokens come one behind the other, and what they leave out is
white space. A text that cannot be cut has a first character with which no piece
goes on; all that stands before it can be cut.
-/

import Foldback.Proofs.Rule.Cutting

namespace Foldback.Rule

open Text

/-! ### The layout of pieces -/

/-- The offset at which a token ends. -/
def Placed.stop (placed : Placed) : Nat :=
  placed.position + placed.token.text.utf8ByteSize

/-- The characters, which start at the position, hold the part at the offset. -/
def Lies (position : Nat) (characters part : List Char) (offset : Nat) : Prop :=
  ∃ before behind, characters = before ++ part ++ behind ∧
    position + (String.ofList before).utf8ByteSize = offset

theorem Lies.behind {position offset : Nat} {front : String} {characters part : List Char}
    (lies : Lies (position + front.utf8ByteSize) characters part offset) :
    Lies position (front.toList ++ characters) part offset := by
  obtain ⟨before, behind, rfl, starts⟩ := lies
  refine ⟨front.toList ++ before, behind, by simp only [List.append_assoc], ?_⟩
  rw [String.ofList_append, String.ofList_toList, String.utf8ByteSize_append, ← Nat.add_assoc,
    starts]

/-- The two names lie in the characters at their offsets, with nothing but white space between them
and at least some. -/
def Spaced (position : Nat) (characters : List Char) (name other : String) (start next : Nat) :
    Prop :=
  ∃ gap : String, Lies position characters (name.toList ++ gap.toList ++ other.toList) start ∧
    start + name.utf8ByteSize + gap.utf8ByteSize = next ∧
    gap ≠ "" ∧ ∀ character ∈ gap.toList, isBlank character = true

theorem Spaced.behind {position start next : Nat} {front name other : String}
    {characters : List Char}
    (spaced : Spaced (position + front.utf8ByteSize) characters name other start next) :
    Spaced position (front.toList ++ characters) name other start next := by
  obtain ⟨gap, lies, blank⟩ := spaced
  exact ⟨gap, lies.behind, blank⟩

section Layout

variable {position : Nat} {pieces : List Piece}

theorem lies_of_mem_placedFrom {part : Placed} (inside : part ∈ placedFrom position pieces) :
    Lies position (pieces.flatMap (·.text.toList)) part.token.text.toList part.position := by
  induction pieces generalizing position with
  | nil => cases inside
  | cons piece rest inductionHypothesis =>
    rw [List.flatMap_cons]
    cases piece with
    | blanks run => exact .behind (inductionHypothesis inside)
    | item token =>
      rcases List.mem_cons.mp inside with rfl | behind
      · exact ⟨[], rest.flatMap (·.text.toList), rfl, rfl⟩
      · exact .behind (inductionHypothesis behind)

theorem pairwise_placedFrom (position : Nat) (pieces : List Piece) :
    (placedFrom position pieces).Pairwise fun first second => first.stop ≤ second.position := by
  induction pieces generalizing position with
  | nil => exact .nil
  | cons piece rest inductionHypothesis =>
    cases piece with
    | blanks run => exact inductionHypothesis _
    | item token =>
      exact .cons (position_le_placedFrom (position + token.text.utf8ByteSize) rest)
        (inductionHypothesis _)

/-- An item of two lists together stands in one of them. -/
theorem stands_of_append {α : Type} {first second before behind : List α} {item : α}
    (whole : first ++ second = before ++ item :: behind) :
    (∃ more, before = first ++ more ∧ second = more ++ item :: behind) ∨
      ∃ more, first = before ++ item :: more := by
  rcases List.append_eq_append_iff.mp whole with ⟨more, before, second⟩ | ⟨more, first, second⟩
  · exact .inl ⟨more, before, second⟩
  · cases more with
    | nil =>
      rw [List.append_nil] at first
      exact .inl ⟨[], first ▸ (List.append_nil _).symm, second.symm⟩
    | cons other more =>
      cases second
      exact .inr ⟨more, first⟩

/-- A character that is not white space lies inside a token. -/
theorem exists_part_of_shown (position : Nat) (sound : ∀ piece ∈ pieces, piece.Sound)
    {before behind : List Char} {character : Char}
    (whole : pieces.flatMap (·.text.toList) = before ++ character :: behind)
    (shown : isBlank character = false) :
    ∃ part ∈ placedFrom position pieces,
      part.position ≤ position + (String.ofList before).utf8ByteSize ∧
      position + (String.ofList before).utf8ByteSize < part.stop := by
  induction pieces generalizing position before with
  | nil => simp at whole
  | cons piece rest inductionHypothesis =>
    obtain ⟨soundHere, soundBehind⟩ := List.forall_mem_cons.mp sound
    rw [List.flatMap_cons] at whole
    rcases stands_of_append whole with ⟨more, rfl, wholeBehind⟩ | ⟨more, here⟩
    · obtain ⟨part, inside, starts, stops⟩ := inductionHypothesis _ soundBehind wholeBehind
      rw [String.ofList_append, String.ofList_toList, String.utf8ByteSize_append, ← Nat.add_assoc]
      refine ⟨part, ?_, starts, stops⟩
      cases piece with
      | blanks run => exact inside
      | item token => exact List.mem_cons_of_mem _ inside
    · cases piece with
      | blanks run =>
        have blank := soundHere.2 character (here ▸ by simp)
        rw [shown] at blank
        cases blank
      | item token =>
        refine ⟨⟨token, position⟩, List.mem_cons_self, Nat.le_add_right _ _, ?_⟩
        have size := congrArg (fun characters => (String.ofList characters).utf8ByteSize) here
        simp only [String.ofList_append, String.ofList_cons, String.ofList_toList,
          String.utf8ByteSize_append, String.utf8ByteSize_singleton] at size
        have wide := character.utf8Size_pos
        show position + (String.ofList before).utf8ByteSize < position + token.text.utf8ByteSize
        simp only [Piece.text] at size
        omega

/-- A run of white space stands between an atom and the next one. -/
theorem exists_blanks_of_atom {characters : List Char} {name other : String} {next : Nat}
    {behind : List Placed} (cutting : Cutting characters (.item (.atom name) :: pieces))
    (follows : placedFrom position pieces = ⟨.atom other, next⟩ :: behind) :
    ∃ run rest, pieces = .blanks run :: .item (.atom other) :: rest ∧
      next = position + run.utf8ByteSize := by
  have apart := (List.isChain_cons.mp cutting.maximal).1
  cases pieces with
  | nil => cases follows
  | cons piece later =>
    cases piece with
    | item token =>
      cases follows
      exact (apart _ rfl rfl rfl).elim
    | blanks run =>
      have apartBehind := (List.isChain_cons.mp cutting.tail.maximal).1
      cases later with
      | nil => cases follows
      | cons second rest =>
        cases second with
        | blanks more => exact (apartBehind _ rfl rfl rfl).elim
        | item token =>
          cases follows
          exact ⟨run, rest, rfl, rfl⟩

theorem spaced_of_atoms {characters : List Char} (cutting : Cutting characters pieces)
    {name other : String} {start next : Nat}
    (follow : [⟨.atom name, start⟩, ⟨.atom other, next⟩] <:+: placedFrom position pieces) :
    Spaced position characters name other start next := by
  induction pieces generalizing position characters with
  | nil => simp [placedFrom] at follow
  | cons piece rest inductionHypothesis =>
    rw [cutting.split]
    cases piece with
    | blanks run => exact .behind (inductionHypothesis cutting.tail follow)
    | item token =>
      rcases List.infix_cons_iff.mp follow with first | behind
      · obtain ⟨here, more, second⟩ := List.cons_prefix_cons.mp first
        cases here
        obtain ⟨run, rest, rfl, rfl⟩ := exists_blanks_of_atom cutting second.symm
        refine ⟨run, ⟨[], rest.flatMap (·.text.toList), ?_, rfl⟩, rfl,
          cutting.sound (.blanks run) (by simp)⟩
        rw [List.flatMap_cons, List.flatMap_cons]
        simp only [Piece.text, Token.text, List.nil_append, List.append_assoc]
      · exact .behind (inductionHypothesis cutting.tail behind)

end Layout

/-! ### Where scanning stops -/

/-- The characters that may stand in a rule text. -/
def InAlphabet (character : Char) : Prop :=
  isBlank character = true ∨ isAtomChar character = true ∨ character ∈ ['|', '&', '!', '(', ')']

/-- No piece goes on with the character in front of the others: it is none of the alphabet, or a mark
that only counts when it is doubled. -/
def Unreadable (character : Char) (behind : List Char) : Prop :=
  ¬InAlphabet character ∨ (character ∈ ['|', '&'] ∧ behind.head? ≠ some character)

/-- Scanning characters at an offset stops at a character: what stands before it is scanned. -/
structure Stops (position : Nat) (characters before : List Char) (bad : BadCharacter)
    (behind : List Char) : Prop where
  whole : characters = before ++ bad.character :: behind
  here : position + (String.ofList before).utf8ByteSize = bad.position
  scanned : ∃ placed, Scans position before placed
  unreadable : Unreadable bad.character behind

theorem Stops.behind {position : Nat} (front : List Char) {rest before behind : List Char}
    {bad : BadCharacter}
    (stops : Stops (position + (String.ofList front).utf8ByteSize) rest before bad behind)
    (step : ∀ placed, Scans (position + (String.ofList front).utf8ByteSize) before placed →
      ∃ more, Scans position (front ++ before) more) :
    Stops position (front ++ rest) (front ++ before) bad behind where
  whole := by rw [stops.whole, List.append_assoc]
  here := by rw [String.ofList_append, String.utf8ByteSize_append, ← Nat.add_assoc, stops.here]
  scanned := by
    obtain ⟨placed, scans⟩ := stops.scanned
    exact step placed scans
  unreadable := stops.unreadable

/-- A character in front that begins a token, extends one or is white space. -/
theorem Stops.behind_one {position : Nat} {character : Char} {rest before behind : List Char}
    {bad : BadCharacter} (stops : Stops (position + character.utf8Size) rest before bad behind)
    (step : ∀ placed, Scans (position + character.utf8Size) before placed →
      ∃ more, Scans position (character :: before) more) :
    Stops position (character :: rest) (character :: before) bad behind := by
  have size : (String.ofList [character]).utf8ByteSize = character.utf8Size := by
    rw [← String.singleton_eq_ofList, String.utf8ByteSize_singleton]
  rw [← size] at stops step
  exact stops.behind [character] step

theorem map_eq_error {error value other : Type} {change : value → other}
    {outcome : Except error value} {reason : error} (fails : change <$> outcome = .error reason) :
    outcome = .error reason := by
  cases outcome with
  | error _ =>
    cases fails
    rfl
  | ok _ => cases fails

theorem unreadable_of_unscanned {character : Char} {rest : List Char}
    (notOr : ∀ more, character = '|' → rest ≠ '|' :: more)
    (notAnd : ∀ more, character = '&' → rest ≠ '&' :: more) (blank : ¬isBlank character = true)
    (inAtom : ¬isAtomChar character = true) (single : singleToken? character = none) :
    Unreadable character rest := by
  by_cases doubled : character ∈ ['|', '&']
  · refine .inr ⟨doubled, fun first => ?_⟩
    obtain ⟨more, rfl⟩ := List.head?_eq_some_iff.mp first
    rcases List.mem_pair.mp doubled with rfl | rfl
    · exact notOr more rfl rfl
    · exact notAnd more rfl rfl
  · refine .inl fun inAlphabet => ?_
    rcases inAlphabet with isBlank | isLetter | mark
    · exact blank isBlank
    · exact inAtom isLetter
    · simp only [List.mem_cons, List.not_mem_nil, or_false, not_or] at mark doubled
      rcases mark with rfl | rfl | rfl | rfl | rfl
      · exact doubled.1 rfl
      · exact doubled.2 rfl
      all_goals cases single

theorem exists_stops {position : Nat} {characters : List Char} {bad : BadCharacter}
    (fails : scanFrom position characters = .error bad) :
    ∃ before behind, Stops position characters before bad behind := by
  fun_induction scanFrom position characters with
  | case1 position => cases fails
  | case2 position rest inductionHypothesis =>
    obtain ⟨before, behind, stops⟩ := inductionHypothesis (map_eq_error fails)
    exact ⟨_, behind, Stops.behind ['|', '|'] stops fun placed scans => ⟨_, .or scans⟩⟩
  | case3 position rest inductionHypothesis =>
    obtain ⟨before, behind, stops⟩ := inductionHypothesis (map_eq_error fails)
    exact ⟨_, behind, Stops.behind ['&', '&'] stops fun placed scans => ⟨_, .and scans⟩⟩
  | case4 position character rest _ _ next isBlank =>
    rename_i inductionHypothesis
    obtain ⟨before, behind, stops⟩ := inductionHypothesis fails
    exact ⟨_, behind, stops.behind_one fun placed scans => ⟨_, .blank isBlank scans⟩⟩
  | case5 position character rest _ _ next _ inAtom =>
    rename_i inductionHypothesis
    obtain ⟨before, behind, stops⟩ := inductionHypothesis (map_eq_error fails)
    exact ⟨_, behind, stops.behind_one fun placed scans => ⟨_, .atom inAtom scans⟩⟩
  | case6 position character rest _ _ next _ _ token made =>
    rename_i inductionHypothesis
    obtain ⟨before, behind, stops⟩ := inductionHypothesis (map_eq_error fails)
    exact ⟨_, behind, stops.behind_one fun placed scans => ⟨_, .single made scans⟩⟩
  | case7 position character rest notOr notAnd blank inAtom single =>
    cases fails
    exact ⟨[], rest, rfl, rfl, ⟨[], .done position⟩,
      unreadable_of_unscanned notOr notAnd blank inAtom single⟩

/-! ### What the scanner makes of a text -/

/-- The part stands in the text at a byte offset. -/
def StandsAt (text part : String) (offset : Nat) : Prop :=
  ∃ before behind : String, text = before ++ part ++ behind ∧ before.utf8ByteSize = offset

theorem standsAt_of_lies {text part : String} {offset : Nat}
    (lies : Lies 0 text.toList part.toList offset) : StandsAt text part offset := by
  obtain ⟨before, behind, whole, starts⟩ := lies
  refine ⟨String.ofList before, String.ofList behind, String.toList_inj.mp ?_, ?_⟩
  · rw [whole]
    simp only [String.toList_append, String.toList_ofList]
  · rw [← starts, Nat.zero_add]

/-- The tokens lie in the text as they read, one behind the other, with nothing but white space
between and around them, and at least some white space between two atoms. -/
structure Tiles (text : String) (placed : List Placed) : Prop where
  slices : ∀ part ∈ placed, StandsAt text part.token.text part.position
  ordered : placed.Pairwise fun first second => first.stop ≤ second.position
  covered : ∀ (before behind : String) (character : Char),
    text = before ++ String.singleton character ++ behind → isBlank character = false →
      ∃ part ∈ placed, part.position ≤ before.utf8ByteSize ∧ before.utf8ByteSize < part.stop
  separated : ∀ (name other : String) (start next : Nat),
    [⟨.atom name, start⟩, ⟨.atom other, next⟩] <:+: placed →
      ∃ gap, StandsAt text (name ++ gap ++ other) start ∧
        start + name.utf8ByteSize + gap.utf8ByteSize = next ∧
        gap ≠ "" ∧ ∀ character ∈ gap.toList, isBlank character = true

/-- The reported character stands in the text at the reported offset, the text before it is scanned,
and no piece goes on with it. -/
def Stuck (text : String) (bad : BadCharacter) : Prop :=
  ∃ before behind : String, text = before ++ String.singleton bad.character ++ behind ∧
    before.utf8ByteSize = bad.position ∧ (∃ placed, scan before = .ok placed) ∧
    Unreadable bad.character behind.toList

theorem tiles_of_cutting {text : String} {pieces : List Piece}
    (cutting : Cutting text.toList pieces) : Tiles text (placedFrom 0 pieces) where
  slices part inside := standsAt_of_lies (cutting.covers ▸ lies_of_mem_placedFrom inside)
  ordered := pairwise_placedFrom 0 pieces
  covered before behind character whole shown := by
    have covers : pieces.flatMap (·.text.toList) =
        before.toList ++ character :: behind.toList := by
      rw [cutting.covers, whole]
      simp only [String.toList_append, String.toList_singleton, List.append_assoc,
        List.singleton_append]
    obtain ⟨part, inside, starts, stops⟩ := exists_part_of_shown 0 cutting.sound covers shown
    rw [String.ofList_toList, Nat.zero_add] at starts stops
    exact ⟨part, inside, starts, stops⟩
  separated name other start next follow := by
    obtain ⟨gap, lies, size, blank⟩ := spaced_of_atoms cutting follow
    refine ⟨gap, standsAt_of_lies ?_, size, blank⟩
    rw [String.toList_append, String.toList_append]
    exact lies

theorem stuck_of_scan {text : String} {bad : BadCharacter} (fails : scan text = .error bad) :
    Stuck text bad := by
  obtain ⟨before, behind, stops⟩ := exists_stops fails
  obtain ⟨placed, scans⟩ := stops.scanned
  refine ⟨String.ofList before, String.ofList behind, String.toList_inj.mp ?_, ?_,
    ⟨placed, scan_eq_ok_iff.mpr ?_⟩, ?_⟩
  · rw [stops.whole]
    simp only [String.toList_append, String.toList_singleton, String.toList_ofList,
      List.append_assoc, List.singleton_append]
  · rw [← stops.here, Nat.zero_add]
  · rw [String.toList_ofList]
    exact scans
  · rw [String.toList_ofList]
    exact stops.unreadable

/-- The scanner succeeds exactly on the texts that can be cut. Its tokens are then those of the only
cutting and tile the text; an error tells where the text is stuck. -/
theorem scan_tiles (text : String) :
    match scan text with
    | .ok placed => ∃ pieces, (∀ others, Cutting text.toList others ↔ others = pieces) ∧
        placedFrom 0 pieces = placed ∧ Tiles text placed
    | .error bad => (¬∃ pieces, Cutting text.toList pieces) ∧ Stuck text bad := by
  cases outcome : scan text with
  | ok placed =>
    obtain ⟨pieces, cutting, rfl⟩ := scan_eq_ok_iff_cutting.mp outcome
    refine ⟨pieces, fun others => ⟨fun other => other.unique cutting, ?_⟩, rfl,
      tiles_of_cutting cutting⟩
    rintro rfl
    exact cutting
  | error bad =>
    refine ⟨?_, stuck_of_scan outcome⟩
    rintro ⟨pieces, cutting⟩
    have scanned := scan_eq_ok_iff_cutting.mpr ⟨pieces, cutting, rfl⟩
    rw [outcome] at scanned
    cases scanned

-- The ideographic space takes three bytes.
example : scan "a\u3000||b" = .ok [⟨.atom "a", 0⟩, ⟨.or, 4⟩, ⟨.atom "b", 6⟩] := by
  decide +kernel

end Foldback.Rule
