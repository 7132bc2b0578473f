/-
Rule texts cut into pieces: runs of white space, names, and the operators and
parentheses. Runs and names are as long as they can be, so a text can be cut in
at most one way: the first character of a piece tells which kind of piece it is,
and with that where the piece ends.

The scanner works the other way round, one character in front of the pieces of
what follows. It finds exactly the texts that can be cut, and its tokens are the
pieces other than white space, each at the offset where the piece starts.
-/

import Foldback.Proofs.Rule.Scanning

namespace Foldback.Rule

open Text

/-! ### Pieces -/

/-- A piece of a rule text. -/
inductive Piece where
  /-- A run of white space. -/
  | blanks (run : String)
  /-- A token. -/
  | item (token : Token)
  deriving DecidableEq, Repr

/-- What a piece is: a run of white space, a name, or another token. -/
inductive Kind where
  | blanks
  | name
  | symbol (token : Token)
  deriving DecidableEq, Repr

/-- Whether pieces of the kind are as long as they can be. -/
def Kind.isRun : Kind → Bool
  | .blanks | .name => true
  | .symbol _ => false

namespace Piece

/-- The text of a piece. -/
def text : Piece → String
  | .blanks run => run
  | .item token => token.text

/-- What a piece is. -/
def kind : Piece → Kind
  | .blanks _ => .blanks
  | .item (.atom _) => .name
  | .item token => .symbol token

/-- Whether the piece is what it stands for: a run of white space holds nothing else and is not
empty, and a name is one. -/
def Sound : Piece → Prop
  | .blanks run => run ≠ "" ∧ ∀ character ∈ run.toList, isBlank character = true
  | .item (.atom name) => IsName name
  | .item _ => True

/-- Whether two pieces can stand side by side: two runs of white space would be one run, and two
names one name. -/
def Beside (first second : Piece) : Prop :=
  first.kind.isRun = true → second.kind ≠ first.kind

end Piece

/-- The characters are cut into the pieces, and no run or name could be longer. -/
structure Cutting (characters : List Char) (pieces : List Piece) : Prop where
  covers : pieces.flatMap (·.text.toList) = characters
  sound : ∀ piece ∈ pieces, piece.Sound
  maximal : pieces.IsChain Piece.Beside

/-- The tokens among pieces that start at a byte offset. -/
def placedFrom (position : Nat) : List Piece → List Placed
  | [] => []
  | .blanks run :: rest => placedFrom (position + run.utf8ByteSize) rest
  | .item token :: rest => ⟨token, position⟩ :: placedFrom (position + token.text.utf8ByteSize) rest

theorem position_le_placedFrom (position : Nat) (pieces : List Piece) :
    ∀ part ∈ placedFrom position pieces, position ≤ part.position := by
  induction pieces generalizing position with
  | nil => exact fun part inside => nomatch inside
  | cons piece rest inductionHypothesis =>
    cases piece with
    | blanks run =>
      exact fun part inside => Nat.le_of_add_right_le (inductionHypothesis _ part inside)
    | item token =>
      exact position_le_cons fun part inside =>
        Nat.le_of_add_right_le (inductionHypothesis _ part inside)

/-! ### Kinds -/

/-- The kind of the pieces that begin with a character. -/
def kind? (character : Char) : Option Kind :=
  if isBlank character then some .blanks
  else if isAtomChar character then some .name
  else if character = '|' then some (.symbol .or)
  else if character = '&' then some (.symbol .and)
  else (singleToken? character).map .symbol

theorem kind?_of_isBlank {character : Char} (blank : isBlank character = true) :
    kind? character = some .blanks := by
  rw [kind?, if_pos blank]

theorem kind?_of_isAtomChar {character : Char} (inAtom : isAtomChar character = true) :
    kind? character = some .name := by
  rw [kind?, if_neg (not_isBlank_of_isAtomChar inAtom), if_pos inAtom]

namespace Piece

variable {piece first second : Piece}

/-- The characters of a run all are of its kind. -/
theorem Sound.kind?_eq (sound : piece.Sound) (run : piece.kind.isRun = true) :
    ∀ character ∈ piece.text.toList, kind? character = some piece.kind := by
  cases piece with
  | blanks _ => exact fun character inside => kind?_of_isBlank (sound.2 character inside)
  | item token =>
    cases token with
    | atom _ => exact fun character inside => kind?_of_isAtomChar (sound.2 character inside)
    | _ => cases run

/-- The first character of a piece tells its kind. -/
theorem Sound.exists_first (sound : piece.Sound) :
    ∃ first more, piece.text.toList = first :: more ∧ kind? first = some piece.kind := by
  have ofRun (inhabited : piece.text ≠ "") (run : piece.kind.isRun = true) :
      ∃ first more, piece.text.toList = first :: more ∧ kind? first = some piece.kind := by
    obtain ⟨first, more, spelled⟩ := List.exists_cons_of_ne_nil
      (fun empty => inhabited (String.toList_eq_nil_iff.mp empty))
    exact ⟨first, more, spelled, sound.kind?_eq run first (spelled ▸ List.mem_cons_self)⟩
  cases piece with
  | blanks run => exact ofRun sound.1 rfl
  | item token =>
    cases token with
    | atom name => exact ofRun sound.1 rfl
    | or => exact ⟨'|', ['|'], rfl, rfl⟩
    | and => exact ⟨'&', ['&'], rfl, rfl⟩
    | not => exact ⟨'!', [], rfl, rfl⟩
    | openParen => exact ⟨'(', [], rfl, rfl⟩
    | closeParen => exact ⟨')', [], rfl, rfl⟩

/-- Pieces of one kind with one text are the same; a symbol is told by its kind alone. -/
theorem eq_of_kind (kinds : first.kind = second.kind)
    (texts : first.kind.isRun = true → first.text = second.text) : first = second := by
  match first, second with
  | .blanks _, .blanks _ => exact congrArg Piece.blanks (texts rfl)
  | .item (.atom _), .item (.atom _) =>
    exact congrArg (fun name => Piece.item (.atom name)) (texts rfl)
  | .item .or, .item token | .item .and, .item token | .item .not, .item token
  | .item .openParen, .item token | .item .closeParen, .item token =>
    cases token <;> cases kinds
    rfl

end Piece

namespace Cutting

variable {characters : List Char} {piece other : Piece} {pieces rest others : List Piece}

theorem split (cutting : Cutting characters (piece :: rest)) :
    characters = piece.text.toList ++ rest.flatMap (·.text.toList) :=
  cutting.covers.symm

theorem tail (cutting : Cutting characters (piece :: rest)) :
    Cutting (rest.flatMap (·.text.toList)) rest :=
  ⟨rfl, fun other inside => cutting.sound other (List.mem_cons_of_mem _ inside),
    (List.isChain_cons.mp cutting.maximal).2⟩

/-- What stands behind a run is of another kind. -/
theorem stops (cutting : Cutting characters (piece :: rest)) (run : piece.kind.isRun = true) :
    ∀ character ∈ (rest.flatMap (·.text.toList)).head?, kind? character ≠ some piece.kind := by
  intro character isFirst same
  cases rest with
  | nil => cases isFirst
  | cons next later =>
    have beside := (List.isChain_cons.mp cutting.maximal).1 next rfl
    obtain ⟨first, more, spelled, kind⟩ := (cutting.tail.sound next List.mem_cons_self).exists_first
    rw [List.flatMap_cons, spelled] at isFirst
    cases isFirst
    rw [kind] at same
    exact beside run (Option.some.inj same)

/-! ### A text is cut in one way -/

theorem eq_of_run {kind : Kind} {first second firstRest secondRest : List Char}
    (firstRun : ∀ character ∈ first, kind? character = some kind)
    (firstStops : ∀ character ∈ firstRest.head?, kind? character ≠ some kind)
    (secondRun : ∀ character ∈ second, kind? character = some kind)
    (secondStops : ∀ character ∈ secondRest.head?, kind? character ≠ some kind)
    (same : first ++ firstRest = second ++ secondRest) : first = second := by
  have longest {run rest : List Char} (inRun : ∀ character ∈ run, kind? character = some kind)
      (ends : ∀ character ∈ rest.head?, kind? character ≠ some kind) :
      (run ++ rest).takeWhile (fun character => kind? character = some kind) = run := by
    rw [List.takeWhile_append_of_pos (by simpa using inRun)]
    cases rest with
    | nil => exact List.append_nil run
    | cons character more =>
      rw [List.takeWhile_cons_of_neg (by simpa using ends character rfl), List.append_nil]
  rw [← longest firstRun firstStops, same, longest secondRun secondStops]

theorem head_eq (first : Cutting characters (piece :: rest))
    (second : Cutting characters (other :: others)) : piece = other := by
  have firstSound := first.sound piece List.mem_cons_self
  have secondSound := second.sound other List.mem_cons_self
  have same := first.split.symm.trans second.split
  have kinds : piece.kind = other.kind := by
    obtain ⟨letter, more, spelled, kind⟩ := firstSound.exists_first
    obtain ⟨otherLetter, otherMore, otherSpelled, otherKind⟩ := secondSound.exists_first
    have letters := congrArg List.head? same
    rw [spelled, otherSpelled] at letters
    cases letters
    exact Option.some.inj (kind.symm.trans otherKind)
  refine Piece.eq_of_kind kinds fun run => ?_
  have secondKind := secondSound.kind?_eq (kinds ▸ run)
  have secondStops := second.stops (kinds ▸ run)
  rw [← kinds] at secondKind secondStops
  exact String.toList_inj.mp
    (eq_of_run (firstSound.kind?_eq run) (first.stops run) secondKind secondStops same)

theorem ne_nil (cutting : Cutting characters (piece :: rest)) : characters ≠ [] := by
  obtain ⟨first, more, spelled, -⟩ := (cutting.sound piece List.mem_cons_self).exists_first
  rw [cutting.split, spelled]
  exact List.cons_ne_nil _ _

theorem unique (first : Cutting characters pieces) (second : Cutting characters others) :
    pieces = others := by
  induction pieces generalizing characters others with
  | nil =>
    cases first.covers
    cases others with
    | nil => rfl
    | cons other later => exact absurd rfl second.ne_nil
  | cons piece rest inductionHypothesis =>
    cases others with
    | nil =>
      cases second.covers
      exact absurd rfl first.ne_nil
    | cons other later =>
      cases head_eq first second
      have behind := List.append_cancel_left (first.split.symm.trans second.split)
      exact congrArg (piece :: ·) (inductionHypothesis first.tail (behind ▸ second.tail))

/-! ### What can be cut is scanned -/

theorem scans_blanks {run rest : List Char} {placed : List Placed} {position : Nat}
    (blank : ∀ character ∈ run, isBlank character = true)
    (behind : Scans (position + (String.ofList run).utf8ByteSize) rest placed) :
    Scans position (run ++ rest) placed := by
  induction run generalizing position with
  | nil => exact behind
  | cons character more inductionHypothesis =>
    rw [String.ofList_cons, String.utf8ByteSize_append, String.utf8ByteSize_singleton,
      ← Nat.add_assoc] at behind
    exact .blank (blank character List.mem_cons_self)
      (inductionHypothesis (fun other inside => blank other (List.mem_cons_of_mem _ inside)) behind)

/-- The scanner finds the tokens of a cutting. -/
theorem scans (cutting : Cutting characters pieces) (position : Nat) :
    Scans position characters (placedFrom position pieces) := by
  induction pieces generalizing characters position with
  | nil =>
    cases cutting.covers
    exact .done position
  | cons piece rest inductionHypothesis =>
    have sound := cutting.sound piece List.mem_cons_self
    have behind := inductionHypothesis cutting.tail (position + piece.text.utf8ByteSize)
    rw [cutting.split]
    cases piece with
    | blanks run =>
      refine scans_blanks sound.2 ?_
      rw [String.ofList_toList]
      exact behind
    | item token =>
      cases token with
      | atom name =>
        have apart : Apart (rest.flatMap (·.text.toList)) := by
          intro character isFirst
          by_contra goesOn
          exact cutting.stops rfl character isFirst
            (kind?_of_isAtomChar (Bool.eq_true_of_not_eq_false goesOn))
        exact scans_name sound apart behind
      | or => exact .or behind
      | and => exact .and behind
      | not => exact .single rfl behind
      | openParen => exact .single rfl behind
      | closeParen => exact .single rfl behind

/-! ### What is scanned can be cut -/

/-- A piece in front of others that it can stand beside. -/
theorem cons (cutting : Cutting characters pieces) (sound : piece.Sound)
    (beside : ∀ next ∈ pieces.head?, piece.Beside next) :
    Cutting (piece.text.toList ++ characters) (piece :: pieces) := by
  refine ⟨?_, List.forall_mem_cons.mpr ⟨sound, cutting.sound⟩,
    List.isChain_cons.mpr ⟨beside, cutting.maximal⟩⟩
  rw [List.flatMap_cons, cutting.covers]

theorem symbol (cutting : Cutting characters pieces) (token : Token)
    (kind : (Piece.item token).kind = .symbol token) :
    Cutting (token.text.toList ++ characters) (.item token :: pieces) := by
  have sound : (Piece.item token).Sound := by
    cases token with
    | atom name => cases kind
    | _ => trivial
  refine cutting.cons sound fun next _ run => ?_
  rw [kind] at run
  cases run

/-- The first piece may grow by a character in front. -/
theorem grow {character : Char} (cutting : Cutting characters (piece :: rest))
    (text : other.text = String.singleton character ++ piece.text) (sound : other.Sound)
    (kinds : other.kind = piece.kind) : Cutting (character :: characters) (other :: rest) := by
  have longer : Cutting (other.text.toList ++ rest.flatMap (·.text.toList)) (other :: rest) := by
    refine cutting.tail.cons sound fun next isFirst => ?_
    unfold Piece.Beside
    rw [kinds]
    exact (List.isChain_cons.mp cutting.maximal).1 next isFirst
  rw [text, String.toList_append, String.toList_singleton, List.append_assoc,
    ← cutting.split] at longer
  exact longer

/-- A character may be a piece of its own, if the next piece is of another kind. -/
theorem start {character : Char} (cutting : Cutting characters pieces)
    (text : piece.text = String.singleton character) (sound : piece.Sound)
    (other : ∀ next ∈ pieces.head?, next.kind ≠ piece.kind) :
    Cutting (character :: characters) (piece :: pieces) := by
  have longer := cutting.cons sound fun next isFirst _ => other next isFirst
  rw [text, String.toList_singleton] at longer
  exact longer

end Cutting

/-- A white space character joins the run behind it, or is a run of its own. -/
def prependBlank (character : Char) : List Piece → List Piece
  | .blanks run :: rest => .blanks (String.singleton character ++ run) :: rest
  | pieces => .blanks (String.singleton character) :: pieces

/-- A character of a name joins the name behind it, or is a name of its own. -/
def prependLetter (character : Char) : List Piece → List Piece
  | .item (.atom name) :: rest => .item (.atom (String.singleton character ++ name)) :: rest
  | pieces => .item (.atom (String.singleton character)) :: pieces

section Prepend

variable {characters : List Char} {pieces : List Piece} {character : Char}

theorem Cutting.prependBlank (cutting : Cutting characters pieces)
    (blank : isBlank character = true) :
    Cutting (character :: characters) (prependBlank character pieces) := by
  unfold Rule.prependBlank
  split
  · rename_i run rest
    refine cutting.grow rfl ⟨by simp, ?_⟩ rfl
    rw [String.toList_append, String.toList_singleton]
    exact List.forall_mem_cons.mpr ⟨blank, (cutting.sound _ List.mem_cons_self).2⟩
  · rename_i apart
    refine cutting.start rfl ⟨by simp, ?_⟩ fun next isFirst kinds => ?_
    · rw [String.toList_singleton]
      exact List.forall_mem_singleton.mpr blank
    · obtain ⟨rest, rfl⟩ := List.head?_eq_some_iff.mp isFirst
      cases next with
      | blanks run => exact apart run rest rfl
      | item token => cases token <;> cases kinds

theorem Cutting.prependLetter (cutting : Cutting characters pieces)
    (inAtom : isAtomChar character = true) :
    Cutting (character :: characters) (prependLetter character pieces) := by
  unfold Rule.prependLetter
  split
  · rename_i name rest
    have isName : IsName name := cutting.sound _ List.mem_cons_self
    exact cutting.grow rfl (isName_append (isName_singleton inAtom) isName) rfl
  · rename_i apart
    refine cutting.start rfl (isName_singleton inAtom) fun next isFirst kinds => ?_
    obtain ⟨rest, rfl⟩ := List.head?_eq_some_iff.mp isFirst
    cases next with
    | blanks run => cases kinds
    | item token =>
      cases token with
      | atom name => exact apart name rest rfl
      | _ => cases kinds

theorem placedFrom_prependBlank (character : Char) (position : Nat) (pieces : List Piece) :
    placedFrom position (prependBlank character pieces) =
      placedFrom (position + character.utf8Size) pieces := by
  unfold prependBlank
  split
  · rw [placedFrom, placedFrom, String.utf8ByteSize_append, String.utf8ByteSize_singleton,
      Nat.add_assoc]
  · rw [placedFrom, String.utf8ByteSize_singleton]

/-- No atom stands where a run of white space begins. -/
theorem placedFrom_ne {next : Nat} (cutting : Cutting characters pieces)
    (apart : ∀ name rest, pieces ≠ .item (.atom name) :: rest) (name : String)
    (behind : List Placed) : placedFrom next pieces ≠ ⟨.atom name, next⟩ :: behind := by
  intro same
  cases pieces with
  | nil => cases same
  | cons piece rest =>
    cases piece with
    | blanks run =>
      have later := position_le_placedFrom (next + run.utf8ByteSize) rest ⟨.atom name, next⟩
      rw [placedFrom] at same
      rw [same] at later
      have wide : run.utf8ByteSize ≠ 0 := fun none =>
        (cutting.sound _ List.mem_cons_self).1 (String.utf8ByteSize_eq_zero_iff.mp none)
      have tooEarly : next + run.utf8ByteSize ≤ next := later List.mem_cons_self
      omega
    | item token =>
      cases same
      exact apart name rest rfl

theorem placedFrom_prependLetter (cutting : Cutting characters pieces) (character : Char)
    (position : Nat) :
    placedFrom position (prependLetter character pieces) =
      extendAtom position (position + character.utf8Size) character
        (placedFrom (position + character.utf8Size) pieces) := by
  unfold prependLetter
  split
  · rename_i name rest
    rw [placedFrom, placedFrom, extendAtom, if_pos rfl]
    simp only [Token.text, String.utf8ByteSize_append, String.utf8ByteSize_singleton, Nat.add_assoc]
  · rename_i apart
    rw [extendAtom_of_apart (placedFrom_ne cutting apart), placedFrom]
    simp only [Token.text, String.utf8ByteSize_singleton]

end Prepend

theorem exists_cutting_of_scans {position : Nat} {characters : List Char} {placed : List Placed}
    (scans : Scans position characters placed) :
    ∃ pieces, Cutting characters pieces ∧ placedFrom position pieces = placed := by
  induction scans with
  | done position => exact ⟨[], ⟨rfl, fun _ inside => (List.not_mem_nil inside).elim, .nil⟩, rfl⟩
  | @blank position character rest placed isBlank behind inductionHypothesis =>
    obtain ⟨pieces, cutting, rfl⟩ := inductionHypothesis
    exact ⟨_, cutting.prependBlank isBlank, placedFrom_prependBlank character position pieces⟩
  | or _ inductionHypothesis =>
    obtain ⟨pieces, cutting, rfl⟩ := inductionHypothesis
    exact ⟨_, cutting.symbol .or rfl, rfl⟩
  | and _ inductionHypothesis =>
    obtain ⟨pieces, cutting, rfl⟩ := inductionHypothesis
    exact ⟨_, cutting.symbol .and rfl, rfl⟩
  | single made _ inductionHypothesis =>
    obtain ⟨pieces, cutting, rfl⟩ := inductionHypothesis
    rcases singleToken?_eq_some made with ⟨rfl, rfl⟩ | ⟨rfl, rfl⟩ | ⟨rfl, rfl⟩
    · exact ⟨_, cutting.symbol .not rfl, rfl⟩
    · exact ⟨_, cutting.symbol .openParen rfl, rfl⟩
    · exact ⟨_, cutting.symbol .closeParen rfl, rfl⟩
  | @atom position character rest placed inAtom behind inductionHypothesis =>
    obtain ⟨pieces, cutting, rfl⟩ := inductionHypothesis
    exact ⟨_, cutting.prependLetter inAtom, placedFrom_prependLetter cutting character position⟩

/-- The scanner finds the tokens of a text exactly if the text can be cut. -/
theorem scan_eq_ok_iff_cutting {text : String} {placed : List Placed} :
    scan text = .ok placed ↔ ∃ pieces, Cutting text.toList pieces ∧ placedFrom 0 pieces = placed := by
  rw [scan_eq_ok_iff]
  refine ⟨exists_cutting_of_scans, ?_⟩
  rintro ⟨pieces, cutting, rfl⟩
  exact cutting.scans 0

end Foldback.Rule
