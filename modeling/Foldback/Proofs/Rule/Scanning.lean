/-
Scanning, step by step. `Scans` tells how the tokens of some characters arise
from those of the characters behind them; it is what the scanner computes,
without its errors. Two facts follow by induction on the steps: no token starts
before the characters do, and every atom is a name.

In the other direction, texts are put together from pieces. A symbol is read as
its tokens whatever follows it. A word that ends in a name is too, as long as no
further atom character follows: that is all that scanning asks of what stands
behind a piece.
-/

import Mathlib
import Foldback.Rule.Token

namespace Foldback.Rule

open Text

/-! ### Classes of characters -/

theorem toNat_of_isAtomChar {character : Char} (inAtom : isAtomChar character = true) :
    45 ≤ character.toNat ∧ character.toNat ≤ 122 := by
  simp only [isAtomChar, Char.isAlphanum, Char.isAlpha, Char.isUpper, Char.isLower, Char.isDigit,
    Bool.or_eq_true, Bool.and_eq_true, decide_eq_true_eq, beq_iff_eq, ge_iff_le,
    UInt32.le_iff_toNat_le] at inAtom
  rcases inAtom with ((((capital | small) | digit) | rfl) | rfl) | rfl
  · change 65 ≤ character.toNat ∧ character.toNat ≤ 90 at capital
    omega
  · change 97 ≤ character.toNat ∧ character.toNat ≤ 122 at small
    omega
  · change 48 ≤ character.toNat ∧ character.toNat ≤ 57 at digit
    omega
  all_goals decide

theorem not_isBlank_of_isAtomChar {character : Char} (inAtom : isAtomChar character = true) :
    ¬isBlank character = true := by
  intro blank
  obtain ⟨low, high⟩ := toNat_of_isAtomChar inAtom
  obtain ⟨range, listed, above, below⟩ := (inRanges_iff _ _).mp blank
  have outside : ∀ range ∈ blankRanges, range.2 < 45 ∨ 122 < range.1 := by decide
  rcases outside range listed with under | beyond <;> omega

theorem singleToken?_eq_some {character : Char} {token : Token}
    (made : singleToken? character = some token) :
    (character = '!' ∧ token = .not) ∨ (character = '(' ∧ token = .openParen) ∨
      (character = ')' ∧ token = .closeParen) := by
  unfold singleToken? at made
  split at made <;> cases made <;> simp

/-- A character of an operator is neither blank nor in an atom, and makes no token alone. -/
theorem not_operator {character : Char}
    (other : isBlank character = true ∨ isAtomChar character = true ∨
      (singleToken? character).isSome = true) : character ≠ '|' ∧ character ≠ '&' := by
  refine ⟨?_, ?_⟩
  · rintro rfl
    revert other
    decide
  · rintro rfl
    revert other
    decide

/-! ### Steps -/

/-- How characters that start at a byte offset are cut into tokens. -/
inductive Scans : Nat → List Char → List Placed → Prop where
  | done (position : Nat) : Scans position [] []
  | blank {position : Nat} {character : Char} {rest : List Char} {placed : List Placed}
      (isBlank : isBlank character = true)
      (behind : Scans (position + character.utf8Size) rest placed) :
      Scans position (character :: rest) placed
  | or {position : Nat} {rest : List Char} {placed : List Placed}
      (behind : Scans (position + 2) rest placed) :
      Scans position ('|' :: '|' :: rest) (⟨.or, position⟩ :: placed)
  | and {position : Nat} {rest : List Char} {placed : List Placed}
      (behind : Scans (position + 2) rest placed) :
      Scans position ('&' :: '&' :: rest) (⟨.and, position⟩ :: placed)
  | single {position : Nat} {character : Char} {rest : List Char} {placed : List Placed}
      {token : Token} (made : singleToken? character = some token)
      (behind : Scans (position + character.utf8Size) rest placed) :
      Scans position (character :: rest) (⟨token, position⟩ :: placed)
  | atom {position : Nat} {character : Char} {rest : List Char} {placed : List Placed}
      (inAtom : isAtomChar character = true)
      (behind : Scans (position + character.utf8Size) rest placed) :
      Scans position (character :: rest)
        (extendAtom position (position + character.utf8Size) character placed)

theorem scanFrom_cons {character : Char} (plain : character ≠ '|' ∧ character ≠ '&')
    (position : Nat) (rest : List Char) :
    scanFrom position (character :: rest) =
      if isBlank character then scanFrom (position + character.utf8Size) rest
      else if isAtomChar character then
        extendAtom position (position + character.utf8Size) character <$>
          scanFrom (position + character.utf8Size) rest
      else
        match singleToken? character with
        | some token => (⟨token, position⟩ :: ·) <$> scanFrom (position + character.utf8Size) rest
        | none => .error ⟨position, character⟩ := by
  have notOr (more : List Char) (same : character = '|') (_ : rest = '|' :: more) : False :=
    plain.1 same
  have notAnd (more : List Char) (same : character = '&') (_ : rest = '&' :: more) : False :=
    plain.2 same
  exact scanFrom.eq_4 position character rest notOr notAnd

theorem map_eq_ok_iff {error value other : Type} {change : value → other}
    {outcome : Except error value} {result : other} :
    change <$> outcome = .ok result ↔ ∃ inner, outcome = .ok inner ∧ change inner = result := by
  constructor
  · intro same
    cases outcome with
    | error reason => cases same
    | ok inner =>
      cases same
      exact ⟨inner, rfl, rfl⟩
  · rintro ⟨inner, rfl, rfl⟩
    rfl

theorem scans_of_scanFrom {position : Nat} {characters : List Char} {placed : List Placed}
    (scanned : scanFrom position characters = .ok placed) : Scans position characters placed := by
  fun_induction scanFrom position characters generalizing placed with
  | case1 position =>
    cases scanned
    exact .done position
  | case2 position rest inductionHypothesis =>
    obtain ⟨inner, behind, rfl⟩ := map_eq_ok_iff.mp scanned
    exact .or (inductionHypothesis behind)
  | case3 position rest inductionHypothesis =>
    obtain ⟨inner, behind, rfl⟩ := map_eq_ok_iff.mp scanned
    exact .and (inductionHypothesis behind)
  | case4 position character rest _ _ next isBlank =>
    rename_i inductionHypothesis
    exact .blank isBlank (inductionHypothesis scanned)
  | case5 position character rest _ _ next _ inAtom =>
    rename_i inductionHypothesis
    obtain ⟨inner, behind, rfl⟩ := map_eq_ok_iff.mp scanned
    exact .atom inAtom (inductionHypothesis behind)
  | case6 position character rest _ _ next _ _ token made =>
    rename_i inductionHypothesis
    obtain ⟨inner, behind, rfl⟩ := map_eq_ok_iff.mp scanned
    exact .single made (inductionHypothesis behind)
  | case7 position character rest => cases scanned

/-- The steps are those of the scanner. -/
theorem scanFrom_eq_ok_iff {position : Nat} {characters : List Char} {placed : List Placed} :
    scanFrom position characters = .ok placed ↔ Scans position characters placed := by
  refine ⟨scans_of_scanFrom, fun scans => ?_⟩
  induction scans with
  | done position => exact scanFrom_nil position
  | blank isBlank _ inductionHypothesis =>
    rw [scanFrom_cons (not_operator (.inl isBlank)), if_pos isBlank, inductionHypothesis]
  | or _ inductionHypothesis =>
    rw [scanFrom, inductionHypothesis]
    rfl
  | and _ inductionHypothesis =>
    rw [scanFrom, inductionHypothesis]
    rfl
  | @single position character rest placed token made _ inductionHypothesis =>
    have known : (singleToken? character).isSome = true := by rw [made]; rfl
    have notBlank : ¬isBlank character = true := by
      rcases singleToken?_eq_some made with ⟨rfl, _⟩ | ⟨rfl, _⟩ | ⟨rfl, _⟩ <;> decide
    have notAtom : ¬isAtomChar character = true := by
      rcases singleToken?_eq_some made with ⟨rfl, _⟩ | ⟨rfl, _⟩ | ⟨rfl, _⟩ <;> decide
    rw [scanFrom_cons (not_operator (.inr (.inr known))), if_neg notBlank, if_neg notAtom, made,
      inductionHypothesis]
    rfl
  | atom inAtom _ inductionHypothesis =>
    rw [scanFrom_cons (not_operator (.inr (.inl inAtom))),
      if_neg (not_isBlank_of_isAtomChar inAtom), if_pos inAtom, inductionHypothesis]
    rfl

theorem scan_eq_ok_iff {text : String} {placed : List Placed} :
    scan text = .ok placed ↔ Scans 0 text.toList placed :=
  scanFrom_eq_ok_iff

/-! ### Atoms are names -/

/-- Whether a text can be an atom: it has characters, and all of them may stand in an atom. -/
def IsName (name : String) : Prop :=
  name ≠ "" ∧ ∀ character ∈ name.toList, isAtomChar character = true

theorem isName_singleton {character : Char} (inAtom : isAtomChar character = true) :
    IsName (String.singleton character) := by
  refine ⟨by simp, fun other inside => ?_⟩
  rw [String.toList_singleton, List.mem_singleton] at inside
  rw [inside]
  exact inAtom

theorem isName_append {first second : String} (firstName : IsName first)
    (secondName : IsName second) : IsName (first ++ second) := by
  refine ⟨fun empty => firstName.1 (String.append_eq_empty_iff.mp empty).1, fun other inside => ?_⟩
  rw [String.toList_append, List.mem_append] at inside
  rcases inside with inFirst | inSecond
  · exact firstName.2 other inFirst
  · exact secondName.2 other inSecond

/-- Every atom among the tokens is a name. -/
def Named (placed : List Placed) : Prop :=
  ∀ name position, ⟨.atom name, position⟩ ∈ placed → IsName name

theorem named_cons_of_name {name : String} (isName : IsName name) (position : Nat)
    {rest : List Placed} (named : Named rest) : Named (⟨.atom name, position⟩ :: rest) := by
  intro other place inside
  rcases List.mem_cons.mp inside with here | behind
  · cases here
    exact isName
  · exact named other place behind

theorem named_cons {token : Token} (notAtom : ∀ name, token ≠ .atom name) (position : Nat)
    {rest : List Placed} (named : Named rest) : Named (⟨token, position⟩ :: rest) := by
  intro name place inside
  rcases List.mem_cons.mp inside with here | behind
  · cases here
    exact absurd rfl (notAtom name)
  · exact named name place behind

theorem named_extendAtom {character : Char} (inAtom : isAtomChar character = true)
    (position next : Nat) {placed : List Placed} (named : Named placed) :
    Named (extendAtom position next character placed) := by
  unfold extendAtom
  split
  · rename_i name start rest
    have first : IsName name := named name start List.mem_cons_self
    have behind : Named rest := fun other place inside =>
      named other place (List.mem_cons_of_mem _ inside)
    split
    · exact named_cons_of_name (isName_append (isName_singleton inAtom) first) position behind
    · exact named_cons_of_name (isName_singleton inAtom) position named
  · exact named_cons_of_name (isName_singleton inAtom) position named

theorem Scans.named {position : Nat} {characters : List Char} {placed : List Placed}
    (scans : Scans position characters placed) : Named placed := by
  induction scans with
  | done => exact fun _ _ inside => by cases inside
  | blank _ _ inductionHypothesis => exact inductionHypothesis
  | or _ inductionHypothesis => exact named_cons (fun _ same => by cases same) _ inductionHypothesis
  | and _ inductionHypothesis => exact named_cons (fun _ same => by cases same) _ inductionHypothesis
  | single made _ inductionHypothesis =>
    refine named_cons (fun name => ?_) _ inductionHypothesis
    rcases singleToken?_eq_some made with ⟨_, rfl⟩ | ⟨_, rfl⟩ | ⟨_, rfl⟩ <;> exact nofun
  | atom inAtom _ inductionHypothesis => exact named_extendAtom inAtom _ _ inductionHypothesis

/-! ### Positions -/

theorem position_le_cons {token : Token} {position : Nat} {rest : List Placed}
    (later : ∀ other ∈ rest, position ≤ other.position) :
    ∀ other ∈ (⟨token, position⟩ : Placed) :: rest, position ≤ other.position := by
  intro other inside
  rcases List.mem_cons.mp inside with rfl | behind
  · exact Nat.le_refl _
  · exact later other behind

theorem position_le_extendAtom {character : Char} {position next : Nat} {placed : List Placed}
    (later : ∀ other ∈ placed, position ≤ other.position) :
    ∀ other ∈ extendAtom position next character placed, position ≤ other.position := by
  unfold extendAtom
  split
  · split
    · exact position_le_cons fun other inside => later other (List.mem_cons_of_mem _ inside)
    · exact position_le_cons later
  · exact position_le_cons later

/-- No token starts before the characters do. -/
theorem Scans.position_le {position : Nat} {characters : List Char} {placed : List Placed}
    (scans : Scans position characters placed) : ∀ other ∈ placed, position ≤ other.position := by
  induction scans with
  | done => exact fun _ inside => by cases inside
  | blank _ _ inductionHypothesis =>
    exact fun other inside => Nat.le_of_add_right_le (inductionHypothesis other inside)
  | or _ inductionHypothesis =>
    exact position_le_cons fun other inside =>
      Nat.le_of_add_right_le (inductionHypothesis other inside)
  | and _ inductionHypothesis =>
    exact position_le_cons fun other inside =>
      Nat.le_of_add_right_le (inductionHypothesis other inside)
  | single _ _ inductionHypothesis =>
    exact position_le_cons fun other inside =>
      Nat.le_of_add_right_le (inductionHypothesis other inside)
  | atom _ _ inductionHypothesis =>
    exact position_le_extendAtom fun other inside =>
      Nat.le_of_add_right_le (inductionHypothesis other inside)

/-! ### Names -/

/-- No atom goes on with the characters. -/
def Apart (characters : List Char) : Prop :=
  ∀ character ∈ characters.head?, isAtomChar character = false

theorem apart_nil : Apart [] := by
  intro character first
  cases first

theorem Scans.not_atom_first {position : Nat} {characters : List Char} {placed : List Placed}
    (scans : Scans position characters placed) (apart : Apart characters) (name : String)
    (behind : List Placed) : placed ≠ ⟨.atom name, position⟩ :: behind := by
  cases scans with
  | done => exact nofun
  | blank _ later =>
    rintro rfl
    have tooEarly := later.position_le _ List.mem_cons_self
    have wide := Char.utf8Size_pos (by assumption)
    simp only at tooEarly
    omega
  | or => exact nofun
  | and => exact nofun
  | single made _ =>
    rcases singleToken?_eq_some made with ⟨_, rfl⟩ | ⟨_, rfl⟩ | ⟨_, rfl⟩ <;> exact nofun
  | atom inAtom _ =>
    rw [apart _ rfl] at inAtom
    cases inAtom

theorem extendAtom_of_apart {placed : List Placed} {next : Nat}
    (apart : ∀ name behind, placed ≠ ⟨.atom name, next⟩ :: behind) (position : Nat)
    (character : Char) :
    extendAtom position next character placed =
      ⟨.atom (String.singleton character), position⟩ :: placed := by
  unfold extendAtom
  split
  · rename_i name start rest
    refine if_neg ?_
    rintro rfl
    exact apart name rest rfl
  · rfl

theorem scans_letters {name rest : List Char} {placed : List Placed} {position : Nat}
    (inhabited : name ≠ []) (inAtom : ∀ character ∈ name, isAtomChar character = true)
    (apart : Apart rest)
    (behind : Scans (position + (String.ofList name).utf8ByteSize) rest placed) :
    Scans position (name ++ rest) (⟨.atom (String.ofList name), position⟩ :: placed) := by
  induction name generalizing position with
  | nil => exact absurd rfl inhabited
  | cons character more inductionHypothesis =>
    have here := inAtom character List.mem_cons_self
    rw [String.ofList_cons, String.utf8ByteSize_append, String.utf8ByteSize_singleton,
      ← Nat.add_assoc] at behind
    cases more with
    | nil =>
      have next : Scans (position + character.utf8Size) rest placed := behind
      have step := Scans.atom here next
      rw [extendAtom_of_apart (next.not_atom_first apart)] at step
      exact step
    | cons second others =>
      have reads := inductionHypothesis (List.cons_ne_nil second others)
        (fun other inside => inAtom other (List.mem_cons_of_mem _ inside)) behind
      -- The atom behind starts where the character ends, so the character extends it.
      have step := Scans.atom here reads
      rw [extendAtom, if_pos rfl] at step
      rw [String.ofList_cons]
      exact step

/-- A name is one atom, if no atom goes on behind it. -/
theorem scans_name {name : String} (isName : IsName name) {rest : List Char} (apart : Apart rest)
    {placed : List Placed} {position : Nat}
    (behind : Scans (position + name.utf8ByteSize) rest placed) :
    Scans position (name.toList ++ rest) (⟨.atom name, position⟩ :: placed) := by
  have inhabited : name.toList ≠ [] := fun empty => isName.1 (String.toList_eq_nil_iff.mp empty)
  rw [← String.ofList_toList (s := name)] at behind
  have reads := scans_letters inhabited isName.2 apart behind
  rw [String.ofList_toList] at reads
  exact reads

/-! ### Pieces of a text -/

/-- The characters are cut into the tokens, wherever they start. -/
def Spells (characters : List Char) (tokens : List Token) : Prop :=
  ∀ position, ∃ placed, Scans position characters placed ∧ placed.map (·.token) = tokens

/-- The characters are cut into the tokens, whatever follows them. -/
def Symbol (characters : List Char) (tokens : List Token) : Prop :=
  ∀ rest more, Spells rest more → Spells (characters ++ rest) (tokens ++ more)

/-- The characters are cut into the tokens if no atom goes on behind them. -/
def Word (characters : List Char) (tokens : List Token) : Prop :=
  ∀ rest more, Apart rest → Spells rest more → Spells (characters ++ rest) (tokens ++ more)

theorem spells_nil : Spells [] [] :=
  fun position => ⟨[], .done position, rfl⟩

theorem Word.spells {characters : List Char} {tokens : List Token} (word : Word characters tokens) :
    Spells characters tokens := by
  have alone := word [] [] apart_nil spells_nil
  rw [List.append_nil, List.append_nil] at alone
  exact alone

theorem Symbol.word {characters : List Char} {tokens : List Token}
    (symbol : Symbol characters tokens) : Word characters tokens :=
  fun rest more _ => symbol rest more

section Append

variable {first second : List Char} {firstTokens secondTokens : List Token}

theorem Symbol.append (firstSymbol : Symbol first firstTokens)
    (secondSymbol : Symbol second secondTokens) :
    Symbol (first ++ second) (firstTokens ++ secondTokens) := by
  intro rest more spells
  rw [List.append_assoc, List.append_assoc]
  exact firstSymbol _ _ (secondSymbol rest more spells)

theorem Symbol.append_word (symbol : Symbol first firstTokens) (word : Word second secondTokens) :
    Word (first ++ second) (firstTokens ++ secondTokens) := by
  intro rest more apart spells
  rw [List.append_assoc, List.append_assoc]
  exact symbol _ _ (word rest more apart spells)

theorem Word.append_symbol (word : Word first firstTokens) (symbol : Symbol second secondTokens)
    {head : Char} {tail : List Char} (spelled : second = head :: tail)
    (stops : isAtomChar head = false) :
    Symbol (first ++ second) (firstTokens ++ secondTokens) := by
  intro rest more spells
  rw [List.append_assoc, List.append_assoc]
  refine word _ _ ?_ (symbol rest more spells)
  intro character isFirst
  rw [spelled] at isFirst
  cases isFirst
  exact stops

end Append

theorem symbol_blank {character : Char} (blank : isBlank character = true) :
    Symbol [character] [] := by
  intro rest more spells position
  obtain ⟨placed, scans, spelled⟩ := spells (position + character.utf8Size)
  exact ⟨placed, .blank blank scans, spelled⟩

theorem symbol_single {character : Char} {token : Token}
    (made : singleToken? character = some token) : Symbol [character] [token] := by
  intro rest more spells position
  obtain ⟨placed, scans, rfl⟩ := spells (position + character.utf8Size)
  exact ⟨_, .single made scans, rfl⟩

theorem symbol_or : Symbol ['|', '|'] [.or] := by
  intro rest more spells position
  obtain ⟨placed, scans, rfl⟩ := spells (position + 2)
  exact ⟨_, .or scans, rfl⟩

theorem symbol_and : Symbol ['&', '&'] [.and] := by
  intro rest more spells position
  obtain ⟨placed, scans, rfl⟩ := spells (position + 2)
  exact ⟨_, .and scans, rfl⟩

theorem word_name {name : String} (isName : IsName name) : Word name.toList [.atom name] := by
  intro rest more apart spells position
  obtain ⟨placed, scans, rfl⟩ := spells (position + name.utf8ByteSize)
  exact ⟨_, scans_name isName apart scans, rfl⟩

end Foldback.Rule
