/-
The written form of a condition is a rule, and it reads back as the condition
itself, flattened.

The written form joins any number of members at once and puts parentheses around
every member that is joined again; the grammar only ever adds one more member
behind the ones before. So a derivation of the written form is built up from the
front, and what is said of it on the way is what it adds to a surrounding
condition: the flattened members so far. Flattening makes no difference between
the two shapes.

What a rule text denotes can always be written, and is flat already. Its written
form is therefore read back as the same condition, with the same written form.
-/

import Foldback.Proofs.Rule.Reading
import Foldback.Proofs.Rule.Scanning

namespace Foldback.Rule

/-! ### Conditions that can be written -/

namespace Condition

/-- Conditions of names, negations and connectives that have members. -/
inductive Writable : Condition → Prop where
  | atom {name : String} (isName : IsName name) : Writable (.atom name)
  | not {member : Condition} (inside : Writable member) : Writable (.not member)
  | joined (connective : Connective) {members : List Condition} (inhabited : members ≠ [])
      (each : ∀ member ∈ members, Writable member) : Writable (connective.node members)

namespace Writable

theorem of_node {connective : Connective} {members : List Condition}
    (writable : Writable (connective.node members)) :
    members ≠ [] ∧ ∀ member ∈ members, Writable member := by
  generalize whole : connective.node members = condition at writable
  cases writable with
  | atom => cases connective <;> cases whole
  | not => cases connective <;> cases whole
  | joined other inhabited each =>
    obtain ⟨rfl, rfl⟩ := Connective.node_injective _ whole
    exact ⟨inhabited, each⟩

theorem parts {condition : Condition} (writable : Writable condition) (connective : Connective) :
    connective.parts condition ≠ [] ∧ ∀ part ∈ connective.parts condition, Writable part := by
  rcases connective.node_or_unlike condition with ⟨members, rfl⟩ | unlike
  · rw [Connective.parts_node]
    exact writable.of_node
  · rw [Connective.parts_of_unlike connective unlike]
    refine ⟨List.cons_ne_nil _ _, fun part inside => ?_⟩
    rw [List.mem_singleton.mp inside]
    exact writable

theorem join {connective : Connective} {members : List Condition} (inhabited : members ≠ [])
    (each : ∀ member ∈ members, Writable member) : Writable (connective.join members) := by
  by_cases single : members.length = 1
  · obtain ⟨member, rfl⟩ := List.length_eq_one_iff.mp single
    rw [Connective.join_singleton]
    exact each member List.mem_cons_self
  · rw [Connective.join_of_plural connective single]
    exact .joined connective inhabited each

/-- Flattening keeps a condition writable: no connective loses its last member. -/
theorem simplify {condition : Condition} (writable : Writable condition) :
    Writable condition.simplify := by
  induction writable with
  | atom isName => exact .atom isName
  | not _ inductionHypothesis => exact .not inductionHypothesis
  | @joined connective members inhabited _ inductionHypothesis =>
    rw [Connective.simplify_node]
    refine join ?_ fun part inside => ?_
    · obtain ⟨first, rest, rfl⟩ := List.exists_cons_of_ne_nil inhabited
      rw [Connective.flatten_cons]
      intro empty
      exact ((inductionHypothesis first List.mem_cons_self).parts connective).1
        (List.append_eq_nil_iff.mp empty).1
    · rw [Connective.flatten_eq_flatMap] at inside
      obtain ⟨member, listed, isPart⟩ := List.mem_flatMap.mp inside
      exact ((inductionHypothesis member listed).parts connective).2 part isPart

end Writable

end Condition

open Condition

/-- A condition can be written if it is derived from tokens whose atoms are names. -/
theorem Derivation.writable_tree {stratum : Stratum} (derivation : Derivation stratum)
    (named : ∀ name, .atom name ∈ derivation.tokens → IsName name) :
    derivation.tree.Writable := by
  induction derivation with
  | atom name => exact .atom (named name List.mem_cons_self)
  | not member inductionHypothesis =>
    exact .not (inductionHypothesis fun name inside => named name (List.mem_cons_of_mem _ inside))
  | group inside inductionHypothesis =>
    refine inductionHypothesis fun name within => named name ?_
    exact List.mem_append_left _ (List.mem_cons_of_mem _ within)
  | adjacency first inductionHypothesis => exact inductionHypothesis named
  | beside front name inductionHypothesis =>
    have frontWritable := inductionHypothesis fun other inside =>
      named other (List.mem_append_left _ inside)
    have last := named name (List.mem_append_right _ List.mem_cons_self)
    exact .joined .or (List.cons_ne_nil _ _) (by simp [frontWritable, Writable.atom last])
  | conjunction first inductionHypothesis => exact inductionHypothesis named
  | and front last frontHypothesis lastHypothesis =>
    have frontWritable := frontHypothesis fun name inside =>
      named name (List.mem_append_left _ inside)
    have lastWritable := lastHypothesis fun name inside =>
      named name (List.mem_append_right _ (List.mem_cons_of_mem _ inside))
    exact .joined .and (List.cons_ne_nil _ _) (by simp [frontWritable, lastWritable])
  | disjunction first inductionHypothesis => exact inductionHypothesis named
  | or front last frontHypothesis lastHypothesis =>
    have frontWritable := frontHypothesis fun name inside =>
      named name (List.mem_append_left _ inside)
    have lastWritable := lastHypothesis fun name inside =>
      named name (List.mem_append_right _ (List.mem_cons_of_mem _ inside))
    exact .joined .or (List.cons_ne_nil _ _) (by simp [frontWritable, lastWritable])

/-- What a rule text denotes can be written. -/
theorem writable_of_parse {text : String} {rule : Rule} (parses : parse text = .ok rule) :
    rule.condition.Writable := by
  obtain ⟨placed, scanned, derivation, spelled, rfl⟩ := parse_eq_ok_iff.mp parses
  refine (derivation.writable_tree fun name inside => ?_).simplify
  rw [spelled] at inside
  obtain ⟨⟨_, position⟩, listed, rfl⟩ := List.mem_map.mp inside
  exact (scan_eq_ok_iff.mp scanned).named name position listed

/-! ### The written form -/

/-- The operator of a connective. -/
def Connective.token : Connective → Token
  | .and => .and
  | .or => .or

/-- What is written between the members. -/
def Connective.separator : Connective → String
  | .and => " && "
  | .or => " || "

theorem symbol_separator (connective : Connective) :
    Symbol connective.separator.toList [connective.token] := by
  have blank : Symbol [' '] [] := symbol_blank rfl
  cases connective with
  | and => exact (blank.append symbol_and).append blank
  | or => exact (blank.append symbol_or).append blank

namespace Condition

/-- The written form of a condition inside another one. -/
def memberText (condition : Condition) : String :=
  if condition.isJoined then "(" ++ condition.text ++ ")" else condition.text

theorem isJoined_node (connective : Connective) (members : List Condition) :
    (connective.node members).isJoined = true := by
  cases connective <;> rfl

theorem memberText_not (member : Condition) :
    (Condition.not member).memberText = (Condition.not member).text := by
  cases member <;> rfl

theorem toList_text_not (member : Condition) :
    (Condition.not member).text.toList = '!' :: ' ' :: member.memberText.toList := by
  unfold text memberText
  split
  · simp only [String.toList_append]
    rfl
  · simp only [String.toList_append]
    rfl

theorem text_node (connective : Connective) (members : List Condition) :
    (connective.node members).text = joinedText connective.separator members := by
  cases connective <;> rfl

theorem toList_joinedText (separator : String) (first : Condition) (rest : List Condition) :
    (joinedText separator (first :: rest)).toList =
      first.memberText.toList ++
        rest.flatMap fun next => separator.toList ++ next.memberText.toList := by
  induction rest generalizing first with
  | nil =>
    rw [joinedText, String.toList_append]
    rfl
  | cons second more inductionHypothesis =>
    rw [joinedText, String.toList_append, String.toList_append, inductionHypothesis,
      List.flatMap_cons, List.append_assoc]
    rfl

end Condition

/-! ### Derivations of the written form -/

/-- The derivation is one of the characters, and flattens to what the condition does. -/
structure Derivation.Writes {stratum : Stratum} (derivation : Derivation stratum)
    (characters : List Char) (condition : Condition) : Prop where
  word : Word characters derivation.tokens
  flat : derivation.tree.simplify = condition.simplify

/-- A primary taken for a whole condition. -/
def Derivation.alone (primary : Derivation .primary) : Derivation .disjunction :=
  .disjunction (.conjunction (.adjacency primary))

namespace Connective

/-- The level at which a connective adds members. -/
def stratum : Connective → Stratum
  | .and => .conjunction
  | .or => .disjunction

/-- The first member of a connective. -/
def first : (connective : Connective) → Derivation .primary → Derivation connective.stratum
  | .and, primary => .conjunction (.adjacency primary)
  | .or, primary => .disjunction (.conjunction (.adjacency primary))

/-- One more member behind the ones before. -/
def extend : (connective : Connective) → Derivation connective.stratum → Derivation .primary →
    Derivation connective.stratum
  | .and, front, primary => .and front (.adjacency primary)
  | .or, front, primary => .or front (.conjunction (.adjacency primary))

/-- Joined members taken for a whole condition. -/
def close : (connective : Connective) → Derivation connective.stratum → Derivation .disjunction
  | .and, members => .disjunction members
  | .or, members => members

variable (connective : Connective)

theorem tokens_first (primary : Derivation .primary) :
    (connective.first primary).tokens = primary.tokens := by
  cases connective <;> rfl

theorem tree_first (primary : Derivation .primary) :
    (connective.first primary).tree = primary.tree := by
  cases connective <;> rfl

theorem tokens_extend (front : Derivation connective.stratum) (primary : Derivation .primary) :
    (connective.extend front primary).tokens =
      front.tokens ++ [connective.token] ++ primary.tokens := by
  rw [List.append_assoc]
  cases connective <;> rfl

theorem tree_extend (front : Derivation connective.stratum) (primary : Derivation .primary) :
    (connective.extend front primary).tree = connective.node [front.tree, primary.tree] := by
  cases connective <;> rfl

theorem tokens_close (members : Derivation connective.stratum) :
    (connective.close members).tokens = members.tokens := by
  cases connective <;> rfl

theorem tree_close (members : Derivation connective.stratum) :
    (connective.close members).tree = members.tree := by
  cases connective <;> rfl

/-- One more member adds its parts behind those of the members before. -/
theorem parts_extend (front : Derivation connective.stratum) (primary : Derivation .primary) :
    connective.parts (connective.extend front primary).tree.simplify =
      connective.parts front.tree.simplify ++ connective.parts primary.tree.simplify := by
  have flat : connective.flatten [front.tree, primary.tree] =
      connective.parts front.tree.simplify ++ connective.parts primary.tree.simplify := by
    rw [flatten_eq_flatMap, List.flatMap_cons, List.flatMap_singleton]
  rw [tree_extend, simplify_node, parts_join, flat]
  intro part inside
  exact (normal_flatten (fun member _ => normal_simplify member) part inside).2

/-- Further members can be derived behind the ones before. -/
theorem exists_extension {rest : List Condition}
    (each : ∀ member ∈ rest, ∃ primary : Derivation .primary,
      primary.Writes member.memberText.toList member)
    (front : Derivation connective.stratum) {written : List Char}
    (word : Word written front.tokens) :
    ∃ whole : Derivation connective.stratum,
      Word (written ++ rest.flatMap fun next =>
        connective.separator.toList ++ next.memberText.toList) whole.tokens ∧
      connective.parts whole.tree.simplify =
        connective.parts front.tree.simplify ++ connective.flatten rest := by
  -- What is written so far is the word of a derivation; a separator and a member make it longer.
  induction rest generalizing front written with
  | nil =>
    refine ⟨front, ?_, ?_⟩
    · rw [List.flatMap_nil, List.append_nil]
      exact word
    · cases connective <;> exact (List.append_nil _).symm
  | cons member more inductionHypothesis =>
    obtain ⟨primary, writes⟩ := each member List.mem_cons_self
    have separated : Symbol (written ++ connective.separator.toList)
        (front.tokens ++ [connective.token]) := by
      cases connective with
      | and => exact word.append_symbol (symbol_separator .and) rfl rfl
      | or => exact word.append_symbol (symbol_separator .or) rfl rfl
    have extended := separated.append_word writes.word
    rw [← tokens_extend] at extended
    obtain ⟨whole, wholeWord, wholeParts⟩ := inductionHypothesis
      (fun other inside => each other (List.mem_cons_of_mem _ inside))
      (connective.extend front primary) extended
    refine ⟨whole, ?_, ?_⟩
    · rw [List.flatMap_cons]
      simp only [List.append_assoc] at wholeWord ⊢
      exact wholeWord
    · rw [wholeParts, parts_extend, flatten_cons, writes.flat, List.append_assoc]

/-- Members that can be derived can be derived together. -/
theorem exists_writes_node {members : List Condition} (inhabited : members ≠ [])
    (each : ∀ member ∈ members, ∃ primary : Derivation .primary,
      primary.Writes member.memberText.toList member) :
    ∃ whole : Derivation .disjunction,
      whole.Writes (connective.node members).text.toList (connective.node members) := by
  obtain ⟨member, rest, rfl⟩ := List.exists_cons_of_ne_nil inhabited
  obtain ⟨primary, writes⟩ := each member List.mem_cons_self
  have start : Word member.memberText.toList (connective.first primary).tokens := by
    rw [tokens_first]
    exact writes.word
  obtain ⟨whole, word, parts⟩ := connective.exists_extension
    (fun other inside => each other (List.mem_cons_of_mem _ inside)) _ start
  refine ⟨connective.close whole, ?_, ?_⟩
  · rw [tokens_close, text_node, toList_joinedText]
    exact word
  · rw [tree_close, ← (normal_simplify whole.tree).join_parts connective, parts, tree_first,
      writes.flat, ← flatten_cons, simplify_node]

end Connective

theorem Derivation.Writes.group {inside : Derivation .disjunction} {characters : List Char}
    {condition : Condition} (writes : inside.Writes characters condition) :
    (Derivation.group inside).Writes ('(' :: characters ++ [')']) condition where
  word := by
    have opening : Symbol ['('] [.openParen] := symbol_single rfl
    have closing : Symbol [')'] [.closeParen] := symbol_single rfl
    exact (opening.append_word writes.word |>.append_symbol closing rfl rfl).word
  flat := writes.flat

theorem Derivation.Writes.not {member : Derivation .primary} {characters : List Char}
    {condition : Condition} (writes : member.Writes characters condition) :
    (Derivation.not member).Writes ('!' :: ' ' :: characters) (.not condition) where
  word := by
    have mark : Symbol ['!', ' '] [.not] := (symbol_single rfl).append (symbol_blank rfl)
    exact mark.append_word writes.word
  flat := congrArg Condition.not writes.flat

/-- A writable condition can be derived as a member of another one. -/
theorem Condition.Writable.exists_primary {condition : Condition} (writable : Writable condition) :
    ∃ primary : Derivation .primary, primary.Writes condition.memberText.toList condition := by
  induction writable with
  | @atom name isName => exact ⟨.atom name, word_name isName, rfl⟩
  | @not member _ inductionHypothesis =>
    obtain ⟨primary, writes⟩ := inductionHypothesis
    refine ⟨.not primary, ?_⟩
    rw [memberText_not, toList_text_not]
    exact writes.not
  | @joined connective members inhabited _ inductionHypothesis =>
    obtain ⟨whole, writes⟩ := connective.exists_writes_node inhabited inductionHypothesis
    refine ⟨.group whole, ?_⟩
    rw [memberText, if_pos (isJoined_node connective members), String.toList_append,
      String.toList_append]
    exact writes.group

/-- A writable condition can be derived as it is written. -/
theorem Condition.Writable.exists_disjunction {condition : Condition}
    (writable : Writable condition) :
    ∃ whole : Derivation .disjunction, whole.Writes condition.text.toList condition := by
  cases writable with
  | @atom name isName =>
    obtain ⟨primary, writes⟩ := (Writable.atom isName).exists_primary
    exact ⟨primary.alone, writes.word, writes.flat⟩
  | @not member inside =>
    obtain ⟨primary, writes⟩ := (Writable.not inside).exists_primary
    exact ⟨primary.alone, writes.word, writes.flat⟩
  | joined connective inhabited each =>
    exact connective.exists_writes_node inhabited fun member listed =>
      (each member listed).exists_primary

theorem Condition.Writable.parse_text {condition : Condition} (writable : Writable condition) :
    parse condition.text = .ok ⟨condition.text, condition.simplify⟩ := by
  obtain ⟨whole, writes⟩ := writable.exists_disjunction
  obtain ⟨placed, scans, spelled⟩ := writes.word.spells 0
  rw [← writes.flat]
  exact parse_eq_ok_iff.mpr ⟨placed, scan_eq_ok_iff.mpr scans, whole, spelled.symm, rfl⟩

/-- The written form of a condition that can be written is a rule with the flattened condition. So
the written form of a rule is a rule that is the same and has the same written form. -/
theorem parse_text_condition :
    (∀ condition : Condition, condition.Writable →
      ∃ rule, parse condition.text = .ok rule ∧ rule.condition = condition.simplify) ∧
    (∀ text rule, parse text = .ok rule →
      ∃ again, parse rule.text = .ok again ∧ again.same rule = true ∧ again.text = rule.text) := by
  refine ⟨fun condition writable => ⟨_, writable.parse_text, rfl⟩, fun text rule parses => ?_⟩
  have normal : rule.condition.simplify = rule.condition := by
    obtain ⟨placed, scanned, derivation, spelled, rfl⟩ := parse_eq_ok_iff.mp parses
    exact simplify_simplify _
  have again := (writable_of_parse parses).parse_text
  rw [normal] at again
  exact ⟨_, again, beq_self_eq_true rule.condition, rfl⟩

/-- A connective with a single member inside, and a double negation in front of another; then the
text of a rule that was written in another way. -/
theorem parse_text_condition_single_members :
    (∃ rule, parse "(a || (b)) && ! ! (c.1)" = .ok rule ∧
      rule.condition = .all [.any [.atom "a", .atom "b"], .not (.not (.atom "c.1"))]) ∧
    ∃ rule again, parse "a b&&!c" = .ok rule ∧ parse "(a || b) && ! c" = .ok again ∧
      again.same rule = true ∧ again.text = rule.text := by
  obtain ⟨ofConditions, ofTexts⟩ := parse_text_condition
  constructor
  · have a : Writable (.atom "a") := .atom ⟨by decide, List.all_eq_true.mp rfl⟩
    have b : Writable (.atom "b") := .atom ⟨by decide, List.all_eq_true.mp rfl⟩
    have c : Writable (.atom "c.1") := .atom ⟨by decide, List.all_eq_true.mp rfl⟩
    have single : Writable (.all [.atom "b"]) :=
      .joined .and (List.cons_ne_nil _ _) (by simpa using b)
    have left : Writable (.any [.atom "a", .all [.atom "b"]]) :=
      .joined .or (List.cons_ne_nil _ _) (by simpa using ⟨a, single⟩)
    have right : Writable (.not (.not (.any [.atom "c.1"]))) :=
      .not (.not (.joined .or (List.cons_ne_nil _ _) (by simpa using c)))
    exact ofConditions (.all [.any [.atom "a", .all [.atom "b"]], .not (.not (.any [.atom "c.1"]))])
      (.joined .and (List.cons_ne_nil _ _) (by simpa using ⟨left, right⟩))
  · have first : parse "a b&&!c" =
        .ok ⟨"a b&&!c", .all [.any [.atom "a", .atom "b"], .not (.atom "c")]⟩ := by cbv
    obtain ⟨again, parses, same, spelled⟩ := ofTexts "a b&&!c" _ first
    exact ⟨_, again, first, parses, same, spelled⟩

end Foldback.Rule
