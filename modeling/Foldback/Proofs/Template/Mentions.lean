/-
The categories that a source mentions. Only the conditions of its `if` and `elif`
lines ask for categories, and the value of a condition is settled by the atoms
among its tokens, however it is flattened. So two category sets that agree on
these atoms give the same pass, with the same lines and the same error, and the
same edits folded back. A condition that is skipped in one pass is skipped in the
other.
-/

import Foldback.Fold.Merge
import Foldback.Proofs.Rule.Reading
import Foldback.Proofs.Template.Commands
import Foldback.Proofs.Template.Places

namespace Foldback

open Directive

variable {active other : Categories}

/-! ### Conditions -/

/-- The value of a derivation is settled by the atoms that it derives. -/
theorem Rule.Derivation.value_congr {stratum : Stratum} (derivation : Derivation stratum)
    (agree : ∀ name, .atom name ∈ derivation.tokens →
      active.contains name = other.contains name) :
    derivation.value active = derivation.value other := by
  induction derivation with
  | atom name => exact agree name List.mem_cons_self
  | not member inductionHypothesis =>
    have same := inductionHypothesis fun name inside => agree name (List.mem_cons_of_mem _ inside)
    rw [value, value, same]
  | group inside inductionHypothesis =>
    refine inductionHypothesis fun name member => agree name ?_
    exact List.mem_append_left _ (List.mem_cons_of_mem _ member)
  | adjacency first inductionHypothesis => exact inductionHypothesis agree
  | beside front name inductionHypothesis =>
    have same := inductionHypothesis fun name inside => agree name (List.mem_append_left _ inside)
    rw [value, value, same, agree name (List.mem_append_right _ List.mem_cons_self)]
  | conjunction first inductionHypothesis => exact inductionHypothesis agree
  | and front last frontHypothesis lastHypothesis =>
    have sameFront := frontHypothesis fun name inside => agree name (List.mem_append_left _ inside)
    have sameLast := lastHypothesis fun name inside =>
      agree name (List.mem_append_right _ (List.mem_cons_of_mem _ inside))
    rw [value, value, sameFront, sameLast]
  | disjunction first inductionHypothesis => exact inductionHypothesis agree
  | or front last frontHypothesis lastHypothesis =>
    have sameFront := frontHypothesis fun name inside => agree name (List.mem_append_left _ inside)
    have sameLast := lastHypothesis fun name inside =>
      agree name (List.mem_append_right _ (List.mem_cons_of_mem _ inside))
    rw [value, value, sameFront, sameLast]

/-- A rule text has the name as one of its atoms. -/
def Rule.Names (text name : String) : Prop :=
  ∃ placed, scan text = .ok placed ∧ .atom name ∈ placed.map (·.token)

/-- Whether a rule holds is settled by the atoms of its text. -/
theorem Rule.holds_congr {text : String} {rule : Rule} (parsed : parse text = .ok rule)
    (agree : ∀ name, Names text name → active.contains name = other.contains name) :
    rule.holds active = rule.holds other := by
  obtain ⟨placed, scanned, derivation, spelled, rfl⟩ := parse_eq_ok_iff.mp parsed
  have same : derivation.value active = derivation.value other :=
    derivation.value_congr fun name member => agree name ⟨placed, scanned, spelled ▸ member⟩
  unfold Rule.holds
  rw [Condition.holds_simplify, Condition.holds_simplify, Derivation.holds_tree,
    Derivation.holds_tree, same]

theorem Call.condition_congr {arguments : String}
    (agree : ∀ name, Rule.Names arguments name → active.contains name = other.contains name)
    (line : Nat) : condition active line arguments = condition other line arguments := by
  unfold condition
  cases parsed : Rule.parse arguments with
  | error error => rfl
  | ok rule => exact congrArg Except.ok (Rule.holds_congr parsed agree)

/-! ### Commands -/

/-- A condition of the source has the name as one of its atoms. -/
def Directive.Mentions (source : List String) (name : String) : Prop :=
  ∃ command arguments, (command, arguments) ∈ calls source ∧
    (command = "if" ∨ command = "elif") ∧ Rule.Names arguments name

theorem runConditional_congr {names : List String} {files : String → Except FileError String}
    {command arguments : String} (listed : command ∈ conditionalNames)
    (agree : command = "if" ∨ command = "elif" → ∀ name, Rule.Names arguments name →
      active.contains name = other.contains name) (line : Nat) (stack : BlockStack) :
    (runConditional ⟨active, names, files⟩ ⟨command, arguments, line, stack⟩).outcome =
      (runConditional ⟨other, names, files⟩ ⟨command, arguments, line, stack⟩).outcome := by
  simp only [conditionalNames, List.mem_cons, List.not_mem_nil, or_false] at listed
  rcases listed with rfl | rfl | rfl | rfl
  · rw [outcome_if, outcome_if, Call.condition_congr (agree (.inl rfl))]
  · rw [outcome_elif, outcome_elif]
    simp only [Call.condition_congr (agree (.inr rfl))]
  · rw [outcome_else, outcome_else]
  · rw [outcome_endif, outcome_endif]

namespace Setup

variable {firstLine : String → Except FileError String} {source : List String}

theorem advance_of_mentioned {text : String}
    (agree : ∀ name, Mentions [text] name → active.contains name = other.contains name)
    (line : Nat) (stack : BlockStack) :
    (builtin active firstLine).advance line stack text =
      (builtin other firstLine).advance line stack text := by
  cases called : call? text with
  | none => rw [advance_of_not_call called, advance_of_not_call called]
  | some call =>
    obtain ⟨command, arguments⟩ := call
    rw [advance_of_call called, advance_of_call called]
    have table : ∀ set, (builtin set firstLine).commands = .builtin := fun _ => rfl
    rw [dispatch, dispatch, table, table]
    cases found : CommandTable.builtin.find? command with
    | none => rfl
    | some entry =>
      simp only [Traced.outcome_bind, Traced.outcome_mark]
      rcases find?_builtin found with ⟨listed, rfl⟩ | ⟨listed, rfl⟩
      · refine runConditional_congr listed (fun asks name inside => agree name ?_) line stack
        refine ⟨command, arguments, ?_, asks, inside⟩
        rw [calls, List.filterMap_cons_some called]
        exact List.mem_cons_self
      · -- bindings do not ask for categories
        rfl

theorem passFrom_of_mentioned
    (agree : ∀ name, Mentions source name → active.contains name = other.contains name)
    (line : Nat) (stack : BlockStack) :
    (builtin active firstLine).passFrom line stack source =
      (builtin other firstLine).passFrom line stack source := by
  refine passFrom_congr_advance (fun text member => advance_of_mentioned ?_) line stack
  rintro name ⟨command, arguments, called, asks, inside⟩
  refine agree name ⟨command, arguments, ?_, asks, inside⟩
  exact ((List.singleton_sublist.mpr member).filterMap call?).subset called

/-- Categories that a source does not mention never matter: sets that agree on those that it
does mention give the same pass, and so the same rendered lines or the same error, and the same
source or error when edits are folded back. -/
theorem pass_of_mentioned (firstLine : String → Except FileError String)
    (agree : ∀ name, Mentions source name → active.contains name = other.contains name) :
    (builtin active firstLine).pass source = (builtin other firstLine).pass source ∧
    (builtin active firstLine).render source = (builtin other firstLine).render source ∧
    ∀ edited, (builtin active firstLine).foldBack source edited =
      (builtin other firstLine).foldBack source edited := by
  have same : (builtin active firstLine).pass source = (builtin other firstLine).pass source :=
    passFrom_of_mentioned agree 1 []
  refine ⟨same, ?_, fun edited => ?_⟩
  · rw [render, render, same]
  · rw [foldBack, foldBack, render, render, same]

/-- Three mentioned names, of which one is active in both sets; each set has one more name. -/
theorem pass_of_mentioned_two_hosts :
    (∀ name, Mentions ["#@if web && !mail", "a", "#@elif db", "b", "#@endif"] name →
      (Categories.ofList ["db", "first"]).contains name =
        (Categories.ofList ["db", "second"]).contains name) ∧
    (builtin (.ofList ["db", "first"]) fun _ => .error .notFound).render
        ["#@if web && !mail", "a", "#@elif db", "b", "#@endif"] =
      (builtin (.ofList ["db", "second"]) fun _ => .error .notFound).render
        ["#@if web && !mail", "a", "#@elif db", "b", "#@endif"] ∧
    (builtin (.ofList ["db", "second"]) fun _ => .error .notFound).render
        ["#@if web && !mail", "a", "#@elif db", "b", "#@endif"] = .ok ["b"] := by
  have agree : ∀ name, Mentions ["#@if web && !mail", "a", "#@elif db", "b", "#@endif"] name →
      (Categories.ofList ["db", "first"]).contains name =
        (Categories.ofList ["db", "second"]).contains name := by
    rintro name ⟨command, arguments, called, -, placed, scanned, inside⟩
    have calls : calls ["#@if web && !mail", "a", "#@elif db", "b", "#@endif"] =
        [("if", "web && !mail"), ("elif", "db"), ("endif", "")] := by decide +kernel
    have first : Rule.scan "web && !mail" =
        .ok [⟨.atom "web", 0⟩, ⟨.and, 4⟩, ⟨.not, 7⟩, ⟨.atom "mail", 8⟩] := by cbv
    have second : Rule.scan "db" = .ok [⟨.atom "db", 0⟩] := by cbv
    have third : Rule.scan "" = .ok [] := by cbv
    rw [calls] at called
    simp only [List.mem_cons, Prod.mk.injEq, List.not_mem_nil, or_false] at called
    rcases called with ⟨-, rfl⟩ | ⟨-, rfl⟩ | ⟨-, rfl⟩
    · cases first.symm.trans scanned
      simp only [List.map_cons, List.map_nil, List.mem_cons, Rule.Token.atom.injEq,
        reduceCtorEq, false_or, List.not_mem_nil, or_false] at inside
      rcases inside with rfl | rfl <;> decide +kernel
    · cases second.symm.trans scanned
      simp only [List.map_cons, List.map_nil, List.mem_cons, Rule.Token.atom.injEq,
        List.not_mem_nil, or_false] at inside
      subst inside
      decide +kernel
    · cases third.symm.trans scanned
      cases inside
  exact ⟨agree, (pass_of_mentioned _ agree).2.1, by cbv⟩

end Setup

end Foldback
