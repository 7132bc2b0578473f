/-
Literal texts in a template. A marked text can stand there in one way only, as its
escaped form, and a text without a mark stands there as itself; so escaping and
reading undo each other, and no escaped text is a command or a comment.

A pass leaves the blocks alone at an escaped text, whatever the text is. Where every
open block is published it shows the text again, with its placeholders filled if it
has no mark. Lines that are escaped one by one are a template of themselves.
-/

import Foldback.Proofs.Template.Escape
import Foldback.Proofs.Template.Pieces
import Foldback.Template.Pass

namespace Foldback

namespace Directive

variable {line text : String}

/-! ### Reading an escaped line -/

/-- A text is marked if one of the three marks and `@` stand in front. -/
theorem isMarked_iff_begins :
    isMarked text = true ↔ ∃ mark ∈ ['"', '!', '#'], [mark, '@'] <+: text.toList := by
  have mark (character : Char) : isMark character = true ↔ character ∈ ['"', '!', '#'] := by
    simp [isMark, or_assoc]
  rw [isMarked_iff]
  constructor
  · rintro ⟨first, rest, marked, spelled⟩
    exact ⟨first, (mark first).mp marked, rest, spelled.symm⟩
  · rintro ⟨first, listed, rest, spelled⟩
    exact ⟨first, rest, (mark first).mpr listed, spelled.symm⟩

/-- What is read as a literal text has its first `@` doubled. -/
theorem exists_doubled_of_parse (parsed : parse line = some (.escaped text)) :
    ∃ mark rest, isMark mark = true ∧ line.toList = mark :: '@' :: '@' :: rest ∧
      text = String.ofList (mark :: '@' :: rest) := by
  unfold parse read at parsed
  split at parsed
  · rename_i mark behind spelled
    split at parsed
    · rename_i marked
      unfold classify at parsed
      split at parsed
      · cases parsed
      · cases parsed
      · rename_i literal
        cases parsed
        exact ⟨mark, literal, marked, spelled, rfl⟩
      · split at parsed <;> cases parsed
    · cases parsed
  · cases parsed

/-- One line is read as a marked text, its escaped form, and no line as another text. -/
theorem parse_eq_escaped_iff :
    parse line = some (.escaped text) ↔ isMarked text = true ∧ escape text = line := by
  constructor
  · intro parsed
    obtain ⟨mark, rest, marked, spelled, rfl⟩ := exists_doubled_of_parse parsed
    have written : escapeChars (mark :: '@' :: rest) = line.toList := by
      rw [escapeChars, if_pos marked, spelled]
    refine ⟨isMarked_iff.mpr ⟨mark, rest, marked, String.toList_ofList⟩, ?_⟩
    rw [escape, String.toList_ofList, written, String.ofList_toList]
  · rintro ⟨marked, rfl⟩
    exact parse_escape_of_marked marked

end Directive

/-! ### Passing over escaped lines -/

open Directive

namespace Setup

variable {stack : BlockStack}

/-- A pass meets no command at an escaped text. It shows a marked text wherever the text stands. -/
theorem step_escape (published : stack.published = true) (setup : Setup) (line : Nat)
    (text : String) :
    setup.step line stack (escape text) =
      pure (some (if isMarked text then text else Placeholder.substitute stack.lookup text),
        stack) := by
  unfold step
  rw [parse_escape]
  cases marked : isMarked text with
  | true => rfl
  | false =>
    rw [escape_of_unmarked marked]
    exact if_pos published

theorem passFrom_map_escape (published : stack.published = true) (setup : Setup) (line : Nat)
    (texts : List String) :
    setup.passFrom line stack (texts.map escape) =
      ⟨texts.map fun text =>
          ⟨some (if isMarked text then text else Placeholder.substitute stack.lookup text),
            escape text⟩,
        .ok stack⟩ := by
  induction texts generalizing line with
  | nil => rfl
  | cons text rest inductionHypothesis =>
    rw [List.map_cons, List.map_cons, passFrom, step_escape published, Traced.outcome_pure]
    simp only [inductionHypothesis]

/-- Lines that are escaped one by one render to themselves, under all categories and commands. -/
theorem render_map_escape (setup : Setup) (texts : List String) :
    setup.render (texts.map escape) = .ok texts := by
  have unbound (name : String) : BlockStack.lookup [] name = none := rfl
  have shown (text : String) : (if isMarked text then text
      else Placeholder.substitute (BlockStack.lookup []) text) = text := by
    rw [Placeholder.substitute_of_unbound unbound, ite_self]
  unfold render pass
  rw [passFrom_map_escape rfl]
  simp [Pass.rendered, Pass.visible, List.filterMap_map, shown]

end Setup

/-- Escaping and reading are inverse to each other, an escaped text is never a command or a
comment, and a pass that comes to it with every open block published shows the text, filled if it
has no mark, and leaves the blocks as they are. -/
theorem Directive.escape_inverse (text : String) :
    (isMarked text = true ↔ ∃ mark ∈ ['"', '!', '#'], [mark, '@'] <+: text.toList) ∧
    (isMarked text = true → parse (escape text) = some (.escaped text)) ∧
    (isMarked text = false → escape text = text ∧ parse text = none) ∧
    parse (escape text) ≠ some .comment ∧
    (∀ name arguments, parse (escape text) ≠ some (.command name arguments)) ∧
    (∀ line, parse line = some (.escaped text) → escape text = line) ∧
    ∀ (setup : Setup) (line : Nat) (stack : BlockStack), stack.published = true →
      setup.step line stack (escape text) =
        pure (some (if isMarked text then text else Placeholder.substitute stack.lookup text),
          stack) := by
  refine ⟨isMarked_iff_begins, parse_escape_of_marked,
    fun unmarked => ⟨escape_of_unmarked unmarked, parse_of_unmarked unmarked⟩, ?_, ?_,
    fun line parsed => (parse_eq_escaped_iff.mp parsed).2,
    fun setup line stack published => setup.step_escape published line text⟩
  · rw [parse_escape]
    cases isMarked text <;> exact nofun
  · intro name arguments
    rw [parse_escape]
    cases isMarked text <;> exact nofun

/-- A mark and `@` with nothing behind, and a text without a mark under a binding. -/
theorem Directive.escape_inverse_bare_mark :
    parse "#@@" = some (.escaped "#@") ∧
    (Setup.builtin .empty fun _ => .error .notFound).step 4
        [.binding "port" "80" 3, .conditional true false 2] "listen @@port@@" =
      pure (some "listen 80", [.binding "port" "80" 3, .conditional true false 2]) := by
  obtain ⟨-, reads, -⟩ := escape_inverse "#@"
  obtain ⟨-, -, unmarked, -, -, -, shows⟩ := escape_inverse "listen @@port@@"
  have doubled : escape "#@" = "#@@" := by decide +kernel
  have plain : isMarked "listen @@port@@" = false := by decide +kernel
  have filled : Placeholder.substitute
      (BlockStack.lookup [.binding "port" "80" 3, .conditional true false 2]) "listen @@port@@" =
        "listen 80" := by decide +kernel
  refine ⟨doubled ▸ reads (by decide +kernel), ?_⟩
  have shown := shows (.builtin .empty fun _ => .error .notFound) 4
    [.binding "port" "80" 3, .conditional true false 2] (by decide +kernel)
  rw [(unmarked plain).1, plain, filled] at shown
  exact shown

end Foldback
