/-
The files that a pass reads. Only a `withfile` line reads a file, so two readers
that give the same for the paths on these lines give the same pass. A line that
cannot read its file ends the pass with an error, so a pass that meets no error has
read them all.
-/

import Foldback.Proofs.Template.Commands
import Foldback.Proofs.Template.Places

namespace Foldback

open Directive

namespace Directive

/-- A line of the source reads the file at the path. -/
def ReadsFile (source : List String) (path : String) : Prop :=
  ∃ arguments name, ("withfile", arguments) ∈ calls source ∧
    Call.binding? arguments = some (name, path)

/-- The paths of the files that a source reads. -/
def filesRead (source : List String) : List String :=
  (calls source).filterMap fun (name, arguments) =>
    if name = "withfile" then (Call.binding? arguments).map Prod.snd else none

theorem mem_filesRead_iff {source : List String} {path : String} :
    path ∈ filesRead source ↔ ReadsFile source path := by
  unfold filesRead ReadsFile
  rw [List.mem_filterMap]
  constructor
  · rintro ⟨⟨name, arguments⟩, member, found⟩
    dsimp only at found
    split at found
    next withfile =>
      subst withfile
      obtain ⟨⟨bound, written⟩, pair, rfl⟩ := Option.map_eq_some_iff.mp found
      exact ⟨arguments, bound, member, pair⟩
    · cases found
  · rintro ⟨arguments, name, member, pair⟩
    refine ⟨_, member, ?_⟩
    dsimp only
    rw [if_pos rfl, pair]
    rfl

theorem fileRead?_of_parse {text arguments bound path : String}
    (parsed : parse text = some (.command "withfile" arguments))
    (pair : Call.binding? arguments = some (bound, path)) : fileRead? text = some path := by
  unfold fileRead?
  rw [parsed]
  dsimp only
  rw [if_pos rfl, pair]
  rfl

/-- A line that reads a file is a `withfile` line with the path. -/
theorem exists_call_of_fileRead {text path : String} (reads : fileRead? text = some path) :
    ∃ arguments bound, call? text = some ("withfile", arguments) ∧
      Call.binding? arguments = some (bound, path) := by
  unfold fileRead? at reads
  split at reads
  next name arguments parsed =>
    have called : call? text = some (name, arguments) := by
      unfold call?
      rw [parsed]
    split at reads
    next withfile =>
      subst withfile
      obtain ⟨⟨bound, written⟩, pair, rfl⟩ := Option.map_eq_some_iff.mp reads
      exact ⟨arguments, bound, called, pair⟩
    · cases reads
  · cases reads

theorem readsFile_iff {source : List String} {path : String} :
    ReadsFile source path ↔ ∃ text ∈ source, fileRead? text = some path := by
  constructor
  · rintro ⟨arguments, bound, member, pair⟩
    obtain ⟨text, listed, called⟩ := List.mem_filterMap.mp member
    exact ⟨text, listed, fileRead?_of_parse (parse_of_call called) pair⟩
  · rintro ⟨text, listed, reads⟩
    obtain ⟨arguments, bound, called, pair⟩ := exists_call_of_fileRead reads
    exact ⟨arguments, bound, List.mem_filterMap.mpr ⟨text, listed, called⟩, pair⟩

end Directive

/-! ### One command -/

section Commands

variable {active : Categories} {names : List String} {call : Call}
  {first second : String → Except FileError String}

theorem runBinding_congr (agree : call.name = "withfile" → ∀ bound path,
    Call.binding? call.arguments = some (bound, path) → first path = second path) :
    runBinding ⟨active, names, first⟩ call = runBinding ⟨active, names, second⟩ call := by
  unfold runBinding
  split
  · rfl
  next withfile =>
    unfold Call.binding
    cases pair : Call.binding? call.arguments with
    | none => rfl
    | some written =>
      obtain ⟨bound, path⟩ := written
      show Traced.andThen (Traced.done (bound, path)) _ =
        Traced.andThen (Traced.done (bound, path)) _
      unfold Traced.andThen Traced.done
      dsimp only
      rw [agree withfile bound path pair]
  · rfl
  · rfl

/-- A command depends on the file that it reads, and on no other. -/
theorem dispatch_congr (agree : call.name = "withfile" → ∀ bound path,
    Call.binding? call.arguments = some (bound, path) → first path = second path) :
    (Setup.builtin active first).dispatch call = (Setup.builtin active second).dispatch call := by
  have table : ∀ files, (Setup.builtin active files).commands = .builtin := fun _ => rfl
  unfold Setup.dispatch
  rw [table, table]
  cases found : CommandTable.builtin.find? call.name with
  | none => rfl
  | some command =>
    refine congrArg (Traced.mark PassNote.dispatched >>= ·) (funext fun _ => ?_)
    rcases find?_builtin found with ⟨-, rfl⟩ | ⟨-, rfl⟩
    · rfl
    · exact runBinding_congr agree

end Commands

namespace Setup

variable {active : Categories} {first second : String → Except FileError String} {text : String}

/-- A line depends on the file that it reads, and on no other. -/
theorem step_congr (active : Categories)
    (agree : ∀ path, fileRead? text = some path → first path = second path) (line : Nat)
    (stack : BlockStack) :
    (builtin active first).step line stack text = (builtin active second).step line stack text := by
  unfold step
  cases parsed : parse text with
  | none => rfl
  | some directive =>
    cases directive with
    | comment => rfl
    | escaped literal => rfl
    | command name arguments =>
      refine congrArg (· >>= _) (dispatch_congr fun withfile bound path pair => ?_)
      cases (withfile : name = "withfile")
      exact agree path (fileRead?_of_parse parsed pair)

/-- A pass depends on the files that its source reads, and on no others. -/
theorem passFrom_congr {source : List String}
    (agree : ∀ path, ReadsFile source path → first path = second path) (line : Nat)
    (stack : BlockStack) :
    (builtin active first).passFrom line stack source =
      (builtin active second).passFrom line stack source := by
  refine passFrom_congr_advance (fun text member line stack => ?_) line stack
  cases called : call? text with
  | none => rw [advance_of_not_call called, advance_of_not_call called]
  | some call =>
    obtain ⟨name, arguments⟩ := call
    rw [advance_of_call called, advance_of_call called]
    refine congrArg Traced.outcome (dispatch_congr fun withfile bound path pair => ?_)
    cases (withfile : name = "withfile")
    exact agree path (readsFile_iff.mpr
      ⟨text, member, fileRead?_of_parse (parse_of_call called) pair⟩)

theorem render_congr {source : List String}
    (agree : ∀ path, ReadsFile source path → first path = second path) :
    (builtin active first).render source = (builtin active second).render source := by
  unfold render pass
  rw [passFrom_congr agree]

/-- A line that cannot read its file refuses to go on. -/
theorem advance_of_unread {firstLine : String → Except FileError String} {path : String}
    {reason : FileError} (reads : fileRead? text = some path)
    (missed : firstLine path = .error reason) (line : Nat) (stack : BlockStack) :
    (builtin active firstLine).advance line stack text = .error (.file line path reason) := by
  obtain ⟨arguments, bound, called, pair⟩ := exists_call_of_fileRead reads
  have found : (builtin active firstLine).commands.find? "withfile" = some bindingCommand := rfl
  have given : (builtin active firstLine).surroundings.firstLine path = .error reason := missed
  rw [advance_of_call called, dispatch, found]
  simp only [Traced.outcome_bind, Traced.outcome_mark]
  show (runBinding _ _).outcome = _
  rw [outcome_withfile, Call.bound, pair]
  show Except.map _ (Surroundings.value _ line path) = _
  rw [Surroundings.value, given]
  rfl

/-- A source that renders has read the files that its lines read. -/
theorem exists_firstLine_of_renders {firstLine : String → Except FileError String}
    {source : List String} (renders : (builtin active firstLine).Renders source) {path : String}
    (reads : ReadsFile source path) : ∃ content, firstLine path = .ok content := by
  obtain ⟨text, member, reads⟩ := readsFile_iff.mp reads
  obtain ⟨final, ends⟩ := renders
  obtain ⟨line, stack, next, moved⟩ := exists_advance_of_ending ends member
  cases found : firstLine path with
  | ok content => exact ⟨content, rfl⟩
  | error reason =>
    rw [advance_of_unread reads found] at moved
    cases moved

end Setup

end Foldback
