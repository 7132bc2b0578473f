/-
Tables that grow. A command may be offered to a table at any time. The table takes
it under all its names if every one of them is free, and stays as it is if one is
taken. A table that was reached from the built-in one is told by the commands that
it accepted on the way: their names are the ones that it has besides the built-in
ones, and a name stands for the command that was first accepted under it, whatever
is offered later.

A call is told by the command that its name stands for, and the built-in commands
do not look at the other names of the table. So sources that run built-in commands
alone give the same pass under every table reached in this way, and a source that
renders under the built-in table is such a source.
-/

import Mathlib
import Foldback.Proofs.Template.Commands
import Foldback.Proofs.Template.Places

namespace Foldback

open Directive Text

namespace CommandTable

variable {table grown : CommandTable} {command : Command} {name : String}

/-! ### Names and what they stand for -/

theorem has_iff : table.has name = true ↔ name ∈ table.names := by
  unfold has find? names
  rw [mem_sortNames, Option.isSome_iff_exists]
  constructor
  · rintro ⟨command, found⟩
    obtain ⟨before, behind, whole, -⟩ := List.lookup_eq_some_iff.mp found
    rw [whole]
    exact List.mem_map.mpr ⟨(name, command), List.mem_append_right _ List.mem_cons_self, rfl⟩
  · intro listed
    obtain ⟨⟨_, command⟩, member, rfl⟩ := List.mem_map.mp listed
    refine Option.ne_none_iff_exists'.mp fun missing => ?_
    simpa using List.lookup_eq_none_iff.mp missing _ member

theorem find?_eq_none_iff : table.find? name = none ↔ name ∉ table.names := by
  rw [← has_iff, has, Option.isSome_iff_ne_none, not_not]

/-- The first of some commands that answers to a name. -/
def firstNamed? (commands : List Command) (name : String) : Option Command :=
  commands.find? fun command => command.names.contains name

theorem firstNamed?_singleton (command : Command) (name : String) :
    firstNamed? [command] name = if name ∈ command.names then some command else none := by
  unfold firstNamed?
  by_cases listed : name ∈ command.names <;> simp [listed]

theorem isSome_firstNamed? {commands : List Command} :
    (firstNamed? commands name).isSome = true ↔ ∃ command ∈ commands, name ∈ command.names := by
  simp [firstNamed?]

theorem lookup_under_names (names : List String) (command : Command) (name : String) :
    (names.map fun listed => (listed, command)).lookup name =
      if name ∈ names then some command else none := by
  induction names with
  | nil => rfl
  | cons first rest inductionHypothesis =>
    rw [List.map_cons, List.lookup_cons, inductionHypothesis]
    by_cases same : name = first
    · simp [same]
    · rw [beq_eq_false_iff_ne.mpr same]
      simp [same]

/-- The names of a command that is added stand for it, unless they stood for another one. -/
theorem find?_add (table : CommandTable) (command : Command) (name : String) :
    (table.add command).find? name = (table.find? name).or (firstNamed? [command] name) := by
  rw [firstNamed?_singleton, ← lookup_under_names]
  exact List.lookup_append

theorem find?_foldl_add (table : CommandTable) (commands : List Command) (name : String) :
    (commands.foldl add table).find? name = (table.find? name).or (firstNamed? commands name) := by
  induction commands generalizing table with
  | nil => exact Option.or_none.symm
  | cons command rest inductionHypothesis =>
    rw [List.foldl_cons, inductionHypothesis, find?_add, Option.or_assoc, firstNamed?, firstNamed?,
      firstNamed?, ← List.find?_append, List.singleton_append]

/-! ### One offer -/

/-- A refusal names the first name of the command that is taken. -/
theorem register_eq_error_iff :
    table.register command = .error ⟨name⟩ ↔
      ∃ before behind, command.names = before ++ name :: behind ∧ name ∈ table.names ∧
        ∀ other ∈ before, other ∉ table.names := by
  have found : table.register command = .error ⟨name⟩ ↔
      command.names.find? table.has = some name := by
    unfold register offer
    cases command.names.find? table.has <;> simp [Except.map]
  rw [found, List.find?_eq_some_iff_append, has_iff]
  constructor
  · rintro ⟨taken, before, behind, whole, free⟩
    refine ⟨before, behind, whole, taken, fun other member listed => ?_⟩
    simpa [has_iff.mpr listed] using free other member
  · rintro ⟨before, behind, whole, taken, free⟩
    refine ⟨taken, before, behind, whole, fun other member => ?_⟩
    simpa [← has_iff] using free other member

/-- A command is accepted if all its names are free, and is added then. -/
theorem register_eq_ok_iff :
    table.register command = .ok grown ↔
      (∀ name ∈ command.names, name ∉ table.names) ∧ table.add command = grown := by
  have free : command.names.find? table.has = none ↔
      ∀ name ∈ command.names, name ∉ table.names := by
    simp [List.find?_eq_none, ← has_iff]
  rw [← free]
  unfold register offer
  cases command.names.find? table.has <;> simp [Except.map]

theorem exists_refusal_iff :
    (∃ refusal, table.register command = .error refusal) ↔
      ∃ name ∈ command.names, name ∈ table.names := by
  cases outcome : table.register command with
  | error refusal =>
    obtain ⟨before, behind, whole, taken, -⟩ := register_eq_error_iff.mp outcome
    refine iff_of_true ⟨refusal, rfl⟩ ⟨refusal.name, ?_, taken⟩
    rw [whole]
    exact List.mem_append_right _ List.mem_cons_self
  | ok grown =>
    refine iff_of_false (fun ⟨_, refused⟩ => nomatch refused) ?_
    rintro ⟨name, claimed, taken⟩
    exact (register_eq_ok_iff.mp outcome).1 name claimed taken

/-- A refused offer leaves the table as it was. -/
theorem offer_of_error {refusal : DuplicateCommand}
    (refused : table.register command = .error refusal) :
    table.offer command = (.error refusal, table) := by
  unfold register at refused
  unfold offer at refused ⊢
  cases taken : command.names.find? table.has with
  | none =>
    rw [taken] at refused
    cases refused
  | some name =>
    rw [taken] at refused
    cases refused
    rfl

theorem offer_of_ok (taken : table.register command = .ok grown) :
    table.offer command = (.ok (), grown) := by
  obtain ⟨free, rfl⟩ := register_eq_ok_iff.mp taken
  have none : command.names.find? table.has = none := by
    simpa [List.find?_eq_none, ← has_iff] using free
  rw [offer, none]

/-! ### Offers in sequence -/

/-- The table after some commands were offered to it, one after the other. -/
def offerAll (table : CommandTable) (offers : List Command) : CommandTable :=
  offers.foldl (fun table command => (table.offer command).2) table

/-- The commands among those offered that were accepted. -/
def accepted (table : CommandTable) : List Command → List Command
  | [] => []
  | command :: rest =>
    match table.register command with
    | .error _ => table.accepted rest
    | .ok grown => command :: grown.accepted rest

theorem accepted_cons_of_error {refusal : DuplicateCommand}
    (refused : table.register command = .error refusal) (rest : List Command) :
    table.accepted (command :: rest) = table.accepted rest := by
  rw [accepted, refused]

theorem accepted_cons_of_ok (taken : table.register command = .ok grown) (rest : List Command) :
    table.accepted (command :: rest) = command :: grown.accepted rest := by
  rw [accepted, taken]

theorem offerAll_cons (table : CommandTable) (command : Command) (rest : List Command) :
    table.offerAll (command :: rest) = (table.offer command).2.offerAll rest := rfl

theorem offerAll_append (table : CommandTable) (first second : List Command) :
    table.offerAll (first ++ second) = (table.offerAll first).offerAll second :=
  List.foldl_append

theorem accepted_append (table : CommandTable) (first second : List Command) :
    table.accepted (first ++ second) =
      table.accepted first ++ (table.offerAll first).accepted second := by
  induction first generalizing table with
  | nil => rfl
  | cons command rest inductionHypothesis =>
    rw [List.cons_append, offerAll_cons]
    cases outcome : table.register command with
    | error refusal =>
      rw [accepted_cons_of_error outcome, accepted_cons_of_error outcome, offer_of_error outcome,
        inductionHypothesis]
    | ok grown =>
      rw [accepted_cons_of_ok outcome, accepted_cons_of_ok outcome, offer_of_ok outcome,
        inductionHypothesis, List.cons_append]

/-- A table is told by the commands that it accepted. -/
theorem offerAll_eq_foldl_add (table : CommandTable) (offers : List Command) :
    table.offerAll offers = (table.accepted offers).foldl add table := by
  induction offers generalizing table with
  | nil => rfl
  | cons command rest inductionHypothesis =>
    rw [offerAll_cons, inductionHypothesis]
    cases outcome : table.register command with
    | error refusal => rw [accepted_cons_of_error outcome, offer_of_error outcome]
    | ok grown =>
      rw [accepted_cons_of_ok outcome, offer_of_ok outcome, List.foldl_cons,
        (register_eq_ok_iff.mp outcome).2]

theorem find?_offerAll (table : CommandTable) (offers : List Command) (name : String) :
    (table.offerAll offers).find? name =
      (table.find? name).or (firstNamed? (table.accepted offers) name) := by
  rw [offerAll_eq_foldl_add, find?_foldl_add]

/-- What a name stands for, it stands for ever after. -/
theorem find?_offerAll_of_find? (found : table.find? name = some command)
    (offers : List Command) : (table.offerAll offers).find? name = some command := by
  rw [find?_offerAll, found, Option.some_or]

/-- The names of a table are those that it began with and those of the commands it accepted. -/
theorem names_offerAll (table : CommandTable) (offers : List Command) :
    (table.offerAll offers).names =
      sortNames (table.names ++ (table.accepted offers).flatMap (·.names)) := by
  refine Categories.eq_of_mem_iff (ascending_sortNames _) (ascending_sortNames _) fun name => ?_
  rw [← has_iff, has, find?_offerAll, Option.isSome_or, Bool.or_eq_true, isSome_firstNamed?,
    mem_sortNames, List.mem_append, List.mem_flatMap, ← has, has_iff]

/-- Every name of a command that was accepted stands for this command. -/
theorem find?_of_accepted {offers : List Command} (taken : command ∈ table.accepted offers)
    (claimed : name ∈ command.names) : (table.offerAll offers).find? name = some command := by
  induction offers generalizing table with
  | nil => cases taken
  | cons first rest inductionHypothesis =>
    rw [offerAll_cons]
    cases outcome : table.register first with
    | error refusal =>
      rw [accepted_cons_of_error outcome] at taken
      rw [offer_of_error outcome]
      exact inductionHypothesis taken
    | ok grown =>
      rw [accepted_cons_of_ok outcome] at taken
      rw [offer_of_ok outcome]
      rcases List.mem_cons.mp taken with rfl | later
      · -- the name was free, so the command that came now is the one it stands for
        obtain ⟨free, rfl⟩ := register_eq_ok_iff.mp outcome
        refine find?_offerAll_of_find? ?_ rest
        rw [find?_add, find?_eq_none_iff.mpr (free name claimed), Option.none_or,
          firstNamed?_singleton, if_pos claimed]
      · exact inductionHypothesis later

/-- The table after some commands were offered to the built-in one. -/
def reached (offers : List Command) : CommandTable :=
  builtin.offerAll offers

theorem reached_append (offers later : List Command) :
    reached (offers ++ later) = (reached offers).offerAll later :=
  offerAll_append builtin offers later

theorem accepted_builtin_append (offers later : List Command) :
    builtin.accepted (offers ++ later) =
      builtin.accepted offers ++ (reached offers).accepted later :=
  accepted_append builtin offers later

/-- A refused command changes neither the table nor what was accepted. -/
theorem reached_append_of_error {offers : List Command} {refusal : DuplicateCommand}
    (refused : (reached offers).register command = .error refusal) :
    reached (offers ++ [command]) = reached offers ∧
      builtin.accepted (offers ++ [command]) = builtin.accepted offers := by
  rw [reached_append, accepted_builtin_append, accepted_cons_of_error refused]
  exact ⟨congrArg Prod.snd (offer_of_error refused), List.append_nil _⟩

theorem reached_append_of_ok {offers : List Command}
    (taken : (reached offers).register command = .ok grown) :
    reached (offers ++ [command]) = grown ∧
      builtin.accepted (offers ++ [command]) = builtin.accepted offers ++ [command] := by
  rw [reached_append, accepted_builtin_append, accepted_cons_of_ok taken]
  exact ⟨congrArg Prod.snd (offer_of_ok taken), rfl⟩

/-- An offer gives back the table that is reached: the same one if it is refused, and the grown one
if it is accepted. -/
theorem offer_reached (offers : List Command) (command : Command) :
    ((reached offers).offer command).2 = reached (offers ++ [command]) ∧
      (∀ refusal, ((reached offers).offer command).1 = .error refusal →
        (reached offers).register command = .error refusal ∧
          ((reached offers).offer command).2 = reached offers) ∧
      (((reached offers).offer command).1 = .ok () →
        (reached offers).register command = .ok ((reached offers).offer command).2) := by
  refine ⟨(reached_append offers [command]).symm, fun refusal refused => ?_, fun taken => ?_⟩
  · have registered : (reached offers).register command = .error refusal := by
      rw [register, refused]
      rfl
    exact ⟨registered, congrArg Prod.snd (offer_of_error registered)⟩
  · rw [register, taken]
    rfl

end CommandTable

/-! ### Passes under a table that has grown -/

namespace Setup

variable {categories : Categories} {firstLine : String → Except FileError String}
  {source : List String}

/-- What a pass needs if some commands were offered to the built-in table before it. -/
def extended (categories : Categories) (firstLine : String → Except FileError String)
    (offers : List Command) : Setup :=
  ⟨categories, .reached offers, firstLine⟩

/-- What a line does that runs a built-in command, if it runs one, does not change when the table
grows. -/
theorem advance_of_known {text : String}
    (known : ∀ call ∈ call? text, CommandTable.builtin.has call.1 = true)
    (offers : List Command) (line : Nat) (stack : BlockStack) :
    (extended categories firstLine offers).advance line stack text =
      (builtin categories firstLine).advance line stack text := by
  cases called : call? text with
  | none => rw [advance_of_not_call called, advance_of_not_call called]
  | some call =>
    obtain ⟨name, arguments⟩ := call
    obtain ⟨command, found⟩ := Option.isSome_iff_exists.mp (known _ called)
    have foundBefore : (builtin categories firstLine).commands.find? name = some command := found
    have foundAfter : (extended categories firstLine offers).commands.find? name = some command :=
      CommandTable.find?_offerAll_of_find? found offers
    rw [advance_of_call called, advance_of_call called, dispatch, dispatch, foundBefore, foundAfter]
    simp only [Traced.outcome_bind, Traced.outcome_mark]
    rcases find?_builtin found with ⟨-, rfl⟩ | ⟨-, rfl⟩
    · -- neither command looks at the names of the table
      rfl
    · rfl

/-- A source that runs built-in commands alone gives the same pass when the table grows. -/
theorem pass_of_known
    (known : ∀ call ∈ calls source, CommandTable.builtin.has call.1 = true)
    (offers : List Command) :
    (extended categories firstLine offers).pass source =
      (builtin categories firstLine).pass source :=
  passFrom_congr_advance (fun _ member => advance_of_known
    (fun call called => known call (List.mem_filterMap.mpr ⟨_, member, called⟩)) offers) 1 []

/-- A source that renders under the built-in table runs built-in commands alone. -/
theorem known_of_renders (renders : (builtin categories firstLine).Renders source) :
    ∀ call ∈ calls source, CommandTable.builtin.has call.1 = true := by
  rintro ⟨name, arguments⟩ member
  obtain ⟨line, stack, next, moved⟩ := renders.exists_dispatch member
  rw [dispatch] at moved
  by_contra unknown
  have missing : (builtin categories firstLine).commands.find? name = none := by
    rw [← Option.not_isSome_iff_eq_none]
    exact unknown
  rw [missing] at moved
  cases moved

end Setup

namespace CommandTable

/-- However often commands are offered to the built-in table: it has the built-in names and those of
the commands that it accepted; the next command is refused exactly if one of its names is taken, the
first one such is reported, and the table that is given back then is the same; what a name stands
for it stands for ever after, and the names of every accepted command stand for it; and sources that
render under the built-in table render to the same lines. -/
theorem reached_history (offers : List Command) :
    (reached offers).names =
      sortNames (builtin.names ++ (builtin.accepted offers).flatMap (·.names)) ∧
    (∀ command,
      ((∃ refusal, (reached offers).register command = .error refusal) ↔
        ∃ name ∈ command.names, name ∈ (reached offers).names) ∧
      (∀ name, (reached offers).register command = .error ⟨name⟩ ↔
        ∃ before behind, command.names = before ++ name :: behind ∧
          name ∈ (reached offers).names ∧ ∀ other ∈ before, other ∉ (reached offers).names) ∧
      (∀ refusal, (reached offers).register command = .error refusal →
        reached (offers ++ [command]) = reached offers ∧
        builtin.accepted (offers ++ [command]) = builtin.accepted offers) ∧
      (∀ grown, (reached offers).register command = .ok grown →
        reached (offers ++ [command]) = grown ∧
        builtin.accepted (offers ++ [command]) = builtin.accepted offers ++ [command]) ∧
      ((reached offers).offer command).2 = reached (offers ++ [command]) ∧
      (∀ refusal, ((reached offers).offer command).1 = .error refusal →
        (reached offers).register command = .error refusal ∧
        ((reached offers).offer command).2 = reached offers) ∧
      (((reached offers).offer command).1 = .ok () →
        (reached offers).register command = .ok ((reached offers).offer command).2)) ∧
    (∀ name,
      (reached offers).find? name =
        (builtin.find? name).or (firstNamed? (builtin.accepted offers) name) ∧
      (∀ command ∈ builtin.accepted offers, name ∈ command.names →
        (reached offers).find? name = some command) ∧
      ∀ later command, (reached offers).find? name = some command →
        (reached (offers ++ later)).find? name = some command) ∧
    ∀ categories firstLine source texts,
      (Setup.builtin categories firstLine).render source = .ok texts →
      (Setup.extended categories firstLine offers).pass source =
        (Setup.builtin categories firstLine).pass source ∧
      (Setup.extended categories firstLine offers).render source = .ok texts := by
  refine ⟨names_offerAll builtin offers, fun command => ⟨exists_refusal_iff,
    fun name => register_eq_error_iff, fun refusal => reached_append_of_error,
    fun grown => reached_append_of_ok, offer_reached offers command⟩,
    fun name => ⟨find?_offerAll builtin offers name, fun command => find?_of_accepted,
      fun later command found => ?_⟩,
    fun categories firstLine source texts rendered => ?_⟩
  · rw [reached_append]
    exact find?_offerAll_of_find? found later
  · have known := Setup.known_of_renders (Setup.render_eq_ok_iff.mp rendered).1
    have same : (Setup.extended categories firstLine offers).pass source =
        (Setup.builtin categories firstLine).pass source := Setup.pass_of_known known offers
    refine ⟨same, ?_⟩
    rw [← rendered, Setup.render, Setup.render]
    exact congrArg Pass.rendered same

/-- A command that leaves the blocks as they are. -/
def idle (names : List String) : Command :=
  ⟨names, fun _ call => pure call.stack⟩

/-- Offers of which the second claims a built-in name and the third claims one name twice. -/
def contestedOffers : List Command :=
  [idle ["banner"], idle ["mine", "endif", "banner"], idle ["note", "note"]]

/-- The name that is free comes first and the one that is taken for longest comes last; neither is
the one that the refusal names. -/
theorem reached_history_contested :
    (reached contestedOffers).names =
      ["banner", "elif", "else", "endif", "endwith", "if", "note", "with", "withfile"] ∧
    (reached contestedOffers).register (idle ["mine", "note", "banner"]) = .error ⟨"note"⟩ ∧
    (Setup.extended .empty (fun _ => .error .notFound) contestedOffers).render
      ["#@if web", "a", "#@else", "b", "#@endif"] = .ok ["b"] := by
  obtain ⟨names, offered, -, rendered⟩ := reached_history contestedOffers
  have taken : builtin.accepted contestedOffers = [idle ["banner"], idle ["note", "note"]] := rfl
  have listed : (reached contestedOffers).names =
      ["banner", "elif", "else", "endif", "endwith", "if", "note", "with", "withfile"] := by
    rw [names, taken]
    decide +kernel
  refine ⟨listed, ?_, (rendered .empty (fun _ => .error .notFound) _ ["b"] (by cbv)).2⟩
  refine ((offered (idle ["mine", "note", "banner"])).2.1 "note").mpr
    ⟨["mine"], ["banner"], rfl, ?_, ?_⟩
  · rw [listed]
    decide
  · rw [listed]
    decide

end CommandTable

end Foldback
