/-
Where a file can be put. Nothing is in the way of a path that leads to a file, and
nothing of one that finds nothing; and what goes on elsewhere puts nothing in its
way.
-/

import Foldback.Proofs.Disk.Making

namespace Foldback.Disk

open Foldback.Path

variable {disk after : Disk} {base place : Location} {names before : List String} {last : String}
  {path : String} {route : Route}

/-- Nothing is in the way of a file at a path: there may be directories on the way
there, but no file, and no directory in the place of the file. -/
structure Site (disk : Disk) (path : String) (route : Route) : Prop where
  plain : Plain path
  routed : Path.route path = .ok route
  named : route.names ≠ []
  ready : disk.Open (disk.start route) route.names.dropLast
  free : disk.node? (disk.start route ++ route.names) ≠ some .directory

/-! ### Names that lead to a file or nowhere -/

/-- The names before the last one lead through directories. -/
theorem open_of_walk (plain : ∀ name ∈ names, name ≠ "..") (named : names ≠ [])
    (led : disk.walk base names = .ok place) : disk.Open base names.dropLast := by
  have through : ∀ passed, passed <+: names.dropLast →
      disk.node? (base ++ passed) = some .directory := by
    intro passed start
    obtain ⟨behind, whole⟩ := start
    have split : names = passed ++ (behind ++ [names.getLast named]) := by
      rw [← List.append_assoc, whole, List.dropLast_concat_getLast named]
    rw [split] at led plain
    obtain ⟨above, earlier, onward⟩ := exists_walk_of_append led
    obtain ⟨next, more, later⟩ := List.exists_cons_of_ne_nil
      (List.append_ne_nil_of_right_ne_nil behind (List.cons_ne_nil (names.getLast named) []))
    rw [later] at onward
    rw [← follow_plain (List.forall_mem_append.mp plain).1, ← follow_of_walk earlier]
    exact directory_of_walk onward
  refine ⟨?_, ?_⟩
  · have here := through [] List.nil_prefix
    rwa [List.append_nil] at here
  · rintro place ⟨passed, start, -, rfl⟩
    exact .inr (through passed start)

/-- Names that lead nowhere come from directories to a place where nothing is. -/
theorem open_of_missed (tree : disk.IsTree) (plain : ∀ name ∈ names, name ≠ "..")
    (missed : disk.walk base names = .error .notFound) :
    disk.Open base names ∧ disk.node? (base ++ names) = none := by
  induction names generalizing base with
  | nil => cases missed
  | cons name rest inductionHypothesis =>
    obtain ⟨down, further⟩ := List.forall_mem_cons.mp plain
    by_cases here : disk.node? base = some .directory
    · by_cases long : Long name
      · rw [walk_long here down long] at missed
        cases missed
      rw [List.append_cons]
      by_cases there : (disk.node? (base ++ [name])).isSome
      · rw [walk_step here down long there] at missed
        obtain ⟨onward, nothing⟩ := inductionHypothesis further missed
        refine ⟨⟨here, fun place stage => ?_⟩, nothing⟩
        rcases stage_cons_cases stage with rfl | ⟨-, later⟩
        · exact .inr here
        · exact onward.stages place later
      · have below := tree.none_below (Option.not_isSome_iff_eq_none.mp there)
        refine ⟨⟨here, fun place stage => ?_⟩, below rest⟩
        rcases stage_cons_cases stage with rfl | ⟨-, passed, -, -, rfl⟩
        · exact .inr here
        · exact .inl (below passed)
    · rw [walk, if_pos here] at missed
      cases missed

/-- A path at which lines are read, or nothing is found, leads to a site. -/
theorem site_of_readLines (tree : disk.IsTree) (plain : Plain path)
    (routed : Path.route path = .ok route)
    (read : (∃ lines, disk.readLines path = .ok lines) ∨
      disk.readLines path = .error .notFound) : disk.Site path route := by
  have names := plain.names routed
  have here := tree.start route
  have found : (∃ content, disk.find path = .ok (.file content)) ∨
      disk.find path = .error .notFound := by
    unfold Disk.readLines Disk.read at read
    cases find : disk.find path with
    | error reason =>
      rw [find] at read
      rcases read with ⟨lines, given⟩ | missed
      · cases given
      · exact .inr (Except.error.inj missed ▸ rfl)
    | ok node =>
      cases node with
      | file content => exact .inl ⟨content, rfl⟩
      | directory =>
        rw [find] at read
        rcases read with ⟨lines, given⟩ | missed
        · cases given
        · cases missed
  unfold Disk.find at found
  rw [routed] at found
  change (∃ content, (disk.walk (disk.start route) route.names).bind _ = _) ∨
    (disk.walk (disk.start route) route.names).bind _ = _ at found
  cases led : disk.walk (disk.start route) route.names with
  | error reason =>
    rw [led] at found
    rcases found with ⟨content, given⟩ | missed
    · cases given
    · cases missed
      obtain ⟨ready, nothing⟩ := open_of_missed tree names led
      refine ⟨plain, routed, ?_, ready.of_start (List.dropLast_prefix _), ?_⟩
      · intro none
        rw [none] at led
        cases led
      · rw [nothing]
        exact fun same => nomatch same
  | ok place =>
    have reached := follow_of_walk led
    rw [follow_plain names] at reached
    have file : disk.node? place ≠ some .directory := by
      intro directory
      rw [led] at found
      simp only [Except.bind, directory] at found
      rcases found with ⟨content, given⟩ | missed
      · cases given
      · cases missed
    have named : route.names ≠ [] := by
      intro none
      rw [none, List.append_nil] at reached
      rw [reached] at file
      exact file here
    exact ⟨plain, routed, named, open_of_walk names named led, reached ▸ file⟩

/-- If a name of a path is refused as too long, the directories before it are there. -/
theorem staged_of_read (plain : Plain path) (routed : Path.route path = .ok route)
    (refused : disk.read path = .error .nameTooLong) :
    disk.Staged (disk.start route) route.names.dropLast := by
  have unfound : disk.find path = .error .nameTooLong := by
    unfold Disk.read at refused
    cases found : disk.find path with
    | error reason =>
      rw [found] at refused
      exact Except.error.inj refused ▸ rfl
    | ok node =>
      rw [found] at refused
      rcases node with (text | bytes) | _ <;> cases refused
  have stopped : disk.walk (disk.start route) route.names = .error .nameTooLong := by
    unfold Disk.find at unfound
    rw [routed] at unfound
    change (disk.walk (disk.start route) route.names).bind _ = _ at unfound
    cases led : disk.walk (disk.start route) route.names with
    | error reason =>
      rw [led] at unfound
      exact Except.error.inj unfound ▸ rfl
    | ok place =>
      rw [led] at unfound
      dsimp only [Except.bind] at unfound
      split at unfound
      · cases unfound
      · split at unfound <;> cases unfound
      · cases unfound
  rintro place ⟨passed, start, reached, rfl⟩
  exact staged_of_walk (plain.names routed) stopped _
    ⟨passed, start.trans (List.dropLast_prefix _), reached, rfl⟩

/-! ### Sites that are spared -/

/-- The place of a file is no stage of the way to its directory. -/
theorem not_stage (named : names ≠ []) : ¬Stage base names.dropLast (base ++ names) := by
  rintro ⟨passed, start, -, same⟩
  have length := start.length_le
  rw [← List.append_cancel_left same, List.length_dropLast] at length
  have some := List.length_pos_iff.mpr named
  omega

/-- A file does not take the place of a directory on the way to it. -/
theorem Staged.put (staged : disk.Staged base names.dropLast) (named : names ≠ []) (node : Node) :
    (disk.put (base ++ names) node).Staged base names.dropLast := by
  intro place stage
  rw [node?_put_other _ _ fun same => not_stage named (same ▸ stage)]
  exact staged place stage

/-- What goes on spares a file and the way to it: nothing comes to the way but directories where
nothing was, and the file stays as it is. -/
structure Spares (base : Location) (names : List String) (before after : Disk) : Prop where
  working : after.working = before.working
  stages : ∀ place, Stage base names.dropLast place → after.node? place = before.node? place ∨
    before.node? place = none ∧ after.node? place = some .directory
  file : after.node? (base ++ names) = before.node? (base ++ names)

namespace Spares

variable {middle : Disk}

theorem refl (base : Location) (names : List String) (disk : Disk) : Spares base names disk disk :=
  ⟨rfl, fun _ _ => .inl rfl, rfl⟩

theorem trans (first : Spares base names disk middle) (second : Spares base names middle after) :
    Spares base names disk after := by
  refine ⟨second.working.trans first.working, fun place stage => ?_, second.file.trans first.file⟩
  rcases second.stages place stage with same | ⟨missing, made⟩
  · rw [same]
    exact first.stages place stage
  · rcases first.stages place stage with same | ⟨-, there⟩
    · exact .inr ⟨same ▸ missing, made⟩
    · rw [missing] at there
      cases there

theorem start (spares : Spares base names disk after) (route : Route) :
    after.start route = disk.start route := by
  unfold Disk.start
  rw [spares.working]

/-- A directory on the way stays one. -/
theorem directory (spares : Spares base names disk after) (stage : Stage base names.dropLast place)
    (there : disk.node? place = some .directory) : after.node? place = some .directory := by
  rcases spares.stages place stage with same | ⟨-, made⟩
  · rwa [same]
  · exact made

theorem ready (spares : Spares base names disk after) (ready : disk.Open base names.dropLast) :
    after.Open base names.dropLast := by
  refine ⟨spares.directory (stage_base _ _) ready.here, fun place stage => ?_⟩
  rcases spares.stages place stage with same | ⟨-, made⟩
  · rw [same]
    exact ready.stages place stage
  · exact .inr made

theorem staged {part : List String} (spares : Spares base names disk after)
    (inside : part <+: names.dropLast) (staged : disk.Staged base part) :
    after.Staged base part := by
  rintro place ⟨passed, start, reached, rfl⟩
  exact spares.directory ⟨passed, start.trans inside, reached, rfl⟩
    (staged _ ⟨passed, start, reached, rfl⟩)

end Spares

/-- Directories that come to stages spare the file. -/
theorem Staging.spares (staging : Staging base names.dropLast disk after) (named : names ≠ []) :
    Spares base names disk after := by
  refine ⟨staging.working, fun place _ => ?_, ?_⟩
  · by_cases same : after.node? place = disk.node? place
    · exact .inl same
    · exact .inr (staging.changed place same).2
  · by_contra different
    exact not_stage named (staging.changed _ different).1

/-- A disk that grows elsewhere spares a file. -/
theorem Grown.spares {aims : Location → Prop} (grown : Grown aims disk after)
    (clear : ∀ aim, aims aim → ¬aim <+: base ++ names)
    (beyond : ∀ aim, aims aim → ¬base ++ names <+: aim) : Spares base names disk after := by
  refine ⟨grown.working, ?_, ?_⟩
  · rintro place ⟨passed, start, -, rfl⟩
    have away : ¬aims (base ++ passed) := fun aim => clear _ aim
      ((List.prefix_append_right_inj _).mpr (start.trans (List.dropLast_prefix _)))
    exact (grown.node?_cases away).imp_right fun made => ⟨made.1, made.2.1⟩
  · exact (grown.node?_cases fun aim => clear _ aim List.prefix_rfl).resolve_right
      fun ⟨_, _, aim, aimed, way⟩ => beyond aim aimed way

theorem Site.stands (site : disk.Site path route)
    (spares : Spares (disk.start route) route.names disk after) : after.Site path route := by
  obtain ⟨plain, routed, named, ready, free⟩ := site
  refine ⟨plain, routed, named, ?_, ?_⟩
  · rw [spares.start]
    exact spares.ready ready
  · rw [spares.start, spares.file]
    exact free

end Foldback.Disk
