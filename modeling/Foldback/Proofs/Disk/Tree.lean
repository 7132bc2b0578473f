/-
Disks that are trees, and disks that have grown. On a tree everything is in a
directory, so nothing is below a place where nothing is. A disk grows when things
come to some places, the aims, and directories on the way there. A path that goes
neither through an aim nor to one is read on the later disk as it was on the
earlier one; only if it named nothing may it now be refused for another reason:
where it stopped there may be a directory, and a name that is too long behind it.
-/

import Foldback.Proofs.Disk.Destination

namespace Foldback

namespace Path

/-- No piece of the path is a point or two points. -/
def Plain (path : String) : Prop :=
  ∀ piece ∈ pieces path, piece ≠ "." ∧ piece ≠ ".."

instance (path : String) : Decidable (Plain path) :=
  inferInstanceAs (Decidable (∀ piece ∈ pieces path, piece ≠ "." ∧ piece ≠ ".."))

/-- A name that is longer than the system allows. -/
def Long (name : String) : Prop :=
  longestName < name.utf8ByteSize

instance (name : String) : Decidable (Long name) :=
  inferInstanceAs (Decidable (longestName < name.utf8ByteSize))

/-- A path with a name that is too long. -/
def Overlong (path : String) : Prop :=
  ∃ piece ∈ pieces path, Long piece

instance (path : String) : Decidable (Overlong path) :=
  inferInstanceAs (Decidable (∃ piece ∈ pieces path, Long piece))

variable {path : String} {taken : Route}

theorem mem_pieces_of_route (routed : route path = .ok taken) {name : String}
    (member : name ∈ taken.names) : name ∈ pieces path := by
  obtain ⟨-, -, -, rfl⟩ := route_eq_ok_iff.mp routed
  exact List.mem_of_mem_filter member

/-- Idle pieces are short. -/
theorem Long.not_idle {name : String} (long : Long name) : isIdle name = false := by
  by_contra idle
  rw [Bool.not_eq_false, isIdle, Bool.or_eq_true, String.isEmpty_iff, beq_iff_eq] at idle
  rcases idle with rfl | rfl
  · exact absurd long (by decide)
  · exact absurd long (by decide)

theorem Overlong.names (long : Overlong path) (routed : route path = .ok taken) :
    ∃ name ∈ taken.names, Long name := by
  obtain ⟨-, -, -, rfl⟩ := route_eq_ok_iff.mp routed
  obtain ⟨piece, member, tooLong⟩ := long
  exact ⟨piece, List.mem_filter.mpr ⟨member, by rw [tooLong.not_idle]; rfl⟩, tooLong⟩

theorem Plain.names (plain : Plain path) (routed : route path = .ok taken) :
    ∀ name ∈ taken.names, name ≠ ".." :=
  fun _ member => (plain _ (mem_pieces_of_route routed member)).2

end Path

namespace Disk

/-! ### Trees -/

/-- Whatever is on the disk is in a directory, and the working directory is there. -/
structure IsTree (disk : Disk) : Prop where
  working : disk.node? disk.working = some .directory
  parent : ∀ place name, (disk.node? (place ++ [name])).isSome → disk.node? place = some .directory

namespace IsTree

variable {disk : Disk} {place : Location}

/-- It is enough that the entries of a disk are in directories. -/
theorem of_entries (working : disk.node? disk.working = some .directory)
    (inside : ∀ entry ∈ disk.entries, disk.node? entry.1.dropLast = some .directory) :
    disk.IsTree := by
  refine ⟨working, fun place name there => ?_⟩
  obtain ⟨node, found⟩ := Option.isSome_iff_exists.mp there
  rw [node?, if_neg (by simp), List.lookup_eq_some_iff] at found
  obtain ⟨first, second, entries, -⟩ := found
  have parent := inside (place ++ [name], node) (by simp [entries])
  rwa [List.dropLast_concat] at parent

/-- Nothing is below a place where nothing is. -/
theorem none_below (tree : disk.IsTree) (missing : disk.node? place = none) (names : List String) :
    disk.node? (place ++ names) = none := by
  induction names generalizing place with
  | nil => rwa [List.append_nil]
  | cons name rest inductionHypothesis =>
    rw [List.append_cons]
    refine inductionHypothesis ?_
    by_contra there
    have here := tree.parent place name (Option.isSome_iff_ne_none.mpr there)
    rw [missing] at here
    cases here

end IsTree

/-! ### Names without points -/

variable {disk : Disk} {base place : Location} {names : List String} {path : String}

theorem follow_plain (plain : ∀ name ∈ names, name ≠ "..") : follow base names = base ++ names := by
  induction names generalizing base with
  | nil => exact (List.append_nil base).symm
  | cons name rest inductionHypothesis =>
    obtain ⟨down, further⟩ := List.forall_mem_cons.mp plain
    rw [follow, List.foldl_cons, ← follow, if_neg down, inductionHypothesis further,
      List.append_cons base name rest]

theorem destination_plain {route : Path.Route} (plain : Path.Plain path)
    (routed : Path.route path = .ok route) :
    disk.destination path = .ok (disk.start route ++ route.names) := by
  rw [destination, routed, ← follow_plain (plain.names routed)]
  rfl

section Steps

variable {name : String} {rest : List String}

/-- One name leads on. -/
theorem walk_step (here : disk.node? base = some .directory) (down : name ≠ "..")
    (short : ¬Path.Long name) (there : (disk.node? (base ++ [name])).isSome) :
    disk.walk base (name :: rest) = disk.walk (base ++ [name]) rest := by
  rw [walk, if_neg (not_not_intro here), if_neg down]
  exact (if_neg short).trans (if_pos there)

theorem walk_long (here : disk.node? base = some .directory) (down : name ≠ "..")
    (long : Path.Long name) : disk.walk base (name :: rest) = .error .nameTooLong := by
  rw [walk, if_neg (not_not_intro here), if_neg down]
  exact if_pos long

theorem walk_stop (here : disk.node? base = some .directory) (down : name ≠ "..")
    (short : ¬Path.Long name) (missing : ¬(disk.node? (base ++ [name])).isSome) :
    disk.walk base (name :: rest) = .error .notFound := by
  rw [walk, if_neg (not_not_intro here), if_neg down]
  exact (if_neg short).trans (if_neg missing)

end Steps

/-- A path whose names lead nowhere is not read, and the reason is the same. -/
theorem read_of_refused {route : Path.Route} {reason : FileError}
    (routed : Path.route path = .ok route)
    (refused : disk.walk (disk.start route) route.names = .error reason) :
    disk.read path = .error reason := by
  have unfound : disk.find path = .error reason := by
    unfold find
    rw [routed]
    change (disk.walk (disk.start route) route.names).bind _ = _
    rw [refused]
    rfl
  unfold read
  rw [unfound]
  rfl

/-- Something is where names without points lead. -/
theorem isSome_of_walk (plain : ∀ name ∈ names, name ≠ "..") (here : (disk.node? base).isSome)
    (led : disk.walk base names = .ok place) : (disk.node? place).isSome := by
  induction names generalizing base with
  | nil =>
    cases led
    exact here
  | cons name rest inductionHypothesis =>
    obtain ⟨down, further⟩ := List.forall_mem_cons.mp plain
    rw [walk, if_neg (not_not_intro (directory_of_walk led)), if_neg down] at led
    split at led
    · cases led
    · split at led
      next there => exact inductionHypothesis further there led
      · cases led

theorem IsTree.start (tree : disk.IsTree) (route : Path.Route) :
    disk.node? (disk.start route) = some .directory := by
  unfold Disk.start
  split
  · rfl
  · exact tree.working

/-! ### Growth -/

/-- The disks differ at most at the aims and in new directories on the way to them. -/
structure Grown (aims : Location → Prop) (before after : Disk) : Prop where
  working : after.working = before.working
  changed : ∀ place, after.node? place ≠ before.node? place → aims place ∨
    before.node? place = none ∧ after.node? place = some .directory ∧
      ∃ aim, aims aim ∧ place <+: aim

/-- The path is meant to lead to a place on the way to an aim. -/
def Passed (aims : Location → Prop) (disk : Disk) (path : String) : Prop :=
  ∃ place aim, disk.destination path = .ok place ∧ aims aim ∧ place <+: aim

/-- Where names that led nowhere may lead later: up to a name that is too long, or to a
new directory on the way to an aim. -/
def Further (aims : Location → Prop) (after : Disk) (base : Location) (names : List String) :
    Prop :=
  (∃ name ∈ names, Path.Long name) ∧ after.walk base names = .error .nameTooLong ∨
    after.walk base names = .ok (base ++ names) ∧
      after.node? (base ++ names) = some .directory ∧ ∃ aim, aims aim ∧ base ++ names <+: aim

namespace Further

variable {aims : Location → Prop} {after : Disk} {name : String} {rest : List String}

theorem of_long (here : after.node? base = some .directory) (down : name ≠ "..")
    (long : Path.Long name) : Further aims after base (name :: rest) :=
  .inl ⟨⟨name, List.mem_cons_self, long⟩, walk_long here down long⟩

theorem step (same : after.walk base (name :: rest) = after.walk (base ++ [name]) rest)
    (further : Further aims after (base ++ [name]) rest) :
    Further aims after base (name :: rest) := by
  unfold Further
  rw [same, List.append_cons base name rest]
  rcases further with ⟨⟨other, member, long⟩, refused⟩ | led
  · exact .inl ⟨⟨other, List.mem_cons_of_mem _ member, long⟩, refused⟩
  · exact .inr led

end Further

/-- What reading a path gives later: what it gave, or another refusal than that
nothing is there. -/
inductive Reread {α : Type} (overlong passed : Prop) (before after : Except FileError α) : Prop
  | same (same : after = before)
  | overlong (missed : before = .error .notFound) (long : overlong)
    (refused : after = .error .nameTooLong)
  | directory (missed : before = .error .notFound) (way : passed)
    (refused : after = .error .isDirectory)

theorem Reread.map {α β : Type} {overlong passed : Prop} {before after : Except FileError α}
    (reread : Reread overlong passed before after) (view : α → β) :
    Reread overlong passed (before.map view) (after.map view) := by
  cases reread with
  | same same => exact .same (congrArg (Except.map view) same)
  | overlong missed long refused =>
    exact .overlong (by rw [missed]; rfl) long (by rw [refused]; rfl)
  | directory missed way refused =>
    exact .directory (by rw [missed]; rfl) way (by rw [refused]; rfl)

namespace Grown

variable {aims : Location → Prop} {before after : Disk}

theorem start (grown : Grown aims before after) (route : Path.Route) :
    after.start route = before.start route := by
  unfold Disk.start
  rw [grown.working]

theorem refl (aims : Location → Prop) (disk : Disk) : Grown aims disk disk :=
  ⟨rfl, fun _ different => absurd rfl different⟩

theorem trans {middle : Disk} (first : Grown aims before middle)
    (second : Grown aims middle after) :
    Grown aims before after := by
  refine ⟨second.working.trans first.working, fun place different => ?_⟩
  by_cases later : after.node? place = middle.node? place
  · rw [later] at different ⊢
    exact first.changed place different
  · rcases second.changed place later with aimed | ⟨missing, made, way⟩
    · exact .inl aimed
    · by_cases earlier : middle.node? place = before.node? place
      · exact .inr ⟨earlier ▸ missing, made, way⟩
      · refine (first.changed place earlier).imp_right fun ⟨_, there, _⟩ => ?_
        rw [missing] at there
        cases there

/-- A place that is no aim holds what it held, or it is a new directory. -/
theorem node?_cases (grown : Grown aims before after) (clear : ¬aims place) :
    after.node? place = before.node? place ∨ before.node? place = none ∧
      after.node? place = some .directory ∧ ∃ aim, aims aim ∧ place <+: aim := by
  by_cases same : after.node? place = before.node? place
  · exact .inl same
  · exact .inr ((grown.changed place same).resolve_left clear)

/-- What was there is still there, away from the aims. -/
theorem node?_of_isSome (grown : Grown aims before after) (clear : ¬aims place)
    (there : (before.node? place).isSome) : after.node? place = before.node? place := by
  rcases grown.node?_cases clear with same | ⟨missing, -⟩
  · exact same
  · rw [missing] at there
    cases there

/-- Names that go on from a new directory: nothing was there before. -/
theorem walk_new (grown : Grown aims before after) (tree : before.IsTree)
    (plain : ∀ name ∈ names, name ≠ "..") (clear : ∀ aim, aims aim → ¬aim <+: base ++ names)
    (missing : before.node? base = none) (made : after.node? base = some .directory)
    (way : ∃ aim, aims aim ∧ base <+: aim) :
    after.walk base names = .error .notFound ∨ Further aims after base names := by
  induction names generalizing base with
  | nil => exact .inr (.inr ⟨by rw [Disk.walk, List.append_nil], by rwa [List.append_nil],
      by rwa [List.append_nil]⟩)
  | cons name rest inductionHypothesis =>
    obtain ⟨down, further⟩ := List.forall_mem_cons.mp plain
    rw [List.append_cons] at clear
    by_cases long : Path.Long name
    · exact .inr (.of_long made down long)
    by_cases there : (after.node? (base ++ [name])).isSome
    · have missingBelow := tree.none_below missing [name]
      have onward : ¬aims (base ++ [name]) := fun aim => clear _ aim (List.prefix_append _ _)
      obtain ⟨-, madeBelow, wayBelow⟩ := (grown.node?_cases onward).resolve_left fun same => by
        rw [same, missingBelow] at there
        cases there
      have step : after.walk base (name :: rest) = _ := walk_step made down long there
      rw [step]
      exact (inductionHypothesis further clear missingBelow madeBelow wayBelow).imp_right
        (.step step)
    · exact .inl (walk_stop made down long there)

/-- Names that no aim is before lead where they led, or they had led nowhere. -/
theorem walk (grown : Grown aims before after) (tree : before.IsTree)
    (plain : ∀ name ∈ names, name ≠ "..") (clear : ∀ aim, aims aim → ¬aim <+: base ++ names)
    (here : (before.node? base).isSome) :
    after.walk base names = before.walk base names ∨
      before.walk base names = .error .notFound ∧ Further aims after base names := by
  induction names generalizing base with
  | nil => exact .inl rfl
  | cons name rest inductionHypothesis =>
    obtain ⟨down, further⟩ := List.forall_mem_cons.mp plain
    have atBase : ¬aims base := fun aim => clear _ aim (List.prefix_append _ _)
    have still := grown.node?_of_isSome atBase here
    rw [List.append_cons] at clear
    by_cases directory : before.node? base = some .directory
    · have directoryStill := still.trans directory
      by_cases long : Path.Long name
      · exact .inl ((walk_long directoryStill down long).trans (walk_long directory down long).symm)
      have onward : ¬aims (base ++ [name]) := fun aim => clear _ aim (List.prefix_append _ _)
      by_cases there : (before.node? (base ++ [name])).isSome
      · have thereStill := (grown.node?_of_isSome onward there).symm ▸ there
        have step : after.walk base (name :: rest) = _ :=
          walk_step directoryStill down long thereStill
        rw [step, walk_step directory down long there]
        exact (inductionHypothesis further clear there).imp_right (.imp_right (.step step))
      have missed : before.walk base (name :: rest) = _ := walk_stop directory down long there
      rw [missed]
      rcases grown.node?_cases onward with same | ⟨missing, made, way⟩
      · exact .inl (walk_stop directoryStill down long (same ▸ there))
      · have step : after.walk base (name :: rest) = _ :=
          walk_step directoryStill down long (Option.isSome_of_eq_some made)
        rw [step]
        exact (grown.walk_new tree further clear missing made way).imp_right
          fun onward => ⟨rfl, .step step onward⟩
    · left
      rw [Disk.walk, Disk.walk, if_pos directory, if_pos (still ▸ directory)]

/-- What a path finds that no aim is before: what it found, or it had found nothing. -/
theorem find (grown : Grown aims before after) (tree : before.IsTree) (plain : Path.Plain path)
    (clear : ∀ place aim, before.destination path = .ok place → aims aim → ¬aim <+: place) :
    after.find path = before.find path ∨ before.find path = .error .notFound ∧
      (Path.Overlong path ∧ after.find path = .error .nameTooLong ∨
        Passed aims before path ∧ after.find path = .ok .directory) := by
  cases routed : Path.route path with
  | error reason =>
    left
    unfold Disk.find
    rw [routed]
    rfl
  | ok route =>
    have names := plain.names routed
    have destination : before.destination path = .ok _ := destination_plain plain routed
    have here : (before.node? (before.start route)).isSome :=
      Option.isSome_of_eq_some (tree.start route)
    unfold Disk.find
    rw [routed]
    change (after.walk (after.start route) route.names).bind _ =
      (before.walk (before.start route) route.names).bind _ ∨
        (before.walk (before.start route) route.names).bind _ = _ ∧
          (_ ∧ (after.walk (after.start route) route.names).bind _ = _ ∨
            _ ∧ (after.walk (after.start route) route.names).bind _ = _)
    rw [grown.start]
    rcases grown.walk tree names (fun aim => clear _ aim destination) here with
      same | ⟨missed, ⟨⟨name, member, long⟩, refused⟩ | ⟨led, made, aim, aimed, way⟩⟩
    · left
      rw [same]
      cases led : before.walk (before.start route) route.names with
      | error reason => rfl
      | ok place =>
        have there := isSome_of_walk names here led
        have reached : before.destination path = .ok place := by
          rw [destination, follow_of_walk led, follow_plain names]
        have still := grown.node?_of_isSome
          (fun aim => clear _ _ reached aim List.prefix_rfl) there
        simp only [Except.bind, still]
    · right
      rw [missed, refused]
      exact ⟨rfl, .inl ⟨⟨name, Path.mem_pieces_of_route routed member, long⟩, rfl⟩⟩
    · right
      rw [missed, led]
      refine ⟨rfl, .inr ⟨⟨_, aim, destination, aimed, way⟩, ?_⟩⟩
      simp only [Except.bind, made]
      rfl

theorem read (grown : Grown aims before after) (tree : before.IsTree) (plain : Path.Plain path)
    (clear : ∀ place aim, before.destination path = .ok place → aims aim → ¬aim <+: place) :
    Reread (Path.Overlong path) (Passed aims before path) (before.read path) (after.read path) := by
  unfold Disk.read
  rcases grown.find tree plain clear with same | ⟨missed, ⟨long, refused⟩ | ⟨way, found⟩⟩
  · exact .same (by rw [same])
  · exact .overlong (by rw [missed]; rfl) long (by rw [refused]; rfl)
  · exact .directory (by rw [missed]; rfl) way (by rw [found]; rfl)

end Grown

end Disk

end Foldback
