/-
What an operation may leave behind on a disk. Directories that are made come
only where nothing was, at places that the first names of a path lead to. A file
that is written takes one place, which its path leads to afterwards, and what it
holds there is what is read.
-/

import Foldback.Proofs.Disk.Parent
import Foldback.Proofs.Disk.Walk

namespace Foldback.Disk

/-! ### Entries -/

/-- The entry that an operation makes has a name, and the names before it lead to a directory. -/
theorem walk_of_slot {disk : Disk} {pointed : Bool} {base place : Location} {names : List String}
    {name : String} (found : disk.slot pointed base names = .ok (place, some name)) :
    ∃ passed, names = passed ++ [name] ∧ disk.walk base passed = .ok place ∧
      disk.node? place = some .directory ∧ name ≠ ".." := by
  induction names generalizing base with
  | nil => cases found
  | cons first rest inductionHypothesis =>
    cases rest with
    | nil =>
      rw [slot] at found
      split at found
      · -- a point takes the name away
        obtain ⟨above, led, onward⟩ := exists_of_bind_eq_ok found
        split at onward <;> cases onward
      · split at found
        · cases found
        next here =>
          split at found
          · cases found
          next named =>
            cases found
            exact ⟨[], rfl, rfl, not_not.mp here, named⟩
    | cons next more =>
      obtain ⟨above, led, onward⟩ := exists_of_bind_eq_ok found
      obtain ⟨passed, whole, further, here, named⟩ := inductionHypothesis onward
      refine ⟨first :: passed, congrArg (first :: ·) whole, ?_, here, named⟩
      rw [← List.singleton_append, walk_append, led]
      exact further

/-- A disk with a new entry: some names lead to a directory, and one more name
leads from there to the node. -/
structure Enters (base : Location) (names : List String) (place : Location) (node : Node)
    (before after : Disk) : Prop where
  led : ∃ above name, before.walk base names.dropLast = .ok above ∧
    before.node? above = some .directory ∧ names = names.dropLast ++ [name] ∧ name ≠ ".." ∧
      name.utf8ByteSize ≤ Path.longestName ∧ place = above ++ [name]
  free : before.node? place ≠ some .directory
  put : after = before.put place node

namespace Enters

variable {base place : Location} {names : List String} {node : Node} {before after : Disk}

theorem below (enters : Enters base names place node before after) : place ≠ [] := by
  obtain ⟨above, name, -, -, -, -, -, rfl⟩ := enters.led
  exact List.append_ne_nil_of_right_ne_nil above (List.cons_ne_nil name [])

theorem keeps (enters : Enters base names place node before after) : before.Keeps after :=
  enters.put ▸ keeps_put enters.free

theorem there (enters : Enters base names place node before after) :
    after.node? place = some node := by
  rw [enters.put]
  exact node?_put_self before node enters.below

theorem other (enters : Enters base names place node before after) {elsewhere : Location}
    (different : elsewhere ≠ place) : after.node? elsewhere = before.node? elsewhere := by
  rw [enters.put]
  exact node?_put_other before node different

/-- Afterwards all the names lead to the new entry. -/
theorem walk (enters : Enters base names place node before after) :
    after.walk base names = .ok place := by
  have present : (after.node? place).isSome := by
    rw [enters.there]
    rfl
  obtain ⟨above, name, led, here, whole, named, short, rfl⟩ := enters.led
  rw [whole]
  exact walk_snoc (enters.keeps.walk led) (enters.keeps.directory above here) named short present

end Enters

theorem enters_of_slot {disk : Disk} {pointed : Bool} {base above : Location} {names : List String}
    {name : String} (slotted : disk.slot pointed base names = .ok (above, some name))
    (short : ¬Path.longestName < name.utf8ByteSize)
    (free : disk.node? (above ++ [name]) ≠ some .directory) (node : Node) :
    Enters base names (above ++ [name]) node disk (disk.put (above ++ [name]) node) := by
  obtain ⟨passed, rfl, led, here, named⟩ := walk_of_slot slotted
  refine ⟨⟨above, name, ?_, here, ?_, named, Nat.le_of_not_lt short, rfl⟩, free, rfl⟩
  · rwa [List.dropLast_concat]
  · rw [List.dropLast_concat]

theorem enters_of_makeDirectory {before after : Disk} {pointed : Bool} {base : Location}
    {names : List String} (made : before.makeDirectory pointed base names = .ok after) :
    ∃ place, Enters base names place .directory before after ∧ before.node? place = none := by
  obtain ⟨⟨above, found⟩, slotted, onward⟩ := exists_of_bind_eq_ok made
  cases found with
  | none => cases onward
  | some name =>
    dsimp only at onward
    split at onward
    · cases onward
    next short =>
      split at onward
      · cases onward
      next taken =>
        cases onward
        have missing : before.node? (above ++ [name]) = none :=
          Option.not_isSome_iff_eq_none.mp taken
        have free : before.node? (above ++ [name]) ≠ some .directory := by
          rw [missing]
          exact Option.some_ne_none _ ∘ Eq.symm
        exact ⟨_, enters_of_slot slotted short free .directory, missing⟩

/-- A file that was opened can be put where it was opened. -/
theorem enters_of_opened {disk : Disk} {path : String} {place : Location}
    (opened : disk.opened path = .ok place) (node : Node) :
    ∃ route, Path.route path = .ok route ∧ route.directory = false ∧
      Enters (disk.start route) route.names place node disk (disk.put place node) := by
  obtain ⟨route, routed, onward⟩ := exists_of_bind_eq_ok opened
  obtain ⟨⟨above, found⟩, slotted, further⟩ := exists_of_bind_eq_ok onward
  cases found with
  | none => cases further
  | some name =>
    dsimp only at further
    split at further
    · cases further
    next plain =>
      split at further
      · cases further
      next short =>
        split at further
        · cases further
        next free =>
          cases further
          exact ⟨route, routed, Bool.eq_false_iff.mpr plain, enters_of_slot slotted short free node⟩

theorem enters_of_write {before after : Disk} {path : String} {content : Content}
    (written : before.write path content = .ok after) :
    ∃ route place, Path.route path = .ok route ∧ route.directory = false ∧
      Enters (before.start route) route.names place (.file content) before after := by
  obtain ⟨place, opened, rfl⟩ := exists_of_map_eq_ok written
  obtain ⟨route, routed, plain, enters⟩ := enters_of_opened opened (.file content)
  exact ⟨route, place, routed, plain, enters⟩

/-! ### Creating directories -/

/-- The only change is that directories have come where nothing was, at places
where the first of some names lead. -/
structure Paved (base : Location) (names : List String) (before after : Disk) : Prop where
  working : after.working = before.working
  changed : ∀ place, after.node? place ≠ before.node? place →
    before.node? place = none ∧ after.node? place = some .directory ∧
      ∃ passed, passed <+: names ∧ after.walk base passed = .ok place

namespace Paved

variable {base : Location} {names : List String} {before middle after : Disk}

theorem refl (base : Location) (names : List String) (disk : Disk) : Paved base names disk disk :=
  ⟨rfl, fun _ different => absurd rfl different⟩

theorem keeps (paved : Paved base names before after) : before.Keeps after := by
  refine ⟨paved.working, fun place here => ?_, fun place there => ?_⟩
  · by_contra other
    have different : after.node? place ≠ before.node? place := fun same => other (same.trans here)
    rw [(paved.changed place different).1] at here
    cases here
  · by_cases same : after.node? place = before.node? place
    · rwa [same]
    · rw [(paved.changed place same).2.1]
      rfl

theorem trans (first : Paved base names before middle) (second : Paved base names middle after) :
    Paved base names before after := by
  refine ⟨second.working.trans first.working, fun place different => ?_⟩
  by_cases later : after.node? place = middle.node? place
  · rw [later] at different ⊢
    obtain ⟨missing, made, passed, start, led⟩ := first.changed place different
    exact ⟨missing, made, passed, start, second.keeps.walk led⟩
  · obtain ⟨missing, made, way⟩ := second.changed place later
    refine ⟨?_, made, way⟩
    by_contra there
    have kept := first.keeps.something place (Option.isSome_iff_ne_none.mpr there)
    rw [missing] at kept
    cases kept

theorem longer {fewer : List String} (paved : Paved base fewer before after)
    (start : fewer <+: names) : Paved base names before after := by
  refine ⟨paved.working, fun place different => ?_⟩
  obtain ⟨missing, made, passed, inside, led⟩ := paved.changed place different
  exact ⟨missing, made, passed, inside.trans start, led⟩

end Paved

theorem paved_of_makeDirectory {before after : Disk} {pointed : Bool} {base : Location}
    {names : List String} (made : before.makeDirectory pointed base names = .ok after) :
    Paved base names before after := by
  obtain ⟨place, enters, missing⟩ := enters_of_makeDirectory made
  refine ⟨enters.keeps.working, fun other different => ?_⟩
  have same : other = place := by
    by_contra elsewhere
    exact different (enters.other elsewhere)
  rw [same]
  exact ⟨missing, enters.there, names, List.prefix_rfl, enters.walk⟩

theorem paved_makeDirectories (base : Location) (pointed : Bool) (names : List String)
    (disk : Disk) :
    Paved base names.reverse disk (makeDirectories base pointed names disk).2 := by
  induction names generalizing pointed disk with
  | nil => exact .refl base [] disk
  | cons last rest inductionHypothesis =>
    have start : rest.reverse <+: (last :: rest).reverse := by
      rw [List.reverse_cons]
      exact List.prefix_append _ _
    rw [makeDirectories]
    dsimp only
    split
    next made => exact paved_of_makeDirectory made
    · -- a directory before the last one is missing: those are made first
      have first := (inductionHypothesis false disk).longer start
      split
      next reason partly refused =>
        rw [refused] at first
        exact first
      next prepared done =>
        rw [done] at first
        split
        next made => exact first.trans (paved_of_makeDirectory made)
        next => split <;> exact first
    · split <;> exact .refl _ _ disk

theorem paved_makeParent (disk : Disk) {path : String} {route : Path.Route}
    (routed : Path.route path = .ok route) :
    Paved (disk.start route) route.names.dropLast disk (disk.makeParent path).2 := by
  unfold makeParent
  split
  · exact .refl _ _ disk
  next above parent =>
    unfold makePath
    split
    · exact .refl _ _ disk
    next named =>
      obtain ⟨way, taken, absolute, names⟩ :=
        Path.route_of_parent routed parent (by simpa using named)
      have start : disk.start way = disk.start route := by
        unfold Disk.start
        rw [absolute]
      rw [taken, ← names, ← start]
      simpa using paved_makeDirectories (disk.start way) way.pointed way.names.reverse disk

/-! ### Writing -/

theorem locate_of_enters {route : Path.Route} {path : String} {place : Location} {node : Node}
    {before after : Disk} (routed : Path.route path = .ok route)
    (enters : Enters (before.start route) route.names place node before after) :
    after.locate path = .ok place := by
  unfold locate
  rw [routed]
  show after.walk (after.start route) route.names = .ok place
  rw [enters.keeps.start]
  exact enters.walk

/-- What was written is read. -/
theorem read_of_enters {route : Path.Route} {path text : String} {place : Location}
    {before after : Disk} (routed : Path.route path = .ok route) (plain : route.directory = false)
    (enters : Enters (before.start route) route.names place (.file (.text text)) before after) :
    after.read path = .ok text := by
  have led : after.walk (after.start route) route.names = .ok place := by
    rw [enters.keeps.start]
    exact enters.walk
  have found : after.find path = .ok (.file (.text text)) := by
    unfold find
    rw [routed]
    show (after.walk (after.start route) route.names).bind _ = _
    rw [led]
    simp only [Except.bind, enters.there, plain]
    rfl
  unfold read
  rw [found]
  rfl

/-! ### Footprints -/

/-- A place where the first names of a path lead, without the last name. -/
def OnTheWay (disk : Disk) (path : String) (place : Location) : Prop :=
  ∃ route, Path.route path = .ok route ∧
    ∃ passed, passed <+: route.names.dropLast ∧ disk.walk (disk.start route) passed = .ok place

/-- What may have changed for a file at a path: its place, and missing
directories on the way there that were made. -/
structure Footprint (path : String) (before after : Disk) : Prop where
  keeps : before.Keeps after
  changed : ∀ place, after.node? place ≠ before.node? place →
    after.locate path = .ok place ∨
      before.node? place = none ∧ after.node? place = some .directory ∧ after.OnTheWay path place

namespace Footprint

variable {path : String} {before prepared after : Disk}

theorem refl (path : String) (disk : Disk) : Footprint path disk disk :=
  ⟨.refl disk, fun _ different => absurd rfl different⟩

theorem of_paved {route : Path.Route} (routed : Path.route path = .ok route)
    (paved : Paved (before.start route) route.names.dropLast before after) :
    Footprint path before after := by
  refine ⟨paved.keeps, fun place different => .inr ?_⟩
  obtain ⟨missing, made, passed, start, led⟩ := paved.changed place different
  rw [← paved.keeps.start] at led
  exact ⟨missing, made, route, routed, passed, start, led⟩

theorem enter {route : Path.Route} {place : Location} {node : Node}
    (routed : Path.route path = .ok route)
    (paved : Paved (before.start route) route.names.dropLast before prepared)
    (enters : Enters (prepared.start route) route.names place node prepared after) :
    Footprint path before after := by
  refine ⟨paved.keeps.trans enters.keeps, fun other different => ?_⟩
  by_cases same : other = place
  · rw [same]
    exact .inl (locate_of_enters routed enters)
  · rw [enters.other same] at different
    obtain ⟨missing, made, passed, start, led⟩ := paved.changed other different
    rw [← paved.keeps.start, ← enters.keeps.start] at led
    exact .inr ⟨missing, enters.keeps.directory other made, route, routed, passed, start,
      enters.keeps.walk led⟩

/-- If the path led to something before, only that has changed. -/
theorem only (footprint : Footprint path before after) {found : Location}
    (led : before.locate path = .ok found) (there : (before.node? found).isSome) {place : Location}
    (different : after.node? place ≠ before.node? place) : place = found := by
  rcases footprint.changed place different with reached | ⟨missing, -, route, routed, way⟩
  · exact Except.ok.inj (reached.symm.trans (footprint.keeps.locate led))
  · -- what is on the way was there as well
    exfalso
    obtain ⟨passed, start, reached⟩ := way
    obtain ⟨behind, whole⟩ := start.trans (List.dropLast_prefix route.names)
    unfold locate at led
    rw [routed] at led
    change before.walk (before.start route) route.names = _ at led
    rw [← whole] at led
    obtain ⟨above, earlier, onward⟩ := exists_walk_of_append led
    rw [footprint.keeps.start] at reached
    have same : place = above :=
      Except.ok.inj (reached.symm.trans (footprint.keeps.walk earlier))
    rw [same] at missing
    cases behind with
    | nil =>
      cases onward
      rw [missing] at there
      cases there
    | cons next later =>
      have here := directory_of_walk onward
      rw [missing] at here
      cases here

end Footprint

end Foldback.Disk
