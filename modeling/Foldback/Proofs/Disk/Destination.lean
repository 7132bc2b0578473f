/-
Where a path is meant to lead. The destination of a path is found from its text
and the working directory alone: a name goes down, two points go up. Nothing need
be there yet. If the path leads somewhere on a disk, it leads to its destination,
so two paths with one destination are two spellings of the path of one file, also
where the file and the directories before it are still to be made.
-/

import Foldback.Proofs.Disk.Footprint

namespace Foldback.Disk

/-- The place that names are meant to lead to. -/
def follow (base : Location) (names : List String) : Location :=
  names.foldl (fun place name => if name = ".." then place.dropLast else place ++ [name]) base

/-- The place that a path is meant to lead to. -/
def destination (disk : Disk) (path : String) : Except FileError Location :=
  (Path.route path).map fun route => follow (disk.start route) route.names

/-- Two paths are meant to lead to the same place. -/
def SameDestination (disk : Disk) (first second : String) : Prop :=
  ∃ place, disk.destination first = .ok place ∧ disk.destination second = .ok place

/-- The first path is meant to lead to the place of the second one, or above it. -/
def Above (disk : Disk) (first second : String) : Prop :=
  ∃ place lower, disk.destination first = .ok place ∧ disk.destination second = .ok lower ∧
    place <+: lower

variable {disk before after : Disk} {path other : String} {place : Location}

/-- The two places can be compared if both are known. -/
instance (disk : Disk) (first second : String) : Decidable (disk.Above first second) :=
  match upper : disk.destination first, below : disk.destination second with
  | .ok place, .ok lower => decidable_of_iff (place <+: lower)
      ⟨fun inside => ⟨place, lower, upper, below, inside⟩, fun ⟨_, _, one, other, inside⟩ => by
        cases upper.symm.trans one
        cases below.symm.trans other
        exact inside⟩
  | .error _, _ => isFalse fun ⟨_, _, one, _⟩ => nomatch upper.symm.trans one
  | _, .error _ => isFalse fun ⟨_, _, _, other, _⟩ => nomatch below.symm.trans other

theorem not_above {first second : String} {lower : Location}
    (upper : disk.destination first = .ok place) (below : disk.destination second = .ok lower)
    (apart : ¬place <+: lower) : ¬disk.Above first second := by
  rintro ⟨_, _, one, two, inside⟩
  cases upper.symm.trans one
  cases below.symm.trans two
  exact apart inside

theorem follow_of_walk {base : Location} {names : List String}
    (led : disk.walk base names = .ok place) : place = follow base names := by
  induction names generalizing base with
  | nil => exact (Except.ok.inj led).symm
  | cons name rest inductionHypothesis =>
    rw [walk, if_neg (not_not_intro (directory_of_walk led))] at led
    rw [follow, List.foldl_cons, ← follow]
    split at led
    next up =>
      rw [if_pos up]
      exact inductionHypothesis led
    next down =>
      rw [if_neg down]
      split at led
      · cases led
      · split at led
        · exact inductionHypothesis led
        · cases led

/-- A path that leads somewhere leads to its destination. -/
theorem destination_of_locate (led : disk.locate path = .ok place) :
    disk.destination path = .ok place := by
  obtain ⟨route, routed, onward⟩ := exists_of_bind_eq_ok led
  rw [destination, routed, follow_of_walk onward]
  rfl

theorem destination_congr (same : after.working = before.working) (path : String) :
    after.destination path = before.destination path := by
  unfold destination Disk.start
  rw [same]

/-! ### What other files see of a write -/

namespace Footprint

variable (footprint : Footprint path before after) (apart : ¬before.SameDestination path other)
include footprint apart

/-- A path with another destination finds what it found. -/
theorem find_other {node : Node} (found : before.find other = .ok node) :
    after.find other = .ok node := by
  obtain ⟨place, led, there⟩ := locate_of_find found
  have same : after.node? place = before.node? place := by
    by_contra different
    rcases footprint.changed place different with reached | ⟨missing, -⟩
    · refine apart ⟨place, ?_, destination_of_locate led⟩
      rw [← destination_congr footprint.keeps.working]
      exact destination_of_locate reached
    · rw [missing] at there
      cases there
  obtain ⟨route, routed, onward⟩ := exists_of_bind_eq_ok led
  have walked : after.walk (after.start route) route.names = .ok place := by
    rw [footprint.keeps.start]
    exact footprint.keeps.walk onward
  unfold Disk.find at found ⊢
  rw [routed] at found ⊢
  change (before.walk (before.start route) route.names).bind _ = _ at found
  show (after.walk (after.start route) route.names).bind _ = _
  rw [onward] at found
  rw [walked]
  simp only [Except.bind, same] at found ⊢
  exact found

theorem read_other {text : String} (read : before.read other = .ok text) :
    after.read other = .ok text := by
  obtain ⟨node, found, onward⟩ := exists_of_bind_eq_ok read
  unfold Disk.read
  rw [footprint.find_other apart found]
  exact onward

theorem readLines_other {lines : List String} (read : before.readLines other = .ok lines) :
    after.readLines other = .ok lines := by
  obtain ⟨text, whole, rfl⟩ := exists_of_map_eq_ok read
  unfold Disk.readLines
  rw [footprint.read_other apart whole]
  rfl

theorem firstLine_other {line : String} (read : before.firstLine other = .ok line) :
    after.firstLine other = .ok line := by
  obtain ⟨text, whole, rfl⟩ := exists_of_map_eq_ok read
  unfold Disk.firstLine
  rw [footprint.read_other apart whole]
  rfl

end Footprint

end Foldback.Disk
