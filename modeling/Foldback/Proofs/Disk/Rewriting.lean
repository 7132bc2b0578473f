/-
A disk on which one file was rewritten. Names lead where they led before, as only
directories and what is there at all matter to them; so a path that does not lead
to the file finds what it found before.
-/

import Foldback.Proofs.Disk.Footprint

namespace Foldback.Disk

/-- Two paths lead to the same place. -/
def SamePlace (disk : Disk) (first second : String) : Prop :=
  ∃ place, disk.locate first = .ok place ∧ disk.locate second = .ok place

/-- The disks differ at most in what the file at one place holds. -/
structure Rewritten (place : Location) (before after : Disk) : Prop where
  working : after.working = before.working
  old : ∃ content, before.node? place = some (.file content)
  new : ∃ content, after.node? place = some (.file content)
  other : ∀ elsewhere, elsewhere ≠ place → after.node? elsewhere = before.node? elsewhere

namespace Rewritten

variable {place : Location} {before after : Disk}

theorem directory_iff (rewritten : Rewritten place before after) (elsewhere : Location) :
    after.node? elsewhere = some .directory ↔ before.node? elsewhere = some .directory := by
  by_cases same : elsewhere = place
  · obtain ⟨old, was⟩ := rewritten.old
    obtain ⟨new, is⟩ := rewritten.new
    rw [same, was, is]
    simp
  · rw [rewritten.other elsewhere same]

theorem isSome_node? (rewritten : Rewritten place before after) (elsewhere : Location) :
    (after.node? elsewhere).isSome = (before.node? elsewhere).isSome := by
  by_cases same : elsewhere = place
  · obtain ⟨old, was⟩ := rewritten.old
    obtain ⟨new, is⟩ := rewritten.new
    rw [same, was, is]
    rfl
  · rw [rewritten.other elsewhere same]

theorem walk (rewritten : Rewritten place before after) (base : Location) (names : List String) :
    after.walk base names = before.walk base names := by
  induction names generalizing base with
  | nil => rfl
  | cons name rest inductionHypothesis =>
    rw [Disk.walk, Disk.walk, rewritten.isSome_node?, inductionHypothesis, inductionHypothesis]
    simp only [ne_eq, rewritten.directory_iff]

theorem start (rewritten : Rewritten place before after) (route : Path.Route) :
    after.start route = before.start route := by
  unfold Disk.start
  rw [rewritten.working]

theorem find (rewritten : Rewritten place before after) {path : String}
    (apart : before.locate path ≠ .ok place) : after.find path = before.find path := by
  unfold Disk.find
  cases routed : Path.route path with
  | error reason => rfl
  | ok route =>
    show (after.walk (after.start route) route.names).bind _ =
      (before.walk (before.start route) route.names).bind _
    rw [rewritten.start, rewritten.walk]
    cases led : before.walk (before.start route) route.names with
    | error reason => rfl
    | ok found =>
      have elsewhere : found ≠ place := by
        rintro rfl
        refine apart ?_
        unfold locate
        rw [routed]
        exact led
      simp only [Except.bind, rewritten.other found elsewhere]

theorem read (rewritten : Rewritten place before after) {path : String}
    (apart : before.locate path ≠ .ok place) : after.read path = before.read path := by
  unfold Disk.read
  rw [rewritten.find apart]

theorem readLines (rewritten : Rewritten place before after) {path : String}
    (apart : before.locate path ≠ .ok place) : after.readLines path = before.readLines path := by
  unfold Disk.readLines
  rw [rewritten.read apart]

theorem firstLine (rewritten : Rewritten place before after) {path : String}
    (apart : before.locate path ≠ .ok place) : after.firstLine path = before.firstLine path := by
  unfold Disk.firstLine
  rw [rewritten.read apart]

end Rewritten

end Foldback.Disk
