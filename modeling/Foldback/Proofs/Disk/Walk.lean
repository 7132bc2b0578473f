/-
Where names lead on a disk. A disk keeps another one if the directories of the
other are still directories and nothing of it is gone; then names that led
somewhere lead there still.
-/

import Mathlib.Data.List.Basic
import Foldback.Disk.Basic
import Foldback.Traced

namespace Foldback

open Text

namespace Disk

/-- The place that a path leads to. -/
def locate (disk : Disk) (path : String) : Except FileError Location := do
  let route ← Path.route path
  disk.walk (disk.start route) route.names

/-! ### Walks -/

theorem walk_append (disk : Disk) (base : Location) (passed left : List String) :
    disk.walk base (passed ++ left) =
      (disk.walk base passed).bind fun place => disk.walk place left := by
  induction passed generalizing base with
  | nil => rfl
  | cons name rest inductionHypothesis =>
    rw [List.cons_append, walk, walk]
    split_ifs
    · rfl
    · exact inductionHypothesis _
    · rfl
    · exact inductionHypothesis _
    · rfl

/-- The names before others lead somewhere, if all of them do. -/
theorem exists_walk_of_append {disk : Disk} {base place : Location} {passed left : List String}
    (led : disk.walk base (passed ++ left) = .ok place) :
    ∃ above, disk.walk base passed = .ok above ∧ disk.walk above left = .ok place :=
  exists_of_bind_eq_ok ((walk_append disk base passed left).symm.trans led)

/-- One more name leads from a directory to what is there under the name. -/
theorem walk_snoc {disk : Disk} {base place : Location} {passed : List String} {name : String}
    (led : disk.walk base passed = .ok place) (here : disk.node? place = some .directory)
    (named : name ≠ "..") (short : name.utf8ByteSize ≤ Path.longestName)
    (there : (disk.node? (place ++ [name])).isSome) :
    disk.walk base (passed ++ [name]) = .ok (place ++ [name]) := by
  rw [walk_append, led]
  show disk.walk place [name] = _
  rw [walk, if_neg (not_not_intro here), if_neg named, if_neg (Nat.not_lt_of_le short),
    if_pos there, walk]

/-- Names go on only from a directory. -/
theorem directory_of_walk {disk : Disk} {base place : Location} {name : String}
    {rest : List String} (led : disk.walk base (name :: rest) = .ok place) :
    disk.node? base = some .directory := by
  by_contra other
  rw [walk, if_pos other] at led
  cases led

/-! ### What is found -/

/-- Names that find something lead to it. -/
theorem locate_of_find {disk : Disk} {path : String} {node : Node}
    (found : disk.find path = .ok node) :
    ∃ place, disk.locate path = .ok place ∧ disk.node? place = some node := by
  obtain ⟨route, routed, onward⟩ := exists_of_bind_eq_ok found
  obtain ⟨place, led, further⟩ := exists_of_bind_eq_ok onward
  refine ⟨place, ?_, ?_⟩
  · unfold locate
    rw [routed]
    exact led
  · split at further
    next here =>
      cases further
      exact here
    next content here =>
      split at further
      · cases further
      · cases further
        exact here
    · cases further

theorem locate_of_read {disk : Disk} {path text : String} (read : disk.read path = .ok text) :
    ∃ place, disk.locate path = .ok place ∧ disk.node? place = some (.file (.text text)) := by
  obtain ⟨node, found, onward⟩ := exists_of_bind_eq_ok read
  split at onward
  · cases onward
  · cases onward
  · cases onward
    exact locate_of_find found

theorem read_of_readLines {disk : Disk} {path : String} {lines : List String}
    (read : disk.readLines path = .ok lines) :
    ∃ text, disk.read path = .ok text ∧ linesOf text = lines := by
  unfold readLines at read
  cases whole : disk.read path with
  | error reason =>
    rw [whole] at read
    cases read
  | ok text =>
    rw [whole] at read
    exact ⟨text, rfl, Except.ok.inj read⟩

/-! ### Disks that keep others -/

/-- The directories of the earlier disk are still directories, and nothing is gone. -/
structure Keeps (before after : Disk) : Prop where
  working : after.working = before.working
  directory : ∀ place, before.node? place = some .directory → after.node? place = some .directory
  something : ∀ place, (before.node? place).isSome → (after.node? place).isSome

namespace Keeps

variable {before middle after : Disk}

theorem refl (disk : Disk) : Keeps disk disk :=
  ⟨rfl, fun _ here => here, fun _ there => there⟩

theorem trans (first : before.Keeps middle) (second : middle.Keeps after) : before.Keeps after :=
  ⟨second.working.trans first.working,
    fun place here => second.directory place (first.directory place here),
    fun place there => second.something place (first.something place there)⟩

theorem start (keeps : before.Keeps after) (route : Path.Route) :
    after.start route = before.start route := by
  unfold Disk.start
  rw [keeps.working]

theorem walk (keeps : before.Keeps after) {base place : Location} {names : List String}
    (led : before.walk base names = .ok place) : after.walk base names = .ok place := by
  induction names generalizing base with
  | nil => exact led
  | cons name rest inductionHypothesis =>
    have here := directory_of_walk led
    rw [Disk.walk, if_neg (not_not_intro here)] at led
    rw [Disk.walk, if_neg (not_not_intro (keeps.directory base here))]
    split at led
    next up =>
      rw [if_pos up]
      exact inductionHypothesis led
    next down =>
      rw [if_neg down]
      split at led
      · cases led
      next short =>
        rw [if_neg short]
        split at led
        next there =>
          rw [if_pos (keeps.something _ there)]
          exact inductionHypothesis led
        · cases led

theorem locate (keeps : before.Keeps after) {path : String} {place : Location}
    (led : before.locate path = .ok place) : after.locate path = .ok place := by
  obtain ⟨route, routed, onward⟩ := exists_of_bind_eq_ok led
  unfold Disk.locate
  rw [routed]
  show after.walk (after.start route) route.names = .ok place
  rw [keeps.start]
  exact keeps.walk onward

end Keeps

/-- A node where nothing is, or a file in the place of a file. -/
theorem keeps_put {disk : Disk} {place : Location} {node : Node}
    (free : disk.node? place ≠ some .directory) : disk.Keeps (disk.put place node) := by
  have below : place ≠ [] := by
    rintro rfl
    exact free rfl
  refine ⟨rfl, fun other here => ?_, fun other there => ?_⟩
  · rwa [node?_put_other]
    rintro rfl
    exact free here
  · by_cases same : other = place
    · rw [same, node?_put_self disk node below]
      rfl
    · rwa [node?_put_other disk node same]

end Disk

end Foldback
