/-
Hunks as groups of runs. The runs of an alignment take turns, so behind a change
there is nothing, or an equal run at the end, or an equal run and the next
change. `GroupedBehind` says what the hunks make of each of these; no other fact
about how hunks are made is needed. Parts of an equal run are given by what is
skipped and what is counted, so that nothing is ever subtracted.

From it follows that the changes of the groups are the changes of the alignment,
each once and in order. And since hunks fit the two sequences, the ranges of
their runs are where their lines stand.
-/

import Mathlib.Data.List.Infix
import Mathlib.Data.List.Nodup
import Foldback.Proofs.Diff.Hunks
import Foldback.Proofs.Diff.Tiling

namespace Foldback.Diff

variable {α : Type}

/-! ### Runs in groups -/

/-- So many lines of a run behind those that are skipped, on both sides. -/
def Run.slice (run : Run) (skipped count : Nat) : Run where
  kind := run.kind
  old := ⟨run.old.start + skipped, run.old.start + skipped + count⟩
  new := ⟨run.new.start + skipped, run.new.start + skipped + count⟩

/-- The runs of a hunk, with their places in the whole sequences. -/
def Hunk.runs (hunk : Hunk α) : List Run :=
  runsFrom hunk.oldStart hunk.newStart hunk.body

/-- The runs that change something. -/
def changedRuns (runs : List Run) : List Run :=
  runs.filter (·.kind ≠ .equal)

theorem changedRuns_cons_of_ne {run : Run} (changed : run.kind ≠ .equal) (runs : List Run) :
    changedRuns (run :: runs) = run :: changedRuns runs :=
  List.filter_cons_of_pos (by simpa using changed)

theorem changedRuns_cons_of_equal {run : Run} (equal : run.kind = .equal) (runs : List Run) :
    changedRuns (run :: runs) = changedRuns runs :=
  List.filter_cons_of_neg (by simpa using equal)

theorem changedRuns_slice {run : Run} (equal : run.kind = .equal) (skipped count : Nat)
    (runs : List Run) : changedRuns (run.slice skipped count :: runs) = changedRuns runs := by
  have kept : (run.slice skipped count).kind = .equal := equal
  exact changedRuns_cons_of_equal kept runs

/-- What the runs behind a change become: the rest of the group of the change, and the groups
behind it. -/
inductive GroupedBehind (context : Nat) : List Run → List Run → List (List Run) → Prop where
  | nothing : GroupedBehind context [] [] []
  | last (equal : Run) (same : equal.kind = .equal) :
      GroupedBehind context [equal] [equal.slice 0 (min context equal.old.size)] []
  | whole {rest body : List Run} {later : List (List Run)} (equal change : Run)
      (same : equal.kind = .equal) (changed : change.kind ≠ .equal)
      (short : equal.old.size ≤ 2 * context) (behind : GroupedBehind context rest body later) :
      GroupedBehind context (equal :: change :: rest) (equal :: change :: body) later
  | parted {rest body : List Run} {later : List (List Run)} {omitted : Nat} (equal change : Run)
      (same : equal.kind = .equal) (changed : change.kind ≠ .equal) (wide : 0 < omitted)
      (size : equal.old.size = context + omitted + context)
      (behind : GroupedBehind context rest body later) :
      GroupedBehind context (equal :: change :: rest) [equal.slice 0 context]
        ((equal.slice (context + omitted) context :: change :: body) :: later)

/-- What the runs of an alignment become. -/
inductive Grouped (context : Nat) : List Run → List (List Run) → Prop where
  | nothing : Grouped context [] []
  | unchanged (equal : Run) (same : equal.kind = .equal) : Grouped context [equal] []
  | bare {rest body : List Run} {later : List (List Run)} (change : Run)
      (changed : change.kind ≠ .equal) (behind : GroupedBehind context rest body later) :
      Grouped context (change :: rest) ((change :: body) :: later)
  | led {rest body : List Run} {later : List (List Run)} {skipped : Nat} (equal change : Run)
      (same : equal.kind = .equal) (changed : change.kind ≠ .equal)
      (size : equal.old.size = skipped + min context equal.old.size)
      (behind : GroupedBehind context rest body later) :
      Grouped context (equal :: change :: rest)
        ((equal.slice skipped (min context equal.old.size) :: change :: body) :: later)

/-! ### Hunks as groups -/

theorem length_lastItems (count : Nat) (items : List α) :
    (lastItems count items).length = min count items.length := by
  rw [lastItems, List.length_drop]
  omega

/-- An equal run and a change behind a change, as the hunks take them. -/
theorem hunksBehind_same_changed (context oldAt newAt : Nat) (items old new : List α)
    (rest : List (Chunk α)) :
    hunksBehind context oldAt newAt (.same items :: .changed old new :: rest) =
      let behind := hunksBehind context (oldAt + items.length + old.length)
        (newAt + items.length + new.length) rest
      let lead := lastItems context items
      if items.length ≤ 2 * context then
        (.same items :: .changed old new :: behind.1, behind.2)
      else ([.same (items.take context)],
        ⟨oldAt + items.length - lead.length, newAt + items.length - lead.length,
          .same lead :: .changed old new :: behind.1⟩ :: behind.2) := rfl

/-- The run of kept items at two indices. -/
def equalRun (oldAt newAt count : Nat) : Run :=
  ⟨.equal, ⟨oldAt, oldAt + count⟩, ⟨newAt, newAt + count⟩⟩

theorem size_equalRun (oldAt newAt count : Nat) : (equalRun oldAt newAt count).old.size = count :=
  Nat.add_sub_cancel_left oldAt count

theorem slice_equalRun (oldAt newAt count skipped shown : Nat) :
    (equalRun oldAt newAt count).slice skipped shown =
      equalRun (oldAt + skipped) (newAt + skipped) shown := rfl

theorem runsFrom_same (oldAt newAt : Nat) (items : List α) (rest : List (Chunk α)) :
    runsFrom oldAt newAt (.same items :: rest) =
      equalRun oldAt newAt items.length ::
        runsFrom (oldAt + items.length) (newAt + items.length) rest := rfl

/-- What the hunks make of the runs of the chunks behind a change. -/
theorem groupedBehind_hunksBehind (context oldAt newAt : Nat) {kind : RunKind}
    (changed : kind ≠ .equal) (chunks : List (Chunk α))
    (turns : (kind :: chunks.map Chunk.kind).IsChain RunKind.TurnsTo) :
    GroupedBehind context (runsFrom oldAt newAt chunks)
      (runsFrom oldAt newAt (hunksBehind context oldAt newAt chunks).1)
      ((hunksBehind context oldAt newAt chunks).2.map Hunk.runs) := by
  -- Kept and changed chunks take turns, so two of them are taken at a time.
  match chunks with
  | [] => exact .nothing
  | .changed old new :: rest =>
    have equal := (List.isChain_cons_cons.mp turns).1.not.mp changed
    exact absurd (Chunk.kind_changed_ne old new) equal
  | [.same items] =>
    have taken : (items.take context).length = min context items.length := List.length_take
    have last : GroupedBehind context _ _ _ := .last (equalRun oldAt newAt items.length) rfl
    rw [size_equalRun, slice_equalRun, ← taken] at last
    exact last
  | .same items :: .same other :: rest =>
    have behind := (List.isChain_cons_cons.mp turns).2
    exact absurd rfl ((List.isChain_cons_cons.mp behind).1.mp rfl)
  | .same items :: .changed old new :: rest =>
    have turnsBehind := (List.isChain_cons_cons.mp (List.isChain_cons_cons.mp turns).2).2
    have differ := Chunk.kind_changed_ne old new
    have behind := groupedBehind_hunksBehind context (oldAt + items.length + old.length)
      (newAt + items.length + new.length) differ rest turnsBehind
    have size := size_equalRun oldAt newAt items.length
    rw [hunksBehind_same_changed]
    by_cases short : items.length ≤ 2 * context
    · simp only [if_pos short]
      exact .whole (equalRun oldAt newAt items.length) _ rfl differ (by rw [size]; exact short)
        behind
    · obtain ⟨omitted, wide, long⟩ : ∃ omitted, 0 < omitted ∧
          items.length = context + omitted + context :=
        ⟨items.length - 2 * context, by omega, by omega⟩
      have front : (items.take context).length = context := by
        rw [List.length_take]
        omega
      have lead : (lastItems context items).length = context := by
        rw [length_lastItems]
        omega
      have place (start : Nat) : start + items.length - context = start + (context + omitted) := by
        omega
      have stop (start : Nat) : start + (context + omitted) + context = start + items.length := by
        omega
      simp only [if_neg short, List.map_cons, Hunk.runs, runsFrom_same, front, lead, place, stop]
      exact .parted (equalRun oldAt newAt items.length) _ rfl differ wide (size.trans long) behind

/-- What the hunks make of the runs of an alignment. -/
theorem grouped_hunksOf (context : Nat) {chunks : List (Chunk α)} (tidy : Chunk.Tidy chunks) :
    Grouped context (runsFrom 0 0 chunks) ((hunksOf context chunks).map Hunk.runs) := by
  match chunks with
  | [] => exact .nothing
  | [.same items] => exact .unchanged _ rfl
  | .same items :: .same other :: rest =>
    exact absurd rfl ((List.isChain_cons_cons.mp tidy.turns).1.mp rfl)
  | .changed old new :: rest =>
    have differ := Chunk.kind_changed_ne old new
    exact .bare _ differ (groupedBehind_hunksBehind context _ _ differ rest tidy.turns)
  | .same items :: .changed old new :: rest =>
    have differ := Chunk.kind_changed_ne old new
    have behind := groupedBehind_hunksBehind context (items.length + old.length)
      (items.length + new.length) differ rest (List.isChain_cons_cons.mp tidy.turns).2
    obtain ⟨skipped, size⟩ : ∃ skipped, items.length = skipped + min context items.length :=
      ⟨items.length - min context items.length, by omega⟩
    have place : items.length - min context items.length = skipped := by omega
    have whole := size_equalRun 0 0 items.length
    have led : Grouped context
        (equalRun 0 0 items.length :: runsFrom items.length items.length (.changed old new :: rest))
        _ :=
      .led _ _ rfl differ (by rw [whole]; exact size) behind
    rw [whole, slice_equalRun, Nat.zero_add] at led
    simp only [hunksOf, List.map_cons, Hunk.runs, runsFrom_same, length_lastItems, place, ← size,
      Nat.zero_add]
    exact led

/-! ### Every change in one group -/

section Groups

variable {context : Nat} {runs rest body : List Run} {groups later : List (List Run)}

theorem GroupedBehind.changes (behind : GroupedBehind context rest body later) :
    changedRuns body ++ later.flatMap changedRuns = changedRuns rest := by
  induction behind with
  | nothing => rfl
  | last equal same =>
    rw [changedRuns_slice same, changedRuns_cons_of_equal same]
    rfl
  | whole equal change same changed short behind inductionHypothesis =>
    rw [changedRuns_cons_of_equal same, changedRuns_cons_of_equal same,
      changedRuns_cons_of_ne changed, changedRuns_cons_of_ne changed, List.cons_append,
      inductionHypothesis]
  | parted equal change same changed wide size behind inductionHypothesis =>
    rw [changedRuns_slice same, List.flatMap_cons, changedRuns_slice same,
      changedRuns_cons_of_equal same, changedRuns_cons_of_ne changed,
      changedRuns_cons_of_ne changed, List.cons_append, inductionHypothesis]
    rfl

/-- The changes of the groups are all changes, in order. -/
theorem Grouped.changes (grouped : Grouped context runs groups) :
    groups.flatMap changedRuns = changedRuns runs := by
  cases grouped with
  | nothing => rfl
  | unchanged equal same =>
    rw [changedRuns_cons_of_equal same]
    rfl
  | bare change changed behind =>
    rw [List.flatMap_cons, changedRuns_cons_of_ne changed, changedRuns_cons_of_ne changed,
      List.cons_append, behind.changes]
  | led equal change same changed size behind =>
    rw [List.flatMap_cons, changedRuns_slice same, changedRuns_cons_of_equal same,
      changedRuns_cons_of_ne changed, changedRuns_cons_of_ne changed, List.cons_append,
      behind.changes]

theorem GroupedBehind.changes_ne_nil (behind : GroupedBehind context rest body later) :
    ∀ group ∈ later, changedRuns group ≠ [] := by
  induction behind with
  | nothing => exact fun _ none => nomatch none
  | last => exact fun _ none => nomatch none
  | whole equal change same changed short behind inductionHypothesis => exact inductionHypothesis
  | parted equal change same changed wide size behind inductionHypothesis =>
    refine List.forall_mem_cons.mpr ⟨?_, inductionHypothesis⟩
    rw [changedRuns_slice same, changedRuns_cons_of_ne changed]
    exact List.cons_ne_nil _ _

/-- There is no group without a change. -/
theorem Grouped.changes_ne_nil (grouped : Grouped context runs groups) :
    ∀ group ∈ groups, changedRuns group ≠ [] := by
  cases grouped with
  | nothing => exact fun _ none => nomatch none
  | unchanged => exact fun _ none => nomatch none
  | bare change changed behind =>
    refine List.forall_mem_cons.mpr ⟨?_, behind.changes_ne_nil⟩
    rw [changedRuns_cons_of_ne changed]
    exact List.cons_ne_nil _ _
  | led equal change same changed size behind =>
    refine List.forall_mem_cons.mpr ⟨?_, behind.changes_ne_nil⟩
    rw [changedRuns_slice same, changedRuns_cons_of_ne changed]
    exact List.cons_ne_nil _ _

/-- A change that occurs once among all changes is at one place among the groups. -/
theorem existsUnique_place (same : groups.flatMap changedRuns = changedRuns runs)
    (distinct : (changedRuns runs).Nodup) {change : Run} (member : change ∈ changedRuns runs) :
    ∃! place : Nat, ∃ group, groups[place]? = some group ∧ change ∈ group := by
  have changed : change.kind ≠ .equal := by simpa using (List.mem_filter.mp member).2
  have inChanges {group : List Run} (inside : change ∈ group) : change ∈ changedRuns group :=
    List.mem_filter.mpr ⟨inside, by simpa using changed⟩
  rw [← same] at distinct member
  obtain ⟨group, listed, inside⟩ := List.mem_flatMap.mp member
  obtain ⟨place, there⟩ := List.mem_iff_getElem?.mp listed
  have apart := List.pairwise_iff_getElem.mp (List.nodup_flatMap.mp distinct).2
  -- Two groups at different places have no change in common.
  have notBefore {early late : Nat} {first second : List Run} (before : early < late)
      (here : groups[early]? = some first) (there : groups[late]? = some second)
      (inFirst : change ∈ first) (inSecond : change ∈ second) : False := by
    obtain ⟨bound, rfl⟩ := List.getElem?_eq_some_iff.mp here
    obtain ⟨boundLate, rfl⟩ := List.getElem?_eq_some_iff.mp there
    exact apart _ _ bound boundLate before (inChanges inFirst) (inChanges inSecond)
  refine ⟨place, ⟨group, there, (List.mem_filter.mp inside).1⟩, ?_⟩
  rintro other ⟨found, here, insideFound⟩
  have insideGroup := (List.mem_filter.mp inside).1
  rcases Nat.lt_trichotomy other place with before | equal | behind
  · exact (notBefore before here there insideFound insideGroup).elim
  · exact equal
  · exact (notBefore behind there here insideGroup insideFound).elim

end Groups

/-! ### Runs and their lines -/

section Places

variable {old new : List α}

/-- A run that fits has a line on some side. -/
theorem Run.Fits.forward {run : Run} (fits : run.Fits old new) :
    run.old.start < run.old.stop ∨ run.new.start < run.new.stop := by
  have sides := fits.sides
  unfold IndexRange.size at sides
  cases kind : run.kind <;> simp only [kind] at sides <;> omega

theorem Run.Path.le_start {oldAt newAt oldEnd newEnd : Nat} {runs : List Run}
    (path : Run.Path oldAt newAt runs oldEnd newEnd) (fits : ∀ run ∈ runs, run.Fits old new) :
    ∀ run ∈ runs, oldAt ≤ run.old.start ∧ newAt ≤ run.new.start := by
  induction path with
  | done => exact fun _ none => nomatch none
  | run first behind inductionHypothesis =>
    obtain ⟨here, later⟩ := List.forall_mem_cons.mp fits
    refine List.forall_mem_cons.mpr ⟨⟨Nat.le_refl _, Nat.le_refl _⟩, fun run member => ?_⟩
    obtain ⟨inOld, inNew⟩ := inductionHypothesis later run member
    exact ⟨here.oldForward.trans inOld, here.newForward.trans inNew⟩

/-- No run comes twice. -/
theorem Run.Path.nodup {oldAt newAt oldEnd newEnd : Nat} {runs : List Run}
    (path : Run.Path oldAt newAt runs oldEnd newEnd) (fits : ∀ run ∈ runs, run.Fits old new) :
    runs.Nodup := by
  induction path with
  | done => exact .nil
  | run first behind inductionHypothesis =>
    obtain ⟨here, later⟩ := List.forall_mem_cons.mp fits
    refine List.nodup_cons.mpr ⟨fun again => ?_, inductionHypothesis later⟩
    have back := behind.le_start later first again
    have forward := here.forward
    omega

theorem IndexRange.Holds.append {range : IndexRange} {items whole : List α}
    (holds : range.Holds items whole) (more : List α) : range.Holds items (whole ++ more) := by
  obtain ⟨before, after, rfl, place⟩ := holds.inside
  exact ⟨holds.stop, before, after ++ more, by simp only [List.append_assoc], place⟩

/-- The items of a hunk are at the places that it states, behind what was passed. -/
theorem Fits.holds {least oldAt newAt : Nat} {hunks : List (StatedHunk α)}
    (fits : Fits least oldAt newAt hunks old new) (oldPassed newPassed : List α)
    (oldPlace : oldPassed.length = oldAt) (newPlace : newPassed.length = newAt) :
    ∀ hunk ∈ hunks, hunk.old.Holds hunk.before (oldPassed ++ old) ∧
      hunk.new.Holds hunk.after (newPassed ++ new) := by
  induction fits generalizing oldPassed newPassed with
  | done => exact fun _ none => nomatch none
  | @hunk _ _ _ _ oldRest newRest gap hunk wide oldRange newRange behind inductionHypothesis =>
    have inOld := IndexRange.holds_behind (oldPassed ++ gap) hunk.before oldRest
    have inNew := IndexRange.holds_behind (newPassed ++ gap) hunk.after newRest
    have later := inductionHypothesis (oldPassed ++ gap ++ hunk.before)
      (newPassed ++ gap ++ hunk.after)
      (by rw [List.length_append, List.length_append, oldPlace, oldRange])
      (by rw [List.length_append, List.length_append, newPlace, newRange])
    rw [List.length_append, oldPlace, ← oldRange, List.append_assoc] at inOld
    rw [List.length_append, newPlace, ← newRange, List.append_assoc] at inNew
    simp only [List.append_assoc] at later
    exact List.forall_mem_cons.mpr ⟨⟨inOld, inNew⟩, later⟩

/-- The runs of a hunk mark its lines in the whole sequences. -/
theorem marks_hunks [DecidableEq α] (context : Nat) (old new : List α) :
    ∀ hunk ∈ hunks context old new,
      List.Forall₂ (fun run chunk => run.Marks chunk old new) hunk.runs hunk.body := by
  intro hunk member
  obtain ⟨inOld, inNew⟩ := (fits_hunks context old new).holds [] [] rfl rfl hunk.stated
    (List.mem_map_of_mem member)
  rw [hunk.before_stated] at inOld
  rw [hunk.after_stated] at inNew
  obtain ⟨oldBefore, oldAfter, oldWhole, oldPlace⟩ := inOld.inside
  obtain ⟨newBefore, newAfter, newWhole, newPlace⟩ := inNew.inside
  have marks := marks_runsFrom oldBefore newBefore hunk.body
  rw [oldPlace, newPlace] at marks
  refine marks.imp fun run chunk mark => ?_
  rw [List.nil_append, ← List.append_assoc] at oldWhole newWhole
  rw [oldWhole, newWhole]
  exact ⟨mark.kind, mark.old.append oldAfter, mark.new.append newAfter⟩

/-- The ranges of a run that marks a chunk go forward, and are of one length if it is equal. -/
theorem Run.Marks.ranges {run : Run} {chunk : Chunk α} (marks : run.Marks chunk old new) :
    run.old.start ≤ run.old.stop ∧ run.new.start ≤ run.new.stop ∧
      (run.kind = .equal → run.old.size = run.new.size) := by
  refine ⟨marks.old.stop ▸ Nat.le_add_right _ _, marks.new.stop ▸ Nat.le_add_right _ _,
    fun equal => ?_⟩
  rw [marks.old.size, marks.new.size]
  cases chunk with
  | same items => rfl
  | changed oldItems newItems =>
    exact absurd (marks.kind.symm.trans equal) (Chunk.kind_changed_ne oldItems newItems)

end Places

end Foldback.Diff
