/-
Hunks show exactly the right context. Every change is in one hunk; two changes
share a hunk exactly if the equal run between them is no longer than the context
of both, and then all of it is shown. Else its first lines end one hunk, its last
ones start the next, and something between them stays out. At the two ends the
hunks reach as far as the context does, or as far as there are lines.

Each of these is read off the grouping of the runs by induction on what stands
behind a change. What holds of the groups behind a change still holds when more
runs come in front, in the first group or in one of their own.
-/

import Mathlib.Data.List.Infix
import Foldback.Diff.Unified
import Foldback.Proofs.Diff.Grouping

namespace Foldback.Diff

/-! ### Neighbouring changes -/

/-- Two neighbouring changes are shown with the equal run between them: together if it is no
longer than the context of both, else at the end of one group and at the start of the next. -/
structure Meet (context : Nat) (runs : List Run) (groups : List (List Run))
    (first equal second : Run) : Prop where
  same : equal.kind = .equal
  between : [first, equal, second] <:+: runs
  whole : equal.old.size ≤ 2 * context → ∃ group ∈ groups, [first, equal, second] <:+: group
  parted : 2 * context < equal.old.size → ∃ left right omitted, [left, right] <:+: groups ∧
    0 < omitted ∧ equal.old.size = context + omitted + context ∧
      [first, equal.slice 0 context] <:+ left ∧
      [equal.slice (context + omitted) context, second] <+: right

namespace Meet

variable {context : Nat} {runs group : List Run} {groups later : List (List Run)}
  {first equal second : Run}

/-- More may stand in front of the runs and in front of the first group. -/
theorem extend (meet : Meet context runs (group :: later) first equal second)
    (front more : List Run) :
    Meet context (front ++ runs) ((more ++ group) :: later) first equal second := by
  refine ⟨meet.same, List.infix_append_of_infix_right meet.between, fun short => ?_, fun long => ?_⟩
  · obtain ⟨shown, member, inside⟩ := meet.whole short
    rcases List.mem_cons.mp member with rfl | behind
    · exact ⟨_, List.mem_cons_self, inside.trans (List.suffix_append more shown).isInfix⟩
    · exact ⟨shown, List.mem_cons_of_mem _ behind, inside⟩
  · obtain ⟨left, right, omitted, next, wide, size, ends, begins⟩ := meet.parted long
    rcases List.infix_cons_iff.mp next with here | behind
    · obtain ⟨rfl, onward⟩ := List.cons_prefix_cons.mp here
      exact ⟨more ++ left, right, omitted, (List.cons_prefix_cons.mpr ⟨rfl, onward⟩).isInfix, wide,
        size, ends.trans (List.suffix_append more left), begins⟩
    · exact ⟨left, right, omitted, behind.trans (List.suffix_cons _ _).isInfix, wide, size, ends,
        begins⟩

/-- Another group may stand in front. -/
theorem after (meet : Meet context runs groups first equal second) (other : List Run) :
    Meet context runs (other :: groups) first equal second := by
  refine ⟨meet.same, meet.between, fun short => ?_, fun long => ?_⟩
  · obtain ⟨shown, member, inside⟩ := meet.whole short
    exact ⟨shown, List.mem_cons_of_mem _ member, inside⟩
  · obtain ⟨left, right, omitted, next, rest⟩ := meet.parted long
    exact ⟨left, right, omitted, next.trans (List.suffix_cons _ _).isInfix, rest⟩

end Meet

section Groups

variable {context : Nat} {runs rest body : List Run} {groups later : List (List Run)}

/-- Two changes with an equal run between them and nothing else. -/
theorem changedRuns_turn {change equal next : Run} (changed : change.kind ≠ .equal)
    (same : equal.kind = .equal) (changedNext : next.kind ≠ .equal) (rest : List Run) :
    changedRuns (change :: equal :: next :: rest) = change :: next :: changedRuns rest := by
  rw [changedRuns_cons_of_ne changed, changedRuns_cons_of_equal same,
    changedRuns_cons_of_ne changedNext]

theorem GroupedBehind.exists_meet (behind : GroupedBehind context rest body later) {change : Run}
    (changed : change.kind ≠ .equal) {first second : Run}
    (next : [first, second] <:+: changedRuns (change :: rest)) :
    ∃ equal, Meet context (change :: rest) ((change :: body) :: later) first equal second := by
  induction behind generalizing change with
  | nothing =>
    rw [changedRuns_cons_of_ne changed] at next
    exact absurd next.length_le (by simp [changedRuns])
  | last equal same =>
    rw [changedRuns_cons_of_ne changed, changedRuns_cons_of_equal same] at next
    exact absurd next.length_le (by simp [changedRuns])
  | whole equal onward same changedOnward short behind inductionHypothesis =>
    rw [changedRuns_turn changed same changedOnward] at next
    rcases List.infix_cons_iff.mp next with here | there
    · obtain ⟨rfl, onFirst⟩ := List.cons_prefix_cons.mp here
      obtain ⟨rfl, -⟩ := List.cons_prefix_cons.mp onFirst
      exact ⟨equal, same, ⟨[], _, rfl⟩, fun _ => ⟨_, List.mem_cons_self, [], _, rfl⟩,
        fun long => absurd short (Nat.not_le_of_lt long)⟩
    · rw [← changedRuns_cons_of_ne changedOnward] at there
      obtain ⟨found, meet⟩ := inductionHypothesis changedOnward there
      exact ⟨found, meet.extend [change, equal] [change, equal]⟩
  | parted equal onward same changedOnward wide size behind inductionHypothesis =>
    rw [changedRuns_turn changed same changedOnward] at next
    rcases List.infix_cons_iff.mp next with here | there
    · obtain ⟨rfl, onFirst⟩ := List.cons_prefix_cons.mp here
      obtain ⟨rfl, -⟩ := List.cons_prefix_cons.mp onFirst
      exact ⟨equal, same, ⟨[], _, rfl⟩, fun short => absurd size (by omega),
        fun _ => ⟨_, _, _, ⟨[], _, rfl⟩, wide, size, ⟨[], rfl⟩, ⟨_, rfl⟩⟩⟩
    · rw [← changedRuns_cons_of_ne changedOnward] at there
      obtain ⟨found, meet⟩ := inductionHypothesis changedOnward there
      exact ⟨found, (meet.extend [change, equal] [_]).after _⟩

theorem Grouped.exists_meet (grouped : Grouped context runs groups) {first second : Run}
    (next : [first, second] <:+: changedRuns runs) :
    ∃ equal, Meet context runs groups first equal second := by
  cases grouped with
  | nothing => exact absurd next.length_le (by simp [changedRuns])
  | unchanged equal same =>
    rw [changedRuns_cons_of_equal same] at next
    exact absurd next.length_le (by simp [changedRuns])
  | bare change changed behind => exact behind.exists_meet changed next
  | led equal change same changed size behind =>
    rw [changedRuns_cons_of_equal same] at next
    obtain ⟨found, meet⟩ := behind.exists_meet changed next
    exact ⟨found, meet.extend [equal] [_]⟩

/-! ### The two ends -/

/-- The first group starts with a change, led by the last lines of the equal run before it, if
there is one: by as many as there are, up to the context. -/
def Begins (context : Nat) (runs : List Run) (groups : List (List Run)) (change : Run) : Prop :=
  ∃ group, [group] <+: groups ∧
    ([change] <+: runs ∧ [change] <+: group ∨
      ∃ equal skipped, equal.kind = .equal ∧ [equal, change] <+: runs ∧
        equal.old.size = skipped + min context equal.old.size ∧
          [equal.slice skipped (min context equal.old.size), change] <+: group)

/-- The last group ends with a change, followed by the first lines of the equal run behind it, if
there is one: by as many as there are, up to the context. -/
def Ends (context : Nat) (runs : List Run) (groups : List (List Run)) (change : Run) : Prop :=
  ∃ group, [group] <:+ groups ∧
    ([change] <:+ runs ∧ [change] <:+ group ∨
      ∃ equal, equal.kind = .equal ∧ [change, equal] <:+ runs ∧
        [change, equal.slice 0 (min context equal.old.size)] <:+ group)

theorem Grouped.begins (grouped : Grouped context runs groups) {change : Run}
    (first : [change] <+: changedRuns runs) : Begins context runs groups change := by
  cases grouped with
  | nothing => exact absurd first.length_le (by simp [changedRuns])
  | unchanged equal same =>
    rw [changedRuns_cons_of_equal same] at first
    exact absurd first.length_le (by simp [changedRuns])
  | bare found changed behind =>
    rw [changedRuns_cons_of_ne changed] at first
    obtain ⟨rfl, -⟩ := List.cons_prefix_cons.mp first
    exact ⟨_, ⟨_, rfl⟩, .inl ⟨⟨_, rfl⟩, ⟨_, rfl⟩⟩⟩
  | led equal found same changed size behind =>
    rw [changedRuns_cons_of_equal same, changedRuns_cons_of_ne changed] at first
    obtain ⟨rfl, -⟩ := List.cons_prefix_cons.mp first
    exact ⟨_, ⟨_, rfl⟩, .inr ⟨equal, _, same, ⟨_, rfl⟩, size, ⟨_, rfl⟩⟩⟩

namespace Ends

variable {group : List Run} {change : Run}

/-- More may stand in front of the runs and in front of the first group. -/
theorem extend (ends : Ends context runs (group :: later) change) (front more : List Run) :
    Ends context (front ++ runs) ((more ++ group) :: later) change := by
  obtain ⟨final, last, shown⟩ := ends
  have further {kept shorter longer : List Run} (suffix : kept <:+ longer) :
      kept <:+ shorter ++ longer := suffix.trans (List.suffix_append shorter longer)
  rcases List.suffix_cons_iff.mp last with only | behind
  · obtain ⟨rfl, rfl⟩ := List.cons.inj only
    refine ⟨more ++ final, List.suffix_rfl, ?_⟩
    rcases shown with ⟨inRuns, inGroup⟩ | ⟨equal, same, inRuns, inGroup⟩
    · exact .inl ⟨further inRuns, further inGroup⟩
    · exact .inr ⟨equal, same, further inRuns, further inGroup⟩
  · refine ⟨final, behind.trans (List.suffix_cons _ _), ?_⟩
    rcases shown with ⟨inRuns, inGroup⟩ | ⟨equal, same, inRuns, inGroup⟩
    · exact .inl ⟨further inRuns, inGroup⟩
    · exact .inr ⟨equal, same, further inRuns, inGroup⟩

/-- Another group may stand in front. -/
theorem after (ends : Ends context runs groups change) (other : List Run) :
    Ends context runs (other :: groups) change := by
  obtain ⟨final, last, shown⟩ := ends
  exact ⟨final, last.trans (List.suffix_cons _ _), shown⟩

end Ends

/-- The last of several items is the last of those behind the first. -/
theorem suffix_of_suffix_cons_cons {final first second : Run} {rest : List Run}
    (last : [final] <:+ first :: second :: rest) : [final] <:+ second :: rest := by
  rcases List.suffix_cons_iff.mp last with only | behind
  · cases only
  · exact behind

theorem GroupedBehind.ends (behind : GroupedBehind context rest body later) {change final : Run}
    (changed : change.kind ≠ .equal) (last : [final] <:+ changedRuns (change :: rest)) :
    Ends context (change :: rest) ((change :: body) :: later) final := by
  induction behind generalizing change with
  | nothing =>
    rw [changedRuns_cons_of_ne changed] at last
    obtain ⟨rfl, -⟩ := List.cons.inj (List.IsSuffix.eq_of_length last rfl)
    exact ⟨_, List.suffix_rfl, .inl ⟨List.suffix_rfl, List.suffix_rfl⟩⟩
  | last equal same =>
    rw [changedRuns_cons_of_ne changed, changedRuns_cons_of_equal same] at last
    obtain ⟨rfl, -⟩ := List.cons.inj (List.IsSuffix.eq_of_length last rfl)
    exact ⟨_, List.suffix_rfl, .inr ⟨equal, same, List.suffix_rfl, List.suffix_rfl⟩⟩
  | whole equal onward same changedOnward short behind inductionHypothesis =>
    rw [changedRuns_turn changed same changedOnward] at last
    have onLast := suffix_of_suffix_cons_cons last
    rw [← changedRuns_cons_of_ne changedOnward] at onLast
    exact (inductionHypothesis changedOnward onLast).extend [change, equal] [change, equal]
  | parted equal onward same changedOnward wide size behind inductionHypothesis =>
    rw [changedRuns_turn changed same changedOnward] at last
    have onLast := suffix_of_suffix_cons_cons last
    rw [← changedRuns_cons_of_ne changedOnward] at onLast
    exact ((inductionHypothesis changedOnward onLast).extend [change, equal] [_]).after _

theorem Grouped.ends (grouped : Grouped context runs groups) {change : Run}
    (last : [change] <:+ changedRuns runs) : Ends context runs groups change := by
  cases grouped with
  | nothing => exact absurd last.length_le (by simp [changedRuns])
  | unchanged equal same =>
    rw [changedRuns_cons_of_equal same] at last
    exact absurd last.length_le (by simp [changedRuns])
  | bare found changed behind => exact behind.ends changed last
  | led equal found same changed size behind =>
    rw [changedRuns_cons_of_equal same] at last
    exact (behind.ends changed last).extend [equal] [_]

end Groups

/-! ### The context of hunks -/

/-- Groups of runs show an alignment with its context. -/
structure ShowsContext (context : Nat) (runs : List Run) (groups : List (List Run)) : Prop where
  /-- The changes of the groups are all changes, in order. -/
  changes : groups.flatMap changedRuns = changedRuns runs
  /-- Every change is in exactly one group. -/
  once : ∀ change ∈ changedRuns runs,
    ∃! place : Nat, ∃ group, groups[place]? = some group ∧ change ∈ group
  /-- Every group has a change. -/
  filled : ∀ group ∈ groups, changedRuns group ≠ []
  /-- Two neighbouring changes are in one group exactly if the equal run between them is no longer
  than the context of both; either way the run is shown as it should. -/
  neighbours : ∀ first second, [first, second] <:+: changedRuns runs →
    ∃ equal, Meet context runs groups first equal second ∧
      ((∃ group ∈ groups, first ∈ group ∧ second ∈ group) ↔ equal.old.size ≤ 2 * context)
  /-- The first group starts with the context of the first change. -/
  begins : ∀ change, [change] <+: changedRuns runs → Begins context runs groups change
  /-- The last group ends with the context of the last change. -/
  ends : ∀ change, [change] <:+ changedRuns runs → Ends context runs groups change

/-- Two changes of one group cannot be at the two sides of a border between groups. -/
theorem not_together {runs left right group : List Run} {groups : List (List Run)}
    {first second : Run}
    (once : ∀ change ∈ changedRuns runs,
      ∃! place : Nat, ∃ group, groups[place]? = some group ∧ change ∈ group)
    (next : [first, second] <:+: changedRuns runs) (border : [left, right] <:+: groups)
    (inLeft : first ∈ left) (inRight : second ∈ right) (member : group ∈ groups)
    (inFirst : first ∈ group) : second ∉ group := by
  intro inSecond
  obtain ⟨before, after, whole⟩ := border
  obtain ⟨place, there⟩ := List.mem_iff_getElem?.mp member
  have atLeft : groups[before.length]? = some left := by
    rw [← whole]
    simp
  have atRight : groups[before.length + 1]? = some right := by
    rw [← whole]
    simp
  have onFirst := (once first (next.subset List.mem_cons_self)).unique ⟨group, there, inFirst⟩
    ⟨left, atLeft, inLeft⟩
  have onSecond := (once second (next.subset (List.mem_cons_of_mem _ List.mem_cons_self))).unique
    ⟨group, there, inSecond⟩ ⟨right, atRight, inRight⟩
  omega

theorem Grouped.showsContext {context : Nat} {runs : List Run} {groups : List (List Run)}
    (grouped : Grouped context runs groups) (distinct : runs.Nodup) :
    ShowsContext context runs groups := by
  have once : ∀ change ∈ changedRuns runs,
      ∃! place : Nat, ∃ group, groups[place]? = some group ∧ change ∈ group :=
    fun change member => existsUnique_place grouped.changes (distinct.filter _) member
  refine ⟨grouped.changes, once, grouped.changes_ne_nil, fun first second next => ?_,
    fun change first => grouped.begins first, fun change last => grouped.ends last⟩
  obtain ⟨equal, meet⟩ := grouped.exists_meet next
  refine ⟨equal, meet, fun ⟨group, member, inFirst, inSecond⟩ => ?_, fun short => ?_⟩
  · by_contra long
    obtain ⟨left, right, omitted, border, -, -, endsLeft, beginsRight⟩ :=
      meet.parted (Nat.lt_of_not_le long)
    have inLeft : first ∈ left := endsLeft.subset List.mem_cons_self
    have inRight : second ∈ right :=
      beginsRight.subset (List.mem_cons_of_mem _ List.mem_cons_self)
    exact not_together once next border inLeft inRight member inFirst inSecond
  · obtain ⟨group, member, inside⟩ := meet.whole short
    refine ⟨group, member, inside.subset List.mem_cons_self, inside.subset ?_⟩
    exact List.mem_cons_of_mem _ (List.mem_cons_of_mem _ List.mem_cons_self)

/-- The hunks of two sequences show their alignment with exactly the context asked for, and the
ranges of their runs are where their lines stand. -/
theorem showsContext_hunks {α : Type} [DecidableEq α] (context : Nat) (old new : List α) :
    ShowsContext context (runs old new) ((hunks context old new).map Hunk.runs) ∧
      ∀ hunk ∈ hunks context old new,
        List.Forall₂ (fun run chunk => run.Marks chunk old new) hunk.runs hunk.body ∧
          ∀ run ∈ hunk.runs, run.old.start ≤ run.old.stop ∧ run.new.start ≤ run.new.stop ∧
            (run.kind = .equal → run.old.size = run.new.size) := by
  have tiling := tiling_runs old new
  have grouped : Grouped context (runs old new) ((hunks context old new).map Hunk.runs) :=
    grouped_hunksOf context (Chunk.tidy_ofScript (script old new))
  refine ⟨grouped.showsContext (tiling.path.nodup tiling.fits), fun hunk member => ?_⟩
  have marks := marks_hunks context old new hunk member
  exact ⟨marks, ((List.forall₂_and_left _ _).mp (marks.imp fun _ _ mark => ⟨mark.ranges, mark⟩)).1⟩

-- Six equal lines between two changes are all shown; of seven, one is left out.
example : ((hunks contextSize [0, 1, 2, 3, 4, 5, 6, 7] [1, 2, 3, 4, 5, 6]).map Hunk.runs).map
      (·.map Run.old) = [[⟨0, 1⟩, ⟨1, 7⟩, ⟨7, 8⟩]] ∧
    ((hunks contextSize [0, 1, 2, 3, 4, 5, 6, 7, 8] [1, 2, 3, 4, 5, 6, 7]).map Hunk.runs).map
      (·.map Run.old) = [[⟨0, 1⟩, ⟨1, 4⟩], [⟨5, 8⟩, ⟨8, 9⟩]] := by decide

end Foldback.Diff
