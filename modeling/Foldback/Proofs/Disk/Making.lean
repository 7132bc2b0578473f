/-
What making the directories for a file comes to. Where no file is in the way,
directories are made as far as the names go that the system takes, and a name that
is too long is the only reason to stop. So neither the end nor what stands there
afterwards depends on which of the directories were there already.
-/

import Foldback.Proofs.Disk.Tree

namespace Foldback

namespace Path

/-- How far names can be taken: the first one that is too long is refused. -/
def reach : List String → Except FileError Unit
  | [] => .ok ()
  | name :: rest => if Long name then .error .nameTooLong else reach rest

theorem reach_eq_ok_iff {names : List String} :
    reach names = .ok () ↔ ∀ name ∈ names, ¬Long name := by
  induction names with
  | nil => simp [reach]
  | cons name rest inductionHypothesis =>
    rw [reach, List.forall_mem_cons, ← inductionHypothesis]
    by_cases long : Long name
    · simp [long]
    · simp [long]

theorem reach_cases (names : List String) :
    reach names = .ok () ∨ reach names = .error .nameTooLong := by
  fun_induction reach names with
  | case1 => exact .inl rfl
  | case2 name rest long => exact .inr rfl
  | case3 name rest short inductionHypothesis => exact inductionHypothesis

theorem reach_append (first second : List String) :
    reach (first ++ second) = (reach first).bind fun _ => reach second := by
  induction first with
  | nil => rfl
  | cons name rest inductionHypothesis =>
    rw [List.cons_append, reach, reach, inductionHypothesis]
    split <;> rfl

theorem Plain.pointed {path : String} {taken : Route} (plain : Plain path)
    (routed : route path = .ok taken) : taken.pointed = false := by
  obtain ⟨-, -, -, rfl⟩ := route_eq_ok_iff.mp routed
  by_contra pointed
  have last := beq_iff_eq.mp ((Bool.not_eq_false _).mp pointed)
  exact (plain "." (List.mem_of_mem_filter (List.mem_of_getLast? last))).1 rfl

/-- The parent of a path without points has none either. -/
theorem Plain.parent {path above : String} (plain : Plain path)
    (parent : parent? path = some above) (named : above ≠ "") : Plain above := by
  obtain ⟨kept, behind, last, whole, some, -, -, rfl⟩ := exists_pieces_of_parent parent named
  have inside : ∀ part ∈ kept, part ∈ pieces path := fun part member => by
    rw [whole]
    exact List.mem_append_left behind member
  unfold spelled
  split
  · decide +kernel
  · intro piece member
    rw [pieces_intercalate some fun part member => slash_not_mem_of_mem_pieces (inside part member)]
      at member
    exact plain piece (inside piece member)

end Path

namespace Disk

open Foldback.Path

variable {disk middle after : Disk} {base place : Location} {names before : List String}
  {last : String}

/-! ### Stages -/

/-- A place where the first of some names lead, none of which is too long. -/
def Stage (base : Location) (names : List String) (place : Location) : Prop :=
  ∃ passed, passed <+: names ∧ reach passed = .ok () ∧ place = base ++ passed

theorem stage_base (base : Location) (names : List String) : Stage base names base :=
  ⟨[], List.nil_prefix, rfl, (List.append_nil base).symm⟩

theorem stage_cons {name : String} {rest : List String} (short : ¬Long name)
    (stage : Stage (base ++ [name]) rest place) : Stage base (name :: rest) place := by
  obtain ⟨passed, start, reached, rfl⟩ := stage
  refine ⟨name :: passed, (List.prefix_cons_inj name).mpr start, ?_,
    (List.append_cons base name passed).symm⟩
  rw [reach, if_neg short, reached]

theorem stage_cons_cases {name : String} {rest : List String}
    (stage : Stage base (name :: rest) place) :
    place = base ∨ ¬Long name ∧ Stage (base ++ [name]) rest place := by
  obtain ⟨passed, start, reached, rfl⟩ := stage
  rcases List.prefix_cons_iff.mp start with rfl | ⟨more, rfl, startMore⟩
  · exact .inl (List.append_nil base)
  · have short : ¬Long name := reach_eq_ok_iff.mp reached name List.mem_cons_self
    rw [reach, if_neg short] at reached
    exact .inr ⟨short, more, startMore, reached, List.append_cons base name more⟩

theorem stage_concat_iff : Stage base (before ++ [last]) place ↔
    Stage base before place ∨
      reach (before ++ [last]) = .ok () ∧ place = base ++ before ++ [last] := by
  rw [List.append_assoc]
  constructor
  · rintro ⟨passed, start, reached, rfl⟩
    rcases List.prefix_concat_iff.mp start with rfl | start
    · exact .inr ⟨reached, rfl⟩
    · exact .inl ⟨passed, start, reached, rfl⟩
  · rintro (⟨passed, start, reached, rfl⟩ | ⟨reached, rfl⟩)
    · exact ⟨passed, start.trans (List.prefix_append before [last]), reached, rfl⟩
    · exact ⟨before ++ [last], List.prefix_rfl, reached, rfl⟩

/-- Directories stand at all stages. -/
def Staged (disk : Disk) (base : Location) (names : List String) : Prop :=
  ∀ place, Stage base names place → disk.node? place = some .directory

/-- From a directory on, nothing but directories stands at the stages. -/
structure Open (disk : Disk) (base : Location) (names : List String) : Prop where
  here : disk.node? base = some .directory
  stages : ∀ place, Stage base names place →
    disk.node? place = none ∨ disk.node? place = some .directory

theorem Open.of_start {part : List String} (ready : disk.Open base names)
    (inside : part <+: names) : disk.Open base part := by
  refine ⟨ready.here, ?_⟩
  rintro place ⟨passed, start, reached, rfl⟩
  exact ready.stages _ ⟨passed, start.trans inside, reached, rfl⟩

theorem Open.start (ready : disk.Open base (before ++ [last])) : disk.Open base before :=
  ready.of_start (List.prefix_append before [last])

/-- Behind a name that is too long there are no more stages. -/
theorem Staged.concat (staged : disk.Staged base before) (long : reach before ≠ .ok ()) :
    disk.Staged base (before ++ [last]) := by
  intro place stage
  rcases stage_concat_iff.mp stage with earlier | ⟨reached, -⟩
  · exact staged place earlier
  · rw [reach_append, (reach_cases before).resolve_left long] at reached
    cases reached

/-- If all directories are there, names lead as far as they can be taken. -/
theorem walk_of_staged (staged : disk.Staged base names) (plain : ∀ name ∈ names, name ≠ "..") :
    disk.walk base names = (reach names).map fun _ => base ++ names := by
  induction names generalizing base with
  | nil => exact congrArg Except.ok (List.append_nil base).symm
  | cons name rest inductionHypothesis =>
    obtain ⟨down, further⟩ := List.forall_mem_cons.mp plain
    have here := staged base (stage_base base _)
    rw [reach]
    split
    next long => exact walk_long here down long
    next short =>
      have onward : disk.Staged (base ++ [name]) rest := fun place stage =>
        staged place (stage_cons short stage)
      have there := onward (base ++ [name]) (stage_base _ rest)
      rw [walk_step here down short (Option.isSome_of_eq_some there),
        inductionHypothesis onward further, List.append_cons base name rest]

/-- Where there are no names, there is only the start. -/
theorem staged_nil (here : disk.node? base = some .directory) : disk.Staged base [] := by
  rintro place ⟨passed, start, -, rfl⟩
  rwa [List.prefix_nil.mp start, List.append_nil]

/-- Either all directories are there, or the first missing one is reported. -/
theorem Open.staged_or (ready : disk.Open base names) (plain : ∀ name ∈ names, name ≠ "..") :
    disk.Staged base names ∨ disk.walk base names = .error .notFound := by
  induction names generalizing base with
  | nil => exact .inl (staged_nil ready.here)
  | cons name rest inductionHypothesis =>
    obtain ⟨down, further⟩ := List.forall_mem_cons.mp plain
    by_cases long : Long name
    · left
      intro place stage
      rcases stage_cons_cases stage with rfl | ⟨short, -⟩
      · exact ready.here
      · exact absurd long short
    · rcases ready.stages _ (stage_cons long (stage_base _ rest)) with missing | directory
      · exact .inr (walk_stop ready.here down long (by simp [missing]))
      · have onward : disk.Open (base ++ [name]) rest :=
          ⟨directory, fun place stage => ready.stages place (stage_cons long stage)⟩
        rw [walk_step ready.here down long (Option.isSome_of_eq_some directory)]
        refine (inductionHypothesis onward further).imp_left fun staged place stage => ?_
        rcases stage_cons_cases stage with rfl | ⟨-, later⟩
        · exact ready.here
        · exact staged place later

/-- A walk that ends at a name that is too long has passed all stages. -/
theorem staged_of_walk (plain : ∀ name ∈ names, name ≠ "..")
    (refused : disk.walk base names = .error .nameTooLong) : disk.Staged base names := by
  induction names generalizing base with
  | nil => cases refused
  | cons name rest inductionHypothesis =>
    obtain ⟨down, further⟩ := List.forall_mem_cons.mp plain
    intro place stage
    by_cases here : disk.node? base = some .directory
    · rcases stage_cons_cases stage with rfl | ⟨short, later⟩
      · exact here
      · by_cases there : (disk.node? (base ++ [name])).isSome
        · rw [walk_step here down short there] at refused
          exact inductionHypothesis further refused place later
        · rw [walk_stop here down short there] at refused
          cases refused
    · rw [walk, if_pos here] at refused
      cases refused

/-! ### Making directories -/

/-- Nothing has changed but that directories have come to stages where nothing was. -/
structure Staging (base : Location) (names : List String) (before after : Disk) : Prop where
  working : after.working = before.working
  changed : ∀ place, after.node? place ≠ before.node? place → Stage base names place ∧
    before.node? place = none ∧ after.node? place = some .directory

theorem Staging.refl (base : Location) (names : List String) (disk : Disk) :
    Staging base names disk disk := ⟨rfl, fun _ different => absurd rfl different⟩

theorem Staging.longer {part : List String} (staging : Staging base part disk after)
    (inside : part <+: names) : Staging base names disk after := by
  refine ⟨staging.working, fun place different => ?_⟩
  obtain ⟨⟨passed, start, reached, rfl⟩, made⟩ := staging.changed place different
  exact ⟨⟨passed, start.trans inside, reached, rfl⟩, made⟩

/-- Directories were put at all stages, and nothing else has changed. -/
structure Made (base : Location) (names : List String) (before after : Disk) : Prop where
  working : after.working = before.working
  staged : after.Staged base names
  other : ∀ place, ¬Stage base names place → after.node? place = before.node? place

namespace Made

theorem of_staged (staged : disk.Staged base names) : Made base names disk disk :=
  ⟨rfl, staged, fun _ _ => rfl⟩

theorem concat (made : Made base before disk after)
    (staged : after.Staged base (before ++ [last])) :
    Made base (before ++ [last]) disk after :=
  ⟨made.working, staged, fun place off =>
    made.other place fun stage => off (stage_concat_iff.mpr (.inl stage))⟩

theorem trans (first : Made base before disk middle)
    (second : Made base (before ++ [last]) middle after) :
    Made base (before ++ [last]) disk after :=
  ⟨second.working.trans first.working, second.staged, fun place off =>
    (second.other place off).trans
      (first.other place fun stage => off (stage_concat_iff.mpr (.inl stage)))⟩

/-- Another directory can be made as before, behind those that were made. -/
theorem ready (made : Made base before disk after) (ready : disk.Open base (before ++ [last])) :
    after.Open base (before ++ [last]) := by
  refine ⟨made.staged base (stage_base base before), fun place stage => ?_⟩
  by_cases earlier : Stage base before place
  · exact .inr (made.staged place earlier)
  · rw [made.other place earlier]
    exact ready.stages place stage

end Made

theorem Made.staging (made : Made base names disk after) (ready : disk.Open base names) :
    Staging base names disk after := by
  refine ⟨made.working, fun place different => ?_⟩
  have stage : Stage base names place := by
    by_contra off
    exact different (made.other place off)
  have there := made.staged place stage
  refine ⟨stage, (ready.stages place stage).resolve_right fun earlier => ?_, there⟩
  exact different (there.trans earlier.symm)

theorem slot_concat (disk : Disk) (base : Location) (before : List String) (down : last ≠ "..") :
    disk.slot false base (before ++ [last]) = (disk.walk base before).bind fun place =>
      if disk.node? place ≠ some .directory then .error .notDirectory
      else .ok (place, some last) := by
  induction before generalizing base with
  | nil =>
    show disk.slot false base [last] = if disk.node? base ≠ some .directory then _ else _
    rw [slot, if_neg Bool.false_ne_true, if_neg down]
  | cons first rest inductionHypothesis =>
    obtain ⟨next, more, split⟩ := List.exists_cons_of_ne_nil
      (List.append_ne_nil_of_right_ne_nil rest (List.cons_ne_nil last []))
    have whole : disk.walk base (first :: rest) =
        (disk.walk base [first]).bind fun place => disk.walk place rest :=
      walk_append disk base [first] rest
    rw [List.cons_append, split, slot, ← split, whole]
    show (disk.walk base [first]).bind _ = _
    cases disk.walk base [first] with
    | error reason => rfl
    | ok place => exact inductionHypothesis place

theorem makeDirectory_concat (disk : Disk) (base : Location) (before : List String)
    (down : last ≠ "..") :
    disk.makeDirectory false base (before ++ [last]) = (disk.walk base before).bind fun place =>
      if disk.node? place ≠ some .directory then .error .notDirectory
      else if Long last then .error .nameTooLong
      else if (disk.node? (place ++ [last])).isSome then .error .alreadyExists
      else .ok (disk.put (place ++ [last]) .directory) := by
  unfold makeDirectory
  rw [slot_concat disk base before down]
  cases disk.walk base before with
  | error reason => rfl
  | ok place =>
    show (if _ then _ else _ : Except FileError _).bind _ = if _ then _ else _
    split <;> rfl

/-- The last directory, if those before it are there: it is made, or it was there, or its name
is too long. -/
theorem makeDirectory_last (staged : disk.Staged base before)
    (plain : ∀ name ∈ before, name ≠ "..") (down : last ≠ "..")
    (ready : disk.Open base (before ++ [last])) :
    (∃ made, disk.makeDirectory false base (before ++ [last]) = .ok made ∧
      reach (before ++ [last]) = .ok () ∧ Made base (before ++ [last]) disk made) ∨
    ∃ reason, disk.makeDirectory false base (before ++ [last]) = .error reason ∧
      reason ≠ .notFound ∧ disk.Staged base (before ++ [last]) ∧
        (reach (before ++ [last]) = .ok () ∨ reach (before ++ [last]) = .error reason) := by
  rw [makeDirectory_concat disk base before down, walk_of_staged staged plain, reach_append]
  rcases reach_cases before with reached | refused
  · have here := staged (base ++ before) ⟨before, List.prefix_rfl, reached, rfl⟩
    rw [reached]
    simp only [Except.map, Except.bind, if_neg (not_not_intro here)]
    have onto : ∀ place, Stage base (before ++ [last]) place →
        place ≠ base ++ before ++ [last] → disk.node? place = some .directory :=
      fun place stage other => staged place
        ((stage_concat_iff.mp stage).resolve_right fun new => other new.2)
    by_cases long : Long last
    · have refused : reach (before ++ [last]) = .error .nameTooLong := by
        rw [reach_append, reached, Except.bind, reach, if_pos long]
      rw [if_pos long, reach, if_pos long]
      refine .inr ⟨_, rfl, by decide, fun place stage => ?_, .inr rfl⟩
      rcases stage_concat_iff.mp stage with earlier | ⟨taken, -⟩
      · exact staged place earlier
      · rw [refused] at taken
        cases taken
    · have taken : reach (before ++ [last]) = .ok () := by
        rw [reach_append, reached, Except.bind, reach, if_neg long, reach]
      have new : Stage base (before ++ [last]) (base ++ before ++ [last]) :=
        stage_concat_iff.mpr (.inr ⟨taken, rfl⟩)
      rw [if_neg long, reach, if_neg long, reach]
      rcases ready.stages _ new with missing | directory
      · rw [if_neg (Option.not_isSome_iff_eq_none.mpr missing)]
        refine .inl ⟨_, rfl, rfl, rfl, fun place stage => ?_, fun place off => ?_⟩
        · by_cases same : place = base ++ before ++ [last]
          · rw [same, node?_put_self _ _ (by simp)]
          · rw [node?_put_other _ _ same]
            exact onto place stage same
        · refine node?_put_other _ _ ?_
          rintro rfl
          exact off new
      · rw [if_pos (Option.isSome_of_eq_some directory)]
        refine .inr ⟨_, rfl, by decide, fun place stage => ?_, .inl rfl⟩
        by_cases same : place = base ++ before ++ [last]
        · rwa [same]
        · exact onto place stage same
  · rw [refused]
    exact .inr ⟨_, rfl, by decide, staged.concat (ne_ok_of_eq_error refused), .inr rfl⟩

/-- A refusal is settled if the directories are there; only a name that is too long stays one. -/
theorem settle (staged : disk.Staged base names) (plain : ∀ name ∈ names, name ≠ "..")
    {reason : FileError} (ended : reach names = .ok () ∨ reach names = .error reason) :
    (if disk.leadsToDirectory base names then (.ok (), disk) else (.error reason, disk)) =
      (reach names, disk) := by
  have led := walk_of_staged staged plain
  unfold leadsToDirectory
  rcases ended with reached | refused
  · have there := staged _ ⟨names, List.prefix_rfl, reached, rfl⟩
    rw [led, reached]
    exact if_pos (beq_iff_eq.mpr there)
  · rw [led, refused]
    exact if_neg Bool.false_ne_true

/-- Directories are made as far as the names can be taken. -/
theorem makeDirectories_of_open (names : List String) (plain : ∀ name ∈ names, name ≠ "..")
    (disk : Disk) (ready : disk.Open base names.reverse) :
    (makeDirectories base false names disk).1 = reach names.reverse ∧
      Made base names.reverse disk (makeDirectories base false names disk).2 := by
  induction names generalizing disk with
  | nil => exact ⟨rfl, .of_staged (staged_nil ready.here)⟩
  | cons last rest inductionHypothesis =>
    obtain ⟨down, further⟩ := List.forall_mem_cons.mp plain
    have earlier : ∀ name ∈ rest.reverse, name ≠ ".." := fun name member =>
      further name (List.mem_reverse.mp member)
    have all : ∀ name ∈ rest.reverse ++ [last], name ≠ ".." := fun name member =>
      plain name (by simpa [or_comm] using member)
    rw [makeDirectories]
    dsimp only
    rw [List.reverse_cons] at ready ⊢
    rcases ready.start.staged_or earlier with staged | missing
    · -- only the last directory may be missing
      rcases makeDirectory_last staged earlier down ready with
        ⟨made, done, reached, laid⟩ | ⟨reason, refused, other, there, ended⟩
      · rw [done, reached]
        exact ⟨rfl, laid⟩
      · rw [refused]
        split
        next same => cases same
        next same => exact absurd (Except.error.inj same) other
        next same =>
          cases same
          rw [settle there all ended]
          exact ⟨rfl, .of_staged there⟩
    · -- those before it are made first
      rw [makeDirectory_concat disk base rest.reverse down, missing]
      obtain ⟨ended, made⟩ := inductionHypothesis further disk ready.start
      dsimp only [Except.bind]
      split
      next reason partly first =>
        rw [first] at ended made
        have long : reach rest.reverse ≠ .ok () := fun reached => by
          rw [← ended] at reached
          cases reached
        refine ⟨?_, made.concat (made.staged.concat long)⟩
        rw [reach_append, ← ended]
        rfl
      next prepared first =>
        rw [first] at made
        rcases makeDirectory_last made.staged earlier down (made.ready ready) with
          ⟨onward, done, reached, laid⟩ | ⟨reason, refused, other, there, ended⟩
        · rw [done, reached]
          exact ⟨rfl, made.trans laid⟩
        · rw [refused]
          dsimp only
          rw [settle there all ended]
          exact ⟨rfl, made.concat there⟩

/-! ### Paths -/

section Paths

variable {path : String} {route : Route} (plain : Plain path) (routed : Path.route path = .ok route)
include plain routed

theorem makeParent_of_open (ready : disk.Open (disk.start route) route.names.dropLast) :
    (disk.makeParent path).1 = reach route.names.dropLast ∧
      Made (disk.start route) route.names.dropLast disk (disk.makeParent path).2 := by
  unfold makeParent makePath
  cases parent : parent? path with
  | none =>
    rw [dropLast_of_no_parent routed (by rw [parent]; rfl)]
    exact ⟨rfl, .of_staged (staged_nil ready.here)⟩
  | some above =>
    dsimp only
    by_cases nowhere : above = ""
    · rw [dropLast_of_no_parent routed (by rw [parent]; exact nowhere), nowhere]
      exact ⟨rfl, .of_staged (staged_nil ready.here)⟩
    · obtain ⟨way, taken, absolute, names⟩ := route_of_parent routed parent nowhere
      have start : disk.start way = disk.start route := by
        unfold Disk.start
        rw [absolute]
      have aboveNames := (plain.parent parent nowhere).names taken
      rw [if_neg (by simpa using nowhere), taken]
      dsimp only
      rw [(plain.parent parent nowhere).pointed taken, ← names, ← start]
      rw [← names, ← start, ← List.reverse_reverse way.names] at ready
      have made := makeDirectories_of_open way.names.reverse
        (fun name member => aboveNames name (List.mem_reverse.mp member)) disk ready
      rwa [List.reverse_reverse] at made

/-- A file can be opened where its directory is, unless the path or the name forbids it. -/
theorem opened_of_staged (named : route.names ≠ [])
    (staged : disk.Staged (disk.start route) route.names.dropLast)
    (reached : reach route.names.dropLast = .ok ())
    (free : disk.node? (disk.start route ++ route.names) ≠ some .directory) :
    disk.opened path = if route.directory then .error .isDirectory
      else (reach route.names).map fun _ => disk.start route ++ route.names := by
  have names := plain.names routed
  have pointed := plain.pointed routed
  obtain ⟨before, last, whole⟩ : ∃ before last, route.names = before ++ [last] :=
    ⟨_, _, (List.dropLast_concat_getLast named).symm⟩
  unfold Disk.opened
  rw [routed]
  show (disk.slot route.pointed (disk.start route) route.names).bind _ = _
  rw [whole, List.dropLast_concat] at staged reached
  rw [whole] at free names ⊢
  obtain ⟨earlier, down⟩ := List.forall_mem_append.mp names
  have here := staged _ ⟨before, List.prefix_rfl, reached, rfl⟩
  rw [pointed, slot_concat disk _ before (down last (List.mem_singleton_self last)),
    walk_of_staged staged earlier, reach_append, reached]
  simp only [Except.map, Except.bind, if_neg (not_not_intro here)]
  rw [← List.append_assoc] at free ⊢
  cases route.directory with
  | true => rfl
  | false =>
    simp only [if_neg free, Bool.false_eq_true, if_false, reach]
    by_cases long : Long last
    · rw [if_pos long]
      exact if_pos long
    · rw [if_neg long]
      exact if_neg long

end Paths

end Disk

end Foldback
