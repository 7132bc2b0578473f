/-
The reasons of failures. A file below a directory with a name that is too long is
never written. If the way to that directory is missing, it is made as far as it can
be, and then the directory cannot be created; if the way is there, the file cannot
be read. So builds that fail next to each other may do so for other reasons than
alone: the first one makes the way for the others.
-/

import Foldback.Proofs.Disk.Names
import Foldback.Proofs.Workspace.Batches
import Foldback.Proofs.Workspace.Settling

namespace Foldback.Workspace

open Disk

variable {workspace : Workspace} {disk : Disk} {file : String}

/-- A file that is missing below a name that is too long: as much of the way is made as can be,
and the name is the reason for which it is not made further. -/
theorem failure_of_unmade (wet : workspace.dryRun = false) (tree : disk.IsTree)
    (plain : Path.Plain (workspace.targetPath file)) {route : Path.Route}
    (routed : Path.route (workspace.targetPath file) = .ok route)
    (long : Path.reach route.names.dropLast = .error .nameTooLong) {plan : Plan}
    (planned : (workspace.planBuild disk file).outcome = .ok plan) (missing : plan.current = none) :
    (workspace.build disk file).1.outcome =
        .error (.creating ((Path.parent? (workspace.targetPath file)).getD "") .nameTooLong) ∧
      (workspace.build disk file).2.Staged (disk.start route) route.names.dropLast := by
  obtain ⟨-, target, path⟩ := outcome_planBuild planned
  have ends := workspace.ends_build disk file
  rw [planned] at ends
  obtain ⟨outcome, left⟩ := ends.of_other (by simp [missing]) wet
  have missed := readLines_of_readTarget target
  rw [missing] at missed
  have site := site_of_readLines tree plain routed (.inr missed)
  rw [← path] at site ⊢
  obtain ⟨written, laid⟩ := Plan.write_of_site site
  have comes : plan.comesTo route =
      .error (.creating ((Path.parent? plan.path).getD "") .nameTooLong) := by
    unfold Plan.comesTo
    rw [long]
  rw [outcome, left, written, comes]
  exact ⟨rfl, laid.staged⟩

/-- If the way is there up to the name, the file is looked for, and the name is the reason for
which it is not read. -/
theorem failure_of_made {source lines : List String}
    (read : workspace.readSource disk file = .ok source)
    (rendered : (workspace.setup disk).render source = .ok lines)
    (stopped : disk.read (workspace.targetPath file) = .error .nameTooLong) :
    (workspace.build disk file).1.outcome =
      .error (.reading (workspace.targetPath file) .nameTooLong) := by
  have target : workspace.readTarget disk file =
      .error (.reading (workspace.targetPath file) .nameTooLong) := by
    have lines : disk.readLines (workspace.targetPath file) = .error .nameTooLong :=
      congrArg (Except.map Text.linesOf) stopped
    unfold readTarget
    rw [lines]
  have planned : (workspace.planBuild disk file).outcome =
      .error (.reading (workspace.targetPath file) .nameTooLong) := by
    rw [planBuild_outcome, read, target]
    dsimp only [Except.bind]
    rw [rendered]
    rfl
  have ends := workspace.ends_build disk file
  rw [planned] at ends
  exact ends.of_error.1

/-- The messages of failures tell what was done. -/
theorem creating_ne_reading (path other : String) (error reason : FileError) :
    (Failure.creating path error).message ≠ (Failure.reading other reason).message := by
  intro same
  have heads := congrArg (fun message => message.toList.head?) same
  simp [Failure.message, Failure.chain] at heads

theorem batchEntries_pair (workspace : Workspace) (disk : Disk) (first second : String) :
    workspace.batchEntries .sequential disk [first, second] =
      [(workspace.outcomeAlone disk first).entry,
        (workspace.outcomeAlone (workspace.build disk first).2 second).entry] := by
  have outcomes : ∀ work : Disk → String → Traced FileNote Failure Status × Disk,
      (Batch.run work disk [first, second]).2.1 =
        [⟨first, (work disk first).1.outcome⟩,
          ⟨second, (work (work disk first).2 second).1.outcome⟩] := fun _ => rfl
  unfold batchEntries batchOutcomes outcomeAlone
  rw [process_sequential, outcomes]
  rfl

theorem entry_of_error {failure : Failure}
    (failed : (workspace.build disk file).1.outcome = .error failure) :
    (workspace.outcomeAlone disk file).entry = ⟨file, .failed, some failure.message⟩ := by
  unfold outcomeAlone Batch.Outcome.entry
  rw [failed]

/-! ### A name that is too long -/

/-- A name that is one byte too long. -/
def longName : String := String.ofList (List.replicate (Path.longestName + 1) 'x')

theorem long_longName : Path.Long longName := by decide +kernel

theorem name_longName : Path.Name longName := by
  have letters : ∀ count, ∀ character ∈ (String.ofList (List.replicate count 'x')).toList,
      character = 'x' := by
    intro count character member
    rw [String.toList_ofList] at member
    exact (List.mem_replicate.mp member).2
  exact ⟨fun slash => absurd (letters _ _ slash) (by decide),
    fun nul => absurd (letters _ _ nul) (by decide), long_longName.not_idle,
    fun up => absurd (up ▸ long_longName) (by decide)⟩

/-- A workspace whose target directory has a name that is too long. -/
def overlong : Workspace := ⟨.empty, "src", "/".intercalate ["out", longName], false⟩

theorem names_overlong : ∀ name ∈ ["out", longName], Path.Name name := by
  have out : Path.Name "out" := ⟨by decide, by decide, by decide, by decide⟩
  exact List.forall_mem_cons.mpr ⟨out, List.forall_mem_singleton.mpr name_longName⟩

theorem names_target (named : Path.Name file) :
    ∀ name ∈ ["out", longName, file], Path.Name name := by
  have both := List.forall_mem_cons.mp names_overlong
  exact List.forall_mem_cons.mpr ⟨both.1, List.forall_mem_cons.mpr
    ⟨name_longName, List.forall_mem_singleton.mpr named⟩⟩

theorem targetPath_overlong (named : Path.Name file) :
    overlong.targetPath file = "/".intercalate ["out", longName, file] := by
  show Path.join ("/".intercalate ["out", longName]) file =
    "/".intercalate (["out", longName] ++ [file])
  exact Path.join_of_names (List.cons_ne_nil _ _) names_overlong named

/-- Two sources that are plain text. -/
def twoTexts : Disk :=
  ((Disk.empty.put ["work", "src"] .directory).put ["work", "src", "a"]
    (.file (.text "x\n"))).put ["work", "src", "b"] (.file (.text "y\n"))

theorem isTree_twoTexts : twoTexts.IsTree := .of_entries (by decide +kernel) (by decide +kernel)

/-- One of these sources: it is one line, and no command. -/
structure PlainText (file line : String) : Prop where
  named : Path.Name file
  short : ("/".intercalate ["out", longName, file]).utf8ByteSize ≤ Path.longestPath
  plain : Path.Plain (overlong.sourcePath file)
  source : twoTexts.destination (overlong.sourcePath file) = .ok ["work", "src", file]
  read : overlong.readSource twoTexts file = .ok [line]
  reads : Directive.filesRead [line] = []
  rendered : (overlong.setup twoTexts).render [line] = .ok [line]

theorem plainText_a : PlainText "a" "x" :=
  ⟨⟨by decide, by decide, by decide, by decide⟩, by decide +kernel, by decide +kernel,
    by decide +kernel, by decide +kernel, by decide +kernel, by decide +kernel⟩

theorem plainText_b : PlainText "b" "y" :=
  ⟨⟨by decide, by decide, by decide, by decide⟩, by decide +kernel, by decide +kernel,
    by decide +kernel, by decide +kernel, by decide +kernel, by decide +kernel⟩

namespace PlainText

variable {line other text : String}

theorem route (plainText : PlainText file line) :
    Path.route (overlong.targetPath file) = .ok ⟨false, ["out", longName, file], false, false⟩ := by
  rw [targetPath_overlong plainText.named]
  exact Path.route_of_names (List.cons_ne_nil _ _) (names_target plainText.named) plainText.short

theorem plainTarget (plainText : PlainText file line) : Path.Plain (overlong.targetPath file) := by
  rw [targetPath_overlong plainText.named]
  exact Path.plain_of_names (List.cons_ne_nil _ _) (names_target plainText.named)

theorem target (plainText : PlainText file line) :
    twoTexts.destination (overlong.targetPath file) = .ok ["work", "out", longName, file] :=
  destination_plain plainText.plainTarget plainText.route

theorem touches (plainText : PlainText file line) {path : String}
    (touched : overlong.Touches twoTexts file path) :
    path = overlong.sourcePath file ∨ path = overlong.targetPath file := by
  refine touched.imp_right fun later => later.resolve_right fun ⟨source, read, reads⟩ => ?_
  cases plainText.read.symm.trans read
  rw [← Directive.mem_filesRead_iff, plainText.reads] at reads
  cases reads

theorem plainPaths (plainText : PlainText file line) {path : String}
    (touched : overlong.Touches twoTexts file path) : Path.Plain path := by
  rcases plainText.touches touched with rfl | rfl
  · exact plainText.plain
  · exact plainText.plainTarget

theorem clear (plainText : PlainText file line) (plainOther : PlainText other text)
    (different : other ≠ file) : overlong.Clear twoTexts file other := by
  intro path touched
  rcases plainText.touches touched with rfl | rfl
  · exact not_above plainOther.target plainText.source (by simp)
  · exact not_above plainOther.target plainText.target (by simpa using different)

/-- The build of the first source leaves the directory above the one that it cannot make. -/
theorem first (plainText : PlainText file line) :
    (overlong.build twoTexts file).1.outcome =
        .error (.creating ((Path.parent? (overlong.targetPath file)).getD "") .nameTooLong) ∧
      (overlong.build twoTexts file).2.Staged ["work"] ["out", longName] := by
  have here : twoTexts.node? ["work"] = some .directory := by decide +kernel
  have missing : ¬(twoTexts.node? (["work"] ++ ["out"])).isSome := by decide +kernel
  have lines : twoTexts.readLines (overlong.targetPath file) = .error .notFound :=
    congrArg (Except.map Text.linesOf)
      (read_of_refused plainText.route (walk_stop here (by decide) (by decide) missing))
  have target : overlong.readTarget twoTexts file = .ok none := by
    unfold readTarget
    rw [lines]
  have long : Path.reach ["out", longName] = .error .nameTooLong := by
    rw [Path.reach, if_neg (by decide), Path.reach, if_pos long_longName]
  exact failure_of_unmade rfl isTree_twoTexts plainText.plainTarget plainText.route long
    (planBuild_eq plainText.read plainText.rendered target) rfl

/-- The build of the second source finds that directory. -/
theorem second (plainText : PlainText file line) (plainOther : PlainText other text) :
    (overlong.build (overlong.build twoTexts file).2 other).1.outcome =
      .error (.reading (overlong.targetPath other) .nameTooLong) := by
  have footprint := overlong.footprint_build twoTexts file
  have apart : ¬twoTexts.SameDestination (overlong.targetPath file)
      (overlong.sourcePath other) := by
    rintro ⟨place, one, two⟩
    cases plainText.target.symm.trans one
    exact absurd (plainOther.source.symm.trans two) (by simp)
  have read : overlong.readSource (overlong.build twoTexts file).2 other = .ok [text] :=
    mapError_eq_ok.mpr (footprint.readLines_other apart (mapError_eq_ok.mp plainOther.read))
  have agree : ∀ path, Directive.ReadsFile [text] path →
      (overlong.build twoTexts file).2.firstLine path = twoTexts.firstLine path := by
    intro path reads
    rw [← Directive.mem_filesRead_iff, plainOther.reads] at reads
    cases reads
  have rendered : (overlong.setup (overlong.build twoTexts file).2).render [text] = .ok [text] :=
    (Setup.render_congr agree).trans plainOther.rendered
  -- the walk goes through the directory and stops at the name
  have staged := plainText.first.2
  have here := staged ["work"] (stage_base _ _)
  have out := staged (["work"] ++ ["out"]) ⟨["out"], by simp, by decide, rfl⟩
  refine failure_of_made read rendered (read_of_refused plainOther.route ?_)
  rw [footprint.keeps.start]
  show (overlong.build twoTexts file).2.walk ["work"] ["out", longName, other] = _
  rw [walk_step here (by decide) (by decide) (Option.isSome_of_eq_some out)]
  exact walk_long out name_longName.down long_longName

end PlainText

/-- The messages of failures may depend on the order: the first build makes a directory and fails
at the one below, the name of which is too long, and the second one fails when it looks there. -/
theorem messages_depend_on_order :
    overlong.Independent twoTexts ["a", "b"] ∧ ["b", "a"].Perm ["a", "b"] ∧
    ¬(overlong.batchEntries .sequential twoTexts ["b", "a"]).Perm
      (overlong.batchEntries .sequential twoTexts ["a", "b"]) := by
  refine ⟨⟨isTree_twoTexts, ?_, ?_⟩, by decide, fun same => ?_⟩
  · exact List.forall_mem_cons.mpr ⟨fun path => plainText_a.plainPaths,
      List.forall_mem_singleton.mpr fun path => plainText_b.plainPaths⟩
  · exact List.pairwise_pair.mpr ⟨plainText_a.clear plainText_b (by decide),
      plainText_b.clear plainText_a (by decide)⟩
  · rw [batchEntries_pair, batchEntries_pair, entry_of_error plainText_b.first.1,
      entry_of_error (plainText_a.second plainText_b)] at same
    rcases List.mem_cons.mp (same.mem_iff.mpr (List.mem_cons_of_mem _ (List.mem_singleton_self _)))
      with first | second
    · have messages := Option.some.inj (congrArg Report.Entry.message first)
      exact absurd messages.symm (creating_ne_reading _ _ _ _)
    · have names := congrArg Report.Entry.name (List.mem_singleton.mp second)
      rw [Batch.name_of_entry] at names
      exact absurd names (by decide)

end Foldback.Workspace
