/-
Previews tell what the work on a file would do. A preview fails as the dry run
fails, and it is empty where the dry run finds nothing to change. Read as a patch
and applied to the lines that are there, it gives the lines that are computed,
which are those that the work writes if it may.
-/

import Foldback.Proofs.Diff.PatchText
import Foldback.Proofs.Fold.SingleLines
import Foldback.Proofs.Workspace.Containment

namespace Foldback

open Text Diff

/-! ### Lines of files -/

namespace Disk

theorem oneLine_of_readLines {disk : Disk} {path : String} {lines : List String}
    (read : disk.readLines path = .ok lines) : ∀ line ∈ lines, OneLine line := by
  obtain ⟨text, -, rfl⟩ := read_of_readLines read
  exact fun _ => oneLine_of_mem_linesOf

theorem oneLine_of_firstLine {disk : Disk} (path content : String)
    (read : disk.firstLine path = .ok content) : OneLine content := by
  obtain ⟨text, -, rfl⟩ := exists_of_map_eq_ok read
  exact oneLine_firstLineOf text

end Disk

namespace Plan

/-- The paths and the lines of a plan are single lines. -/
structure SingleLines (plan : Plan) : Prop where
  path : OneLine plan.path
  current : ∀ line ∈ plan.current.getD [], OneLine line
  lines : ∀ line ∈ plan.lines, OneLine line

theorem preview_eq_empty_iff (plan : Plan) :
    plan.preview = "" ∧ plan.current.isSome ↔ plan.current = some plan.lines := by
  unfold preview
  rw [unified_eq_empty_iff]
  cases plan.current with
  | none => simp
  | some held => simp

/-- The preview of a plan is a patch from the lines that are there to those of the plan. -/
theorem exists_patch {plan : Plan} (single : plan.SingleLines) :
    ∃ patch, Patch.read? plan.preview = some patch ∧
      patch.apply (plan.current.getD []) = some plan.lines :=
  ⟨_, read?_unified single.current single.lines single.path single.path,
    (fits_hunks contextSize (plan.current.getD []) plan.lines).applyFrom⟩

end Plan

namespace Workspace

variable {workspace : Workspace} {disk : Disk} {file : String}

/-! ### Plans of single lines -/

theorem oneLine_of_readSource {source : List String}
    (read : workspace.readSource disk file = .ok source) : ∀ line ∈ source, OneLine line :=
  Disk.oneLine_of_readLines (mapError_eq_ok.mp read)

theorem oneLine_of_readTarget {current : Option (List String)}
    (read : workspace.readTarget disk file = .ok current) :
    ∀ line ∈ current.getD [], OneLine line := by
  have found := readLines_of_readTarget read
  cases current with
  | none => exact List.forall_mem_nil OneLine
  | some lines => exact Disk.oneLine_of_readLines found

theorem singleLines_of_planBuild (named : OneLine (workspace.targetPath file)) {plan : Plan}
    (made : (workspace.planBuild disk file).outcome = .ok plan) : plan.SingleLines := by
  obtain ⟨⟨source, read, rendered⟩, target, path⟩ := outcome_planBuild made
  refine ⟨path ▸ named, oneLine_of_readTarget target, ?_⟩
  exact Setup.oneLine_of_render Disk.oneLine_of_firstLine (oneLine_of_readSource read) rendered

theorem singleLines_of_planBack (named : OneLine (workspace.sourcePath file)) {plan : Plan}
    (made : (workspace.planBack disk file).outcome = .ok plan) : plan.SingleLines := by
  obtain ⟨⟨source, edited, read, target, folded⟩, current, path⟩ := outcome_planBack made
  have sourceSingle := oneLine_of_readSource read
  have editedSingle := oneLine_of_readTarget target
  rw [read] at current
  refine ⟨path ▸ named, ?_, Setup.oneLine_of_foldBack sourceSingle editedSingle folded⟩
  rw [← Except.ok.inj current]
  exact sourceSingle

/-! ### Previews and runs -/

/-- A preview tells the truth about the work on a file: about a dry run, and about one that may
write. -/
structure Truthful (path : String) (held : Except Failure (Option (List String)))
    (computes : List String → Prop) (preview : Except Failure String)
    (dry real : Except Failure Status) (after : Disk) : Prop where
  fails : ∀ failure, preview = .error failure ↔ dry = .error failure
  tells : ∀ text, preview = .ok text → ∃ current lines patch,
    held = .ok current ∧ computes lines ∧
    dry = .ok (if text = "" ∧ current.isSome then .unchanged else .planned) ∧
    Patch.read? text = some patch ∧ patch.apply (current.getD []) = some lines ∧
    if text = "" ∧ current.isSome then real = .ok .unchanged
    else (real = .ok .written ∧ after.read path = .ok (String.join (lines.map (· ++ "\n")))) ∨
      ∃ failure, real = .error failure ∧ failure.whileWriting = true

theorem Ends.outcome_dry {planned : Except Failure Plan} {outcome : Except Failure Status}
    {after : Disk} (ends : Ends workspace planned disk outcome after)
    (dryness : workspace.dryRun = true) :
    outcome = planned.map fun plan =>
      if plan.current = some plan.lines then .unchanged else .planned := by
  cases ends with
  | unplanned refused => rw [refused]; rfl
  | current made same => rw [made, Except.map, if_pos same]
  | dry made other => rw [made, Except.map, if_neg other]
  | broken made other wet => rw [wet] at dryness; cases dryness
  | written made other wet => rw [wet] at dryness; cases dryness

theorem Ends.outcome_wet {plan : Plan} {outcome : Except Failure Status}
    {after : Disk} (ends : Ends workspace (.ok plan) disk outcome after)
    (wetness : workspace.dryRun = false) :
    if plan.current = some plan.lines then outcome = .ok .unchanged
    else (outcome = .ok .written ∧ after.read plan.path = .ok (ofLines plan.lines)) ∨
      ∃ failure, outcome = .error failure ∧ failure.whileWriting = true := by
  cases ends with
  | unplanned refused => cases refused
  | current made same =>
    cases made
    rw [if_pos same]
  | dry made other dry => rw [dry] at wetness; cases wetness
  | broken made other wet write =>
    cases made
    rw [if_neg other]
    exact .inr ⟨_, rfl, Plan.whileWriting_of_write write⟩
  | written made other wet write =>
    cases made
    rw [if_neg other]
    exact .inl ⟨rfl, Plan.read_of_write write⟩

theorem truthful_of_ends {dryly wetly : Workspace} {planned : Except Failure Plan} {path : String}
    {held : Except Failure (Option (List String))} {computes : List String → Prop}
    {dry real : Except Failure Status} {same after : Disk}
    (dryEnds : Ends dryly planned disk dry same) (dryness : dryly.dryRun = true)
    (realEnds : Ends wetly planned disk real after) (wetness : wetly.dryRun = false)
    (parts : ∀ plan, planned = .ok plan → plan.SingleLines ∧ plan.path = path ∧
      held = .ok plan.current ∧ computes plan.lines) :
    Truthful path held computes (planned.map Plan.preview) dry real after := by
  have outcome := dryEnds.outcome_dry dryness
  cases planned with
  | error failure =>
    refine ⟨fun other => ?_, fun text given => nomatch given⟩
    rw [outcome]
    simp [Except.map]
  | ok plan =>
    obtain ⟨single, rfl, held, computed⟩ := parts plan rfl
    obtain ⟨patch, read, applied⟩ := Plan.exists_patch single
    refine ⟨fun failure => ?_, fun text given => ?_⟩
    · rw [outcome]
      constructor <;> exact fun given => nomatch given
    · cases given
      have wet := realEnds.outcome_wet wetness
      simp only [Except.map, ← plan.preview_eq_empty_iff, ofLines_eq_join] at wet outcome
      exact ⟨plan.current, plan.lines, patch, held, computed, outcome, read, applied, wet⟩

theorem outcome_map (preview : Plan → String) (planned : Traced FileNote Failure Plan) :
    (preview <$> planned).outcome = planned.outcome.map preview := by
  show (planned >>= fun plan => pure (preview plan)).outcome = _
  rw [Traced.outcome_bind]
  cases planned.outcome <;> rfl

/-! ### The commands -/

/-- The same workspace, told whether nothing may be written. -/
def withDryRun (workspace : Workspace) (dryRun : Bool) : Workspace :=
  { workspace with dryRun := dryRun }

/-- What is planned does not depend on whether it may be carried out. -/
theorem planBuild_withDryRun (workspace : Workspace) (dryRun : Bool) (disk : Disk)
    (file : String) :
    (workspace.withDryRun dryRun).planBuild disk file = workspace.planBuild disk file := by
  cases workspace
  rfl

theorem planBack_withDryRun (workspace : Workspace) (dryRun : Bool) (disk : Disk)
    (file : String) :
    (workspace.withDryRun dryRun).planBack disk file = workspace.planBack disk file := by
  cases workspace
  rfl

/-- A preview fails exactly if the dry run does, and with the same error. Else the dry run finds
nothing to change exactly if the preview is empty and the file is there; and as a patch the
preview leads from the lines that are there to those that are computed, which a run that may
write leaves in the file. -/
theorem previews_truthful (workspace : Workspace) (disk : Disk) (file : String)
    (targetNamed : OneLine (workspace.targetPath file))
    (sourceNamed : OneLine (workspace.sourcePath file)) :
    Truthful (workspace.targetPath file) (workspace.readTarget disk file)
      (workspace.BuildsTo disk file) (workspace.buildPreview disk file).outcome
      ((workspace.withDryRun true).build disk file).1.outcome
      ((workspace.withDryRun false).build disk file).1.outcome
      ((workspace.withDryRun false).build disk file).2 ∧
    Truthful (workspace.sourcePath file) ((workspace.readSource disk file).map some)
      (workspace.FoldsTo disk file) (workspace.backPreview disk file).outcome
      ((workspace.withDryRun true).back disk file).1.outcome
      ((workspace.withDryRun false).back disk file).1.outcome
      ((workspace.withDryRun false).back disk file).2 := by
  have dryBuild := ends_build (workspace.withDryRun true) disk file
  have wetBuild := ends_build (workspace.withDryRun false) disk file
  have dryBack := ends_back (workspace.withDryRun true) disk file
  have wetBack := ends_back (workspace.withDryRun false) disk file
  rw [planBuild_withDryRun] at dryBuild wetBuild
  rw [planBack_withDryRun] at dryBack wetBack
  rw [buildPreview, backPreview, outcome_map, outcome_map]
  refine ⟨truthful_of_ends dryBuild rfl wetBuild rfl fun plan made => ?_,
    truthful_of_ends dryBack rfl wetBack rfl fun plan made => ?_⟩
  · obtain ⟨computed, target, path⟩ := outcome_planBuild made
    exact ⟨singleLines_of_planBuild targetNamed made, path, target, computed⟩
  · obtain ⟨computed, source, path⟩ := outcome_planBack made
    exact ⟨singleLines_of_planBack sourceNamed made, path, source, computed⟩

/-- The preview of the first build of a file, and of taking it back, which fails as nothing was
built. -/
theorem previews_truthful_unbuilt :
    OneLine (plain.targetPath "host") ∧ OneLine (plain.sourcePath "host") ∧
    Truthful (plain.targetPath "host") (plain.readTarget unbuilt "host")
      (plain.BuildsTo unbuilt "host") (plain.buildPreview unbuilt "host").outcome
      ((plain.withDryRun true).build unbuilt "host").1.outcome
      ((plain.withDryRun false).build unbuilt "host").1.outcome
      ((plain.withDryRun false).build unbuilt "host").2 ∧
    Truthful (plain.sourcePath "host") ((plain.readSource unbuilt "host").map some)
      (plain.FoldsTo unbuilt "host") (plain.backPreview unbuilt "host").outcome
      ((plain.withDryRun true).back unbuilt "host").1.outcome
      ((plain.withDryRun false).back unbuilt "host").1.outcome
      ((plain.withDryRun false).back unbuilt "host").2 ∧
    (plain.buildPreview unbuilt "host").outcome =
      .ok "--- out/host\n+++ out/host\n@@ -0,0 +1 @@\n+a\n" ∧
    ((plain.withDryRun true).build unbuilt "host").1.outcome = .ok .planned ∧
    ((plain.withDryRun false).build unbuilt "host").1.outcome = .ok .written ∧
    ((plain.withDryRun false).build unbuilt "host").2.read "out/host" = .ok "a\n" ∧
    (plain.backPreview unbuilt "host").outcome = .error (.notBuilt "out/host") := by
  have targetNamed : OneLine (plain.targetPath "host") := by decide
  have sourceNamed : OneLine (plain.sourcePath "host") := by decide
  obtain ⟨build, back⟩ := previews_truthful plain unbuilt "host" targetNamed sourceNamed
  exact ⟨targetNamed, sourceNamed, build, back, by decide +kernel, by decide +kernel,
    by decide +kernel, by decide +kernel, by decide +kernel⟩

end Workspace

end Foldback
