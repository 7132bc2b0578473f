/-
A build comes to rest. It leaves in the rendered file what the source renders to,
and the source and the files that it reads are other files, which were not
touched. The rendered lines are read as they were written, as none of them ends
with a carriage return; so nothing is left to build, and as the rendered file
holds no edit, nothing to take back.
-/

import Foldback.Proofs.Disk.Destination
import Foldback.Proofs.Workspace.Containment
import Foldback.Proofs.Workspace.Settling

namespace Foldback.Workspace

open Text

variable {workspace : Workspace} {disk after : Disk} {file : String}

/-- After a build the rendered file is read as the rendered lines. -/
theorem Ends.readTarget_after_build {current : Option (List String)} {lines : List String}
    {status : Status}
    (ends : Ends workspace (.ok ⟨workspace.targetPath file, current, lines⟩) disk (.ok status)
      after)
    (wet : workspace.dryRun = false) (target : workspace.readTarget disk file = .ok current)
    (single : ∀ line ∈ lines, OneLine line)
    (bare : ∀ line ∈ lines, line.toList.getLast? ≠ some '\r') :
    workspace.readTarget after file = .ok (some lines) := by
  cases ends with
  | current made same =>
    cases made
    rw [target]
    exact congrArg Except.ok same
  | dry made other dry => exact absurd (wet.symm.trans dry) Bool.false_ne_true
  | written made other _ write =>
    cases made
    have again : after.readLines (workspace.targetPath file) = .ok lines := by
      have read := Plan.readLines_of_write_bare write single bare
      exact read
    unfold readTarget
    rw [again]

/-- The preview of a plan for lines that are there already is empty. -/
theorem preview_of_current {planned : Traced FileNote Failure Plan} {path : String}
    {lines : List String} (made : planned.outcome = .ok ⟨path, some lines, lines⟩) :
    (Plan.preview <$> planned).outcome = .ok "" := by
  rw [outcome_map, made]
  exact congrArg Except.ok ((Plan.preview_eq_empty_iff ⟨path, some lines, lines⟩).mpr rfl).1

/-- A build comes to rest. If the rendered file is another file than the source and those that
the lines of the source read, and no rendered line ends with a carriage return, then after the
build there is nothing to build and nothing to take back, and both previews are empty. -/
theorem build_comes_to_rest {source lines : List String} {status : Status}
    (wet : workspace.dryRun = false)
    (read : workspace.readSource disk file = .ok source)
    (rendered : (workspace.setup disk).render source = .ok lines)
    (apart : ¬disk.SameDestination (workspace.targetPath file) (workspace.sourcePath file))
    (unread : ∀ path, Directive.ReadsFile source path →
      ¬disk.SameDestination (workspace.targetPath file) path)
    (bare : ∀ line ∈ lines, line.toList.getLast? ≠ some '\r')
    (done : (workspace.build disk file).1.outcome = .ok status)
    (left : (workspace.build disk file).2 = after) :
    workspace.readTarget after file = .ok (some lines) ∧
    (workspace.build after file).1.outcome = .ok .unchanged ∧
      (workspace.build after file).2 = after ∧
    (workspace.buildPreview after file).outcome = .ok "" ∧
    (workspace.back after file).1.outcome = .ok .unchanged ∧
      (workspace.back after file).2 = after ∧
    (workspace.backPreview after file).outcome = .ok "" := by
  have footprint := footprint_build workspace disk file
  have ends := workspace.ends_build disk file
  rw [left] at footprint
  rw [done, left] at ends
  -- the plan that was carried out
  obtain ⟨current, target⟩ : ∃ current, workspace.readTarget disk file = .ok current := by
    cases made : (workspace.planBuild disk file).outcome with
    | error failure =>
      rw [made] at ends
      cases ends.of_error.1
    | ok plan => exact ⟨plan.current, (outcome_planBuild made).2.1⟩
  rw [planBuild_eq read rendered target] at ends
  have single : ∀ line ∈ lines, OneLine line :=
    Setup.oneLine_of_render Disk.oneLine_of_firstLine (oneLine_of_readSource read) rendered
  -- what is read on the disk that is left
  have targetAgain := ends.readTarget_after_build wet target single bare
  have readAgain : workspace.readSource after file = .ok source :=
    mapError_eq_ok.mpr (footprint.readLines_other apart (mapError_eq_ok.mp read))
  have agree : ∀ path, Directive.ReadsFile source path →
      after.firstLine path = disk.firstLine path := by
    intro path reads
    obtain ⟨content, given⟩ :=
      Setup.exists_firstLine_of_renders (Setup.render_eq_ok_iff.mp rendered).1 reads
    rw [given, footprint.firstLine_other (unread path reads) given]
  have renderedAgain : (workspace.setup after).render source = .ok lines := by
    rw [setup, Setup.render_congr agree]
    exact rendered
  -- both plans find their lines in place
  have planBuild := planBuild_eq readAgain renderedAgain targetAgain
  have planBack := planBack_eq readAgain targetAgain (Setup.foldBack_of_render renderedAgain)
  have build := workspace.ends_build after file
  have back := workspace.ends_back after file
  rw [planBuild] at build
  rw [planBack] at back
  obtain ⟨built, buildLeft⟩ := build.of_current rfl
  obtain ⟨backed, backLeft⟩ := back.of_current rfl
  exact ⟨targetAgain, built, buildLeft, preview_of_current planBuild, backed, backLeft,
    preview_of_current planBack⟩

/-- A disk with a source and the file that it reads, where nothing was built. -/
def unbuiltBinding : Disk :=
  ((Disk.empty.put ["work", "src"] .directory).put ["work", "src", "host"]
    (.file (.text "#@withfile p=port\nlisten @@p@@\n"))).put ["work", "port"]
      (.file (.text "80\n"))

/-- A build that makes the directory of the rendered file. -/
theorem build_comes_to_rest_below_new_directory :
    (plain.build unbuiltBinding "host").1.outcome = .ok .written ∧
    plain.readTarget (plain.build unbuiltBinding "host").2 "host" = .ok (some ["listen 80"]) ∧
    (plain.build (plain.build unbuiltBinding "host").2 "host").1.outcome = .ok .unchanged ∧
    (plain.buildPreview (plain.build unbuiltBinding "host").2 "host").outcome = .ok "" ∧
    (plain.back (plain.build unbuiltBinding "host").2 "host").1.outcome = .ok .unchanged ∧
    (plain.backPreview (plain.build unbuiltBinding "host").2 "host").outcome = .ok "" := by
  have read : plain.readSource unbuiltBinding "host" =
      .ok ["#@withfile p=port", "listen @@p@@"] := by decide +kernel
  have rendered : (plain.setup unbuiltBinding).render ["#@withfile p=port", "listen @@p@@"] =
      .ok ["listen 80"] := by decide +kernel
  have targetAt : unbuiltBinding.destination (plain.targetPath "host") =
      .ok ["work", "out", "host"] := by decide +kernel
  have sourceAt : unbuiltBinding.destination (plain.sourcePath "host") =
      .ok ["work", "src", "host"] := by decide +kernel
  have portAt : unbuiltBinding.destination "port" = .ok ["work", "port"] := by decide +kernel
  have done : (plain.build unbuiltBinding "host").1.outcome = .ok .written := by decide +kernel
  have apart : ¬unbuiltBinding.SameDestination (plain.targetPath "host")
      (plain.sourcePath "host") := by
    rintro ⟨place, first, second⟩
    obtain rfl := Except.ok.inj (targetAt.symm.trans first)
    exact absurd (sourceAt.symm.trans second) (by decide)
  have unread : ∀ path, Directive.ReadsFile ["#@withfile p=port", "listen @@p@@"] path →
      ¬unbuiltBinding.SameDestination (plain.targetPath "host") path := by
    rintro path ⟨arguments, name, member, pair⟩ ⟨place, first, second⟩
    have call : Directive.calls ["#@withfile p=port", "listen @@p@@"] =
        [("withfile", "p=port")] := by decide +kernel
    rw [call] at member
    cases List.mem_singleton.mp member
    have bound : Call.binding? "p=port" = some ("p", "port") := by decide +kernel
    cases bound.symm.trans pair
    obtain rfl := Except.ok.inj (targetAt.symm.trans first)
    exact absurd (portAt.symm.trans second) (by decide)
  obtain ⟨target, built, -, buildPreview, backed, -, backPreview⟩ :=
    build_comes_to_rest rfl read rendered apart unread (by decide) done rfl
  exact ⟨done, target, built, buildPreview, backed, backPreview⟩

end Foldback.Workspace
