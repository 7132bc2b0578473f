/-
Work that is carried out at one go. The steps of a command are then the command: they
note the same, come to the same outcome and leave the same disk. So what is said about
the commands is said about their steps where nothing else goes on.

Steps that only read are told apart: they leave the disk as it is, whatever goes on
between them.
-/

import Foldback.Proofs.Disk.Footprint
import Foldback.Proofs.Template.FilesRead
import Foldback.Proofs.Workspace.Interference

namespace Foldback

open Text Diff

namespace Steps

variable {value other : Type} {first : Steps value} {next : value → Steps other}
  {disk after : Disk} {notes : List FileNote}

/-! ### At one go -/

theorem alone_bind_error {failure : Failure}
    (fails : first.alone disk = (⟨notes, .error failure⟩, after)) :
    (first >>= next).alone disk = (⟨notes, .error failure⟩, after) := by
  induction first generalizing disk notes with
  | ended outcome =>
    cases fails
    rfl
  | noted note rest inductionHypothesis =>
    cases later : rest.alone disk with
    | mk traced last =>
      obtain ⟨behind, outcome⟩ := traced
      have whole : (noted note rest).alone disk = (⟨note :: behind, outcome⟩, last) := by
        rw [alone, later]
      cases whole.symm.trans fails
      show (noted note (rest >>= next)).alone disk = _
      rw [alone, inductionHypothesis later]
  | acted operation rest inductionHypothesis => exact inductionHypothesis _ fails

theorem alone_bind_ok {result : value}
    (goesOn : first.alone disk = (⟨notes, .ok result⟩, after)) :
    (first >>= next).alone disk = (⟨notes ++ ((next result).alone after).1.notes,
      ((next result).alone after).1.outcome⟩, ((next result).alone after).2) := by
  induction first generalizing disk notes with
  | ended outcome =>
    cases goesOn
    rfl
  | noted note rest inductionHypothesis =>
    cases later : rest.alone disk with
    | mk traced last =>
      obtain ⟨behind, outcome⟩ := traced
      have whole : (noted note rest).alone disk = (⟨note :: behind, outcome⟩, last) := by
        rw [alone, later]
      cases whole.symm.trans goesOn
      show (noted note (rest >>= next)).alone disk = _
      rw [alone, inductionHypothesis later]
      rfl
  | acted operation rest inductionHypothesis => exact inductionHypothesis _ goesOn

@[simp]
theorem alone_note (notes : List FileNote) (disk : Disk) :
    (note notes).alone disk = (⟨notes, .ok ()⟩, disk) := by
  induction notes with
  | nil => rfl
  | cons first rest inductionHypothesis => rw [note, alone, inductionHypothesis]

/-- At one go, the work leaves the disk as it is, and comes to what is seen on it. -/
def Observes (work : Steps value) (seen : Disk → Traced FileNote Failure value) : Prop :=
  ∀ disk, work.alone disk = (seen disk, disk)

theorem observes_pure (result : value) :
    (pure result : Steps value).Observes fun _ => pure result :=
  fun _ => rfl

theorem observes_ofExcept (outcome : Except Failure value) :
    (ofExcept outcome).Observes fun _ => .ofExcept outcome := fun _ => rfl

theorem observes_note (notes : List FileNote) : (note notes).Observes fun _ => ⟨notes, .ok ()⟩ :=
  fun disk => alone_note notes disk

theorem Observes.andThen {seen : Disk → Traced FileNote Failure value}
    {seenNext : value → Disk → Traced FileNote Failure other} (observes : first.Observes seen)
    (observesNext : ∀ result, (next result).Observes (seenNext result)) :
    (first >>= next).Observes fun disk => seen disk >>= fun result => seenNext result disk := by
  intro disk
  have here := observes disk
  show _ = (Traced.andThen _ _, disk)
  unfold Traced.andThen
  cases sight : seen disk with
  | mk notes outcome =>
    rw [sight] at here
    cases outcome with
    | error failure => exact alone_bind_error here
    | ok result =>
      rw [alone_bind_ok here, observesNext result disk]

theorem Observes.congr {work : Steps value} {seen same : Disk → Traced FileNote Failure value}
    (observes : work.Observes seen) (equal : ∀ disk, seen disk = same disk) :
    work.Observes same := fun disk => by rw [observes disk, equal disk]

/-! ### Passes -/

variable (categories : Categories)

/-- What a line needs to know of the files is found on the disk. -/
theorem step_of_readFor (disk : Disk) (line : Nat) (stack : BlockStack) (text : String) :
    ∃ firstLine, (readFor text).alone disk = (⟨[], .ok firstLine⟩, disk) ∧
      (Setup.builtin categories firstLine).step line stack text =
        (Setup.builtin categories disk.firstLine).step line stack text := by
  unfold readFor
  cases reads : Directive.fileRead? text with
  | none =>
    exact ⟨_, rfl, Setup.step_congr categories (fun path same => nomatch reads.symm.trans same)
      line stack⟩
  | some path =>
    refine ⟨fun _ => disk.firstLine path, rfl, Setup.step_congr categories ?_ line stack⟩
    intro other same
    cases reads.symm.trans same
    rfl

theorem observes_pass (line : Nat) (stack : BlockStack) (source : List String) :
    (pass categories line stack source).Observes fun disk =>
      ⟨((Setup.builtin categories disk.firstLine).notesFrom line stack source).map .pass,
        .ok ((Setup.builtin categories disk.firstLine).passFrom line stack source)⟩ := by
  intro disk
  induction source generalizing line stack with
  | nil =>
    rw [pass, alone_bind_ok (alone_note _ disk)]
    dsimp only
    rw [Setup.notesFrom, Setup.passFrom]
    cases stack <;> rfl
  | cons text rest inductionHypothesis =>
    obtain ⟨firstLine, known, same⟩ := step_of_readFor categories disk line stack text
    rw [pass, alone_bind_ok known]
    dsimp only
    rw [same, Setup.notesFrom, Setup.passFrom]
    cases (Setup.builtin categories disk.firstLine).step line stack text with
    | mk notes outcome =>
      rw [alone_bind_ok (alone_note _ disk)]
      cases outcome with
      | error error => simp [alone, pure]
      | ok moved =>
        obtain ⟨output, onward⟩ := moved
        dsimp only
        rw [alone_bind_ok (inductionHypothesis (line + 1) onward)]
        simp [alone, pure]

/-! ### Writing -/

theorem alone_settle (refusal : FileError → Failure) {way : Path.Route} (reason : FileError)
    {base : Location} (start : disk.start way = base) :
    (settle refusal way reason).alone disk =
      (⟨[], (if disk.leadsToDirectory base way.names then .ok () else .error reason :
        Except FileError Unit).mapError refusal⟩, disk) := by
  subst start
  show (ended (if disk.leadsToDirectory (disk.start way) way.names then .ok ()
    else .error (refusal reason))).alone disk = _
  split <;> rfl

theorem alone_makeDirectories (refusal : FileError → Failure) (absolute pointed : Bool)
    (names : List String) {base : Location}
    (start : base = if absolute then [] else disk.working) :
    (makeDirectories refusal absolute pointed names).alone disk =
      (⟨[], (Disk.makeDirectories base pointed names disk).1.mapError refusal⟩,
        (Disk.makeDirectories base pointed names disk).2) := by
  induction names generalizing pointed disk with
  | nil => rfl
  | cons last before inductionHypothesis =>
    generalize spelled : (last :: before).reverse = whole
    have here : disk.start ⟨absolute, whole, false, pointed⟩ = base := start.symm
    rw [makeDirectories, Disk.makeDirectories, makeWithWay, alone_bind_ok rfl, spelled]
    dsimp only [makeDirectory, alone, Operation.perform]
    rw [here]
    cases made : disk.makeDirectory pointed base whole with
    | ok made => rfl
    | error reason =>
      cases reason with
      | notFound =>
        -- the directories before it are made first
        have first := inductionHypothesis false start
        have working := (Disk.paved_makeDirectories base false before disk).working
        dsimp only
        cases ended : Disk.makeDirectories base false before disk with
        | mk outcome prepared =>
          rw [ended] at first working
          cases outcome with
          | error reason =>
            rw [alone_bind_error first]
            rfl
          | ok done =>
            have again : prepared.start ⟨absolute, whole, false, pointed⟩ = base := by
              rw [← here]
              unfold Disk.start
              rw [working]
            rw [alone_bind_ok first, alone_bind_ok rfl]
            dsimp only [makeDirectory, alone, Operation.perform]
            rw [again]
            cases made : prepared.makeDirectory pointed base whole with
            | ok made => rfl
            | error reason =>
              dsimp only
              rw [alone_settle refusal reason again]
              cases prepared.leadsToDirectory base whole <;> rfl
      | _ =>
        dsimp only
        rw [alone_settle refusal _ here]
        cases disk.leadsToDirectory base whole <;> rfl

theorem alone_makePath (refusal : FileError → Failure) (path : String) (disk : Disk) :
    (makePath refusal path).alone disk =
      (⟨[], (disk.makePath path).1.mapError refusal⟩, (disk.makePath path).2) := by
  unfold makePath Disk.makePath
  split
  · rfl
  · cases Path.route path with
    | error reason => rfl
    | ok route => exact alone_makeDirectories refusal route.absolute route.pointed _ rfl

theorem alone_makeParent (path : String) (disk : Disk) :
    (makeParent path).alone disk =
      (⟨[], (disk.makeParent path).1.mapError (.creating ((Path.parent? path).getD ""))⟩,
        (disk.makeParent path).2) := by
  unfold makeParent Disk.makeParent
  cases Path.parent? path with
  | none => rfl
  | some parent => exact alone_makePath (.creating parent) parent disk

theorem alone_writeText (path text : String) (disk : Disk) :
    (writeText path text).alone disk =
      match disk.write path (.text text) with
      | .error error => (⟨[], .error (.writing path error)⟩, disk)
      | .ok written => (⟨[], .ok ()⟩, written) := by
  unfold writeText Disk.write
  rw [alone_acted]
  dsimp only [Operation.perform]
  cases disk.opened path with
  | error reason => rfl
  | ok place =>
    exact congrArg (Prod.mk (Traced.mk [] (.ok ()))) (disk.put_put place _ _)

end Steps

/-! ### Plans -/

namespace Plan

theorem alone_writeSteps (plan : Plan) (disk : Disk) :
    plan.writeSteps.alone disk = (⟨[], (plan.write disk).1⟩, (plan.write disk).2) := by
  have made := Steps.alone_makeParent plan.path disk
  unfold writeSteps write
  cases ended : disk.makeParent plan.path with
  | mk outcome prepared =>
    rw [ended] at made
    cases outcome with
    | error reason => exact Steps.alone_bind_error made
    | ok done =>
      rw [Steps.alone_bind_ok made, Steps.alone_writeText]
      dsimp only
      cases prepared.write plan.path (.text (ofLines plan.lines)) <;> rfl

theorem alone_carryOutSteps (plan : Plan) (dryRun : Bool) (disk : Disk) :
    (plan.carryOutSteps dryRun).alone disk = plan.carryOut dryRun disk := by
  unfold carryOutSteps carryOut
  by_cases current : plan.current = some plan.lines
  · rw [if_pos current, if_pos current]
    rfl
  · rw [if_neg current, if_neg current]
    cases dryRun with
    | true => rfl
    | false =>
      rw [if_neg Bool.false_ne_true, if_neg Bool.false_ne_true]
      have written := plan.alone_writeSteps disk
      cases ended : plan.write disk with
      | mk outcome after =>
        rw [ended] at written
        cases outcome with
        | error failure => exact Steps.alone_bind_error written
        | ok done =>
          rw [Steps.alone_bind_ok written]
          rfl

end Plan

/-! ### Commands -/

namespace Workspace

variable (workspace : Workspace) (file : String)

theorem observes_sourceSteps :
    (workspace.sourceSteps file).Observes fun disk => .ofExcept (workspace.readSource disk file) :=
  fun _ => rfl

theorem observes_targetSteps :
    (workspace.targetSteps file).Observes fun disk => .ofExcept (workspace.readTarget disk file) :=
  fun _ => rfl

theorem observes_renderSteps (source : List String) :
    (workspace.renderSteps file source).Observes fun disk =>
      workspace.rendered disk file source := by
  refine ((Steps.observes_pass workspace.categories 1 [] source).andThen fun pass =>
    Steps.observes_ofExcept _).congr fun disk => ?_
  show Traced.mk (_ ++ []) _ = _
  rw [List.append_nil]
  rfl

theorem observes_mergeSteps (source edited : List String) :
    (workspace.mergeSteps file source edited).Observes fun disk =>
      workspace.merged disk file source edited := by
  have passes := Steps.observes_pass workspace.categories 1 [] source
  refine (passes.andThen fun first => (Steps.observes_ofExcept _).andThen fun canonical =>
    (Steps.observes_note _).andThen fun _ => passes.andThen fun second =>
      Steps.observes_ofExcept _).congr fun disk => ?_
  have render : ((workspace.setup disk).passFrom 1 [] source).rendered =
    (workspace.setup disk).render source := rfl
  unfold merged Setup.foldBack
  show Traced.andThen (Traced.mk _ (.ok ((workspace.setup disk).passFrom 1 [] source))) _ = _
  unfold Traced.andThen
  dsimp only
  rw [render]
  cases (workspace.setup disk).render source with
  | error error => rfl
  | ok canonical =>
    show Traced.mk (_ ++ ([FileNote.aligned, FileNote.foldingBack] ++ (_ ++ []))) _ = _
    rw [List.append_nil]
    rfl

theorem observes_planBuildSteps :
    (workspace.planBuildSteps file).Observes fun disk => workspace.planBuild disk file :=
  (workspace.observes_sourceSteps file).andThen fun source =>
    (workspace.observes_renderSteps file source).andThen fun _ =>
      (workspace.observes_targetSteps file).andThen fun _ => Steps.observes_pure _

theorem observes_planBackSteps :
    (workspace.planBackSteps file).Observes fun disk => workspace.planBack disk file := by
  refine (workspace.observes_sourceSteps file).andThen fun source =>
    (workspace.observes_targetSteps file).andThen fun current => ?_
  cases current with
  | none => exact Steps.observes_ofExcept _
  | some edited =>
    exact (workspace.observes_mergeSteps file source edited).andThen fun _ => Steps.observes_pure _

theorem observes_buildPreviewSteps :
    (workspace.buildPreviewSteps file).Observes fun disk => workspace.buildPreview disk file :=
  (workspace.observes_planBuildSteps file).andThen fun _ => Steps.observes_pure _

theorem observes_backPreviewSteps :
    (workspace.backPreviewSteps file).Observes fun disk => workspace.backPreview disk file :=
  (workspace.observes_planBackSteps file).andThen fun _ => Steps.observes_pure _

/-- Carrying out what the steps before have planned. -/
theorem alone_carryOut {planned : Steps Plan} {seen : Disk → Traced FileNote Failure Plan}
    (observes : planned.Observes seen) (disk : Disk) :
    (planned >>= fun plan => plan.carryOutSteps workspace.dryRun).alone disk =
      workspace.carryOut (seen disk) disk := by
  have here := observes disk
  unfold carryOut
  cases sight : seen disk with
  | mk notes outcome =>
    rw [sight] at here
    cases outcome with
    | error failure => exact Steps.alone_bind_error here
    | ok plan =>
      rw [Steps.alone_bind_ok here, Plan.alone_carryOutSteps]

/-- The steps of a build, carried out at one go, are the build. -/
theorem alone_buildSteps (disk : Disk) :
    (workspace.buildSteps file).alone disk = workspace.build disk file :=
  workspace.alone_carryOut (workspace.observes_planBuildSteps file) disk

/-- The steps in which edits are folded back, carried out at one go, fold them back. -/
theorem alone_backSteps (disk : Disk) :
    (workspace.backSteps file).alone disk = workspace.back disk file :=
  workspace.alone_carryOut (workspace.observes_planBackSteps file) disk

/-- One build after the other, at one go. -/
theorem process_sequential (disk : Disk) (files : List String) :
    Batch.process .sequential workspace.buildSteps disk files =
      Batch.run workspace.build disk files := by
  refine congrArg (Batch.run · disk files) (funext fun disk => funext fun file => ?_)
  exact workspace.alone_buildSteps file disk

end Workspace

/-! ### Steps that only read -/

namespace Steps

theorem onlyReads_note (notes : List FileNote) : (note notes).OnlyReads := by
  induction notes with
  | nil => trivial
  | cons first rest inductionHypothesis => exact inductionHypothesis

theorem onlyReads_reading {value : Type} (path : String) (view : String → value) :
    (reading path view).OnlyReads := ⟨fun _ => rfl, fun _ => trivial⟩

theorem onlyReads_readFor (text : String) : (readFor text).OnlyReads := by
  unfold readFor
  split
  · trivial
  next path reads => exact (onlyReads_reading path firstLineOf).andThen fun _ => trivial

theorem onlyReads_pass (categories : Categories) (line : Nat) (stack : BlockStack)
    (source : List String) : (pass categories line stack source).OnlyReads := by
  induction source generalizing line stack with
  | nil => exact (onlyReads_note _).andThen fun _ => trivial
  | cons text rest inductionHypothesis =>
    refine (onlyReads_readFor text).andThen fun firstLine => (onlyReads_note _).andThen fun _ => ?_
    split
    · trivial
    next output next moved =>
      exact (inductionHypothesis (line + 1) next).andThen fun _ => trivial

end Steps

namespace Workspace

variable (workspace : Workspace) (file : String)

theorem onlyReads_sourceSteps : (workspace.sourceSteps file).OnlyReads :=
  (Steps.onlyReads_reading _ _).andThen fun _ => trivial

theorem onlyReads_targetSteps : (workspace.targetSteps file).OnlyReads :=
  (Steps.onlyReads_reading _ _).andThen fun _ => trivial

theorem onlyReads_renderSteps (source : List String) :
    (workspace.renderSteps file source).OnlyReads :=
  (Steps.onlyReads_pass _ _ _ _).andThen fun _ => trivial

theorem onlyReads_planBuildSteps : (workspace.planBuildSteps file).OnlyReads :=
  (workspace.onlyReads_sourceSteps file).andThen fun source =>
    (workspace.onlyReads_renderSteps file source).andThen fun _ =>
      (workspace.onlyReads_targetSteps file).andThen fun _ => trivial

theorem onlyReads_planBackSteps : (workspace.planBackSteps file).OnlyReads := by
  refine (workspace.onlyReads_sourceSteps file).andThen fun source =>
    (workspace.onlyReads_targetSteps file).andThen fun current => ?_
  cases current with
  | none => trivial
  | some edited =>
    have pass := Steps.onlyReads_pass workspace.categories 1 [] source
    have merge : (workspace.mergeSteps file source edited).OnlyReads :=
      pass.andThen fun first => Steps.OnlyReads.andThen trivial fun canonical =>
        (Steps.onlyReads_note _).andThen fun _ => pass.andThen fun _ => trivial
    exact merge.andThen fun _ => trivial

theorem onlyReads_buildPreviewSteps : (workspace.buildPreviewSteps file).OnlyReads :=
  (workspace.onlyReads_planBuildSteps file).andThen fun _ => trivial

theorem onlyReads_backPreviewSteps : (workspace.backPreviewSteps file).OnlyReads :=
  (workspace.onlyReads_planBackSteps file).andThen fun _ => trivial

/-- A plan is not carried out in a dry run. -/
theorem onlyReads_carryOutSteps_dry (plan : Plan) : (plan.carryOutSteps true).OnlyReads := by
  unfold Plan.carryOutSteps
  split <;> exact (Steps.onlyReads_note _).andThen fun _ => trivial

theorem onlyReads_buildSteps_dry (dry : workspace.dryRun = true) :
    (workspace.buildSteps file).OnlyReads :=
  (workspace.onlyReads_planBuildSteps file).andThen fun plan => by
    rw [dry]
    exact onlyReads_carryOutSteps_dry plan

theorem onlyReads_backSteps_dry (dry : workspace.dryRun = true) :
    (workspace.backSteps file).OnlyReads :=
  (workspace.onlyReads_planBackSteps file).andThen fun plan => by
    rw [dry]
    exact onlyReads_carryOutSteps_dry plan

end Workspace

end Foldback
