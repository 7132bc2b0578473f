/-
A build beside others. Whatever the others have done before each of its steps, the
disk has grown by what they leave, and the build reads and writes elsewhere. Then it
ends as it would have ended alone, and changes the same. Only the reason for which it
fails may be another one: a name that is too long is reported when a directory is to
be made or already when the file is read, as the directories before it are missing or
not; and where another build has made a directory, there is one to be found instead
of nothing.

What the others do is bounded by their aims, so the steps of a build are followed one
by one on any disk that has grown towards these.
-/

import Foldback.Proofs.Workspace.Alone
import Foldback.Proofs.Workspace.Containment
import Foldback.Proofs.Workspace.Laying

namespace Foldback

open Text

/-! ### Outcomes that are alike -/

/-- The same outcome, or a failure in either case if something hinders. -/
def Resembles {error value : Type} (hindered : Prop) (before after : Except error value) : Prop :=
  after = before ∨
    (∃ reason, before = .error reason) ∧ (∃ reason, after = .error reason) ∧ hindered

namespace Resembles

variable {error other value result : Type} {hindered : Prop} {before after : Except error value}

theorem of_ok {given : value} (alike : Resembles hindered before (.ok given)) :
    before = .ok given := by
  rcases alike with same | ⟨-, ⟨reason, failed⟩, -⟩
  · exact same.symm
  · cases failed

theorem exists_error {reason : error} (alike : Resembles hindered before (.error reason)) :
    ∃ first, before = .error first := by
  rcases alike with same | ⟨failed, -⟩
  · exact ⟨reason, same.symm⟩
  · exact failed

theorem toOption (alike : Resembles hindered before after) : after.toOption = before.toOption := by
  rcases alike with rfl | ⟨⟨first, rfl⟩, ⟨second, rfl⟩, -⟩
  · rfl
  · rfl

theorem mapError (alike : Resembles hindered before after) (convert : error → other) :
    Resembles hindered (before.mapError convert) (after.mapError convert) := by
  rcases alike with rfl | ⟨⟨first, rfl⟩, ⟨second, rfl⟩, hinders⟩
  · exact .inl rfl
  · exact .inr ⟨⟨_, rfl⟩, ⟨_, rfl⟩, hinders⟩

/-- A failure stays one when it was to be gone on. -/
theorem bind {reason : error} (alike : Resembles hindered before (.error reason))
    (next : value → Except error result) :
    Resembles hindered (before.bind next) (.error reason) := by
  rcases alike with rfl | ⟨⟨first, rfl⟩, -, hinders⟩
  · exact .inl rfl
  · exact .inr ⟨⟨first, rfl⟩, ⟨reason, rfl⟩, hinders⟩

end Resembles

namespace Workspace

open Disk

variable {workspace : Workspace} {aims : Location → Prop} {disk middle later : Disk} {file : String}

/-! ### What a build touches -/

/-- A build of the file reads or writes the path. -/
def Touches (workspace : Workspace) (disk : Disk) (file path : String) : Prop :=
  path = workspace.sourcePath file ∨ path = workspace.targetPath file ∨
    ∃ source, workspace.readSource disk file = .ok source ∧ Directive.ReadsFile source path

/-- The aims of others are beside a build: at no path that the build touches and at no place
before one, and not below the file that it writes. -/
structure Beside (workspace : Workspace) (aims : Location → Prop) (disk : Disk) (file : String) :
    Prop where
  tree : disk.IsTree
  plain : ∀ path, workspace.Touches disk file path → Path.Plain path
  clear : ∀ path, workspace.Touches disk file path → ∀ place aim,
    disk.destination path = .ok place → aims aim → ¬aim <+: place
  beyond : ∀ place aim, disk.destination (workspace.targetPath file) = .ok place → aims aim →
    ¬place <+: aim

/-- What a build touches has no name that is too long, and is no directory on the way to an aim. -/
def Unhindered (workspace : Workspace) (aims : Location → Prop) (disk : Disk) (file : String) :
    Prop :=
  ∀ path, workspace.Touches disk file path → ¬Path.Overlong path ∧ ¬Passed aims disk path

theorem touches_source : workspace.Touches disk file (workspace.sourcePath file) := .inl rfl

theorem touches_target : workspace.Touches disk file (workspace.targetPath file) := .inr (.inl rfl)

theorem touches_read {source : List String} {path : String}
    (read : workspace.readSource disk file = .ok source) (reads : Directive.ReadsFile source path) :
    workspace.Touches disk file path := .inr (.inr ⟨source, read, reads⟩)

theorem planBuild_outcome (workspace : Workspace) (disk : Disk) (file : String) :
    (workspace.planBuild disk file).outcome =
      (workspace.readSource disk file).bind fun source =>
        (((workspace.setup disk).render source).mapError
            (.rendering (workspace.sourcePath file))).bind fun lines =>
          (workspace.readTarget disk file).map fun current =>
            ⟨workspace.targetPath file, current, lines⟩ := by
  unfold planBuild rendered
  simp only [Traced.outcome_bind, Traced.outcome_ofExcept, Traced.outcome_pure]
  rfl

namespace Beside

section Views

variable (beside : workspace.Beside aims disk file) (grown : Grown aims disk later)
include beside grown

theorem read {path : String} (touched : workspace.Touches disk file path) :
    Reread (Path.Overlong path) (Passed aims disk path) (disk.read path) (later.read path) :=
  grown.read beside.tree (beside.plain path touched) (beside.clear path touched)

/-- A view of a path that the build touches is the same, or there is none on either disk. -/
theorem view {value : Type} {path : String} (touched : workspace.Touches disk file path)
    (view : String → value) :
    Resembles (¬workspace.Unhindered aims disk file) ((disk.read path).map view)
      ((later.read path).map view) := by
  cases (beside.read grown touched).map view with
  | same same => exact .inl same
  | overlong missed long refused =>
    exact .inr ⟨⟨_, missed⟩, ⟨_, refused⟩, fun unhindered => (unhindered path touched).1 long⟩
  | directory missed way refused =>
    exact .inr ⟨⟨_, missed⟩, ⟨_, refused⟩, fun unhindered => (unhindered path touched).2 way⟩

end Views

end Beside

/-! ### Passes beside others -/

theorem steady_grown (aims : Location → Prop) : Steps.Steady (Grown aims) :=
  ⟨.refl aims, .trans⟩

/-- The same pass, or an error in either case if something hinders. -/
def SamePass (hindered : Prop) (before after : Pass) : Prop :=
  after = before ∨ (∃ error, before.ending = .error error) ∧
    (∃ error, after.ending = .error error) ∧ hindered

theorem SamePass.rendered {hindered : Prop} {before after : Pass}
    (alike : SamePass hindered before after) :
    Resembles hindered before.rendered after.rendered := by
  rcases alike with rfl | ⟨⟨first, broken⟩, ⟨second, brokenToo⟩, hinders⟩
  · exact .inl rfl
  · refine .inr ⟨⟨first, ?_⟩, ⟨second, ?_⟩, hinders⟩
    · rw [Pass.rendered, broken]
    · rw [Pass.rendered, brokenToo]

/-- What a line needs to know of the files is found: enough for the step that it takes on the
earlier disk, or the line fails whether it is read on this disk or on the earlier one. -/
def Knows (hindered : Prop) (categories : Categories) (disk : Disk) (text : String)
    (firstLine : String → Except FileError String) : Prop :=
  ∀ line stack,
    (Setup.builtin categories firstLine).step line stack text =
        (Setup.builtin categories disk.firstLine).step line stack text ∨
      (∃ error, (Setup.builtin categories disk.firstLine).advance line stack text = .error error) ∧
        (∃ error, (Setup.builtin categories firstLine).advance line stack text = .error error) ∧
          hindered

section Planning

variable {does : Disk → Disk → Prop} {hindered : Prop} (nothing : ∀ disk, does disk disk)
  (categories : Categories) {source : List String} {text : String}
include nothing

theorem safe_readFor (grown : Grown aims disk middle)
    (view : ∀ path, Directive.fileRead? text = some path → ∀ later, Grown aims disk later →
      Resembles hindered (disk.firstLine path) (later.firstLine path)) :
    (Steps.readFor text).Safe (Grown aims) does (fun outcome later => Grown aims disk later ∧
      ∃ firstLine, outcome = .ok firstLine ∧ Knows hindered categories disk text firstLine)
        middle := by
  unfold Steps.readFor
  cases reads : Directive.fileRead? text with
  | none =>
    refine fun later met => ⟨grown.trans met, _, rfl, fun line stack => .inl ?_⟩
    exact Setup.step_congr categories (fun path same => nomatch reads.symm.trans same) line stack
  | some path =>
    refine fun later met => ⟨nothing later, fun last further => ⟨(grown.trans met).trans further,
      fun _ => later.firstLine path, rfl, fun line stack => ?_⟩⟩
    rcases view path reads later (grown.trans met) with
      same | ⟨⟨first, missed⟩, ⟨second, refused⟩, hinders⟩
    · refine .inl (Setup.step_congr categories ?_ line stack)
      intro other again
      cases reads.symm.trans again
      exact same
    · have fails (reader : String → Except FileError String) {reason : FileError}
          (unread : reader path = .error reason) :
          ∃ error, (Setup.builtin categories reader).advance line stack text = .error error :=
        ⟨_, Setup.advance_of_unread reads unread line stack⟩
      exact .inr ⟨fails disk.firstLine missed,
        fails (fun _ => later.firstLine path) refused, hinders⟩

/-- A pass over lines, whatever goes on elsewhere. -/
theorem safe_pass (grown : Grown aims disk middle)
    (view : ∀ path, Directive.ReadsFile source path → ∀ later, Grown aims disk later →
      Resembles hindered (disk.firstLine path) (later.firstLine path))
    (line : Nat) (stack : BlockStack) :
    (Steps.pass categories line stack source).Safe (Grown aims) does (fun outcome later =>
      Grown aims disk later ∧ ∃ pass, outcome = .ok pass ∧ SamePass hindered
        ((Setup.builtin categories disk.firstLine).passFrom line stack source) pass) middle := by
  induction source generalizing middle line stack with
  | nil =>
    rw [Steps.pass, Setup.passFrom]
    refine Steps.Safe.note ?_ _
    exact fun later met => ⟨grown.trans met, _, rfl, .inl rfl⟩
  | cons text rest inductionHypothesis =>
    rw [Steps.pass]
    refine (safe_readFor nothing categories grown fun path reads =>
      view path (Directive.readsFile_iff.mpr ⟨text, List.mem_cons_self, reads⟩)).andThen
        (steady_grown aims) ?_ ?_
    · rintro failure later ⟨-, known, ended, -⟩
      cases ended
    rintro firstLine later ⟨grown, known, same, knows⟩
    cases same
    refine Steps.Safe.note ?_ _
    rcases knows line stack with same | ⟨⟨first, broken⟩, ⟨second, brokenToo⟩, hinders⟩
    · rw [same, Setup.passFrom]
      cases ((Setup.builtin categories disk.firstLine).step line stack text).outcome with
      | error error => exact fun last further => ⟨grown.trans further, _, rfl, .inl rfl⟩
      | ok moved =>
        obtain ⟨output, next⟩ := moved
        refine (inductionHypothesis grown (fun path reads => view path ?_) (line + 1) next).andThen
          (steady_grown aims) ?_ ?_
        · obtain ⟨other, member, same⟩ := Directive.readsFile_iff.mp reads
          exact Directive.readsFile_iff.mpr ⟨other, List.mem_cons_of_mem text member, same⟩
        · rintro failure later ⟨-, pass, ended, -⟩
          cases ended
        · rintro pass later ⟨grown, given, same, alike⟩
          cases same
          refine fun last further => ⟨grown.trans further, _, rfl, ?_⟩
          exact alike.imp (fun same => by rw [same]) id
    · rw [Setup.outcome_step, brokenToo, Setup.passFrom_cons_error broken]
      exact fun last further => ⟨grown.trans further, _, rfl, .inr ⟨⟨_, rfl⟩, ⟨_, rfl⟩, hinders⟩⟩

end Planning

/-! ### Planning beside others -/

/-- What is planned among others: the same; or the build fails without a plan in either case; or
the file cannot be looked for any more, as a name of its path is too long. -/
inductive Replanned (workspace : Workspace) (aims : Location → Prop) (disk : Disk) (file : String)
    (outcome : Except Failure Plan) (later : Disk) : Prop
  | alike (alike : Resembles (¬workspace.Unhindered aims disk file)
      (workspace.planBuild disk file).outcome outcome)
  | overlong {plan : Plan} {failure : Failure} {earlier : Disk}
    (planned : (workspace.planBuild disk file).outcome = .ok plan)
    (missing : plan.current = none) (refused : outcome = .error failure)
    (long : Path.Overlong (workspace.targetPath file))
    (stopped : earlier.read (workspace.targetPath file) = .error .nameTooLong)
    (grown : Grown aims disk earlier) (grownSince : Grown aims earlier later)

theorem Replanned.stays {outcome : Except Failure Plan}
    (replanned : Replanned workspace aims disk file outcome middle)
    (grown : Grown aims middle later) : Replanned workspace aims disk file outcome later := by
  cases replanned with
  | alike alike => exact .alike alike
  | overlong planned missing refused long stopped before since =>
    exact .overlong planned missing refused long stopped before (since.trans grown)

section Build

variable {does : Disk → Disk → Prop} (nothing : ∀ disk, does disk disk)
  (beside : workspace.Beside aims disk file) (grown : Grown aims disk middle)
include nothing beside grown

theorem safe_sourceSteps :
    (workspace.sourceSteps file).Safe (Grown aims) does (fun outcome later =>
      Grown aims disk later ∧ Resembles (¬workspace.Unhindered aims disk file)
        (workspace.readSource disk file) outcome) middle :=
  fun later met => ⟨nothing later, fun _ further => ⟨(grown.trans met).trans further,
    (beside.view (grown.trans met) touches_source linesOf).mapError _⟩⟩

theorem safe_renderSteps {source : List String}
    (read : workspace.readSource disk file = .ok source) :
    (workspace.renderSteps file source).Safe (Grown aims) does (fun outcome later =>
      Grown aims disk later ∧ Resembles (¬workspace.Unhindered aims disk file)
        (((workspace.setup disk).render source).mapError (.rendering (workspace.sourcePath file)))
        outcome) middle := by
  refine (safe_pass nothing workspace.categories grown (fun path reads later grown =>
    beside.view grown (touches_read read reads) firstLineOf) 1 []).andThen (steady_grown aims) ?_ ?_
  · rintro failure later ⟨-, pass, ended, -⟩
    cases ended
  · rintro pass later ⟨grown, given, same, alike⟩
    cases same
    exact fun last further => ⟨grown.trans further, alike.rendered.mapError _⟩

theorem safe_targetSteps {source lines : List String}
    (read : workspace.readSource disk file = .ok source)
    (rendered : (workspace.setup disk).render source = .ok lines) :
    (workspace.targetSteps file).Safe (Grown aims) does (fun outcome later =>
      Grown aims disk later ∧ Replanned workspace aims disk file
        (outcome.map fun current => ⟨workspace.targetPath file, current, lines⟩) later) middle := by
  have plan := workspace.planBuild_outcome disk file
  rw [read] at plan
  dsimp only [Except.bind] at plan
  rw [rendered] at plan
  dsimp only [Except.mapError, Except.bind] at plan
  refine fun later met => ⟨nothing later, fun last further => ⟨(grown.trans met).trans further, ?_⟩⟩
  show Replanned workspace aims disk file ((workspace.readTarget later file).map _) last
  cases beside.read (grown.trans met) touches_target with
  | same same =>
    have lines : later.readLines (workspace.targetPath file) =
      disk.readLines (workspace.targetPath file) := congrArg (Except.map linesOf) same
    refine .alike (.inl ?_)
    rw [plan]
    unfold readTarget
    rw [lines]
  | overlong missed long refused =>
    have first : disk.readLines (workspace.targetPath file) = .error .notFound :=
      congrArg (Except.map linesOf) missed
    have again : later.readLines (workspace.targetPath file) = .error .nameTooLong :=
      congrArg (Except.map linesOf) refused
    unfold readTarget at plan ⊢
    rw [first] at plan
    rw [again]
    exact .overlong plan rfl rfl long refused (grown.trans met) further
  | directory missed way refused =>
    obtain ⟨place, aim, led, aimed, start⟩ := way
    exact absurd start (beside.beyond place aim led aimed)

theorem safe_planBuildSteps :
    (workspace.planBuildSteps file).Safe (Grown aims) does (fun outcome later =>
      Grown aims disk later ∧ Replanned workspace aims disk file outcome later) middle := by
  have plan := workspace.planBuild_outcome disk file
  refine (safe_sourceSteps nothing beside grown).andThen (steady_grown aims) ?_ ?_
  · rintro failure later ⟨grown, alike⟩
    exact ⟨grown, .alike (plan ▸ alike.bind _)⟩
  · rintro source later ⟨grown, alike⟩
    have read := alike.of_ok
    refine (safe_renderSteps nothing beside grown read).andThen (steady_grown aims) ?_ ?_
    · rintro failure later ⟨grown, alike⟩
      rw [read] at plan
      exact ⟨grown, .alike (plan ▸ alike.bind _)⟩
    · rintro lines later ⟨grown, alike⟩
      refine (safe_targetSteps nothing beside grown read (mapError_eq_ok.mp alike.of_ok)).andThen
        (steady_grown aims) (fun failure later ends => ends) ?_
      rintro current later ⟨grown, replanned⟩
      exact fun last further => ⟨grown.trans further, replanned.stays further⟩

end Build

/-! ### The build -/

/-- How a build ends among others: as it ends alone, but for the reason of a failure if something
hinders. What it changes alone is there, and so is its file if it was written. -/
structure EndsAmong (workspace : Workspace) (aims : Location → Prop) (disk : Disk) (file : String)
    (outcome : Except Failure Status) (later : Disk) : Prop where
  alike : Resembles (¬workspace.Unhindered aims disk file)
    (workspace.build disk file).1.outcome outcome
  changed : ∀ place, (workspace.build disk file).2.node? place ≠ disk.node? place →
    later.node? place = (workspace.build disk file).2.node? place
  written : (workspace.build disk file).1.outcome = .ok .written → ∀ place,
    disk.destination (workspace.targetPath file) = .ok place →
      later.node? place = (workspace.build disk file).2.node? place

/-- What a build does among others: it makes directories that it makes alone as well, and it fills
its file if it writes it alone as well. -/
structure Contributes (workspace : Workspace) (disk : Disk) (file : String) (before after : Disk) :
    Prop where
  working : after.working = before.working
  changed : ∀ place, after.node? place ≠ before.node? place →
    (workspace.build disk file).1.outcome = .ok .written ∧
        disk.destination (workspace.targetPath file) = .ok place ∨
      before.node? place = none ∧ after.node? place = some .directory ∧
        (workspace.build disk file).2.node? place = some .directory ∧
          ∃ aim, disk.destination (workspace.targetPath file) = .ok aim ∧ place <+: aim

theorem Contributes.refl (workspace : Workspace) (disk : Disk) (file : String) (before : Disk) :
    workspace.Contributes disk file before before :=
  ⟨rfl, fun _ different => absurd rfl different⟩

/-- A build that changes nothing alone, and changed nothing here. -/
theorem endsAmong_of_still {outcome : Except Failure Status}
    (alike : Resembles (¬workspace.Unhindered aims disk file)
      (workspace.build disk file).1.outcome outcome)
    (unwritten : (workspace.build disk file).1.outcome ≠ .ok .written)
    (still : (workspace.build disk file).2 = disk) :
    workspace.EndsAmong aims disk file outcome later := by
  exact ⟨alike, fun place different => absurd (by rw [still]) different,
    fun written => absurd written unwritten⟩

section Writing

variable {plan : Plan} {route : Path.Route} (wet : workspace.dryRun = false)
  (planned : (workspace.planBuild disk file).outcome = .ok plan)
  (other : plan.current ≠ some plan.lines) (site : disk.Site plan.path route)
include wet planned other site

/-- A build that writes its plan. -/
theorem build_of_site :
    (workspace.build disk file).1.outcome = (plan.comesTo route).map (fun _ => Status.written) ∧
      plan.Laid route disk (workspace.build disk file).2 ∧
        disk.destination (workspace.targetPath file) = .ok (disk.start route ++ route.names) := by
  have ends := workspace.ends_build disk file
  rw [planned] at ends
  obtain ⟨outcome, left⟩ := ends.of_other other wet
  obtain ⟨written, laid⟩ := Plan.write_of_site site
  refine ⟨written ▸ outcome, left ▸ laid, ?_⟩
  rw [← (outcome_planBuild planned).2.2]
  exact destination_plain site.plain site.routed

theorem endsAmong_of_present (present : plan.Present route (disk.start route) later)
    {outcome : Except Failure Status}
    (alike : Resembles (¬workspace.Unhindered aims disk file)
      ((plan.comesTo route).map fun _ => Status.written) outcome) :
    workspace.EndsAmong aims disk file outcome later := by
  obtain ⟨alone, laid, destination⟩ := build_of_site wet planned other site
  rw [← alone] at alike
  refine ⟨alike, fun place => laid.node?_of_present present, fun written place led => ?_⟩
  cases destination.symm.trans led
  rw [alone] at written
  obtain ⟨done, comes, -⟩ := exists_of_map_eq_ok written
  rw [present.file comes, laid.file comes]

/-- What is done to write the plan. -/
theorem contributes_of_staging {before after : Disk}
    (staging : Staging (disk.start route) route.names.dropLast before after) :
    workspace.Contributes disk file before after := by
  obtain ⟨-, laid, destination⟩ := build_of_site wet planned other site
  refine ⟨staging.working, fun place different => ?_⟩
  obtain ⟨stage, missing, made⟩ := staging.changed place different
  have there := laid.staged place stage
  obtain ⟨passed, start, -, rfl⟩ := stage
  exact .inr ⟨missing, made, there, _, destination,
    (List.prefix_append_right_inj _).mpr (start.trans (List.dropLast_prefix _))⟩

theorem contributes_of_put {before : Disk} {node : Node} (done : plan.comesTo route = .ok ()) :
    workspace.Contributes disk file before
      (before.put (disk.start route ++ route.names) node) := by
  obtain ⟨alone, -, destination⟩ := build_of_site wet planned other site
  refine ⟨rfl, fun place different => .inl ⟨by rw [alone, done]; rfl, ?_⟩⟩
  have same : place = disk.start route ++ route.names := by
    by_contra elsewhere
    exact different (node?_put_other _ _ elsewhere)
  rw [same, destination]

/-- Writing the plan is safe among others that spare the file. -/
theorem safe_written (grown : Grown aims disk middle)
    (spares : ∀ before after, Grown aims before after →
      Spares (disk.start route) route.names before after) :
    (plan.carryOutSteps workspace.dryRun).Safe (Grown aims) (workspace.Contributes disk file)
      (workspace.EndsAmong aims disk file) middle := by
  have steady := steady_grown aims
  have start : middle.start route = disk.start route := (spares _ _ grown).start route
  have stages : ∀ before after, Staging (disk.start route) route.names.dropLast before after →
      workspace.Contributes disk file before after :=
    fun _ _ => contributes_of_staging wet planned other site
  have fills : ∀ before content, plan.comesTo route = .ok () →
      workspace.Contributes disk file before
        (before.put (disk.start route ++ route.names) (.file content)) :=
    fun _ _ => contributes_of_put wet planned other site
  have written := Plan.safe_writeSteps (start ▸ spares) (start ▸ stages) steady (start ▸ fills)
    (site.stands (spares _ _ grown))
  rw [start] at written
  unfold Plan.carryOutSteps
  rw [if_neg other, wet, if_neg Bool.false_ne_true]
  refine written.andThen steady ?_ ?_
  · rintro failure last ⟨comes, present⟩
    refine endsAmong_of_present wet planned other site present (.inl ?_)
    rw [← comes]
    rfl
  · rintro done last ⟨comes, present⟩
    refine Steps.Safe.note ?_ _
    refine fun final met => endsAmong_of_present wet planned other site
      (present.stays (spares _ _ met)) (.inl ?_)
    rw [← comes]
    rfl

end Writing

/-- A plan for an empty path is not written, among others or alone. -/
theorem safe_nowhere {plan : Plan} (wet : workspace.dryRun = false)
    (planned : (workspace.planBuild disk file).outcome = .ok plan)
    (other : plan.current ≠ some plan.lines) (nowhere : plan.path = "") :
    (plan.carryOutSteps workspace.dryRun).Safe (Grown aims) (workspace.Contributes disk file)
      (workspace.EndsAmong aims disk file) middle := by
  have ends := workspace.ends_build disk file
  rw [planned] at ends
  obtain ⟨outcome, left⟩ := ends.of_other other wet
  rw [Plan.write_nowhere nowhere] at outcome left
  have unwritten : plan.writeSteps.Safe (Grown aims) (workspace.Contributes disk file)
      (fun outcome _ => outcome = .error (.writing "" .notFound)) middle :=
    Plan.safe_writeSteps_nowhere (Contributes.refl workspace disk file) nowhere fun _ => rfl
  unfold Plan.carryOutSteps
  rw [if_neg other, wet, if_neg Bool.false_ne_true]
  refine unwritten.andThen (steady_grown aims) ?_ ?_
  · rintro failure later same
    cases same
    exact endsAmong_of_still (.inl outcome.symm) (ne_ok_of_eq_error outcome) left
  · rintro done later same
    cases same

section Among

variable (beside : workspace.Beside aims disk file)
include beside

/-- Nothing is in the way of the rendered file, and what others do spares it; or its path is
empty. -/
theorem Beside.site {current : Option (List String)}
    (target : workspace.readTarget disk file = .ok current) :
    workspace.targetPath file = "" ∨ ∃ route, disk.Site (workspace.targetPath file) route ∧
      ∀ before after, Grown aims before after →
        Spares (disk.start route) route.names before after := by
  have plain := beside.plain _ touches_target
  have lines : (∃ lines, disk.readLines (workspace.targetPath file) = .ok lines) ∨
      disk.readLines (workspace.targetPath file) = .error .notFound := by
    have read := readLines_of_readTarget target
    cases current with
    | none => exact .inr read
    | some held => exact .inl ⟨held, read⟩
  refine (route_of_readLines lines).imp_right fun ⟨route, routed⟩ => ?_
  have destination : disk.destination (workspace.targetPath file) = .ok _ :=
    destination_plain plain routed
  exact ⟨route, site_of_readLines beside.tree plain routed lines, fun before after grown =>
    grown.spares (fun aim => beside.clear _ touches_target _ aim destination)
      fun aim => beside.beyond _ aim destination⟩

variable (wet : workspace.dryRun = false)
include wet

/-- A build that ends without a plan. -/
theorem endsAmong_of_error {failure : Failure}
    (replanned : Replanned workspace aims disk file (.error failure) later) :
    workspace.EndsAmong aims disk file (.error failure) later := by
  have ends := workspace.ends_build disk file
  cases replanned with
  | alike alike =>
    obtain ⟨first, failed⟩ := alike.exists_error
    rw [failed] at ends alike
    obtain ⟨outcome, left⟩ := ends.of_error
    refine endsAmong_of_still ?_ (ne_ok_of_eq_error outcome) left
    rw [outcome]
    exact alike.imp (fun same => congrArg Except.error (Except.error.inj same))
      fun ⟨_, _, hinders⟩ => ⟨⟨_, rfl⟩, ⟨_, rfl⟩, hinders⟩
  | @overlong plan _ _ planned missing _ long stopped grown since =>
    obtain ⟨-, target, path⟩ := outcome_planBuild planned
    rcases beside.site target with nowhere | ⟨route, site, spares⟩
    · rw [nowhere] at long
      exact absurd long (by decide +kernel)
    · have fails : plan.comesTo route ≠ .ok () := Plan.comesTo_of_long (long.names site.routed)
      have staged := staged_of_read site.plain site.routed stopped
      rw [(spares _ _ grown).start] at staged
      have present : plan.Present route (disk.start route) later :=
        ⟨(spares _ _ since).staged List.prefix_rfl staged, fun done => absurd done fails⟩
      refine endsAmong_of_present wet planned (by simp [missing]) (path ▸ site) present (.inr ?_)
      refine ⟨?_, ⟨failure, rfl⟩, fun unhindered => (unhindered _ touches_target).1 long⟩
      cases comes : plan.comesTo route with
      | error reason => exact ⟨reason, rfl⟩
      | ok done => exact absurd comes fails

/-- The steps of a build are safe among others that aim elsewhere. -/
theorem safe_buildSteps (grown : Grown aims disk middle) :
    (workspace.buildSteps file).Safe (Grown aims) (workspace.Contributes disk file)
      (workspace.EndsAmong aims disk file) middle := by
  refine (safe_planBuildSteps (Contributes.refl workspace disk file) beside grown).andThen
    (steady_grown aims) (fun failure later ends => endsAmong_of_error beside wet ends.2) ?_
  rintro plan later ⟨grown, replanned⟩
  have planned : (workspace.planBuild disk file).outcome = .ok plan := by
    cases replanned with
    | alike alike => exact alike.of_ok
    | overlong _ _ refused => cases refused
  by_cases current : plan.current = some plan.lines
  · have ends := workspace.ends_build disk file
    rw [planned] at ends
    obtain ⟨outcome, left⟩ := ends.of_current current
    have unwritten : (workspace.build disk file).1.outcome ≠ .ok .written :=
      outcome ▸ fun same => nomatch same
    unfold Plan.carryOutSteps
    rw [if_pos current]
    refine Steps.Safe.note ?_ _
    exact fun last met => endsAmong_of_still (.inl outcome.symm) unwritten left
  · obtain ⟨-, target, path⟩ := outcome_planBuild planned
    rcases beside.site target with nowhere | ⟨route, site, spares⟩
    · exact safe_nowhere wet planned current (path.trans nowhere)
    · exact safe_written wet planned current (path ▸ site) grown spares

end Among

end Workspace

end Foldback
