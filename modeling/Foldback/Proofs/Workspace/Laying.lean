/-
What writing a plan leaves. Where nothing is in the way of the file, the outcome is
settled by the path alone, and so is what stands on the disk afterwards: directories
as far as the way can be made, and the file if it can be written.

The same holds if others go on between the steps, as long as they spare the file: all
that they may do for it is to make directories on its way. So directories are made
one by one with an outcome known from the start, whoever makes them, and then the file
is there for no one else.
-/

import Foldback.Proofs.Disk.Site
import Foldback.Proofs.Workspace.Interference
import Foldback.Proofs.Workspace.Plans

namespace Foldback

open Text

namespace Plan

open Disk

variable {plan : Plan} {route : Path.Route} {disk prepared : Disk}

/-- What writing comes to where nothing is in the way. -/
def comesTo (plan : Plan) (route : Path.Route) : Except Failure Unit :=
  match Path.reach route.names.dropLast with
  | .error error => .error (.creating ((Path.parent? plan.path).getD "") error)
  | .ok () =>
    if route.directory then .error (.writing plan.path .isDirectory)
    else (Path.reach route.names).mapError (.writing plan.path)

theorem comesTo_of_reached (reached : Path.reach route.names.dropLast = .ok ()) :
    plan.comesTo route = if route.directory then .error (.writing plan.path .isDirectory)
      else (Path.reach route.names).mapError (.writing plan.path) := by
  unfold comesTo
  rw [reached]

theorem comesTo_of_refused {error : FileError}
    (refused : Path.reach route.names.dropLast = .error error) :
    plan.comesTo route = .error (.creating ((Path.parent? plan.path).getD "") error) := by
  unfold comesTo
  rw [refused]

/-- What writing leaves where nothing is in the way: directories at all stages of the way, and
the file if it can be written. -/
structure Laid (plan : Plan) (route : Path.Route) (before after : Disk) : Prop where
  working : after.working = before.working
  staged : after.Staged (before.start route) route.names.dropLast
  file : plan.comesTo route = .ok () →
    after.node? (before.start route ++ route.names) = some (.file (.text (ofLines plan.lines)))
  other : ∀ place, ¬Stage (before.start route) route.names.dropLast place →
    (plan.comesTo route = .ok () → place ≠ before.start route ++ route.names) →
      after.node? place = before.node? place

namespace Laid

/-- Only directories were made. -/
theorem of_made (made : Made (disk.start route) route.names.dropLast disk prepared)
    (fails : plan.comesTo route ≠ .ok ()) : plan.Laid route disk prepared :=
  ⟨made.working, made.staged, fun done => absurd done fails,
    fun place off _ => made.other place off⟩

/-- The file was written as well. -/
theorem of_put (made : Made (disk.start route) route.names.dropLast disk prepared)
    (named : route.names ≠ []) (done : plan.comesTo route = .ok ()) :
    plan.Laid route disk (prepared.put (disk.start route ++ route.names)
      (.file (.text (ofLines plan.lines)))) := by
  refine ⟨made.working, made.staged.put named _, fun _ => ?_, fun place off elsewhere => ?_⟩
  · exact node?_put_self _ _ (List.append_ne_nil_of_right_ne_nil _ named)
  · rw [node?_put_other _ _ (elsewhere done)]
    exact made.other place off

end Laid

theorem write_of_site (site : disk.Site plan.path route) :
    (plan.write disk).1 = plan.comesTo route ∧ plan.Laid route disk (plan.write disk).2 := by
  obtain ⟨ended, made⟩ := makeParent_of_open site.plain site.routed site.ready
  unfold Plan.write
  cases outcome : disk.makeParent plan.path with
  | mk result prepared =>
    rw [outcome] at ended made
    dsimp only at ended made
    rcases Path.reach_cases route.names.dropLast with reached | refused
    · have start : prepared.start route = disk.start route := by
        unfold Disk.start
        rw [made.working]
      have free : prepared.node? (prepared.start route ++ route.names) ≠ some .directory := by
        rw [start, made.other _ (not_stage site.named)]
        exact site.free
      have comes := plan.comesTo_of_reached reached
      rw [ended, reached]
      dsimp only
      rw [Disk.write, opened_of_staged site.plain site.routed site.named (start ▸ made.staged)
        reached free, start]
      cases directory : route.directory with
      | true =>
        rw [directory, if_pos rfl] at comes
        rw [if_pos rfl, comes]
        exact ⟨rfl, .of_made made (ne_ok_of_eq_error comes)⟩
      | false =>
        rw [directory, if_neg Bool.false_ne_true] at comes
        rw [if_neg Bool.false_ne_true]
        rcases Path.reach_cases route.names with whole | long
        · rw [whole] at comes ⊢
          exact ⟨comes.symm, .of_put made site.named comes⟩
        · rw [long] at comes ⊢
          exact ⟨comes.symm, .of_made made (ne_ok_of_eq_error comes)⟩
    · have comes := plan.comesTo_of_refused refused
      rw [ended, refused]
      exact ⟨comes.symm, .of_made made (ne_ok_of_eq_error comes)⟩

/-- A path with a name that is too long cannot be written. -/
theorem comesTo_of_long (long : ∃ name ∈ route.names, Path.Long name) :
    plan.comesTo route ≠ .ok () := by
  have whole : Path.reach route.names ≠ .ok () := by
    obtain ⟨name, member, tooLong⟩ := long
    exact fun reached => Path.reach_eq_ok_iff.mp reached name member tooLong
  unfold comesTo
  split
  · exact fun same => nomatch same
  · split
    · exact fun same => nomatch same
    · exact fun same => whole (mapError_eq_ok.mp same)

/-- What writing leaves is there: directories at all stages of the way, and the file if it can be
written. -/
structure Present (plan : Plan) (route : Path.Route) (base : Location) (after : Disk) : Prop where
  staged : after.Staged base route.names.dropLast
  file : plan.comesTo route = .ok () →
    after.node? (base ++ route.names) = some (.file (.text (ofLines plan.lines)))

theorem Present.stays {base : Location} {before after : Disk}
    (present : plan.Present route base before) (spares : Spares base route.names before after) :
    plan.Present route base after :=
  ⟨spares.staged List.prefix_rfl present.staged, fun done => spares.file.trans (present.file done)⟩

theorem Laid.node?_of_present {before after later : Disk} (laid : plan.Laid route before after)
    (present : plan.Present route (before.start route) later) {place : Location}
    (different : after.node? place ≠ before.node? place) :
    later.node? place = after.node? place := by
  by_cases stage : Stage (before.start route) route.names.dropLast place
  · rw [present.staged place stage, laid.staged place stage]
  · have written : plan.comesTo route = .ok () ∧ place = before.start route ++ route.names := by
      by_contra elsewhere
      exact different (laid.other place stage fun done here => elsewhere ⟨done, here⟩)
    obtain ⟨done, rfl⟩ := written
    rw [present.file done, laid.file done]

end Plan

/-! ### Making directories beside others -/

namespace Steps

open Disk

variable {meets does : Disk → Disk → Prop} {base : Location} {names part : List String}
  {refusal : FileError → Failure} {disk : Disk} {way : Path.Route}

/-- How the making of directories ends: they are there as far as the names can be taken, and the
file is as it was. -/
structure EndsStaged (refusal : FileError → Failure) (base : Location) (names part : List String)
    (disk : Disk) (outcome : Except Failure Unit) (later : Disk) : Prop where
  outcome : outcome = (Path.reach part).mapError refusal
  staged : later.Staged base part
  spares : Spares base names disk later

theorem EndsStaged.after {outcome : Except Failure Unit} {middle last : Disk}
    (ends : EndsStaged refusal base names part middle outcome last)
    (spares : Spares base names disk middle) :
    EndsStaged refusal base names part disk outcome last :=
  ⟨ends.outcome, ends.staged, spares.trans ends.spares⟩

section Beside

variable (spares : ∀ before after, meets before after → Spares base names before after)
  (stages : ∀ before after, Staging base names.dropLast before after → does before after)
  (plain : ∀ name ∈ names, name ≠ "..")
include spares stages plain

theorem safe_settle (start : disk.start way = base) (inside : way.names <+: names.dropLast)
    (staged : disk.Staged base way.names) {reason : FileError}
    (ended : Path.reach way.names = .ok () ∨ Path.reach way.names = .error reason) :
    (settle refusal way reason).Safe meets does
      (EndsStaged refusal base names way.names disk) disk := by
  intro later met
  refine ⟨stages _ _ (.refl _ _ later), fun last further => ?_⟩
  have met := spares _ _ met
  have whole := inside.trans (List.dropLast_prefix names)
  have there := Disk.settle (met.staged inside staged)
    (fun name member => plain name (whole.subset member)) ended
  refine ⟨?_, (met.trans (spares _ _ further)).staged inside staged, met.trans (spares _ _ further)⟩
  show (if later.leadsToDirectory (later.start way) way.names then Except.ok ()
    else Except.error (refusal reason)) = _
  rw [met.start, start]
  split at there
  next led =>
    have reached : Path.reach way.names = .ok () := (congrArg Prod.fst there).symm
    rw [if_pos led, reached]
    rfl
  next off =>
    have refused : Path.reach way.names = .error reason := (congrArg Prod.fst there).symm
    rw [if_neg off, refused]
    rfl

variable (named : names ≠ [])
include named

/-- The last directory is tried where those before it are there. -/
theorem makeDirectory_safe {before : List String} {last : String} (start : disk.start way = base)
    (whole : way.names = before ++ [last]) (inside : way.names <+: names.dropLast)
    (ready : disk.Open base names.dropLast) (staged : disk.Staged base before) :
    (∃ made, disk.makeDirectory false base way.names = .ok made ∧ does disk made ∧
      (pure () : Steps Unit).Safe meets does (EndsStaged refusal base names way.names disk) made) ∨
    ∃ reason, disk.makeDirectory false base way.names = .error reason ∧ reason ≠ .notFound ∧
      (settle refusal way reason).Safe meets does
        (EndsStaged refusal base names way.names disk) disk := by
  have listed : ∀ name ∈ way.names, name ≠ ".." := fun name member =>
    plain name ((inside.trans (List.dropLast_prefix names)).subset member)
  have onto := ready.of_start inside
  rw [whole] at listed onto
  obtain ⟨earlier, down⟩ := List.forall_mem_append.mp listed
  rcases makeDirectory_last staged earlier (down last (List.mem_singleton_self last)) onto with
    ⟨made, done, reached, laid⟩ | ⟨reason, refused, other, there, ended⟩
  · have staging := laid.staging onto
    rw [← whole] at done reached laid staging
    have staging : Staging base names.dropLast disk made := staging.longer inside
    refine .inl ⟨made, done, stages _ _ staging, fun later met => ?_⟩
    have met := spares _ _ met
    refine ⟨?_, met.staged inside laid.staged, (staging.spares named).trans met⟩
    rw [reached]
    rfl
  · rw [← whole] at refused there ended
    exact .inr ⟨reason, refused, other,
      safe_settle spares stages plain start inside there ended⟩

variable (steady : Steady meets)
include steady

/-- A directory is made with the way there, if the way can be made. -/
theorem safe_makeWithWay {before : List String} {last : String} {first : Steps Unit}
    (start : disk.start way = base) (pointed : way.pointed = false)
    (whole : way.names = before ++ [last]) (inside : way.names <+: names.dropLast)
    (ready : disk.Open base names.dropLast)
    (safe : ∀ later, Spares base names disk later →
      first.Safe meets does (EndsStaged refusal base names before later) later) :
    (makeWithWay refusal way first).Safe meets does
      (EndsStaged refusal base names way.names disk) disk := by
  have earlier : before <+: names.dropLast :=
    (whole ▸ List.prefix_append before [last]).trans inside
  have listed : ∀ name ∈ before, name ≠ ".." := fun name member =>
    plain name ((earlier.trans (List.dropLast_prefix names)).subset member)
  intro later met
  have met := spares _ _ met
  have startLater := (met.start way).trans start
  dsimp only [Operation.perform]
  rw [pointed, startLater]
  rcases ((met.ready ready).of_start earlier).staged_or listed with staged | missing
  · -- only the last directory may be missing
    rcases makeDirectory_safe spares stages plain named startLater whole inside
      (met.ready ready) staged with ⟨made, done, does, safe⟩ | ⟨reason, refused, other, safe⟩
    · rw [done]
      exact ⟨does, safe.imp fun outcome last ends => ends.after met⟩
    · rw [refused]
      refine ⟨stages _ _ (.refl _ _ later), ?_⟩
      cases reason with
      | notFound => exact absurd rfl other
      | _ => exact safe.imp fun outcome last ends => ends.after met
  · -- those before it are made first
    have down : last ≠ ".." := by
      have inside := (whole ▸ inside).trans (List.dropLast_prefix names)
      exact plain last (inside.subset (List.mem_append_right before (List.mem_singleton_self last)))
    rw [whole, makeDirectory_concat later base before down, missing, ← whole]
    refine ⟨stages _ _ (.refl _ _ later), ?_⟩
    change Safe meets does _ (first >>= _) later
    refine Safe.andThen steady (safe later met) ?_ ?_
    · rintro failure prepared ⟨ended, staged, kept⟩
      rcases Path.reach_cases before with reached | refused
      · rw [reached] at ended
        cases ended
      · refine ⟨?_, whole ▸ staged.concat (ne_ok_of_eq_error refused), met.trans kept⟩
        rw [ended, whole, Path.reach_append, refused]
        rfl
    · rintro - prepared ⟨-, staged, kept⟩ last further
      have kept := (met.trans kept).trans (spares _ _ further)
      have startLast := (kept.start way).trans start
      have staged := (spares _ _ further).staged earlier staged
      dsimp only [Operation.perform]
      rw [pointed, startLast]
      rcases makeDirectory_safe spares stages plain named startLast whole inside
        (kept.ready ready) staged with ⟨made, done, does, safe⟩ | ⟨reason, refused, -, safe⟩
      · rw [done]
        exact ⟨does, safe.imp fun outcome last ends => ends.after kept⟩
      · rw [refused]
        exact ⟨stages _ _ (.refl _ _ last), safe.imp fun outcome last ends => ends.after kept⟩

/-- Directories are made as far as the names can be taken, whatever goes on elsewhere. -/
theorem safe_makeDirectories (absolute : Bool) (reversed : List String)
    (start : base = if absolute then [] else disk.working)
    (inside : reversed.reverse <+: names.dropLast) (ready : disk.Open base names.dropLast) :
    (makeDirectories refusal absolute false reversed).Safe meets does
      (EndsStaged refusal base names reversed.reverse disk) disk := by
  induction reversed generalizing disk with
  | nil =>
    intro later met
    have met := spares _ _ met
    exact ⟨rfl, staged_nil (met.ready ready).here, met⟩
  | cons last before inductionHypothesis =>
    have whole : (last :: before).reverse = before.reverse ++ [last] := List.reverse_cons
    have earlier := (whole ▸ List.prefix_append before.reverse [last]).trans inside
    exact safe_makeWithWay spares stages plain named steady start.symm rfl whole inside ready
      fun later met => inductionHypothesis (met.working ▸ start) earlier (met.ready ready)

end Beside

end Steps

/-! ### Writing beside others -/

/-- The empty path cannot be written. -/
theorem Plan.safe_writeSteps_nowhere {meets does : Disk → Disk → Prop} {disk : Disk} {plan : Plan}
    {ends : Except Failure Unit → Disk → Prop} (nothing : ∀ disk, does disk disk)
    (nowhere : plan.path = "") (ended : ∀ later, ends (.error (.writing "" .notFound)) later) :
    plan.writeSteps.Safe meets does ends disk := by
  have parent : Path.parent? "" = none := by decide +kernel
  unfold writeSteps Steps.makeParent
  rw [nowhere, parent]
  intro later met
  dsimp only [Operation.perform]
  rw [opened_nowhere]
  exact ⟨nothing later, fun last _ => ended last⟩

section Writing

open Disk

variable {meets does : Disk → Disk → Prop} {disk : Disk} {route : Path.Route} {plan : Plan}
  (spares : ∀ before after, meets before after →
    Spares (disk.start route) route.names before after)
  (stages : ∀ before after, Staging (disk.start route) route.names.dropLast before after →
    does before after)
include spares stages

/-- The file is opened and filled where the directories before it are there. -/
theorem Plan.safe_writeText
    (fills : ∀ before content, plan.comesTo route = .ok () →
      does before (before.put (disk.start route ++ route.names) (.file content)))
    (site : disk.Site plan.path route) {prepared : Disk}
    (kept : Spares (disk.start route) route.names disk prepared)
    (staged : prepared.Staged (disk.start route) route.names.dropLast)
    (reached : Path.reach route.names.dropLast = .ok ()) :
    (Steps.writeText plan.path (ofLines plan.lines)).Safe meets does (fun outcome later =>
      outcome = plan.comesTo route ∧ plan.Present route (disk.start route) later) prepared := by
  intro later met
  have comes := plan.comesTo_of_reached reached
  have met := spares _ _ met
  have kept := kept.trans met
  have site := site.stands kept
  have staged := met.staged List.prefix_rfl staged
  have opened := opened_of_staged site.plain site.routed site.named
    ((kept.start route).symm ▸ staged) reached site.free
  have refused {error : FileError}
      (comes : plan.comesTo route = .error (.writing plan.path error)) :
      (Steps.fail (.writing plan.path error) : Steps Unit).Safe meets does (fun outcome later =>
        outcome = plan.comesTo route ∧ plan.Present route (disk.start route) later) later :=
    fun last further => ⟨comes.symm, (spares _ _ further).staged List.prefix_rfl staged,
      fun done => absurd done (ne_ok_of_eq_error comes)⟩
  have nothing : does later later := stages _ _ (.refl _ _ later)
  rw [kept.start] at opened
  dsimp only [Operation.perform]
  rw [opened]
  cases directory : route.directory with
  | true =>
    rw [directory, if_pos rfl] at comes
    exact ⟨nothing, refused comes⟩
  | false =>
    rw [directory, if_neg Bool.false_ne_true] at comes
    rcases Path.reach_cases route.names with whole | long
    · rw [whole] at comes ⊢
      refine ⟨fills later _ comes, fun last further => ⟨fills last _ comes, fun final later => ?_⟩⟩
      have staged := (spares _ _ further).staged List.prefix_rfl (staged.put site.named _)
      have later := spares _ _ later
      refine ⟨comes.symm, later.staged List.prefix_rfl (staged.put site.named _), fun _ => ?_⟩
      rw [later.file]
      exact node?_put_self _ _ (List.append_ne_nil_of_right_ne_nil _ site.named)
    · rw [long] at comes ⊢
      exact ⟨nothing, refused comes⟩

variable (steady : Steps.Steady meets)
include steady

theorem Steps.safe_makeParent {path : String} (site : disk.Site path route) :
    (makeParent path).Safe meets does (EndsStaged (.creating ((Path.parent? path).getD ""))
      (disk.start route) route.names route.names.dropLast disk) disk := by
  have names := site.plain.names site.routed
  have nothing (none : route.names.dropLast = []) : (pure () : Steps Unit).Safe meets does
      (EndsStaged (.creating ((Path.parent? path).getD "")) (disk.start route) route.names
        route.names.dropLast disk) disk := by
    intro later met
    have met := spares _ _ met
    rw [none]
    exact ⟨rfl, staged_nil (met.ready site.ready).here, met⟩
  unfold makeParent
  cases parent : Path.parent? path with
  | none =>
    rw [parent] at nothing
    exact nothing (Path.dropLast_of_no_parent site.routed (by rw [parent]; rfl))
  | some above =>
    rw [parent] at nothing
    dsimp only [makePath]
    by_cases nowhere : above = ""
    · rw [if_pos (by simpa using nowhere)]
      exact nothing (Path.dropLast_of_no_parent site.routed (by rw [parent]; exact nowhere))
    · obtain ⟨way, taken, absolute, whole⟩ := Path.route_of_parent site.routed parent nowhere
      have start : disk.start route = if way.absolute then [] else disk.working := by
        rw [absolute]
        rfl
      have made :
          (makeDirectories (.creating above) way.absolute false way.names.reverse).Safe meets does
          (EndsStaged (.creating above) (disk.start route) route.names
            way.names.reverse.reverse disk) disk :=
        safe_makeDirectories spares stages names site.named steady way.absolute way.names.reverse
          start (by rw [List.reverse_reverse, whole]) site.ready
      rw [List.reverse_reverse, whole] at made
      rw [if_neg (by simpa using nowhere), taken]
      dsimp only
      rwa [(site.plain.parent parent nowhere).pointed taken, whole]

/-- A plan is written in the same way, whatever goes on elsewhere. -/
theorem Plan.safe_writeSteps
    (fills : ∀ before content, plan.comesTo route = .ok () →
      does before (before.put (disk.start route ++ route.names) (.file content)))
    (site : disk.Site plan.path route) :
    plan.writeSteps.Safe meets does (fun outcome later =>
      outcome = plan.comesTo route ∧ plan.Present route (disk.start route) later) disk := by
  refine (Steps.safe_makeParent spares stages steady site).andThen steady ?_ ?_
  · rintro failure later ⟨ended, staged, -⟩
    rcases Path.reach_cases route.names.dropLast with reached | refused
    · rw [reached] at ended
      cases ended
    · have comes := plan.comesTo_of_refused refused
      rw [refused] at ended
      exact ⟨ended.trans comes.symm, staged, fun done => absurd done (ne_ok_of_eq_error comes)⟩
  · rintro done prepared ⟨ended, staged, kept⟩
    have reached : Path.reach route.names.dropLast = .ok () := mapError_eq_ok.mp ended.symm
    exact Plan.safe_writeText spares stages fills site kept staged reached

end Writing

end Foldback
