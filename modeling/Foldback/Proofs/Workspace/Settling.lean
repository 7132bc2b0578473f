/-
Taking a file back settles it. The source that was written is read again as the
merged lines, as none of them ends with a carriage return; the files that its
lines read are others than the source and were not touched. So it renders under
the same setup as before the writing, to the edited lines if every text of the
edit came to a place where it stands for itself. Then there is nothing to build,
and nothing to take back a second time.
-/

import Foldback.Proofs.Disk.Rewriting
import Foldback.Proofs.Fold.Unchanged
import Foldback.Proofs.Template.FilesRead
import Foldback.Proofs.Fold.SingleLines
import Foldback.Proofs.Workspace.Previews

namespace Foldback

open Text Fold

/-! ### Merging and rendering again -/

namespace Setup

variable {setup : Setup} {source edited : List String} {pieces : List Piece}

/-- Where every text of the edit stands for itself, the merged source renders to the edit. -/
theorem render_of_faithful (ignores : setup.commands.IgnoresLines) (renders : setup.Renders source)
    (weaves : setup.Weaves source edited pieces)
    (faithful : ∀ (place : Nat) (piece : Piece), pieces[place]? = some piece →
      piece.Faithful (setup.openBefore (pieces.map Piece.source) place)) :
    setup.render (pieces.map Piece.source) = .ok edited := by
  have same : ∀ (place : Nat) (piece : Piece), pieces[place]? = some piece →
      piece.shownUnder (setup.openBefore (pieces.map Piece.source) place) = piece.edited? :=
    fun place piece there => Piece.shownUnder_eq_edited? (faithful place piece there)
  have whole := reduceOption_mapIdx_eq_iff fun place piece there => .inr (same place piece there)
  rw [render_merged ignores renders weaves, whole.mpr same, filterMap_edited?_of_weaves weaves]

/-- What a source renders to is folded back to the source. -/
theorem foldBack_of_render (rendered : setup.render source = .ok edited) :
    setup.foldBack source edited = .ok source := by
  obtain ⟨renders, rfl⟩ := render_eq_ok_iff.mp rendered
  have weaves : setup.Weaves source (setup.pass source).visible
      (allKept 0 (setup.pass source).lines) := by
    rw [Weaves, Diff.lineOps_self]
    exact woven_allKept 0 (setup.pass source).lines
  rw [foldBack_of_weaves renders weaves, source_allKept, source_lines_pass renders]

end Setup

/-! ### Writing in place -/

/-- A plan for a file that is there rewrites that file. -/
theorem Plan.rewritten_of_write (plan : Plan) {disk after : Disk} {place : Location}
    {content : Content} (led : disk.locate plan.path = .ok place)
    (there : disk.node? place = some (.file content))
    (written : plan.write disk = (.ok (), after)) :
    Disk.Rewritten place disk after := by
  obtain ⟨route, routed, -⟩ := exists_of_bind_eq_ok led
  have footprint := footprint_write routed written
  obtain ⟨prepared, -, ⟨failure, same, -⟩ | ⟨-, entered, -, enters⟩⟩ :=
    exists_paved_of_write routed written
  · cases same
  · have found := footprint.keeps.locate led
    cases found.symm.trans (Disk.locate_of_enters routed enters)
    refine ⟨footprint.keeps.working, ⟨content, there⟩, ⟨_, enters.there⟩, fun other apart => ?_⟩
    by_contra different
    exact apart (footprint.only led (Option.isSome_of_eq_some there) different)

namespace Workspace

variable {workspace : Workspace} {disk after : Disk} {file : String}

/-! ### Plans from their parts -/

theorem planBuild_eq {source lines : List String} {current : Option (List String)}
    (read : workspace.readSource disk file = .ok source)
    (rendered : (workspace.setup disk).render source = .ok lines)
    (target : workspace.readTarget disk file = .ok current) :
    (workspace.planBuild disk file).outcome = .ok ⟨workspace.targetPath file, current, lines⟩ := by
  unfold planBuild Workspace.rendered
  simp only [Traced.outcome_bind, Traced.outcome_ofExcept, Traced.outcome_pure]
  rw [read, target]
  simp only [Except.bind]
  rw [rendered]
  rfl

theorem planBack_eq {source edited lines : List String}
    (read : workspace.readSource disk file = .ok source)
    (target : workspace.readTarget disk file = .ok (some edited))
    (folded : (workspace.setup disk).foldBack source edited = .ok lines) :
    (workspace.planBack disk file).outcome =
      .ok ⟨workspace.sourcePath file, some source, lines⟩ := by
  unfold planBack merged
  simp only [Traced.outcome_bind, Traced.outcome_ofExcept]
  rw [read, target]
  simp only [Except.bind, Traced.outcome_bind, Traced.outcome_pure]
  rw [folded]
  rfl

/-! ### The disk after taking back -/

/-- After a file was taken back its source is read as the merged lines, and every path that does
not lead to the source is read as before. -/
theorem Ends.read_after_back {source merged : List String} {status : Status}
    (ends : Ends workspace (.ok ⟨workspace.sourcePath file, some source, merged⟩) disk
      (.ok status) after)
    (wet : workspace.dryRun = false) (read : workspace.readSource disk file = .ok source)
    (single : ∀ line ∈ merged, OneLine line)
    (bare : ∀ line ∈ merged, line.toList.getLast? ≠ some '\r') :
    workspace.readSource after file = .ok merged ∧
      ∀ path, ¬disk.SamePlace (workspace.sourcePath file) path →
        after.readLines path = disk.readLines path ∧
        after.firstLine path = disk.firstLine path := by
  cases ends with
  | current made same =>
    cases made
    have kept : source = merged := Option.some.inj same
    exact ⟨kept ▸ read, fun path _ => ⟨rfl, rfl⟩⟩
  | dry made other dry => exact absurd (wet.symm.trans dry) Bool.false_ne_true
  | written made other _ write =>
    cases made
    obtain ⟨text, whole, -⟩ := Disk.read_of_readLines (mapError_eq_ok.mp read)
    obtain ⟨place, led, there⟩ := Disk.locate_of_read whole
    have rewritten :=
      Plan.rewritten_of_write ⟨workspace.sourcePath file, some source, merged⟩ led there write
    have again : after.readLines (workspace.sourcePath file) = .ok merged := by
      have read := Plan.readLines_of_write_bare write single bare
      exact read
    refine ⟨mapError_eq_ok.mpr again, fun path apart => ?_⟩
    have elsewhere : disk.locate path ≠ .ok place := fun same => apart ⟨place, led, same⟩
    exact ⟨rewritten.readLines elsewhere, rewritten.firstLine elsewhere⟩

/-- One back settles a file. If the source is another file than the rendered one and those that
its lines read, no merged line ends with a carriage return, and every text of the edit came to a
place where it stands for itself, then the source holds the merged lines afterwards and renders to
the edit, which is still there; a build finds nothing to change, and so does a second back. -/
theorem back_settles {source edited : List String} {pieces : List Piece} {status : Status}
    (wet : workspace.dryRun = false)
    (read : workspace.readSource disk file = .ok source)
    (target : workspace.readTarget disk file = .ok (some edited))
    (apart : ¬disk.SamePlace (workspace.sourcePath file) (workspace.targetPath file))
    (unread : ∀ path, Directive.ReadsFile source path →
      ¬disk.SamePlace (workspace.sourcePath file) path)
    (weaves : (workspace.setup disk).Weaves source edited pieces)
    (faithful : ∀ (place : Nat) (piece : Piece), pieces[place]? = some piece →
      piece.Faithful ((workspace.setup disk).openBefore (pieces.map Piece.source) place))
    (bare : ∀ line ∈ pieces.map Piece.source, line.toList.getLast? ≠ some '\r')
    (done : (workspace.back disk file).1.outcome = .ok status)
    (left : (workspace.back disk file).2 = after) :
    workspace.readSource after file = .ok (pieces.map Piece.source) ∧
    (workspace.setup after).render (pieces.map Piece.source) = .ok edited ∧
    workspace.readTarget after file = .ok (some edited) ∧
    (workspace.build after file).1.outcome = .ok .unchanged ∧
      (workspace.build after file).2 = after ∧
    (workspace.back after file).1.outcome = .ok .unchanged ∧
      (workspace.back after file).2 = after := by
  -- the plan that was carried out
  have ends := workspace.ends_back disk file
  rw [done, left] at ends
  obtain ⟨plan, made⟩ : ∃ plan, (workspace.planBack disk file).outcome = .ok plan := by
    cases made : (workspace.planBack disk file).outcome with
    | error failure =>
      rw [made] at ends
      cases ends.of_error.1
    | ok plan => exact ⟨plan, rfl⟩
  obtain ⟨⟨first, second, firstRead, secondRead, folded⟩, -⟩ := outcome_planBack made
  cases read.symm.trans firstRead
  cases target.symm.trans secondRead
  obtain ⟨renders, -⟩ := Setup.exists_weaves_of_foldBack folded
  have merges := Setup.foldBack_of_weaves renders weaves
  have single : ∀ line ∈ pieces.map Piece.source, OneLine line :=
    Setup.oneLine_of_foldBack (oneLine_of_readSource read) (oneLine_of_readTarget target) merges
  rw [planBack_eq read target merges] at ends
  -- what is read on the disk that is left
  obtain ⟨readAgain, others⟩ := ends.read_after_back wet read single bare
  have targetAgain : workspace.readTarget after file = .ok (some edited) := by
    have same := (others (workspace.targetPath file) apart).1
    unfold readTarget at target ⊢
    rw [same]
    exact target
  have agree : ∀ path, Directive.ReadsFile (pieces.map Piece.source) path →
      after.firstLine path = disk.firstLine path := by
    rintro path ⟨arguments, name, member, pair⟩
    rw [Directive.calls_eq_of_silentLines_eq (Setup.silentLines_of_weaves renders weaves)] at member
    exact (others path (unread path ⟨arguments, name, member, pair⟩)).2
  have rendered : (workspace.setup after).render (pieces.map Piece.source) = .ok edited := by
    rw [setup, Setup.render_congr agree]
    exact Setup.render_of_faithful ignoresLines_builtin renders weaves faithful
  -- both plans find their lines in place
  have build := workspace.ends_build after file
  have back := workspace.ends_back after file
  rw [planBuild_eq readAgain rendered targetAgain] at build
  rw [planBack_eq readAgain targetAgain (Setup.foldBack_of_render rendered)] at back
  obtain ⟨built, buildLeft⟩ := build.of_current rfl
  obtain ⟨backed, backLeft⟩ := back.of_current rfl
  exact ⟨readAgain, rendered, targetAgain, built, buildLeft, backed, backLeft⟩

/-- A disk with a source, the file that it reads, and its rendered file with a line added. -/
def extended : Disk :=
  ((((Disk.empty.put ["work", "src"] .directory).put ["work", "out"] .directory).put
    ["work", "src", "host"] (.file (.text "#@withfile p=port\nlisten @@p@@\n"))).put
    ["work", "out", "host"] (.file (.text "listen 80\nnew\n"))).put
    ["work", "port"] (.file (.text "80\n"))

theorem woven_extended :
    (plain.setup extended).Weaves ["#@withfile p=port", "listen @@p@@"] ["listen 80", "new"]
      [.kept 0 ⟨none, "#@withfile p=port"⟩, .kept 1 ⟨some "listen 80", "listen @@p@@"⟩,
        .fresh "new" false] := by
  have lines : ((plain.setup extended).pass ["#@withfile p=port", "listen @@p@@"]).lines =
      [⟨none, "#@withfile p=port"⟩, ⟨some "listen 80", "listen @@p@@"⟩] := by decide +kernel
  have operations : Diff.lineOps ["listen 80"] ["listen 80", "new"] =
      [.equal "listen 80", .insert "new"] := by decide +kernel
  have visible : ((plain.setup extended).pass ["#@withfile p=port", "listen @@p@@"]).visible =
      ["listen 80"] := by
    rw [Pass.visible, lines]
    rfl
  rw [Setup.Weaves, visible, lines, operations]
  refine .hidden _ (.equal _ _ (.insert _ (fun source rest none => ?_) (.done 2)))
  cases none

/-- A line added behind one that is filled from a file. -/
theorem back_settles_extended :
    (plain.back extended "host").1.outcome = .ok .written ∧
    plain.readSource (plain.back extended "host").2 "host" =
      .ok ["#@withfile p=port", "listen @@p@@", "new"] ∧
    (plain.setup (plain.back extended "host").2).render
      ["#@withfile p=port", "listen @@p@@", "new"] = .ok ["listen 80", "new"] ∧
    plain.readTarget (plain.back extended "host").2 "host" = .ok (some ["listen 80", "new"]) ∧
    (plain.build (plain.back extended "host").2 "host").1.outcome = .ok .unchanged ∧
    (plain.build (plain.back extended "host").2 "host").2 = (plain.back extended "host").2 ∧
    (plain.back (plain.back extended "host").2 "host").1.outcome = .ok .unchanged ∧
    (plain.back (plain.back extended "host").2 "host").2 = (plain.back extended "host").2 := by
  have read : plain.readSource extended "host" =
      .ok ["#@withfile p=port", "listen @@p@@"] := by decide +kernel
  have target : plain.readTarget extended "host" = .ok (some ["listen 80", "new"]) := by
    decide +kernel
  have sourceAt : extended.locate (plain.sourcePath "host") = .ok ["work", "src", "host"] := by
    decide +kernel
  have targetAt : extended.locate (plain.targetPath "host") = .ok ["work", "out", "host"] := by
    decide +kernel
  have portAt : extended.locate "port" = .ok ["work", "port"] := by decide +kernel
  have done : (plain.back extended "host").1.outcome = .ok .written := by decide +kernel
  refine ⟨done, back_settles rfl read target ?_ ?_ woven_extended ?_ (by decide) done rfl⟩
  · rintro ⟨place, first, second⟩
    obtain rfl := Except.ok.inj (sourceAt.symm.trans first)
    exact absurd (targetAt.symm.trans second) (by decide)
  · rintro path ⟨arguments, name, member, pair⟩ ⟨place, first, second⟩
    have call : Directive.calls ["#@withfile p=port", "listen @@p@@"] =
        [("withfile", "p=port")] := by decide +kernel
    rw [call] at member
    cases List.mem_singleton.mp member
    have bound : Call.binding? "p=port" = some ("p", "port") := by decide +kernel
    cases bound.symm.trans pair
    obtain rfl := Except.ok.inj (sourceAt.symm.trans first)
    exact absurd (portAt.symm.trans second) (by decide)
  · intro place piece there text replaces fresh
    subst fresh
    rcases place with _ | _ | _ | place
    · cases there
    · cases there
    · cases there
      have unfilled : ¬['@', '@'] <:+: "new".toList := by decide
      exact .inr ⟨by decide +kernel, Placeholder.substitute_of_plain _ unfilled⟩
    · cases there

end Workspace

end Foldback
