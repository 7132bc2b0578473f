/-
Reading back what was written. A plan writes its lines with bare line feeds, and
reading takes a carriage return in front of a line feed for a part of the
terminator. So what comes back are the lines of the plan, each without the
carriage return that it may end with, and nothing is lost if none of them does.

Lines that were read from a file may end with a carriage return themselves, where
the text leaves one that belongs to no terminator. Such lines are read as others
once they were written, and the file is found out of date again.
-/

import Foldback.Proofs.Workspace.Plans

namespace Foldback

open Text

namespace Plan

variable {plan : Plan} {disk after : Disk}

/-- Lines of a text are kept exactly if the text leaves no carriage return in them. -/
theorem map_dropReturn_linesOf_eq_self_iff (text : String) :
    (linesOf text).map dropReturn = linesOf text ↔ ¬LeavesReturn text.toList := by
  rw [map_dropReturn_eq_self_iff, ← exists_return_iff, linesOf]
  simp only [List.forall_mem_map, String.toList_ofList, not_exists, not_and, ne_eq]

/-- The lines of a file that are written come back without the carriage returns at their ends. They
come back as they are exactly if the text of the file neither ends with a carriage return nor holds
one in front of a carriage return and a line feed. -/
theorem rereads_iff {path text : String} (read : disk.read path = .ok text)
    (taken : disk.readLines path = .ok plan.lines)
    (written : plan.write disk = (.ok (), after)) :
    after.readLines plan.path = .ok (plan.lines.map dropReturn) ∧
      (after.readLines plan.path = .ok plan.lines ↔
        text.toList.getLast? ≠ some '\r' ∧ ¬['\r', '\r', '\n'] <:+: text.toList) := by
  have cut : linesOf text = plan.lines := by
    unfold Disk.readLines at taken
    rw [read] at taken
    exact Except.ok.inj taken
  have single : ∀ line ∈ plan.lines, OneLine line := fun line member =>
    oneLine_of_mem_linesOf (cut ▸ member)
  have again := readLines_of_write written single
  refine ⟨again, ?_⟩
  rw [again, Except.ok.injEq, ← cut, map_dropReturn_linesOf_eq_self_iff, LeavesReturn, not_or]

/-- A disk with a file that mixes the terminators and leaves the last line open. -/
def mixedEndings : Disk :=
  Disk.empty.put ["work", "t"] (.file (.text "a\r\n\nb"))

/-- A file with both terminators, an empty line and an open last line. -/
theorem rereads_iff_mixed_endings :
    mixedEndings.readLines "t" = .ok ["a", "", "b"] ∧
      ((⟨"out/t", none, ["a", "", "b"]⟩ : Plan).write mixedEndings).2.readLines "out/t" =
        .ok ["a", "", "b"] := by
  have taken : mixedEndings.readLines "t" = .ok ["a", "", "b"] := by decide +kernel
  refine ⟨taken, ?_⟩
  have read : mixedEndings.read "t" = .ok "a\r\n\nb" := by decide +kernel
  have written : (⟨"out/t", none, ["a", "", "b"]⟩ : Plan).write mixedEndings =
      (.ok (), ((⟨"out/t", none, ["a", "", "b"]⟩ : Plan).write mixedEndings).2) :=
    Prod.ext (by decide +kernel) rfl
  exact (rereads_iff read taken written).2.mpr (by decide)

/-- A disk with a file that ends with a carriage return. -/
def openReturn : Disk :=
  Disk.empty.put ["work", "t"] (.file (.text "a\r"))

/-- A carriage return at the end of a file belongs to no terminator until the line is written. -/
theorem return_lost_at_end : ¬∀ (disk after : Disk) (path : String) (plan : Plan),
    disk.readLines path = .ok plan.lines → plan.write disk = (.ok (), after) →
      after.readLines plan.path = .ok plan.lines := by
  intro keeps
  have taken : openReturn.readLines "t" = .ok ["a\r"] := by decide +kernel
  have written : (⟨"out/t", none, ["a\r"]⟩ : Plan).write openReturn =
      (.ok (), ((⟨"out/t", none, ["a\r"]⟩ : Plan).write openReturn).2) :=
    Prod.ext (by decide +kernel) rfl
  have again : ((⟨"out/t", none, ["a\r"]⟩ : Plan).write openReturn).2.readLines "out/t" =
      .ok ["a"] := by decide +kernel
  exact absurd (again.symm.trans (keeps _ _ _ _ taken written)) (by decide)

/-! ### Finding the file up to date -/

theorem outcome_carryOut_eq_unchanged_iff (plan : Plan) (dryRun : Bool) (disk : Disk) :
    (plan.carryOut dryRun disk).1.outcome = .ok .unchanged ↔ plan.current = some plan.lines := by
  constructor
  · intro rests
    by_contra other
    unfold carryOut at rests
    rw [if_neg other] at rests
    split at rests
    · cases rests
    · split at rests <;> cases rests
  · intro same
    rw [carryOut_current same]

/-- The same lines, planned again for the file that was written, find it up to date exactly if none
of them ends with a carriage return. -/
theorem up_to_date_again_iff (single : ∀ line ∈ plan.lines, OneLine line)
    (written : plan.write disk = (.ok (), after)) (dryRun : Bool) :
    ({ plan with current := (after.readLines plan.path).toOption }.carryOut dryRun
        after).1.outcome = .ok .unchanged ↔
      ∀ line ∈ plan.lines, line.toList.getLast? ≠ some '\r' := by
  rw [outcome_carryOut_eq_unchanged_iff, readLines_of_write written single,
    ← map_dropReturn_eq_self_iff]
  exact Option.some_inj

end Plan

end Foldback
