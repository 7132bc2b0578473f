/-
The report of a run: one entry per file, in the order in which the files were
finished. Its summary lists the entries by name and counts them by status.
-/

import Foldback.Console.Paint

namespace Foldback

open Console

/-- How the work on a file ended. -/
inductive Status where
  /-- The file was written. -/
  | written
  /-- The file holds the computed lines already. -/
  | unchanged
  /-- The file would have been written. -/
  | planned
  /-- Something went wrong. -/
  | failed
  deriving DecidableEq, Repr

namespace Status

/-- The word for a status. -/
def word : Status → String
  | .written => "ok"
  | .unchanged => "unchanged"
  | .planned => "dry-run"
  | .failed => "failed"

/-- The sign that stands before a file in the summary. -/
def sign : Status → String
  | .written => "✓"
  | .unchanged => "·"
  | .planned => "~"
  | .failed => "✗"

/-- The color of a status in the list of files. -/
def color : Status → Color
  | .written => .green
  | .unchanged => .faint
  | .planned => .white
  | .failed => .red

end Status

namespace Report

/-- What happened to one file. -/
structure Entry where
  name : String
  status : Status
  /-- More about it; the reason of a failure. -/
  message : Option String
  deriving DecidableEq, Repr

/-- The line for one file. -/
def Entry.summaryLine (entry : Entry) : String :=
  let detail := match entry.message with
    | none => ""
    | some message => " (" ++ message ++ ")"
  paint entry.status.color (entry.status.sign ++ " " ++ entry.name ++ detail)

end Report

/-- What happened to the files of a run. -/
structure Report where
  /-- The entries, the latest last. -/
  entries : List Report.Entry
  deriving DecidableEq, Repr

namespace Report

/-- Nothing has happened. -/
def empty : Report := ⟨[]⟩

/-- The report with one more entry. -/
def record (report : Report) (entry : Entry) : Report :=
  ⟨report.entries ++ [entry]⟩

/-- The number of entries with a status. -/
def count (report : Report) (status : Status) : Nat :=
  report.entries.countP (·.status = status)

/-- The number of files that failed. -/
def failures (report : Report) : Nat :=
  report.count .failed

/-- The entries by name; those of one name stay in order. -/
def sorted (report : Report) : List Entry :=
  report.entries.mergeSort fun left right => !decide (right.name < left.name)

/-- The line with the counts. -/
def totalLine (report : Report) : String :=
  let counted (status : Status) : String :=
    paint status.color (toString (report.count status) ++ " " ++ status.word)
  toString report.entries.length ++ " files: " ++
    ", ".intercalate ([.written, .unchanged, .planned, .failed].map counted)

/-- The lines of the summary. A report without entries has none. -/
def summaryLines (report : Report) : List String :=
  if report.entries.isEmpty then []
  else report.sorted.map Entry.summaryLine ++ [report.totalLine]

end Report

end Foldback
