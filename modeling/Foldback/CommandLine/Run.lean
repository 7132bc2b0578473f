/-
Running the program: from the arguments, the environment and the disk to the
exit code, the texts on the two streams and the disk afterwards. Unless the options
ask for one file at a time, the work on the files goes on in a pool, and the turns that
its works take are given with the arguments.
-/

import Foldback.CommandLine.Parse
import Foldback.Console.Filter.Reader
import Foldback.Workspace.Pool

namespace Foldback.CommandLine

open Console Text

/-- Why a run fails. -/
inductive RunError where
  /-- The settings file cannot be used. -/
  | settings (error : SettingsError)
  /-- No directory for the rendered files is chosen. -/
  | noTarget
  /-- The rule cannot be read. -/
  | rule (text : String) (error : RuleError)
  /-- The work on some files failed. -/
  | files (failed : FailedFiles)
  deriving DecidableEq, Repr

namespace RunError

/-- The messages for an error, the most general one first. -/
def chain : RunError → List String
  | .settings error => error.chain
  | .noTarget =>
    ["no target directory: pass --target or set \x60target\x60 in the settings file"]
  | .rule text error => ["parsing rule " ++ quotedText text, error.message]
  | .files failed => [failed.message]

/-- The text behind a first line, with more lines set in. -/
def setIn (first others : String) (message : String) : String :=
  first ++ ("\n" ++ others).intercalate ((message.toList.splitOn '\n').map String.ofList)

/-- The causes of an error, numbered if there is more than one. -/
def causesText : List String → String
  | [] => ""
  | [cause] => "\n\nCaused by:\n" ++ setIn "    " "    " cause
  | causes =>
    "\n\nCaused by:" ++ String.join (causes.zipIdx.map fun (cause, index) =>
      "\n" ++ setIn ("    " ++ toString index ++ ": ") "       " cause)

/-- The report of an error. -/
def report (error : RunError) : String :=
  match error.chain with
  | [] => ""
  | message :: causes => "Error: " ++ message ++ causesText causes ++ "\n"

end RunError

/-- What a request does. -/
structure Effect where
  /-- What goes to the console. -/
  messages : List Message
  /-- The disk afterwards. -/
  disk : Disk
  result : Except RunError Unit

/-! ### Requests -/

/-- The settings for a request. -/
def resolve (options : Options) (disk : Disk) : Except RunError Settings :=
  (Settings.resolve disk options.choices.config options.choices.settings).mapError .settings

/-- The events about the settings of a workspace. -/
def openingEvents (workspace : Workspace) : List Event :=
  (if workspace.categories.isEmpty then
    [.warn "no active categories: only unconditional and fallback branches render"]
  else []) ++
    [.debug ("categories: " ++ workspace.categories.listing),
      .debug ("root: " ++ workspace.root), .debug ("target: " ++ workspace.target)]

/-- The workspace that the options choose. -/
def openWorkspace (options : Options) (disk : Disk) : Except RunError Workspace := do
  let settings ← resolve options disk
  match settings.target with
  | none => .error .noTarget
  | some target =>
    pure ⟨settings.categorySet, settings.rootDirectory, target, options.choices.dryRun⟩

/-- The header of the work on some files. -/
def FileVerb.header (verb : FileVerb) (count : Nat) : String :=
  match verb with
  | .build => s!"Building {count} file(s)"
  | .back => s!"Backporting {count} file(s)"
  | .diff => s!"Diffing {count} file(s)"
  | .backdiff => s!"Diffing {count} source(s)"

/-- The end of the work on some files. -/
def close (opening : List Message) (outcomes : List (Batch.Outcome Status)) (disk : Disk) :
    Effect where
  messages := opening ++ (Batch.closingEvents outcomes).map .event
  disk := disk
  result := (Batch.verdict (Batch.report outcomes)).mapError .files

/-- In which way the options have files worked on. -/
def Choices.mode (choices : Choices) (turns : List Nat) : Batch.Mode :=
  if choices.sequential then .sequential else .pooled turns

/-- Writes files. -/
def writeFiles (mode : Batch.Mode) (work : String → Steps Status) (opening : List Event)
    (disk : Disk) (names : List String) : Effect :=
  let (notes, outcomes, after) := Batch.process mode work disk names
  close ((opening ++ notes.map FileNote.event).map .event) outcomes after

/-- Shows the changes to files. -/
def showFiles (mode : Batch.Mode) (work : String → Steps String) (opening : List Event)
    (disk : Disk) (names : List String) : Effect :=
  let (notes, outcomes, after) := Batch.process mode work disk names
  close ((opening ++ notes.map FileNote.event).map .event ++
    (Batch.previewTexts outcomes).map .plain) (outcomes.map .ofPreview) after

/-- Works on files. -/
def runFiles (turns : List Nat) (options : Options) (disk : Disk) (verb : FileVerb)
    (names : List String) : Effect :=
  match openWorkspace options disk with
  | .error error => ⟨[], disk, .error error⟩
  | .ok workspace =>
    let opening := openingEvents workspace ++ [.stage (verb.header names.length)]
    let mode := options.choices.mode turns
    match verb with
    | .build => writeFiles mode workspace.buildSteps opening disk names
    | .back => writeFiles mode workspace.backSteps opening disk names
    | .diff => showFiles mode workspace.buildPreviewSteps opening disk names
    | .backdiff => showFiles mode workspace.backPreviewSteps opening disk names

/-- Reads a rule and tests it against the active categories. -/
def runRule (options : Options) (disk : Disk) (text : String) : Effect :=
  match resolve options disk with
  | .error error => ⟨[], disk, .error error⟩
  | .ok settings =>
    let active := settings.categorySet
    let opening := Message.event (.debug ("categories: " ++ active.listing))
    match Rule.parse text with
    | .error error => ⟨[opening], disk, .error (.rule text error)⟩
    | .ok rule =>
      ⟨[opening, .plain (rule.text ++ "\n"), .plain (toString (rule.holds active) ++ "\n")],
        disk, .ok ()⟩

/-- The version line. -/
def versionText : String := "uconf 0.1.0\n"

/-- Does what the options ask for. -/
def perform (turns : List Nat) (options : Options) (disk : Disk) : Effect :=
  match options.request with
  | .files verb names => runFiles turns options disk verb names
  | .rule text => runRule options disk text
  | .version => ⟨[.plain versionText], disk, .ok ()⟩

/-! ### The program -/

/-- What the environment says about the console. -/
structure Environment where
  /-- The written filter; empty for the usual one. -/
  filter : String
  /-- Whether lines are shown without colors. -/
  plain : Bool
  deriving DecidableEq, Repr

/-- What is seen of a run from the outside. -/
structure Execution where
  exitCode : UInt32
  output : String
  errors : String
  /-- The disk afterwards. -/
  disk : Disk

/-- A short account of the usage. -/
def usageText : String :=
  "usage: uconf [OPTIONS] <build|back|diff|backdiff> <FILES>...\n" ++
    "       uconf [OPTIONS] rule <EXPR>\n" ++
    "       uconf version\n\n" ++
    "options: -c, --categories <LIST>  --config <FILE>  --root <DIR>  --target <DIR>\n" ++
    "         -d, --dry-run  --no-parallel  -v, --verbose  -h, --help  -V, --version\n"

/-- The least important level that is shown without a written filter. -/
def usualLimit (choices : Choices) : Nat :=
  if choices.verbose then Level.debug.rank else Level.info.rank

/-- Runs a request on a console. -/
def execute (turns : List Nat) (environment : Environment) (options : Options) (disk : Disk) :
    Execution :=
  let (filter, complaints) := Filter.read (usualLimit options.choices) environment.filter
  let style : Style := ⟨filter, !environment.plain⟩
  let effect := perform turns options disk
  let messages := complaints.map (fun line => Message.complaint (line ++ "\n")) ++ effect.messages
  let output := style.text .output messages
  let errors := style.text .errors messages
  match effect.result with
  | .ok () => ⟨0, output, errors, effect.disk⟩
  | .error error => ⟨1, output, errors ++ error.report, effect.disk⟩

/-- Runs the program, with the turns that works take in a pool. -/
def runInTurns (turns : List Nat) (environment : Environment) (arguments : List String)
    (disk : Disk) : Execution :=
  match read arguments with
  | .ok options => execute turns environment options disk
  | .error .help => ⟨0, usageText, "", disk⟩
  | .error .version => ⟨0, versionText, "", disk⟩
  | .error (.misuse _) => ⟨2, "", usageText, disk⟩

/-- Runs the program, with a pool that works on one file at a time. -/
def runProgram (environment : Environment) (arguments : List String) (disk : Disk) : Execution :=
  runInTurns [] environment arguments disk

end Foldback.CommandLine
