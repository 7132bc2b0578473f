/-
Events, the messages that a run sends to the console. An event has a level of
importance, a topic and named fields, by which a filter can choose, and a text.
-/

import Foldback.Template.Command

namespace Foldback.Console

/-- The importance of an event, the highest first. -/
inductive Level where
  | error
  | warn
  | info
  | debug
  | trace
  deriving DecidableEq, Repr

/-- The place of a level; a more important one comes earlier. -/
def Level.rank : Level → Nat
  | .error => 1
  | .warn => 2
  | .info => 3
  | .debug => 4
  | .trace => 5

/-- What an event is about. -/
inductive Topic where
  /-- What the commands tell the user. -/
  | message
  /-- The headers of the parts of a run. -/
  | stage
  /-- What would be done. -/
  | dryRun
  /-- The walk of a pass over its lines. -/
  | pass
  /-- The work of the template commands. -/
  | command
  /-- The opening and closing of blocks. -/
  | block
  /-- The alignment of lines. -/
  | alignment
  /-- The folding back of edits. -/
  | folding
  deriving DecidableEq, Repr

/-- The name by which a filter knows a topic. -/
def Topic.name : Topic → String
  | .message => "uconf_cli::logging::logger"
  | .stage => "uconf::stage"
  | .dryRun => "uconf::dry_run"
  | .pass => "uconf_cli::template::renderer"
  | .command => "uconf_cli::template::commands"
  | .block => "uconf_cli::template::block"
  | .alignment => "uconf_cli::diff"
  | .folding => "uconf_cli::backport"

/-- A message to the console. -/
structure Event where
  level : Level
  topic : Topic
  text : String
  /-- The names of the values that come with the text. -/
  details : List String
  deriving DecidableEq, Repr

namespace Event

/-- Something failed. -/
def error (text : String) : Event := ⟨.error, .message, text, []⟩

/-- Something may be wrong. -/
def warn (text : String) : Event := ⟨.warn, .message, text, []⟩

/-- Something was done. -/
def info (text : String) : Event := ⟨.info, .message, text, []⟩

/-- A detail. -/
def debug (text : String) : Event := ⟨.debug, .message, text, []⟩

/-- The header of a part of a run. -/
def stage (text : String) : Event := ⟨.info, .stage, text, []⟩

/-- Something would have been done. -/
def dryRun (text : String) : Event := ⟨.info, .dryRun, text, []⟩

/-- The event for a note of a pass. -/
def ofPassNote : PassNote → Event
  | .dispatched => ⟨.debug, .pass, "dispatch", ["line", "command", "args"]⟩
  | .evaluated => ⟨.debug, .command, "evaluate condition", ["line", "rule", "result"]⟩
  | .entered =>
    ⟨.trace, .block, "enter block", ["kind", "published", "start_line", "depth"]⟩
  | .left => ⟨.trace, .block, "leave block", ["kind", "start_line", "line"]⟩
  | .stillOpen =>
    ⟨.warn, .pass, "block still open at end of input", ["kind", "start_line"]⟩

/-- The names of all values of an event; its text is one of them. -/
def fields (event : Event) : List String := "message" :: event.details

end Event

end Foldback.Console
