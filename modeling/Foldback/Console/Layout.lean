/-
The console: how the messages of a run become two texts. Errors and warnings go
to the error stream and all else to the output stream. Every event is one line
whose beginning tells its level and topic. Plain output of a command is passed
on as it is and does not depend on the filter.
-/

import Foldback.Console.Filter.Basic
import Foldback.Console.Paint

namespace Foldback.Console

/-- The two streams of a console. -/
inductive Stream where
  | output
  | errors
  deriving DecidableEq, Repr

/-- What a run sends to the console. -/
inductive Message where
  /-- An event, which a filter may suppress. -/
  | event (event : Event)
  /-- Text for the output stream as it is. -/
  | plain (text : String)
  /-- Text for the error stream as it is. -/
  | complaint (text : String)
  deriving DecidableEq, Repr

/-- How a console shows events. -/
structure Style where
  /-- Which events are shown. -/
  filter : Filter
  /-- Whether lines are colored. -/
  colored : Bool
  deriving DecidableEq, Repr

/-- A text in a color, if the console shows colors. -/
def Style.paint (style : Style) (color : Color) (text : String) : String :=
  if style.colored then Console.paint color text else text

/-- The line for an event. -/
def Style.line (style : Style) (event : Event) : String :=
  match event.level, event.topic with
  | .error, _ => style.paint .red "ERROR" ++ " " ++ event.text
  | .warn, _ => style.paint .yellow "WARN" ++ "  " ++ event.text
  | .info, .stage => style.paint .boldBlue "==>" ++ " " ++ style.paint .bold event.text
  | .info, .dryRun => "  " ++ style.paint .yellow "[DRY RUN]" ++ " " ++ event.text
  | .info, _ => "  " ++ event.text
  | .debug, _ | .trace, _ => "  " ++ style.paint .faint event.text

/-- The stream that an event goes to. -/
def Event.stream (event : Event) : Stream :=
  match event.level with
  | .error | .warn => .errors
  | .info | .debug | .trace => .output

/-- What a message adds to a stream. -/
def Style.contribution (style : Style) (stream : Stream) : Message → String
  | .event event =>
    if style.filter.shows event && event.stream = stream then style.line event ++ "\n" else ""
  | .plain text => if stream = .output then text else ""
  | .complaint text => if stream = .errors then text else ""

/-- The text that some messages put on a stream. -/
def Style.text (style : Style) (stream : Stream) (messages : List Message) : String :=
  String.join (messages.map (style.contribution stream))

end Foldback.Console
