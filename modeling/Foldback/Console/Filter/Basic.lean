/-
Filters choose the events that are shown. A filter is a list of rules; each sets
the least important level to show for the events that it fits. A rule asks how
the name of the topic starts and, if it likes, for a field of the event. Of the
rules that fit an event, the most specific one decides. An event that no rule
fits is not shown at all.

A rule may also ask for a span of work, by the name of the span or by a value in
one of its fields. No span is ever opened here, so such a rule fits no event.
-/

import Foldback.Console.Event

namespace Foldback.Console

namespace Filter

/-- A field that a rule asks for. -/
structure Field where
  name : String
  /-- Whether the field must have a certain value. -/
  valued : Bool
  deriving DecidableEq, Repr

/-- A rule of a filter. -/
structure Rule where
  /-- How the names of the topics start. -/
  start : String
  /-- The span of work that is asked for. -/
  span : Option String
  /-- The field that is asked for. -/
  field : Option Field
  /-- The rank of the last level to show; zero shows nothing. -/
  limit : Nat
  deriving DecidableEq, Repr

namespace Rule

/-- Whether a rule asks for a span of work. -/
def needsSpan (rule : Rule) : Bool :=
  rule.span.isSome || rule.field.any (·.valued)

/-- Whether a rule fits an event. -/
def fits (rule : Rule) (event : Event) : Bool :=
  !rule.needsSpan && rule.start.toList.isPrefixOf event.topic.name.toList &&
    rule.field.all fun field => event.fields.contains field.name

/-- The names of the fields that a rule asks for. -/
def fieldNames (rule : Rule) : List String :=
  rule.field.toList.map (·.name)

/-- Whether a rule is more specific than another one: its start is longer, or
else it asks for more fields, or else for a later one in the order of names. -/
def outweighs (rule other : Rule) : Bool :=
  other.start.length < rule.start.length ||
    (other.start.length = rule.start.length && other.fieldNames < rule.fieldNames)

/-- The one of two rules that decides: the more specific one, or else the later. -/
def better (first second : Rule) : Rule :=
  if first.outweighs second then first else second

end Rule

end Filter

/-- A choice of events. -/
structure Filter where
  rules : List Filter.Rule
  deriving DecidableEq, Repr

namespace Filter

/-- The limit that shows every level. -/
def widest : Nat := Level.trace.rank

/-- Shows the levels up to a limit on all topics. -/
def upTo (limit : Nat) : Filter := ⟨[⟨"", none, none, limit⟩]⟩

/-- The rule that decides on an event. -/
def rule? (filter : Filter) (event : Event) : Option Rule :=
  (filter.rules.filter (·.fits event)).foldl
    (fun best rule => some (match best with
      | none => rule
      | some first => first.better rule)) none

/-- Whether an event is shown. -/
def shows (filter : Filter) (event : Event) : Bool :=
  (filter.rule? event).any (event.level.rank ≤ ·.limit)

end Filter

end Foldback.Console
