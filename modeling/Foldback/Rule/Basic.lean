/-
Rules: a condition together with the text it was read from. Two rules are the
same when their flattened conditions are, whatever their spelling.
-/

import Foldback.Rule.Reader
import Foldback.Text.Quoted

namespace Foldback

open Text

/-- A rule text that has no meaning, and why. -/
structure RuleError where
  /-- The whole text. -/
  text : String
  /-- What is wrong with it. -/
  fault : Rule.Fault
  deriving DecidableEq, Repr

namespace RuleError

/-- The message for a rule error. -/
def message (error : RuleError) : String :=
  match error.fault with
  | .badCharacter bad =>
    s!"Invalid character {quotedCharacter bad.character} at position {bad.position} in rule '" ++
      error.text ++ "'"
  | .empty => "Empty rule '" ++ error.text ++ "'"
  | .unexpectedEnd => "Unexpected end of rule '" ++ error.text ++ "': expected an operand"
  | .unexpectedToken token position =>
    s!"Unexpected token '{token.text}' at position {position} in rule '" ++ error.text ++ "'"
  | .unmatchedOpen position =>
    s!"Unmatched '(' at position {position} in rule '" ++ error.text ++ "'"
  | .unmatchedClose position =>
    s!"Unmatched ')' at position {position} in rule '" ++ error.text ++ "'"

end RuleError

/-- A condition that was read from a text. -/
structure Rule where
  /-- The text as it was given. -/
  source : String
  /-- The flattened condition. -/
  condition : Rule.Condition
  deriving Repr

namespace Rule

/-- Reads a rule. -/
def parse (text : String) : Except RuleError Rule :=
  match scan text with
  | .error bad => .error ⟨text, .badCharacter bad⟩
  | .ok tokens =>
    match readCondition tokens with
    | .error fault => .error ⟨text, fault⟩
    | .ok condition => .ok ⟨text, condition.simplify⟩

/-- Whether the rule holds for a category set. -/
def holds (rule : Rule) (active : Categories) : Bool :=
  rule.condition.holds active

/-- The normal spelling of the rule. -/
def text (rule : Rule) : String :=
  rule.condition.text

/-- Whether two rules have the same flattened condition. -/
def same (left right : Rule) : Bool :=
  left.condition == right.condition

end Rule

end Foldback
