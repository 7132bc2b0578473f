/-
Which patterns can be used. A pattern must be well formed and must not be nested
too deep. It must not need a table of characters: where characters are meant,
these are the classes by a letter and everything that ignores case. Where bytes
are meant, nothing may match a byte outside of ASCII. And edges of words are
known where bytes are meant only.

These are rules of a package outside of the program, which are followed here; no
theorem of the library rests on them.
-/

import Foldback.Pattern.Reader

namespace Foldback.Pattern

/-- The switches that decide what can be used. -/
structure Mode where
  ignoreCase : Bool
  unicode : Bool
  deriving DecidableEq, Repr

/-- The mode at the start of a pattern. -/
def Mode.start : Mode := ⟨false, true⟩

/-- The mode after some switches are set. -/
def Mode.change (mode : Mode) (switches : Switches) : Mode :=
  ⟨switches.position .ignoreCase mode.ignoreCase, switches.position .unicode mode.unicode⟩

/-- Whether a set can hold the characters up to some character. -/
def Mode.allows (mode : Mode) (high : Char) : Bool :=
  if mode.unicode then !mode.ignoreCase else high.toNat < 0x80

/-- Whether a class by a letter can be used. -/
def Mode.allowsShorthand (mode : Mode) (letter : Char) : Bool :=
  !mode.unicode && letter.isLower

/-- Whether something negated can be used. -/
def Mode.allowsNegation (mode : Mode) (negated : Bool) : Bool :=
  mode.unicode || !negated

mutual

/-- Whether the members of a set can be used. -/
def Members.isUsable (mode : Mode) : Members → Bool
  | .empty => true
  | .literal character => mode.allows character
  | .range _ high => mode.allows high
  | .named negated => mode.allows 'z' && mode.allowsNegation negated
  | .shorthand letter => mode.allowsShorthand letter
  | .nested negated members => mode.allowsNegation negated && members.isUsable mode
  | .union elements => Members.areUsable mode elements
  | .joined left right => left.isUsable mode && right.isUsable mode

/-- Whether some elements of a set can be used. -/
def Members.areUsable (mode : Mode) : List Members → Bool
  | [] => true
  | first :: rest => first.isUsable mode && Members.areUsable mode rest

end

/-- What is known behind a part of a pattern that can be used. -/
structure Survey where
  /-- The mode for what follows. -/
  mode : Mode
  /-- Whether edges of words between characters have been met. -/
  wordEdges : Bool
  deriving DecidableEq, Repr

namespace Survey

/-- Goes on if a condition holds. -/
def onlyIf (survey : Survey) (usable : Bool) : Option Survey :=
  if usable then some survey else none

mutual

/-- Goes through a pattern. -/
def through (survey : Survey) : Pattern → Option Survey
  | .empty => some survey
  | .anchor => some survey
  | .setting switches => some { survey with mode := survey.mode.change switches }
  | .literal character byte =>
    survey.onlyIf (if survey.mode.unicode then !survey.mode.ignoreCase
      else !byte || character.toNat < 0x80)
  | .any => survey.onlyIf survey.mode.unicode
  | .wordEdge => some { survey with wordEdges := survey.wordEdges || survey.mode.unicode }
  | .shorthand letter => survey.onlyIf (survey.mode.allowsShorthand letter)
  | .set negated members =>
    survey.onlyIf (survey.mode.allowsNegation negated && members.isUsable survey.mode)
  | .group switches inner => do
    let behind ← through { survey with mode := survey.mode.change switches } inner
    pure { behind with mode := survey.mode }
  | .repetition inner => through survey inner
  | .sequence parts => throughAll survey parts
  | .alternatives branches => throughAll survey branches

/-- Goes through some patterns, one after the other. -/
def throughAll (survey : Survey) : List Pattern → Option Survey
  | [] => some survey
  | first :: rest => do
    let behind ← through survey first
    throughAll behind rest

end

end Survey

/-- Why a pattern cannot be used. -/
inductive Fault where
  /-- It is not well formed, too deep, or needs what is not there. -/
  | unusable
  /-- It asks for edges of words between characters. -/
  | wordEdges
  deriving DecidableEq, Repr

/-- The message for a pattern that cannot be used. -/
def Fault.message : Fault → String
  | .unusable => "error building NFA"
  | .wordEdges =>
    "unsupported regex feature for DFAs: cannot build DFAs for regexes with Unicode word " ++
      "boundaries; switch to ASCII word boundaries, or heuristically enable Unicode word " ++
      "boundaries or use a different regex engine"

/-- How deep a pattern may be nested. -/
def deepest : Nat := 250

/-- What is wrong with a pattern, if anything is. -/
def fault? (text : List Char) : Option Fault :=
  match read text with
  | none => some .unusable
  | some pattern =>
    if deepest < pattern.depth then some .unusable
    else
      match Survey.through ⟨Mode.start, false⟩ pattern with
      | none => some .unusable
      | some survey => if survey.wordEdges then some .wordEdges else none

end Foldback.Pattern
