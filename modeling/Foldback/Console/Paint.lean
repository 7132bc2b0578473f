/-
Colored text for a terminal. A color is switched on by an escape sequence in
front of the text and everything is switched off behind it.
-/

namespace Foldback.Console

/-- How a text is shown. -/
inductive Color where
  | red
  | green
  | yellow
  | white
  /-- Less bright than the rest. -/
  | faint
  | bold
  | boldBlue
  deriving DecidableEq, Repr

/-- The parameter of the escape sequence for a color. -/
def Color.code : Color → String
  | .red => "31"
  | .green => "32"
  | .yellow => "33"
  | .white => "37"
  | .faint => "2"
  | .bold => "1"
  | .boldBlue => "1;34"

/-- A text in a color. -/
def paint (color : Color) (text : String) : String :=
  "\x1b[" ++ color.code ++ "m" ++ text ++ "\x1b[0m"

end Foldback.Console
