/-!
# Styled text for terminals

A style writes a control sequence before a text and one after it that ends the style.
-/

namespace PauseWatch.Display

/-- A style of text. -/
inductive Style where
  /-- Less bright. -/
  | dim
  /-- Brighter. -/
  | bold
  /-- In red. -/
  | red
  /-- In green. -/
  | green
  /-- In blue. -/
  | blue
  /-- In cyan. -/
  | cyan
  deriving DecidableEq, Repr

/-- The numbers of the control sequences that begin and end a style. -/
def Style.codes : Style → String × String
  | .dim => ("2", "0")
  | .bold => ("1", "0")
  | .red => ("31", "39")
  | .green => ("32", "39")
  | .blue => ("34", "39")
  | .cyan => ("36", "39")

/-- A control sequence that sets how text is shown. -/
def control (code : String) : String := "\x1b[" ++ code ++ "m"

/-- A text in a style. -/
def styled (style : Style) (text : String) : String :=
  control style.codes.1 ++ text ++ control style.codes.2

/-- A tag in bold letters of a colour. -/
def tag (colour : Style) (text : String) : String := styled .bold (styled colour text)

end PauseWatch.Display
