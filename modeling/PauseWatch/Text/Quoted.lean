import PauseWatch.Text.Printable

/-!
# Texts in double quotes

A quoted text shows every character either as itself or as an escape that starts with a backslash,
so that nothing in it is invisible.
-/

namespace PauseWatch.Text.Quoted

/-- The number of a character in lower-case hexadecimal digits. -/
def hex (c : Char) : List Char := Nat.toDigits 16 c.toNat

/-- One character as it stands between double quotes. -/
def encodeChar (c : Char) : List Char :=
  if c = '\x00' then ['\\', '0']
  else if c = '\t' then ['\\', 't']
  else if c = '\r' then ['\\', 'r']
  else if c = '\n' then ['\\', 'n']
  else if c = '\\' then ['\\', '\\']
  else if c = '"' then ['\\', '"']
  else if isPrintable c then [c]
  else ['\\', 'u', '\x7b'] ++ hex c ++ ['\x7d']

/-- A text in double quotes. -/
def render (text : String) : String :=
  String.ofList ('"' :: text.toList.flatMap encodeChar ++ ['"'])

/-- A list of texts in double quotes, between brackets. -/
def renderList (texts : List String) : String :=
  "[" ++ ", ".intercalate (texts.map render) ++ "]"

end PauseWatch.Text.Quoted
