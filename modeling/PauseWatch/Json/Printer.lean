import PauseWatch.Json.Basic

/-!
# JSON as text

Values are written over several lines, with two blanks for each level and one entry a line. Empty
arrays and objects stay on one line.
-/

namespace PauseWatch.Json

/-- The two digits of a number below 256 in lower-case hexadecimal. -/
def hexPair (n : Nat) : List Char := [Nat.digitChar (n / 16), Nat.digitChar (n % 16)]

/-- One character as it stands in a JSON text. -/
def escapeChar (c : Char) : List Char :=
  if c = '"' then ['\\', '"']
  else if c = '\\' then ['\\', '\\']
  else if c = '\n' then ['\\', 'n']
  else if c = '\r' then ['\\', 'r']
  else if c = '\t' then ['\\', 't']
  else if c = '\x08' then ['\\', 'b']
  else if c = '\x0c' then ['\\', 'f']
  else if c.toNat < 0x20 then ['\\', 'u', '0', '0'] ++ hexPair c.toNat
  else [c]

/-- A text between double quotes. -/
def quote (text : String) : String :=
  String.ofList ('"' :: text.toList.flatMap escapeChar ++ ['"'])

/-- The start of a line at a given depth. -/
def newLine (depth : Nat) : String := String.ofList ('\n' :: List.replicate (2 * depth) ' ')

mutual

/-- A value at a given depth. -/
def renderAt (depth : Nat) : Json → String
  | .null => "null"
  | .bool true => "true"
  | .bool false => "false"
  | .int n => toString n
  | .decimal text => text
  | .str text => quote text
  | .arr [] => "[]"
  | .arr (item :: items) =>
    "[" ++ newLine (depth + 1) ++ renderAt (depth + 1) item ++ renderItems (depth + 1) items
      ++ newLine depth ++ "]"
  | .obj [] => "\x7b\x7d"
  | .obj ((key, value) :: entries) =>
    "\x7b" ++ newLine (depth + 1) ++ quote key ++ ": " ++ renderAt (depth + 1) value
      ++ renderEntries (depth + 1) entries ++ newLine depth ++ "\x7d"

/-- The items of an array after the first. -/
def renderItems (depth : Nat) : List Json → String
  | [] => ""
  | item :: items => "," ++ newLine depth ++ renderAt depth item ++ renderItems depth items

/-- The entries of an object after the first. -/
def renderEntries (depth : Nat) : List (String × Json) → String
  | [] => ""
  | (key, value) :: entries =>
    "," ++ newLine depth ++ quote key ++ ": " ++ renderAt depth value
      ++ renderEntries depth entries

end

/-- A value as text. -/
def render (value : Json) : String := renderAt 0 value

end PauseWatch.Json
