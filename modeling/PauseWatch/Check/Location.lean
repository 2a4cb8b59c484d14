import PauseWatch.Json.Basic

/-!
# Places in a text

A place is given by its offset in bytes and, for readers, by its line and its column in characters,
both counted from one. Lines end at line feeds only.
-/

namespace PauseWatch

/-- A place in a text. -/
structure Location where
  /-- The number of bytes before the place. -/
  offset : Nat
  /-- The line, counted from one. -/
  line : Nat
  /-- The column in characters, counted from one. -/
  column : Nat
  deriving DecidableEq, Repr

namespace Location

/-- The number of bytes of characters. -/
def byteLength : List Char → Nat
  | [] => 0
  | c :: rest => c.utf8Size + byteLength rest

/-- The place that follows the given characters at the start of a text. -/
def after (before : List Char) : Location where
  offset := byteLength before
  line := before.count '\n' + 1
  column := (before.reverse.takeWhile (· != '\n')).length + 1

/-- The characters before a given offset in bytes. -/
def charsBefore : Nat → List Char → List Char
  | _, [] => []
  | offset, c :: rest =>
    if c.utf8Size ≤ offset then c :: charsBefore (offset - c.utf8Size) rest else []

/-- The place at a given offset in bytes, which lies between two characters of the text. -/
def ofOffset (text : String) (offset : Nat) : Location := after (charsBefore offset text.toList)

/-- The place in words. -/
def describe (l : Location) : String :=
  "line " ++ toString l.line ++ ", column " ++ toString l.column

/-- A place in JSON. -/
def toJson (l : Location) : Json :=
  .obj [("offset", .nat l.offset), ("line", .nat l.line), ("column", .nat l.column)]

end Location

end PauseWatch
