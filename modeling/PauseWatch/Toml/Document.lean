import PauseWatch.Toml.Scalar
import PauseWatch.Toml.Tree

/-!
# TOML documents

A document is a list of lines, each of which is blank, gives a key a value, or is the header of a
table. The result is one object with all tables in their places. A mark for the order of bytes at
the start of the text is passed over.
-/

namespace PauseWatch.Toml

open Text Text.Reading

/-- How many parts a key may have, and how deep arrays and tables may nest in a value. -/
def depthLimit : Nat := 80

/-- Whether a character may stand in a key without quotes. -/
def isKeyChar (c : Char) : Bool := c.isAlphanum || c == '_' || c == '-'

/-- Reads one part of a key. -/
def keyPart : Reading String := do
  if ← accept "\"" then return String.ofList (← bounded basicRest)
  else if ← accept "'" then return String.ofList (← literalRest)
  else
    let chars ← takeWhile isKeyChar
    if chars.isEmpty then failure
    return String.ofList chars

/-- Reads a key with blanks around its parts: all parts but the last, and the last. -/
def key : Reading (List String × String) := bounded fun fuel => go fuel []
where
  /-- Reads the parts of a key after those read so far, which stand last first. -/
  go : Nat → List String → Reading (List String × String)
    | 0, _ => failure
    | fuel + 1, before => do
      blanks
      let part ← keyPart
      blanks
      if ← accept "." then go fuel (part :: before)
      else
        if depthLimit ≤ before.length + 1 then failure
        return (before.reverse, part)

mutual

/-- Reads a value at a given depth. -/
def value (fuel depth : Nat) : Reading Json :=
  match fuel with
  | 0 => failure
  | fuel + 1 => do
    if ← accept "[" then
      if depthLimit ≤ depth + 1 then failure
      return .arr (← items fuel (depth + 1))
    else if ← accept "\x7b" then
      if depthLimit ≤ depth + 1 then failure
      blanks
      if ← accept "\x7d" then return .obj []
      return .obj (Tree.entriesToJson (← entries fuel (depth + 1) []))
    else scalar

/-- Reads the items of an array and its closing bracket. A comma may follow the last item. -/
def items (fuel depth : Nat) : Reading (List Json) :=
  match fuel with
  | 0 => failure
  | fuel + 1 => do
    space
    if ← accept "]" then return []
    let item ← value fuel depth
    space
    if ← accept "," then return item :: (← items fuel depth)
    expect "]"
    return [item]

/-- Reads the entries of a table between braces, after some, and its closing brace. No comma may
follow the last entry. -/
def entries (fuel depth : Nat) (before : Entries) : Reading Entries :=
  match fuel with
  | 0 => failure
  | fuel + 1 => do
    let (path, last) ← key
    expect "="
    blanks
    let v ← value fuel depth
    blanks
    let some after := Entries.addValue path last v before | failure
    if ← accept "," then entries fuel depth after
    else
      expect "\x7d"
      return after

end

/-- Reads the lines of a document after some, under the header that came last. -/
def lines : Nat → List String → Entries → Reading Entries
  | 0, _, _ => failure
  | fuel + 1, header, before => do
    blanks
    match ← peek with
    | none => return before
    | some '#' =>
      lineRest
      lines fuel header before
    | some '[' =>
      let isItem ← do
        discard anyChar
        accept "["
      let (path, last) ← key
      expect (if isItem then "]]" else "]")
      lineRest
      let opened := if isItem then before.openItem path last else before.openTable path last
      let some after := opened | failure
      lines fuel (path ++ [last]) after
    | some c =>
      if c == '\n' || c == '\r' then
        unless ← lineEnd do failure
        lines fuel header before
      else
        let (path, last) ← key
        expect "="
        blanks
        let v ← bounded fun fuel => value (2 * fuel) 0
        lineRest
        let some after := before.addUnder header path last v | failure
        lines fuel header after

/-- The object that a TOML text stands for. -/
def ofText? (text : String) : Option Json :=
  let document : Reading Entries := do
    discard (accept "\ufeff")
    bounded fun fuel => lines fuel [] []
  (document.runAll text).map fun entries => .obj (Tree.entriesToJson entries)

end PauseWatch.Toml
