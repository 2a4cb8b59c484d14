/-!
# Names in messages

Messages show names so that a shell would read them back, or between quotes with the signs that
cannot be seen as escapes. A name has one character a byte.
-/

namespace PauseWatch.Tool

/-- Whether a character can be seen. -/
def isVisible (c : Char) : Bool := ' ' ≤ c && c ≤ '~'

/-- A character as the octal digits of its number. -/
def octalEscape (c : Char) : List Char :=
  let digit (unit : Nat) : Char := Nat.digitChar (c.toNat / unit % 8)
  ['\\', digit 64, digit 8, digit 1]

/-- The escape of a character that cannot be seen. -/
def invisible (c : Char) : List Char :=
  let letters : List (Char × Char) :=
    [('\x07', 'a'), ('\x08', 'b'), ('\t', 't'), ('\n', 'n'), ('\x0b', 'v'), ('\x0c', 'f'),
      ('\r', 'r')]
  (letters.lookup c).elim (octalEscape c) fun letter => ['\\', letter]

/-- A text between single quotes, where quotes and backslashes have a backslash before them. -/
def quoted (text : String) : String :=
  let shown (c : Char) : List Char :=
    if c = '\x27' || c = '\\' then ['\\', c] else if isVisible c then [c] else invisible c
  "'" ++ String.ofList (text.toList.flatMap shown) ++ "'"

/-- The signs that mean something to a shell wherever they stand. -/
def shellSigns : List Char := " !\"$&()*;<=>[^\x60|\\?'".toList

/-- Whether a shell would take a name for something else. -/
def isRisky (text : String) : Bool :=
  text = "" || text = "\x7b" || text = "\x7d"
    || text.toList.any (fun c => !isVisible c || shellSigns.contains c)
    || (match text.toList with
      | c :: _ => c = '#' || c = '~'
      | [] => false)

/-- Whether a name that has single quotes can stand between double ones. -/
def isTame (text : String) : Bool :=
  text.toList.zipIdx.all fun (c, i) =>
    c = ' ' || c = '\x27' || (isVisible c && !shellSigns.contains c
      && (c ≠ '#' && c ≠ '~' || i = 0) && c ≠ '\x7b' && c ≠ '\x7d')

/-- A name between single quotes, where signs that cannot be seen stand between quotes of their own
behind a dollar; whether such quotes are open is said first. -/
def shellChars : Bool → List Char → List Char
  | _, [] => []
  | isOpen, c :: rest =>
    if c = '\x27' then ['\x27', '\\', '\x27', '\x27'] ++ shellChars false rest
    else if isVisible c then
      (if isOpen then ['\x27', '\x27'] else []) ++ c :: shellChars false rest
    else (if isOpen then [] else ['\x27', '$', '\x27']) ++ invisible c ++ shellChars true rest

/-- A name between quotes, as a shell reads it. -/
def shellQuoted (text : String) : String :=
  if text.contains '\x27' && isTame text then "\"" ++ text ++ "\""
  else "'" ++ String.ofList (shellChars false text.toList) ++ "'"

/-- A name as a shell reads it, between quotes only if they are needed. -/
def shellNamed (text : String) : String := if isRisky text then shellQuoted text else text

end PauseWatch.Tool
