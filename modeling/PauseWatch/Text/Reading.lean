/-!
# Reading a text from left to right

A reader takes what it needs from the front of the text and leaves the rest, or fails. Readers that
call themselves take a number that bounds the depth of their calls; one more than the length of the
rest is always enough, as every call takes a character.
-/

namespace PauseWatch.Text

/-- A reader of the characters that are left. -/
abbrev Reading := StateT (List Char) Option

namespace Reading

/-- The next character, which is left where it is. -/
def peek : Reading (Option Char) := do return (← get).head?

/-- Takes the next character, which must be there. -/
def anyChar : Reading Char := do
  match ← get with
  | [] => failure
  | c :: rest =>
    set rest
    return c

/-- Takes a given text if it comes next, and tells whether it did. -/
def accept (text : String) : Reading Bool := do
  match text.toList.isPrefixOf? (← get) with
  | some rest =>
    set rest
    return true
  | none => return false

/-- Takes a given text, which must come next. -/
def expect (text : String) : Reading Unit := do
  unless ← accept text do failure

/-- Takes the characters that satisfy a test, up to the first that does not. -/
def takeWhile (test : Char → Bool) : Reading (List Char) := do
  let chars ← get
  set (chars.dropWhile test)
  return chars.takeWhile test

/-- Takes exactly `n` characters that satisfy a test. -/
def exactly (n : Nat) (test : Char → Bool) : Reading (List Char) := do
  let chars ← get
  let taken := chars.take n
  unless taken.length == n && taken.all test do failure
  set (chars.drop n)
  return taken

/-- Bounds the calls of a reader that takes a character in every call. -/
def bounded {α : Type} (read : Nat → Reading α) : Reading α := do
  read ((← get).length + 1)

/-- Tries a reader; if it fails, nothing is taken and the other one reads. -/
def orElse {α : Type} (first second : Reading α) : Reading α := fun chars =>
  match first chars with
  | some result => some result
  | none => second chars

/-- Runs a reader over a whole text, all of which it has to take. -/
def runAll {α : Type} (read : Reading α) (text : String) : Option α :=
  match read text.toList with
  | some (a, []) => some a
  | _ => none

end Reading

/-- Whether a character is a hexadecimal digit. -/
def isHexDigit (c : Char) : Bool :=
  c.isDigit || ('a' ≤ c && c ≤ 'f') || ('A' ≤ c && c ≤ 'F')

/-- The value of one digit, in which the letters follow the figures. -/
def digitValue (c : Char) : Nat :=
  if c.isDigit then c.toNat - '0'.toNat
  else if 'a' ≤ c && c ≤ 'z' then c.toNat - 'a'.toNat + 10
  else c.toNat - 'A'.toNat + 10

/-- The number that digits of a base stand for. -/
def digitsValue (base : Nat) (digits : List Char) : Nat :=
  digits.foldl (fun n c => n * base + digitValue c) 0

/-- The character with a given number, if there is one. -/
def charOfCode? (n : Nat) : Option Char :=
  if h : n.isValidChar then some (Char.ofNatAux n h) else none

end PauseWatch.Text
