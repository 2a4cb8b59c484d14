import PauseWatch.Text.Reading

/-!
# Escapes

Texts in which a backslash gives the characters behind it another meaning. A text has one character
a byte.
-/

namespace PauseWatch.Tool

/-- Which escapes a text has. -/
inductive Escapes where
  /-- Those of a format. -/
  | format
  /-- Those of an argument, in which octal digits can follow a zero and the output can be cut
  short. -/
  | argument
  /-- Those of a text that is echoed; what makes no sense in it stands for itself. -/
  | echo
  deriving DecidableEq, Repr

/-- How much escapes and formats can say. -/
inductive Wealth where
  /-- What a shell knows of its own. -/
  | plain
  /-- What the program of the same name knows as well, among it digits in hexadecimal. -/
  | rich
  deriving DecidableEq, Repr

/-- Whether a character is an octal digit. -/
def isOctal (c : Char) : Bool := '0' ≤ c && c ≤ '7'

/-- The byte that digits of a base stand for. -/
def byteOf (base : Nat) (digits : List Char) : Char :=
  Char.ofNat (Text.digitsValue base digits % 256)

/-- The escapes of one letter. -/
def letterEscape? (c : Char) : Option Char :=
  ([('\\', '\\'), ('a', '\x07'), ('b', '\x08'), ('e', '\x1b'), ('f', '\x0c'), ('n', '\n'),
    ('r', '\r'), ('t', '\t'), ('v', '\x0b')] : List (Char × Char)).lookup c

/-- Why characters are not written to their end. -/
inductive Halt where
  /-- An escape says so. -/
  | cut
  /-- A directive makes no sense. -/
  | unknown (directive : String)
  /-- A directive does not end. -/
  | unfinished (directive : String)
  /-- A directive asks for more characters than there can be. -/
  | tooLong
  /-- An escape lacks its digits. -/
  | noDigits
  /-- An escape gives the number of no character. -/
  | noCharacter (text : String)
  deriving DecidableEq, Repr

/-- What an escape means. -/
inductive Meaning where
  /-- Some characters; what follows the escape stands beside them. -/
  | chars (chars rest : List Char)
  /-- The end. -/
  | halt (halt : Halt)
  /-- Nothing: the backslash stands for itself. -/
  | nothing
  deriving DecidableEq, Repr

/-- What a character means that is given by so many digits behind a letter. Characters that take
more than one byte are shown by their numbers. -/
def codeMeaning (letter : Char) (count : Nat) (after : List Char) : Meaning :=
  let digits := (after.take count).takeWhile Text.isHexDigit
  let n := Text.digitsValue 16 digits
  let shown (width : Nat) : List Char :=
    let digits := Nat.toDigits 16 n
    List.replicate (width - digits.length) '0' ++ digits
  if digits.length < count then .halt .noDigits
  else if 0xd800 ≤ n && n ≤ 0xdfff then
    .halt (.noCharacter (String.ofList ('\\' :: letter :: shown count)))
  else if n < 128 then .chars [Char.ofNat n] (after.drop count)
  else
    let lead := if n < 0x10000 then ['\\', 'u'] else ['\\', 'U']
    let width := if n < 0x10000 then 4 else 8
    .chars (lead ++ (shown width).map Char.toUpper) (after.drop count)

/-- What an escape means, given what follows the backslash. -/
def escapeMeaning (kind : Escapes) (wealth : Wealth) (rest : List Char) : Meaning :=
  match rest with
  | [] => .nothing
  | c :: after =>
    let isStrict := wealth = .rich && kind ≠ .echo
    if isOctal c then
      let zero := kind ≠ .format && c = '0'
      let digits := ((if zero then after else rest).take 3).takeWhile isOctal
      .chars [byteOf 8 digits] ((if zero then after else rest).drop digits.length)
    else if c = 'c' then
      if wealth = .plain && kind = .format then .nothing else .halt .cut
    else if wealth = .rich && c = 'x' then
      match (after.take 2).takeWhile Text.isHexDigit with
      | [] => if isStrict then .halt .noDigits else .nothing
      | digits => .chars [byteOf 16 digits] (after.drop digits.length)
    else if isStrict && (c = 'u' || c = 'U') then codeMeaning c (if c = 'u' then 4 else 8) after
    else if isStrict && c = '"' then .chars ['"'] after
    else match letterEscape? c with
      | some c => .chars [c] after
      | none => .nothing

/-- A text with its escapes carried out, and why it stops early. -/
def unescape (kind : Escapes) (wealth : Wealth) : Nat → List Char → List Char × Option Halt
  | 0, _ | _, [] => ([], none)
  | fuel + 1, '\\' :: rest =>
    match escapeMeaning kind wealth rest with
    | .halt halt => ([], some halt)
    | .chars chars rest =>
      let (more, halt) := unescape kind wealth fuel rest
      (chars ++ more, halt)
    | .nothing =>
      let (more, halt) := unescape kind wealth fuel rest
      ('\\' :: more, halt)
  | fuel + 1, c :: rest =>
    let (more, halt) := unescape kind wealth fuel rest
    (c :: more, halt)

/-- The text that echo writes where escapes have a meaning. -/
def echoText (wealth : Wealth) (text : String) (endsLine : Bool) : String :=
  match unescape .echo wealth (text.length + 1) text.toList with
  | (chars, some _) => String.ofList chars
  | (chars, none) => String.ofList (chars ++ if endsLine then ['\n'] else [])

end PauseWatch.Tool
