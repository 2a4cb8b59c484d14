import PauseWatch.Json.Basic
import PauseWatch.Text.Reading

/-!
# Scalars of TOML

Texts in four forms, whole numbers in four bases, floating-point numbers, truth values, dates and
times. Floating-point numbers, dates and times are checked and then kept as they are written, since
no record of this library has a field for them.
-/

namespace PauseWatch.Toml

open Text Text.Reading

/-- The blanks inside a line. -/
def isBlankChar (c : Char) : Bool := c == ' ' || c == '\t'

/-- The characters that a comment or a text may hold: the tab and everything but controls. -/
def isContentChar (c : Char) : Bool := c == '\t' || (0x20 ≤ c.toNat && c.toNat != 0x7F)

/-- Takes the blanks that come next. -/
def blanks : Reading Unit := discard (takeWhile isBlankChar)

/-- Takes a line end if it comes next, and tells whether it did. -/
def lineEnd : Reading Bool := do
  if ← accept "\n" then return true
  accept "\r\n"

/-- What follows blanks, line ends and comments; a comment may hold no control characters and has
to end with its line. -/
def afterSpace (inComment : Bool) : List Char → Option (List Char)
  | [] => some []
  | '\n' :: rest => afterSpace false rest
  | '\r' :: '\n' :: rest => afterSpace false rest
  | c :: rest =>
    if inComment then if isContentChar c then afterSpace true rest else none
    else if isBlankChar c then afterSpace false rest
    else if c == '#' then afterSpace true rest
    else some (c :: rest)

/-- Takes blanks, line ends and comments. -/
def space : Reading Unit := do
  match afterSpace false (← get) with
  | some rest => set rest
  | none => failure

/-- Takes the blanks and the comment at the end of a line, and the line end unless the text ends. -/
def lineRest : Reading Unit := do
  blanks
  if ← accept "#" then discard (takeWhile isContentChar)
  unless ← lineEnd do
    unless (← get).isEmpty do failure

/-- Reads a character given by its number in a fixed number of hexadecimal digits. -/
def unicodeEscape (width : Nat) : Reading Char := do
  let digits ← exactly width isHexDigit
  match charOfCode? (digitsValue 16 digits) with
  | some c => return c
  | none => failure

/-- Reads what follows a backslash. -/
def escaped : Reading Char := do
  match ← anyChar with
  | 'b' => return '\x08'
  | 't' => return '\t'
  | 'n' => return '\n'
  | 'f' => return '\x0c'
  | 'r' => return '\r'
  | '"' => return '"'
  | '\\' => return '\\'
  | 'u' => unicodeEscape 4
  | 'U' => unicodeEscape 8
  | _ => failure

/-- Reads a text between double quotes, from after the opening quote on. -/
def basicRest : Nat → Reading (List Char)
  | 0 => failure
  | fuel + 1 => do
    match ← anyChar with
    | '"' => return []
    | '\\' =>
      let c ← escaped
      return c :: (← basicRest fuel)
    | c =>
      unless isContentChar c do failure
      return c :: (← basicRest fuel)

/-- Reads a text between single quotes, from after the opening quote on. -/
def literalRest : Reading (List Char) := do
  let chars ← takeWhile fun c => isContentChar c && c != '\x27'
  expect "'"
  return chars

/-- Takes the quotes that end a text of several lines, and returns the one or two before them that
still belong to the text. -/
def closingQuotes (quote : Char) : Reading (Option (List Char)) := do
  let run := (← get).takeWhile (· == quote)
  if run.length < 3 then return none
  let extra := min (run.length - 3) 2
  modify (·.drop (extra + 3))
  return some (run.take extra)

/-- Takes a line end, blanks and further line ends after a backslash at the end of a line; fails if
there is no line end. -/
def joinedLine : Reading Unit := do
  blanks
  unless ← lineEnd do failure
  discard (bounded lines)
where
  /-- Takes blanks and line ends. -/
  lines : Nat → Reading Unit
    | 0 => failure
    | fuel + 1 => do
      blanks
      if ← lineEnd then lines fuel

/-- Reads a text of several lines between double quotes, from after the opening quotes on. -/
def multiBasicRest : Nat → Reading (List Char)
  | 0 => failure
  | fuel + 1 => do
    match ← closingQuotes '"' with
    | some extra => return extra
    | none =>
      if ← lineEnd then return '\n' :: (← multiBasicRest fuel)
      match ← anyChar with
      | '\\' =>
        match ← peek with
        | some c =>
          if isBlankChar c || c == '\n' || c == '\r' then
            joinedLine
            multiBasicRest fuel
          else
            let c ← escaped
            return c :: (← multiBasicRest fuel)
        | none => failure
      | c =>
        unless isContentChar c do failure
        return c :: (← multiBasicRest fuel)

/-- Reads a text of several lines between single quotes, from after the opening quotes on. -/
def multiLiteralRest : Nat → Reading (List Char)
  | 0 => failure
  | fuel + 1 => do
    match ← closingQuotes '\x27' with
    | some extra => return extra
    | none =>
      if ← lineEnd then return '\n' :: (← multiLiteralRest fuel)
      let c ← anyChar
      unless isContentChar c do failure
      return c :: (← multiLiteralRest fuel)

/-- Reads a text in any of its forms. -/
def text : Reading String := do
  if ← accept "\"\"\"" then
    discard lineEnd
    return String.ofList (← bounded multiBasicRest)
  else if ← accept "\"" then return String.ofList (← bounded basicRest)
  else if ← accept "'''" then
    discard lineEnd
    return String.ofList (← bounded multiLiteralRest)
  else
    expect "'"
    return String.ofList (← literalRest)

/-- Reads digits of which a test decides, with single underscores between them. -/
def digitRun (isDigit : Char → Bool) : Reading (List Char) := do
  let chars ← takeWhile fun c => isDigit c || c == '_'
  let rec wellFormed : Bool → List Char → Bool
    | afterDigit, [] => afterDigit
    | afterDigit, c :: rest => if c == '_' then afterDigit && wellFormed false rest
      else wellFormed true rest
  unless wellFormed false chars do failure
  return chars.filter (· != '_')

/-- The whole number between the least and the greatest of 64 bits. -/
def inRange (n : Int) : Reading Json :=
  if -9223372036854775808 ≤ n ∧ n ≤ 9223372036854775807 then return .int n else failure

/-- Reads a whole number in a base other than ten, from after its mark on. -/
def basedInteger (base : Nat) (isDigit : Char → Bool) : Reading Json := do
  inRange (digitsValue base (← digitRun isDigit))

/-- Reads a sign, and tells whether it is that of a negative number. -/
def sign : Reading Bool := do
  if ← accept "-" then return true
  discard (accept "+")
  return false

/-- Reads the digits of a whole number, which start with a zero only if there is no other. -/
def wholeDigits : Reading (List Char) := do
  let digits ← digitRun Char.isDigit
  match digits with
  | '0' :: _ :: _ => failure
  | _ => return digits

/-- The least whole number that floating-point numbers round to infinity. -/
def leastHuge : Nat := Nat.pow 2 1024 - Nat.pow 2 970

/-- Whether the digits of a number times a power of ten round to infinity. -/
def isHuge (digits : List Char) (exponent : Int) : Bool :=
  let n := digitsValue 10 digits
  if n = 0 then false
  else if 400 < exponent + (Nat.toDigits 10 n).length then true
  else if exponent < 0 then
    if exponent < -100000 then false
    else leastHuge * Nat.pow 10 (-exponent).toNat ≤ n
  else leastHuge ≤ n * Nat.pow 10 exponent.toNat

/-- Reads the exponent of a number, if there is one. -/
def exponent : Reading (Option Int) := do
  unless (← accept "e") || (← accept "E") do return none
  let negative ← sign
  let n : Int := digitsValue 10 (← digitRun Char.isDigit)
  return some (if negative then -n else n)

/-- Reads a floating-point number. -/
def float : Reading Json := do
  let negative ← sign
  if (← accept "inf") || (← accept "nan") then return .decimal "nan"
  let whole ← wholeDigits
  let fraction ← if ← accept "." then some <$> digitRun Char.isDigit else pure none
  let power ← exponent
  if fraction.isNone && power.isNone then failure
  let places := fraction.getD []
  if !negative && isHuge (whole ++ places) (power.getD 0 - places.length) then failure
  return .decimal (String.ofList (whole ++ '.' :: places))

/-- Reads a whole number. -/
def integer : Reading Json := do
  if ← accept "0x" then basedInteger 16 isHexDigit
  else if ← accept "0o" then basedInteger 8 fun c => '0' ≤ c && c ≤ '7'
  else if ← accept "0b" then basedInteger 2 fun c => c == '0' || c == '1'
  else
    let negative ← sign
    let n : Int := digitsValue 10 (← wholeDigits)
    inRange (if negative then -n else n)

/-- Reads a number of `width` digits from `low` up to `high`. -/
def field (width low high : Nat) : Reading Nat := do
  let n := digitsValue 10 (← exactly width Char.isDigit)
  unless low ≤ n && n ≤ high do failure
  return n

/-- The number of days of a month. -/
def daysIn (year month : Nat) : Nat :=
  if month == 2 then
    if year % 4 == 0 && (year % 100 != 0 || year % 400 == 0) then 29 else 28
  else if month ∈ [4, 6, 9, 11] then 30 else 31

/-- Reads a date. -/
def date : Reading Unit := do
  let year ← field 4 0 9999
  expect "-"
  let month ← field 2 1 12
  expect "-"
  discard (field 2 1 (daysIn year month))

/-- Reads a time of day. -/
def time : Reading Unit := do
  discard (field 2 0 23)
  expect ":"
  discard (field 2 0 59)
  expect ":"
  discard (field 2 0 60)
  if ← accept "." then
    if (← takeWhile Char.isDigit).isEmpty then failure

/-- Reads how far a time is from universal time, if it says so. -/
def offset : Reading Unit := do
  if (← accept "Z") || (← accept "z") then return
  if (← accept "+") || (← accept "-") then
    discard (field 2 0 23)
    expect ":"
    discard (field 2 0 59)

/-- Reads a date with or without a time of day, or a time of day alone. -/
def dateTime : Reading Json :=
  orElse
    (do
      date
      let next := (← get).head?
      let dated ← get
      if next == some 'T' || next == some 't' then
        discard anyChar
        time
        offset
      else if next == some ' ' && (dated.drop 1).head?.any Char.isDigit then
        discard anyChar
        time
        offset
      return .decimal "date")
    (do
      time
      return .decimal "time")

/-- Reads a number, a date or a time. -/
def numeric : Reading Json := orElse dateTime (orElse float integer)

/-- Reads a scalar. -/
def scalar : Reading Json := do
  match ← peek with
  | none => failure
  | some c =>
    if c == '"' || c == '\x27' then return .str (← text)
    else if c == 't' then
      expect "true"
      return .bool true
    else if c == 'f' then
      expect "false"
      return .bool false
    else numeric

end PauseWatch.Toml
