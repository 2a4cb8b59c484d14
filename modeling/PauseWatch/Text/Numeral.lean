import PauseWatch.Text.Reading

/-!
# Numerals of real numbers

A numeral is read as an exact fraction, rounded to as many binary digits as a number can hold, and
written with some number of decimal places. Every rounding goes to the nearest neighbour, and to the
even one from the middle.
-/

namespace PauseWatch.Text.Numeral

/-- A number that is not negative, as a fraction; a denominator is never zero. -/
structure Size where
  /-- The numerator. -/
  num : Nat
  /-- The denominator. -/
  den : Nat := 1
  deriving DecidableEq, Repr

/-- A real number, or something in the place of one. -/
inductive Real where
  /-- A number. -/
  | finite (isNegative : Bool) (size : Size)
  /-- Too large for a number. -/
  | infinite (isNegative : Bool)
  /-- No number. -/
  | undefined (isNegative : Bool)
  deriving DecidableEq, Repr

/-- How numbers are held. -/
structure Format where
  /-- The number of binary digits. -/
  bits : Nat
  /-- The greatest number of binary digits that can stand behind the point. -/
  places : Nat
  /-- The number of binary digits from which on a number is too large. -/
  limit : Nat
  deriving DecidableEq, Repr

/-- Numbers in eight bytes. -/
def double : Format := ⟨53, 1074, 1024⟩

/-- Numbers in ten bytes. -/
def extended : Format := ⟨64, 16445, 16384⟩

/-- A quotient as the nearest whole number, and as the even one from the middle. -/
def roundDiv (a b : Nat) : Nat :=
  let q := a / b
  let twice := 2 * (a % b)
  if twice < b then q else if b < twice then q + 1 else q + q % 2

/-- A fraction times a power of a base, which can be negative. -/
def Size.scale (s : Size) (base : Nat) (power : Int) : Size :=
  if 0 ≤ power then ⟨s.num * Nat.pow base power.toNat, s.den⟩
  else ⟨s.num, s.den * Nat.pow base (-power).toNat⟩

/-- The greatest power of a base that is at most a fraction, found from a guess that is off by
one at most. -/
def Size.powerFrom (s : Size) (base : Nat) (guess : Int) : Int :=
  let isAtMost (power : Int) : Bool :=
    let unit := (⟨1, 1⟩ : Size).scale base power
    unit.num * s.den ≤ s.num * unit.den
  if isAtMost (guess + 1) then guess + 1 else if isAtMost guess then guess else guess - 1

/-- The greatest power of two that is at most a fraction. -/
def Size.binaryPower (s : Size) : Int := s.powerFrom 2 ((s.num.log2 : Int) - s.den.log2)

/-- How many decimal digits a number has. -/
def digitCount (n : Nat) : Nat := (Nat.toDigits 10 n).length

/-- The greatest power of ten that is at most a fraction. -/
def Size.decimalPower (s : Size) : Int :=
  s.powerFrom 10 ((digitCount s.num : Int) - digitCount s.den)

/-- A fraction as it can be held; nothing if it is too large. Whether it was too small to be held
well stands beside it. -/
def Size.round (f : Format) (s : Size) : Option Size × Bool :=
  if s.num = 0 then (some ⟨0, 1⟩, false)
  else
    let exact := s.binaryPower - f.bits + 1
    let power := max exact (-(f.places : Int))
    let scaled := s.scale 2 (-power)
    let held := (⟨roundDiv scaled.num scaled.den, 1⟩ : Size).scale 2 power
    let isExact := held.num * s.den = s.num * held.den
    if (Nat.pow 2 f.limit) * held.den ≤ held.num then (none, true)
    else (some held, exact < power && !isExact)

/-! ## Reading -/

/-- The greatest power of ten that is looked at. -/
def greatestPower : Nat := 30000

/-- Reads the power behind a letter, if there is one. -/
def powerOf (letter : Char) (chars : List Char) : Int × List Char :=
  match chars with
  | c :: rest =>
    if c.toLower != letter then (0, chars)
    else
      let (isNegative, rest) := match rest with
        | '-' :: rest => (true, rest)
        | '+' :: rest => (false, rest)
        | rest => (false, rest)
      let digits := rest.takeWhile Char.isDigit
      if digits = [] then (0, chars)
      else
        let power := min greatestPower (digitsValue 10 digits)
        (if isNegative then -(power : Int) else power, rest.drop digits.length)
  | [] => (0, [])

/-- Reads digits with a point and a power. -/
def sizeOf? (base : Nat) (isDigit : Char → Bool) (letter : Char) (powerBase : Nat)
    (chars : List Char) : Option (Size × List Char) :=
  let whole := chars.takeWhile isDigit
  let rest := chars.drop whole.length
  let (part, rest) : List Char × List Char := match rest with
    | '.' :: tail =>
      let part := tail.takeWhile isDigit
      if whole = [] && part = [] then ([], rest) else (part, tail.drop part.length)
    | rest => ([], rest)
  if whole = [] && part = [] then none
  else
    let (power, rest) := powerOf letter rest
    let size : Size := ⟨digitsValue base (whole ++ part), Nat.pow base part.length⟩
    some (size.scale powerBase power, rest)

/-- Reads a numeral behind its sign. -/
def realOf? (isNegative : Bool) (chars : List Char) : Option (Real × List Char) :=
  let lower := chars.map Char.toLower
  let starts (word : String) : Bool := word.toList.isPrefixOf lower
  if starts "infinity" then some (.infinite isNegative, chars.drop 8)
  else if starts "inf" then some (.infinite isNegative, chars.drop 3)
  else if starts "nan" then some (.undefined isNegative, chars.drop 3)
  else
    let hex : Option (Size × List Char) :=
      if starts "0x" then sizeOf? 16 isHexDigit 'p' 2 (chars.drop 2) else none
    match hex with
    | some (size, rest) => some (.finite isNegative size, rest)
    | none =>
      (sizeOf? 10 Char.isDigit 'e' 10 chars).map fun (size, rest) =>
        (.finite isNegative size, rest)

/-- Reads a numeral behind blanks; what is left stands beside it. -/
def read? (text : String) : Option (Real × List Char) :=
  match text.toList.dropWhile fun c => c = ' ' || ('\t' ≤ c && c ≤ '\r') with
  | '-' :: rest => realOf? true rest
  | '+' :: rest => realOf? false rest
  | rest => realOf? false rest

/-- A number as it can be held, and whether it lies out of range. -/
def Real.round (f : Format) : Real → Real × Bool
  | .finite isNegative size =>
    match size.round f with
    | (some size, isBad) => (.finite isNegative size, isBad)
    | (none, _) => (.infinite isNegative, true)
  | other => (other, false)

/-! ## Writing -/

/-- How numbers are written. -/
inductive Style where
  /-- With a point at its place. -/
  | fixed
  /-- With a power. -/
  | scientific
  /-- As is shorter. -/
  | general
  /-- In hexadecimal. -/
  | hexadecimal
  deriving DecidableEq, Repr

/-- The digits of a number, at least so many. -/
def paddedDigits (base width n : Nat) : List Char :=
  let digits := Nat.toDigits base n
  List.replicate (width - digits.length) '0' ++ digits

/-- A point and the digits behind it; the point stands alone if it is asked for. -/
def withPoint (keepsPoint : Bool) (digits : List Char) : List Char :=
  if digits = [] then (if keepsPoint then ['.'] else []) else '.' :: digits

/-- A fraction with a point at its place and some decimal places. -/
def fixed (keepsPoint : Bool) (places : Nat) (s : Size) : List Char :=
  let digits := paddedDigits 10 (places + 1) (roundDiv (s.num * Nat.pow 10 places) s.den)
  let whole := digits.length - places
  digits.take whole ++ withPoint keepsPoint (digits.drop whole)

/-- The digits of a fraction, one more than the places, and the power of ten of the first. -/
def scientificDigits (places : Nat) (s : Size) : List Char × Int :=
  if s.num = 0 then (List.replicate (places + 1) '0', 0)
  else
    let power := s.decimalPower
    let scaled := s.scale 10 (places - power)
    let n := roundDiv scaled.num scaled.den
    if n < Nat.pow 10 (places + 1) then (Nat.toDigits 10 n, power)
    else (Nat.toDigits 10 (n / 10), power + 1)

/-- A power behind its letter, with so many digits at least. -/
def powerText (letter : Char) (width : Nat) (power : Int) : List Char :=
  letter :: (if power < 0 then '-' else '+') :: paddedDigits 10 width power.natAbs

/-- A fraction with a power of ten and some decimal places. -/
def scientific (keepsPoint : Bool) (places : Nat) (s : Size) : List Char :=
  let (digits, power) := scientificDigits places s
  digits.take 1 ++ withPoint keepsPoint (digits.drop 1) ++ powerText 'e' 2 power

/-- Leaves out zeros at the end. -/
def withoutZeros (digits : List Char) : List Char := (digits.reverse.dropWhile (· = '0')).reverse

/-- A fraction with some number of digits, with a power of ten only if it is very large or small. -/
def general (keepsPoint : Bool) (precision : Nat) (s : Size) : List Char :=
  let places := precision - 1
  let (digits, power) := scientificDigits places s
  let trim (digits : List Char) : List Char :=
    if keepsPoint then digits else withoutZeros digits
  if -4 ≤ power && power ≤ places then
    if power < 0 then
      '0' :: withPoint keepsPoint (trim (List.replicate (-power - 1).toNat '0' ++ digits))
    else
      digits.take (power.toNat + 1) ++ withPoint keepsPoint (trim (digits.drop (power.toNat + 1)))
  else digits.take 1 ++ withPoint keepsPoint (trim (digits.drop 1)) ++ powerText 'e' 2 power

/-- A fraction in hexadecimal, as numbers of a format are held. -/
def hexadecimal (f : Format) (keepsPoint : Bool) (places : Option Nat) (s : Size) : List Char :=
  let lead := if f.bits % 4 = 0 then 4 else 1
  let all := (f.bits - lead) / 4
  if s.num = 0 then
    ['0', 'x', '0'] ++ withPoint keepsPoint (List.replicate (places.getD 0) '0') ++ ['p', '+', '0']
  else
    let power := s.binaryPower - (lead - 1)
    let kept := min all (places.getD all)
    let scaled := s.scale 2 (4 * kept - power)
    let digits := Nat.toDigits 16 (roundDiv scaled.num scaled.den)
    let (whole, part) := (digits.take (digits.length - kept), digits.drop (digits.length - kept))
    let part := match places with
      | none => withoutZeros part
      | some n => part ++ List.replicate (n - kept) '0'
    ['0', 'x'] ++ whole ++ withPoint keepsPoint part ++ powerText 'p' 1 power

/-- The text of a fraction in a style, where precisions that are not given have usual values. -/
def Size.text (s : Size) (f : Format) (style : Style) (keepsPoint : Bool)
    (precision : Option Nat) : List Char :=
  match style with
  | .fixed => fixed keepsPoint (precision.getD 6) s
  | .scientific => scientific keepsPoint (precision.getD 6) s
  | .general => general keepsPoint (max 1 (precision.getD 6)) s
  | .hexadecimal => hexadecimal f keepsPoint precision s

end PauseWatch.Text.Numeral
