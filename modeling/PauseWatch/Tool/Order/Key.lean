import PauseWatch.Text.Numeral
import PauseWatch.Tool.Order.Version

/-!
# Keys to put lines in order

A key says which part of a line counts and how such parts are compared. Lines are compared by one
key after the other.
-/

namespace PauseWatch.Tool

/-- A place in a line: so many fields, and so many characters behind them, are passed over. -/
structure Mark where
  /-- The fields. -/
  fields : Nat
  /-- The characters. -/
  chars : Nat
  deriving DecidableEq, Repr

/-- A key. -/
structure Key where
  /-- Where the part starts; nothing stands for the start of the line. -/
  start : Option Mark := none
  /-- Where the part ends; nothing stands for the end of the line. -/
  stop : Option Mark := none
  /-- The letters of the orders. -/
  letters : List Char := []
  /-- Whether blanks are passed over where the part starts. -/
  skipsAtStart : Bool := false
  /-- Whether blanks are passed over where the part ends. -/
  skipsAtStop : Bool := false
  deriving DecidableEq, Repr

namespace Key

/-- Whether a key says nothing about how parts are compared, but for the direction. -/
def isDefault (k : Key) : Bool :=
  k.letters.all (· = 'r') && !k.skipsAtStart && !k.skipsAtStop

/-- Whether a letter is among those of a key. -/
def has (k : Key) (letter : Char) : Bool := k.letters.contains letter

/-- The letters of a key if they do not go together. -/
def clash? (k : Key) : Option (List Char) :=
  let ways := (['n', 'g', 'h', 'M'].filter k.has).length
    + (if k.has 'V' || k.has 'R' || k.has 'd' || k.has 'i' then 1 else 0)
  if ways ≤ 1 then none
  else some (['d', 'f', 'g', 'h', 'i', 'M', 'n', 'R', 'V'].filter fun c =>
    k.has c && !(c = 'i' && k.has 'd'))

/-! ## Parts -/

/-- Whether a character separates fields if no other one is said to. -/
def isGap (c : Char) : Bool := c = ' ' || c = '\t' || c = '\n'

/-- What is left behind some fields. Without a separator, a field starts with the blanks before
it. -/
def dropFields (separator : Option Char) : Nat → List Char → List Char
  | 0, chars => chars
  | n + 1, chars =>
    match separator with
    | some c => dropFields separator n (chars.dropWhile (· != c)).tail
    | none => dropFields separator n ((chars.dropWhile isGap).dropWhile (!isGap ·))

/-- How many characters of a line stand before the end of a key. -/
def stopAt (k : Key) (separator : Option Char) (line : List Char) : Nat :=
  match k.stop with
  | none => line.length
  | some ⟨fields, 0⟩ =>
    match separator with
    | some c =>
      let rest := dropFields separator fields line
      line.length - (rest.dropWhile (· != c)).length
    | none => line.length - (dropFields none (fields + 1) line).length
  | some ⟨fields, chars⟩ =>
    let rest := dropFields separator fields line
    let rest := if k.skipsAtStop then rest.dropWhile isGap else rest
    line.length - (rest.drop chars).length

/-- How many characters of a line stand before the start of a key. -/
def startAt (k : Key) (separator : Option Char) (line : List Char) : Nat :=
  let (rest, chars) := match k.start with
    | none => (line, 0)
    | some mark => (dropFields separator mark.fields line, mark.chars)
  let rest := if k.skipsAtStart then rest.dropWhile isGap else rest
  line.length - (rest.drop chars).length

/-- The part of a line that counts for a key. -/
def part (k : Key) (separator : Option Char) (line : List Char) : List Char :=
  let start := k.startAt separator line
  (line.take (k.stopAt separator line)).drop start

/-! ## Orders -/

/-- The number at the start of a text, as a fraction, and whether it is negative; behind it the
rest. -/
def numberAt (chars : List Char) : Bool × Text.Numeral.Size × List Char :=
  let chars := chars.dropWhile isGap
  let isNegative := chars.head? = some '-'
  let chars := if isNegative then chars.tail else chars
  let whole := chars.takeWhile Char.isDigit
  let rest := chars.drop whole.length
  match rest with
  | '.' :: more =>
    let part := more.takeWhile Char.isDigit
    (isNegative, ⟨Text.digitsValue 10 (whole ++ part), Nat.pow 10 part.length⟩,
      more.drop part.length)
  | rest => (isNegative, ⟨Text.digitsValue 10 whole, 1⟩, rest)

/-- Compares fractions with signs. -/
def compareSizes (isNegative : Bool) (a : Text.Numeral.Size) (isOtherNegative : Bool)
    (b : Text.Numeral.Size) : Ordering :=
  let signed (isNegative : Bool) (n : Nat) : Int := if isNegative then -(n : Int) else n
  compare (signed isNegative (a.num * b.den)) (signed isOtherNegative (b.num * a.den))

/-- Compares the numbers at the start of texts. -/
def compareNumbers (a b : List Char) : Ordering :=
  let (isNegative, m, _) := numberAt a
  let (isOtherNegative, n, _) := numberAt b
  compareSizes isNegative m isOtherNegative n

/-- The rank of the unit behind a number; a number that is zero has no unit. -/
def unitRank (chars : List Char) : Int :=
  let (isNegative, size, rest) := numberAt chars
  if size.num = 0 then 0
  else
    let letters := ['K', 'M', 'G', 'T', 'P', 'E', 'Z', 'Y', 'R', 'Q']
    let rank : Nat := match rest with
      | [] => 0
      | c :: _ =>
        let c := if c = 'k' then 'K' else c
        if letters.contains c then letters.idxOf c + 1 else 0
    if isNegative then -(rank : Int) else rank

/-- The number of the month that a text starts with, or zero. -/
def monthOf (chars : List Char) : Nat :=
  let months := ["JAN", "FEB", "MAR", "APR", "MAY", "JUN", "JUL", "AUG", "SEP", "OCT", "NOV", "DEC"]
  let name := String.ofList (((chars.dropWhile isGap).take 3).map Char.toUpper)
  if months.contains name then months.idxOf name + 1 else 0

/-- Compares texts that can be numerals of any kind: what is none stands first, then what is no
number. -/
def compareGenerally (a b : List Char) : Ordering :=
  let read (chars : List Char) : Option Text.Numeral.Real :=
    (Text.Numeral.read? (String.ofList chars)).map fun (x, _) =>
      (x.round Text.Numeral.extended).1
  let rank : Option Text.Numeral.Real → Nat
    | none => 0
    | some (.undefined _) => 1
    | some (.infinite isNegative) => if isNegative then 2 else 4
    | some (.finite _ _) => 3
  let x := read a
  let y := read b
  (compare (rank x) (rank y)).then (match x, y with
    | some (.finite isNegative m), some (.finite isOtherNegative n) =>
      compareSizes isNegative m isOtherNegative n
    | _, _ => .eq)

/-- The characters of a part that count, as they count. -/
def counted (k : Key) (chars : List Char) : List Char :=
  let isVisible (c : Char) : Bool := ' ' ≤ c && c ≤ '~'
  let kept :=
    if k.has 'd' then chars.filter fun c => c.isAlphanum || isGap c
    else if k.has 'i' then chars.filter isVisible
    else chars
  if k.has 'f' then kept.map Char.toUpper else kept

/-- Compares parts of lines, without the direction. -/
def compareForward (k : Key) (a b : List Char) : Ordering :=
  let a := k.counted a
  let b := k.counted b
  if k.has 'n' then compareNumbers a b
  else if k.has 'g' then compareGenerally a b
  else if k.has 'h' then (compare (unitRank a) (unitRank b)).then (compareNumbers a b)
  else if k.has 'M' then compare (monthOf a) (monthOf b)
  else if k.has 'V' then compareVersions a b
  else compareOfLessAndEq a b

/-- Compares parts of lines. -/
def compareParts (k : Key) (a b : List Char) : Ordering :=
  if k.has 'r' then (k.compareForward a b).swap else k.compareForward a b

end Key

/-- A line with its parts for some keys. -/
structure KeyedLine where
  /-- The line. -/
  line : List Char
  /-- The parts. -/
  parts : List (List Char)

/-- Compares lines by keys. -/
def compareKeys : List Key → List (List Char) → List (List Char) → Ordering
  | k :: keys, a :: as, b :: bs => (k.compareParts a b).then (compareKeys keys as bs)
  | _, _, _ => .eq

end PauseWatch.Tool
