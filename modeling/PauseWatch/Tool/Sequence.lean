import PauseWatch.Tool.Format
import PauseWatch.Tool.Stream

/-!
# Numbers in order

Numbers from one to another, a step apart, as numbers of ten bytes add up. They are shown with as
many decimal places as the first one and the step are written with.
-/

namespace PauseWatch.Tool

open Host (Work)

namespace Sequence

open Text.Numeral

/-- A number as a fraction with a sign. -/
structure Signed where
  /-- The numerator. -/
  num : Int
  /-- The denominator. -/
  den : Nat
  deriving DecidableEq, Repr

/-- A finite number with a sign. -/
def Signed.ofSize (isNegative : Bool) (size : Size) : Signed :=
  ⟨if isNegative then -(size.num : Int) else size.num, size.den⟩

/-- The number that a fraction stands for. -/
def Signed.real (x : Signed) : Text.Numeral.Real := .finite (x.num < 0) ⟨x.num.natAbs, x.den⟩

/-- The nearest number that can be held. -/
def Signed.round (x : Signed) : Signed :=
  if x.den = 1 && x.num.natAbs < UInt64.size then x
  else match ((⟨x.num.natAbs, x.den⟩ : Size).round extended).1 with
  | some size => .ofSize (x.num < 0) size
  | none => x

/-- Whether a fraction is less than another. -/
def Signed.less (x y : Signed) : Bool := x.num * y.den < y.num * x.den

/-- The number that lies so many steps behind another one. -/
def Signed.after (x step : Signed) (n : Nat) : Signed :=
  let far := (⟨step.num * n, step.den⟩ : Signed).round
  (⟨x.num * far.den + far.num * x.den, x.den * far.den⟩ : Signed).round

/-- A number as it is written. -/
structure Numeral where
  /-- How it is written. -/
  word : String
  /-- The number. -/
  value : Text.Numeral.Real
  /-- How many characters it takes, without a power. -/
  width : Int := 0
  /-- How many decimal places it has, if that is known. -/
  places : Option Nat := none

/-- Why there are no numbers. -/
inductive Fault where
  /-- A word is no number. -/
  | noNumber (word : String)
  /-- A word stands for no number. -/
  | undefined (word : String)
  /-- A step leads nowhere. -/
  | noStep (word : String)
  deriving DecidableEq, Repr

/-- What is said about a fault. -/
def Fault.message : Fault → String
  | .noNumber word => "invalid floating point argument: " ++ quoted word
  | .undefined word => "invalid " ++ quoted "not-a-number" ++ " argument: " ++ quoted word
  | .noStep word => "invalid Zero increment value: " ++ quoted word

/-- The width and the decimal places of a numeral without blanks before it and without a plus. -/
def layoutOf (chars : List Char) : Int × Nat :=
  let beforePoint := chars.takeWhile (· != '.')
  let hasPoint := beforePoint.length < chars.length
  let part := (chars.drop (beforePoint.length + 1)).takeWhile fun c => c != 'e' && c != 'E'
  let isBare := beforePoint.getLast?.all (!·.isDigit)
  let width : Int := chars.length +
    (if !hasPoint then 0 else if part = [] then -1 else if isBare then 1 else 0)
  let beforePower := chars.takeWhile fun c => c != 'e' && c != 'E'
  if beforePower.length = chars.length then (width, part.length)
  else
    let (isNegative, digits) := match chars.drop (beforePower.length + 1) with
      | '-' :: digits => (true, digits)
      | '+' :: digits => (false, digits)
      | digits => (false, digits)
    let power := Text.digitsValue 10 (digits.takeWhile Char.isDigit)
    let width := width - (chars.length - beforePower.length : Nat)
    if isNegative && power ≠ 0 then
      let isUndone := !hasPoint || beforePower.length = beforePoint.length + 1
      (width + (if isUndone then 1 else 0) + power, part.length + power)
    else
      let places := part.length - power
      let isDropped := hasPoint && places = 0 && part ≠ []
      (width - (if isDropped then 1 else 0) + (power - min part.length power : Nat), places)

/-- Reads a number. -/
def readNumeral (word : String) : Except Fault Numeral :=
  match Text.Numeral.read? word with
  | some (x, []) =>
    match (x.round extended).1 with
    | .undefined _ => .error (.undefined word)
    | value =>
      let bare := word.toList.dropWhile fun c => c = ' ' || ('\t' ≤ c && c ≤ '\r') || c = '+'
      let hasHex := bare.any fun c => c = 'x' || c = 'X'
      let isWhole := !bare.any fun c => c = '.' || c = 'p'
      match value with
      | .finite _ _ =>
        if hasHex then .ok { word, value, places := if isWhole then some 0 else none }
        else
          let (width, places) := layoutOf bare
          .ok { word, value, width, places := some places }
      | _ => .ok { word, value, places := if isWhole then some 0 else none }
  | _ => .error (.noNumber word)

/-- Reads the first number, the step and the last number. -/
def readAll (first step last : String) : Except Fault (Numeral × Numeral × Numeral) := do
  let first ← readNumeral first
  let number ← readNumeral step
  if let .finite _ size := number.value then
    if size.num = 0 then throw (.noStep step)
  return (first, number, ← readNumeral last)

/-- How numbers are shown: a directive and what stands around it. -/
structure Shape where
  /-- What stands before it. -/
  lead : List Char := []
  /-- The directive. -/
  directive : Directive
  /-- What stands behind it. -/
  trail : List Char := []

/-- The text of a number. -/
def Shape.number (shape : Shape) (x : Text.Numeral.Real) : List Char :=
  shape.directive.ofReal extended ((Directive.style? shape.directive.kind).getD .general) x

/-- The text of a number with what stands around it. -/
def Shape.text (shape : Shape) (x : Text.Numeral.Real) : List Char :=
  shape.lead ++ shape.number x ++ shape.trail

/-- The shape that fits the numerals. -/
def shapeOf (isEven : Bool) (first step last : Numeral) : Shape :=
  match first.places, step.places, last.places with
  | some m, some n, some lastPlaces =>
    let places := max m n
    let point (old : Nat) : Int :=
      if old ≠ 0 && places = 0 then -1 else if old = 0 && places ≠ 0 then 1 else 0
    let firstWidth := first.width + ((places : Int) - m) + (if m = 0 then point m else 0)
    let lastWidth := last.width + ((places : Int) - lastPlaces) + point lastPlaces
    let width := if isEven then (max firstWidth lastWidth).toNat else 0
    { directive := { isZeroed := isEven, width, precision := some places, kind := 'f' } }
  | _, _, _ => { directive := { kind := 'g' } }

/-- The characters before the next percent sign, where two of them stand for one. -/
def plainPart : List Char → List Char × List Char
  | '%' :: '%' :: rest =>
    let (chars, rest) := plainPart rest
    ('%' :: chars, rest)
  | '%' :: rest => ([], '%' :: rest)
  | c :: rest =>
    let (chars, rest) := plainPart rest
    (c :: chars, rest)
  | [] => ([], [])

/-- Reads a shape. -/
def readShape (format : String) : Except String Shape :=
  let fail (problem : String) : Except String Shape :=
    .error ("format " ++ quoted format ++ " " ++ problem)
  let (lead, rest) := plainPart format.toList
  match rest with
  | [] => fail "has no % directive"
  | _ :: rest =>
    let flags := rest.takeWhile ['-', '+', '#', '0', ' ', '\x27'].contains
    let rest := rest.drop flags.length
    let width := rest.takeWhile Char.isDigit
    let rest := rest.drop width.length
    let (precision, rest) : Option Nat × List Char := match rest with
      | '.' :: rest =>
        let digits := rest.takeWhile Char.isDigit
        (some (Text.digitsValue 10 digits), rest.drop digits.length)
      | rest => (none, rest)
    let rest := if rest.head? = some 'L' then rest.tail else rest
    match rest with
    | [] => fail "ends in %"
    | kind :: rest =>
      if (Directive.style? kind).isNone then
        fail ("has unknown %" ++ String.singleton kind ++ " directive")
      else
        let (trail, more) := plainPart rest
        if more ≠ [] then fail "has too many % directives"
        else
          let directive : Directive := {
            isLeft := flags.contains '-'
            isZeroed := flags.contains '0'
            showsPlus := flags.contains '+'
            showsBlank := flags.contains ' '
            showsBase := flags.contains '#'
            width := Text.digitsValue 10 width
            precision, kind }
          .ok { lead, directive, trail }

/-- Whether a number lies behind the last one. -/
def isBehind (step x : Signed) (last : Text.Numeral.Real) : Bool :=
  match last with
  | .finite isNegative size =>
    let last := Signed.ofSize isNegative size
    if step.num < 0 then x.less last else last.less x
  | .infinite isNegative => isNegative != (step.num < 0)
  | .undefined _ => true

/-- Whether a number behind the last one is shown nevertheless: it looks like the last one, and not
like the one before. -/
def isShown (shape : Shape) (before x : Signed) (last : Text.Numeral.Real) : Bool :=
  let text := shape.number x.real
  let looksLast : Bool := match Text.Numeral.read? (String.ofList text), last with
    | some (shown, []), .finite isNegative size =>
      match (shown.round extended).1 with
      | .finite isOther other =>
        let a := Signed.ofSize isNegative size
        let b := Signed.ofSize isOther other
        !a.less b && !b.less a
      | _ => false
    | _, _ => false
  looksLast && text ≠ shape.number before.real

/-- The text of the number that lies so many steps behind the first, if it is shown. -/
def item? (shape : Shape) (first step : Signed) (last : Text.Numeral.Real) (n : Nat) : Option (List Char) :=
  let x := first.after step n
  if !isBehind step x last then some (shape.text x.real)
  else if n = 0 then none
  else
    let before := first.after step (n - 1)
    if !isBehind step before last && isShown shape before x last then some (shape.text x.real)
    else none

/-- The text of the whole number that lies so many steps behind the first, if it is shown. Without
a last number it always is. -/
def wholeItem? (first step : Nat) (last : Option Nat) (n : Nat) : Option (List Char) :=
  let x := first + n * step
  if last.all (x ≤ ·) then some (Nat.toDigits 10 x) else none

/-- How many numbers are shown at once. -/
def batch : Nat := 400

/-- The texts of numbers, each with the separator before it, the last first; the number of the next
one stands beside them if there is one. -/
def texts (item? : Nat → Option (List Char)) (separator : List Char) :
    Nat → Nat → List (List Char) → List (List Char) × Option Nat
  | 0, n, done => (done, some n)
  | fuel + 1, n, done =>
    match item? n with
    | some text => texts item? separator fuel (n + 1) ((separator ++ text) :: done)
    | none => (done, none)

/-- Shows numbers from one on. -/
def showFrom (me : String) (item? : Nat → Option (List Char)) (separator : List Char) :
    Nat → Nat → List UInt8 → Work Unit
  | 0, _, _ => return ()
  | fuel + 1, n, waiting => do
    let (done, next) := texts item? separator batch n []
    let bytes := Text.toByteList (String.ofList done.reverse.flatten)
    match next with
    | some n => showFrom me item? separator fuel n (← gather me waiting bytes)
    | none => put me (waiting ++ bytes ++ [10])

/-- The greatest step between whole numbers of any size. -/
def greatestStep : Nat := 200

/-- What numbers look like, where whole numbers can have any size. -/
def items (isPlain : Bool) (shape : Shape) (first step last : Numeral) :
    Nat → Option (List Char) :=
  let whole? (x : Numeral) : Option Nat :=
    if x.word.toList.all Char.isDigit then some (Text.digitsValue 10 x.word.toList) else none
  let isEndless : Bool := match last.value with
    | .infinite false => true
    | _ => false
  match whole? first, whole? step, whole? last with
  | some m, some n, some last =>
    if isPlain && n ≤ greatestStep then wholeItem? m n (some last) else general
  | some m, some n, none =>
    if isPlain && n ≤ greatestStep && isEndless then wholeItem? m n none else general
  | _, _, _ => general
where
  /-- Numbers as they add up. -/
  general : Nat → Option (List Char) := match first.value, step.value with
    | .finite isNegative size, .finite isDown stepSize =>
      item? shape (.ofSize isNegative size) (.ofSize isDown stepSize) last.value
    | _, _ => fun _ => none

end Sequence

open Sequence in
/-- Writes numbers in order. -/
def seq (me : String) (args : List String) : Work Nat :=
  let isNegative (word : String) : Bool := match word.toList with
    | '-' :: c :: _ => c = '.' || c.isDigit
    | _ => false
  let takesNext (word : String) : Bool :=
    word = "-s" || word = "-f" || word = "--separator" || word = "--format"
  let rec guard : List String → List String
    | [] => []
    | word :: rest =>
      if isNegative word then "--" :: word :: rest
      else if takesNext word then
        match rest with
        | value :: rest => word :: value :: guard rest
        | [] => [word]
      else if word.startsWith "-" && word ≠ "--" then word :: guard rest
      else word :: rest
  withOptions me "f:s:w" [("equal-width", 'w'), ("format:", 'f'), ("separator:", 's')] false 1
    (guard args) fun s => do
      let separator := (s.last? 's').getD "\n"
      let go (shape : Option Shape) (first step last : String) : Work Nat := do
        match readAll first step last with
        | .error fault => usage me fault.message 1
        | .ok (first, step, last) =>
          let isPlain := shape.isNone && !s.has 'w' && separator.length = 1
          let item? := items isPlain (shape.getD (shapeOf (s.has 'w') first step last)) first step
            last
          match item? 0 with
          | some text =>
            showFrom me item? separator.toList patience 1 (Text.toByteList (String.ofList text))
          | none => pure ()
          return 0
      let shape : Except String (Option Shape) := match s.last? 'f' with
        | none => .ok none
        | some format => (readShape format).map some
      match s.operands with
      | [] => usage me "missing operand" 1
      | _ :: _ :: _ :: extra :: _ => usage me ("extra operand " ++ quoted extra) 1
      | words =>
        match shape with
        | .error message =>
          warn me message
          return 1
        | .ok shape =>
          if shape.isSome && s.has 'w' then
            usage me "format string may not be specified when printing equal width strings" 1
          else match words with
            | [last] => go shape "1" "1" last
            | [first, last] => go shape first "1" last
            | [first, step, last] => go shape first step last
            | _ => return 1

end PauseWatch.Tool
