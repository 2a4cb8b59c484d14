import PauseWatch.Text.Numeral
import PauseWatch.Tool.Escape
import PauseWatch.Tool.Quote

/-!
# Formats

Formats are filled with arguments, as often as there are any left. What is written and what is said
about the arguments comes in the order in which the format is read.
-/

namespace PauseWatch.Tool

/-! ## Directives -/

/-- A place in a format that is filled with an argument. -/
structure Directive where
  /-- Whether it stands to the left. -/
  isLeft : Bool := false
  /-- Whether it is filled up with zeros. -/
  isZeroed : Bool := false
  /-- Whether a plus is shown. -/
  showsPlus : Bool := false
  /-- Whether a blank stands for a plus. -/
  showsBlank : Bool := false
  /-- Whether the base is shown. -/
  showsBase : Bool := false
  /-- The least number of characters. -/
  width : Nat := 0
  /-- The greatest number of characters, or the least number of digits. -/
  precision : Option Nat := none
  /-- What the argument is. -/
  kind : Char
  deriving Repr

namespace Directive

/-- Fills a text up to the width. -/
def pad (d : Directive) (lead body : List Char) : List Char :=
  let missing := d.width - (lead.length + body.length)
  if d.isLeft then lead ++ body ++ List.replicate missing ' '
  else if d.isZeroed && d.precision.isNone then lead ++ List.replicate missing '0' ++ body
  else List.replicate missing ' ' ++ lead ++ body

/-- The text for a text. -/
def ofText (d : Directive) (text : List Char) : List Char :=
  { d with isZeroed := false }.pad [] (d.precision.elim text text.take)

/-- The text for a number. -/
def ofNumber (d : Directive) (n : Int) : List Char :=
  let isSigned := d.kind = 'd' || d.kind = 'i'
  let size := if isSigned then n.natAbs else (n % (UInt64.size : Int)).toNat
  let base := if d.kind = 'o' then 8 else if d.kind = 'x' || d.kind = 'X' then 16 else 10
  let digits := if size = 0 && d.precision = some 0 then [] else Nat.toDigits base size
  let digits := if d.kind = 'X' then digits.map Char.toUpper else digits
  let digits := List.replicate ((d.precision.getD 0) - digits.length) '0' ++ digits
  let sign :=
    if !isSigned then []
    else if n < 0 then ['-']
    else if d.showsPlus then ['+']
    else if d.showsBlank then [' '] else []
  let lead :=
    if d.showsBase && size ≠ 0 then
      if base = 16 then ['0', d.kind] else if base = 8 then ['0'] else []
    else []
  d.pad (sign ++ lead) digits

/-- The style of a letter, in any size. -/
def style? (kind : Char) : Option Text.Numeral.Style :=
  match kind.toLower with
  | 'f' => some .fixed
  | 'e' => some .scientific
  | 'g' => some .general
  | 'a' => some .hexadecimal
  | _ => none

/-- The text for a real number. -/
def ofReal (d : Directive) (f : Text.Numeral.Format) (style : Text.Numeral.Style)
    (x : Text.Numeral.Real) : List Char :=
  let sized (chars : List Char) : List Char :=
    if d.kind.isUpper then chars.map Char.toUpper else chars
  let sign (isNegative : Bool) : List Char :=
    if isNegative then ['-'] else if d.showsPlus then ['+'] else if d.showsBlank then [' '] else []
  let named (isNegative : Bool) (name : List Char) : List Char :=
    { d with isZeroed := false }.pad (sign isNegative) (sized name)
  match x with
  | .infinite isNegative => named isNegative ['i', 'n', 'f']
  | .undefined isNegative => named isNegative ['n', 'a', 'n']
  | .finite isNegative size =>
    let chars := sized (size.text f style d.showsBase d.precision)
    let base := if style = .hexadecimal then chars.take 2 else []
    { d with precision := none }.pad (sign isNegative ++ base) (chars.drop base.length)

end Directive

/-! ## Arguments -/

/-- What can be strange about an argument that should be a number. -/
inductive Strangeness where
  /-- It does not start with a digit. -/
  | noNumber
  /-- Something follows the digits. -/
  | excess
  /-- The number is too large. -/
  | tooLarge
  /-- Something follows the character whose number is meant. -/
  | moreThanOne (rest : String)
  deriving DecidableEq, Repr

/-- The number of the character behind a quote, if the argument is such a one. -/
def characterNumber? (wealth : Wealth) : List Char → Option (Nat × Option Strangeness)
  | quote :: chars =>
    if quote ≠ '\x27' && quote ≠ '"' then none
    else match chars with
      | [] => if wealth = .plain then some (0, none) else none
      | [c] => some (c.toNat, none)
      | c :: rest => some (c.toNat, some (.moreThanOne (String.ofList rest)))
  | [] => none

/-- The number that an argument spells, whether it has a sign, and what is strange about it. -/
def numberOf (wealth : Wealth) (isSigned : Bool) (arg : String) : Int × Option Strangeness :=
  let digitsOf (isNegative : Bool) (chars : List Char) : Int × Option Strangeness :=
    let (base, isDigit, rest) : Nat × (Char → Bool) × List Char := match chars with
      | '0' :: 'x' :: rest | '0' :: 'X' :: rest => (16, Text.isHexDigit, rest)
      | '0' :: _ => (8, isOctal, chars)
      | chars => (10, Char.isDigit, chars)
    let digits := rest.takeWhile isDigit
    let n := Text.digitsValue base digits
    let limit : Nat :=
      if !isSigned then UInt64.size - 1
      else if isNegative then Nat.pow 2 63 else Nat.pow 2 63 - 1
    let value : Int :=
      if !isSigned && limit < n then limit
      else if isNegative then -(min n limit : Nat) else (min n limit : Nat)
    (value,
      if digits = [] && base = 10 then some .noNumber
      else if limit < n then some .tooLarge
      else if digits = [] || digits.length < rest.length then some .excess else none)
  match characterNumber? wealth arg.toList with
  | some (n, strangeness) => (n, strangeness)
  | none =>
    match arg.toList.dropWhile fun c => c = ' ' || ('\t' ≤ c && c ≤ '\r') with
    | [] => (0, if arg = "" then none else some .noNumber)
    | '-' :: rest => digitsOf true rest
    | '+' :: rest => digitsOf false rest
    | rest => digitsOf false rest

/-- The real number that an argument spells, and what is strange about it. -/
def realOf (wealth : Wealth) (f : Text.Numeral.Format) (arg : String) :
    Text.Numeral.Real × Option Strangeness :=
  match characterNumber? wealth arg.toList with
  | some (n, strangeness) => (.finite false ⟨n, 1⟩, strangeness)
  | none =>
    if arg = "" then (.finite false ⟨0, 1⟩, none)
    else match Text.Numeral.read? arg with
      | none => (.finite false ⟨0, 1⟩, some .noNumber)
      | some (x, rest) =>
        let (x, isBad) := x.round f
        (x, if isBad then some .tooLarge else if rest ≠ [] then some .excess else none)

/-! ## Filling -/

/-- Something that happens while a format is filled. -/
inductive Piece where
  /-- Characters are written. -/
  | text (chars : List Char)
  /-- An argument is no proper number. -/
  | strange (arg : String) (strangeness : Strangeness)
  deriving DecidableEq, Repr

/-- What has happened so far while a format is filled. -/
structure Filled where
  /-- The pieces, the last first. -/
  pieces : List Piece := []
  /-- The arguments that are left. -/
  args : List String
  /-- Whether the format asks for arguments. -/
  hasUsed : Bool := false
  /-- Why it stopped early. -/
  halt : Option Halt := none

namespace Filled

/-- Adds characters. -/
def add (f : Filled) (chars : List Char) : Filled := { f with pieces := .text chars :: f.pieces }

/-- Stops early. -/
def stop (f : Filled) (halt : Halt) : Filled := { f with halt := some halt }

/-- Takes the next argument, if there is one. -/
def pop (f : Filled) : Option String × Filled :=
  match f.args with
  | [] => (none, { f with hasUsed := true })
  | a :: rest => (some a, { f with args := rest, hasUsed := true })

/-- Takes an argument that spells a value, which is empty if there is none. -/
def popAs {α : Type} (f : Filled) (read : String → α × Option Strangeness) : α × Filled :=
  let (arg, f) := f.pop
  let (value, strangeness) := read (arg.getD "")
  match strangeness, arg with
  | some strangeness, some arg =>
    (value, { f with pieces := .strange arg strangeness :: f.pieces })
  | _, _ => (value, f)

/-- The characters that are written. -/
def text (f : Filled) : String :=
  String.ofList (f.pieces.reverse.flatMap fun
    | .text chars => chars
    | .strange _ _ => [])

end Filled

/-- Reads a width or precision: digits, or a star for an argument. -/
def countOf (wealth : Wealth) (chars : List Char) (f : Filled) : Int × List Char × Filled :=
  match chars with
  | '*' :: rest =>
    let (n, f) := f.popAs (numberOf wealth true)
    (n, rest, f)
  | chars =>
    let digits := chars.takeWhile Char.isDigit
    (Text.digitsValue 10 digits, chars.drop digits.length, f)

/-- The greatest number of characters that a directive can ask for. -/
def greatestWidth : Nat := Nat.pow 2 31 - 1

/-- The flags that directives know, and those that go with a kind. -/
def flagsOf (wealth : Wealth) (kind : Char) : List Char :=
  if wealth = .plain then ['-', '0', '+', ' ', '#']
  else match kind with
    | 's' | 'c' | 'b' | 'q' => ['-', '+', ' ']
    | 'd' | 'i' => ['-', '0', '+', ' ', '\x27', 'I']
    | 'u' => ['-', '0', '+', ' ', '\x27', 'I']
    | 'o' | 'x' | 'X' => ['-', '0', '+', ' ', '#']
    | 'e' | 'E' | 'a' | 'A' => ['-', '0', '+', ' ', '#']
    | _ => ['-', '0', '+', ' ', '#', '\x27', 'I']

/-- Fills one directive, given what follows the percent sign. -/
def fillDirective (wealth : Wealth) (chars : List Char) (f : Filled) : List Char × Filled :=
  let flags := chars.takeWhile (flagsOf wealth '%').contains
  let (width, rest, f) := countOf wealth (chars.drop flags.length) f
  let (precision, rest, f) := match rest with
    | '.' :: rest =>
      let (n, rest, f) := countOf wealth rest f
      (some n, rest, f)
    | rest => (none, rest, f)
  let rest :=
    if wealth = .plain then rest
    else rest.dropWhile ['h', 'l', 'L', 'j', 'z', 't'].contains
  match rest with
  | [] => ([], f.stop (.unfinished (String.ofList ('%' :: chars))))
  | kind :: rest =>
    let d : Directive := {
      isLeft := flags.contains '-' || width < 0
      isZeroed := flags.contains '0'
      showsPlus := flags.contains '+'
      showsBlank := flags.contains ' '
      showsBase := flags.contains '#'
      width := width.natAbs
      precision := precision.bind fun n => if n < 0 then none else some n.toNat
      kind }
    let unknown :=
      let through := chars.take (chars.length - rest.length)
      (([] : List Char), f.stop (.unknown (String.ofList ('%' :: through))))
    let isBare := chars.length = rest.length + 1
    if !flags.all (flagsOf wealth kind).contains then unknown
    else if greatestWidth < d.width || greatestWidth < d.precision.getD 0 then
      ([], f.stop .tooLong)
    else if kind = 's' then
      let (arg, f) := f.pop
      (rest, f.add (d.ofText (arg.getD "").toList))
    else if kind = 'c' then
      if precision.isSome && wealth = .rich then unknown
      else
        let (arg, f) := f.pop
        let chars := if arg.getD "" = "" then ['\x00'] else (arg.getD "").toList.take 1
        (rest, f.add ({ d with precision := none }.ofText chars))
    else if kind = 'b' && (isBare || wealth = .plain) then
      let (arg, f) := f.pop
      let arg := arg.getD ""
      let (text, halt) := unescape .argument wealth (arg.length + 1) arg.toList
      (rest, { f.add (d.ofText text) with halt })
    else if kind = 'q' && wealth = .rich && isBare then
      let (arg, f) := f.pop
      (rest, f.add (arg.elim [] fun arg => (shellNamed arg).toList))
    else if kind ∈ ['d', 'i', 'u', 'o', 'x', 'X'] then
      let (n, f) := f.popAs (numberOf wealth (kind = 'd' || kind = 'i'))
      (rest, f.add (d.ofNumber n))
    else match Directive.style? kind with
      | some style =>
        let format := if wealth = .rich then Text.Numeral.extended else Text.Numeral.double
        let (x, f) := f.popAs (realOf wealth format)
        (rest, f.add (d.ofReal format style x))
      | none => unknown

/-- Fills a format once. -/
def fillOnce (wealth : Wealth) : Nat → List Char → Filled → Filled
  | 0, _, f | _, [], f => f
  | fuel + 1, '%' :: '%' :: rest, f => fillOnce wealth fuel rest (f.add ['%'])
  | fuel + 1, '%' :: rest, f =>
    let (rest, f) := fillDirective wealth rest f
    if f.halt.isSome then f else fillOnce wealth fuel rest f
  | fuel + 1, '\\' :: rest, f =>
    match escapeMeaning .format wealth rest with
    | .chars chars rest => fillOnce wealth fuel rest (f.add chars)
    | .halt halt => f.stop halt
    | .nothing => fillOnce wealth fuel rest (f.add ['\\'])
  | fuel + 1, c :: rest, f => fillOnce wealth fuel rest (f.add [c])

/-- Fills a format as often as there are arguments. -/
def fillAll (wealth : Wealth) (format : List Char) : Nat → Filled → Filled
  | 0, f => f
  | fuel + 1, f =>
    let f := fillOnce wealth (format.length + 1) format { f with hasUsed := false }
    if f.halt.isSome || f.args = [] || !f.hasUsed then f else fillAll wealth format fuel f

/-- A format filled with arguments. -/
def fill (wealth : Wealth) (format : String) (args : List String) : Filled :=
  fillAll wealth format.toList (args.length + 1) { args }

end PauseWatch.Tool
