import PauseWatch.Tool.Regexp.Reader
import PauseWatch.Tool.Stream

/-!
# Calculations on words

Words are numbers, texts and operators, which bind more or less. An operand that cannot change the
result is read, but nothing in it can fail for what it says.
-/

namespace PauseWatch.Tool

open Host (Work)

namespace Calculation

/-- What a calculation works with. -/
inductive Amount where
  /-- A number that was worked out. -/
  | number (n : Int)
  /-- A text, which can spell a number. -/
  | text (text : String)
  deriving DecidableEq, Repr

/-- Why there is no result. -/
inductive Fault where
  /-- A word is missing behind one. -/
  | missing (after : String)
  /-- A word stands where nothing should. -/
  | unexpected (word : String)
  /-- A parenthesis is not closed. -/
  | openAt (after : String)
  /-- A word stands where a parenthesis should be closed. -/
  | openBefore (word : String)
  /-- A parenthesis is closed that was not opened. -/
  | closed
  /-- A text should spell a number. -/
  | noNumber
  /-- A division by zero. -/
  | divisionByZero
  /-- A text is no expression to match. -/
  | pattern (fault : RegexpFault)
  deriving DecidableEq, Repr

/-- What is said about a fault. -/
def Fault.message : Fault → String
  | .missing after => "syntax error: missing argument after " ++ quoted after
  | .unexpected word => "syntax error: unexpected argument " ++ quoted word
  | .openAt after => "syntax error: expecting ')' after " ++ quoted after
  | .openBefore word => "syntax error: expecting ')' instead of " ++ quoted word
  | .closed => "syntax error: unexpected ')'"
  | .noNumber => "non-integer argument"
  | .divisionByZero => "division by zero"
  | .pattern fault => fault.text

namespace Amount

/-- The characters of an amount. -/
def chars : Amount → List Char
  | .number n => (toString n).toList
  | .text t => t.toList

/-- The number that a text spells, if it does. -/
def spelled? (chars : List Char) : Option Int :=
  let digits := match chars with
    | '-' :: digits => digits
    | digits => digits
  if digits = [] || !digits.all Char.isDigit then none
  else
    let n : Int := Text.digitsValue 10 digits
    some (if digits.length < chars.length then -n else n)

/-- The number that an amount is. -/
def number? : Amount → Option Int
  | .number n => some n
  | .text t => spelled? t.toList

/-- Whether an amount is nothing or zero. -/
def isNull : Amount → Bool
  | .number n => n = 0
  | .text t => t = "" || number? (.text t) = some 0

end Amount

/-- A reader of the words that are left; the word that was read last stands beside them. -/
abbrev Reading := StateT (List String × String) (Except Fault)

/-- How two amounts are joined. -/
inductive Joint where
  /-- The first, or the second if the first is nothing. -/
  | either
  /-- The first if none of them is nothing. -/
  | both
  /-- Whether their order is one of some. -/
  | ordered (orders : List Ordering)
  /-- A computation with numbers. -/
  | sum | difference | product | quotient | remainder
  /-- What an expression matches at the start of a text. -/
  | fit
  deriving DecidableEq, Repr

/-- What joins amounts, by how much it binds. -/
def joints : Nat → List (String × Joint)
  | 0 => [("|", .either)]
  | 1 => [("&", .both)]
  | 2 => [("<", .ordered [.lt]), ("<=", .ordered [.lt, .eq]), ("=", .ordered [.eq]),
      ("==", .ordered [.eq]), ("!=", .ordered [.lt, .gt]), (">=", .ordered [.gt, .eq]),
      (">", .ordered [.gt])]
  | 3 => [("+", .sum), ("-", .difference)]
  | 4 => [("*", .product), ("/", .quotient), ("%", .remainder)]
  | 5 => [(":", .fit)]
  | _ => []

/-- What an expression matches at the start of a text: the text of its first group if it has one,
else the number of characters. -/
def fit (text pattern : List Char) : Except Fault Amount :=
  match (Regexp.ofText ⟨false, true, false, false⟩ (String.ofList pattern)).1 with
  | .error fault => .error (.pattern fault)
  | .ok (r, groups) =>
    let subject : Regexp.Subject :=
      { text := text.toArray, looksBack := r.looksBack }
    match (r.ends subject ⟨0, []⟩).head? with
    | none => .ok (if groups = 0 then .number 0 else .text "")
    | some spot =>
      if groups = 0 then .ok (.number spot.place)
      else match spot.groups.lookup 1 with
        | some (start, stop) => .ok (.text (String.ofList ((text.take stop).drop start)))
        | none => .ok (.text "")

/-- A computation with the numbers of two amounts. -/
def withNumbers (a b : Amount) (use : Int → Int → Except Fault Int) : Except Fault Amount :=
  match a.number?, b.number? with
  | some a, some b => (use a b).map .number
  | _, _ => .error .noNumber

/-- Whether the second amount can change the result. -/
def Joint.asks (joint : Joint) (first : Amount) : Bool :=
  match joint with
  | .either => first.isNull
  | .both => !first.isNull
  | _ => true

/-- Two amounts joined, as far as the result counts. -/
def Joint.apply (joint : Joint) (counts : Bool) (a b : Amount) : Except Fault Amount :=
  let divide (use : Int → Int → Int) : Except Fault Amount :=
    withNumbers a b fun a b => if b = 0 then .error .divisionByZero else .ok (use a b)
  match joint with
  | .either => .ok (if !a.isNull then a else if !b.isNull then b else .number 0)
  | .both => .ok (if a.isNull || b.isNull then .number 0 else a)
  | .ordered orders =>
    let order := match Amount.spelled? a.chars, Amount.spelled? b.chars with
      | some a, some b => compare a b
      | _, _ => compareOfLessAndEq a.chars b.chars
    .ok (.number (if counts && orders.contains order then 1 else 0))
  | joint =>
    if !counts then .ok a
    else match joint with
      | .sum => withNumbers a b fun a b => .ok (a + b)
      | .difference => withNumbers a b fun a b => .ok (a - b)
      | .product => withNumbers a b fun a b => .ok (a * b)
      | .quotient => divide Int.tdiv
      | .remainder => divide Int.tmod
      | _ => Calculation.fit a.chars b.chars

/-- Takes one of some words if it comes next. -/
def acceptOf {α : Type} (table : List (String × α)) : Reading (Option α) := do
  match (← get).1 with
  | [] => return none
  | word :: rest =>
    match table.lookup word with
    | none => return none
    | some a =>
      set (rest, word)
      return some a

/-- Takes a word, which must be there. -/
def anyWord : Reading String := do
  match ← get with
  | ([], last) => throw (.missing last)
  | (word :: rest, _) =>
    set (rest, word)
    return word

/-- Joins an amount with those that follow it. -/
def joinAll (operand : Bool → Reading Amount) (table : List (String × Joint)) (counts : Bool) :
    Nat → Amount → Reading Amount
  | 0, a => return a
  | fuel + 1, a => do
    match ← acceptOf table with
    | none => return a
    | some joint =>
      let b ← operand (counts && joint.asks a)
      joinAll operand table counts fuel (← joint.apply counts a b)

/-- What a word says that stands before amounts. -/
inductive Request where
  /-- The next word as it is. -/
  | word
  /-- The length of a text. -/
  | length
  /-- What an expression matches. -/
  | fit
  /-- Where one of some characters comes first. -/
  | index
  /-- A part of a text. -/
  | part
  deriving DecidableEq, Repr

/-- The words that stand before amounts. -/
def requests : List (String × Request) :=
  [("+", .word), ("length", .length), ("match", .fit), ("index", .index), ("substr", .part)]

/-- A part of a text, given the number of its first character and its length. -/
def part (text : List Char) (first length : Amount) : List Char :=
  match first.number?, length.number? with
  | some first, some length =>
    if first ≤ 0 || length ≤ 0 || text.length < first then []
    else (text.drop (first.toNat - 1)).take length.toNat
  | _, _ => []

/-- Reads amounts that are joined by words that bind as much as given, or more. -/
def amount : Nat → Nat → Bool → Reading Amount
  | 0, _, _ => throw .closed
  | fuel + 1, level, counts => do
    if level ≤ 5 then
      let first ← amount fuel (level + 1) counts
      joinAll (amount fuel (level + 1)) (joints level) counts ((← get).1.length + 1) first
    else
      let next : Reading Amount := amount fuel level counts
      match ← acceptOf requests with
      | some .word => return .text (← anyWord)
      | some .length => return .number (← next).chars.length
      | some .fit =>
        let text ← next
        let pattern ← next
        if counts then Calculation.fit text.chars pattern.chars else return text
      | some .index =>
        let text ← next
        let set := (← next).chars
        let before := text.chars.takeWhile fun c => !set.contains c
        return .number (if before.length = text.chars.length then 0 else before.length + 1)
      | some .part =>
        let text ← next
        let first ← next
        return .text (String.ofList (part text.chars first (← next)))
      | none =>
        match ← anyWord with
        | "(" =>
          let inner ← amount fuel 0 counts
          match ← get with
          | ([], last) => throw (.openAt last)
          | (")" :: rest, _) =>
            set (rest, ")")
            return inner
          | (word :: _, _) => throw (.openBefore word)
        | ")" => throw .closed
        | word => return .text word

/-- The result of a calculation. -/
def result (words : List String) : Except Fault Amount := do
  match ← (amount (8 * words.length + 8) 0 true).run (words, "") with
  | (a, [], _) => return a
  | (_, word :: _, _) => throw (.unexpected word)

end Calculation

/-- Works out what its words say. -/
def expr (me : String) (args : List String) : Work Nat := do
  let words := if args.head? = some "--" then args.tail else args
  if words = [] then usage me "missing operand" 2
  else match Calculation.result words with
    | .error fault =>
      warn me fault.message
      return 2
    | .ok amount =>
      print me (String.ofList amount.chars ++ "\n")
      return if amount.isNull then 1 else 0

end PauseWatch.Tool
