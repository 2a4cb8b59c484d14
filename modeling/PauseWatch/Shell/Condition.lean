import PauseWatch.Tool.Condition

/-!
# Conditions of a shell

The words of a condition are read from left to right: parts of which one has to hold, made of parts
that all have to hold. A word is an operator unless what follows shows that it is not. Every part is
looked at, even if the result is clear before.
-/

namespace PauseWatch.Shell

open Host (Work)

namespace Condition

/-- What a word does in a condition. -/
inductive Role where
  /-- It says something of the next word. -/
  | unary
  /-- It says something of the words around it. -/
  | binary
  /-- It turns the next part around. -/
  | not
  /-- Both parts around it have to hold. -/
  | and
  /-- One of the parts around it has to hold. -/
  | or
  /-- It opens a part. -/
  | openPart
  /-- It closes a part. -/
  | closePart
  /-- Nothing. -/
  | plain
  deriving DecidableEq, Repr

/-- What a word can do. -/
def roleOf (word : String) : Role :=
  if word = "!" then .not
  else if word = "-a" then .and
  else if word = "-o" then .or
  else if word = "(" then .openPart
  else if word = ")" then .closePart
  else if Tool.Condition.binaryOperators.contains word then .binary
  else if Tool.Condition.unaryOperators.contains word then .unary
  else .plain

/-- What the first of some words does; nothing if there is none. -/
def role? : List String → Option Role
  | [] => none
  | word :: rest =>
    let isOperand : Bool := match rest with
      | [] => true
      | [_] => false
      | next :: _ => roleOf next = .binary
    match roleOf word with
    | .unary => some (if isOperand then .plain else .unary)
    | .openPart => some (if rest = [] then .plain else .openPart)
    | role => some role

/-- How it is said that a word is no number. -/
def badNumber (word : String) : String := "Illegal number: " ++ word

/-- Whether a word spells a number in the range of numbers. -/
def isNumber (word : String) : Bool :=
  (Tool.Condition.integer? word).any fun n => -(Nat.pow 2 63 : Int) ≤ n && n < Nat.pow 2 63

/-- Whether something holds, and the words from the last one on that was read. -/
abbrev Reading := ExceptT String Work (Bool × List String)

/-- Asks the host about a condition. -/
def asked (work : Work (Except String Bool)) : ExceptT String Work Bool := ExceptT.mk work

/-- Whether an operator holds between two words. -/
def between (a op b : String) : ExceptT String Work Bool := do
  if (Tool.Condition.numberTests.lookup op).isSome then
    if !isNumber a then throw (badNumber a)
    if !isNumber b then throw (badNumber b)
  asked (Tool.Condition.holdsBetween badNumber a op b)

/-- Reads a part that stands between operators. -/
def primary (whole : List String → Reading) (words : List String) : Reading := do
  match words, role? words with
  | [], _ | _, none => return (false, words)
  | word :: rest, some role =>
    if role = .openPart then
      if role? rest = some .closePart then return (false, rest)
      let (b, last) ← whole rest
      if role? last.tail = some .closePart then return (b, last.tail)
      throw "closing paren expected"
    else if role = .unary then
      match rest with
      | [] => throw (word ++ ": argument expected")
      | operand :: _ =>
        if word = "-t" && !isNumber operand then throw (badNumber operand)
        return (← asked (Tool.Condition.holdsOf badNumber word operand), rest)
    else match rest with
      | op :: operands =>
        if roleOf op ≠ .binary then return (word != "", words)
        match operands with
        | [] => throw (op ++ ": argument expected")
        | operand :: _ => return (← between word op operand, operands)
      | [] => return (word != "", words)

/-- Reads a part that can be turned around. -/
def negation (whole : List String → Reading) : List String → Reading
  | [] => primary whole []
  | word :: rest => do
    if role? (word :: rest) ≠ some .not then primary whole (word :: rest)
    else if rest = [] then return (true, [word])
    else
      let (b, last) ← negation whole rest
      return (!b, last)

/-- Reads parts that all have to hold. -/
def conjunction (whole : List String → Reading) : Nat → List String → Reading
  | 0, words => return (false, words)
  | fuel + 1, words => do
    let (a, last) ← negation whole words
    if role? last.tail ≠ some .and then return (a, last)
    let (b, last) ← conjunction whole fuel last.tail.tail
    return (a && b, last)

/-- Reads parts of which one has to hold. -/
def disjunction (whole : List String → Reading) : Nat → List String → Reading
  | 0, words => return (false, words)
  | fuel + 1, words => do
    let (a, last) ← conjunction whole (words.length + 1) words
    if role? last.tail ≠ some .or then return (a, last)
    let (b, last) ← disjunction whole fuel last.tail.tail
    return (a || b, last)

/-- Reads a condition. -/
def whole : Nat → List String → Reading
  | 0, words => return (false, words)
  | fuel + 1, words => disjunction (whole fuel) (words.length + 1) words

/-- Reads a condition to its end. -/
def toEnd (words : List String) : ExceptT String Work Bool := do
  match ← whole (words.length + 1) words with
  | (_, word :: _ :: _) =>
    throw (if word = "" then "unexpected operator" else word ++ ": unexpected operator")
  | (b, _) => return b

/-- Reads a condition of few words, where an operator in the middle of three always counts, and
where the first word can turn the others around or open them as a part. -/
def short (words : List String) : ExceptT String Work Bool :=
  let isBinary (op : String) : Bool := roleOf op = .binary
  match words with
  | [] => return false
  | [a, op, b] =>
    if isBinary op then between a op b
    else if a = "(" && b = ")" then toEnd [op]
    else if a = "!" then return !(← toEnd [op, b])
    else toEnd words
  | ["!", a, op, b] => do
    if isBinary op then return !(← between a op b)
    else if a = "(" && b = ")" then return !(← toEnd [op])
    else if a = "!" then toEnd [op, b]
    else return !(← toEnd [a, op, b])
  | ["(", a, b, ")"] => toEnd [a, b]
  | words => toEnd words

end Condition

/-- Evaluates a condition; a condition without words does not hold. -/
def condition (words : List String) : Work (Except String Bool) := (Condition.short words).run

end PauseWatch.Shell
