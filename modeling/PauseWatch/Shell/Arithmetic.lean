import PauseWatch.Text.Reading

/-!
# Arithmetic of the shell

Expressions over words of 64 bits, in which variables stand for the numbers that their values spell,
and can be assigned to. A side that does not decide the value is not evaluated.
-/

namespace PauseWatch.Shell

/-- An operation on two numbers. -/
inductive Operation where
  /-- The product. -/
  | times
  /-- The quotient, rounded towards zero. -/
  | over
  /-- The remainder of the quotient. -/
  | rest
  /-- The sum. -/
  | plus
  /-- The difference. -/
  | minus
  /-- The bits moved up. -/
  | up
  /-- The bits moved down. -/
  | down
  /-- Whether the first is less. -/
  | less
  /-- Whether the first is not greater. -/
  | atMost
  /-- Whether the first is greater. -/
  | greater
  /-- Whether the first is not less. -/
  | atLeast
  /-- Whether both are the same. -/
  | same
  /-- Whether both differ. -/
  | differ
  /-- The bits that both have. -/
  | bothBits
  /-- The bits that one has. -/
  | oneBit
  /-- The bits that any has. -/
  | anyBit
  deriving DecidableEq, Repr

/-- An arithmetic expression. -/
inductive Expr where
  /-- A number. -/
  | number (n : Int64)
  /-- The number that a variable's value spells. -/
  | var (name : String)
  /-- The opposite number. -/
  | opposite (e : Expr)
  /-- Whether a number is zero. -/
  | isZero (e : Expr)
  /-- The bits turned round. -/
  | turned (e : Expr)
  /-- An operation on two numbers. -/
  | apply (op : Operation) (left right : Expr)
  /-- Whether both are not zero. -/
  | both (left right : Expr)
  /-- Whether any is not zero. -/
  | any (left right : Expr)
  /-- One of two numbers. -/
  | choice (condition yes no : Expr)
  /-- An assignment. -/
  | assign (name : String) (value : Expr)
  deriving Repr

/-- Why an expression has no value. -/
inductive ArithmeticFault where
  /-- The expression is not well formed. -/
  | malformed (expected : String)
  /-- Nothing can be divided by zero. -/
  | zeroDivision
  /-- A value does not spell a number. -/
  | noNumber (text : String)
  deriving DecidableEq, Repr

namespace Expr

/-- A number in one of the ways to write it. -/
def numberOf? (text : String) : Option Int64 :=
  let value? (base : Nat) (test : Char → Bool) (digits : List Char) : Option Int64 :=
    if digits ≠ [] && digits.all test then
      some (Int64.ofNat (min (Text.digitsValue base digits) (Nat.pow 2 63 - 1)))
    else none
  match text.toList with
  | '0' :: 'x' :: digits | '0' :: 'X' :: digits => value? 16 Text.isHexDigit digits
  | '0' :: d :: digits => value? 8 (fun c => '0' ≤ c && c ≤ '7') (d :: digits)
  | digits => value? 10 Char.isDigit digits

/-- The number that a value spells; a blank value counts as zero. -/
def valueOf? (text : String) : Option Int64 :=
  let isBlank (c : Char) : Bool := c == ' ' || c == '\t' || c == '\n'
  let bare := ((text.toList.dropWhile isBlank).reverse.dropWhile isBlank).reverse
  match bare with
  | [] => some 0
  | '-' :: digits => (numberOf? (String.ofList digits)).map (- ·)
  | '+' :: digits => numberOf? (String.ofList digits)
  | digits => numberOf? (String.ofList digits)

/-! ## Reading -/

/-- A reader of the rest of an expression. -/
abbrev Reading := StateT (List Char) (Except ArithmeticFault)

/-- The rest without the blanks before it. -/
def rest : Reading (List Char) := do
  return (← get).dropWhile fun c => c == ' ' || c == '\t' || c == '\n'

/-- Takes one of some operators, of which the longer ones come first, unless something that makes it
another operator follows. -/
def operator? {α : Type} (ops : List (String × α)) : Reading (Option α) := do
  let chars ← rest
  let all := ["<<=", ">>=", "<<", ">>", "<=", ">=", "==", "!=", "&&", "||", "+=", "-=", "*=", "/=",
    "%=", "&=", "|=", "^=", "<", ">", "&", "|", "^", "+", "-", "*", "/", "%", "=", "!", "~", "?",
    ":",
    "(", ")"]
  match all.find? fun o => o.toList.isPrefixOf chars with
  | none => return none
  | some o =>
    match ops.lookup o with
    | none => return none
    | some a =>
      set (chars.drop o.length)
      return some a

/-- The operations with two sides, those that bind most loosely first. -/
def levels : List (List (String × Operation)) :=
  [[("|", .anyBit)], [("^", .oneBit)], [("&", .bothBits)], [("==", .same), ("!=", .differ)],
    [("<=", .atMost), (">=", .atLeast), ("<", .less), (">", .greater)],
    [("<<", .up), (">>", .down)], [("+", .plus), ("-", .minus)],
    [("*", .times), ("/", .over), ("%", .rest)]]

/-- The operations of assignments that combine. -/
def combining : List (String × Operation) :=
  [("<<=", .up), (">>=", .down), ("+=", .plus), ("-=", .minus), ("*=", .times), ("/=", .over),
    ("%=", .rest), ("&=", .bothBits), ("|=", .anyBit), ("^=", .oneBit)]

/-- A chain of items with operators between them, the first ones combined first. -/
def chain {α : Type} (ops : List (String × α)) (combine : α → Expr → Expr → Expr)
    (item : Reading Expr) : Nat → Expr → Reading Expr
  | 0, left => return left
  | fuel + 1, left => do
    match ← operator? ops with
    | none => return left
    | some op => chain ops combine item fuel (combine op left (← item))

/-- A chain of chains for the levels of operations. -/
def levelled (primary : Reading Expr) : List (List (String × Operation)) → Reading Expr
  | [] => primary
  | ops :: tighter => do
    let item := levelled primary tighter
    chain ops .apply item ((← get).length + 1) (← item)

/-- A primary expression, given how to take a whole one and how to take another primary one. -/
def primaryWith (whole self : Reading Expr) : Reading Expr := do
  match ← operator? [("(", 0), ("-", 1), ("+", 2), ("!", 3), ("~", 4)] with
  | some 0 =>
    let e ← whole
    if (← operator? [(")", ())]).isSome then return e else throw (.malformed "expecting ')'")
  | some 1 => return .opposite (← self)
  | some 2 => self
  | some 3 => return .isZero (← self)
  | some _ => return .turned (← self)
  | none =>
    let chars ← rest
    let word := chars.takeWhile fun c => c.isAlphanum || c == '_'
    set (chars.drop word.length)
    match word.head? with
    | none => throw (.malformed "expecting primary")
    | some c =>
      let text := String.ofList word
      if c.isDigit then
        match numberOf? text with
        | some n => return .number n
        | none => throw (.malformed "expecting EOF")
      else return .var text

/-- A primary expression. -/
def primary (whole : Reading Expr) : Nat → Reading Expr
  | 0 => throw (.malformed "expecting primary")
  | fuel + 1 => primaryWith whole (primary whole fuel)

/-- A whole expression: an assignment, or a choice between two. -/
def whole : Nat → Reading Expr
  | 0 => throw (.malformed "expecting primary")
  | fuel + 1 => do
    let start ← rest
    let word := start.takeWhile fun c => c.isAlphanum || c == '_'
    set (start.drop word.length)
    let isVariable := word.head?.any fun c => !c.isDigit
    let assignment ← if isVariable then
        operator? (("=", none) :: combining.map fun (o, op) => (o, some op))
      else pure none
    let name := String.ofList word
    match assignment with
    | some none => return .assign name (← whole fuel)
    | some (some op) => return .assign name (.apply op (.var name) (← whole fuel))
    | none =>
      set start
      let depth := start.length + 1
      let item := levelled (primary (whole fuel) depth) levels
      let conjunction := do chain [("&&", ())] (fun _ => .both) item depth (← item)
      let condition ← chain [("||", ())] (fun _ => .any) conjunction depth (← conjunction)
      if (← operator? [("?", ())]).isSome then
        let yes ← whole fuel
        if (← operator? [(":", ())]).isNone then throw (.malformed "expecting ':'")
        return .choice condition yes (← whole fuel)
      else return condition

/-- Reads an expression. A blank text stands for zero. -/
def ofText (text : String) : Except ArithmeticFault Expr :=
  if (text.toList.all fun c => c == ' ' || c == '\t' || c == '\n') then .ok (.number 0)
  else
    match (whole (text.length + 1)).run text.toList with
    | .error e => .error e
    | .ok (e, left) =>
      if left.all fun c => c == ' ' || c == '\t' || c == '\n' then .ok e
      else .error (.malformed "expecting EOF")

/-! ## Evaluating -/

/-- Whether something is true, as a number. -/
def truth (b : Bool) : Int64 := if b then 1 else 0

/-- The result of an operation. -/
def operate (op : Operation) (a b : Int64) : Except ArithmeticFault Int64 :=
  match op with
  | .times => .ok (a * b)
  | .over => if b = 0 then .error .zeroDivision else .ok (a / b)
  | .rest => if b = 0 then .error .zeroDivision else .ok (a % b)
  | .plus => .ok (a + b)
  | .minus => .ok (a - b)
  | .up => .ok (a <<< b)
  | .down => .ok (a >>> b)
  | .less => .ok (truth (a < b))
  | .atMost => .ok (truth (a ≤ b))
  | .greater => .ok (truth (b < a))
  | .atLeast => .ok (truth (b ≤ a))
  | .same => .ok (truth (a == b))
  | .differ => .ok (truth (a != b))
  | .bothBits => .ok (a &&& b)
  | .oneBit => .ok (a ^^^ b)
  | .anyBit => .ok (a ||| b)

/-- The value of an expression. The assignments made on the way stand last first. -/
def value (look : String → String) :
    Expr → StateT (List (String × Int64)) (Except ArithmeticFault) Int64
  | .number n => return n
  | .var name => do
    match (← get).lookup name with
    | some n => return n
    | none =>
      match valueOf? (look name) with
      | some n => return n
      | none => throw (.noNumber (look name))
  | .opposite e => do return - (← value look e)
  | .isZero e => do return truth ((← value look e) == 0)
  | .turned e => do return ~~~ (← value look e)
  | .apply op left right => do
    let a ← value look left
    let b ← value look right
    operate op a b
  | .both left right => do
    if (← value look left) = 0 then return 0
    else return truth ((← value look right) != 0)
  | .any left right => do
    if (← value look left) = 0 then return truth ((← value look right) != 0)
    else return 1
  | .choice condition yes no => do
    if (← value look condition) = 0 then value look no else value look yes
  | .assign name e => do
    let n ← value look e
    modify fun done => (name, n) :: done
    return n

/-- The value of a text as an expression, and the assignments in it, in order. -/
def evaluate (look : String → String) (text : String) :
    Except ArithmeticFault (Int64 × List (String × Int64)) := do
  let e ← ofText text
  let (n, done) ← (e.value look).run []
  return (n, done.reverse)

end Expr

end PauseWatch.Shell
