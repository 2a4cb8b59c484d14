/-!
# Nesting of quotes and substitutions

Quotes, substitutions and parameter expansions nest. A scan over a text keeps the list of what is
open, the innermost first, and one character (or two) at a time tells what becomes of it.
-/

namespace PauseWatch.Shell

/-- What can be open while a word is read. -/
inductive Nest where
  /-- Single quotes. -/
  | single
  /-- Double quotes. -/
  | double
  /-- Parentheses. -/
  | parens
  /-- Braces of a parameter expansion. -/
  | braces
  /-- Backquotes. -/
  | backquotes
  deriving DecidableEq, Repr

namespace Nest

/-- Whether what is open stands between double quotes, looking past braces. -/
def isQuoted : List Nest → Bool
  | .double :: _ => true
  | .braces :: rest => isQuoted rest
  | _ => false

/-- What is open after a character and how many characters that takes, given the character after
it. -/
def step (stack : List Nest) (c : Char) (next : Option Char) : List Nest × Nat :=
  let opened (stack : List Nest) : List Nest × Nat :=
    if c = '$' && next = some '(' then (.parens :: stack, 2)
    else if c = '$' && next = some '{' then (.braces :: stack, 2)
    else (stack, 1)
  match stack with
  | .single :: rest => if c = '\x27' then (rest, 1) else (stack, 1)
  | .double :: rest =>
    if c = '\\' then (stack, 2)
    else if c = '"' then (rest, 1)
    else if c.toNat = 0x60 then (.backquotes :: stack, 1)
    else opened stack
  | .backquotes :: rest =>
    if c = '\\' then (stack, 2)
    else if c.toNat = 0x60 then (rest, 1)
    else (stack, 1)
  | other =>
    if c = '\\' then (stack, 2)
    else if c = '\x27' && !isQuoted stack then (.single :: stack, 1)
    else if c = '"' then (.double :: stack, 1)
    else if c.toNat = 0x60 then (.backquotes :: stack, 1)
    else match other with
      | .parens :: rest =>
        if c = '(' then (.parens :: stack, 1)
        else if c = ')' then (rest, 1)
        else opened stack
      | .braces :: rest => if c = '}' then (rest, 1) else opened stack
      | _ => opened stack

/-- Takes characters up to the one that closes everything that is open, and that one too. Answers
what was taken and the rest, or what is still open at the end. -/
def close (taken : List Char) : List Nest → List Char → Except (List Nest) (List Char × List Char)
  | [], rest => .ok (taken.reverse, rest)
  | n :: stack, [] => .error (n :: stack)
  | n :: stack, [c] =>
    match step (n :: stack) c none with
    | ([], 1) => .ok ((c :: taken).reverse, [])
    | (stack, _) => .error stack
  | n :: stack, c :: d :: rest =>
    match step (n :: stack) c (some d) with
    | (stack, 2) => close (d :: c :: taken) stack rest
    | (stack, _) => close (c :: taken) stack (d :: rest)

/-- Takes characters up to the one that closes `nest`, without that one. -/
def inside (nest : Nest) (text : List Char) : Except (List Nest) (List Char × List Char) := do
  let (taken, rest) ← close [] [nest] text
  return (taken.dropLast, rest)

/-- Whether a character ends a word that has nothing open. -/
def isBreak (c : Char) : Bool := c ∈ [' ', '\t', '\n', ';', '&', '|', '<', '>', '(', ')']

/-- Takes the characters of a word. -/
def word (taken : List Char) : List Nest → List Char → Except (List Nest) (List Char × List Char)
  | [], [] => .ok (taken.reverse, [])
  | n :: stack, [] => .error (n :: stack)
  | stack, [c] =>
    if stack = [] && isBreak c then .ok (taken.reverse, [c])
    else match step stack c none with
      | ([], _) => .ok ((c :: taken).reverse, [])
      | (stack, _) => .error stack
  | stack, c :: d :: rest =>
    if stack = [] && isBreak c then .ok (taken.reverse, c :: d :: rest)
    else match step stack c (some d) with
      | (stack, 2) => word (d :: c :: taken) stack rest
      | (stack, _) => word (c :: taken) stack (d :: rest)

end Nest

end PauseWatch.Shell
