import PauseWatch.Tool.Condition
import PauseWatch.Tool.Quote

/-!
# Conditions of a program

Up to four words are read by their number, more by the strength of operators. Every part is looked
at, even if the result is clear before.
-/

namespace PauseWatch.Tool

open Host (Work)

namespace Verdict

/-- What is left of the words, and the last of all words. -/
abbrev Reading := StateT (List String) (ExceptT String Work)

/-- Whether a word is an operator between two others. -/
def isBinary (word : String) : Bool :=
  word = "==" || (Condition.binaryOperators.contains word && word ≠ "<" && word ≠ ">")

/-- Whether a word looks like an operator before another one. -/
def looksUnary (word : String) : Bool := word.length = 2 && word.startsWith "-"

/-- How it is said that a word is no number. -/
def badNumber (word : String) : String := "invalid integer " ++ quoted word

/-- Asks the host about a condition. -/
def asked (work : Work (Except String Bool)) : Reading Bool := StateT.lift (ExceptT.mk work)

/-- Takes a word, which must be there; the last of all words is shown if not. -/
def anyWord (last : String) : Reading String := do
  match ← get with
  | [] => throw ("missing argument after " ++ quoted last)
  | word :: rest =>
    set rest
    return word

/-- Leaves out a word, behind which another one must stand. -/
def skip (last : String) : Reading Unit := do
  let _ ← anyWord last
  if (← get) = [] then throw ("missing argument after " ++ quoted last)

/-- Takes a word, which holds unless it is empty. -/
def single (last : String) : Reading Bool := return (← anyWord last) != ""

/-- Takes an operator and the word behind it. -/
def unary (last : String) : Reading Bool := do
  let op ← anyWord last
  if !(Condition.unaryOperators ++ ["-N"]).contains op then
    throw (quoted op ++ ": unary operator expected")
  let word ← anyWord last
  asked (Condition.holdsOf badNumber op word)

/-- Takes an operator and the words around it. -/
def binary (last : String) : Reading Bool := do
  let a ← anyWord last
  let op ← anyWord last
  let b ← anyWord last
  asked (Condition.holdsBetween badNumber a (if op = "==" then "=" else op) b)

/-- Takes two words. -/
def pair (last : String) : Reading Bool := do
  match ← get with
  | "!" :: _ =>
    let _ ← anyWord last
    return !(← single last)
  | first :: _ =>
    if looksUnary first then unary last else throw ("missing argument after " ++ quoted last)
  | [] => throw ("missing argument after " ++ quoted last)

/-- Takes three words, given how to read more of them. -/
def triple (last : String) (more : Reading Bool) : Reading Bool := do
  match ← get with
  | a :: op :: b :: _ =>
    if isBinary op then binary last
    else if a = "!" then
      let _ ← anyWord last
      return !(← pair last)
    else if a = "(" && b = ")" then
      let _ ← anyWord last
      let result ← single last
      let _ ← anyWord last
      return result
    else if op = "-a" || op = "-o" then more
    else throw (quoted op ++ ": binary operator expected")
  | _ => throw ("missing argument after " ++ quoted last)

/-- Takes so many words, given how to read more of them. -/
def counted (last : String) (more : Reading Bool) (count : Nat) : Reading Bool := do
  match count, ← get with
  | 1, _ => single last
  | 2, _ => pair last
  | 3, _ => triple last more
  | 4, "!" :: _ =>
    let _ ← anyWord last
    return !(← triple last more)
  | 4, "(" :: _ :: _ :: ")" :: _ =>
    let _ ← anyWord last
    let result ← pair last
    let _ ← anyWord last
    return result
  | _, _ => more

/-- How many words stand in a part that was opened. -/
def partLength (words : List String) : Nat :=
  let inner := words.tail.takeWhile (· != ")")
  if 4 ≤ inner.length + 1 && (words.getD 4 "") ≠ ")" then words.length else inner.length + 1

/-- Takes a part between the operators that join parts. -/
def term (last : String) (more : Reading Bool) : Nat → Reading Bool
  | 0 => throw ("missing argument after " ++ quoted last)
  | fuel + 1 => do
    match ← get with
    | "!" :: _ =>
      skip last
      return !(← term last more fuel)
    | "(" :: _ =>
      skip last
      let result ← counted last more (partLength (← get))
      match ← get with
      | ")" :: rest =>
        set rest
        return result
      | found :: _ => throw (quoted ")" ++ " expected, found " ++ quoted found)
      | [] => throw (quoted ")" ++ " expected")
    | words@(first :: _) =>
      if 3 ≤ words.length && isBinary (words.getD 1 "") then binary last
      else if looksUnary first then unary last
      else single last
    | [] => throw ("missing argument after " ++ quoted last)

/-- Takes parts with an operator between them. -/
def joined (op : String) (join : Bool → Bool → Bool) (part : Reading Bool) : Nat → Reading Bool
  | 0 => part
  | fuel + 1 => do
    let a ← part
    match ← get with
    | word :: rest =>
      if word ≠ op then return a
      set rest
      let b ← joined op join part fuel
      return join a b
    | [] => return a

/-- Takes parts of which one has to hold, made of parts that all have to hold. -/
def whole (last : String) : Nat → Reading Bool
  | 0 => throw ("missing argument after " ++ quoted last)
  | fuel + 1 => do
    let count := (← get).length + 1
    joined "-o" or (joined "-a" and (term last (whole last fuel) count) count) count

end Verdict

open Verdict in
/-- Evaluates a condition, which must make sense to its last word; a condition without words does
not hold. -/
def verdict (words : List String) : Work (Except String Bool) := do
  if words = [] then return .ok false
  let last := words.getLastD ""
  match ← ((counted last (whole last (words.length + 1)) words.length).run words).run with
  | .ok (b, []) => return .ok b
  | .ok (_, extra :: _) => return .error ("extra argument " ++ quoted extra)
  | .error message => return .error message

end PauseWatch.Tool
