import PauseWatch.Host.Program

/-!
# Conditions on texts, numbers and files

What operators say of texts, numbers and files. How words are read as conditions is left to those
who read them.
-/

namespace PauseWatch.Tool

open Host (Item Work)

namespace Condition

/-- Whether a character is a blank. -/
def isBlank (c : Char) : Bool := c = ' ' || ('\t' ≤ c && c ≤ '\r')

/-- The whole number that a text spells. -/
def integer? (text : String) : Option Int :=
  let bare := ((text.toList.dropWhile isBlank).reverse.dropWhile isBlank).reverse
  let natural? (digits : List Char) : Option Int :=
    if digits ≠ [] && digits.all Char.isDigit then
      some (digits.foldl (fun n c => n * 10 + Int.ofNat (c.toNat - '0'.toNat)) 0)
    else none
  match bare with
  | '-' :: digits => (natural? digits).map (- ·)
  | '+' :: digits => natural? digits
  | digits => natural? digits

/-- The operators between numbers. -/
def numberTests : List (String × (Int → Int → Bool)) :=
  [("-eq", fun a b => a == b), ("-ne", fun a b => a != b), ("-lt", fun a b => a < b),
    ("-le", fun a b => a ≤ b), ("-gt", fun a b => b < a), ("-ge", fun a b => b ≤ a)]

/-- The operators between texts. -/
def textTests : List (String × (String → String → Bool)) :=
  [("=", fun a b => a == b), ("!=", fun a b => a != b), ("<", fun a b => a < b),
    (">", fun a b => b < a)]

/-- The operators between files. -/
def pairTests : List String := ["-nt", "-ot", "-ef"]

/-- The operators on files. -/
def fileTests : List (String × (Item → Bool)) :=
  let isFile (item : Item) : Bool := match item with
    | .file _ _ | .tool _ => true
    | _ => false
  let isDevice (item : Item) : Bool := match item with
    | .device _ => true
    | _ => false
  let isFilled (item : Item) : Bool := match item with
    | .file bytes _ => bytes != []
    | .tool _ | .folder => true
    | _ => false
  let never (_ : Item) : Bool := false
  let always (_ : Item) : Bool := true
  [("-e", always), ("-f", isFile), ("-d", fun item => item == .folder), ("-r", always),
    ("-w", always), ("-x", fun item => item == .folder || item.isProgram), ("-s", isFilled),
    ("-c", isDevice), ("-O", always), ("-G", always), ("-b", never), ("-p", never), ("-S", never),
    ("-u", never), ("-g", never), ("-k", never)]

/-- The operators on links. -/
def linkTests : List String := ["-L", "-h"]

/-- The operators before one word. -/
def unaryOperators : List String := fileTests.map (·.1) ++ linkTests ++ ["-n", "-z", "-t"]

/-- The operators between two words. -/
def binaryOperators : List String :=
  textTests.map (·.1) ++ numberTests.map (·.1) ++ pairTests

/-- Whether an operator holds of a word, given how it is said that a word is no number. No
descriptor belongs to a terminal. -/
def holdsOf (badNumber : String → String) (op word : String) : Work (Except String Bool) := do
  if op = "-n" then return .ok (word != "")
  else if op = "-z" then return .ok (word == "")
  else if op = "-t" then
    return if (integer? word).isSome then .ok false else .error (badNumber word)
  else if linkTests.contains op then
    match ← Work.peek word with
    | .ok (.link _) => return .ok true
    | _ => return .ok false
  else
    match ← Work.look word with
    | .ok item => return .ok ((fileTests.lookup op).any (· item))
    | .error _ => return .ok false

/-- Whether an operator holds between two words. Files that are there are equally old. -/
def holdsBetween (badNumber : String → String) (a op b : String) : Work (Except String Bool) := do
  match textTests.lookup op, numberTests.lookup op with
  | some test, _ => return .ok (test a b)
  | none, some test =>
    match integer? a, integer? b with
    | some m, some n => return .ok (test m n)
    | none, _ => return .error (badNumber a)
    | _, none => return .error (badNumber b)
  | none, none =>
    if op ≠ "-ef" then return .ok false
    match ← Work.place a, ← Work.place b, ← Work.look a with
    | .ok m, .ok n, .ok _ => return .ok (m == n)
    | _, _, _ => return .ok false

end Condition

end PauseWatch.Tool
