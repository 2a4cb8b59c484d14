import PauseWatch.Tool.Order.Key
import PauseWatch.Tool.Stream

/-!
# Lines in order

A program puts the lines of files in order, merges files that are in order, or checks whether a file
is.
-/

namespace PauseWatch.Tool

open Host (Fault Work)

namespace Sorting

/-- How lines are put in order. -/
structure Plan where
  /-- The keys. -/
  keys : List Key := []
  /-- The character between fields. -/
  separator : Option Char := none
  /-- Whether lines with the same keys keep their order. -/
  isStable : Bool := false
  /-- Whether of lines with the same keys only the first stays. -/
  isUnique : Bool := false
  /-- Whether whole lines are compared backwards. -/
  isBackward : Bool := false
  /-- What ends lines. -/
  lineEnd : Char := '\n'

/-- A line with its parts. -/
def Plan.keyed (plan : Plan) (line : List Char) : KeyedLine where
  line := line
  parts := plan.keys.map fun k => k.part plan.separator line

/-- The order of two lines. -/
def Plan.compare (plan : Plan) (a b : KeyedLine) : Ordering :=
  let byKeys := compareKeys plan.keys a.parts b.parts
  if plan.keys ≠ [] && (plan.isUnique || plan.isStable) then byKeys
  else
    let whole := compareOfLessAndEq a.line b.line
    byKeys.then (if plan.isBackward then whole.swap else whole)

/-- Whether a line can stand before another one. -/
def Plan.atMost (plan : Plan) (a b : KeyedLine) : Bool := plan.compare a b != .gt

/-- Leaves out lines that are like the one before. -/
def Plan.distinct (plan : Plan) : List KeyedLine → List KeyedLine
  | a :: b :: rest =>
    if plan.compare a b = .eq then plan.distinct (a :: rest) else a :: plan.distinct (b :: rest)
  | lines => lines
  termination_by lines => lines.length

/-- Cuts characters into lines; the line that was begun and the lines before it stand last
first. -/
def cut (lineEnd : Char) (lines : List (List Char)) (line : List Char) :
    List Char → List (List Char)
  | [] => (if line = [] then lines else line.reverse :: lines).reverse
  | c :: rest =>
    if c = lineEnd then cut lineEnd (line.reverse :: lines) [] rest
    else cut lineEnd lines (c :: line) rest

/-- The lines of a file. -/
def Plan.linesOf (plan : Plan) (bytes : List UInt8) : List KeyedLine :=
  (cut plan.lineEnd [] [] (bytes.map fun b => Char.ofNat b.toNat)).map plan.keyed

/-- The first line that cannot stand behind the one before it, with its number. -/
def Plan.disorder? (plan : Plan) : Nat → List KeyedLine → Option (Nat × KeyedLine)
  | n, a :: b :: rest =>
    let order := plan.compare a b
    if order = .gt || (plan.isUnique && order = .eq) then some (n + 1, b)
    else plan.disorder? (n + 1) (b :: rest)
  | _, _ => none

/-- The lines of files in order. -/
def Plan.arrange (plan : Plan) (merges : Bool) (files : List (List KeyedLine)) :
    List KeyedLine :=
  let lines :=
    if merges then files.foldl (fun done lines => done.merge lines plan.atMost) []
    else files.flatten.mergeSort plan.atMost
  if plan.isUnique then plan.distinct lines else lines

/-! ## Keys as they are written -/

/-- What is said about a key that makes no sense. -/
def badKey (problem spec : String) : String :=
  problem ++ ": invalid field specification " ++ quoted spec

/-- Reads a count. -/
def readCount (problem : String) (chars : List Char) : Except String (Nat × List Char) :=
  let unsigned := match chars.dropWhile fun c => c = ' ' || ('\t' ≤ c && c ≤ '\r') with
    | '+' :: rest => rest
    | rest => rest
  let digits := unsigned.takeWhile Char.isDigit
  if digits = [] then
    .error (problem ++ ": invalid count at start of " ++ quoted (String.ofList chars))
  else .ok (Text.digitsValue 10 digits, unsigned.drop digits.length)

/-- The letters of orders. -/
def orderLetters : List Char := ['d', 'f', 'g', 'h', 'i', 'M', 'n', 'R', 'r', 'V']

/-- Reads letters of orders and of blanks; whether there is one of blanks stands in the middle. -/
def readLetters (chars : List Char) : List Char × Bool × List Char :=
  let letters := chars.takeWhile fun c => c = 'b' || orderLetters.contains c
  (letters.filter (· != 'b'), letters.contains 'b', chars.drop letters.length)

/-- Reads a number of fields. -/
def readFields (problem spec : String) (chars : List Char) : Except String (Nat × List Char) := do
  match ← readCount problem chars with
  | (0, _) => throw (badKey "field number is zero" spec)
  | (n + 1, rest) => return (n, rest)

/-- Reads where a part starts. -/
def readStart (spec : String) (chars : List Char) : Except String (Mark × List Char) := do
  let (fields, rest) ← readFields "invalid number at field start" spec chars
  match rest with
  | '.' :: rest =>
    match ← readCount "invalid number after '.'" rest with
    | (0, _) => throw (badKey "character offset is zero" spec)
    | (n + 1, rest) => return (⟨fields, n⟩, rest)
  | rest => return (⟨fields, 0⟩, rest)

/-- Reads where a part ends. -/
def readStop (spec : String) (chars : List Char) : Except String (Mark × List Char) := do
  let (fields, rest) ← readFields "invalid number after ','" spec chars
  match rest with
  | '.' :: rest =>
    let (n, rest) ← readCount "invalid number after '.'" rest
    return (⟨fields, n⟩, rest)
  | rest => return (⟨fields, 0⟩, rest)

/-- Reads a key. -/
def readKey (spec : String) : Except String Key := do
  let (mark, rest) ← readStart spec spec.toList
  let (letters, skipsAtStart, rest) := readLetters rest
  let key : Key := {
    start := if mark = ⟨0, 0⟩ then none else some mark
    letters, skipsAtStart }
  match rest with
  | [] => return key
  | ',' :: rest =>
    let (mark, rest) ← readStop spec rest
    let (more, skipsAtStop, rest) := readLetters rest
    if rest ≠ [] then throw (badKey "stray character in field spec" spec)
    return { key with stop := some mark, letters := letters ++ more, skipsAtStop }
  | _ => throw (badKey "stray character in field spec" spec)

/-- Reads the character between fields. -/
def readSeparator (text : String) : Except String Char :=
  match text.toList with
  | [] => .error "empty tab"
  | [c] => .ok c
  | ['\\', '0'] => .ok '\x00'
  | _ => .error ("multi-character tab " ++ quoted text)

/-- The letter of an order with a name. -/
def orderNamed? (name : String) : Option Char :=
  (([("general-numeric", 'g'), ("human-numeric", 'h'), ("month", 'M'), ("numeric", 'n'),
    ("random", 'R'), ("version", 'V')] : List (String × Char)).find? fun (full, _) =>
      name ≠ "" && Text.startsWith name full).map (·.2)

/-- The key that the options give for whole lines. -/
def wholeKey (s : Selection) : Key :=
  let named := (s.all 'w').filterMap orderNamed?
  { letters := orderLetters.filter fun c => s.has c || named.contains c
    skipsAtStart := s.has 'b'
    skipsAtStop := s.has 'b' }

/-- A key that says nothing about how parts are compared takes over what is said for whole
lines. -/
def inherit (whole k : Key) : Key :=
  if k.isDefault && !k.has 'r' then
    { k with
      letters := whole.letters
      skipsAtStart := whole.skipsAtStart
      skipsAtStop := whole.skipsAtStop }
  else k

/-- What is said about options that do not go together. -/
def incompatible (letters : List Char) : String :=
  "options '-" ++ String.ofList letters ++ "' are incompatible"

/-- The plan that the options make. -/
def planOf (s : Selection) : Except String Plan := do
  let keys ← (s.all 'k').mapM readKey
  let separators ← (s.all 't').mapM readSeparator
  if !separators.all (some · = separators.head?) then throw "incompatible tabs"
  let whole := wholeKey s
  let keys := keys.map (inherit whole)
  let keys := if keys = [] && !whole.isDefault then [whole] else keys
  match keys.findSome? Key.clash? with
  | some letters => throw (incompatible letters)
  | none =>
    return {
      keys
      separator := separators.head?
      isStable := s.has 's'
      isUnique := s.has 'u'
      isBackward := s.has 'r'
      lineEnd := if s.has 'z' then '\x00' else '\n' }

end Sorting

/-- Ends the program with a message. -/
def dieAt {α : Type} (me : String) (status : Nat) (message : String) : Work α := do
  warn me message
  Work.exit status

open Sorting in
/-- Sorts lines. -/
def sort (me : String) (args : List String) : Work Nat :=
  let names := [("ignore-leading-blanks", 'b'), ("check::", 'c'), ("compress-program:", 'p'),
    ("dictionary-order", 'd'), ("ignore-case", 'f'), ("general-numeric-sort", 'g'),
    ("ignore-nonprinting", 'i'), ("key:", 'k'), ("merge", 'm'), ("month-sort", 'M'),
    ("numeric-sort", 'n'), ("human-numeric-sort", 'h'), ("version-sort", 'V'),
    ("random-sort", 'R'), ("random-source:", 'a'), ("sort:", 'w'), ("output:", 'o'),
    ("reverse", 'r'), ("stable", 's'), ("batch-size:", 'e'), ("buffer-size:", 'S'),
    ("field-separator:", 't'), ("temporary-directory:", 'T'), ("unique", 'u'),
    ("zero-terminated", 'z'), ("parallel:", 'l')]
  withOptions me "bCcdfghik:mMno:rRsS:t:T:uVz" names true 2 args fun s => do
    match planOf s with
    | .error message => dieAt me 2 message
    | .ok plan =>
      let checks := s.has 'c' || s.has 'C'
      let isQuiet := s.has 'C' || (s.all 'c').any fun how => how ≠ "diagnose-first"
      let files := if s.operands = [] then ["-"] else s.operands
      let letter := if isQuiet then 'C' else 'c'
      if s.has 'C' && s.has 'c' then dieAt me 2 (incompatible ['c', 'C'])
      else if checks && s.has 'o' then dieAt me 2 (incompatible [letter, 'o'])
      else match checks, files with
        | true, _ :: extra :: _ =>
          dieAt me 2 ("extra operand " ++ shellQuoted extra ++ " not allowed with -"
            ++ String.singleton letter)
        | _, _ =>
          for path in files do
            unless path = "-" do
              match ← Work.look path with
              | .ok _ => pure ()
              | .error fault => dieAt me 2 ("cannot read: " ++ plainly path fault)
          let target ← match s.last? 'o' with
            | none => pure none
            | some path =>
              match ← Work.openFile path .append with
              | .ok _ => pure (some path)
              | .error fault => dieAt me 2 ("open failed: " ++ plainly path fault)
          let contents ← files.mapM fun path => do
            match ← contentsAt fileFd path with
            | .ok bytes => return plan.linesOf bytes
            | .error fault => dieAt me 2 ("read failed: " ++ plainly path fault)
          if checks then
            match plan.disorder? 1 (contents.headD []) with
            | none => return 0
            | some (n, line) =>
              unless isQuiet do
                warn me (files.headD "-" ++ ":" ++ toString n ++ ": disorder: "
                  ++ String.ofList line.line)
              return 1
          else
            let lines := plan.arrange (s.has 'm') contents
            match target with
            | none => pure ()
            | some path =>
              match ← Work.openFile path .write with
              | .ok handle => Work.attach 1 (some handle)
              | .error fault => dieAt me 2 ("open failed: " ++ plainly path fault)
            let text := lines.map fun k => String.ofList (k.line ++ [plan.lineEnd])
            unless text = [] do print me (String.join text)
            return 0

end PauseWatch.Tool
