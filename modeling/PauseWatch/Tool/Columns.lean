import PauseWatch.Tool.Stream

/-!
# Parts of lines

A program that writes chosen parts of every line: characters by their places, or the fields between
separators.
-/

namespace PauseWatch.Tool

open Host (Work)

namespace Columns

/-- Places that are chosen, from a first one to a last one if there is one; places start with one. -/
abbrev Range := Nat × Option Nat

/-- Whether a place lies in a range. -/
def inRange (place : Nat) (r : Range) : Bool := r.1 ≤ place && r.2.all (place ≤ ·)

/-- How faults in lists of places are told: for fields, or for places of characters. -/
structure Wording where
  /-- The name of a wrong place. -/
  value : String
  /-- That places start with one. -/
  zero : String
  /-- That a range is wrong. -/
  range : String
  /-- What a large number is the number of. -/
  large : String

/-- The wording for fields. -/
def forFields : Wording :=
  ⟨"field value", "fields are numbered from 1", "invalid field range", "field number"⟩

/-- The wording for characters. -/
def forPlaces : Wording :=
  ⟨"byte/character position", "byte/character positions are numbered from 1",
    "invalid byte or character range", "byte/character offset"⟩

/-- The greatest number of a place. -/
def greatestPlace : Nat := Nat.pow 2 64 - 1

/-- A list of places that is being read. -/
structure Draft where
  /-- The number under way. -/
  value : Nat := 0
  /-- The digits of it, the last first. -/
  digits : List Char := []
  /-- The start of the range under way. -/
  start : Nat := 0
  /-- Whether a hyphen was read. -/
  hasHyphen : Bool := false
  /-- Whether digits stand before it. -/
  hasLeft : Bool := false
  /-- Whether digits stand behind it. -/
  hasRight : Bool := false
  /-- The ranges so far. -/
  ranges : List Range := []

/-- Ends the range under way. -/
def Draft.close (w : Wording) (d : Draft) : Except String Draft :=
  if !d.hasHyphen then
    if d.value = 0 then .error w.zero
    else .ok { ranges := d.ranges ++ [(d.value, some d.value)] }
  else if !d.hasLeft && !d.hasRight then .error "invalid range with no endpoint: -"
  else if !d.hasRight then .ok { ranges := d.ranges ++ [(d.start, none)] }
  else if d.value < d.start then .error "invalid decreasing range"
  else .ok { ranges := d.ranges ++ [(d.start, some d.value)] }

/-- Reads a list of places. -/
def readRanges (w : Wording) : Draft → List Char → Except String (List Range)
  | d, [] => do return (← d.close w).ranges
  | d, c :: rest =>
    if c = '-' then
      if d.hasHyphen then .error w.range
      else if d.hasLeft && d.value = 0 then .error w.zero
      else readRanges w
        { d with hasHyphen := true, start := if d.hasLeft then d.value else 1, value := 0, digits := [] }
        rest
    else if c = ',' || c = ' ' || c = '\t' then do readRanges w (← d.close w) rest
    else if c.isDigit then
      let value := d.value * 10 + Text.digitValue c
      let digits := c :: d.digits
      if greatestPlace ≤ value then
        let all := String.ofList (digits.reverse ++ rest.takeWhile Char.isDigit)
        .error (w.large ++ " " ++ quoted all ++ " is too large")
      else
        readRanges w
          { d with value, digits, hasLeft := d.hasLeft || !d.hasHyphen
                   hasRight := d.hasRight || d.hasHyphen } rest
    else .error ("invalid " ++ w.value ++ " " ++ quoted (String.ofList (c :: rest)))

/-- Joins ranges that overlap; they are in order. -/
def joinRanges : List Range → List Range
  | a :: b :: rest =>
    match a.2 with
    | none => [a]
    | some stop =>
      if b.1 ≤ stop then joinRanges ((a.1, b.2.map (max stop)) :: rest) else a :: joinRanges (b :: rest)
  | ranges => ranges
  termination_by ranges => ranges.length

/-- Ranges in order, without overlaps. -/
def sortRanges (ranges : List Range) : List Range :=
  joinRanges (ranges.mergeSort fun a b => a.1 ≤ b.1)

/-- The places that are in no range, as ranges; the ranges are in order, and those before a place are
done. -/
def complement : Nat → List Range → List Range
  | next, [] => [(next, none)]
  | next, (first, last) :: rest =>
    let gap := if next < first then [(next, some (first - 1))] else []
    match last with
    | none => gap
    | some last => gap ++ complement (last + 1) rest

/-- What is chosen of every line. -/
structure Choice where
  /-- The places. -/
  ranges : List Range
  /-- Whether fields are chosen, and not characters. -/
  isFields : Bool
  /-- What separates fields. -/
  separator : Char := '\t'
  /-- What is written between parts. -/
  between : Option String := none
  /-- Whether lines without a separator are left out. -/
  skipsWhole : Bool := false

/-- The characters of a line that are chosen, where every range but the first is set apart. -/
def chosenChars (c : Choice) (line : List Char) : String :=
  let parts := c.ranges.filterMap fun (first, last) =>
    let part := (line.drop (first - 1)).take (last.elim line.length (· + 1 - first))
    if part = [] then none else some (String.ofList part)
  (c.between.getD "").intercalate parts

/-- What is written for a line. -/
def chosen (c : Choice) (lineEnd : String) (line : String) : String :=
  if !c.isFields then chosenChars c line.toList ++ lineEnd
  else if !line.toList.contains c.separator then if c.skipsWhole then "" else line ++ lineEnd
  else
    let fields := Text.splitAt c.separator line
    let kept := (fields.zipIdx 1).filter fun (_, place) => c.ranges.any (inRange place)
    (c.between.getD (String.singleton c.separator)).intercalate (kept.map (·.1)) ++ lineEnd

/-- The names of the options. -/
def names : List (String × Char) :=
  [("bytes:", 'b'), ("characters:", 'c'), ("fields:", 'f'), ("delimiter:", 'd'),
    ("only-delimited", 's'), ("output-delimiter:", 'o'), ("complement", '^'),
    ("zero-terminated", 'z')]

/-- What options choose, or what is wrong with them. -/
def Choice.ofOptions (s : Selection) : Except String Choice := do
  let lists := s.options.filter fun (key, _) => ['b', 'c', 'f'].contains key
  let separators := s.all 'd'
  if separators.any (1 < ·.length) then throw "the delimiter must be a single character"
  match lists with
  | [] => throw "you must specify a list of bytes, characters, or fields"
  | _ :: _ :: _ => throw "only one list may be specified"
  | [(key, list)] =>
    let isFields := key = 'f'
    if !isFields && separators ≠ [] then
      throw "an input delimiter may be specified only when operating on fields"
    if !isFields && s.has 's' then
      throw "suppressing non-delimited lines makes sense\n\tonly when operating on fields"
    let ranges ← readRanges (if isFields then forFields else forPlaces) {} (list.getD "").toList
    let ranges := sortRanges ranges
    return {
      ranges := if s.has '^' then complement 1 ranges else ranges
      isFields
      separator := separators.getLast?.elim '\t' fun d => d.toList.headD '\x00'
      between := (s.last? 'o').map fun o => if o = "" then "\x00" else o
      skipsWhole := s.has 's' }

end Columns

open Columns in
/-- Writes chosen parts of every line. -/
def cut (me : String) (args : List String) : Work Nat :=
  withOptions me "b:c:d:f:nsz" names true 1 args fun s => do
    match Choice.ofOptions s with
    | .error problem => usage me problem 1
    | .ok c =>
      let lineEnd := if s.has 'z' then '\x00' else '\n'
      let ending := String.singleton lineEnd
      if c.isFields && c.separator = lineEnd then
        let (status, bytes) ← readFiles me plainly s.operands
        let bytes := if bytes.getLast? = some (UInt8.ofNat lineEnd.toNat) then bytes.dropLast else bytes
        unless bytes = [] do print me (chosen c ending (Text.ofByteList bytes))
        return status
      else
        return (← forLines me plainly lineEnd (fun () line => ((), chosen c ending line))
          s.operands ()).1

end PauseWatch.Tool
