import PauseWatch.Tool.Escape
import PauseWatch.Tool.Regexp.Reader
import PauseWatch.Tool.Stream

/-!
# Sets of characters

A set of characters is written with ranges, classes, repetitions and escapes. A program replaces the
characters of one set by those of another in order, drops them, or leaves out their repetitions.
-/

namespace PauseWatch.Tool

open Host (Work)

namespace Characters

/-- A part of a set. -/
inductive Part where
  /-- A character. -/
  | one (c : Char)
  /-- The characters from one to another. -/
  | range (first last : Char)
  /-- A class of characters. -/
  | named (name : String)
  /-- The characters that count as the same as one, which is that one alone. -/
  | same (c : Char)
  /-- A character so many times; no number stands for as often as it is needed. -/
  | times (c : Char) (count : Option Nat)
  deriving DecidableEq, Repr

/-- Why sets make no sense. -/
inductive Fault where
  /-- A class has no name. -/
  | noName
  /-- A class has a name that is not known. -/
  | unknownName (name : String)
  /-- Nothing is said to count as the same. -/
  | noSame
  /-- More than one character is said to count as the same. -/
  | manySame (text : String)
  /-- A range ends before it starts. -/
  | badRange (first last : Char)
  /-- A number of times makes no sense. -/
  | badTimes (text : String)
  /-- The first set has a character as often as it is needed. -/
  | openTimes
  /-- The second set has several of them. -/
  | manyOpenTimes
  /-- The second set has one where nothing is replaced. -/
  | idleOpenTimes
  /-- The second set says what counts as the same. -/
  | sameAsTarget
  /-- The second set has a class other than those of letters of one size. -/
  | classAsTarget
  /-- Letters of one size stand against something else. -/
  | misaligned
  /-- The second set is empty. -/
  | noTarget
  /-- The second set is too short and ends with a class. -/
  | classAtEnd
  /-- All characters but those of a class are replaced, not all by the same. -/
  | manyTargets
  deriving DecidableEq, Repr

/-- A character as messages show it. -/
def shown (c : Char) : List Char :=
  if c = '\\' then ['\\', '\\'] else if isVisible c then [c] else invisible c

/-- What is said about a fault. -/
def Fault.message : Fault → String
  | .noName => "missing character class name '[::]'"
  | .unknownName name =>
    "invalid character class " ++ quoted (String.ofList (name.toList.flatMap shown))
  | .noSame => "missing equivalence class character '[==]'"
  | .manySame text => String.ofList (text.toList.flatMap shown)
    ++ ": equivalence class operand must be a single character"
  | .badRange first last =>
    let ending (c : Char) : List Char := if isVisible c then [c] else octalEscape c
    "range-endpoints of '" ++ String.ofList (ending first ++ '-' :: ending last)
      ++ "' are in reverse collating sequence order"
  | .badTimes text => "invalid repeat count "
    ++ quoted (String.ofList (text.toList.flatMap shown)) ++ " in [c*n] construct"
  | .openTimes => "the [c*] repeat construct may not appear in string1"
  | .manyOpenTimes => "only one [c*] repeat construct may appear in string2"
  | .idleOpenTimes => "the [c*] construct may appear in string2 only when translating"
  | .sameAsTarget => "[=c=] expressions may not appear in string2 when translating"
  | .classAsTarget => "when translating, the only character classes that may appear in\n"
    ++ "string2 are 'upper' and 'lower'"
  | .misaligned => "misaligned [:upper:] and/or [:lower:] construct"
  | .noTarget => "when not truncating set1, string2 must be non-empty"
  | .classAtEnd => "when translating with string1 longer than string2,\n"
    ++ "the latter string must not end with a character class"
  | .manyTargets => "when translating with complemented character classes,\n"
    ++ "string2 must map all characters in the domain to one"

/-! ## Reading -/

/-- The characters of a set as it is written, each with whether it was escaped, and the warnings
that go with them. -/
def unescape : List Char → List (Char × Bool) × List String
  | '\\' :: c :: rest =>
    if isOctal c then
      match rest with
      | d :: e :: more =>
        if isOctal d && isOctal e then
          if Text.digitsValue 8 [c, d, e] < 256 then
            let (chars, warnings) := unescape more
            ((byteOf 8 [c, d, e], true) :: chars, warnings)
          else
            let (chars, warnings) := unescape (e :: more)
            ((byteOf 8 [c, d], true) :: chars,
              ("warning: the ambiguous octal escape \\" ++ String.ofList [c, d, e]
                ++ " is being\n\tinterpreted as the 2-byte sequence \\0" ++ String.ofList [c, d]
                ++ ", " ++ String.singleton e) :: warnings)
        else if isOctal d then
          let (chars, warnings) := unescape (e :: more)
          ((byteOf 8 [c, d], true) :: chars, warnings)
        else
          let (chars, warnings) := unescape (d :: e :: more)
          ((byteOf 8 [c], true) :: chars, warnings)
      | [d] =>
        if isOctal d then ([(byteOf 8 [c, d], true)], [])
        else if d = '\\' then ([(byteOf 8 [c], true), ('\\', false)], [lastBackslash])
        else ([(byteOf 8 [c], true), (d, false)], [])
      | [] => ([(byteOf 8 [c], true)], [])
    else
      let (chars, warnings) := unescape rest
      let meant := if c = 'e' then c else (letterEscape? c).getD c
      ((meant, true) :: chars, warnings)
  | ['\\'] => ([('\\', false)], [lastBackslash])
  | c :: rest =>
    let (chars, warnings) := unescape rest
    ((c, false) :: chars, warnings)
  | [] => ([], [])
where
  /-- What is said about a backslash that nothing follows. -/
  lastBackslash : String := "warning: an unescaped backslash at end of string is not portable"

/-- Cuts off what stands before a mark and a closing bracket. -/
def upToMark (mark : Char) : List (Char × Bool) → Option (List Char × List (Char × Bool))
  | (c, isEscaped) :: rest =>
    if !isEscaped && c = mark && rest.head? = some (']', false) then some ([], rest.drop 1)
    else (upToMark mark rest).map fun (chars, rest) => (c :: chars, rest)
  | [] => none

/-- Whether digits and a closing bracket follow. -/
def closesDigits : List (Char × Bool) → Bool
  | (c, isEscaped) :: rest => if c.isDigit then closesDigits rest else c = ']' && !isEscaped
  | [] => false

/-- A repetition, given what follows the opening bracket; nothing if it is none. -/
def repetition? : List (Char × Bool) → Except Fault (Option (Part × List (Char × Bool)))
  | (c, _) :: ('*', false) :: rest =>
    let digits := rest.takeWhile fun (d, isEscaped) => d ≠ ']' && !isEscaped
    if (rest.drop digits.length).head? ≠ some (']', false) then .ok none
    else
      let digits := digits.map (·.1)
      let after := rest.drop (digits.length + 1)
      let isOctalNumber := digits.head? = some '0'
      if !digits.all (if isOctalNumber then isOctal else Char.isDigit) then
        .error (.badTimes (String.ofList digits))
      else
        let count := Text.digitsValue (if isOctalNumber then 8 else 10) digits
        if UInt64.size / 2 ≤ count then .error (.badTimes (String.ofList digits))
        else .ok (some (.times c (if count = 0 then none else some count), after))
  | _ => .ok none

/-- A class, or what counts as the same, given the mark and what follows it; nothing if it is
neither. -/
def bracketed? (mark : Char) (rest : List (Char × Bool)) :
    Except Fault (Option (Part × List (Char × Bool))) :=
  match upToMark mark rest with
  | none => .ok none
  | some (name, after) =>
    let isTimes := rest.head? = some ('*', false) && closesDigits (rest.drop 1)
    let name' := String.ofList name
    if mark = ':' then
      if name = [] then .error .noName
      else if (Regexp.classRanges? name').isSome then .ok (some (.named name', after))
      else if isTimes then .ok none
      else .error (.unknownName name')
    else match name with
      | [] => .error .noSame
      | [c] => .ok (some (.same c, after))
      | _ => if isTimes then .ok none else .error (.manySame name')

/-- The parts of a set. -/
def parts : Nat → List (Char × Bool) → Except Fault (List Part)
  | 0, _ => .ok []
  | fuel + 1, chars => do
    let bracket : Option (Part × List (Char × Bool)) ← match chars with
      | ('[', false) :: (mark, false) :: rest =>
        if rest = [] then .ok none
        else if mark = ':' || mark = '=' then
          match ← bracketed? mark rest with
          | some found => .ok (some found)
          | none => repetition? ((mark, false) :: rest)
        else repetition? ((mark, false) :: rest)
      | ('[', false) :: rest => repetition? rest
      | _ => .ok none
    match bracket, chars with
    | some (part, rest), _ => return part :: (← parts fuel rest)
    | none, (a, _) :: ('-', false) :: (b, _) :: rest =>
      if b < a then .error (.badRange a b)
      else return .range a b :: (← parts fuel rest)
    | none, (c, _) :: rest => return .one c :: (← parts fuel rest)
    | none, [] => return []

/-! ## Sets -/

/-- The characters of ranges in order. -/
def inOrder (ranges : List (Char × Char)) : List Char :=
  ((List.range 256).map Char.ofNat).filter fun c => ranges.any fun (a, b) => a ≤ c && c ≤ b

/-- Whether a part stands for the letters of one size, and whether those are the large ones. -/
def Part.letters? : Part → Option Bool
  | .named name => if name = "upper" then some true else if name = "lower" then some false else none
  | _ => none

/-- The characters of a part, where a repetition without a number has none. -/
def Part.chars : Part → List Char
  | .one c | .same c => [c]
  | .range a b => inOrder [(a, b)]
  | .named name => inOrder ((Regexp.classRanges? name).getD [])
  | .times c count => List.replicate (count.getD 0) c

/-- Whether a part repeats a character as often as it is needed. -/
def Part.isOpen : Part → Bool
  | .times _ none => true
  | _ => false

/-- The characters of a set. -/
def charsOf (set : List Part) : List Char := set.flatMap Part.chars

/-- A step from one set to another: a character that becomes another, or letters that change their
size or stay as they are. -/
inductive Step where
  /-- A character becomes another. -/
  | char (old new : Char)
  /-- Letters of one size become those of the other, or stay. -/
  | letters (fromUpper toUpper : Bool)
  deriving DecidableEq, Repr

/-- What stands against what in two sets: steps, and what is left of both sets, without a number of
times for open repetitions. -/
def align : Nat → List Part → List Part → Except Fault (List Step × List Part × List Part)
  | 0, first, second => .ok ([], first, second)
  | fuel + 1, first, second =>
    match first, second with
    | p :: first', q :: second' =>
      match p.letters?, q.letters? with
      | some a, some b => do
        let (steps, rest) ← align fuel first' second'
        return (.letters a b :: steps, rest)
      | _, some _ =>
        match p.chars with
        | [] => align fuel first' second
        | _ => .error .misaligned
      | _, none =>
        match p.chars, q.chars with
        | [], _ => align fuel first' second
        | _, [] => align fuel first second'
        | a :: more, b :: others => do
          let (steps, rest) ← align fuel (more.map .one ++ first') (others.map .one ++ second')
          return (.char a b :: steps, rest)
    | [], q :: second' =>
      if q.letters?.isSome then .error .misaligned
      else if q.chars = [] then align fuel [] second'
      else .ok ([], [], second)
    | first, [] => .ok ([], first, [])

/-- Gives open repetitions of the second set the number of times that is missing. -/
def close (length : Nat) (second : List Part) : List Part :=
  let missing := length - (charsOf second).length
  second.map fun
    | .times c none => .times c (some missing)
    | part => part

/-- How every character is replaced. -/
structure Table where
  /-- The new characters, by the numbers of the old. -/
  chars : Array Char
  /-- The characters of the second set. -/
  targets : List Char

/-- Adds a step to a table. -/
def Step.enter (table : Array Char) : Step → Array Char
  | .char old new => table.setIfInBounds old.toNat new
  | .letters fromUpper toUpper =>
    if fromUpper = toUpper then table
    else
      (inOrder (if fromUpper then [('A', 'Z')] else [('a', 'z')])).foldl (fun table c =>
        table.setIfInBounds c.toNat (if fromUpper then c.toLower else c.toUpper)) table

/-- The table where nothing is replaced. -/
def still : Array Char := ((List.range 256).map Char.ofNat).toArray

/-- The set of all other characters. -/
def others (chars : List Char) : List Char :=
  ((List.range 256).map Char.ofNat).filter fun c => !chars.contains c

/-- The table of two sets, where the first can stand for all other characters, or can be cut to the
length of the second. -/
def table (isComplement isCut : Bool) (first second : List Part) : Except Fault Table := do
  if first.any Part.isOpen then throw .openTimes
  if 1 < (second.filter Part.isOpen).length then throw .manyOpenTimes
  if second.any fun | .same _ => true | _ => false then throw .sameAsTarget
  let hasOther : Bool := second.any fun
    | .named name => name ≠ "upper" && name ≠ "lower"
    | _ => false
  if hasOther then throw .classAsTarget
  let domain := if isComplement then others (charsOf first) else charsOf first
  let second := close domain.length second
  let (steps, left, unused) ←
    if isComplement then pure ([], [], []) else align (2 * domain.length + 2 * second.length
      + 2 * first.length + (charsOf second).length + 2) first second
  let missing :=
    if isComplement then domain.length - (charsOf second).length
    else if unused = [] then (charsOf left).length else 0
  let last? := (charsOf second).getLast?
  if 0 < missing && !isCut then
    match last? with
    | none => throw .noTarget
    | some _ => if second.getLast?.any (·.letters?.isSome) then throw .classAtEnd
  let padding := if isCut then [] else List.replicate missing (last?.getD ' ')
  let targets := charsOf second ++ padding
  if isComplement then
    let hasClass : Bool := first.any fun
      | .named _ => true
      | _ => false
    if hasClass && !(targets.length = domain.length && targets.all (some · = targets.head?)) then
      throw .manyTargets
    let steps := (domain.zip targets).map fun (a, b) => Step.char a b
    return ⟨steps.foldl Step.enter still, targets⟩
  else
    let rest := ((charsOf left).zip padding).map fun (a, b) => Step.char a b
    return ⟨(steps ++ rest).foldl Step.enter still, targets⟩

/-- A set as flags, by the numbers of its characters. -/
def flags (chars : List Char) : Array Bool :=
  chars.foldl (fun flags c => flags.setIfInBounds c.toNat true) (Array.replicate 256 false)

/-- What happens to bytes. -/
structure Change where
  /-- Which are dropped. -/
  dropped : Array Bool := Array.replicate 256 false
  /-- What the others become. -/
  table : Array Char := still
  /-- Of which repetitions are left out afterwards. -/
  squeezed : Array Bool := Array.replicate 256 false

/-- Changes bytes, given the last that stayed; what stays now stands last first. -/
def Change.run (change : Change) (last : Option UInt8) (done : List UInt8) :
    List UInt8 → Option UInt8 × List UInt8
  | [] => (last, done)
  | b :: rest =>
    if change.dropped.getD b.toNat false then change.run last done rest
    else
      let b := UInt8.ofNat (change.table.getD b.toNat ' ').toNat
      if change.squeezed.getD b.toNat false && last = some b then change.run last done rest
      else change.run (some b) (b :: done) rest

/-- The change that two sets or one make. -/
def change (s : Selection) (first : List Part) (second : Option (List Part)) :
    Except Fault Change := do
  let isComplement := s.has 'c'
  let all (set : List Part) : Array Bool :=
    flags (if isComplement then others (charsOf set) else charsOf set)
  match second with
  | some second =>
    if !s.has 'd' then
      let t ← table isComplement (s.has 't') first second
      return { table := t.chars, squeezed := if s.has 's' then flags t.targets else flags [] }
    else
      if first.any Part.isOpen then throw .openTimes
      if 1 < (second.filter Part.isOpen).length then throw .manyOpenTimes
      if second.any Part.isOpen then throw .idleOpenTimes
      return { dropped := all first, squeezed := flags (charsOf second) }
  | none =>
    if first.any Part.isOpen then throw .openTimes
    return if s.has 'd' then { dropped := all first } else { squeezed := all first }

end Characters

open Characters in
/-- Replaces, drops or squeezes characters of its input. -/
def tr (me : String) (args : List String) : Work Nat :=
  let names := [("complement", 'c'), ("delete", 'd'), ("squeeze-repeats", 's'),
    ("truncate-set1", 't')]
  withOptions me "AcCdst" names false 1 args fun s => do
    let s := { s with options := s.options.map fun (key, value) =>
      (if key = 'C' then 'c' else key, value) }
    let drops := s.has 'd'
    let squeezes := s.has 's'
    let most := if drops && !squeezes then 1 else 2
    match s.operands with
    | [] => usage me "missing operand" 1
    | [only] =>
      if drops = squeezes then
        usage me ("missing operand after " ++ quoted only ++ "\n" ++ (if squeezes then
          "Two strings must be given when both deleting and squeezing repeats."
          else "Two strings must be given when translating.")) 1
      else go s only none
    | first :: second :: more =>
      match (s.operands.drop most).head? with
      | some extra =>
        usage me ("extra operand " ++ quoted extra ++ (if more = [] then
          "\nOnly one string may be given when deleting without squeezing repeats." else "")) 1
      | none => go s first (some second)
where
  /-- Reads a set and warns of what is strange in it. -/
  read (text : String) : Work (Except Characters.Fault (List Part)) := do
    let (chars, warnings) := Characters.unescape text.toList
    for warning in warnings do warn me warning
    return parts (text.length + 1) chars
  /-- Changes the input. -/
  go (s : Selection) (first : String) (second : Option String) : Work Nat := do
    let fail (fault : Characters.Fault) : Work Nat := do
      warn me fault.message
      return 1
    match ← read first with
    | .error fault => fail fault
    | .ok first =>
      let second ← match second with
        | none => pure (.ok none)
        | some second => pure ((← read second).map some)
      match second.bind (change s first) with
      | .error fault => fail fault
      | .ok c =>
        let result ← forChunks 0 (fun (last, waiting) bytes => do
          let (last, done) := c.run last [] bytes
          return ((last, ← gather me waiting done.reverse), true)) patience
            ((none, []) : Option UInt8 × List UInt8)
        match result with
        | .ok (_, waiting) =>
          unless waiting = [] do put me waiting
          return 0
        | .error fault =>
          warn me ("read error: " ++ fault.text)
          return 1

end PauseWatch.Tool
