import PauseWatch.Text.Reading
import PauseWatch.Tool.Regexp

/-!
# The notation of expressions

There are two dialects. In the basic one an operator stands after a backslash, apart from the star,
and a star is itself where nothing stands before it; in the extended one an operator stands alone,
and is itself after a backslash. Programs differ in what they put up with.
-/

namespace PauseWatch.Tool

/-- How an expression is read. -/
structure Dialect where
  /-- Whether operators stand without a backslash. -/
  isExtended : Bool
  /-- Whether operators in strange places are put up with. -/
  isLenient : Bool
  /-- Whether large and small letters are the same. -/
  ignoresCase : Bool := false
  /-- Whether an open set of characters leaves out the ends of lines. -/
  keepsLines : Bool := false

/-- Why a text is no expression. -/
inductive RegexpFault where
  /-- A set is not closed. -/
  | openSet
  /-- Nothing stands in a set. -/
  | noPattern
  /-- A class is unknown. -/
  | unknownClass
  /-- A name stands for no character. -/
  | unknownCharacter
  /-- A range ends before it starts. -/
  | badRange
  /-- A group is not closed. -/
  | openGroup
  /-- A group is closed that was not opened. -/
  | closedGroup
  /-- Counts are not closed. -/
  | openCounts
  /-- Counts make no sense. -/
  | badCounts
  /-- Nothing stands before an operator. -/
  | nothingRepeated
  /-- A count is too large. -/
  | tooLarge
  /-- Nothing stands after a backslash. -/
  | lastBackslash
  /-- There is no such group. -/
  | unknownGroup
  /-- A class stands alone that should stand in a set. -/
  | bareClass
  deriving DecidableEq, Repr

/-- The text of a fault. -/
def RegexpFault.text : RegexpFault → String
  | .openSet => "Unmatched [, [^, [:, [., or [="
  | .noPattern => "Invalid regular expression"
  | .unknownClass => "Invalid character class name"
  | .unknownCharacter => "Invalid collation character"
  | .badRange => "Invalid range end"
  | .openGroup => "Unmatched ( or \\("
  | .closedGroup => "Unmatched ) or \\)"
  | .openCounts => "Unmatched \\\x7b"
  | .badCounts => "Invalid content of \\\x7b\\\x7d"
  | .nothingRepeated => "Invalid preceding regular expression"
  | .tooLarge => "Regular expression too big"
  | .lastBackslash => "Trailing backslash"
  | .unknownGroup => "Invalid back reference"
  | .bareClass => "character class syntax is [[:space:]], not [:space:]"

namespace Regexp

/-- The greatest number of times that something can be repeated. -/
def mostTimes : Nat := 32767

/-- The characters of a class. -/
def classRanges? (name : String) : Option (List (Char × Char)) :=
  let upper := ('A', 'Z')
  let lower := ('a', 'z')
  let digit := ('0', '9')
  let punctuation := [('!', '/'), (':', '@'), ('[', '\x60'), ('\x7b', '~')]
  let classes : List (String × List (Char × Char)) :=
    [("alpha", [upper, lower]), ("digit", [digit]), ("alnum", [digit, upper, lower]),
      ("upper", [upper]), ("lower", [lower]), ("space", [('\t', '\r'), (' ', ' ')]),
      ("blank", [('\t', '\t'), (' ', ' ')]), ("punct", punctuation), ("print", [(' ', '~')]),
      ("graph", [('!', '~')]), ("cntrl", [('\x00', '\x1f'), ('\x7f', '\x7f')]),
      ("xdigit", [digit, ('A', 'F'), ('a', 'f')])]
  classes.lookup name

/-- The set of the characters in ranges. -/
def setOf (ranges : List (Char × Char)) : Text.CharSet :=
  Text.CharSet.ofRanges (ranges.map fun (a, b) => (a.toNat, b.toNat + 1))

/-- Adds to ranges the letters that differ in size only. -/
def withBothSizes (ranges : List (Char × Char)) : List (Char × Char) :=
  let other (low high shifted : Nat) : Char × Char → List (Char × Char) := fun (a, b) =>
    let first := max a.toNat low
    let last := min b.toNat high
    if first ≤ last then
      [(Char.ofNat (first + shifted - low), Char.ofNat (last + shifted - low))]
    else []
  ranges ++ ranges.flatMap (other 'a'.toNat 'z'.toNat 'A'.toNat)
    ++ ranges.flatMap (other 'A'.toNat 'Z'.toNat 'a'.toNat)

/-- The characters of words. -/
def wordRanges : List (Char × Char) := [('0', '9'), ('A', 'Z'), ('_', '_'), ('a', 'z')]

/-- The characters between words. -/
def blankRanges : List (Char × Char) := [('\t', '\r'), (' ', ' ')]

/-- What is left to read, how many groups were opened, and which were closed. -/
structure Rest where
  /-- The characters that are left. -/
  chars : List Char
  /-- How many groups were opened. -/
  opened : Nat := 0
  /-- The groups that were closed. -/
  closed : List Nat := []
  /-- The operators that stand where nothing can be repeated, the last first. -/
  idle : List String := []

/-- A reader of expressions. -/
abbrev Reading := ExceptT RegexpFault (StateM Rest)

/-- Leaves some characters to read. -/
def leave (chars : List Char) : Reading Unit := modify fun r => { r with chars }

/-- Something that is next in an expression. -/
inductive Token where
  /-- A character that stands for itself. -/
  | char (c : Char)
  /-- Any character. -/
  | any
  /-- A set starts. -/
  | set
  /-- A class of characters. -/
  | named (ranges : List (Char × Char)) (isOpen : Bool)
  /-- A condition. -/
  | edge (at_ : Edge)
  /-- A group starts. -/
  | openGroup
  /-- A group ends. -/
  | closeGroup
  /-- Another choice follows. -/
  | choice
  /-- Something is repeated, so often. -/
  | repeated (least : Nat) (most : Option Nat)
  /-- Counts start. -/
  | openCounts
  /-- Counts end. -/
  | closeCounts
  /-- A group comes again. -/
  | again (number : Nat)
  /-- Nothing is left. -/
  | done
  deriving DecidableEq, Repr

/-- The operator that a character stands for, where operators may stand. -/
def operator? : Char → Option Token
  | '(' => some .openGroup
  | ')' => some .closeGroup
  | '\x7b' => some .openCounts
  | '\x7d' => some .closeCounts
  | '|' => some .choice
  | '+' => some (.repeated 1 none)
  | '?' => some (.repeated 0 (some 1))
  | _ => none

/-- What a character means after a backslash, in both dialects. -/
def escaped? (c : Char) : Option Token :=
  if '1' ≤ c && c ≤ '9' then some (.again (Text.digitValue c))
  else
    let table : List (Char × Token) := [('w', .named wordRanges false),
      ('W', .named wordRanges true), ('s', .named blankRanges false),
      ('S', .named blankRanges true), ('<', .edge .wordStart), ('>', .edge .wordEnd),
      ('b', .edge .wordEdge), ('B', .edge .noWordEdge), ('\x60', .edge .textStart),
      ('\'', .edge .textEnd)]
    table.lookup c

/-- Whether characters start with the end of a choice or of all. -/
def endsChoice (d : Dialect) : List Char → Bool
  | [] => true
  | '\\' :: c :: _ => !d.isExtended && (c = ')' || c = '|')
  | c :: _ => d.isExtended && (c = ')' || c = '|')

/-- What is next, and what is left after it. Where a choice starts, a caret stands for the start of
a line. -/
def nextToken (d : Dialect) (startsChoice : Bool) :
    List Char → Except RegexpFault (Token × List Char)
  | [] => .ok (.done, [])
  | ['\\'] => .error .lastBackslash
  | '\\' :: c :: rest =>
    match escaped? c with
    | some token => .ok (token, rest)
    | none =>
      .ok (if d.isExtended then .char c else (operator? c).getD (.char c), rest)
  | '*' :: rest => .ok (.repeated 0 none, rest)
  | '.' :: rest => .ok (.any, rest)
  | '[' :: rest => .ok (.set, rest)
  | '^' :: rest => .ok (if d.isExtended || startsChoice then .edge .lineStart else .char '^', rest)
  | '$' :: rest => .ok (if d.isExtended || endsChoice d rest then .edge .lineEnd else .char '$', rest)
  | c :: rest => .ok (if d.isExtended then (operator? c).getD (.char c) else .char c, rest)

/-! ## Sets -/

/-- The name between a mark and the same mark with a bracket, and what is left after it. -/
def nameUpTo (mark : Char) : List Char → List Char → Except RegexpFault (String × List Char)
  | name, c :: ']' :: rest =>
    if c = mark then .ok (String.ofList name.reverse, rest)
    else nameUpTo mark (c :: name) (']' :: rest)
  | name, c :: rest => nameUpTo mark (c :: name) rest
  | _, [] => .error .openSet

/-- A part of a set: a class, or a character. -/
inductive Member where
  /-- All characters of some ranges. -/
  | ranges (ranges : List (Char × Char))
  /-- One character. -/
  | char (c : Char)

/-- Reads a part of a set. A hyphen is one only at the ends of the set and of a range. -/
def readMember (takesHyphen : Bool) : List Char → Except RegexpFault (Member × List Char)
  | [] => .error .openSet
  | '[' :: ':' :: rest => do
    let (name, rest) ← nameUpTo ':' [] rest
    match classRanges? name with
    | some ranges => return (.ranges ranges, rest)
    | none => .error .unknownClass
  | '[' :: mark :: rest =>
    if mark = '.' || mark = '=' then do
      let (name, rest) ← nameUpTo mark [] rest
      match name.toList with
      | [c] => return (if mark = '.' then .char c else .ranges [(c, c)], rest)
      | _ => .error .unknownCharacter
    else .ok (.char '[', mark :: rest)
  | '-' :: c :: rest =>
    if takesHyphen || c = ']' then .ok (.char '-', c :: rest) else .error .badRange
  | c :: rest => .ok (.char c, rest)

/-- Reads the parts of a set up to its end, given those before. -/
def readMembers : Nat → Bool → List (Char × Char) → List Char →
    Except RegexpFault (List (Char × Char) × List Char)
  | 0, _, _, _ => .error .openSet
  | fuel + 1, isFirst, ranges, chars =>
    match chars with
    | [] => .error (if isFirst then .noPattern else .openSet)
    | c :: rest =>
      if c = ']' && !isFirst then .ok (ranges, rest)
      else do
        let (member, rest) ← if c = ']' then pure (.char c, rest) else readMember isFirst chars
        match member, rest with
        | _, [] => .error .openSet
        | .char a, '-' :: b :: rest =>
          if b = ']' then readMembers fuel false ((a, a) :: ranges) ('-' :: b :: rest)
          else
            match ← readMember true (b :: rest) with
            | (.char b, rest) =>
              if b < a then .error .badRange else readMembers fuel false ((a, b) :: ranges) rest
            | (.ranges _, _) => .error .badRange
        | .ranges _, '-' :: b :: rest =>
          if b = ']' then
            match member with
            | .ranges more => readMembers fuel false (more ++ ranges) ('-' :: b :: rest)
            | .char _ => .error .badRange
          else .error .badRange
        | .char a, rest => readMembers fuel false ((a, a) :: ranges) rest
        | .ranges more, rest => readMembers fuel false (more ++ ranges) rest

/-- The expression for one character of some ranges, or for one of no range. -/
def ofRanges (d : Dialect) (ranges : List (Char × Char)) (isOpen : Bool) : Regexp :=
  let ranges := if d.ignoresCase then withBothSizes ranges else ranges
  if isOpen then
    .among (setOf (if d.keepsLines then ('\n', '\n') :: ranges else ranges)).compl
  else .among (setOf ranges)

/-- Whether the members of a set are those of a class that was written alone: single characters
between two colons. -/
def isBareClass (chars rest : List Char) : Bool :=
  let members := chars.take (chars.length - rest.length - 1)
  members.head? = some ':' && members.getLast? = some ':' && members.any (· ≠ ':')
    && !members.contains '-' && !members.contains '['

/-- Reads a set behind its bracket. -/
def readSet (d : Dialect) (chars : List Char) : Except RegexpFault (Regexp × List Char) := do
  let (isOpen, chars) := match chars with
    | '^' :: rest => (true, rest)
    | rest => (false, rest)
  let (ranges, rest) ← readMembers (chars.length + 1) true [] chars
  if isBareClass chars rest then throw .bareClass
  return (ofRanges d ranges isOpen, rest)

/-! ## Counts -/

/-- A count that is read. -/
inductive Count where
  /-- There is none. -/
  | absent
  /-- It makes no sense. -/
  | nonsense
  /-- It is a number. -/
  | number (n : Nat)
  deriving DecidableEq, Repr

/-- How a count ends. -/
inductive CountEnd where
  /-- By a comma. -/
  | comma
  /-- By the end of the counts. -/
  | closed
  /-- By the end of all. -/
  | done
  deriving DecidableEq, Repr

/-- Reads a count, given what was read of it, up to its end. -/
def readCount (d : Dialect) : Nat → Count → List Char →
    Except RegexpFault (Count × CountEnd × List Char)
  | 0, count, chars => .ok (count, .done, chars)
  | fuel + 1, count, chars => do
    match ← nextToken d false chars with
    | (.done, rest) => return (.nonsense, .done, rest)
    | (.closeCounts, rest) => return (count, .closed, rest)
    | (.char ',', rest) => return (count, .comma, rest)
    | (.char c, rest) =>
      let count : Count := match count with
        | .nonsense => .nonsense
        | .absent => if c.isDigit then .number (Text.digitValue c) else .nonsense
        | .number n =>
          if c.isDigit then .number (min (mostTimes + 1) (n * 10 + Text.digitValue c))
          else .nonsense
      readCount d fuel count rest
    | (_, rest) => readCount d fuel .nonsense rest

/-- Reads counts behind their brace; there are none where braces that make no sense are put up with
and stand for themselves. -/
def readCounts (d : Dialect) (chars : List Char) :
    Except RegexpFault (Option ((Nat × Option Nat) × List Char)) := do
  let fuel := chars.length + 1
  let (least, stop, rest) ← readCount d fuel .absent chars
  if least = .absent && stop ≠ .comma then .error .badCounts
  else
    let (most, stop, rest) ←
      if least = .nonsense then pure (least, stop, rest)
      else match stop with
        | .comma => readCount d fuel .absent rest
        | _ => pure (least, stop, rest)
    if least = .nonsense || most = .nonsense then
      if d.isExtended && d.isLenient then return none
      else .error (if stop = .done then .openCounts else .badCounts)
    else
      let least := match least with
        | .number n => n
        | _ => 0
      let most : Option Nat := match most with
        | .number n => some n
        | _ => none
      if stop ≠ .closed || most.any (· < least) then .error .badCounts
      else if mostTimes < most.getD least then .error .tooLarge
      else return some ((least, most), rest)

/-! ## Expressions -/

/-- The expression for one character. -/
def ofChar (d : Dialect) (c : Char) : Regexp := ofRanges d [(c, c)] false

/-- Reads the operators behind something that is repeated. -/
def readOperators (d : Dialect) : Nat → Regexp → Reading Regexp
  | 0, r => return r
  | fuel + 1, r => do
    let chars := (← get).chars
    let (token, rest) ← nextToken d false chars
    let counted : Option ((Nat × Option Nat) × List Char) ← match token with
      | .repeated least most => pure (some ((least, most), rest))
      | .openCounts => readCounts d rest
      | _ => pure none
    match counted with
    | none =>
      if token = .openCounts then
        leave rest
        return .seq r (← readOperators d fuel (ofChar d '\x7b'))
      else return r
    | some ((least, most), rest) =>
      leave rest
      unless d.isExtended || d.isLenient do
        match ← nextToken d false rest with
        | (.repeated 0 none, _) | (.openCounts, _) => throw .nothingRepeated
        | _ => pure ()
      readOperators d fuel (.times r least most)

mutual

/-- Reads choices, given how many groups are open around them. -/
def readChoices (d : Dialect) : Nat → Nat → Reading Regexp
  | 0, _ => return .empty
  | fuel + 1, depth => do
    let first ← readChoice d fuel depth true .empty
    let chars := (← get).chars
    match ← nextToken d false chars with
    | (.choice, rest) =>
      leave rest
      return .oneOf first (← readChoices d fuel depth)
    | _ => return first

/-- Reads what stands one after the other, given what stands before. -/
def readChoice (d : Dialect) : Nat → Nat → Bool → Regexp → Reading Regexp
  | 0, _, _, r => return r
  | fuel + 1, depth, isFirst, before => do
    let chars := (← get).chars
    let (token, rest) ← nextToken d isFirst chars
    if token = .done || token = .choice || (token = .closeGroup && depth ≠ 0) then return before
    leave rest
    let item ← readItem d fuel depth token
    readChoice d fuel depth false (if isFirst then item else .seq before item)

/-- Reads one thing with the operators behind it, given how it starts. -/
def readItem (d : Dialect) : Nat → Nat → Token → Reading Regexp
  | 0, _, _ => return .empty
  | fuel + 1, depth, token => do
    let chars := (← get).chars
    let repeatable (r : Regexp) : Reading Regexp := readOperators d (chars.length + 1) r
    match token with
    | .done | .choice => return .empty
    | .char c => repeatable (ofChar d c)
    | .closeCounts => repeatable (ofChar d '\x7d')
    | .any =>
      repeatable (.among (if d.keepsLines then (setOf [('\n', '\n')]).compl else Text.CharSet.all))
    | .named ranges isOpen => repeatable (ofRanges { d with ignoresCase := false } ranges isOpen)
    | .edge at_ => return .edge at_
    | .again number =>
      if (← get).closed.contains number then repeatable (.again number) else throw .unknownGroup
    | .set =>
      let (r, rest) ← readSet d chars
      leave rest
      repeatable r
    | .openGroup =>
      let number := (← get).opened + 1
      modify fun r => { r with opened := number }
      let inner ← readChoices d fuel (depth + 1)
      match ← nextToken d false (← get).chars with
      | (.closeGroup, rest) =>
        modify fun r => { r with chars := rest, closed := number :: r.closed }
        repeatable (.group number inner)
      | _ => throw .openGroup
    | .closeGroup =>
      if d.isExtended && d.isLenient then repeatable (ofChar d ')') else throw .closedGroup
    | .repeated _ _ | .openCounts =>
      let letter := match token with
        | .openCounts => '\x7b'
        | .repeated 0 none => '*'
        | .repeated 1 _ => '+'
        | _ => '?'
      if d.isExtended then
        if d.isLenient then
          if token = .openCounts then
            match ← readCounts d chars with
            | none => return ← repeatable (ofChar d letter)
            | some (_, rest) => leave rest
          let shown := if token = .openCounts then "\x7b...\x7d" else String.singleton letter
          modify fun r => { r with idle := shown :: r.idle }
          match ← nextToken d false (← get).chars with
          | (next, rest) =>
            if next = .done || next = .choice || (next = .closeGroup && depth ≠ 0) then return .empty
            leave rest
            readItem d fuel depth next
        else throw .nothingRepeated
      else if letter = '\x7b' && !d.isLenient then throw .nothingRepeated
      else repeatable (ofChar d letter)

end

/-- Reads an expression; how many groups it has stands beside it, and after that the operators in it
that stand where nothing can be repeated. -/
def ofText (d : Dialect) (text : String) : Except RegexpFault (Regexp × Nat) × List String :=
  let (result, rest) := (readChoices d (text.length * 3 + 3) 0).run.run { chars := text.toList }
  match result with
  | .ok r => (.ok (r, rest.opened), rest.idle.reverse)
  | .error .unknownGroup => (.error .unknownGroup, [])
  | .error fault => (.error fault, rest.idle.reverse)

end Regexp

end PauseWatch.Tool
