import PauseWatch.Pattern.Machine
import PauseWatch.Pattern.Node
import PauseWatch.Text.Blank
import PauseWatch.Text.Letter
import PauseWatch.Text.Reading
import PauseWatch.Text.Search

/-!
# Reading patterns

A pattern is read from left to right, with the rest of the text as the state. There is one kind of
failure: the text is no pattern. Every function that calls itself takes a number that bounds the
depth of its calls; the length of the pattern is enough, as every call reads a character.
-/

namespace PauseWatch.Pattern

/-- How far a pattern has been read. -/
structure Cursor where
  /-- What is left to read. -/
  rest : List Char
  /-- Whether blanks and comments are passed over. -/
  spaced : Bool := false
  /-- The names of the groups so far. -/
  names : List String := []
  /-- How many groups with a number there are so far. -/
  groups : Nat := 0
  deriving Repr

/-- A step of reading, which may fail. -/
abbrev Read := StateT Cursor Option

/-- The next character, which stays unread. -/
def peek : Read (Option Char) := do return (← get).rest.head?

/-- Passes over one character. -/
def bump : Read Unit := modify fun s => { s with rest := s.rest.drop 1 }

/-- What follows the blanks and comments at the start of a text. A comment ends with its line. -/
def afterBlanks (inComment : Bool) : List Char → List Char
  | [] => []
  | c :: rest =>
    if inComment then afterBlanks (c != '\n') rest
    else if Text.isBlank c then afterBlanks false rest
    else if c == '#' then afterBlanks true rest
    else c :: rest

/-- Passes over blanks and comments, if they do not count. -/
def skipBlanks : Read Unit :=
  modify fun s => if s.spaced then { s with rest := afterBlanks false s.rest } else s

/-- Passes over one character and over blanks and comments that do not count. -/
def advance : Read Unit := do bump; skipBlanks

/-- Reads the next character, which must be there. -/
def anyChar : Read Char := do
  let some c ← peek | failure
  bump
  return c

/-- Passes over a given text if it comes next, and tells whether it did. -/
def accept (text : String) : Read Bool := do
  match text.toList.isPrefixOf? (← get).rest with
  | some rest => modify fun s => { s with rest }; return true
  | none => return false

/-- The characters at the start of the rest that satisfy a test, which are passed over one by one
by `step`. -/
def takeChars (test : Char → Bool) (step : Read Unit) : Nat → Read (List Char)
  | 0 => failure
  | fuel + 1 => do
    match ← peek with
    | none => return []
    | some c =>
      if test c then do
        step
        return c :: (← takeChars test step fuel)
      else return []

/-- The characters at the start of the rest that satisfy a test. -/
def takeWhileChars (test : Char → Bool) (step : Read Unit) : Read (List Char) := do
  takeChars test step ((← get).rest.length + 1)

/-- Reads a number of a counted repetition, with blanks around it. -/
def repeatCount : Read (Option Nat) := do
  discard (takeWhileChars Text.isBlank bump)
  let text ← takeWhileChars Char.isDigit advance
  discard (takeWhileChars Text.isBlank advance)
  if text.isEmpty then return none
  let n := Text.digitsValue 10 text
  if n < 4294967296 then return some n else failure

/-- Reads the bounds of a counted repetition, from the opening brace on, and whether it is lazy. -/
def repeatBounds : Read (Nat × Option Nat × Bool) := do
  advance
  let least ← repeatCount
  let bounds ← do
    if (← peek) == some ',' then
      advance
      let some least := least | failure
      if (← peek) == some '\x7d' then pure (least, none)
      else
        let some most ← repeatCount | failure
        pure (least, some most)
    else
      let some least := least | failure
      pure (least, some least)
  unless (← peek) == some '\x7d' do failure
  advance
  let lazy ← accept "?"
  match bounds.2 with
  | some most => if bounds.1 ≤ most then return (bounds.1, some most, lazy) else failure
  | none => return (bounds.1, none, lazy)

/-- Reads a number of hexadecimal digits. -/
def hexDigits : Nat → Read (List Char)
  | 0 => return []
  | n + 1 => do
    let some c ← peek | failure
    unless Text.isHexDigit c do failure
    advance
    return c :: (← hexDigits n)

/-- Reads a character given by its number, from the letter behind the backslash on. -/
def hexLiteral (width : Nat) : Read Literal := do
  advance
  let text ← if (← peek) == some '\x7b' then do
      advance
      let text ← takeWhileChars (· != '\x7d') advance
      unless (← peek) == some '\x7d' do failure
      advance
      if text.isEmpty || !text.all Text.isHexDigit then failure
      pure (text, false)
    else pure (← hexDigits width, width == 2)
  match Text.charOfCode? (Text.digitsValue 16 text.1) with
  | some c => return ⟨c, text.2⟩
  | none => failure

/-- The name of a property between braces, which may have a value. -/
def propertyName (text : List Char) : PropertyName :=
  let parts (n : Nat) (at_ : Nat) : PropertyName :=
    .valued (String.ofList (text.take at_)) (String.ofList (text.drop (at_ + n))) (n == 2)
  match Text.find? ['!', '='] text, Text.find? [':'] text, Text.find? ['='] text with
  | some at_, _, _ => parts 2 at_
  | none, some at_, _ => parts 1 at_
  | none, none, some at_ => parts 1 at_
  | none, none, none => .alone (String.ofList text)

/-- Reads a property class, from the letter behind the backslash on. -/
def propertyClass : Read PropertyName := do
  advance
  let some c ← peek | failure
  if c == '\x7b' then
    advance
    let text ← takeWhileChars (· != '\x7d') advance
    unless (← peek) == some '\x7d' do failure
    bump
    return propertyName text
  else if c == '\\' then failure
  else
    advance
    return .alone (String.singleton c)

/-- Whether a character has a meaning of its own in patterns, so that a backslash takes it away. -/
def isMeta (c : Char) : Bool :=
  c ∈ ['\\', '.', '+', '*', '?', '(', ')', '|', '[', ']', '\x7b', '\x7d', '^', '$', '#', '&', '-',
    '~']

/-- Whether a backslash may stand before a character without changing it. -/
def isEscapable (c : Char) : Bool :=
  isMeta c || (c.toNat < 0x80 && !c.isAlphanum && c != '<' && c != '>')

/-- Reads the name of a word condition between braces, if there is one. Braces that hold anything
else are left for a counted repetition. -/
def wordCondition : Read Anchor := do
  let before ← get
  unless (← peek) == some '\x7b' do return .wordEdge
  advance
  let isNameChar (c : Char) : Bool := c.isAlpha || c == '-'
  let some c ← peek | failure
  if isNameChar c then
    let name ← takeWhileChars isNameChar advance
    unless (← peek) == some '\x7d' do failure
    bump
    match String.ofList name with
    | "start" => return .wordStart
    | "end" => return .wordEnd
    | "start-half" => return .wordStartHalf
    | "end-half" => return .wordEndHalf
    | _ => failure
  else
    set before
    return .wordEdge

/-- Reads what follows a backslash, which comes next. -/
def escape : Read Node := do
  bump
  let some c ← peek | failure
  if c.isDigit then failure
  else if c == 'x' then return .literal (← hexLiteral 2)
  else if c == 'u' then return .literal (← hexLiteral 4)
  else if c == 'U' then return .literal (← hexLiteral 8)
  else if c == 'p' || c == 'P' then return .property (← propertyClass) (c == 'P')
  else
    bump
    if isEscapable c then return .literal ⟨c, false⟩
    else match c with
      | 'd' => return .short .digit false
      | 'D' => return .short .digit true
      | 's' => return .short .blank false
      | 'S' => return .short .blank true
      | 'w' => return .short .word false
      | 'W' => return .short .word true
      | 'a' => return .literal ⟨'\x07', false⟩
      | 'f' => return .literal ⟨'\x0c', false⟩
      | 't' => return .literal ⟨'\t', false⟩
      | 'n' => return .literal ⟨'\n', false⟩
      | 'r' => return .literal ⟨'\r', false⟩
      | 'v' => return .literal ⟨'\x0b', false⟩
      | 'A' => return .anchor .textStart
      | 'z' => return .anchor .textEnd
      | 'b' => return .anchor (← wordCondition)
      | 'B' => return .anchor .noWordEdge
      | '<' => return .anchor .wordStart
      | '>' => return .anchor .wordEnd
      | _ => failure

/-- The ASCII classes that can be named between colons. -/
def asciiClass? (name : String) : Option Text.CharSet :=
  match name with
  | "alnum" => some (.ofRanges [(0x30, 0x3A), (0x41, 0x5B), (0x61, 0x7B)])
  | "alpha" => some (.ofRanges [(0x41, 0x5B), (0x61, 0x7B)])
  | "ascii" => some (.ofRanges [(0, 0x80)])
  | "blank" => some (.ofRanges [(0x09, 0x0A), (0x20, 0x21)])
  | "cntrl" => some (.ofRanges [(0, 0x20), (0x7F, 0x80)])
  | "digit" => some asciiDigits
  | "graph" => some (.ofRanges [(0x21, 0x7F)])
  | "lower" => some (.ofRanges [(0x61, 0x7B)])
  | "print" => some (.ofRanges [(0x20, 0x7F)])
  | "punct" => some (.ofRanges [(0x21, 0x30), (0x3A, 0x41), (0x5B, 0x61), (0x7B, 0x7F)])
  | "space" => some asciiBlanks
  | "upper" => some (.ofRanges [(0x41, 0x5B)])
  | "word" => some asciiWordChars
  | "xdigit" => some (.ofRanges [(0x30, 0x3A), (0x41, 0x47), (0x61, 0x67)])
  | _ => none

/-- Reads an ASCII class such as one of letters, if one comes next; what only looks like one is left
for a set between brackets. -/
def asciiClass : Read (Option SetNode) := do
  let before ← get
  let giveUp : Read (Option SetNode) := do set before; return none
  if ← accept "[:" then
    let negated ← accept "^"
    let name ← takeWhileChars (· != ':') bump
    if ← accept ":]" then
      match asciiClass? (String.ofList name) with
      | some set => return some (.ascii set negated)
      | none => giveUp
    else giveUp
  else giveUp

/-- Reads one item of a set: an escape or a character that stands for itself. -/
def setItem : Read Node := do
  let some c ← peek | failure
  if c == '\\' then escape
  else
    bump
    return .literal ⟨c, false⟩

/-- What an item means in a set. Conditions on places mean nothing there. -/
def setNodeOfItem : Node → Read SetNode
  | .literal l => return .literal l
  | .short c negated => return .short c negated
  | .property name negated => return .property name negated
  | _ => failure

/-- The first character after the next one, without blanks and comments that do not count. -/
def peekSecond : Read (Option Char) := do
  let s ← get
  let rest := s.rest.drop 1
  return (if s.spaced then afterBlanks false rest else rest).head?

/-- Reads an item of a set or the range that it begins. -/
def setRange : Read SetNode := do
  let first ← setItem
  skipBlanks
  let some c ← peek | failure
  let second ← peekSecond
  if c != '-' || second == some ']' || second == some '-' then setNodeOfItem first
  else
    advance
    if (← peek).isNone then failure
    let last ← setItem
    match first, last with
    | .literal a, .literal b => if a.char ≤ b.char then return .range a b else failure
    | _, _ => failure

/-- The operator that a doubled character stands for. -/
def setOp? (a b : Char) : Option SetOp :=
  if a == '&' && b == '&' then some .inter
  else if a == '-' && b == '-' then some .diff
  else if a == '~' && b == '~' then some .symmDiff
  else none

/-- The set read so far, with the operand under way added to what stands before it. -/
def closeOperand (before : Option (SetOp × SetNode)) (items : List SetNode) : SetNode :=
  let operand := SetNode.ofItems items.reverse
  match before with
  | none => operand
  | some (op, left) => .binary op left operand

/-- Reads the dashes at the start of a set, which stand for themselves. -/
def leadingDashes : Nat → Read (List SetNode)
  | 0 => failure
  | fuel + 1 => do
    if (← peek) == some '-' then
      advance
      if (← peek).isNone then failure
      return .literal ⟨'-', false⟩ :: (← leadingDashes fuel)
    else return []

/-- Reads the start of a set, from its opening bracket on: a sign of negation, dashes, and a closing
bracket that stands for itself when nothing is before it. The items come last first. -/
def setStart : Read (Bool × List SetNode) := do
  advance
  let some c ← peek | failure
  let negated := c == '^'
  if negated then
    advance
    if (← peek).isNone then failure
  let dashes ← leadingDashes ((← get).rest.length + 1)
  if dashes.isEmpty && (← peek) == some ']' then
    advance
    if (← peek).isNone then failure
    return (negated, [.literal ⟨']', false⟩])
  return (negated, dashes)

/-- Reads a set up to its closing bracket, with the operand before the last operator and the items
after it, last first. -/
def setBody (negated : Bool) :
    Nat → Option (SetOp × SetNode) → List SetNode → Read SetNode
  | 0, _, _ => failure
  | fuel + 1, before, items => do
    skipBlanks
    let some c ← peek | failure
    let second := (← get).rest[1]?
    if c == '[' then
      match ← asciiClass with
      | some item => setBody negated fuel before (item :: items)
      | none =>
        let (innerNegated, innerItems) ← setStart
        let inner ← setBody innerNegated fuel none innerItems
        setBody negated fuel before (inner :: items)
    else if c == ']' then
      bump
      return .bracket negated (closeOperand before items)
    else
      match second.bind (setOp? c) with
      | some op =>
        bump
        bump
        setBody negated fuel (some (op, closeOperand before items)) []
      | none =>
        let item ← setRange
        setBody negated fuel before (item :: items)

/-- Reads a set between brackets, from the opening bracket on. -/
def bracketSet : Read Node := do
  let fuel := (← get).rest.length + 1
  let (negated, items) ← setStart
  match ← setBody negated fuel none items with
  | .bracket negated inner => return .bracket negated inner
  | _ => failure

/-- The switch that a letter stands for. -/
def switchOf? (c : Char) : Option Switch :=
  match c with
  | 'i' => some .ignoreCase
  | 'm' => some .multiLine
  | 's' => some .dotAll
  | 'U' => some .swapGreed
  | 'u' => some .unicode
  | 'R' => some .crlf
  | 'x' => some .spaced
  | '-' => some .negation
  | _ => none

/-- Reads switches up to a colon or a closing parenthesis. No switch may occur twice, and the last
one may not be a negation. -/
def switchList : Nat → List Switch → Read (List Switch)
  | 0, _ => failure
  | fuel + 1, items => do
    let some c ← peek | failure
    if c == ':' || c == ')' then
      if items.head? == some .negation then failure
      return items.reverse
    let some item := switchOf? c | failure
    if items.contains item then failure
    bump
    switchList fuel (item :: items)

/-- Whether a list of switches tells to pass over blanks, or not to; `none` if it does not say. -/
def spacedBy (on : Bool) : List Switch → Option Bool
  | [] => none
  | .negation :: rest => spacedBy false rest
  | .spaced :: _ => some on
  | _ :: rest => spacedBy on rest

/-- Whether a character may stand in the name of a group, at its start or later. -/
def isGroupNameChar (first : Bool) (c : Char) : Bool :=
  c == '_' || (if first then Text.isAlphabetic c
    else c == '.' || c == '[' || c == ']' || Text.isAlphanumeric c)

/-- Reads the name of a group up to the closing angle bracket. No two groups have the same name. -/
def groupName : Read Unit := do
  let text ← takeWhileChars (· != '>') bump
  unless (← accept ">") do failure
  match text with
  | [] => failure
  | c :: rest =>
    unless isGroupNameChar true c && rest.all (isGroupNameChar false) do failure
    let name := String.ofList text
    if (← get).names.contains name then failure
    modify fun s => { s with names := name :: s.names }

/-- The start of a group. -/
inductive GroupStart where
  /-- Switches for the rest of the group around. -/
  | switches (items : List Switch)
  /-- A group with its number, if it has one, and with switches of its own. -/
  | opened (number : Option Nat) (items : List Switch)

/-- Takes the number of the next group. -/
def nextGroup : Read Nat := do
  modify fun s => { s with groups := s.groups + 1 }
  return (← get).groups

/-- Reads the start of a group, from the opening parenthesis on. -/
def groupStart : Read GroupStart := do
  bump
  skipBlanks
  for lead in ["?=", "?!", "?<=", "?<!"] do
    if ← accept lead then failure
  if (← accept "?P<") || (← accept "?<") then
    let number ← nextGroup
    groupName
    return .opened (some number) []
  else if ← accept "?" then
    let items ← switchList ((← get).rest.length + 1) []
    let c ← anyChar
    if c == ')' then
      if items.isEmpty then failure
      return .switches items
    else return .opened none items
  else return .opened (some (← nextGroup)) []

/-- Takes the last part off the parts read so far, to repeat it. Nothing and switches cannot be
repeated. -/
def lastPart : List Node → Read (Node × List Node)
  | [] => failure
  | .empty :: _ => failure
  | .switches _ :: _ => failure
  | part :: parts => return (part, parts)

/-- Reads a part that is neither group, set, repetition nor branch. -/
def primitive : Read Node := do
  let some c ← peek | failure
  match c with
  | '\\' => escape
  | '.' => bump; return .dot
  | '^' => bump; return .caret
  | '$' => bump; return .dollar
  | _ => bump; return .literal ⟨c, false⟩

/-- Reads branches up to a closing parenthesis or the end, with the branches before and the parts of
the branch under way, last first. -/
def branches : Nat → List Node → List Node → Read Node
  | 0, _, _ => failure
  | fuel + 1, before, parts => do
    skipBlanks
    let close : Node := .ofBranches ((Node.ofParts parts.reverse :: before).reverse)
    let again (least : Nat) (most : Option Nat) : Read Node := do
      let (part, parts) ← lastPart parts
      bump
      let lazy ← accept "?"
      branches fuel before (.times part least most lazy :: parts)
    match ← peek with
    | none => return close
    | some ')' => return close
    | some '|' =>
      bump
      branches fuel (Node.ofParts parts.reverse :: before) []
    | some '(' =>
      match ← groupStart with
      | .switches items =>
        modify fun s => { s with spaced := (spacedBy true items).getD s.spaced }
        branches fuel before (.switches items :: parts)
      | .opened number items =>
        let outside := (← get).spaced
        modify fun s => { s with spaced := (spacedBy true items).getD outside }
        let inner ← branches fuel [] []
        unless (← accept ")") do failure
        modify fun s => { s with spaced := outside }
        branches fuel before (.group number items inner :: parts)
    | some '[' =>
      let part ← bracketSet
      branches fuel before (part :: parts)
    | some '?' => again 0 (some 1)
    | some '*' => again 0 none
    | some '+' => again 1 none
    | some '\x7b' =>
      let (part, parts) ← lastPart parts
      let (least, most, lazy) ← repeatBounds
      branches fuel before (.times part least most lazy :: parts)
    | some _ =>
      let part ← primitive
      branches fuel before (part :: parts)

/-- How deep a pattern may nest. -/
def depthLimit : Nat := 250

/-- The pattern that a text is, as written. -/
def Node.ofText? (text : String) : Option Node :=
  let chars := text.toList
  match (branches (chars.length + 2) [] []).run { rest := chars } with
  | some (node, cursor) =>
    if cursor.rest.isEmpty && node.depth ≤ depthLimit then some node else none
  | none => none

/-- Why a text cannot be used as a pattern. -/
inductive Fault where
  /-- The text is no pattern. -/
  | malformed
  /-- The machines of the pattern would be too large. -/
  | tooLarge
  deriving DecidableEq, Repr

/-- The fault in words. -/
def Fault.message : Fault → String
  | .malformed => "regex parse error"
  | .tooLarge =>
    "Compiled regex exceeds size limit of " ++ toString MachineSize.limit ++ " bytes."

/-- The pattern that a text is, unless its machines would be too large. -/
def Regex.ofText (text : String) : Except Fault Regex :=
  match (Node.ofText? text).bind (·.meaning? {}) with
  | none => .error .malformed
  | some (r, _) => if r.fits then .ok r else .error .tooLarge

/-- The test of texts that a pattern makes, or why the text is no pattern. -/
def compile (text : String) : Except String (String → Bool) :=
  match Regex.ofText text with
  | .error fault => .error fault.message
  | .ok r => .ok r.occursIn

end PauseWatch.Pattern
