import PauseWatch.Text.Split
import PauseWatch.Tool.Edit.Script
import PauseWatch.Tool.Regexp.Reader

/-!
# The notation of edit scripts

Every command is a letter behind the lines that it selects. A script comes in pieces, and a text that
a command writes can go on in the next piece. Where a piece makes no sense, the reader tells how far
it came.
-/

namespace PauseWatch.Tool.Edit

/-- What a script means may depend on how it is read. -/
structure Manner where
  /-- Whether expressions are extended. -/
  isExtended : Bool := false
  /-- Whether commands that touch files are refused. -/
  isGuarded : Bool := false

/-- A script that is being read. -/
structure Draft where
  /-- The characters that are left. -/
  chars : List Char := []
  /-- How many characters were taken. -/
  taken : Nat := 0
  /-- How many ends of lines were taken. -/
  lines : Nat := 0
  /-- Whether this is the first piece. -/
  isFirst : Bool := true
  /-- What the place is called that was reached, given how many characters were taken and the number
  of the line. -/
  named : Nat → Nat → String := fun _ _ => ""
  /-- What is read so far. -/
  script : Script := {}
  /-- The places of the blocks that are open, the last first, and in which piece each was opened. -/
  blocks : List (Nat × String) := []
  /-- Whether the text of the last command goes on. -/
  isOpen : Bool := false

/-- What the place is called that was reached. -/
def Draft.here (d : Draft) : String := d.named d.taken (d.lines + 1)

/-- What the place at the start of the line is called that was reached. -/
def Draft.lineStart (d : Draft) : String := d.named 0 (d.lines + 1)

/-- A reader of scripts. -/
abbrev Reading := ExceptT String (StateM Draft)

/-- Takes the next character. -/
def next : Reading (Option Char) := do
  match (← get).chars with
  | [] => return none
  | c :: rest =>
    modify fun d =>
      { d with chars := rest, taken := d.taken + 1, lines := d.lines + if c = '\n' then 1 else 0 }
    return some c

/-- Gives a character back. -/
def giveBack : Option Char → Reading Unit
  | none => return ()
  | some c => modify fun d =>
    { d with chars := c :: d.chars, taken := d.taken - 1, lines := d.lines - if c = '\n' then 1 else 0 }

/-- Whether a character is a blank or a tab. -/
def isGap (c : Char) : Bool := c = ' ' || c = '\t'

/-- Whether a character is white. -/
def isWhite (c : Char) : Bool := c = ' ' || ('\t' ≤ c && c ≤ '\r')

/-- Takes the characters that satisfy a test. -/
def takeWhile (test : Char → Bool) : Reading (List Char) := do
  let found := (← get).chars.takeWhile test
  for _ in found do
    let _ ← next
  return found

/-- Takes the next character that is no gap. -/
def nextSolid : Reading (Option Char) := do
  let _ ← takeWhile isGap
  next

/-- Takes the number that a digit starts. -/
def numberFrom (first : Char) : Reading Nat := do
  return Text.digitsValue 10 (first :: (← takeWhile Char.isDigit))

/-- Takes a number if there is one, and gives zero otherwise. -/
def numberOrZero : Reading Nat := do
  match ← nextSolid with
  | some c =>
    if c.isDigit then numberFrom c
    else
      giveBack (some c)
      return 0
  | none => return 0

/-! ## Escapes -/

/-- The characters that a backslash makes of letters. -/
def letterEscapes : List (Char × Char) :=
  [('a', '\x07'), ('f', '\x0c'), ('n', '\n'), ('r', '\r'), ('t', '\t'), ('v', '\x0b')]

/-- The character that an escape stands for, given what follows the backslash, and what is left. -/
def escape? : List Char → Option (Char × List Char)
  | 'c' :: c :: rest => some (Char.ofNat (c.toUpper.toNat ^^^ 64), rest)
  | c :: rest =>
    let numbered (base most : Nat) (isDigit : Char → Bool) : Option (Char × List Char) :=
      let digits := (rest.take most).takeWhile isDigit
      if digits = [] then none
      else some (Char.ofNat (Text.digitsValue base digits % 256), rest.drop digits.length)
    if c = 'd' then numbered 10 3 Char.isDigit
    else if c = 'o' then numbered 8 3 fun c => '0' ≤ c && c ≤ '7'
    else if c = 'x' then numbered 16 2 Text.isHexDigit
    else (letterEscapes.lookup c).map (·, rest)
  | [] => none

/-- A text with its escapes replaced by what they stand for; other characters keep their
backslashes. What would have a meaning gets a backslash. -/
def unescape (isSpecial : Char → Bool) : Nat → List Char → List Char
  | 0, chars => chars
  | _, [] => []
  | fuel + 1, '\\' :: rest =>
    match escape? rest with
    | some (c, rest) =>
      (if isSpecial c then ['\\', c] else [c]) ++ unescape isSpecial fuel rest
    | none =>
      match rest with
      | c :: rest => '\\' :: c :: unescape isSpecial fuel rest
      | [] => ['\\']
  | fuel + 1, c :: rest => c :: unescape isSpecial fuel rest

/-! ## Parts of commands -/

/-- Where in an expression a set of characters stands open. -/
inductive Openness where
  /-- None does. -/
  | closed
  /-- One has just been opened. -/
  | start
  /-- One is open. -/
  | opened
  /-- A name in one is open, which ends with a character and a bracket. -/
  | named (mark : Char)
  deriving DecidableEq

/-- How open sets are behind a character, given the one that follows it. -/
def Openness.after (o : Openness) (c : Char) (following : Option Char) : Openness :=
  match o with
  | .closed => if c = '[' then .start else .closed
  | .start =>
    if c = '^' then .start
    else if c = '[' && [some ':', some '.', some '='].contains following then
      .named (following.getD c)
    else .opened
  | .opened =>
    if c = ']' then .closed
    else if c = '[' && [some ':', some '.', some '='].contains following then
      .named (following.getD c)
    else .opened
  | .named mark => if c = mark && following = some ']' then .start else .named mark

/-- Takes what stands before the next separator, and the separator; nothing if there is none on the
line. In an expression, an escaped letter can be the end of a line, and a separator in a set of
characters is a member of the set. -/
def delimited? (separator : Char) (isExpression : Bool) : Nat → Openness → List Char →
    Reading (Option (List Char))
  | 0, _, _ => return none
  | fuel + 1, o, taken => do
    let go := delimited? separator isExpression fuel
    let following := (← get).chars.tail.head?
    match ← next with
    | none => return none
    | some '\n' =>
      giveBack (some '\n')
      return none
    | some c =>
      if o ≠ .closed then
        if c = '\\' && following = some 'n' then
          let _ ← next
          go .opened ('\n' :: taken)
        else go (o.after c following) (c :: taken)
      else if c = separator then return some taken.reverse
      else if c = '\\' then
        match ← next with
        | none => return none
        | some e =>
          if e = separator && !(!isExpression && e = '&') then go o (e :: taken)
          else if isExpression && (e = 'n' || e = '\n') then go o ('\n' :: taken)
          else go o (e :: '\\' :: taken)
      else go (if isExpression then o.after c following else o) (c :: taken)

/-- Takes what stands before the next separator, or fails with a message. -/
def delimited (separator : Option Char) (isExpression : Bool) (problem : String) :
    Reading (List Char) := do
  match separator with
  | none => throw problem
  | some separator =>
    match ← delimited? separator isExpression ((← get).chars.length + 1) .closed [] with
    | some chars => return chars
    | none => throw problem

/-- The expression with a text; an empty text stands for the one that was matched last. -/
def expressionOf (m : Manner) (text : List Char) (hasLines ignoresCase : Bool) :
    Reading (Option Expression) := do
  if text = [] then
    if hasLines || ignoresCase then throw "cannot specify modifiers on empty regexp"
    return none
  let d : Dialect :=
    { isExtended := m.isExtended, isLenient := false, ignoresCase, keepsLines := hasLines }
  match (Regexp.ofText d (String.ofList (unescape (fun _ => false) text.length text))).1 with
  | .ok (regexp, groups) => return some { regexp, groups, hasLines, ignoresCase }
  | .error fault => throw fault.text

/-- Takes the letters behind an expression that say how it is matched. -/
def readModifiers : Nat → Bool → Bool → Reading (Bool × Bool)
  | 0, hasLines, ignoresCase => return (hasLines, ignoresCase)
  | fuel + 1, hasLines, ignoresCase => do
    match ← nextSolid with
    | some 'I' => readModifiers fuel hasLines true
    | some 'M' => readModifiers fuel true ignoresCase
    | c =>
      giveBack c
      return (hasLines, ignoresCase)

/-- Takes a way to end a range, or to select a line, which starts with a character; gives nothing if
none does. -/
def readAddress (m : Manner) (c : Option Char) : Reading (Option RangeEnd) := do
  match c with
  | none => return none
  | some c =>
    if c = '/' || c = '\\' then
      let separator ← if c = '\\' then next else pure (some c)
      let text ← delimited separator true "unterminated address regex"
      let (hasLines, ignoresCase) ← readModifiers ((← get).chars.length + 1) false false
      return some (.address (.matching (← expressionOf m text hasLines ignoresCase)))
    else if c.isDigit then
      let number ← numberFrom c
      match ← nextSolid with
      | some '~' =>
        let step ← numberOrZero
        return some (.address (if step = 0 then .line number else .every number step))
      | c =>
        giveBack c
        return some (.address (.line number))
    else if c = '+' then return some (.after (← numberOrZero))
    else if c = '~' then return some (.multiple (← numberOrZero))
    else if c = '$' then return some (.address .last)
    else return none

/-- Takes the lines that a command selects, given its first character, and the character behind
them. -/
def readSelector (m : Manner) (c : Option Char) : Reading (Selector × Option Char) := do
  let (selector, c) : Selector × Option Char ← match ← readAddress m c with
    | none => pure ({}, c)
    | some (.address first) => do
      match ← nextSolid with
      | some ',' =>
        match ← readAddress m (← nextSolid) with
        | none => throw "unexpected `,'"
        | some stop => pure ({ first := some first, stop := some stop }, ← nextSolid)
      | c => pure ({ first := some first }, c)
    | some _ => throw "invalid usage of +N or ~N as first address"
  match selector.first, selector.stop with
  | some (.line 0), some (.address (.matching _)) => pure ()
  | some (.line 0), _ => throw "invalid usage of line address 0"
  | _, _ => pure ()
  if c = some '!' then
    let c ← nextSolid
    if c = some '!' then throw "multiple `!'s"
    return ({ selector with isInverse := true }, c)
  else return (selector, c)

/-- Takes the end of a command. -/
def readEnd : Reading Unit := do
  match ← nextSolid with
  | none | some '\n' | some ';' => return ()
  | some '\x7d' => giveBack (some '\x7d')
  | some '#' => giveBack (some '#')
  | some _ => throw "extra characters after command"

/-- Takes the name of a file, which is the rest of the line. -/
def readPath : Reading String := do
  let _ ← takeWhile isGap
  let path ← takeWhile (· ≠ '\n')
  let _ ← next
  if path = [] then throw "missing filename in r/R/w/W commands"
  return String.ofList path

/-- Takes a label. -/
def readLabel : Reading String := do
  let _ ← takeWhile isGap
  return String.ofList (← takeWhile fun c => !isWhite c && c ≠ ';' && c ≠ '\x7d')

/-! ## Texts -/

/-- Takes the lines of a text, up to an end of line without a backslash. Whether the piece ends with
a backslash stands beside the text. -/
def readLines : Nat → List Char → Reading (List Char × Bool)
  | 0, taken => return (taken.reverse, false)
  | fuel + 1, taken => do
    match ← next with
    | none => return (taken.reverse, false)
    | some '\n' => return (('\n' :: taken).reverse, false)
    | some '\\' =>
      match ← next with
      | none => return (taken.reverse, true)
      | some c => readLines fuel (c :: '\\' :: taken)
    | some c => readLines fuel (c :: taken)

/-- A text without its backslashes. -/
def withoutBackslashes : List Char → List Char
  | '\\' :: c :: rest => c :: withoutBackslashes rest
  | c :: rest => c :: withoutBackslashes rest
  | [] => []

/-- What a text says: its escapes stand for characters, and it ends with the end of a line. -/
def textOf (chars : List Char) : String :=
  let text := withoutBackslashes (unescape (· = '\\') chars.length chars)
  String.ofList (if text.getLast? = some '\n' then text else text ++ ['\n'])

/-- Takes the text of a command behind its letter. Whether it goes on in the next piece stands beside
it. -/
def readText : Reading (String × Bool) := do
  match ← nextSolid with
  | none => throw "expected \\ after `a', `c' or `i'"
  | some '\\' =>
    let chars := (← get).chars
    if chars = [] then return ("", true)
    match chars.dropWhile isGap with
    | '\n' :: _ =>
      let _ ← takeWhile isGap
      let _ ← next
    | _ => pure ()
    let (lines, isOpen) ← readLines (chars.length + 1) []
    return (textOf lines, isOpen)
  | c =>
    giveBack c
    let (lines, isOpen) ← readLines ((← get).chars.length + 1) []
    return (textOf lines, isOpen)

/-! ## Replacements -/

/-- The parts of what is put in the place of a match. -/
def piecesOf : Nat → List Char → List Char → List Piece
  | 0, _, text => [.text text.reverse]
  | _, [], text => if text = [] then [] else [.text text.reverse]
  | fuel + 1, c :: rest, text =>
    let done (piece : Piece) (rest : List Char) : List Piece :=
      (if text = [] then [] else [.text text.reverse]) ++ piece :: piecesOf fuel rest []
    let sizes : List (Char × LetterSize) :=
      [('U', .large), ('L', .small), ('E', .kept), ('u', .nextLarge), ('l', .nextSmall)]
    match c, rest with
    | '&', _ => done (.group 0) rest
    | '\\', e :: rest =>
      if e.isDigit then done (.group (Text.digitValue e)) rest
      else match sizes.lookup e with
        | some size => done (.size size) rest
        | none => piecesOf fuel rest (e :: text)
    | _, _ => piecesOf fuel rest (c :: text)

/-- The greatest number of a group in parts. -/
def greatestGroup (pieces : List Piece) : Nat :=
  pieces.foldl (fun most piece => match piece with
    | .group n => max most n
    | _ => most) 0

/-- Takes the letters behind a replacement. -/
def readFlags (m : Manner) : Nat → Substitution → Bool → Bool → Bool →
    Reading (Substitution × Bool × Bool)
  | 0, s, _, hasLines, ignoresCase => return (s, hasLines, ignoresCase)
  | fuel + 1, s, isCounted, hasLines, ignoresCase => do
    let again (s : Substitution) := readFlags m fuel s isCounted hasLines ignoresCase
    match ← next with
    | none | some '\n' | some ';' => return (s, hasLines, ignoresCase)
    | some 'i' | some 'I' => readFlags m fuel s isCounted hasLines true
    | some 'm' | some 'M' => readFlags m fuel s isCounted true ignoresCase
    | some 'e' => again { s with isRun := true }
    | some 'p' =>
      if s.prints then throw "multiple `p' options to `s' command"
      again { s with prints := true }
    | some 'g' =>
      if s.isGlobal then throw "multiple `g' options to `s' command"
      again { s with isGlobal := true }
    | some 'w' =>
      let path ← readPath
      return ({ s with file := some path }, hasLines, ignoresCase)
    | some c =>
      if c = '\x7d' || c = '#' then
        giveBack (some c)
        return (s, hasLines, ignoresCase)
      else if c.isDigit then
        if isCounted then throw "multiple number options to `s' command"
        let number ← numberFrom c
        if number = 0 then throw "number option to `s' command may not be zero"
        readFlags m fuel { s with first := number } true hasLines ignoresCase
      else if isGap c then again s
      else throw "unknown option to `s'"

/-- Takes a replacement behind its letter. -/
def readSubstitution (m : Manner) : Reading Substitution := do
  let problem := "unterminated `s' command"
  let separator ← next
  let text ← delimited separator true problem
  let result ← delimited separator false problem
  let isSpecial (c : Char) : Bool := c = '&' || c = '\\'
  let pieces := piecesOf (result.length + 1) (unescape isSpecial result.length result) []
  let s : Substitution := { expression := none, pieces }
  let (s, hasLines, ignoresCase) ← readFlags m ((← get).chars.length + 1) s false false false
  let expression ← expressionOf m text hasLines ignoresCase
  let most := greatestGroup pieces
  if expression.any (·.groups < most) then
    throw ("invalid reference \\" ++ toString most ++ " on `s' command's RHS")
  if m.isGuarded && (s.isRun || s.file.isSome) then
    throw "e/r/w commands disabled in sandbox mode"
  return { s with expression }

/-- The characters of a list that is replaced by another one. -/
def plainChars : List Char → List Char
  | '\\' :: c :: rest => (if c = 'n' then '\n' else c) :: plainChars rest
  | c :: rest => c :: plainChars rest
  | [] => []

/-- Takes two lists of characters behind a letter. -/
def readTable : Reading (List (Char × Char)) := do
  let problem := "unterminated `y' command"
  let separator ← next
  let chars (text : List Char) : List Char :=
    plainChars (unescape (· = '\\') text.length text)
  let old := chars (← delimited separator false problem)
  let new := chars (← delimited separator false problem)
  if old.length ≠ new.length then throw "strings for `y' command are different lengths"
  readEnd
  return (old.zip new).reverse

/-! ## Commands -/

/-- Adds a command to a script. -/
def add (selector : Selector) (action : Action) : Reading Unit :=
  modify fun d =>
    { d with script := { d.script with commands := d.script.commands.push ⟨selector, action⟩ } }

/-- Takes a status or a width and the end of a command. -/
def readCount : Reading (Option Nat) := do
  let count ← match ← nextSolid with
    | some c =>
      if c.isDigit then pure (some (← numberFrom c))
      else
        giveBack (some c)
        pure none
    | none => pure none
  readEnd
  return count

/-- The actions of letters that stand alone. -/
def plainActions : List (Char × Action) :=
  [('=', .number), ('d', .delete), ('D', .deleteFirst), ('F', .fileName), ('g', .fetch false),
    ('G', .fetch true), ('h', .keep false), ('H', .keep true), ('n', .next), ('N', .nextMore),
    ('p', .print), ('P', .printFirst), ('x', .exchange), ('z', .clear)]

/-- Takes a remark behind its sign. The first line of a script can say that nothing is written by
itself. -/
def readRemark : Reading Unit := do
  let d ← get
  let startsScript := d.isFirst && d.taken = 1
  let remark ← takeWhile (· ≠ '\n')
  let _ ← next
  if startsScript && remark = ['n'] then
    modify fun d => { d with script := { d.script with isQuiet := true } }

/-- Whether a version is newer than this one. -/
def isNewer (version : String) : Bool :=
  let parts := (Text.splitAt '.' version).map fun part =>
    if part.toList.all Char.isDigit then Text.digitsValue 10 part.toList else 1000
  version ≠ "" && decide ([4, 9] < parts)

/-- Takes a command that a letter names. -/
def readCommand (m : Manner) (selector : Selector) (letter : Char) : Reading Unit := do
  let guard : Reading Unit := do
    if m.isGuarded then throw "e/r/w commands disabled in sandbox mode"
  match plainActions.lookup letter with
  | some action =>
    readEnd
    add selector action
  | none =>
    match letter with
    | '\x7b' =>
      modify fun d => { d with blocks := (d.script.commands.size, d.lineStart) :: d.blocks }
      add selector (.openBlock 0)
    | '\x7d' =>
      match (← get).blocks with
      | [] => throw "unexpected `\x7d'"
      | (start, _) :: blocks =>
        if selector.first.isSome then throw "`\x7d' doesn't want any addresses"
        readEnd
        modify fun d =>
          let stop := d.script.commands.size
          let commands := d.script.commands.modify start fun c =>
            { c with action := .openBlock stop }
          { d with blocks, script := { d.script with commands } }
    | 'a' | 'i' | 'c' =>
      let (text, isOpen) ← readText
      add selector (if letter = 'a' then .append text else if letter = 'i' then .insert text
        else .change text)
      modify fun d => { d with isOpen }
    | ':' =>
      if selector.first.isSome then throw ": doesn't want any addresses"
      let label ← readLabel
      if label = "" then throw "\":\" lacks a label"
      modify fun d =>
        let labels := d.script.labels ++ [(label, d.script.commands.size)]
        { d with script := { d.script with labels } }
    | 'b' => add selector (.jump .always (← readLabel))
    | 't' => add selector (.jump .replaced (← readLabel))
    | 'T' => add selector (.jump .unreplaced (← readLabel))
    | 'q' | 'Q' =>
      if selector.stop.isSome then throw "command only uses one address"
      add selector (.quit ((← readCount).getD 0) (letter = 'q'))
    | 'l' => add selector (.reveal (← readCount))
    | 'r' =>
      guard
      add selector (.appendFile (← readPath))
    | 'R' =>
      guard
      add selector (.appendLine (← readPath))
    | 'w' =>
      guard
      add selector (.write (← readPath))
    | 'W' =>
      guard
      add selector (.writeFirst (← readPath))
    | 'e' =>
      guard
      let _ ← takeWhile isGap
      let command ← takeWhile (· ≠ '\n')
      let _ ← next
      add selector (.run (String.ofList command))
    | 's' => add selector (.substitute (← readSubstitution m))
    | 'y' => add selector (.replaceChars (← readTable))
    | 'v' =>
      if isNewer (← readLabel) then throw "expected newer version of sed"
    | c => throw ("unknown command: `" ++ String.singleton c ++ "'")

/-- Takes commands up to the end of a piece. -/
def readCommands (m : Manner) : Nat → Reading Unit
  | 0 => return ()
  | fuel + 1 => do
    let _ ← takeWhile fun c => isWhite c || c = ';'
    match ← next with
    | none => return ()
    | some c =>
      match ← readSelector m (some c) with
      | (_, none) => throw "missing command"
      | (selector, some '#') =>
        if selector.first.isSome then throw "comments don't accept any addresses"
        readRemark
      | (selector, some letter) => readCommand m selector letter
      readCommands m fuel

/-- Adds to the text of the last command. -/
def Draft.extendText (d : Draft) (text : String) (isOpen : Bool) : Draft :=
  let last := d.script.commands.size - 1
  let commands := d.script.commands.modify last fun c =>
    { c with action := match c.action with
      | .append t => .append (t ++ text)
      | .insert t => .insert (t ++ text)
      | .change t => .change (t ++ text)
      | other => other }
  { d with isOpen, script := { d.script with commands } }

/-- Reads a piece of a script behind those that were read before. -/
def readPiece (m : Manner) (text : String) (draft : Draft) : Except String Unit × Draft :=
  let chars := text.toList
  let read : Reading Unit := do
    if draft.isOpen then
      let (lines, isOpen) ← readLines (chars.length + 1) []
      modify fun d => d.extendText (textOf lines) isOpen
    readCommands m (chars.length + 1)
  read.run.run { draft with chars, taken := 0, lines := 0 }

end PauseWatch.Tool.Edit
