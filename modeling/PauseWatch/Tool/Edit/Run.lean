import PauseWatch.Tool.Child
import PauseWatch.Tool.Edit.Reader

/-!
# Running edit scripts

A script is run once for every line. The line is the text under way; at the end it is written,
followed by what commands want to be written after it, and the next line is taken. A line without an
end, which can only be the last one, is written without one.
-/

namespace PauseWatch.Tool.Edit

open Host (Fault Variables Work)

/-- How far a range has come. -/
inductive RangeState where
  /-- It has not started. -/
  | waiting
  /-- It has started, and ends at a line if that is known. -/
  | open (stop : Option Nat)
  /-- It has ended. -/
  | closed
  deriving DecidableEq, Repr, Inhabited

/-- A text with whether the end of a line belongs to it. -/
structure Line where
  /-- The text. -/
  text : String := ""
  /-- Whether it ends a line. -/
  isEnded : Bool := true
  deriving Repr, Inhabited

/-- Something to be written after a line. -/
inductive Appendix where
  /-- A text. -/
  | text (text : String)
  /-- A file. -/
  | file (path : String)
  /-- A line of a file. -/
  | line (path : String)
  deriving Repr

/-- How a script is run. -/
structure Setting where
  /-- The name of the program. -/
  me : String
  /-- The script. -/
  script : Script
  /-- What the end of the script is called. -/
  stop : String
  /-- The variables. -/
  vars : Variables
  /-- What ends a line. -/
  lineEnd : Char := '\n'
  /-- Whether every file stands for itself. -/
  isSeparate : Bool := false
  /-- Whether files are changed, and what is added to the names of their old versions. -/
  inPlace : Option String := none
  /-- How wide revealed texts are. -/
  width : Nat := 70
  /-- The descriptors of the files that are written to. -/
  files : List (String × Nat) := []

/-- What changes while a script is run. -/
structure State where
  /-- The text under way. -/
  line : Line := {}
  /-- The text that is kept. -/
  kept : Line := {}
  /-- The number of the line. -/
  number : Nat := 0
  /-- What is written after the line, the last first. -/
  appendices : List Appendix := []
  /-- Whether a replacement was made. -/
  hasReplaced : Bool := false
  /-- How far the ranges have come. -/
  ranges : Array RangeState
  /-- The expression that was matched last. -/
  expression : Option Expression := none
  /-- The files that are still to be read. -/
  paths : List String
  /-- The file that is read. -/
  path : Option String := none
  /-- The lines that were read ahead. -/
  ready : List Line := []
  /-- The start of a line that was read ahead, the last character first. -/
  begun : List Char := []
  /-- What waits to be written. -/
  waiting : List UInt8 := []
  /-- What is to be the new version of the file, the last first. -/
  fresh : List String := []
  /-- The descriptors at which the end of a line is missing. -/
  unended : List Nat := []
  /-- The lines of files that are written one by one after lines. -/
  sources : List (String × List Line) := []
  /-- The status in the end. -/
  status : Nat := 0

/-- How far ranges have come before the first line. -/
def startingRanges (script : Script) : Array RangeState :=
  script.commands.map fun c => match c.selector.first with
    | some (.line 0) => .open none
    | _ => .waiting

/-- Work on a script. -/
abbrev Running := ReaderT Setting (StateT State Work)

/-- Ordinary work as work on a script. -/
def doing {α : Type} (work : Work α) : Running α := fun _ s => do return (← work, s)

/-! ## Writing -/

/-- The key under which the ordinary output is known. -/
def outputKey : Nat := 1

/-- Writes to the ordinary output, which is a file that is changed, or a stream. -/
def output (text : String) : Running Unit := do
  let e ← read
  let s ← get
  if e.inPlace.isSome && s.path.isSome then set { s with fresh := text :: s.fresh }
  else
    let waiting ← doing (gather e.me s.waiting (Text.toByteList text))
    set { s with waiting }

/-- Writes the end of a line that is missing. -/
def endLine (key : Nat) (emit : String → Running Unit) : Running Unit := do
  if (← get).unended.contains key then
    modify fun s => { s with unended := s.unended.filter (· ≠ key) }
    emit (String.singleton (← read).lineEnd)

/-- Writes a line. -/
def writeLine (key : Nat) (emit : String → Running Unit) (line : Line) : Running Unit := do
  endLine key emit
  if line.isEnded then emit (line.text ++ String.singleton (← read).lineEnd)
  else
    emit line.text
    modify fun s => { s with unended := key :: s.unended }

/-- Writes a line to the ordinary output. -/
def outputLine (line : Line) : Running Unit := writeLine outputKey output line

/-- Writes a text to the ordinary output as it is. -/
def outputText (text : String) : Running Unit := do
  endLine outputKey output
  output text

/-- Writes a line to a file that the script names. -/
def writeTo (path : String) (line : Line) : Running Unit := do
  let e ← read
  let key := (e.files.lookup path).getD outputKey
  if path = "/dev/stdout" then
    writeLine key (fun text => do
      let s ← get
      let waiting ← doing (gather e.me s.waiting (Text.toByteList text))
      set { s with waiting }) line
  else
    let fd := if path = "/dev/stderr" then 2 else key
    writeLine key (fun text => do
      let _ ← doing (Work.write fd (Text.toByteList text))) line

/-- Ends with a message. -/
def fail {α : Type} (message : String) (status : Nat) : Running α := do
  let e ← read
  let s ← get
  doing do
    unless s.waiting = [] do put e.me s.waiting
    warn e.me message
    Work.exit status

/-! ## Reading -/

/-- Cuts characters into lines; the characters of the line that was begun stand last first. -/
def cutLines (lineEnd : Char) (lines : List Line) : List Char → List Char → List Line × List Char
  | begun, [] => (lines.reverse, begun)
  | begun, c :: rest =>
    if c = lineEnd then cutLines lineEnd (⟨String.ofList begun.reverse, true⟩ :: lines) [] rest
    else cutLines lineEnd lines (c :: begun) rest

/-- All lines of some bytes. -/
def linesIn (lineEnd : Char) (bytes : List UInt8) : List Line :=
  match cutLines lineEnd [] [] (bytes.map fun b => Char.ofNat b.toNat) with
  | (lines, []) => lines
  | (lines, begun) => lines ++ [⟨String.ofList begun.reverse, false⟩]

/-- The descriptor at which files are opened beside the one that is read. -/
def sideFd : Nat := fileFd + 1

/-- All bytes of a file, or none if it cannot be read. -/
def contents (path : String) : Work (List UInt8) := do
  match ← contentsAt sideFd (if path = "/dev/stdin" then "-" else path) with
  | .ok bytes => return bytes
  | .error _ => return []

/-- The descriptor of the file that is read. -/
def currentFd : Option String → Nat
  | some "-" => 0
  | _ => fileFd

/-- Ends with the file that is read. A file that is changed gets its new contents. -/
def closeFile : Running Unit := do
  let e ← read
  let s ← get
  match e.inPlace, s.path with
  | some suffix, some path =>
    doing do
      Work.attach fileFd none
      let rewrite (path : String) (bytes : List UInt8) : Work Unit := do
        match ← Work.openFile path .write with
        | .ok handle =>
          Work.attach fileFd (some handle)
          let _ ← Work.write fileFd bytes
          Work.attach fileFd none
        | .error _ => return ()
      unless suffix = "" do
        let name :=
          if suffix.contains '*' then suffix.replace "*" path else path ++ suffix
        rewrite name (← contents path)
      rewrite path (Text.toByteList (String.join s.fresh.reverse))
  | _, some "-" => pure ()
  | _, _ => doing (Work.attach fileFd none)
  modify fun s =>
    let unended :=
      if e.inPlace.isSome then s.unended.filter (· ≠ outputKey) else s.unended
    { s with path := none, fresh := [], unended }

/-- Reads more of the file under way, or opens the next one; gives whether there may be more. -/
def readMore : Running Bool := do
  let e ← read
  let s ← get
  match s.path with
  | none =>
    match s.paths with
    | [] => return false
    | path :: paths =>
      set { s with paths }
      if path = "-" && e.inPlace.isNone then
        modify fun s => { s with path := some path }
        return true
      else
        let isFolder ← doing do
          match ← Work.look path with
          | .ok .folder => return true
          | _ => return false
        if isFolder && e.inPlace.isSome then
          doing (warn e.me ("couldn't edit " ++ path ++ ": not a regular file"))
          modify fun s => { s with status := 4 }
          return true
        match ← doing (Work.openFile path .read) with
        | .ok handle =>
          doing (Work.attach fileFd (some handle))
          modify fun s => { s with path := some path }
          if e.isSeparate then
            modify fun s => { s with number := 0, ranges := startingRanges e.script }
          return true
        | .error fault =>
          doing (warn e.me ("can't read " ++ path ++ ": " ++ fault.text))
          modify fun s => { s with status := 2 }
          return true
  | some path =>
    match ← doing (Work.read (currentFd path) chunkSize) with
    | .error fault => fail ("read error on " ++ path ++ ": " ++ fault.text) 4
    | .ok [] =>
      let isEnded := !e.isSeparate && s.paths ≠ []
      unless s.begun = [] do
        modify fun s =>
          { s with ready := s.ready ++ [⟨String.ofList s.begun.reverse, isEnded⟩], begun := [] }
      return false
    | .ok bytes =>
      let (lines, begun) := cutLines e.lineEnd [] s.begun (bytes.map fun b => Char.ofNat b.toNat)
      set { s with ready := s.ready ++ lines, begun }
      return true

/-- Reads the file under way until a line is ready; gives whether one is. -/
def readAhead : Nat → Running Bool
  | 0 => return false
  | fuel + 1 => do
    let s ← get
    if s.ready ≠ [] then return true
    else if s.path.isNone then return false
    else if ← readMore then readAhead fuel
    else return (← get).ready ≠ []

/-- Leaves out the next files as long as they cannot be read or are empty. -/
def skipEmpty : Nat → Running Unit
  | 0 => return ()
  | fuel + 1 => do
    let s ← get
    match s.paths with
    | [] => return ()
    | path :: paths =>
      if path = "-" then return ()
      else match ← doing (contentsAt sideFd path) with
        | .ok [] =>
          set { s with paths }
          skipEmpty fuel
        | .error .missing =>
          doing (warn (← read).me ("can't read " ++ path ++ ": " ++ Fault.missing.text))
          set { s with paths, status := 2 }
          skipEmpty fuel
        | _ => return ()

/-- Whether no line follows. -/
def isLast : Running Bool := do
  if ← readAhead patience then return false
  if (← read).isSeparate then return true
  skipEmpty ((← get).paths.length + 1)
  return (← get).paths = []

/-- Takes the next line, from the next files if need be; gives nothing if there is none. -/
def takeLine : Nat → Running (Option Line)
  | 0 => return none
  | fuel + 1 => do
    if ← readAhead patience then
      let s ← get
      match s.ready with
      | line :: ready =>
        set { s with ready, number := s.number + 1 }
        return some line
      | [] => return none
    else
      if (← get).path.isSome then closeFile
      if ← readMore then takeLine fuel else return none

/-- Writes what is to be written after the line. -/
def writeAppendices : Running Unit := do
  let appendices := (← get).appendices.reverse
  modify fun s => { s with appendices := [] }
  for appendix in appendices do
    match appendix with
    | .text text => outputText text
    | .file path =>
      let bytes ← doing (contents path)
      unless bytes = [] do outputText (Text.ofByteList bytes)
    | .line path =>
      let s ← get
      let lines ← match s.sources.lookup path with
        | some lines => pure lines
        | none => do pure (linesIn (← read).lineEnd (← doing (contents path)))
      match lines with
      | [] => modify fun s => { s with sources := (path, []) :: s.sources }
      | line :: rest =>
        modify fun s => { s with sources := (path, rest) :: s.sources }
        outputLine { line with isEnded := true }

/-! ## Selecting -/

/-- The expression to match, which is the last one if none is given. -/
def theExpression (given : Option Expression) : Running Expression := do
  match given, (← get).expression with
  | some x, _ =>
    modify fun s => { s with expression := some x }
    return x
  | none, some x => return x
  | none, none =>
    fail ((← read).stop ++ ": no previous regular expression") 1

/-- The first match of an expression in a text from a place on. -/
def Expression.search (x : Expression) (text : Array Char) (start : Nat) :
    Option (Nat × Spot) :=
  let subject : Regexp.Subject :=
    { text, hasLines := x.hasLines, ignoresCase := x.ignoresCase, looksBack := x.regexp.looksBack }
  Regexp.search subject x.regexp (text.size + 1) start

/-- Whether an address selects the line. -/
def selects (address : Address) : Running Bool := do
  let s ← get
  match address with
  | .line n => return s.number = n
  | .every first step => return first ≤ s.number && (s.number - first) % step = 0
  | .last => isLast
  | .matching given =>
    let x ← theExpression given
    return (x.search s.line.text.toList.toArray 0).isSome

/-- Whether the command at a place selects the line. -/
def isSelected (place : Nat) (selector : Selector) : Running Bool := do
  let number := (← get).number
  let setRange (state : RangeState) : Running Unit :=
    modify fun s => { s with ranges := s.ranges.setIfInBounds place state }
  let go : Running Bool := do
    match selector.first, selector.stop with
    | none, _ => return true
    | some first, none => selects first
    | some first, some stop =>
      match (← get).ranges.getD place .waiting with
      | .open (some last) =>
        if last ≤ number then setRange .closed
        return number ≤ last
      | .open none =>
        match stop with
        | .address address => if ← selects address then setRange .closed
        | _ => pure ()
        return true
      | state =>
        let starts ← match first with
          | .line n => pure (state ≠ .closed && n ≤ number)
          | first => selects first
        if !starts then return false
        let openUpTo (last : Nat) : Running Bool := do
          if number < last then setRange (.open (some last))
          else match first with
            | .line _ => setRange .closed
            | _ => pure ()
          return true
        match stop with
        | .address (.line n) =>
          match first with
          | .line m => if n < number && number ≠ m then setRange .closed; return false
                       else openUpTo n
          | _ => openUpTo n
        | .after n => openUpTo (number + n)
        | .multiple n => openUpTo (if n = 0 then number else (number / n + 1) * n)
        | .address _ =>
          setRange (.open none)
          return true
  return (← go) != selector.isInverse

/-! ## Replacing -/

/-- A letter as a large one or a small one. -/
def inSize (size : LetterSize) (c : Char) : Char :=
  match size with
  | .large | .nextLarge => c.toUpper
  | .small | .nextSmall => c.toLower
  | .kept => c

/-- Adds characters in the sizes that are wanted, one for all and one for the next letter. -/
def sized (all : LetterSize) (one : Option LetterSize) : List Char → List Char
  | [] => []
  | c :: rest => inSize (one.getD all) c :: rest.map (inSize all)

/-- What is put in the place of a match. -/
def filled (text : Array Char) (start stop : Nat) (groups : List (Nat × Nat × Nat)) :
    LetterSize → Option LetterSize → List Piece → List Char
  | _, _, [] => []
  | all, _, .size size :: rest =>
    match size with
    | .nextLarge | .nextSmall => filled text start stop groups all (some size) rest
    | size => filled text start stop groups size none rest
  | all, one, piece :: rest =>
    let chars := match piece with
      | .text chars => chars
      | .group 0 => (text.extract start stop).toList
      | .group n => match groups.lookup n with
        | some (first, last) => (text.extract first last).toList
        | none => []
      | .size _ => []
    sized all one chars
      ++ filled text start stop groups all (if chars = [] then one else none) rest

/-- Replaces the matches from a place on, given how many were passed and where the last one ended;
the pieces of the result are collected, the last first. -/
def replaceFrom (sub : Substitution) (x : Expression) (text : Array Char) :
    Nat → Nat → Nat → Option Nat → List (List Char) → Bool → List (List Char) × Bool
  | 0, start, _, _, pieces, hasReplaced =>
    ((text.extract start text.size).toList :: pieces, hasReplaced)
  | fuel + 1, start, count, last, pieces, hasReplaced =>
    match x.search text start with
    | none => ((text.extract start text.size).toList :: pieces, hasReplaced)
    | some (first, spot) =>
      let stop := spot.place
      let pieces := (text.extract start first).toList :: pieces
      let isEmpty := first = stop
      if isEmpty && last = some first then
        if first < text.size then
          replaceFrom sub x text fuel (first + 1) count none
            ((text.extract first (first + 1)).toList :: pieces) hasReplaced
        else (pieces, hasReplaced)
      else
        let count := count + 1
        let isWanted := sub.first ≤ count
        let new :=
          if isWanted then filled text first stop spot.groups .kept none sub.pieces
          else (text.extract first stop).toList
        let pieces := new :: pieces
        if isWanted && !sub.isGlobal then
          ((text.extract stop text.size).toList :: pieces, true)
        else if isEmpty then
          if stop < text.size then
            replaceFrom sub x text fuel (stop + 1) count none
              ((text.extract stop (stop + 1)).toList :: pieces) (hasReplaced || isWanted)
          else (pieces, hasReplaced || isWanted)
        else replaceFrom sub x text fuel stop count (some stop) pieces (hasReplaced || isWanted)

/-- What a command writes. -/
def outputOf (e : Setting) (command : String) : Work (List UInt8) := do
  let conduit ← Work.conduit
  let pid ← Work.spawn fun () => (do
    Work.attach 1 (some (.sink conduit))
    becomeProgram e.me (fun name => name) ["sh", "-c", command] e.vars : Work Nat).toProgram
  Work.attach sideFd (some (.source conduit))
  let result ← forChunks sideFd
    (fun chunks bytes => return (bytes :: chunks, true)) patience []
  Work.attach sideFd none
  let _ ← Work.wait (some pid) false
  return match result with
    | .ok chunks => chunks.reverse.flatten
    | .error _ => []

/-- Changes the text under way. -/
def setText (text : String) : Running Unit :=
  modify fun s => { s with line := { s.line with text } }

/-- Makes a replacement. -/
def substitute (sub : Substitution) : Running Unit := do
  let x ← theExpression sub.expression
  let text := (← get).line.text.toList.toArray
  let (pieces, hasReplaced) := replaceFrom sub x text (2 * text.size + 2) 0 0 none [] false
  if hasReplaced then
    setText (String.ofList pieces.reverse.flatten)
    modify fun s => { s with hasReplaced := true }
    if sub.isRun then
      let e ← read
      let bytes ← doing (outputOf e (← get).line.text)
      let bytes := if bytes.getLast? = some 10 then bytes.dropLast else bytes
      setText (Text.ofByteList bytes)
    if sub.prints then outputLine (← get).line
    match sub.file with
    | some path => writeTo path (← get).line
    | none => pure ()

/-! ## Commands -/

/-- How a character is revealed. -/
def revealChar (c : Char) : List Char :=
  let named : List (Char × Char) := [('\x07', 'a'), ('\x08', 'b'), ('\x0c', 'f'), ('\n', 'n'),
    ('\r', 'r'), ('\t', 't'), ('\x0b', 'v'), ('\\', '\\')]
  match named.lookup c with
  | some letter => ['\\', letter]
  | none =>
    if ' ' ≤ c && c ≤ '~' then [c]
    else
      let digits := Nat.toDigits 8 c.toNat
      '\\' :: List.replicate (3 - digits.length) '0' ++ digits

/-- Revealed characters on lines of some width, where zero stands for no bound. -/
def revealed (width : Nat) : Nat → List (List Char) → List Char
  | _, [] => ['$']
  | column, c :: rest =>
    if width ≠ 0 && width - 1 < column + c.length then
      '\\' :: '\n' :: c ++ revealed width c.length rest
    else c ++ revealed width (column + c.length) rest

/-- The first line of a text. -/
def firstLine (lineEnd : Char) (text : String) : String :=
  String.ofList (text.toList.takeWhile (· ≠ lineEnd))

/-- How it goes on after a command. -/
inductive Outcome where
  /-- At a place of the script. -/
  | goOn (place : Nat)
  /-- With the end of the line. -/
  | endLine
  /-- With the next line. -/
  | nextLine
  /-- With the text under way, without another line. -/
  | again
  /-- Not at all. -/
  | stop (status : Nat) (prints : Bool)

/-- Takes the next line, before which the line under way is finished; gives it if there is one. -/
def advance : Running (Option Line) := do
  writeAppendices
  modify fun s => { s with hasReplaced := false }
  takeLine patience

/-- Does what a command says, which stands at a place and has selected the line. -/
def act (place : Nat) (action : Action) : Running Outcome := do
  let e ← read
  let s ← get
  let done : Running Outcome := return .goOn (place + 1)
  match action with
  | .openBlock _ | .nothing => done
  | .number => do
    outputText (toString s.number ++ "\n")
    done
  | .append text => do
    modify fun s => { s with appendices := .text text :: s.appendices }
    done
  | .insert text => do
    outputText text
    done
  | .change text => do
    match s.ranges.getD place .waiting with
    | .open _ => pure ()
    | _ => outputText text
    return .nextLine
  | .jump time label =>
    let jumps : Bool := match time with
      | .always => true
      | .replaced => s.hasReplaced
      | .unreplaced => !s.hasReplaced
    if time ≠ .always then modify fun s => { s with hasReplaced := false }
    if !jumps then done
    else if label = "" then return .endLine
    else return .goOn ((e.script.labels.lookup label).getD e.script.commands.size)
  | .delete => return .nextLine
  | .deleteFirst =>
    match s.line.text.toList.dropWhile (· ≠ e.lineEnd) with
    | [] => return .nextLine
    | _ :: rest =>
      setText (String.ofList rest)
      return .again
  | .run command => do
    if command = "" then
      let bytes ← doing (outputOf e s.line.text)
      let bytes := if bytes.getLast? = some 10 then bytes.dropLast else bytes
      setText (Text.ofByteList bytes)
    else outputText (Text.ofByteList (← doing (outputOf e command)))
    done
  | .fileName => do
    outputText ((s.path.getD "-") ++ "\n")
    done
  | .fetch adds => do
    if adds then setText (s.line.text ++ String.singleton e.lineEnd ++ s.kept.text)
    else set { s with line := s.kept }
    done
  | .keep adds => do
    if adds then
      let text := s.kept.text ++ String.singleton e.lineEnd ++ s.line.text
      set { s with kept := { s.kept with text } }
    else set { s with kept := s.line }
    done
  | .exchange => do
    set { s with line := s.kept, kept := s.line }
    done
  | .reveal width => do
    outputText (String.ofList (revealed (width.getD e.width) 0 (s.line.text.toList.map revealChar)) ++ "\n")
    done
  | .next => do
    if ← isLast then return .endLine
    unless e.script.isQuiet do outputLine s.line
    match ← advance with
    | some line =>
      modify fun s => { s with line }
      done
    | none => return .stop 0 false
  | .nextMore => do
    if ← isLast then return .endLine
    match ← advance with
    | some line =>
      let text := s.line.text ++ String.singleton e.lineEnd ++ line.text
      modify fun s => { s with line := { line with text } }
      done
    | none => return .stop 0 false
  | .print => do
    outputLine s.line
    done
  | .printFirst => do
    outputText (firstLine e.lineEnd s.line.text ++ String.singleton e.lineEnd)
    done
  | .quit status prints => return .stop status prints
  | .appendFile path => do
    modify fun s => { s with appendices := .file path :: s.appendices }
    done
  | .appendLine path => do
    modify fun s => { s with appendices := .line path :: s.appendices }
    done
  | .write path => do
    writeTo path s.line
    done
  | .writeFirst path => do
    writeTo path ⟨firstLine e.lineEnd s.line.text, true⟩
    done
  | .substitute sub => do
    substitute sub
    done
  | .replaceChars table => do
    setText (String.ofList (s.line.text.toList.map fun c => (table.lookup c).getD c))
    done
  | .clear => do
    setText ""
    done

/-- Runs the commands from a place on. -/
def runFrom : Nat → Nat → Running Outcome
  | 0, _ => return .endLine
  | fuel + 1, place => do
    match (← read).script.commands[place]? with
    | none => return .endLine
    | some command =>
      if ← isSelected place command.selector then
        match ← act place command.action with
        | .goOn place => runFrom fuel place
        | outcome => return outcome
      else match command.action with
        | .openBlock stop => runFrom fuel stop
        | _ => runFrom fuel (place + 1)

/-- Runs the script for the text under way and for all lines that follow, and gives a status. -/
def runLines : Nat → Running Nat
  | 0 => return 0
  | fuel + 1 => do
    let isQuiet := (← read).script.isQuiet
    let nextLine : Running Nat := do
      match ← advance with
      | none => return 0
      | some line =>
        modify fun s => { s with line }
        runLines fuel
    match ← runFrom patience 0 with
    | .goOn _ | .endLine =>
      unless isQuiet do outputLine (← get).line
      nextLine
    | .nextLine => nextLine
    | .again =>
      writeAppendices
      runLines fuel
    | .stop status prints =>
      if prints && !isQuiet then outputLine (← get).line
      writeAppendices
      return status

/-- Runs the script for all lines of files, and gives a status. -/
def run : Running Nat := do
  match ← takeLine patience with
  | none => closeFile
  | some line =>
    modify fun s => { s with line }
    let status ← runLines patience
    closeFile
    if status ≠ 0 then
      return status
  return (← get).status

/-- Opens the files that a script writes to, from a descriptor on. -/
def openFiles (me : String) : Nat → List String → Work (List (String × Nat))
  | _, [] => return []
  | fd, path :: rest => do
    unless path = "/dev/stdout" || path = "/dev/stderr" do
      match ← Work.openFile path .write with
      | .ok handle => Work.attach fd (some handle)
      | .error fault =>
        warn me ("couldn't open file " ++ path ++ ": " ++ fault.text)
        Work.exit 4
    return (path, fd) :: (← openFiles me (fd + 1) rest)

/-- How a program for edit scripts is called. -/
def usageText (me : String) : String :=
  "Usage: " ++ me ++ " [OPTION]... \x7bscript-only-if-no-other-script\x7d [input-file]...\n\n" ++
  "  -n, --quiet, --silent\n" ++
  "                 suppress automatic printing of pattern space\n" ++
  "      --debug\n" ++
  "                 annotate program execution\n" ++
  "  -e script, --expression=script\n" ++
  "                 add the script to the commands to be executed\n" ++
  "  -f script-file, --file=script-file\n" ++
  "                 add the contents of script-file to the commands to be executed\n" ++
  "  --follow-symlinks\n" ++
  "                 follow symlinks when processing in place\n" ++
  "  -i[SUFFIX], --in-place[=SUFFIX]\n" ++
  "                 edit files in place (makes backup if SUFFIX supplied)\n" ++
  "  -l N, --line-length=N\n" ++
  "                 specify the desired line-wrap length for the `l' command\n" ++
  "  --posix\n" ++
  "                 disable all GNU extensions.\n" ++
  "  -E, -r, --regexp-extended\n" ++
  "                 use extended regular expressions in the script\n" ++
  "                 (for portability use POSIX -E).\n" ++
  "  -s, --separate\n" ++
  "                 consider files as separate rather than as a single,\n" ++
  "                 continuous long stream.\n" ++
  "      --sandbox\n" ++
  "                 operate in sandbox mode (disable e/r/w commands).\n" ++
  "  -u, --unbuffered\n" ++
  "                 load minimal amounts of data from the input files and flush\n" ++
  "                 the output buffers more often\n" ++
  "  -z, --null-data\n" ++
  "                 separate lines by NUL characters\n" ++
  "      --help     display this help and exit\n" ++
  "      --version  output version information and exit\n\n" ++
  "If no -e, --expression, -f, or --file option is given, then the first\n" ++
  "non-option argument is taken as the sed script to interpret.  All\n" ++
  "remaining arguments are names of input files; if no input files are\n" ++
  "specified, then the standard input is read.\n\n" ++
  "GNU sed home page: <https://www.gnu.org/software/sed/>.\n" ++
  "General help using GNU software: <https://www.gnu.org/gethelp/>.\n"

/-- Reads the pieces of a script, which options give as texts or as files, with the number of texts
so far. -/
def readPieces (me : String) (m : Manner) :
    Nat → List (Char × Option String) → Draft → Work Draft
  | _, [], draft => return draft
  | number, (key, value) :: rest, draft => do
    let value := value.getD ""
    let number := if key = 'e' then number + 1 else number
    let named (taken line : Nat) : String :=
      if key = 'e' then "-e expression #" ++ toString number ++ ", char " ++ toString taken
      else "file " ++ value ++ " line " ++ toString line
    let text ←
      if key = 'e' then pure value
      else
        match ← contentsAt fileFd value with
        | .ok bytes => pure (Text.ofByteList bytes)
        | .error fault =>
          warn me ("couldn't open file " ++ value ++ ": " ++ fault.text)
          Work.exit 4
    match readPiece m text { draft with named } with
    | (.ok (), draft) => readPieces me m number rest { draft with isFirst := false }
    | (.error problem, draft) =>
      warn me (if problem == RegexpFault.bareClass.text then problem
        else draft.here ++ ": " ++ problem)
      Work.exit 1

/-- The names of the options. -/
def names : List (String × Char) :=
  [("binary", 'b'), ("regexp-extended", 'r'), ("debug", '!'), ("in-place::", 'i'),
    ("expression:", 'e'), ("file:", 'f'), ("line-length:", 'l'), ("null-data", 'z'),
    ("zero-terminated", 'z'), ("quiet", 'n'), ("posix", 'p'), ("silent", 'n'), ("sandbox", 'S'),
    ("separate", 's'), ("unbuffered", 'u'), ("version", 'v'), ("help", 'h'),
    ("follow-symlinks", 'F')]

end PauseWatch.Tool.Edit

namespace PauseWatch.Tool

open Host (Variables Work)

/-- Runs an edit script on files. -/
def sed (me : String) (args : List String) (vars : Variables) : Work Nat := do
  let refuse : Work Nat := do
    let _ ← Work.write 2 (Text.toByteList (Edit.usageText me))
    return 1
  match selectOptions "bsnrzuEe:f:l:i::V:" Edit.names true args with
  | .error fault =>
    warn me fault.message
    refuse
  | .ok s =>
    let given := s.options.filter fun (key, _) => key = 'e' || key = 'f'
    match given, s.operands with
    | [], [] => refuse
    | _, _ =>
      let (given, paths) := match given, s.operands with
        | [], script :: paths => ([('e', some script)], paths)
        | given, paths => (given, paths)
      let m : Edit.Manner := { isExtended := s.has 'E' || s.has 'r', isGuarded := s.has 'S' }
      let draft ← Edit.readPieces me m 0 given {}
      match draft.blocks, draft.script.lostLabel? with
      | (_, place) :: _, _ =>
        warn me (place ++ ": unmatched `\x7b'")
        return 1
      | [], some label =>
        warn me ("can't find label for jump to `" ++ label ++ "'")
        return 4
      | [], none =>
        let script := { draft.script with isQuiet := draft.script.isQuiet || s.has 'n' }
        let inPlace := if s.has 'i' then some ((s.last? 'i').getD "") else none
        let e : Edit.Setting := {
          me, script, vars, inPlace, stop := draft.lineStart
          lineEnd := if s.has 'z' then '\x00' else '\n'
          isSeparate := s.has 's' || inPlace.isSome
          width := match s.last? 'l' with
            | some text => Text.digitsValue 10 (text.toList.takeWhile Char.isDigit)
            | none => 70
          files := ← Edit.openFiles me (fileFd + 2) script.files }
        let (status, state) ← (Edit.run.run e).run
          { ranges := Edit.startingRanges script, paths := if paths = [] then ["-"] else paths }
        unless state.waiting = [] do put me state.waiting
        return status

end PauseWatch.Tool
