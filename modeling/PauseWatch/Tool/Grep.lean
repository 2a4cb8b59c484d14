import PauseWatch.Tool.Regexp.Reader
import PauseWatch.Tool.Stream

/-!
# Lines with a match

A program that shows the lines of files in which an expression matches, or those in which none does.
-/

namespace PauseWatch.Tool

open Host (Fault Work)

namespace Grep

/-- What lines are looked for. -/
structure Finder where
  /-- The expressions of which one has to match. -/
  expressions : List Regexp
  /-- Whether large and small letters are the same. -/
  ignoresCase : Bool := false
  /-- Whether a match has to be a whole line. -/
  takesLines : Bool := false
  /-- Whether a match has to be made of whole words. -/
  takesWords : Bool := false

/-- The longest match at a place, or at the first place behind it where there is one, within some
number of places. -/
def Finder.find? (f : Finder) (text : Array Char) : Nat → Nat → Option (Nat × Nat)
  | 0, _ => none
  | fuel + 1, start =>
    let isEdge (place : Nat) : Bool :=
      !(text[place]?.any Regexp.isWordChar)
    let startsWord := start = 0 || isEdge (start - 1)
    let fits (stop : Nat) : Bool :=
      (!f.takesLines || (start = 0 && stop = text.size))
        && (!f.takesWords || (startsWord && isEdge stop))
    let stops := f.expressions.flatMap fun r =>
      let subject : Regexp.Subject :=
        { text, ignoresCase := f.ignoresCase, looksBack := r.looksBack }
      ((r.ends subject ⟨start, []⟩).map (·.place)).filter fits
    match stops with
    | stop :: more => some (start, more.foldl max stop)
    | [] => if start < text.size then f.find? text fuel (start + 1) else none

/-- All matches in a line that are not empty, from a place on. -/
def Finder.findAll (f : Finder) (text : Array Char) : Nat → Nat → List (Nat × Nat)
  | 0, _ => []
  | fuel + 1, start =>
    match f.find? text (text.size + 1) start with
    | none => []
    | some (first, stop) =>
      if first = stop then
        if stop < text.size then f.findAll text fuel (stop + 1) else []
      else (first, stop) :: f.findAll text fuel stop

/-- What is shown of a file. -/
inductive Shown where
  /-- The lines. -/
  | lines
  /-- The parts of the lines that match. -/
  | parts
  /-- The number of lines. -/
  | count
  /-- The name of the file, if it has such a line or if it has none. -/
  | name (isWithout : Bool)
  /-- Nothing. -/
  | nothing
  deriving DecidableEq, Repr

/-- How lines are looked for and shown. -/
structure Manner where
  /-- What is looked for. -/
  finder : Finder
  /-- Whether the other lines are wanted. -/
  isInverse : Bool := false
  /-- What is shown. -/
  shown : Shown := .lines
  /-- After how many lines the rest of a file is left. -/
  limit : Option Nat := none
  /-- How many lines before a line are shown with it. -/
  before : Nat := 0
  /-- How many lines after a line are shown with it. -/
  after : Nat := 0
  /-- What parts lines that are not neighbours. -/
  separator : Option String := some "--"
  /-- Whether names are shown. -/
  hasNames : Bool := false
  /-- Whether the name of a file ends with a null. -/
  endsNames : Bool := false
  /-- Whether the numbers of lines are shown. -/
  hasNumbers : Bool := false
  /-- Whether the places of lines are shown. -/
  hasPlaces : Bool := false
  /-- Whether a blank stands before a line. -/
  hasTab : Bool := false
  /-- Whether what is found is coloured. -/
  hasColour : Bool := false
  /-- What ends a line. -/
  lineEnd : Char := '\n'
  /-- Whether files of other things than lines are taken for lines. -/
  isText : Bool := false
  /-- Whether files of other things than lines are left out. -/
  skipsBinary : Bool := false
  /-- The name of the input. -/
  inputName : String := "(standard input)"
  /-- Whether nothing is said about files that cannot be read. -/
  isSilent : Bool := false

/-- Whether lines around a line are shown. -/
def Manner.hasContext (m : Manner) : Bool := m.before ≠ 0 || m.after ≠ 0

/-- How far a file has been read. -/
structure Progress where
  /-- How many lines were read. -/
  number : Nat := 0
  /-- How many characters were read. -/
  place : Nat := 0
  /-- How many lines were found. -/
  found : Nat := 0
  /-- How many lines are still shown after the last one that was found. -/
  after : Nat := 0
  /-- The lines before this one that were not shown, with their numbers and places, the last
  first. -/
  before : List (String × Nat × Nat) := []
  /-- The number of the line that was shown last. -/
  last : Option Nat := none
  /-- Whether the file is found to hold other things than lines. -/
  isBinary : Bool := false
  /-- Whether the file is done. -/
  isDone : Bool := false

/-- Something in a colour. -/
def colour (m : Manner) (code text : String) : String :=
  if m.hasColour then "\x1b[" ++ code ++ "m\x1b[K" ++ text ++ "\x1b[m\x1b[K" else text

/-- What stands before a line. -/
def lead (m : Manner) (name : String) (sign : String) (number place : Nat) : String :=
  let sign := colour m "36" sign
  let mark (text : String) : String := text ++ sign
  let name := colour m "35" name
  (if m.hasNames then (if m.endsNames then name ++ "\x00" else mark name) else "")
    ++ (if m.hasNumbers then mark (colour m "32" (toString number)) else "")
    ++ (if m.hasPlaces then mark (colour m "32" (toString place)) else "")
    ++ if m.hasTab && (m.hasNames || m.hasNumbers || m.hasPlaces) then "\t" else ""

/-- A part of a text. -/
def slice (text : Array Char) (start stop : Nat) : String :=
  String.ofList ((text.extract start stop).toList)

/-- A line with the parts in colour that match. -/
def coloured (m : Manner) (text : Array Char) : Nat → List (Nat × Nat) → String
  | start, [] => slice text start text.size
  | start, (first, stop) :: rest =>
    slice text start first ++ colour m "01;31" (slice text first stop) ++ coloured m text stop rest

/-- What is shown for a line that was found. -/
def showFound (m : Manner) (name line : String) (number place : Nat) : String :=
  let text := line.toList.toArray
  let matches_ : Unit → List (Nat × Nat) := fun _ => m.finder.findAll text (text.size + 1) 0
  let ending := String.singleton m.lineEnd
  if m.shown = .parts then
    if m.isInverse then ""
    else String.join ((matches_ ()).map fun (first, stop) =>
      lead m name ":" number (place + first) ++ colour m "01;31" (slice text first stop) ++ ending)
  else
    lead m name ":" number place
      ++ (if m.hasColour && !m.isInverse then coloured m text 0 (matches_ ()) else line) ++ ending

/-- What is shown for a line around another one. -/
def showAround (m : Manner) (name : String) (line : String × Nat × Nat) : String :=
  if m.shown = .parts then ""
  else lead m name "-" line.2.1 line.2.2 ++ line.1 ++ String.singleton m.lineEnd

/-- Takes the next line of a file; what is to be shown stands beside the progress. -/
def step (m : Manner) (name : String) (p : Progress) (line : String) : Progress × String :=
  let number := p.number + 1
  let text := line.toList.toArray
  let isFound := (m.finder.find? text (text.size + 1) 0).isSome != m.isInverse
  let next := { p with number, place := p.place + text.size + 1 }
  let isMore := m.limit.all (p.found < ·)
  let showsLines := !p.isBinary && (m.shown = .lines || m.shown = .parts)
  if isFound && isMore then
    let before := p.before.take m.before
    let first := before.getLast?.elim number (·.2.1)
    let gap := match p.last, m.separator with
      | some last, some separator =>
        if m.hasContext && last + 1 < first then colour m "36" separator ++ "\n" else ""
      | _, _ => ""
    let isDone := match m.shown with
      | .name _ | .nothing => true
      | .count => m.limit = some (p.found + 1)
      | .lines | .parts => p.isBinary || (m.limit = some (p.found + 1) && m.after = 0)
    let shown :=
      if showsLines then
        gap ++ String.join (before.reverse.map (showAround m name))
          ++ showFound m name line number p.place
      else ""
    ({ next with
        found := p.found + 1, after := m.after, before := [], last := some number, isDone },
      shown)
  else if p.after ≠ 0 then
    let shown := if showsLines then showAround m name (line, number, p.place) else ""
    ({ next with after := p.after - 1, last := some number, isDone := !isMore && p.after = 1 },
      shown)
  else
    ({ next with before := (line, number, p.place) :: p.before.take (m.before - 1) }, "")

/-- Takes the whole lines at the start of some characters; the characters of the line that was begun
stand last first, and are given back. -/
def takeLines (m : Manner) (name : String) :
    List Char → List Char → Progress → List String → List Char × Progress × List String
  | begun, [], p, shown => (begun, p, shown)
  | begun, c :: rest, p, shown =>
    if p.isDone then (begun, p, shown)
    else if c = m.lineEnd || (p.isBinary && c = '\x00') then
      let (p, more) := step m name p (String.ofList begun.reverse)
      takeLines m name [] rest p (if more = "" then shown else more :: shown)
    else takeLines m name (c :: begun) rest p shown

/-- What stays while a file is read: the progress, the line that was begun, and what waits to be
written. -/
structure Reading where
  /-- The progress. -/
  progress : Progress := {}
  /-- The line that was begun, the last character first. -/
  begun : List Char := []
  /-- What waits to be written. -/
  waiting : List UInt8

/-- Reads a file, and gives how many lines were found and what waits to be written. -/
def readFile (m : Manner) (me name : String) (waiting : List UInt8) (fd : Nat) :
    Work (Except Fault (Nat × List UInt8)) := do
  if m.limit = some 0 then return .ok (0, waiting)
  let result ← forChunks fd (fun (r : Reading) bytes => do
    let isBinary := r.progress.isBinary || (!m.isText && m.lineEnd ≠ '\x00' && bytes.contains 0)
    if isBinary && m.skipsBinary then
      return ({ r with progress := { r.progress with found := 0, isDone := true } }, false)
    let (begun, progress, shown) :=
      takeLines m name r.begun (bytes.map fun b => Char.ofNat b.toNat)
        { r.progress with isBinary } []
    let waiting ← gather me r.waiting (Text.toByteList (String.join shown.reverse))
    return ({ progress, begun, waiting }, !progress.isDone)) patience { waiting }
  match result with
  | .error fault => return .error fault
  | .ok r =>
    let (p, shown) :=
      if r.begun = [] || r.progress.isDone then (r.progress, "")
      else step m name r.progress (String.ofList r.begun.reverse)
    let summary := match m.shown with
      | .count =>
        (if m.hasNames then name ++ (if m.endsNames then "\x00" else ":") else "")
          ++ toString p.found ++ "\n"
      | .name isWithout =>
        if (p.found = 0) = isWithout then name ++ (if m.endsNames then "\x00" else "\n") else ""
      | _ => ""
    let waiting ← gather me r.waiting (Text.toByteList (shown ++ summary))
    if p.isBinary && p.found ≠ 0 && (m.shown = .lines || m.shown = .parts) then
      warn me (name ++ ": binary file matches")
    return .ok (p.found, waiting)

/-- Reads files, and gives whether lines were found, whether a file could not be read, and what
waits to be written. -/
def readFiles (m : Manner) (me : String) :
    List String → List UInt8 → Work (Bool × Bool × List UInt8)
  | [], waiting => return (false, false, waiting)
  | path :: rest, waiting => do
    let name := if path = "-" then m.inputName else path
    match ← withFile path (readFile m me name waiting) with
    | .ok (found, waiting) =>
      if found ≠ 0 && m.shown = .nothing then return (true, false, waiting)
      else
        let (isFound, hasFailed, waiting) ← readFiles m me rest waiting
        return (isFound || found ≠ 0, hasFailed, waiting)
    | .error fault =>
      unless m.isSilent do warn me (name ++ ": " ++ fault.text)
      let (isFound, _, waiting) ← readFiles m me rest waiting
      return (isFound, true, waiting)

/-- The files below a path, to some depth; the path itself if it is no directory. -/
def filesBelow : Nat → String → Work (List String)
  | 0, path => return [path]
  | depth + 1, path => do
    match ← Work.look path with
    | .ok .folder =>
      match ← Work.names path with
      | .error _ => return [path]
      | .ok names =>
        let mut paths := []
        for name in names do
          let start := if path.endsWith "/" then path else path ++ "/"
          paths := paths ++ (← filesBelow depth (start ++ name))
        return paths
    | _ => return [path]

/-- The letters of the options. -/
def letters : String := "0123456789A:B:C:D:EFGHILPTUVX:abcd:e:f:hiLlm:noqRrsuvwxyZz"

/-- The names of the options. -/
def names : List (String × Char) :=
  [("basic-regexp", 'G'), ("extended-regexp", 'E'), ("fixed-regexp", 'F'), ("fixed-strings", 'F'),
    ("perl-regexp", 'P'), ("after-context:", 'A'), ("before-context:", 'B'), ("context:", 'C'),
    ("binary-files:", '%'), ("line-buffered", '&'), ("color::", '#'), ("colour::", '#'),
    ("count", 'c'), ("devices:", 'D'), ("directories:", 'd'), ("exclude:", '<'),
    ("exclude-from:", ';'), ("exclude-dir:", '>'), ("file:", 'f'), ("files-with-matches", 'l'),
    ("files-without-match", 'L'), ("group-separator:", '='), ("help", '?'), ("include:", '+'),
    ("ignore-case", 'i'), ("no-ignore-case", '/'), ("initial-tab", 'T'), ("label:", '@'),
    ("line-number", 'n'), ("line-regexp", 'x'), ("max-count:", 'm'), ("no-filename", 'h'),
    ("no-group-separator", '!'), ("no-messages", 's'), ("null", 'Z'), ("null-data", 'z'),
    ("only-matching", 'o'), ("quiet", 'q'), ("recursive", 'r'), ("dereference-recursive", 'R'),
    ("regexp:", 'e'), ("invert-match", 'v'), ("silent", 'q'), ("text", 'a'), ("binary", 'U'),
    ("unix-byte-offsets", 'u'), ("version", 'V'), ("with-filename", 'H'), ("word-regexp", 'w'),
    ("byte-offset", 'b')]

/-- A text as an expression in which every character is itself. -/
def ofPlainText (ignoresCase : Bool) (text : String) : Regexp :=
  let d : Dialect := { isExtended := false, isLenient := true, ignoresCase }
  text.toList.foldl (fun r c => .seq r (Regexp.ofChar d c)) .empty

/-- A count, or what is wrong with it. -/
def countOf (problem text : String) : Except String Nat :=
  if text ≠ "" && text.toList.all Char.isDigit then
    .ok (Text.digitsValue 10 text.toList)
  else .error problem

/-- A count that an option took, or else another one. -/
def contextOf (s : Selection) (key : Char) (usual : Nat) : Except String Nat :=
  match s.last? key with
  | none => .ok usual
  | some text => countOf (text ++ ": invalid context length argument") text

/-- Whether large and small letters are the same. -/
def ignoresCase (s : Selection) : Bool := s.lastOf ['i', 'y', '/'] |>.any (· ≠ '/')

/-- The expressions that texts are, or what is wrong with one of them; and the operators that stand
where nothing can be repeated. -/
def expressionsOf (ignoresCase : Bool) (kind : Char) :
    List String → Except String (List Regexp) × List String
  | [] => (.ok [], [])
  | text :: rest =>
    let d : Dialect := { isExtended := kind = 'E', isLenient := true, ignoresCase }
    let (first, idle) : Except RegexpFault (Regexp × Nat) × List String :=
      if kind = 'F' then (.ok (ofPlainText ignoresCase text, 0), []) else Regexp.ofText d text
    match first with
    | .error fault => (.error fault.text, idle)
    | .ok (r, _) =>
      let (more, further) := expressionsOf ignoresCase kind rest
      (more.map (r :: ·), idle ++ further)

/-- What the options mean. -/
def Manner.ofOptions (s : Selection) (expressions : List Regexp) (hasNames : Bool) :
    Except String Manner := do
  let digits := String.ofList ((s.options.map (·.1)).filter Char.isDigit)
  let context ← contextOf s 'C' (digits.toNat?.getD 0)
  let after ← contextOf s 'A' context
  let before ← contextOf s 'B' context
  let limit ← match s.last? 'm' with
    | none => pure none
    | some text => if Text.startsWith "-" text then pure none else
      (countOf "invalid max count" text).map some
  let shown : Shown :=
    if s.has 'q' then .nothing
    else match s.lastOf ['l', 'L'] with
      | some key => .name (key = 'L')
      | none => if s.has 'c' then .count else if s.has 'o' then .parts else .lines
  return {
    finder := { expressions, ignoresCase := ignoresCase s, takesLines := s.has 'x', takesWords := s.has 'w' }
    isInverse := s.has 'v'
    shown, limit, before, after
    separator := if s.has '!' then none else some ((s.last? '=').getD "--")
    hasNames := match s.lastOf ['H', 'h'] with
      | some key => key = 'H'
      | none => hasNames
    endsNames := s.has 'Z'
    hasNumbers := s.has 'n'
    hasPlaces := s.has 'b'
    hasTab := s.has 'T'
    hasColour := s.last? '#' = some "always"
    lineEnd := if s.has 'z' then '\x00' else '\n'
    isText := s.has 'a' || s.last? '%' = some "text"
    skipsBinary := s.has 'I' || s.last? '%' = some "without-match"
    inputName := (s.last? '@').getD "(standard input)"
    isSilent := s.has 's' }

/-- The texts that options give as expressions, which stand in the words or, one on a line, in
files. -/
def patternsOf (me : String) : List (Char × Option String) → Work (List String)
  | [] => return []
  | (key, value) :: rest => do
    let text := value.getD ""
    let first ←
      if key = 'e' then pure (Text.splitAt '\n' text)
      else if key = 'f' then
        match ← contentsAt fileFd text with
        | .ok bytes => pure (linesOf bytes)
        | .error fault =>
          warn me (text ++ ": " ++ fault.text)
          Work.exit 2
      else pure []
    return first ++ (← patternsOf me rest)

/-- The files that are meant by paths: those below a directory if all of them are wanted, and none
for a directory if directories are passed over. -/
def filesOf (isDeep skipsFolders : Bool) : List String → Work (List String)
  | [] => return []
  | path :: rest => do
    let first ←
      if isDeep then filesBelow 100 path
      else match skipsFolders, ← Work.look path with
        | true, .ok .folder => pure []
        | _, _ => pure [path]
    return first ++ (← filesOf isDeep skipsFolders rest)

/-- Shows lines with a match as options say, in the files at some paths. -/
def run (me : String) (usual : Char) (s : Selection) (patterns paths : List String) :
    Work Nat := do
  let kinds := (s.options.map (·.1)).filter ['E', 'F', 'G', 'P'].contains
  let isDeep := s.has 'r' || s.has 'R' || s.last? 'd' = some "recurse"
  let (expressions, idle) := expressionsOf (ignoresCase s) (kinds.headD usual) patterns
  for operator in idle do warn me ("warning: " ++ operator ++ " at start of expression")
  let hasNames := 1 < paths.length || isDeep
  match expressions.bind fun expressions => Manner.ofOptions s expressions hasNames with
  | .error problem =>
    warn me problem
    return 2
  | .ok m =>
    let files ←
      if isDeep && paths = [] then
        let below ← filesBelow 100 "."
        pure (below.map fun path => String.ofList (path.toList.drop 2))
      else filesOf isDeep (s.last? 'd' = some "skip") (if paths = [] then ["-"] else paths)
    let (isFound, hasFailed, waiting) ← readFiles m me files []
    unless waiting = [] do put me waiting
    return if hasFailed && !(isFound && s.has 'q') then 2 else if isFound then 0 else 1

end Grep

/-- How the program for lines with a match is called. -/
def grepUsage (me : String) : Work Nat := do
  let _ ← Work.write 2 (Text.toByteList ("Usage: " ++ me ++ " [OPTION]... PATTERNS [FILE]...\n" ++
    "Try '" ++ me ++ " --help' for more information.\n"))
  return 2

/-- Shows lines with a match, given which kind of expression is usual. -/
def grepAs (usual : Char) (me : String) (args : List String) : Work Nat := do
  match selectOptions Grep.letters Grep.names true args with
  | .error fault =>
    warn me fault.message
    grepUsage me
  | .ok s =>
    let kinds := (s.options.map (·.1)).filter ['E', 'F', 'G', 'P'].contains
    if kinds.eraseDups.length > 1 then
      warn me "conflicting matchers specified"
      return 2
    else if s.has 'e' || s.has 'f' then
      Grep.run me usual s (← Grep.patternsOf me s.options) s.operands
    else match s.operands with
      | [] => grepUsage me
      | pattern :: paths => Grep.run me usual s (Text.splitAt '\n' pattern) paths

end PauseWatch.Tool
