import PauseWatch.Tool.Stream

/-!
# Counts

A program that counts the lines, words and characters of files.
-/

namespace PauseWatch.Tool

open Host (Fault Work)

namespace Count

/-- What is counted. -/
structure Counts where
  /-- Ends of lines. -/
  lines : Nat := 0
  /-- Words. -/
  words : Nat := 0
  /-- Characters. -/
  chars : Nat := 0
  /-- The greatest length of a line. -/
  longest : Nat := 0
  deriving DecidableEq, Repr

/-- The counts of two texts together. -/
def Counts.add (a b : Counts) : Counts :=
  ⟨a.lines + b.lines, a.words + b.words, a.chars + b.chars, max a.longest b.longest⟩

/-- The counts so far, whether a word was begun, and the length of the line that was begun. -/
structure Progress where
  /-- The counts. -/
  counts : Counts := {}
  /-- Whether a word was begun. -/
  isInWord : Bool := false
  /-- The length of the line. -/
  column : Nat := 0

/-- Counts one more byte. Words are made of visible characters; invisible ones neither start them
nor end them. -/
def Progress.step (p : Progress) (byte : UInt8) : Progress :=
  let b := byte.toNat
  let c := { p.counts with chars := p.counts.chars + 1 }
  let ended : Progress :=
    { counts := { c with longest := max c.longest p.column }, isInWord := false, column := 0 }
  if b = 10 then { ended with counts := { ended.counts with lines := c.lines + 1 } }
  else if b = 12 || b = 13 then ended
  else if b = 9 then { counts := c, isInWord := false, column := (p.column / 8 + 1) * 8 }
  else if b = 32 then { counts := c, isInWord := false, column := p.column + 1 }
  else if b = 11 then { counts := c, isInWord := false, column := p.column }
  else if 32 < b && b < 127 then
    { counts := { c with words := if p.isInWord then c.words else c.words + 1 }
      isInWord := true, column := p.column + 1 }
  else { p with counts := c }

/-- The counts of a whole text. -/
def Progress.done (p : Progress) : Counts :=
  { p.counts with longest := max p.counts.longest p.column }

/-- What was found in a file: its counts, and its size if it is an ordinary one. -/
structure Found where
  /-- The name to show. -/
  name : Option String
  /-- The counts. -/
  counts : Counts
  /-- Whether the file is an ordinary one. -/
  isOrdinary : Bool

/-- The names of the options. -/
def names : List (String × Char) :=
  [("bytes", 'c'), ("chars", 'm'), ("lines", 'l'), ("words", 'w'), ("debug", '!'),
    ("files0-from:", 'f'), ("max-line-length", 'L'), ("total:", 't')]

/-- The counts that are shown, in a fixed order. -/
def shown (s : Selection) (c : Counts) : List Nat :=
  let isPlain := !(['c', 'm', 'l', 'w', 'L'].any s.has)
  (if isPlain || s.has 'l' then [c.lines] else []) ++ (if isPlain || s.has 'w' then [c.words] else [])
    ++ (if s.has 'm' then [c.chars] else []) ++ (if isPlain || s.has 'c' then [c.chars] else [])
    ++ if s.has 'L' then [c.longest] else []

/-- Counts what is in files; those that cannot be opened are passed over. -/
def countFiles (me : String) (isNamed : Bool) : List String → Work (List Found × Bool)
  | [] => return ([], true)
  | path :: rest => do
    let found ← withFile path fun fd => do
      let isOrdinary := match ← Work.handle fd with
        | some (.file _) => true
        | _ => false
      let result ← forChunks fd
        (fun (p : Progress) bytes => return (bytes.foldl Progress.step p, true)) patience {}
      match result with
      | .ok p => return .ok (⟨if isNamed then some path else none, p.done, isOrdinary⟩, true)
      | .error fault =>
        warn me (shellNamed path ++ ": " ++ fault.text)
        return .ok (⟨some path, {}, isOrdinary⟩, false)
    match found with
    | .ok (found, isWhole) =>
      let (more, isRestWhole) ← countFiles me isNamed rest
      return (found :: more, isWhole && isRestWhole)
    | .error fault =>
      warn me (shellNamed path ++ ": " ++ fault.text)
      let (more, _) ← countFiles me isNamed rest
      return (more, false)

/-- The width of the columns. -/
def width (columns operands : Nat) (found : List Found) : Nat :=
  if operands ≤ 1 && columns = 1 then 1
  else
    let total := ((found.filter (·.isOrdinary)).map (·.counts.chars)).foldl (· + ·) 0
    max (toString total).length (if found.all (·.isOrdinary) then 1 else 7)

end Count

open PauseWatch.Tool.Count in
/-- Counts lines, words and bytes. -/
def wc (me : String) (args : List String) : Work Nat :=
  withOptions me "clLmw" names true 1 args fun s => do
    let paths := s.operands
    let (found, isWhole) ← countFiles me (paths ≠ []) (if paths = [] then ["-"] else paths)
    let columns := (shown s {}).length
    let total := (found.map (·.counts)).foldl Counts.add {}
    let mode := (s.last? 't').getD "auto"
    let width := if mode = "only" then 1 else width columns paths.length found
    let line (c : Counts) (name : Option String) : String :=
      let pad (n : Nat) : String :=
        let text := toString n
        String.ofList (List.replicate (width - text.length) ' ') ++ text
      " ".intercalate ((shown s c).map pad) ++ name.elim "" (" " ++ ·) ++ "\n"
    let lines := if mode = "only" then [] else found.map fun f => line f.counts f.name
    let hasTotal := mode = "always" || mode = "only" || (mode = "auto" && 1 < paths.length)
    let last := if !hasTotal then [] else [line total (if mode = "only" then none else some "total")]
    print me (String.join (lines ++ last))
    return if isWhole then 0 else 1

end PauseWatch.Tool
