import PauseWatch.Host.Program
import PauseWatch.Text.Bytes
import PauseWatch.Text.Reading
import PauseWatch.Tool.Options
import PauseWatch.Tool.Quote

/-!
# Programs that pass bytes on

Programs that read files or their input and write what they make of them.
-/

namespace PauseWatch.Tool

open Host (Fault Handle Work)

/-- How often anything is repeated at most. -/
def patience : Nat := 1000000000

/-- How many bytes are read at once. -/
def chunkSize : Nat := 65536

/-- The descriptor at which programs open files. -/
def fileFd : Nat := 3

/-- Writes a message of a program. -/
def warn (me message : String) : Work Unit := do
  let _ ← Work.write 2 (Text.toByteList (me ++ ": " ++ message ++ "\n"))

/-- Writes a message and the hint that goes with it, and gives a status. -/
def usage (me message : String) (status : Nat) : Work Nat := do
  warn me (message ++ "\nTry '" ++ me ++ " --help' for more information.")
  return status

/-- Writes bytes to the standard output. If that fails, the program says so and ends. -/
def put (me : String) (bytes : List UInt8) : Work Unit := do
  match ← Work.write 1 bytes with
  | none => return ()
  | some fault =>
    warn me ("write error: " ++ fault.text)
    Work.exit 1

/-- Writes a text to the standard output. -/
def print (me text : String) : Work Unit := put me (Text.toByteList text)

/-- How many bytes are written at once by programs that gather what they write. -/
def blockSize : Nat := 4096

/-- Gathers bytes behind those that wait, and writes them when a block is full; what waits still is
given back. -/
def gather (me : String) (waiting bytes : List UInt8) : Work (List UInt8) := do
  let bytes := if waiting = [] then bytes else waiting ++ bytes
  let whole := bytes.length / blockSize * blockSize
  if whole = 0 then return bytes
  put me (bytes.take whole)
  return bytes.drop whole

/-- Takes the words of a program apart, and goes on with them; if they make no sense, says so and
gives a status. -/
def withOptions (me letters : String) (names : List (String × Char)) (goesOn : Bool)
    (status : Nat) (args : List String) (use : Selection → Work Nat) : Work Nat :=
  match selectOptions letters names goesOn args with
  | .error fault => usage me fault.message status
  | .ok s => use s

/-- How it is said that a file cannot be read. -/
abbrev Complaint := String → Fault → String

/-- The path and the reason. -/
def plainly : Complaint := fun path fault => shellNamed path ++ ": " ++ fault.text

/-- The path, that it cannot be opened, and the reason. -/
def asUnopened : Complaint := fun path fault =>
  "cannot open " ++ shellQuoted path ++ " for reading: " ++ fault.text

/-- Reads a descriptor to its end, a chunk at a time, for as long as that is wanted. -/
def forChunks {σ : Type} (fd : Nat) (use : σ → List UInt8 → Work (σ × Bool)) :
    Nat → σ → Work (Except Fault σ)
  | 0, s => return .ok s
  | fuel + 1, s => do
    match ← Work.read fd chunkSize with
    | .error fault => return .error fault
    | .ok [] => return .ok s
    | .ok bytes =>
      match ← use s bytes with
      | (s, true) => forChunks fd use fuel s
      | (s, false) => return .ok s

/-- Does something with a file that is opened for it at a descriptor, or with the input if a hyphen
names it. -/
def withFileAt {α : Type} (fd : Nat) (path : String) (use : Nat → Work (Except Fault α)) :
    Work (Except Fault α) := do
  if path = "-" then use 0
  else match ← Work.openFile path .read with
    | .error fault => return .error fault
    | .ok handle =>
      Work.attach fd (some handle)
      let result ← use fd
      Work.attach fd none
      return result

/-- Does something with a file that is opened for it, or with the input if a hyphen names it. -/
def withFile {α : Type} (path : String) (use : Nat → Work (Except Fault α)) :
    Work (Except Fault α) := withFileAt fileFd path use

/-- Does something with every file that is named, or with the input if none is, and gives the
status. A file that cannot be read is passed over. -/
def forFiles {σ : Type} (me : String) (complaint : Complaint)
    (use : String → Nat → σ → Work (Except Fault σ)) : Bool → List String → σ → Work (Nat × σ)
  | true, [], s => forFiles me complaint use false ["-"] s
  | false, [], s => return (0, s)
  | _, path :: rest, s => do
    match ← withFile path fun fd => use path fd s with
    | .ok s => forFiles me complaint use false rest s
    | .error fault =>
      warn me (complaint path fault)
      let (_, s) ← forFiles me complaint use false rest s
      return (1, s)
  termination_by isFirst paths => 2 * paths.length + (if isFirst then 3 else 0)
  decreasing_by all_goals simp_all <;> omega

/-- All bytes of a file, which is opened at a descriptor, or of the input. -/
def contentsAt (fd : Nat) (path : String) : Work (Except Fault (List UInt8)) := do
  let chunks ← withFileAt fd path fun fd =>
    forChunks fd (fun chunks bytes => return (bytes :: chunks, true)) patience []
  return chunks.map fun chunks => chunks.reverse.flatten

/-- Copies a descriptor to the standard output. -/
def copyOut (me : String) (fd : Nat) : Work (Except Fault Unit) :=
  forChunks fd (fun _ bytes => do
    put me bytes
    return ((), true)) patience ()

/-- All bytes of files or of the input, with the status. -/
def readFiles (me : String) (complaint : Complaint) (paths : List String) :
    Work (Nat × List UInt8) := do
  let (status, chunks) ← forFiles me complaint (fun _ fd (chunks : List (List UInt8)) =>
    forChunks fd (fun chunks bytes => return (bytes :: chunks, true)) patience chunks) true paths []
  return (status, chunks.reverse.flatten)

/-- Cuts characters into lines; those found so far and the characters of the line that was begun
stand last first. -/
def linesFrom (lines : List String) (line : List Char) : List Char → List String
  | [] => (if line = [] then lines else String.ofList line.reverse :: lines).reverse
  | c :: rest =>
    if c = '\n' then linesFrom (String.ofList line.reverse :: lines) [] rest
    else linesFrom lines (c :: line) rest

/-- The lines of a text, without the ends of lines. -/
def linesOf (bytes : List UInt8) : List String :=
  linesFrom [] [] (bytes.map fun b => Char.ofNat b.toNat)

/-- Lines as a text. -/
def unlines (lines : List String) : String := String.join (lines.map (· ++ "\n"))

/-- What stays while lines are taken one by one: what the taker keeps, the line that was begun with
its last character first, and what waits to be written. -/
structure Feed (σ : Type) where
  /-- What the taker keeps. -/
  kept : σ
  /-- The line that was begun. -/
  begun : List Char := []
  /-- What waits to be written. -/
  waiting : List UInt8 := []

/-- Takes the whole lines at the start of some characters, and collects what is said to them, the
last first. -/
def feedLines {σ : Type} (lineEnd : Char) (take : σ → String → σ × String) :
    List Char → List Char → σ → List String → List Char × σ × List String
  | begun, [], s, said => (begun, s, said)
  | begun, c :: rest, s, said =>
    if c = lineEnd then
      let (s, more) := take s (String.ofList begun.reverse)
      feedLines lineEnd take [] rest s (if more = "" then said else more :: said)
    else feedLines lineEnd take (c :: begun) rest s said

/-- Takes the lines of files one by one and writes what is said to them. What follows the last end
of a line in a file is a line too. The status stands beside what is kept in the end. -/
def forLines {σ : Type} (me : String) (complaint : Complaint) (lineEnd : Char)
    (take : σ → String → σ × String) (paths : List String) (s : σ) : Work (Nat × σ) := do
  let (status, feed) ← forFiles me complaint (fun _ fd (feed : Feed σ) => do
    let result ← forChunks fd (fun (feed : Feed σ) bytes => do
      let chars := bytes.map fun b => Char.ofNat b.toNat
      let (begun, kept, said) := feedLines lineEnd take feed.begun chars feed.kept []
      let waiting ← gather me feed.waiting (Text.toByteList (String.join said.reverse))
      return (({ kept, begun, waiting } : Feed σ), true)) patience feed
    match result with
    | .error fault => return .error fault
    | .ok feed =>
      if feed.begun = [] then return .ok feed
      let (kept, said) := take feed.kept (String.ofList feed.begun.reverse)
      return .ok ({ kept, waiting := ← gather me feed.waiting (Text.toByteList said) } : Feed σ))
    true paths { kept := s }
  unless feed.waiting = [] do put me feed.waiting
  return (status, feed.kept)

/-- A number with a letter for its unit. -/
def sizeOf? (text : String) : Option Nat :=
  let chars := text.toList
  let digits := chars.takeWhile Char.isDigit
  let letters := ['k', 'm', 'G', 'T', 'P', 'E', 'Z', 'Y']
  let unit? (unit : List Char) : Option Nat := match unit with
    | [] => some 1
    | ['b'] => some 512
    | letter :: rest =>
      let letter := if letter = 'K' then 'k' else if letter = 'M' then 'm' else letter
      if !letters.contains letter then none
      else
        let power := letters.idxOf letter + 1
        match rest with
        | [] | ['i', 'B'] => some (Nat.pow 1024 power)
        | ['B'] => some (Nat.pow 1000 power)
        | _ => none
  if digits = [] then none
  else (unit? (chars.drop digits.length)).map (Text.digitsValue 10 digits * ·)

end PauseWatch.Tool
