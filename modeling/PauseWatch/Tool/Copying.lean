import PauseWatch.Tool.Stream

/-!
# Copies

Programs that copy their input or files, as they are or with their invisible characters shown.
-/

namespace PauseWatch.Tool

open Host (Fault Work)

namespace Copying

/-- What is shown of the characters that are copied. -/
structure Shown where
  /-- Whether lines are numbered. -/
  hasNumbers : Bool := false
  /-- Whether empty lines are not numbered. -/
  skipsEmpty : Bool := false
  /-- Whether the ends of lines are shown. -/
  hasEnds : Bool := false
  /-- Whether repeated empty lines are left out. -/
  isSqueezed : Bool := false
  /-- Whether tabs are shown. -/
  hasTabs : Bool := false
  /-- Whether other invisible characters are shown. -/
  hasControls : Bool := false
  deriving DecidableEq

/-- Where in a text a copy is. -/
structure Place where
  /-- How many lines were numbered. -/
  number : Nat := 0
  /-- Whether a line starts. -/
  startsLine : Bool := true
  /-- Whether the line before was empty. -/
  isAfterEmpty : Bool := false
  /-- Whether a carriage return has still to be shown. -/
  hasReturn : Bool := false

/-- The number of a line, in its column. -/
def numbered (n : Nat) : List Char :=
  let digits := (toString n).toList
  List.replicate (6 - digits.length) ' ' ++ digits ++ ['\t']

/-- How a byte is shown. -/
def showByte (shown : Shown) (b : Nat) : List Char :=
  let low (b : Nat) : List Char :=
    if b = 127 then ['^', '?'] else if b < 32 then ['^', Char.ofNat (b + 64)] else [Char.ofNat b]
  if b = 9 then if shown.hasTabs then ['^', 'I'] else ['\t']
  else if !shown.hasControls then [Char.ofNat b]
  else if 128 ≤ b then ['M', '-'] ++ low (b - 128)
  else low b

/-- Shows bytes from a place on; what is shown is collected, the last first. -/
def showBytes (shown : Shown) : Place → List UInt8 → List (List Char) → Place × List (List Char)
  | p, [], pieces => (p, pieces)
  | p, b :: rest, pieces =>
    let isReturn := b = 13 && shown.hasEnds && !shown.hasControls
    let pieces := if !p.hasReturn then pieces
      else (if b = 10 then ['^', 'M'] else ['\r']) :: pieces
    let lead := p.startsLine && shown.hasNumbers && !(b = 10 && shown.skipsEmpty)
    let isEmpty := b = 10 && p.startsLine
    if isEmpty && shown.isSqueezed && p.isAfterEmpty then
      showBytes shown { p with hasReturn := false } rest pieces
    else
      let number := if lead then p.number + 1 else p.number
      let pieces := if lead then numbered number :: pieces else pieces
      let body :=
        if b = 10 then (if shown.hasEnds then ['$', '\n'] else ['\n'])
        else if isReturn then [] else showByte shown b.toNat
      let p := { number, startsLine := b = 10, isAfterEmpty := isEmpty, hasReturn := isReturn }
      showBytes shown p rest (body :: pieces)

/-- The names of the options. -/
def names : List (String × Char) :=
  [("number-nonblank", 'b'), ("number", 'n'), ("squeeze-blank", 's'), ("show-nonprinting", 'v'),
    ("show-ends", 'E'), ("show-tabs", 'T'), ("show-all", 'A'), ("help", '?'), ("version", '!')]

end Copying

/-- Writes files one after the other. -/
def cat (me : String) (args : List String) : Work Nat :=
  withOptions me "benstuvAET" Copying.names true 1 args fun s => do
    let has (keys : List Char) : Bool := keys.any s.has
    let shown : Copying.Shown := {
      hasNumbers := has ['n', 'b']
      skipsEmpty := has ['b']
      hasEnds := has ['e', 'E', 'A']
      isSqueezed := has ['s']
      hasTabs := has ['t', 'T', 'A']
      hasControls := has ['v', 'e', 't', 'A'] }
    if shown = {} then
      return (← forFiles me plainly (fun _ fd (_ : Unit) => copyOut me fd) true s.operands ()).1
    else
      let (status, place) ← forFiles me plainly (fun _ fd (p : Copying.Place) =>
        forChunks fd (fun p bytes => do
          let (p, pieces) := Copying.showBytes shown p bytes []
          print me (String.ofList pieces.reverse.flatten)
          return (p, true)) patience p) true s.operands {}
      if place.hasReturn then print me "\r"
      return status

/-- Writes its input to the standard output and to files. -/
def tee (me : String) (args : List String) : Work Nat :=
  let names := [("append", 'a'), ("ignore-interrupts", 'i'), ("output-error::", 'o')]
  withOptions me "aip" names true 1 args fun s => do
    let access : Host.Access := if s.has 'a' then .append else .write
    let rec openAll (fd : Nat) : List String → Work (List (Nat × String))
      | [] => return []
      | path :: rest => do
        match ← Work.openFile path access with
        | .ok handle =>
          Work.attach fd (some handle)
          return (fd, path) :: (← openAll (fd + 1) rest)
        | .error fault =>
          warn me (shellNamed path ++ ": " ++ fault.text)
          openAll fd rest
    let targets ← openAll fileFd s.operands
    let rec writeAll (bytes : List UInt8) : List (Nat × String) → Work (List (Nat × String))
      | [] => return []
      | (fd, path) :: rest => do
        match ← Work.write fd bytes with
        | none => return (fd, path) :: (← writeAll bytes rest)
        | some fault =>
          warn me (shellNamed path ++ ": " ++ fault.text)
          writeAll bytes rest
    let all := (1, "standard output") :: targets
    let left ← forChunks 0 (fun (targets : List (Nat × String)) bytes => do
      let targets ← writeAll bytes targets
      return (targets, targets ≠ [])) patience all
    let isWhole : Bool := match left with
      | .ok left => left.length = s.operands.length + 1
      | .error _ => false
    return if isWhole then 0 else 1

/-! ## Blocks -/

/-- How a copy in blocks is made. -/
structure Blocks where
  /-- The file to read; the input if none is named. -/
  source : Option String := none
  /-- The file to write; the output if none is named. -/
  target : Option String := none
  /-- The bytes of a block that is read. -/
  size : Nat := 512
  /-- How many blocks are copied at most. -/
  count : Option Nat := none
  /-- How many blocks are passed over at the start. -/
  skipped : Nat := 0
  /-- What is reported. -/
  report : String := ""
  /-- What else is wanted. -/
  wishes : List String := []

/-- Reads the words that say how a copy is made; or says what is wrong with one of them. -/
def Blocks.ofArgs (b : Blocks) : List String → Except (String × Bool) Blocks
  | [] => .ok b
  | arg :: rest =>
    let chars := arg.toList
    let value := String.ofList ((chars.dropWhile (· != '=')).drop 1)
    let name := String.ofList (chars.takeWhile (· != '='))
    let number : Except (String × Bool) Nat := match sizeOf? value with
      | some n => .ok n
      | none => .error ("invalid number: " ++ shellQuoted value, false)
    let positive : Except (String × Bool) Nat := match sizeOf? value with
      | some 0 | none => .error ("invalid number: " ++ shellQuoted value, false)
      | some n => .ok n
    match name with
    | "if" => Blocks.ofArgs { b with source := some value } rest
    | "of" => Blocks.ofArgs { b with target := some value } rest
    | "bs" | "ibs" => do Blocks.ofArgs { b with size := ← positive } rest
    | "obs" | "cbs" => do
      let _ ← positive
      Blocks.ofArgs b rest
    | "count" => do Blocks.ofArgs { b with count := some (← number) } rest
    | "skip" | "iseek" => do Blocks.ofArgs { b with skipped := ← number } rest
    | "conv" | "iflag" | "oflag" =>
      Blocks.ofArgs { b with wishes := b.wishes ++ Text.splitAt ',' value } rest
    | "status" => Blocks.ofArgs { b with report := value } rest
    | _ => .error ("unrecognized operand " ++ quoted arg, true)

/-- Changes the bytes of a block as is wished. -/
def Blocks.change (b : Blocks) (bytes : List UInt8) : List UInt8 :=
  let by_ (wish : String) (f : Char → Char) (bytes : List UInt8) : List UInt8 :=
    if b.wishes.contains wish then bytes.map fun c => UInt8.ofNat (f (Char.ofNat c.toNat)).toNat
    else bytes
  let bytes := by_ "ucase" Char.toUpper (by_ "lcase" Char.toLower bytes)
  if b.wishes.contains "sync" then bytes ++ List.replicate (b.size - bytes.length) 0 else bytes

/-- Reads a block, all of it if that is wished and possible. -/
def Blocks.read (b : Blocks) : Nat → List UInt8 → Work (List UInt8)
  | 0, bytes => return bytes
  | fuel + 1, bytes => do
    match ← Work.read fileFd (b.size - bytes.length) with
    | .error _ | .ok [] => return bytes
    | .ok more =>
      let bytes := bytes ++ more
      if b.wishes.contains "fullblock" && bytes.length < b.size then b.read fuel bytes
      else return bytes

/-- Copies blocks, and counts those that were full and those that were not, and the bytes. -/
def copyBlocks (b : Blocks) : Nat → Nat × Nat × Nat → Work (Nat × Nat × Nat)
  | 0, counts => return counts
  | fuel + 1, (full, part, total) => do
    match ← b.read b.size [] with
    | [] => return (full, part, total)
    | bytes =>
      let isFull := bytes.length = b.size
      let bytes := b.change bytes
      let total := total + bytes.length
      let counts := if isFull then (full + 1, part, total) else (full, part + 1, total)
      match ← Work.write (fileFd + 1) bytes with
      | none => copyBlocks b fuel counts
      | some _ => return counts

/-- Makes a descriptor stand for a file that is named, or else for what another one stands for. -/
def attachFile (fd usual : Nat) (access : Host.Access) : Option String → Work (Option Fault)
  | none => do
    Work.attach fd (← Work.handle usual)
    return none
  | some path => do
    match ← Work.openFile path access with
    | .ok handle =>
      Work.attach fd (some handle)
      return none
    | .error fault => return some fault

/-- Passes over blocks. -/
def skipBlocks (b : Blocks) : Nat → Work Unit
  | 0 => return ()
  | n + 1 => do
    match ← b.read b.size [] with
    | [] => return ()
    | _ => skipBlocks b n

/-- Copies a file block by block. -/
def dd (me : String) (args : List String) : Work Nat := do
  match ({} : Blocks).ofArgs (args.filter (· ≠ "--")) with
  | .error (message, true) => usage me message 1
  | .error (message, false) =>
    warn me message
    return 1
  | .ok b =>
    let failed (path : Option String) (fault : Fault) : Work Nat := do
      warn me ("failed to open " ++ shellQuoted (path.getD "") ++ ": " ++ fault.text)
      return 1
    match ← attachFile fileFd 0 .read b.source with
    | some fault => failed b.source fault
    | none =>
      match ← attachFile (fileFd + 1) 1 .write b.target with
      | some fault => failed b.target fault
      | none =>
        skipBlocks b b.skipped
        let (full, part, _) ← copyBlocks b (b.count.getD patience) (0, 0, 0)
        let records := toString full ++ "+" ++ toString part ++ " records "
        if b.report != "none" then
          let _ ← Work.write 2 (Text.toByteList (records ++ "in\n" ++ records ++ "out\n"))
        return 0

end PauseWatch.Tool
