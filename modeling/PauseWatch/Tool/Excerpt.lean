import PauseWatch.Tool.Stream

/-!
# Beginnings and ends

Programs that write the first or the last lines or bytes of files.
-/

namespace PauseWatch.Tool

open Host (Fault Work)

namespace Excerpt

/-- How the length of a part is given. -/
inductive Extent where
  /-- So much of the side that is asked for. -/
  | only (count : Nat)
  /-- All but so much of the other side. -/
  | allBut (count : Nat)
  /-- All from so much on. -/
  | since (count : Nat)
  deriving DecidableEq, Repr

/-- What part of files is written, and how. -/
structure Wish where
  /-- Whether bytes are counted, and not lines. -/
  countsBytes : Bool := false
  /-- The length of the part. -/
  extent : Extent := .only 10
  /-- Whether every part has a title; if it is not said, several have. -/
  hasTitles : Option Bool := none
  /-- The byte that ends a line. -/
  lineEnd : UInt8 := 10
  /-- Whether the end is waited for that files grow. -/
  follows : Bool := false

/-- The number of lines or bytes that a text gives, or what is wrong with it. -/
def countOf (countsBytes : Bool) (text : String) : Except String Nat :=
  match sizeOf? text with
  | some n => .ok n
  | none =>
    .error ("invalid number of " ++ (if countsBytes then "bytes" else "lines") ++ ": " ++
      quoted text)

/-- The first lines of some bytes, at most `n`, and how many are still wanted. -/
def takeLines (lineEnd : UInt8) : Nat → List UInt8 → List UInt8 → List UInt8 × Nat
  | 0, taken, _ => (taken.reverse, 0)
  | n, taken, [] => (taken.reverse, n)
  | n + 1, taken, b :: rest =>
    if b = lineEnd then takeLines lineEnd n (b :: taken) rest
    else takeLines lineEnd (n + 1) (b :: taken) rest
  termination_by n _ bytes => (bytes.length, n)

/-- How many lines some bytes are; the last one need not be ended. -/
def lineCount (lineEnd : UInt8) (bytes : List UInt8) : Nat :=
  bytes.count lineEnd + if bytes.getLast?.all (· == lineEnd) then 0 else 1

/-- The first bytes or lines of some bytes. -/
def start (w : Wish) (count : Nat) (bytes : List UInt8) : List UInt8 :=
  if w.countsBytes then bytes.take count else (takeLines w.lineEnd count [] bytes).1

/-- How many bytes or lines some bytes are. -/
def length (w : Wish) (bytes : List UInt8) : Nat :=
  if w.countsBytes then bytes.length else lineCount w.lineEnd bytes

/-- Everything but the first bytes or lines. -/
def without (w : Wish) (count : Nat) (bytes : List UInt8) : List UInt8 :=
  bytes.drop (start w count bytes).length

/-- Writes the first bytes or lines of a descriptor. Of a file, no more is read than is needed. -/
def copyStart (me : String) (w : Wish) (count fd : Nat) : Work (Except Fault Unit) := do
  if count = 0 then return .ok ()
  let isFile : Bool := match ← Work.handle fd with
    | some (.file _) => fd = 0
    | _ => false
  let rec go : Nat → Nat → List UInt8 → Work (Except Fault Unit)
    | 0, _, _ => return .ok ()
    | fuel + 1, left, waiting => do
      match ← Work.read fd (if isFile then (if w.countsBytes then left else 1) else chunkSize) with
      | .error fault => return .error fault
      | .ok [] =>
        unless waiting = [] do put me waiting
        return .ok ()
      | .ok bytes =>
        let part := start w left bytes
        let waiting ← gather me waiting part
        let left := if w.countsBytes then left - bytes.length
          else (takeLines w.lineEnd left [] bytes).2
        if left = 0 then
          unless waiting = [] do put me waiting
          return .ok ()
        else go fuel left waiting
  go patience count []

/-- All bytes of a descriptor. -/
def readAll (fd : Nat) : Work (Except Fault (List UInt8)) := do
  let chunks ← forChunks fd (fun chunks bytes => return (bytes :: chunks, true)) patience []
  return chunks.map fun chunks => chunks.reverse.flatten

/-- Does something with files, each after its title if there are titles. -/
def withTitles (me : String) (w : Wish) (paths : List String)
    (use : Nat → Work (Except Fault Unit)) : Work Nat := do
  let hasTitles := w.hasTitles.getD (1 < paths.length)
  let nameOf (path : String) : String := if path = "-" then "standard input" else path
  let rec go (isFirst : Bool) (status : Nat) : List String → Work Nat
    | [] => return status
    | path :: rest => do
      let fault ← withFile path fun fd => do
        if hasTitles then
          print me ((if isFirst then "" else "\n") ++ "==> " ++ nameOf path ++ " <==\n")
        return .ok (← use fd)
      match fault with
      | .ok (.ok ()) => go false status rest
      | .ok (.error fault) =>
        warn me ("error reading " ++ shellQuoted (nameOf path) ++ ": " ++ fault.text)
        go false 1 rest
      | .error fault =>
        warn me (asUnopened path fault)
        go isFirst 1 rest
  go true 0 (if paths = [] then ["-"] else paths)

/-- What a word of digits and letters after a sign says. -/
def ofOldWord? (letters : List Char) (word : List Char) (extent : Nat → Extent) : Option Wish :=
  let digits := word.takeWhile Char.isDigit
  let rest := word.drop digits.length
  if digits = [] || rest.any fun c => !letters.contains c then none
  else
    let unit := if rest.contains 'b' then 512 else if rest.contains 'k' then 1024
      else if rest.contains 'm' then 1048576 else 1
    some {
      countsBytes := unit ≠ 1 || rest.contains 'c'
      extent := extent (Text.digitsValue 10 digits * unit)
      hasTitles := if rest.contains 'q' then some false
        else if rest.contains 'v' then some true else none
      lineEnd := if rest.contains 'z' then 0 else 10
      follows := rest.contains 'f' }

/-- Changes a wish as options say. -/
def Wish.withOptions (w : Wish) (s : Selection) (extentOf : String → Bool → Except String Extent) :
    Except String Wish := do
  let last := (s.options.filter fun (key, _) => key = 'n' || key = 'c').getLast?
  let w ← match last with
    | some (key, some text) =>
      pure { w with countsBytes := key = 'c', extent := ← extentOf text (key = 'c') }
    | _ => pure w
  return { w with
    hasTitles := (s.lastOf ['q', 'v']).elim w.hasTitles fun key => some (key = 'v')
    lineEnd := if s.has 'z' then 0 else w.lineEnd
    follows := w.follows || s.has 'f' || s.has 'F' }

/-- The names of the options. -/
def names : List (String × Char) :=
  [("bytes:", 'c'), ("lines:", 'n'), ("quiet", 'q'), ("silent", 'q'), ("verbose", 'v'),
    ("zero-terminated", 'z')]

end Excerpt

open Excerpt in
/-- Writes the first bytes or lines of files. -/
def head (me : String) (args : List String) : Work Nat := do
  let (w, args) : Wish × List String := match args with
    | first :: rest => match first.toList with
      | '-' :: word =>
        match ofOldWord? ['c', 'b', 'k', 'm', 'l', 'q', 'v', 'z'] word .only with
        | some w => (w, rest)
        | none => ({}, args)
      | _ => ({}, args)
    | [] => ({}, args)
  withOptions me "c:n:qvz" names true 1 args fun s => do
    let extentOf (text : String) (countsBytes : Bool) : Except String Extent :=
      match text.toList with
      | '-' :: digits => (Excerpt.countOf countsBytes (String.ofList digits)).map .allBut
      | '+' :: digits => (Excerpt.countOf countsBytes (String.ofList digits)).map .only
      | _ => (Excerpt.countOf countsBytes text).map .only
    match w.withOptions s extentOf with
    | .error problem =>
      warn me problem
      return 1
    | .ok w =>
      withTitles me w s.operands fun fd => do
        match w.extent with
        | .only n => copyStart me w n fd
        | .allBut n | .since n =>
          match ← readAll fd with
          | .error fault => return .error fault
          | .ok bytes =>
            put me (start w (length w bytes - n) bytes)
            return .ok ()

open Excerpt in
/-- Writes the last bytes or lines of files. -/
def tail (me : String) (args : List String) : Work Nat := do
  let letters := ['c', 'b', 'l', 'f']
  let (w, args) : Wish × List String := match args with
    | first :: rest => match first.toList with
      | '-' :: word => match ofOldWord? letters word .only with
        | some w => (w, rest)
        | none => ({}, args)
      | '+' :: word => match ofOldWord? letters word .since with
        | some w => (w, rest)
        | none => ({}, args)
      | _ => ({}, args)
    | [] => ({}, args)
  let more := [("follow::", 'f'), ("pid:", 'p'), ("retry", 'r'), ("sleep-interval:", 's')]
  withOptions me "c:n:fFqs:vz" (names ++ more) true 1 args fun s => do
    let extentOf (text : String) (countsBytes : Bool) : Except String Extent :=
      match text.toList with
      | '-' :: digits => (Excerpt.countOf countsBytes (String.ofList digits)).map .only
      | '+' :: digits => (Excerpt.countOf countsBytes (String.ofList digits)).map .since
      | _ => (Excerpt.countOf countsBytes text).map .only
    match w.withOptions s extentOf with
    | .error problem =>
      warn me problem
      return 1
    | .ok w =>
      let status ← withTitles me w s.operands fun fd => do
        match ← readAll fd with
        | .error fault => return .error fault
        | .ok bytes =>
          put me (match w.extent with
            | .only n => without w (length w bytes - n) bytes
            | .allBut n | .since n => without w (n - 1) bytes)
          return .ok ()
      if w.follows && s.operands.any (· ≠ "-") then
        if status ≠ 0 && s.operands.length = 1 then
          warn me "no files remaining"
          return 1
        Work.pause (Nat.pow 10 15)
      return status

end PauseWatch.Tool
