import PauseWatch.Host.SearchPath
import PauseWatch.Tool.Folder

/-!
# Paths

Where links lead, what a path comes to without links, where a program is found, and paths for new
files.
-/

namespace PauseWatch.Tool

open Host (Fault Variables Work)

/-- What a path must lead to. -/
inductive Existence where
  /-- Something. -/
  | whole
  /-- A directory in which something is or could be. -/
  | parents
  /-- Anything. -/
  | nothing
  deriving DecidableEq, Repr

/-- The path to the same place without links. -/
def canonical (needs : Existence) (path : String) : Work (Except Fault String) := do
  match ← Work.place path with
  | .ok place =>
    if needs = .whole then
      match ← Work.look path with
      | .ok _ => return .ok place.text
      | .error fault => return .error fault
    else return .ok place.text
  | .error fault =>
    if needs ≠ .nothing || path = "" then return .error fault
    else
      let here ← Work.here
      let start := if path.startsWith "/" then [] else here
      let names := (Text.splitAt '/' path).foldl (fun names name =>
        if name = "" || name = "." then names
        else if name = ".." then names.dropLast else names ++ [name]) start
      return .ok (Host.Place.text names)

/-- Shows where links lead, or paths without links. -/
def readlink (me : String) (args : List String) : Work Nat :=
  let names := [("canonicalize", 'f'), ("canonicalize-existing", 'e'),
    ("canonicalize-missing", 'm'), ("no-newline", 'n'), ("quiet", 'q'), ("silent", 's'),
    ("verbose", 'v'), ("zero", 'z')]
  withOptions me "efmnqsvz" names true 1 args fun s => do
    if s.operands = [] then usage me "missing operand" 1
    else
      let lineEnd := if s.has 'z' then "\x00" else "\n"
      let lineEnd := if s.has 'n' && s.operands.length = 1 then "" else lineEnd
      forPaths (fun path => do
        let result ← match s.lastOf ['f', 'e', 'm'] with
          | some 'f' => canonical .parents path
          | some 'e' => canonical .whole path
          | some _ => canonical .nothing path
          | none =>
            match ← Work.peek path with
            | .ok (.link target) => pure (.ok target)
            | .ok _ => pure (.error .invalid)
            | .error fault => pure (.error fault)
        match result with
        | .ok text =>
          print me (text ++ lineEnd)
          return 0
        | .error fault =>
          if s.has 'v' then warn me (plainly path fault)
          return 1) s.operands

/-- Shows paths without links. -/
def realpath (me : String) (args : List String) : Work Nat :=
  let names := [("canonicalize-existing", 'e'), ("canonicalize-missing", 'm'), ("no-symlinks", 's'),
    ("strip", 's'), ("logical", 'L'), ("physical", 'P'), ("quiet", 'q'), ("zero", 'z')]
  withOptions me "eLmPqsz" names true 1 args fun s => do
    if s.operands = [] then usage me "missing operand" 1
    else
      let needs : Existence := match s.lastOf ['e', 'm'] with
        | some 'e' => .whole
        | some _ => .nothing
        | none => .parents
      forPaths (fun path => do
        match ← canonical needs path with
        | .ok text =>
          print me (text ++ if s.has 'z' then "\x00" else "\n")
          return 0
        | .error fault => if s.has 'q' then return 1 else failWith me (plainly path fault))
        s.operands

/-- Makes a file or a directory with a name that nothing has. -/
def mktemp (me : String) (args : List String) : Work Nat :=
  let names := [("directory", 'd'), ("quiet", 'q'), ("dry-run", 'u'), ("suffix:", 'S'),
    ("tmpdir::", 'p')]
  withOptions me "dp:qtuV" names true 1 args fun s => do
    match s.operands with
    | _ :: _ :: _ => usage me "too many templates" 1
    | words =>
      let template := words.headD "tmp.XXXXXXXXXX"
      let chars := template.toList
      let suffix := chars.reverse.takeWhile (· != 'X')
      let marks := (chars.reverse.drop suffix.length).takeWhile (· = 'X')
      if marks.length < 3 then
        failWith me ("too few X's in template " ++ quoted template)
      else
        let self ← Work.identity
        let digits := (toString (self.pid * 7919 + 1000003)).toList
        let filled := (List.replicate marks.length 'k' ++ digits).reverse.take marks.length
        let lead := chars.take (chars.length - suffix.length - marks.length)
        let name := String.ofList (lead ++ filled ++ suffix.reverse)
        let folder := if s.has 'p' then (s.last? 'p').getD "/tmp" else "/tmp"
        let path := if words = [] || s.has 'p' || s.has 't' then join folder name else name
        let shown := if words = [] || s.has 'p' || s.has 't' then join folder template else template
        let fault : Option Fault ← do
          if s.has 'u' then pure none
          else if s.has 'd' then Work.makeFolder path
          else Work.make path (.file [] false)
        match fault with
        | none =>
          print me (path ++ "\n")
          return 0
        | some fault =>
          failWith me ("failed to create " ++ (if s.has 'd' then "directory" else "file")
            ++ " via template " ++ quoted shown ++ ": " ++ fault.text)

/-- Shows where programs are found. -/
def which (me : String) (args : List String) (vars : Variables) : Work Nat := do
  let all := args.head? = some "-a"
  let words := if all then args.tail else args
  let folders := (vars.lookup "PATH").getD Host.usualPath
  if words = [] then return 1
  forPaths (fun name => do
    let mut found : List String := []
    for path in Host.candidates (some folders) name do
      if all || found = [] then
        match ← Work.look path with
        | .ok item => if item.isProgram then found := found ++ [path]
        | .error _ => pure ()
    unless found = [] do print me (unlines found)
    return if found = [] then 1 else 0) words

end PauseWatch.Tool
