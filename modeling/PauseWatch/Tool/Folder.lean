import PauseWatch.Tool.Mode
import PauseWatch.Tool.Stream

/-!
# Programs that make files and directories

Programs that show the working directory, create files and directories, and remove directories that
are empty.
-/

namespace PauseWatch.Tool

open Host (Fault Work)

/-- Shows the working directory. -/
def pwd (me : String) : Work Nat := do
  print me ((← Work.here).text ++ "\n")
  return 0

/-- Does something with every path, and gives the worst status. -/
def forPaths (use : String → Work Nat) : List String → Work Nat
  | [] => return 0
  | path :: rest => do
    let status ← use path
    return max status (← forPaths use rest)

/-- Says what is wrong, and gives the status of a failure. -/
def failWith (me message : String) : Work Nat := do
  warn me message
  return 1

/-- Says what is wrong if something is, and gives the status. -/
def reportAt (me : String) (fault : Option Fault) (message : Fault → String) : Work Nat :=
  match fault with
  | none => return 0
  | some fault => failWith me (message fault)

/-- A path with a name behind it. -/
def join (path name : String) : String :=
  if path.endsWith "/" then path ++ name else path ++ "/" ++ name

/-- Creates files that are missing. -/
def touch (me : String) (args : List String) : Work Nat :=
  let names := [("time:", 'T'), ("no-create", 'c'), ("date:", 'd'), ("reference:", 'r'),
    ("no-dereference", 'h')]
  withOptions me "acd:fhmr:t:" names true 1 args fun s => do
    if s.operands = [] then usage me "missing file operand" 1
    else forPaths (fun path => do
      match ← Work.look path with
      | .ok _ => return 0
      | .error fault =>
        if s.has 'c' && fault = .missing then return 0
        else if path.endsWith "/" then
          failWith me ("setting times of " ++ shellQuoted path ++ ": " ++ fault.text)
        else match ← Work.openFile path .append with
          | .ok _ => return 0
          | .error fault =>
            failWith me ("cannot touch " ++ shellQuoted path ++ ": " ++ fault.text)) s.operands

/-- The paths on the way to a path, itself included. -/
def pathsTo (path : String) : List String :=
  let names := Text.splitAt '/' path
  let paths := (List.range names.length).map fun n => "/".intercalate (names.take (n + 1))
  (paths.zip names).filterMap fun (path, name) => if name = "" then none else some path

/-- Makes a directory. -/
def makeOne (me : String) (isLoud : Bool) (path : String) : Work (Option Fault) := do
  match ← Work.makeFolder path with
  | some fault => return some fault
  | none =>
    if isLoud then print me (me ++ ": created directory " ++ shellQuoted path ++ "\n")
    return none

/-- Makes the directories on the way to a path where they are missing, the last one as well. What
cannot be made stands beside the reason. -/
def makeAll (me : String) (isLoud : Bool) : List String → Work (Option (String × Fault))
  | [] => return none
  | path :: rest => do
    match ← Work.look path with
    | .ok .folder => makeAll me isLoud rest
    | .ok _ => return some (path, if rest = [] then .taken else .notFolder)
    | .error _ =>
      match ← makeOne me isLoud path with
      | some fault => return some (path, fault)
      | none => makeAll me isLoud rest

/-- What is said about a directory that cannot be made. -/
def unmade (path : String) (fault : Fault) : String :=
  "cannot create directory " ++ quoted path ++ ": " ++ fault.text

/-- Makes directories. -/
def mkdir (me : String) (args : List String) : Work Nat :=
  let names := [("context::", 'Z'), ("mode:", 'm'), ("parents", 'p'), ("verbose", 'v')]
  withOptions me "pm:vZ" names true 1 args fun s => do
    let bad := (s.last? 'm').filter fun mode => (modeBits? mode.toList 0o755).isNone
    if s.operands = [] then usage me "missing operand" 1
    else if let some mode := bad then failWith me ("invalid mode " ++ quoted mode)
    else forPaths (fun path => do
      if s.has 'p' then
        match ← makeAll me (s.has 'v') (pathsTo path) with
        | none => return 0
        | some (path, fault) => failWith me (unmade path fault)
      else reportAt me (← makeOne me (s.has 'v') path) (unmade path)) s.operands

/-- Removes an empty directory. -/
def removeEmpty (path : String) : Work (Option Fault) := do
  match ← Work.peek path with
  | .ok .folder => Work.remove path
  | .ok _ => return some .notFolder
  | .error fault => return some fault

/-- Removes directories as long as they are empty. -/
def removeAbove (me : String) (isLoud ignoresFull : Bool) (problem : String) :
    List String → Work Nat
  | [] => return 0
  | path :: rest => do
    if isLoud then print me (me ++ ": removing directory, " ++ shellQuoted path ++ "\n")
    match ← removeEmpty path with
    | none => removeAbove me isLoud ignoresFull "failed to remove directory " rest
    | some fault =>
      if ignoresFull && fault = .notEmpty then return 0
      else failWith me (problem ++ shellQuoted path ++ ": " ++ fault.text)

/-- Removes empty directories. -/
def rmdir (me : String) (args : List String) : Work Nat :=
  let names := [("ignore-fail-on-non-empty", 'i'), ("parents", 'p'), ("verbose", 'v')]
  withOptions me "pv" names true 1 args fun s => do
    if s.operands = [] then usage me "missing operand" 1
    else forPaths (fun path =>
      removeAbove me (s.has 'v') (s.has 'i') "failed to remove "
        (path :: if s.has 'p' then ((pathsTo path).reverse.drop 1) else [])) s.operands

end PauseWatch.Tool
