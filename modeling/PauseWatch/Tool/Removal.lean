import PauseWatch.Tool.Folder

/-!
# Removing files

Files are removed, and directories with everything in them if that is wanted. What is removed can be
asked about first, and is told.
-/

namespace PauseWatch.Tool

open Host (Fault Item Work)

namespace Removal

/-- How things are removed. -/
structure Plan where
  /-- The name of the program. -/
  me : String
  /-- Whether directories are removed with what is in them. -/
  isDeep : Bool
  /-- Whether empty directories are removed. -/
  takesEmpty : Bool
  /-- Whether what is missing does not matter. -/
  isForced : Bool
  /-- Whether every removal is asked about. -/
  asks : Bool
  /-- Whether every removal is told. -/
  isLoud : Bool

/-- Reads a line of the input, and gives its first character. -/
def answer : Nat → Option Char → Work (Option Char)
  | 0, first => return first
  | fuel + 1, first => do
    match ← Work.read 0 1 with
    | .ok [b] =>
      let c := Char.ofNat b.toNat
      if c = '\n' then return first else answer fuel (first.or (some c))
    | _ => return first

/-- Asks a question, to which the answer is yes or no. -/
def isWanted (plan : Plan) (question : String) : Work Bool := do
  if !plan.asks then return true
  let _ ← Work.write 2 (Text.toByteList (plan.me ++ ": " ++ question ++ "? "))
  let first ← answer patience none
  return first = some 'y' || first = some 'Y'

/-- What something is called in questions. -/
def nameOf : Item → String
  | .folder => "directory"
  | .file [] _ => "regular empty file"
  | .link _ => "symbolic link"
  | .device _ => "character special file"
  | _ => "regular file"

/-- Says that something cannot be removed. -/
def Plan.fail (plan : Plan) (path : String) (fault : Fault) : Work Nat :=
  failWith plan.me ("cannot remove " ++ shellQuoted path ++ ": " ++ fault.text)

/-- Removes one thing if that is wanted. -/
def Plan.removeOne (plan : Plan) (path : String) (item : Item) : Work Nat := do
  if ← isWanted plan ("remove " ++ nameOf item ++ " " ++ shellQuoted path) then
    match ← Work.remove path with
    | some fault => plan.fail path fault
    | none =>
      if plan.isLoud then
        print plan.me ((if item = .folder then "removed directory " else "removed ")
          ++ shellQuoted path ++ "\n")
      return 0
  else return 0

/-- Removes what stands at a path, with everything below it if that is wanted. -/
def Plan.remove (plan : Plan) : Nat → String → Work Nat
  | 0, path => plan.fail path .invalid
  | depth + 1, path => do
    match ← Work.peek path with
    | .error fault =>
      if plan.isForced && (fault = .missing || fault = .notFolder) then return 0
      else plan.fail path fault
    | .ok .folder =>
      let names : List String ← do
        match ← Work.names path with
        | .ok names => pure names
        | .error _ => pure []
      if plan.isDeep then
        if names = [] then plan.removeOne path .folder
        else if ← isWanted plan ("descend into directory " ++ shellQuoted path) then
          let mut worst := 0
          for name in names do
            worst := max worst (← plan.remove depth (join path name))
          if worst = 0 then plan.removeOne path .folder else return worst
        else return 0
      else if plan.takesEmpty then
        if names = [] then plan.removeOne path .folder else plan.fail path .notEmpty
      else plan.fail path .isFolder
    | .ok item => plan.removeOne path item

end Removal

open Removal in
/-- Removes files, and directories if that is wanted. -/
def rm (me : String) (args : List String) : Work Nat :=
  let names := [("force", 'f'), ("interactive::", 'i'), ("one-file-system", 'o'),
    ("no-preserve-root", 'n'), ("preserve-root::", 'p'), ("recursive", 'r'), ("dir", 'd'),
    ("verbose", 'v')]
  withOptions me "dfirvIR" names true 1 args fun s => do
    let isForced := s.lastOf ['f', 'i', 'I'] = some 'f'
    let plan : Plan := {
      me, isForced
      isDeep := s.has 'r' || s.has 'R'
      takesEmpty := s.has 'd'
      asks := s.lastOf ['f', 'i', 'I'] = some 'i' && (s.last? 'i').all (· = "always")
      isLoud := s.has 'v' }
    if s.operands = [] then
      if isForced then return 0 else usage me "missing operand" 1
    else forPaths (fun path => do
      let name := (Text.splitAt '/' path).filter (· != "") |>.getLast?
      let isDots := name = some "." || name = some ".."
      if plan.isDeep && isDots then
        failWith me ("refusing to remove '.' or '..' directory: skipping " ++ shellQuoted path)
      else if plan.isDeep && name = none && path ≠ "" then
        failWith me ("it is dangerous to operate recursively on " ++ shellQuoted path ++ "\n"
          ++ me ++ ": use --no-preserve-root to override this failsafe")
      else plan.remove 100 path) s.operands

end PauseWatch.Tool
