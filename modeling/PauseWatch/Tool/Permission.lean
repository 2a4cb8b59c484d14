import PauseWatch.Tool.Folder
import PauseWatch.Tool.Mode

/-!
# Changing permissions

The permissions of files are changed as a mode says, and the changes are told if that is wanted.
-/

namespace PauseWatch.Tool

open Host (Item Work)

/-- Changes the permissions of what stands at a path, with everything below it if that is wanted. -/
def changeMode (me : String) (mode : List Char) (isDeep isQuiet : Bool) (tells : Char) :
    Nat → String → Work Nat
  | 0, _ => return 0
  | depth + 1, path => do
    match ← Work.look path with
    | .error fault =>
      if isQuiet then return 1
      else failWith me ("cannot access " ++ shellQuoted path ++ ": " ++ fault.text)
    | .ok item =>
      let old := permissionsOf item
      let new := (modeBits? mode old).getD old
      let octal (bits : Nat) : String :=
        let digits := Nat.toDigits 8 bits
        String.ofList (List.replicate (4 - digits.length) '0' ++ digits)
          ++ " (" ++ permissionText bits ++ ")"
      let fault ← Work.permit path (new &&& 0o111 != 0)
      if tells = 'v' || (tells = 'c' && old ≠ new) then
        print me ("mode of " ++ shellQuoted path ++ (if old = new then " retained as " ++ octal old
          else " changed from " ++ octal old ++ " to " ++ octal new) ++ "\n")
      let status ← reportAt me fault fun fault =>
        "changing permissions of " ++ shellQuoted path ++ ": " ++ fault.text
      if isDeep && item = .folder then
        match ← Work.names path with
        | .error _ => return status
        | .ok names =>
          let mut worst := status
          for name in names do
            worst := max worst (← changeMode me mode isDeep isQuiet tells depth (join path name))
          return worst
      else return status

/-- Changes permissions. -/
def chmod (me : String) (args : List String) : Work Nat :=
  let names := [("changes", 'c'), ("recursive", 'R'), ("no-preserve-root", 'n'),
    ("preserve-root", 'p'), ("quiet", 'f'), ("reference:", 'e'), ("silent", 'f'), ("verbose", 'v')]
  let isMode (word : String) : Bool := match word.toList with
    | '-' :: c :: _ => ['r', 'w', 'x', 'X', 's', 't', 'u', 'g', 'o', 'a', ',', '+', '='].contains c
    | _ => false
  let taken := args.takeWhile (· != "--")
  let mode := taken.find? isMode
  let args := match mode with
    | some mode => mode :: "--" :: args.filter (fun a => a ≠ mode && a ≠ "--")
    | none => args
  let (lead, args) := match mode, args with
    | some mode, _ :: _ :: rest => ([mode], rest)
    | _, args => ([], args)
  withOptions me "Rcfv" names true 1 args fun s => do
    match lead ++ s.operands with
    | [] => usage me "missing operand" 1
    | [mode] => usage me ("missing operand after " ++ quoted mode) 1
    | mode :: paths =>
      if (modeBits? mode.toList 0).isNone then usage me ("invalid mode: " ++ quoted mode) 1
      else
        let tells := if s.has 'v' then 'v' else if s.has 'c' then 'c' else ' '
        forPaths (changeMode me mode.toList (s.has 'R') (s.has 'f') tells 100) paths

end PauseWatch.Tool
