import PauseWatch.Tool.Folder
import PauseWatch.Tool.Words

/-!
# Copying, moving and linking files

What stands at some paths gets another path, or a copy or a link there. If the last path is a
directory, the others go into it under their own names.
-/

namespace PauseWatch.Tool

open Host (Fault Item Work)

/-- What something is sent to: a path, or a directory that it goes into. -/
inductive Target where
  /-- A path. -/
  | path (path : String)
  /-- A directory. -/
  | folder (path : String)
  deriving DecidableEq, Repr

/-- The path that something gets at a target. -/
def Target.pathFor (target : Target) (source : String) : String :=
  match target with
  | .path whole => whole
  | .folder above => join above (String.ofList (lastName source.toList))

/-- Finds out what is sent where, given a directory that was named as the target, and whether a
directory at the end counts as one; then goes on, or says what is wrong. -/
def withTarget (me : String) (folder : Option String) (isPlain : Bool) (words : List String)
    (use : List String → Target → Work Nat) : Work Nat := do
  match folder, words with
  | _, [] => usage me "missing file operand" 1
  | some folder, words =>
    match ← Work.look folder with
    | .ok .folder => use words (.folder folder)
    | .ok _ => failWith me ("target directory " ++ shellQuoted folder ++ ": " ++ Fault.notFolder.text)
    | .error fault =>
      failWith me ("target directory " ++ shellQuoted folder ++ ": " ++ fault.text)
  | none, [only] => usage me ("missing destination file operand after " ++ shellQuoted only) 1
  | none, words =>
    let target := words.getLastD ""
    let sources := words.dropLast
    if isPlain then
      match sources with
      | [_] => use sources (.path target)
      | _ => usage me ("extra operand " ++ shellQuoted (words.getD 2 "")) 1
    else match ← Work.look target with
      | .ok .folder => use sources (.folder target)
      | result =>
        match sources, result with
        | [_], _ => use sources (.path target)
        | _, .ok _ => failWith me ("target " ++ shellQuoted target ++ ": " ++ Fault.notFolder.text)
        | _, .error fault => failWith me ("target " ++ shellQuoted target ++ ": " ++ fault.text)

/-- Whether two paths lead to the same place. -/
def isSame (a b : String) : Work Bool := do
  match ← Work.place a, ← Work.place b with
  | .ok m, .ok n => return m = n
  | _, _ => return false

/-- Asks whether something at a path may be replaced. -/
def mayReplace (me : String) (asks : Bool) (path : String) : Work Bool := do
  if !asks then return true
  let _ ← Work.write 2 (Text.toByteList (me ++ ": overwrite " ++ shellQuoted path ++ "? "))
  match ← Work.read 0 chunkSize with
  | .ok (b :: _) => return b = 121 || b = 89
  | _ => return false

/-! ## Copies -/

/-- How copies are made. -/
structure CopyPlan where
  /-- The name of the program. -/
  me : String
  /-- Whether directories are copied with what is in them. -/
  isDeep : Bool
  /-- Whether links are followed. -/
  follows : Bool
  /-- Whether files that are there are removed first if that is needed. -/
  isForced : Bool
  /-- Whether files that are there stay. -/
  keeps : Bool
  /-- Whether it is asked before files are replaced. -/
  asks : Bool
  /-- Whether links are made in the place of copies. -/
  links : Bool
  /-- Whether every copy is told. -/
  isLoud : Bool

/-- Tells about a copy. -/
def CopyPlan.tell (plan : CopyPlan) (source target : String) : Work Unit := do
  if plan.isLoud then
    print plan.me (shellQuoted source ++ " -> " ++ shellQuoted target ++ "\n")

/-- Copies the bytes of a file. -/
def CopyPlan.copyBytes (plan : CopyPlan) (source target : String) (executable : Bool) :
    Work Nat := do
  match ← Work.openFile source .read with
  | .error fault =>
    failWith plan.me ("cannot open " ++ shellQuoted source ++ " for reading: " ++ fault.text)
  | .ok from_ =>
    let isNew : Bool := (← Work.look target).toOption.isNone
    match ← Work.openFile target .write with
    | .error fault =>
      let fault := if fault = .missing && target.endsWith "/" then .notFolder else fault
      failWith plan.me ("cannot create regular file " ++ shellQuoted target ++ ": " ++ fault.text)
    | .ok into =>
      if isNew && executable then
        let _ ← Work.permit target true
      Work.attach fileFd (some from_)
      Work.attach (fileFd + 1) (some into)
      let result ← forChunks fileFd (fun (_ : Option Fault) bytes => do
        let fault ← Work.write (fileFd + 1) bytes
        return (fault, fault.isNone)) patience none
      Work.attach fileFd none
      Work.attach (fileFd + 1) none
      match result with
      | .ok none => return 0
      | .ok (some fault) =>
        failWith plan.me ("error writing " ++ shellQuoted target ++ ": " ++ fault.text)
      | .error fault =>
        failWith plan.me ("error reading " ++ shellQuoted source ++ ": " ++ fault.text)

/-- Makes something in the place of what stands at a path. -/
def makeAnew (target : String) (item : Item) : Work (Option Fault) := do
  match ← Work.make target item with
  | some .taken =>
    let _ ← Work.remove target
    Work.make target item
  | fault => return fault

/-- Copies what stands at a path, with everything below it if that is wanted. -/
def CopyPlan.copy (plan : CopyPlan) : Nat → String → String → Work Nat
  | 0, source, _ => failWith plan.me ("cannot copy " ++ shellQuoted source)
  | depth + 1, source, target => do
    let me := plan.me
    let old := (← Work.look target).toOption
    match ← (if plan.follows then Work.look source else Work.peek source) with
    | .error fault =>
      failWith me ("cannot stat " ++ shellQuoted source ++ ": " ++ fault.text)
    | .ok .folder =>
      if !plan.isDeep then
        failWith me ("-r not specified; omitting directory " ++ shellQuoted source)
      else if old.any (· ≠ .folder) then
        failWith me ("cannot overwrite non-directory " ++ shellQuoted target ++ " with directory "
          ++ shellQuoted source)
      else
        let isInside : Bool ← do
          match ← Work.place source, ← Work.place target with
          | .ok a, .ok b => pure (a.isPrefixOf b)
          | _, _ => pure false
        if isInside then
          failWith me ("cannot copy a directory, " ++ shellQuoted source ++ ", into itself, "
            ++ shellQuoted target)
        else
          match ← (if old.isSome then pure none else Work.makeFolder target) with
          | some fault =>
            failWith me ("cannot create directory " ++ shellQuoted target ++ ": " ++ fault.text)
          | none =>
            if old.isNone then plan.tell source target
            let names : List String ← do
              match ← Work.names source with
              | .ok names => pure names
              | .error _ => pure []
            let mut worst := 0
            for name in names do
              worst := max worst (← plan.copy depth (join source name) (join target name))
            return worst
    | .ok item =>
      if old = some .folder then
        failWith me ("cannot overwrite directory " ++ shellQuoted target ++ " with non-directory")
      else if old.isSome && plan.keeps then return 0
      else if old.isSome && (← isSame source target) then
        failWith me (shellQuoted source ++ " and " ++ shellQuoted target ++ " are the same file")
      else if old.isSome && !(← mayReplace me plan.asks target) then return 1
      else if plan.links then
        match ← (if plan.isForced then makeAnew target (.link source) else Work.link source target)
          with
        | none =>
          plan.tell source target
          return 0
        | some fault =>
          failWith me ("cannot create symbolic link " ++ shellQuoted target ++ " to "
            ++ shellQuoted source ++ ": " ++ fault.text)
      else
        match item with
        | .link path =>
          match ← makeAnew target (.link path) with
          | none =>
            plan.tell source target
            return 0
          | some fault =>
            failWith me ("cannot create symbolic link " ++ shellQuoted target ++ ": " ++ fault.text)
        | .tool name =>
          match ← makeAnew target (.tool name) with
          | none =>
            plan.tell source target
            return 0
          | some fault =>
            failWith me ("cannot create regular file " ++ shellQuoted target ++ ": " ++ fault.text)
        | item =>
          plan.tell source target
          plan.copyBytes source target item.isProgram

/-- Copies files. -/
def cp (me : String) (args : List String) : Work Nat :=
  let names := [("archive", 'a'), ("backup::", 'b'), ("attributes-only", 'A'),
    ("dereference", 'L'), ("force", 'f'), ("interactive", 'i'), ("link", 'l'),
    ("no-clobber", 'n'), ("no-dereference", 'P'), ("no-target-directory", 'T'),
    ("one-file-system", 'x'), ("parents", 'E'), ("preserve::", 'p'), ("no-preserve:", 'N'),
    ("recursive", 'R'), ("remove-destination", 'M'), ("sparse:", 'e'), ("reflink::", 'k'),
    ("strip-trailing-slashes", 'g'), ("suffix:", 'S'), ("symbolic-link", 's'),
    ("target-directory:", 't'), ("update::", 'u'), ("verbose", 'v')]
  withOptions me "abdfHilLnprst:uvxPRS:TZ" names true 1 args fun s => do
    if s.lastOf ['f', 'i', 'n'] = some 'n' then
      warn me ("warning: behavior of -n is non-portable and may change in future; "
        ++ "use --update=none instead")
    withTarget me (s.last? 't') (s.has 'T') s.operands fun sources target => do
      let isDeep := s.has 'r' || s.has 'R' || s.has 'a'
      let plan : CopyPlan := {
        me, isDeep
        follows := s.has 'L' || !(isDeep || s.has 'd' || s.has 'P')
        isForced := s.has 'f'
        keeps := s.lastOf ['i', 'n'] = some 'n' || s.last? 'u' = some "none"
        asks := s.lastOf ['i', 'n'] = some 'i'
        links := s.has 's'
        isLoud := s.has 'v' }
      forPaths (fun source => plan.copy 100 source (target.pathFor source)) sources

/-! ## Moves -/

/-- Moves what stands at a path, and says what is wrong. -/
def moveOne (me : String) (keeps asks isLoud : Bool) (source target : String) : Work Nat := do
  match ← Work.peek source with
  | .error fault => failWith me ("cannot stat " ++ shellQuoted source ++ ": " ++ fault.text)
  | .ok item =>
    let old := (← Work.peek target).toOption
    if old.isSome && keeps then failWith me ("not replacing " ++ shellQuoted target)
    else if old.isSome && (← isSame source target) && item ≠ .folder then
      failWith me (shellQuoted source ++ " and " ++ shellQuoted target ++ " are the same file")
    else if old.isSome && !(← mayReplace me asks target) then return 1
    else if item = .folder && old.any (· ≠ .folder) then
      failWith me ("cannot overwrite non-directory " ++ shellQuoted target ++ " with directory "
        ++ shellQuoted source)
    else if item ≠ .folder && old = some .folder then
      failWith me ("cannot overwrite directory " ++ shellQuoted target ++ " with non-directory")
    else match ← Work.move source target with
      | none =>
        if isLoud then
          print me ("renamed " ++ shellQuoted source ++ " -> " ++ shellQuoted target ++ "\n")
        return 0
      | some .notEmpty =>
        failWith me ("cannot overwrite " ++ shellQuoted target ++ ": " ++ Fault.notEmpty.text)
      | some .invalid =>
        failWith me ("cannot move " ++ shellQuoted source ++ " to a subdirectory of itself, "
          ++ shellQuoted target)
      | some fault =>
        let fault := if fault = .missing && target.endsWith "/" then .notFolder else fault
        failWith me ("cannot move " ++ shellQuoted source ++ " to " ++ shellQuoted target ++ ": "
          ++ fault.text)

/-- Moves files. -/
def mv (me : String) (args : List String) : Work Nat :=
  let names := [("backup::", 'b'), ("force", 'f'), ("interactive", 'i'), ("no-clobber", 'n'),
    ("no-target-directory", 'T'), ("strip-trailing-slashes", 'g'), ("suffix:", 'S'),
    ("target-directory:", 't'), ("update::", 'u'), ("verbose", 'v')]
  withOptions me "bfint:uvS:TZ" names true 1 args fun s =>
    withTarget me (s.last? 't') (s.has 'T') s.operands fun sources target =>
      let last := s.lastOf ['f', 'i', 'n']
      forPaths (fun source =>
        moveOne me (last = some 'n') (last = some 'i') (s.has 'v') source
          (target.pathFor source)) sources

/-! ## Links -/

/-- How links are made. -/
structure LinkPlan where
  /-- The name of the program. -/
  me : String
  /-- Whether links lead to a path. -/
  isSymbolic : Bool
  /-- Whether what is there is replaced. -/
  isForced : Bool
  /-- Whether every link is told. -/
  isLoud : Bool

/-- Makes a link. A link that shares the bytes of a file is a copy of it. -/
def LinkPlan.make (plan : LinkPlan) (source target : String) : Work Nat := do
  let me := plan.me
  let tell (arrow : String) : Work Nat := do
    if plan.isLoud then print me (shellQuoted target ++ arrow ++ shellQuoted source ++ "\n")
    return 0
  let place (item : Item) : Work (Option Fault) :=
    if plan.isForced then makeAnew target item else Work.make target item
  if plan.isSymbolic then
    match ← place (.link source) with
    | none => tell " -> "
    | some fault =>
      failWith me ("failed to create symbolic link " ++ shellQuoted target ++ ": " ++ fault.text)
  else match ← Work.peek source with
    | .error fault => failWith me ("failed to access " ++ shellQuoted source ++ ": " ++ fault.text)
    | .ok .folder => failWith me (shellNamed source ++ ": hard link not allowed for directory")
    | .ok item =>
      match ← place item with
      | none => tell " => "
      | some fault =>
        let behind := if fault = .taken then "" else " => " ++ shellQuoted source
        failWith me ("failed to create hard link " ++ shellQuoted target ++ behind ++ ": "
          ++ fault.text)

/-- Makes links. -/
def ln (me : String) (args : List String) : Work Nat :=
  let names := [("backup::", 'b'), ("directory", 'F'), ("no-dereference", 'n'),
    ("no-target-directory", 'T'), ("interactive", 'i'), ("suffix:", 'S'),
    ("target-directory:", 't'), ("logical", 'L'), ("physical", 'P'), ("relative", 'r'),
    ("symbolic", 's'), ("verbose", 'v'), ("force", 'f')]
  withOptions me "bdfinrst:vFLPS:T" names true 1 args fun s => do
    let plan : LinkPlan :=
      { me, isSymbolic := s.has 's', isForced := s.has 'f', isLoud := s.has 'v' }
    let use (sources : List String) (target : Target) : Work Nat :=
      forPaths (fun source => plan.make source (target.pathFor source)) sources
    match s.operands, s.last? 't' with
    | [source], none => use [source] (.folder ".")
    | words, folder =>
      let isLink : Bool ← do
        if !s.has 'n' then pure false
        else match ← Work.peek (words.getLastD "") with
          | .ok (.link _) => pure true
          | _ => pure false
      withTarget me folder (s.has 'T' || isLink) words use

end PauseWatch.Tool
