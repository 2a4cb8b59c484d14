import PauseWatch.Host.SearchPath
import PauseWatch.Shell.Expansion

/-!
# Processes of the shell

How a shell starts children, waits for them, and arranges what descriptors stand for. Descriptors
from ten on are the shell's own: there it keeps what a redirection has replaced, and the ends of
conduits that it hands to children.
-/

namespace PauseWatch.Shell

open Host (Handle Program Work)

/-- Runs a command; the flag tells that the process has nothing to do after it. -/
abbrev Evaluate := Bool → Command → Act Unit

/-- How often anything is repeated at most. -/
def patience : Nat := 1000000000

/-- The microseconds that a command takes the shell. -/
def commandCost : Nat := 10

/-! ## Scripts -/

/-- Runs the commands of a script, one complete command at a time. -/
def runFrom (self : Evaluate) (isLast : Bool) (ends : Nat) : Nat → List Char → Act Unit
  | 0, _ => return ()
  | fuel + 1, chars => do
    match (Reading.complete? ends).run.run chars with
    | (.error e, rest) =>
      modify fun s => { s with line := ends - rest.count '\n' + 1 }
      abandon ("Syntax error: " ++ e.text)
    | (.ok none, _) => return ()
    | (.ok (some c), rest) =>
      let isEnd := (Reading.blanks rest).all (· == '\n')
      self (isLast && isEnd) c
      runFrom self isLast ends fuel rest

/-- Runs a script whose first line has a given number. -/
def runLines (self : Evaluate) (isLast : Bool) (first : Nat) (text : String) : Act Unit :=
  let chars := text.toList
  runFrom self isLast (chars.count '\n' + first - 1) (chars.length + 1) chars

/-- Runs a script. -/
def runText (self : Evaluate) (isLast : Bool) (text : String) : Act Unit :=
  runLines self isLast 1 text

/-- Does something and then something else, however the first ends. -/
def finally_ (act after : Act Unit) : Act Unit := do
  try act
  catch e =>
    after
    throw e
  after

/-- Runs the script for a signal, after which the status is what it was before. -/
def runTrap (self : Evaluate) (script : String) : Act Unit := do
  let status := (← get).status
  runText self false script
  setStatus status

/-- Runs the scripts for the signals that were caught. -/
def runTraps (self : Evaluate) : Act Unit := do
  for signal in ← ask Work.caught do
    match (← get).traps.lookup (some signal) with
    | some script => runTrap self script
    | none => return ()

/-- Runs the script for the end of the shell, if there is one. -/
def runExitTrap (self : Evaluate) : Act Unit := do
  match (← get).traps.lookup none with
  | none => return ()
  | some script =>
    modify fun s => { s with traps := s.traps.filter (·.1 != none) }
    try runTrap self script
    catch _ => return ()

/-- The program of a shell that does something and ends. -/
def program (self : Evaluate) (s : State) (act : Act Unit) : Program :=
  let whole : Act Unit := do
    try act
    catch _ => pure ()
    runExitTrap self
  (whole.run.run s) fun (_, s) => .exit s.status

/-! ## Children -/

/-- Whether something runs at a signal or at the end. -/
def State.hasTraps (s : State) : Bool := s.traps.any (·.2 != "")

/-- Prepares a child: what ran at signals in the parent does not run in it. -/
def becomeChild : Act Unit := do
  let s ← get
  for (signal, script) in s.traps do
    match signal with
    | some signal => if script != "" then ask (Work.arrange signal .default)
    | none => pure ()
  set { s with traps := s.traps.filter (·.2 == ""), jobs := [], tests := s.tests }

/-- Starts a child that does something. -/
def spawn (self : Evaluate) (act : Act Unit) : Act Nat := do
  let s ← get
  ask (Work.spawn fun () => program self s do
    becomeChild
    act)

/-- Notes how a child has ended that was not waited for. -/
def noteJob (pid : Nat) (ending : Host.Ending) : Act Unit :=
  modify fun s => { s with jobs := s.jobs.map fun (p, e) =>
    if p = pid then (p, some ending) else (p, e) }

/-- Waits for children to end, and tells how each ended, the last first. -/
def awaitAll : Nat → List Nat → List (Nat × Host.Ending) → Act (List (Nat × Host.Ending))
  | 0, _, done | _, [], done => return done
  | fuel + 1, pids, done => do
    match ← ask (Work.wait none false) with
    | .ended pid ending =>
      noteJob pid ending
      if pids.contains pid then
        awaitAll fuel (pids.filter (· != pid)) ((pid, ending) :: done)
      else awaitAll fuel pids done
    | _ => return done

/-- Tells the user how a child has ended, if a signal has ended it that is worth it. -/
def announce (ending : Host.Ending) : Act Unit := do
  match ending with
  | .exited _ => return ()
  | .signaled signal =>
    unless signal = .interrupt || signal = .brokenPipe do
      let _ ← say 2 (signal.description ++ "\n")

/-- Waits for children, of which the last one gives the status. -/
def await (pids : List Nat) : Act Unit := do
  let done ← awaitAll patience pids []
  match done.head? with
  | some (_, ending) => announce ending
  | none => pure ()
  match pids.getLast?.bind fun pid => done.lookup pid with
  | some ending => setStatus ending.status
  | none => return ()

/-! ## Programs -/

/-- Tries to go on as a program under one of some paths; tells why it cannot. -/
def tryPaths (argv : List String) (vars : Host.Variables) (worst : Host.Fault) :
    List String → Act Host.Fault
  | [] => return worst
  | path :: rest => do
    match ← ask (Work.become path argv vars) with
    | .noProgram => ask (Work.become "/bin/sh" ("sh" :: path :: argv.tail) vars)
    | .missing | .notFolder => tryPaths argv vars worst rest
    | fault => tryPaths argv vars fault rest

/-- The paths under which a program is looked for. -/
def State.pathsOf (s : State) (name : String) : List String :=
  Host.candidates (s.get? "PATH") name

/-- Goes on as another program. If that is not possible, the shell ends. -/
def becomeProgram (argv : List String) : Act Unit := do
  let s ← get
  let name := argv.headD ""
  let paths := if name = "" then [] else s.pathsOf name
  match ← tryPaths argv s.exported .missing paths with
  | .missing | .notFolder =>
    complain (name ++ if name = "" then ": Permission denied" else ": not found")
    setStatus 127
  | .manyLinks | .longName =>
    complain (name ++ ": " ++ Host.Fault.longName.text)
    setStatus 127
  | fault =>
    complain (name ++ ": " ++ fault.text)
    setStatus 126
  throw .exit

/-! ## Descriptors -/

/-- The first of the descriptors that hold conduits for children. -/
def conduitFd : Nat := 200

/-- Makes a descriptor stand for what another one stands for. -/
def copyHandle (target source : Nat) : Act Unit := do
  ask (Work.attach target (← ask (Work.handle source)))

/-- Closes the descriptors that hold conduits for children. -/
def closeConduits : Act Unit := do
  for n in [0, 1, 2] do ask (Work.attach (conduitFd + n) none)

/-- Reads everything that a descriptor brings. -/
def readAll (fd : Nat) : Nat → List (List UInt8) → Act (List UInt8)
  | 0, done => return done.reverse.flatten
  | fuel + 1, done => do
    match ← ask (Work.read fd 65536) with
    | .ok [] | .error _ => return done.reverse.flatten
    | .ok bytes => readAll fd fuel (bytes :: done)

/-- Runs a script in a child and brings what it writes. -/
def substitute (self : Evaluate) : Substitute := fun line text => do
  let number ← ask Work.conduit
  ask (Work.attach conduitFd (some (.source number)))
  ask (Work.attach (conduitFd + 1) (some (.sink number)))
  let pid ← spawn self do
    copyHandle 1 (conduitFd + 1)
    closeConduits
    runLines self true line text
  ask (Work.attach (conduitFd + 1) none)
  let bytes ← readAll conduitFd patience []
  ask (Work.attach conduitFd none)
  let status := (← get).status
  await [pid]
  modify fun s => { s with substituted := some s.status, status }
  return Text.ofByteList bytes

/-- A reason why a file cannot be opened, in words. -/
def openProblem (creates : Bool) (path : String) (fault : Host.Fault) : String :=
  let reason := match fault with
    | .missing | .notFolder => if creates then "Directory nonexistent" else "No such file"
    | fault => fault.text
  "cannot " ++ (if creates then "create " else "open ") ++ path ++ ": " ++ reason

/-- Makes a descriptor stand for an opened file. -/
def openFor (fd : Nat) (path : String) (access : Host.Access) : Act Unit := do
  match ← ask (Work.openFile path access) with
  | .ok handle => ask (Work.attach fd (some handle))
  | .error fault => abandon (openProblem (access ≠ .read) path fault)

/-- The bytes that are written to a conduit before anybody reads. -/
def suppliedLimit : Nat := 4096

/-- Makes a descriptor bring a given text. A long text is written by a child. -/
def supply (self : Evaluate) (fd : Nat) (text : String) : Act Unit := do
  let number ← ask Work.conduit
  ask (Work.attach fd (some (.source number)))
  ask (Work.attach (conduitFd + 2) (some (.sink number)))
  if text.length ≤ suppliedLimit then
    let _ ← say (conduitFd + 2) text
  else
    let _ ← spawn self do
      ask (Work.attach fd none)
      let _ ← say (conduitFd + 2) text
      setStatus 0
  ask (Work.attach (conduitFd + 2) none)

/-- Carries out a redirection. -/
def redirect (self : Evaluate) (r : Redirect) : Act Unit := do
  let expand := expandText (substitute self)
  match r.action with
  | .input path => openFor r.fd (← expand path) .read
  | .output path => openFor r.fd (← expand path) .write
  | .append path => openFor r.fd (← expand path) .append
  | .both path => openFor r.fd (← expand path) .both
  | .copy source =>
    let source ← expand source
    if source = "-" then ask (Work.attach r.fd none)
    else match source.toNat? with
      | none => abandon "Syntax error: Bad fd number"
      | some n =>
        match ← ask (Work.handle n) with
        | some handle =>
          if n < Host.firstPrivate then ask (Work.attach r.fd (some handle))
          else abandon (source ++ ": Bad file descriptor")
        | none => abandon (source ++ ": Bad file descriptor")
  | .text body isExpanded =>
    if isExpanded then
      let marks ← expandMarks (substitute self) .supplied body
      supply self r.fd (Mark.text marks)
    else supply self r.fd body

/-- The descriptor at which a shell keeps what a descriptor stood for. -/
def keptFd (depth fd : Nat) : Nat := Host.firstPrivate * (depth + 1) + fd

/-- Does something that forgives mistakes of its own, and tells whether there were none. -/
def isForgiven (act : Act Unit) : Act Bool := do
  try
    act
    return true
  catch e =>
    if e = .abandon then return false else throw e

/-- Does something that forgives mistakes of its own. -/
def forgiving (act : Act Unit) : Act Unit := do
  let _ ← isForgiven act

/-- Does something with redirections in force, which are taken back afterwards. An impossible
redirection may be forgiven, but then nothing is done. -/
def withRedirects (self : Evaluate) (forgives : Bool) (rs : List Redirect) (act : Act Unit) :
    Act Unit := do
  if rs.isEmpty then act
  else
    let depth := (← get).saved
    let fds := (rs.map (·.fd)).eraseDups
    for fd in fds do copyHandle (keptFd depth fd) fd
    modify fun s => { s with saved := depth + 1 }
    finally_
      (do
        let prepare : Act Unit := for r in rs do redirect self r
        if forgives then
          if ← isForgiven prepare then act
        else
          prepare
          act)
      (do
        for fd in fds do
          copyHandle fd (keptFd depth fd)
          ask (Work.attach (keptFd depth fd) none)
        modify fun s => { s with saved := depth })

end PauseWatch.Shell
