import PauseWatch.Host.Step
import PauseWatch.Launch.Spec
import PauseWatch.Environment
import PauseWatch.Run.Deadline
import PauseWatch.Run.Supervision
import PauseWatch.Text.Bytes

/-!
# Running a launch on the host

A launch becomes a process with a group of its own, no input, and two watched conduits for its
output. It is followed until it has exited and both conduits have ended, or until the deadline
passes; an overdue process is ended together with its group.
-/

namespace PauseWatch.Host

/-- Why a run has no answer at all. -/
inductive Crash where
  /-- The clock cannot count as far as the deadline. -/
  | clockOverflow
  /-- The process would never end. -/
  | endless
  deriving DecidableEq, Repr

/-- How launches are run. -/
structure Runner where
  /-- The programs that the host brings along. -/
  toolbox : Toolbox
  /-- The variables of every process. -/
  env : Environment
  /-- The directory in which processes start that are given none. -/
  dir : Place
  /-- How long a run may take, if there is a limit. -/
  timeout : Option Text.Span := none
  /-- How long a process may take to end once it is asked to. -/
  grace : Text.Span := .ofSeconds 5
  /-- How many steps are followed at most. -/
  patience : Nat := 100000000

/-- A process that was started. -/
structure Started where
  /-- The number of the process and of its group. -/
  pid : Nat
  /-- The conduit that is its standard output. -/
  stdout : Nat
  /-- The conduit that is its standard error. -/
  stderr : Nat
  deriving DecidableEq, Repr

/-- A text as bytes. -/
def bytesText (text : String) : String := Text.ofByteList (Text.Utf8.encode text)

/-- The variables of an environment. -/
def variablesOf (env : Environment) : Variables :=
  env.vars.map fun (name, value) => (bytesText name, Text.ofByteList value)

/-- The error for a launch that the host refuses. -/
def refusal (program : String) : Fault → RunError
  | .missing => .notFound program
  | .denied => .permissionDenied program
  | fault => .notStarted program fault.describe

/-- The microseconds until a new process makes its first request. -/
def startCost : Nat := 1000

/-- Starts the process of a launch. -/
def start (r : Runner) (spec : LaunchSpec) (h : Host) : Except RunError (Host × Started) := do
  if (spec.argv ++ spec.dir.toList).any (·.contains '\x00') then
    throw (.notStarted spec.program "nul byte found in provided data")
  let vars := variablesOf r.env
  let argv := spec.argv.map bytesText
  let (dir, (name, words)) ← Except.mapError (refusal spec.program) do
    let dir ← spec.dir.elim (pure r.dir) fun dir => h.files.folder? r.dir (bytesText dir)
    let found ← lookUp h.files dir vars argv
    if wordsFit argv vars then pure (dir, found) else throw .tooManyWords
  let pid := h.nextNumber
  let started : Started := ⟨pid, pid + 1, pid + 2⟩
  let process : Process := {
    identity := ⟨pid, outside, pid⟩
    program := r.toolbox name words vars
    readyAt := h.now + startCost
    dir
    table := [(0, .device .null), (1, .sink started.stdout), (2, .sink started.stderr)] }
  let watched : Conduit := { isWatched := true }
  return ({ h with
    processes := h.processes ++ [process]
    conduits := (started.stdout, watched) :: (started.stderr, watched) :: h.conduits
    nextNumber := pid + 3 }, started)

namespace Started

/-- The conduit that is a pipe of the process. -/
def conduit (s : Started) : Pipe → Nat
  | .stdout => s.stdout
  | .stderr => s.stderr

/-- What is left of the process, once it has ended. -/
def remains? (s : Started) (h : Host) : Option Remains := h.remainsOf? outside (some s.pid)

/-- Whether a pipe has ended. -/
def hasEnded (s : Started) (h : Host) (pipe : Pipe) : Bool :=
  (h.conduit (s.conduit pipe)).endedAt.isSome

/-- Whether there is nothing left to wait for. -/
def isOver (s : Started) (h : Host) : Bool :=
  (s.remains? h).isSome && s.hasEnded h .stdout && s.hasEnded h .stderr

/-- The reads of a pipe that has ended. -/
def reads (s : Started) (h : Host) (pipe : Pipe) : List Run.ReadResult :=
  ((h.conduit (s.conduit pipe)).seen.reverse.map .bytes) ++ [.bytes []]

/-- What a pipe has brought, once it has ended, and when it did. -/
def drained? (s : Started) (h : Host) (pipe : Pipe) : Option (Nat × Run.Drained) := do
  let endedAt ← (h.conduit (s.conduit pipe)).endedAt
  return (endedAt, ← Run.drain (some (s.reads h pipe)))

/-- What has happened, in order. -/
def events (s : Started) (h : Host) : List Run.Event :=
  let exit := (s.remains? h).map fun r => (r.endedAt, Run.Event.exited (.ok r.ending.code))
  let drain (pipe : Pipe) := (s.drained? h pipe).map fun (at_, d) => (at_, Run.Event.drained pipe d)
  let all := (exit.toList ++ (drain .stdout).toList ++ (drain .stderr).toList).mergeSort
    fun a b => a.1 ≤ b.1
  all.map (·.2) ++ (if s.isOver h then [] else [.deadline])

/-- The host when nobody watches the process any more. -/
def leave (s : Started) (h : Host) : Host :=
  let unwatched (h : Host) (number : Nat) : Host :=
    { h with conduits := h.conduits.filter (·.1 != number) }
  let h := unwatched (unwatched h s.stdout) s.stderr
  { h with remains := h.remains.filter (·.identity.parent != outside) }

/-- Takes one action against an overdue process. -/
def act (s : Started) (r : Runner) (h : Host) : Run.Action → Host
  | .askToEnd => (h.sendGroup s.pid .terminate).noteEnds
  | .kill => (h.sendGroup s.pid .kill).noteEnds
  | .awaitExit =>
    h.advance r.toolbox (some (h.now + r.grace.nanos / 1000)) (fun h => (s.remains? h).isSome)
      r.patience
  | .reap => h.advance r.toolbox none (fun h => (s.remains? h).isSome) r.patience
  | .salvage pipe =>
    h.advance r.toolbox (some (h.now + r.grace.nanos / 1000)) (fun h => s.hasEnded h pipe)
      r.patience

/-- The process in the custody of a run that began at some time. -/
def custody (s : Started) (r : Runner) (since : Nat) : Run.Custody (StateM Host) where
  pid := s.pid
  elapsed := do return ((← get).now - since) / 1000
  act action := modify fun h => s.act r h action
  brought pipe := do return (s.drained? (← get) pipe).map (·.2)

end Started

/-- Runs a launch. -/
def run (r : Runner) (spec : LaunchSpec) (h : Host) :
    Host × Except Crash (Except RunError Capture) :=
  let deadline : Except Crash (Option Nat) :=
    match r.timeout with
    | none => .ok none
    | some span =>
      match (Run.Instant.mk (h.now * 1000)).after? span with
      | none => .error .clockOverflow
      | some t => .ok (some (t.nanos / 1000))
  match deadline with
  | .error crash => (h, .error crash)
  | .ok deadline =>
    match h.start r spec with
    | .error e => (h, .ok (.error e))
    | .ok (begun, s) =>
      let h' := begun.advance r.toolbox deadline s.isOver r.patience
      let (result, h') := (Run.follow (s.custody r h.now) r.timeout (s.events h')).run h'
      (s.leave h', result.elim (.error .endless) .ok)

end PauseWatch.Host
