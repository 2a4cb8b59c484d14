import PauseWatch.Run.Drain

/-!
# Supervising a process

Once a process has started, three things are awaited one after the other: its exit, and the ends of
its standard output and its standard error. They may happen in any order, and the deadline may pass
at any time; what has happened before it is awaited is found at once. A run that is overdue is not
given up before its process has been terminated and collected and the pipes that are still open have
been given some more time.
-/

namespace PauseWatch.Run

/-- What can happen while a process is supervised. -/
inductive Event where
  /-- The process has exited, with a code unless a signal ended it, or cannot be awaited. -/
  | exited (result : Except String (Option Int32))
  /-- A pipe has been drained. -/
  | drained (pipe : Pipe) (result : Drained)
  /-- The deadline has passed. -/
  | deadline
  deriving Repr

/-- How a run is decided. -/
inductive Verdict where
  /-- The process has ended and both pipes have been read to their ends. -/
  | finished (code : Option Int32) (stdout stderr : String)
  /-- Something has failed. -/
  | failed (error : RunError)
  /-- Something was still pending when the time was over; the text of the standard output is given if
  only the standard error was pending. -/
  | overdue (after : Text.Span) (stdout : Option String)
  deriving DecidableEq, Repr

/-- What a run is waiting for. -/
inductive Phase where
  /-- The exit of the process. -/
  | awaitingExit
  /-- The end of the standard output. -/
  | awaitingStdout (code : Option Int32)
  /-- The end of the standard error. -/
  | awaitingStderr (code : Option Int32) (stdout : String)
  /-- Nothing: the run is decided. -/
  | decided (verdict : Verdict)
  deriving DecidableEq, Repr

/-- The state of a run. -/
structure Watch where
  /-- How long the run may take, if there is a limit. -/
  limit : Option Text.Span
  /-- What the run is waiting for. -/
  phase : Phase := .awaitingExit
  /-- What the standard output has brought, once drained. -/
  stdout : Option Drained := none
  /-- What the standard error has brought, once drained. -/
  stderr : Option Drained := none
  deriving DecidableEq, Repr

namespace Phase

/-- Awaits the end of the standard error, which may have come already. -/
def joinStderr (code : Option Int32) (stdout : String) : Option Drained → Phase
  | none => .awaitingStderr code stdout
  | some drained =>
    match drained.text .stderr with
    | .error e => .decided (.failed e)
    | .ok stderr => .decided (.finished code stdout stderr)

/-- Awaits the end of the standard output, which may have come already, and then that of the standard
error. -/
def joinStdout (code : Option Int32) (stderr : Option Drained) : Option Drained → Phase
  | none => .awaitingStdout code
  | some drained =>
    match drained.text .stdout with
    | .error e => .decided (.failed e)
    | .ok stdout => joinStderr code stdout stderr

/-- What is decided when the time is over, unless it has been decided before. -/
def whenOver (after : Text.Span) : Phase → Phase
  | .awaitingExit => .decided (.overdue after none)
  | .awaitingStdout _ => .decided (.overdue after none)
  | .awaitingStderr _ stdout => .decided (.overdue after (some stdout))
  | .decided verdict => .decided verdict

/-- The verdict of a decided run. -/
def verdict? : Phase → Option Verdict
  | .decided verdict => some verdict
  | _ => none

end Phase

namespace Watch

/-- What follows from the exit of the process. -/
def afterExit (w : Watch) : Except String (Option Int32) → Phase
  | .error cause => .decided (.failed (.notAwaited cause))
  | .ok code => .joinStdout code w.stderr w.stdout

/-- The state after an event. Of two events about the same thing the first counts, and without a
limit the deadline has no meaning. -/
def step (w : Watch) : Event → Watch
  | .exited result =>
    match w.phase with
    | .awaitingExit => { w with phase := w.afterExit result }
    | _ => w
  | .drained .stdout result =>
    let stdout := w.stdout.or (some result)
    match w.phase with
    | .awaitingStdout code => { w with stdout, phase := .joinStdout code w.stderr stdout }
    | _ => { w with stdout }
  | .drained .stderr result =>
    let stderr := w.stderr.or (some result)
    match w.phase with
    | .awaitingStderr code stdout => { w with stderr, phase := .joinStderr code stdout stderr }
    | _ => { w with stderr }
  | .deadline =>
    match w.limit with
    | none => w
    | some after => { w with phase := w.phase.whenOver after }

end Watch

/-- The state of a run after some events, in their order. -/
def watch (limit : Option Text.Span) (events : List Event) : Watch :=
  events.foldl Watch.step { limit }

/-! ## Bringing a run to its end -/

/-- What is done with a process that is overdue. -/
inductive Action where
  /-- The group of the process is asked to terminate. -/
  | askToEnd
  /-- The exit of the process is awaited for the grace period. -/
  | awaitExit
  /-- The group of the process is killed. -/
  | kill
  /-- The exit of the process is collected. -/
  | reap
  /-- The end of a pipe is awaited for the grace period. -/
  | salvage (pipe : Pipe)
  deriving DecidableEq, Repr

/-- How a process is terminated, in order: its group is asked to end, then killed, and its exit is
collected. -/
def termination : List Action := [.askToEnd, .awaitExit, .kill, .reap]

/-- What a run needs to be brought to its end. -/
structure Custody (m : Type → Type) where
  /-- The number of the process. -/
  pid : Nat
  /-- The milliseconds since the start. -/
  elapsed : m Nat
  /-- Takes an action. -/
  act : Action → m Unit
  /-- What a pipe has brought, if it has been drained. -/
  brought : Pipe → m (Option Drained)

section Ending

variable {m : Type → Type} [Monad m]

/-- The text of a pipe that was given the grace period: all that was read if draining ended within
it, and nothing otherwise. -/
def salvagedText (drained : Option Drained) : String := drained.elim "" Drained.salvaged

/-- Gives a pipe the grace period to end, and takes the text that it has brought. -/
def salvage (custody : Custody m) (pipe : Pipe) : m String := do
  custody.act (.salvage pipe)
  return salvagedText (← custody.brought pipe)

/-- Brings a decided run to its end. An overdue process is terminated, and then the pipes that were
still awaited are salvaged. -/
def conclude (custody : Custody m) : Verdict → m (Except RunError Capture)
  | .finished code stdout stderr => do
    let elapsed ← custody.elapsed
    return .ok { stdout, stderr, exitCode := code, pid := some custody.pid, elapsed }
  | .failed e => return .error e
  | .overdue after stdout => do
    termination.forM custody.act
    let stdout ← match stdout with
      | some text => pure text
      | none => salvage custody .stdout
    let stderr ← salvage custody .stderr
    return .error (.timedOut after stdout stderr)

/-- Follows a process that has started through the given events and brings the run to its end, if
they decide it. -/
def follow (custody : Custody m) (limit : Option Text.Span) (events : List Event) :
    m (Option (Except RunError Capture)) :=
  match (watch limit events).phase.verdict? with
  | none => return none
  | some verdict => some <$> conclude custody verdict

end Ending

end PauseWatch.Run
