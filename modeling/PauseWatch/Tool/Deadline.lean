import PauseWatch.Tool.Child

/-!
# Programs that have to end in time

A program is started and gets a signal when its time is over, and later another one that it cannot
refuse. A process of its own keeps the time: it takes no part in anything else and sends a signal
when it is done.
-/

namespace PauseWatch.Tool

open Host (Ending Signal Variables Work)

namespace Deadline

/-- The signal of a clock. -/
def alarm : Signal := ⟨14⟩

/-- The signals that are passed on. -/
def passed : List Signal := [⟨1⟩, .interrupt, .quit, .terminate]

/-- How a program is made to end. -/
structure Plan where
  /-- The name of the program that keeps the deadline. -/
  me : String
  /-- The name of the program that has to end. -/
  name : String
  /-- Its number. -/
  pid : Nat
  /-- Whether nobody but the program itself gets signals. -/
  isAlone : Bool
  /-- Whether signals are told. -/
  isLoud : Bool
  /-- Whether the status stays what the program makes it. -/
  keepsStatus : Bool

/-- Starts a clock that sends its signal when the time is over; no time at all means never. -/
def setClock (micros : Nat) : Work Unit := do
  if micros = 0 then return ()
  let self ← Work.identity
  let _ ← Work.spawn fun () => (show Work Nat from do
    Work.lead
    for fd in List.range Host.firstPrivate do Work.attach fd none
    Work.pause micros
    let _ ← Work.send self.pid alarm.number
    return 0).toProgram

/-- Sends a signal to the program and, unless it stands alone, to its group. -/
def Plan.pass (plan : Plan) (signal : Nat) : Work Unit := do
  if plan.isLoud then
    warn plan.me ("sending signal " ++ (if signal = 0 then "EXIT" else (Signal.mk signal).label)
      ++ " to command " ++ quoted plan.name)
  let _ ← Work.send plan.pid signal
  unless plan.isAlone do
    Work.arrange ⟨signal⟩ .ignore
    let _ ← Work.send 0 signal
    if signal ≠ Signal.kill.number && signal ≠ Signal.resume.number then
      Work.arrange .resume .ignore
      let _ ← Work.send plan.pid Signal.resume.number
      let _ ← Work.send 0 Signal.resume.number

/-- The end, given how the program ended and whether its time was over. -/
def Plan.close (plan : Plan) (isLate : Bool) (ending : Ending) : Work Nat := do
  match ending with
  | .exited status => return if isLate && !plan.keepsStatus then 124 else status
  | .signaled s =>
    unless isLate do
      Work.arrange s .default
      let self ← Work.identity
      let _ ← Work.send self.pid s.number
    return if isLate && !plan.keepsStatus && s ≠ .kill then 124 else ending.status

/-- Waits for the program. The signal that is sent when the time is over stands beside the time
after which one follows that cannot be refused. -/
def Plan.watch (plan : Plan) : Nat → Nat → Nat → Bool → Work Nat
  | 0, _, _, _ => return 125
  | fuel + 1, signal, patience, isLate => do
    match ← Work.wait (some plan.pid) true with
    | .ended _ ending => plan.close isLate ending
    | .nobody => return 125
    | .interrupted first =>
      let _ ← Work.caught
      let isAlarm := first = alarm
      setClock patience
      plan.pass (if isAlarm then signal else first.number)
      plan.watch fuel (if patience = 0 then signal else Signal.kill.number) 0 (isLate || isAlarm)

end Deadline

open Deadline in
/-- Starts a program and asks it to end after some time. -/
def timeout (me : String) (args : List String) (vars : Variables) : Work Nat :=
  let names := [("foreground", 'f'), ("kill-after:", 'k'), ("preserve-status", 'p'),
    ("signal:", 's'), ("verbose", 'v')]
  let badTime (s : Selection) : Option String :=
    ((s.all 'k' ++ s.operands.take 1).find? fun length => (microsOf? length).isNone).map badLength
  let badSignal (s : Selection) : Option String :=
    ((s.all 's').find? fun name => (signalNumber? name).isNone).map fun name =>
      quoted name ++ ": invalid signal"
  withOptions me "k:s:v" names false 125 args fun s => do
    match badSignal s, badTime s, s.operands with
    | some message, _, _ => usage me message 125
    | none, _, [] | none, _, [_] =>
      let _ ← Work.write 2 (Text.toByteList
        ("Try " ++ quoted (me ++ " --help") ++ " for more information.\n"))
      return 125
    | none, some message, _ => usage me message 125
    | none, none, length :: argv =>
      let signal := ((s.last? 's').bind signalNumber?).getD Signal.terminate.number
      unless s.has 'f' do Work.lead
      for told in alarm :: ⟨signal⟩ :: passed do
        if told.isOpen then Work.arrange told .catch
      let pid ← Work.spawn fun () =>
        (becomeProgram me (fun name => "failed to run command " ++ quoted name) argv
          vars).toProgram
      setClock ((microsOf? length).getD 0)
      let plan : Plan := {
        me, pid
        name := argv.headD ""
        isAlone := s.has 'f'
        isLoud := s.has 'v'
        keepsStatus := s.has 'p' }
      plan.watch patience signal (((s.last? 'k').bind microsOf?).getD 0) false

end PauseWatch.Tool
