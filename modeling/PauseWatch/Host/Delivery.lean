import PauseWatch.Host.Basic

/-!
# Signals to processes

A signal reaches a process, a group of processes, or nobody. What it does there depends on what the
process has arranged; two signals cannot be refused.
-/

namespace PauseWatch.Host

/-- The microseconds after which a parent that waits learns that a signal has ended its child. -/
def deathCost : Nat := 150

/-- Whether a process waits for a child. -/
def Process.isWaiting (p : Process) : Bool :=
  match p.program with
  | .wait _ _ _ => true
  | _ => false

/-- Ends a process. Its children are left to the root, and its parent can ask how it ended, unless
that is the root. -/
def finish (h : Host) (pid : Nat) (ending : Ending) : Host :=
  match h.process? pid with
  | none => h
  | some p =>
    let orphaned (i : Identity) : Identity :=
      if i.parent = pid then { i with parent := root } else i
    let isSudden : Bool := match ending with
      | .signaled _ => true
      | .exited _ => false
    let processes := (h.processes.filter (·.identity.pid != pid)).map fun q =>
      { q with
        identity := orphaned q.identity
        readyAt :=
          if isSudden && q.identity.pid = p.identity.parent && q.isWaiting then
            max q.readyAt (h.now + deathCost)
          else q.readyAt }
    let remains := h.remains.filter (·.identity.parent != pid)
    { h with
      processes
      remains :=
        if p.identity.parent = root then remains
        else remains ++ [⟨p.identity, ending, h.now⟩] }

/-- The microseconds that a process takes to notice a signal that it catches. -/
def noticeCost : Nat := 50

/-- What a signal does to a process that is not stopped or that it reaches nevertheless. -/
def affect (h : Host) (s : Signal) (p : Process) : Host :=
  let pid := p.identity.pid
  if p.ignored.contains s then h
  else if p.caught.contains s then
    h.change pid fun q =>
      if q.told.contains s then q
      else { q with told := q.told ++ [s], readyAt := max q.readyAt (h.now + noticeCost) }
  else match s.reaction with
    | .ends => h.finish pid (.signaled s)
    | .stops => h.change pid fun q => { q with isStopped := true }
    | .resumes | .nothing => h

/-- Delivers a signal to a process. A stopped process is reached by the request to end at once and
by the one to go on, which lets through the signals that were held back. -/
def deliver (h : Host) (s : Signal) (pid : Nat) : Host :=
  match h.process? pid with
  | none => h
  | some p =>
    if s = .kill then h.finish pid (.signaled s)
    else if s = .stop then h.change pid fun q => { q with isStopped := true }
    else if s = .resume then
      let h := h.change pid fun q => { q with isStopped := false, held := [] }
      (s :: p.held).foldl (fun h s => (h.process? pid).elim h (h.affect s)) h
    else if p.isStopped then
      h.change pid fun q => { q with held := q.held ++ [s] }
    else h.affect s p

/-- The processes that a target means to a process. -/
def targets (h : Host) (self : Identity) (target : Int) : List Nat :=
  let those (test : Identity → Bool) :=
    (h.processes.filter fun p => test p.identity).map (·.identity.pid)
  if 0 < target then those fun i => i.pid == target.toNat
  else if target = 0 then those fun i => i.group == self.group
  else if target = -1 then those fun i => i.pid != self.pid
  else those fun i => i.group == target.natAbs

/-- Whether a target means a process that has ended. -/
def meansRemains (h : Host) (target : Int) : Bool :=
  h.remains.any fun r =>
    if 0 < target then r.identity.pid == target.toNat else r.identity.group == target.natAbs

/-- Sends a signal for a process, or refuses to. Signal zero only looks whether somebody is
there. -/
def send (h : Host) (self : Identity) (target : Int) (number : Nat) : Host × Option Fault :=
  if Signal.last < number then (h, some .invalid)
  else
    let pids := h.targets self target
    if pids = [] && !h.meansRemains target then (h, some .noProcess)
    else if number = 0 then (h, none)
    else (pids.foldl (fun h pid => h.deliver ⟨number⟩ pid) h, none)

/-- Sends a signal from outside to a group. -/
def sendGroup (h : Host) (group : Nat) (s : Signal) : Host :=
  (h.send ⟨outside, outside, outside⟩ (-Int.ofNat group) s.number).1

end PauseWatch.Host
