import Mathlib.Data.List.Induction
import Mathlib.Data.List.TakeWhile
import PauseWatch.Host.Run

/-!
# How supervised runs end

A run is a sequence of events in any order. What decides it is what has happened in time, that is
before the deadline: if the process has exited and both pipes have ended, the run has an output; and
otherwise the first of the three that has not succeeded decides, by its failure, or by the deadline
if it is pending when that passes. The machine that awaits one thing after the other is shown to
keep up with the events, and its end is compared with this description.
-/

namespace PauseWatch.Run

/-- What a run awaits. -/
inductive Awaited where
  /-- The exit of the process. -/
  | exit
  /-- The end of a pipe. -/
  | endOf (pipe : Pipe)
  deriving DecidableEq, Repr

/-- How something awaited stands. -/
inductive Standing where
  /-- It has not happened. -/
  | pending
  /-- It has happened as it should. -/
  | succeeded
  /-- It has failed. -/
  | failed (error : RunError)
  deriving DecidableEq, Repr

/-- Whether an event is the deadline. -/
def Event.isDeadline : Event → Bool
  | .deadline => true
  | _ => false

/-- How the process has exited, if that is the event. -/
def Event.exit? : Event → Option (Except String (Option Int32))
  | .exited result => some result
  | _ => none

/-- What a pipe has brought, if that is the event. -/
def Event.drained? (pipe : Pipe) : Event → Option Drained
  | .drained other result => if other = pipe then some result else none
  | _ => none

/-- How the process has exited in the course of some events. -/
def exitOf (events : List Event) : Option (Except String (Option Int32)) :=
  events.findSome? Event.exit?

/-- What a pipe has brought in the course of some events. -/
def drainedOf (pipe : Pipe) (events : List Event) : Option Drained :=
  events.findSome? (Event.drained? pipe)

/-- The events before the deadline; without a limit these are all events. -/
def inTime (limit : Option Text.Span) (events : List Event) : List Event :=
  if limit.isSome then events.takeWhile (!·.isDeadline) else events

/-- Whether the time is over in the course of some events. -/
def isOver (limit : Option Text.Span) (events : List Event) : Bool :=
  limit.isSome && events.any Event.isDeadline

/-- How something awaited stands after some events. -/
def standing (events : List Event) : Awaited → Standing
  | .exit =>
    match exitOf events with
    | none => .pending
    | some (.ok _) => .succeeded
    | some (.error cause) => .failed (.notAwaited cause)
  | .endOf pipe =>
    match drainedOf pipe events with
    | none => .pending
    | some (.whole _) => .succeeded
    | some (.broken readBefore cause) =>
      .failed (.unreadable pipe cause (Text.Utf8.decode readBefore))

/-- The first of the exit, the standard output and the standard error that has not succeeded. -/
def firstOpen (events : List Event) : Option Awaited :=
  [.exit, .endOf .stdout, .endOf .stderr].find? fun a => standing events a != .succeeded

variable {limit : Option Text.Span} {events : List Event}

theorem exitOf_concat (events : List Event) (e : Event) :
    exitOf (events ++ [e]) = (exitOf events).or e.exit? := by
  rw [exitOf, List.findSome?_append, List.findSome?_singleton, exitOf]

theorem drainedOf_concat (pipe : Pipe) (events : List Event) (e : Event) :
    drainedOf pipe (events ++ [e]) = (drainedOf pipe events).or (e.drained? pipe) := by
  rw [drainedOf, List.findSome?_append, List.findSome?_singleton, drainedOf]

/-- While the time is not over, all events have happened in time. -/
theorem inTime_of_not_over (h : isOver limit events = false) : inTime limit events = events := by
  cases limit with
  | none => rfl
  | some after => exact List.takeWhile_eq_self_iff.mpr (by simpa [isOver] using h)

/-- Only where there is a limit the time can be over. -/
theorem exists_limit_of_isOver (h : isOver limit events = true) : ∃ after, limit = some after :=
  Option.isSome_iff_exists.mp (Bool.and_eq_true_iff.mp h).1

/-- The time is over with the first deadline. -/
theorem eq_inTime_append (h : isOver limit events = true) :
    ∃ rest, events = inTime limit events ++ .deadline :: rest := by
  obtain ⟨hlimit, hany⟩ := Bool.and_eq_true_iff.mp h
  rw [inTime, if_pos hlimit]
  induction events with
  | nil => cases hany
  | cons e events ih =>
    cases he : e.isDeadline with
    | false =>
      have hrest : events.any Event.isDeadline = true := by simpa [he] using hany
      obtain ⟨rest, hrest⟩ := ih (by simp [isOver, hlimit, hrest]) hrest
      exact ⟨rest, by simpa [he] using hrest⟩
    | true =>
      obtain rfl : e = .deadline := by cases e <;> first | rfl | cases he
      exact ⟨events, by simp [Event.isDeadline]⟩

/-- No deadline is among the events in time. -/
theorem not_isDeadline_of_mem_inTime {e : Event} (he : e ∈ inTime limit events) :
    limit = none ∨ e.isDeadline = false := by
  cases limit with
  | none => exact .inl rfl
  | some after =>
    have := List.mem_takeWhile_imp (by simpa [inTime] using he)
    exact .inr (by simpa using this)

/-- What a run is waiting for while its time is not over. -/
def phaseOf (exit : Option (Except String (Option Int32))) (stdout stderr : Option Drained) :
    Phase :=
  match exit with
  | none => .awaitingExit
  | some (.error cause) => .decided (.failed (.notAwaited cause))
  | some (.ok code) => .joinStdout code stderr stdout

/-- The state of a run while its time is not over. -/
def stateOf (limit : Option Text.Span) (exit : Option (Except String (Option Int32)))
    (stdout stderr : Option Drained) : Watch :=
  { limit, phase := phaseOf exit stdout stderr, stdout, stderr }

/-- What a run is waiting for after some events in time. -/
def phaseAfter (events : List Event) : Phase :=
  phaseOf (exitOf events) (drainedOf .stdout events) (drainedOf .stderr events)

/-- A step takes notice of an event, unless that ends the time. What it is about may have happened
already, so the step depends on everything that has. -/
theorem stateOf_step (exit : Option (Except String (Option Int32))) (stdout stderr : Option Drained)
    {e : Event} (he : limit = none ∨ e.isDeadline = false) :
    (stateOf limit exit stdout stderr).step e =
      stateOf limit (exit.or e.exit?) (stdout.or (e.drained? .stdout))
        (stderr.or (e.drained? .stderr)) := by
  cases e with
  | exited result =>
    rcases exit with _ | cause | code <;> rcases stdout with _ | out | ⟨out, cause⟩ <;>
      rcases stderr with _ | err | ⟨err, cause⟩ <;> cases result <;> rfl
  | drained pipe result =>
    rcases exit with _ | cause | code <;> rcases stdout with _ | out | ⟨out, cause⟩ <;>
      rcases stderr with _ | err | ⟨err, cause⟩ <;> cases pipe <;> cases result <;> rfl
  | deadline =>
    obtain rfl : limit = none := he.resolve_right (by simp [Event.isDeadline])
    simp [stateOf, Watch.step, Event.exit?, Event.drained?]

theorem watch_concat (limit : Option Text.Span) (events : List Event) (e : Event) :
    watch limit (events ++ [e]) = (watch limit events).step e := by
  rw [watch, List.foldl_append, List.foldl_cons, List.foldl_nil, watch]

/-- The state after events in time. -/
theorem watch_of_inTime (h : ∀ e ∈ events, limit = none ∨ e.isDeadline = false) :
    watch limit events =
      stateOf limit (exitOf events) (drainedOf .stdout events) (drainedOf .stderr events) := by
  induction events using List.reverseRecOn with
  | nil => rfl
  | append_singleton events e ih =>
    have hprefix := ih fun e he => h e (List.mem_append_left _ he)
    have he := h e (by simp)
    rw [watch_concat, hprefix, stateOf_step _ _ _ he, exitOf_concat, drainedOf_concat,
      drainedOf_concat]

/-- What is decided stays so. -/
theorem phase_step_of_decided {w : Watch} {v : Verdict} (h : w.phase = .decided v) (e : Event) :
    (w.step e).phase = .decided v := by
  obtain ⟨limit, phase, stdout, stderr⟩ := w
  obtain rfl : phase = .decided v := h
  cases e with
  | exited result => rfl
  | drained pipe result => cases pipe <;> rfl
  | deadline => cases limit <;> rfl

/-- What is decided stays so in the further course of events. -/
theorem phase_watch_append {v : Verdict} (h : (watch limit events).phase = .decided v)
    (more : List Event) : (watch limit (events ++ more)).phase = .decided v := by
  induction more using List.reverseRecOn with
  | nil => simpa using h
  | append_singleton more e ih =>
    rw [← List.append_assoc, watch_concat]
    exact phase_step_of_decided ih e

/-- While the time is not over, the run waits for what the events have left open. -/
theorem phase_watch_of_not_over (h : isOver limit events = false) :
    (watch limit events).phase = phaseAfter (inTime limit events) := by
  have hall := inTime_of_not_over h
  rw [hall, watch_of_inTime fun e he => not_isDeadline_of_mem_inTime (hall.symm ▸ he)]
  rfl

/-- When the time is over, the deadline has decided what was still open. -/
theorem phase_watch_of_over {after : Text.Span} (h : isOver (some after) events = true) :
    (watch (some after) events).phase =
      (phaseAfter (inTime (some after) events)).whenOver after := by
  obtain ⟨rest, hrest⟩ := eq_inTime_append h
  have hstep : (watch (some after) (inTime (some after) events ++ [.deadline])).phase =
      (phaseAfter (inTime (some after) events)).whenOver after := by
    rw [watch_concat, watch_of_inTime fun e he => not_isDeadline_of_mem_inTime he]
    rfl
  have hdecided : ∀ p : Phase, ∃ v, p.whenOver after = .decided v := by
    intro p
    cases p <;> exact ⟨_, rfl⟩
  obtain ⟨v, hv⟩ := hdecided (phaseAfter (inTime (some after) events))
  have := phase_watch_append (hstep.trans hv) rest
  rw [hv, ← this, List.append_assoc, List.singleton_append, ← hrest]

/-- What a run is waiting for in terms of the first thing that has not succeeded. -/
inductive Reached (events : List Event) : Option Awaited → Phase → Prop
  /-- The process has not exited. -/
  | exitPending (hexit : exitOf events = none) : Reached events (some .exit) .awaitingExit
  /-- The exit could not be awaited. -/
  | exitFailed {cause : String} (hexit : exitOf events = some (.error cause)) :
    Reached events (some .exit) (.decided (.failed (.notAwaited cause)))
  /-- The standard output has not ended. -/
  | stdoutPending {code : Option Int32} (hexit : exitOf events = some (.ok code))
    (hout : drainedOf .stdout events = none) :
    Reached events (some (.endOf .stdout)) (.awaitingStdout code)
  /-- The standard output could not be read. -/
  | stdoutFailed {code : Option Int32} {out : List UInt8} {cause : String}
    (hexit : exitOf events = some (.ok code))
    (hout : drainedOf .stdout events = some (.broken out cause)) :
    Reached events (some (.endOf .stdout))
      (.decided (.failed (.unreadable .stdout cause (Text.Utf8.decode out))))
  /-- The standard error has not ended. -/
  | stderrPending {code : Option Int32} {out : List UInt8} (hexit : exitOf events = some (.ok code))
    (hout : drainedOf .stdout events = some (.whole out)) (herr : drainedOf .stderr events = none) :
    Reached events (some (.endOf .stderr)) (.awaitingStderr code (Text.Utf8.decode out))
  /-- The standard error could not be read. -/
  | stderrFailed {code : Option Int32} {out err : List UInt8} {cause : String}
    (hexit : exitOf events = some (.ok code)) (hout : drainedOf .stdout events = some (.whole out))
    (herr : drainedOf .stderr events = some (.broken err cause)) :
    Reached events (some (.endOf .stderr))
      (.decided (.failed (.unreadable .stderr cause (Text.Utf8.decode err))))
  /-- Nothing is open. -/
  | done {code : Option Int32} {out err : List UInt8} (hexit : exitOf events = some (.ok code))
    (hout : drainedOf .stdout events = some (.whole out))
    (herr : drainedOf .stderr events = some (.whole err)) :
    Reached events none (.decided (.finished code (Text.Utf8.decode out) (Text.Utf8.decode err)))

/-- A run waits for the first thing that has not succeeded. -/
theorem reached (events : List Event) : Reached events (firstOpen events) (phaseAfter events) := by
  unfold firstOpen phaseAfter
  rcases hexit : exitOf events with _ | cause | code
  · simpa [standing, hexit, phaseOf] using .exitPending hexit
  · simpa [standing, hexit, phaseOf] using .exitFailed hexit
  rcases hout : drainedOf .stdout events with _ | out | ⟨out, cause⟩
  · simpa [standing, hexit, hout, phaseOf, Phase.joinStdout] using .stdoutPending hexit hout
  · rcases herr : drainedOf .stderr events with _ | err | ⟨err, cause⟩
    · simpa [standing, hexit, hout, herr, phaseOf, Phase.joinStdout, Phase.joinStderr,
        Drained.text] using .stderrPending hexit hout herr
    · simpa [standing, hexit, hout, herr, phaseOf, Phase.joinStdout, Phase.joinStderr,
        Drained.text] using .done hexit hout herr
    · simpa [standing, hexit, hout, herr, phaseOf, Phase.joinStdout, Phase.joinStderr,
        Drained.text] using .stderrFailed hexit hout herr
  · simpa [standing, hexit, hout, phaseOf, Phase.joinStdout, Drained.text] using
      .stdoutFailed hexit hout

section Open

variable {a : Awaited}

theorem reached_of_open (hopen : firstOpen events = some a) :
    Reached events (some a) (phaseAfter events) := by
  rw [← hopen]
  exact reached events

/-- The first thing that has not succeeded decides the run if it has failed. -/
theorem phaseAfter_of_failed {e : RunError} (hopen : firstOpen events = some a)
    (hfailed : standing events a = .failed e) : phaseAfter events = .decided (.failed e) := by
  have hreached := reached_of_open hopen
  generalize phaseAfter events = p at hreached ⊢
  cases hreached <;> simp_all [standing]

/-- The first thing that has not succeeded leaves the run undecided if it is pending. -/
theorem verdict?_phaseAfter_of_pending (hopen : firstOpen events = some a)
    (hpending : standing events a = .pending) : (phaseAfter events).verdict? = none := by
  have hreached := reached_of_open hopen
  generalize phaseAfter events = p at hreached ⊢
  cases hreached <;> simp_all [standing, Phase.verdict?]

/-- While the exit or the standard output is pending, an overdue run has no text yet. -/
theorem whenOver_phaseAfter_of_pending (after : Text.Span) (hopen : firstOpen events = some a)
    (hpending : standing events a = .pending) (ha : a ≠ .endOf .stderr) :
    (phaseAfter events).whenOver after = .decided (.overdue after none) := by
  have hreached := reached_of_open hopen
  generalize phaseAfter events = p at hreached ⊢
  cases hreached <;> simp_all [standing, Phase.whenOver]

/-- While only the standard error is pending, an overdue run has the text of the standard output. -/
theorem whenOver_phaseAfter_of_stderr_pending (after : Text.Span) {out : List UInt8}
    (hopen : firstOpen events = some (.endOf .stderr))
    (hpending : standing events (.endOf .stderr) = .pending)
    (hout : drainedOf .stdout events = some (.whole out)) :
    (phaseAfter events).whenOver after =
      .decided (.overdue after (some (Text.Utf8.decode out))) := by
  have hreached := reached_of_open hopen
  generalize phaseAfter events = p at hreached ⊢
  cases hreached <;> simp_all [standing, Phase.whenOver]

end Open

/-- A process in a world with states: actions change the state, and the rest is seen in it. -/
structure World (σ : Type) where
  /-- The number of the process. -/
  pid : Nat
  /-- The milliseconds since the start. -/
  elapsed : σ → Nat
  /-- Takes an action. -/
  act : Action → σ → σ
  /-- What a pipe has brought, if it has been drained. -/
  brought : Pipe → σ → Option Drained

namespace World

variable {σ : Type}

/-- The custody of the process. -/
def custody (world : World σ) : Custody (StateM σ) where
  pid := world.pid
  elapsed := return world.elapsed (← get)
  act action := modify (world.act action)
  brought pipe := return world.brought pipe (← get)

/-- The state after some actions. -/
def stateAfter (world : World σ) (actions : List Action) (s : σ) : σ :=
  actions.foldl (fun s action => world.act action s) s

/-- The text of a pipe that is salvaged after some actions. -/
def salvaged (world : World σ) (actions : List Action) (pipe : Pipe) (s : σ) : String :=
  salvagedText (world.brought pipe (world.stateAfter (actions ++ [.salvage pipe]) s))

end World

/-- How a run ends whose process is in a state of a world after some events, and in which state it
leaves the world. -/
inductive Ends {σ : Type} (world : World σ) (limit : Option Text.Span) (events : List Event)
    (s : σ) : Option (Except RunError Capture) → σ → Prop
  /-- Everything awaited has succeeded in time: the run has an output. -/
  | finished {code : Option Int32} {out err : List UInt8}
    (hexit : exitOf (inTime limit events) = some (.ok code))
    (hout : drainedOf .stdout (inTime limit events) = some (.whole out))
    (herr : drainedOf .stderr (inTime limit events) = some (.whole err)) :
    Ends world limit events s
      (some (.ok { stdout := Text.Utf8.decode out, stderr := Text.Utf8.decode err, exitCode := code,
                   pid := some world.pid, elapsed := world.elapsed s })) s
  /-- The first thing that has not succeeded in time has failed. -/
  | failed {a : Awaited} {e : RunError} (hopen : firstOpen (inTime limit events) = some a)
    (hfailed : standing (inTime limit events) a = .failed e) :
    Ends world limit events s (some (.error e)) s
  /-- The first thing that has not succeeded is pending, and there is still time. -/
  | pending {a : Awaited} (hopen : firstOpen (inTime limit events) = some a)
    (hpending : standing (inTime limit events) a = .pending) (hover : isOver limit events = false) :
    Ends world limit events s none s
  /-- The exit or the standard output was pending when the time was over: the process is terminated
  and both pipes are salvaged. -/
  | timedOut {a : Awaited} {after : Text.Span} (hopen : firstOpen (inTime limit events) = some a)
    (hpending : standing (inTime limit events) a = .pending) (hover : isOver limit events = true)
    (hlimit : limit = some after) (ha : a ≠ .endOf .stderr) :
    Ends world limit events s
      (some (.error (.timedOut after (world.salvaged termination .stdout s)
        (world.salvaged (termination ++ [.salvage .stdout]) .stderr s))))
      (world.stateAfter (termination ++ [.salvage .stdout, .salvage .stderr]) s)
  /-- Only the standard error was pending when the time was over: the process is terminated and that
  pipe is salvaged, while the text of the other one is complete. -/
  | timedOutStderr {after : Text.Span} {out : List UInt8}
    (hopen : firstOpen (inTime limit events) = some (.endOf .stderr))
    (hpending : standing (inTime limit events) (.endOf .stderr) = .pending)
    (hover : isOver limit events = true) (hlimit : limit = some after)
    (hout : drainedOf .stdout (inTime limit events) = some (.whole out)) :
    Ends world limit events s
      (some (.error (.timedOut after (Text.Utf8.decode out)
        (world.salvaged termination .stderr s))))
      (world.stateAfter (termination ++ [.salvage .stderr]) s)

section Following

variable {σ : Type} {world : World σ} {s : σ}

/-- A decided run is brought to its end. -/
theorem follow_of_decided {v : Verdict} (h : (watch limit events).phase = .decided v) :
    (follow world.custody limit events).run s =
      (some ((conclude world.custody v).run s).1, ((conclude world.custody v).run s).2) := by
  simp only [follow, h, Phase.verdict?]
  rfl

/-- A run that is not decided is left as it is. -/
theorem follow_of_open (h : (watch limit events).phase.verdict? = none) :
    (follow world.custody limit events).run s = (none, s) := by
  simp only [follow, h]
  rfl

/-- What is decided in time is decided when the time is over, too. -/
theorem phase_watch_of_decided {v : Verdict} (h : phaseAfter (inTime limit events) = .decided v) :
    (watch limit events).phase = .decided v := by
  cases hover : isOver limit events with
  | false => rw [phase_watch_of_not_over hover, h]
  | true =>
    obtain ⟨after, rfl⟩ := exists_limit_of_isOver hover
    rw [phase_watch_of_over hover, h, Phase.whenOver]

/-- A run ends only as it is followed. -/
theorem Ends.follow_eq {r : Option (Except RunError Capture)} {s' : σ}
    (h : Ends world limit events s r s') :
    (follow world.custody limit events).run s = (r, s') := by
  cases h with
  | @finished code out err hexit hout herr =>
    have hphase : phaseAfter (inTime limit events) =
        .decided (.finished code (Text.Utf8.decode out) (Text.Utf8.decode err)) := by
      rw [phaseAfter, hexit, hout, herr]
      rfl
    rw [follow_of_decided (phase_watch_of_decided hphase)]
    rfl
  | failed hopen hfailed =>
    rw [follow_of_decided (phase_watch_of_decided (phaseAfter_of_failed hopen hfailed))]
    rfl
  | pending hopen hpending hover =>
    refine follow_of_open ?_
    rw [phase_watch_of_not_over hover, verdict?_phaseAfter_of_pending hopen hpending]
  | @timedOut a after hopen hpending hover hlimit ha =>
    subst hlimit
    have hphase := (phase_watch_of_over hover).trans
      (whenOver_phaseAfter_of_pending after hopen hpending ha)
    rw [follow_of_decided hphase]
    rfl
  | @timedOutStderr after out hopen hpending hover hlimit hout =>
    subst hlimit
    have hphase := (phase_watch_of_over hover).trans
      (whenOver_phaseAfter_of_stderr_pending after hopen hpending hout)
    rw [follow_of_decided hphase]
    rfl

/-- While the exit or the standard output is pending, a run ends with the time or not yet. -/
theorem exists_ends_of_pending {a : Awaited} (world : World σ) (s : σ)
    (hopen : firstOpen (inTime limit events) = some a)
    (hpending : standing (inTime limit events) a = .pending) (ha : a ≠ .endOf .stderr) :
    ∃ r s', Ends world limit events s r s' := by
  cases hover : isOver limit events with
  | false => exact ⟨_, _, .pending hopen hpending hover⟩
  | true =>
    obtain ⟨after, hlimit⟩ := exists_limit_of_isOver hover
    exact ⟨_, _, .timedOut hopen hpending hover hlimit ha⟩

/-- While only the standard error is pending, a run ends with the time or not yet. -/
theorem exists_ends_of_stderr_pending {out : List UInt8} (world : World σ) (s : σ)
    (hopen : firstOpen (inTime limit events) = some (.endOf .stderr))
    (hpending : standing (inTime limit events) (.endOf .stderr) = .pending)
    (hout : drainedOf .stdout (inTime limit events) = some (.whole out)) :
    ∃ r s', Ends world limit events s r s' := by
  cases hover : isOver limit events with
  | false => exact ⟨_, _, .pending hopen hpending hover⟩
  | true =>
    obtain ⟨after, hlimit⟩ := exists_limit_of_isOver hover
    exact ⟨_, _, .timedOutStderr hopen hpending hover hlimit hout⟩

/-- Every run ends in some way or is still pending. -/
theorem exists_ends (world : World σ) (limit : Option Text.Span) (events : List Event) (s : σ) :
    ∃ r s', Ends world limit events s r s' := by
  have hreached := reached (inTime limit events)
  generalize hopen : firstOpen (inTime limit events) = a at hreached
  generalize phaseAfter (inTime limit events) = p at hreached
  cases hreached with
  | exitPending hexit =>
    exact exists_ends_of_pending world s hopen (by rw [standing, hexit]) (by simp)
  | exitFailed hexit => exact ⟨_, _, .failed hopen (by rw [standing, hexit])⟩
  | stdoutPending _ hout =>
    exact exists_ends_of_pending world s hopen (by rw [standing, hout]) (by simp)
  | stdoutFailed _ hout => exact ⟨_, _, .failed hopen (by rw [standing, hout])⟩
  | stderrPending _ hout herr =>
    exact exists_ends_of_stderr_pending world s hopen (by rw [standing, herr]) hout
  | stderrFailed _ _ herr => exact ⟨_, _, .failed hopen (by rw [standing, herr])⟩
  | done hexit hout herr => exact ⟨_, _, .finished hexit hout herr⟩

/-- A run is followed in the one way in which it ends. -/
theorem follow_eq_iff {r : Option (Except RunError Capture)} {s' : σ} :
    (follow world.custody limit events).run s = (r, s') ↔ Ends world limit events s r s' := by
  refine ⟨fun hfollow => ?_, Ends.follow_eq⟩
  obtain ⟨r', s'', hends⟩ := exists_ends world limit events s
  cases hends.follow_eq.symm.trans hfollow
  exact hends

/-- A run has an output only if everything awaited has succeeded in time. -/
theorem Ends.exists_of_ok {capture : Capture} {s' : σ}
    (h : Ends world limit events s (some (.ok capture)) s') :
    ∃ code out err, exitOf (inTime limit events) = some (.ok code) ∧
      drainedOf .stdout (inTime limit events) = some (.whole out) ∧
      drainedOf .stderr (inTime limit events) = some (.whole err) ∧
      capture = { stdout := Text.Utf8.decode out, stderr := Text.Utf8.decode err,
                  exitCode := code, pid := some world.pid, elapsed := world.elapsed s } := by
  cases h with
  | finished hexit hout herr => exact ⟨_, _, _, hexit, hout, herr, rfl⟩

/-- No failure of something awaited is a timeout. -/
theorem standing_ne_timedOut (events : List Event) (a : Awaited) (after : Text.Span)
    (out err : String) : standing events a ≠ .failed (.timedOut after out err) := by
  cases a <;> simp only [standing] <;> split <;> simp

/-- A run is timed out only if there is a limit, which is over, and only after the process has been
terminated. -/
theorem Ends.exists_of_timedOut {after : Text.Span} {out err : String} {s' : σ}
    (h : Ends world limit events s (some (.error (.timedOut after out err))) s') :
    limit = some after ∧ isOver limit events = true ∧
      ∃ salvages, s' = world.stateAfter (termination ++ salvages) s := by
  cases h with
  | failed _ hfailed => exact absurd hfailed (standing_ne_timedOut _ _ _ _ _)
  | timedOut _ _ hover hlimit _ => exact ⟨hlimit, hover, _, rfl⟩
  | timedOutStderr _ _ hover hlimit _ => exact ⟨hlimit, hover, _, rfl⟩

/-- Further events do not change how a run has ended. -/
theorem follow_append (hended : ((follow world.custody limit events).run s).1 ≠ none)
    (more : List Event) :
    (follow world.custody limit (events ++ more)).run s =
      (follow world.custody limit events).run s := by
  cases hphase : (watch limit events).phase with
  | decided v =>
    rw [follow_of_decided hphase, follow_of_decided (phase_watch_append hphase more)]
  | _ => exact absurd (by rw [follow_of_open (by rw [hphase]; rfl)]) hended

/-- The run is followed to the end that its events decide, whatever their order. It has an output if
and only if everything awaited has succeeded in time; it is timed out only if there is a limit,
which is over, and only after the process has been terminated; and what has been decided is not
changed by further events. -/
theorem follow_ends (world : World σ) (limit : Option Text.Span) (events : List Event) (s : σ) :
    (∀ r s', (follow world.custody limit events).run s = (r, s') ↔
      Ends world limit events s r s') ∧
    (∀ capture, ((follow world.custody limit events).run s).1 = some (.ok capture) ↔
      ∃ code out err, exitOf (inTime limit events) = some (.ok code) ∧
        drainedOf .stdout (inTime limit events) = some (.whole out) ∧
        drainedOf .stderr (inTime limit events) = some (.whole err) ∧
        capture = { stdout := Text.Utf8.decode out, stderr := Text.Utf8.decode err,
                    exitCode := code, pid := some world.pid, elapsed := world.elapsed s }) ∧
    (∀ after out err, ((follow world.custody limit events).run s).1 =
        some (.error (.timedOut after out err)) →
      limit = some after ∧ isOver limit events = true ∧
        ∃ salvages, ((follow world.custody limit events).run s).2 =
          world.stateAfter (termination ++ salvages) s) ∧
    (((follow world.custody limit events).run s).1 ≠ none → ∀ more,
      (follow world.custody limit (events ++ more)).run s =
        (follow world.custody limit events).run s) := by
  refine ⟨fun r s' => follow_eq_iff, fun capture => ⟨fun hok => ?_, ?_⟩,
    fun after out err htimedOut => ?_, follow_append⟩
  · exact (follow_eq_iff.mp (Prod.ext hok rfl)).exists_of_ok
  · rintro ⟨code, out, err, hexit, hout, herr, rfl⟩
    rw [(Ends.finished hexit hout herr).follow_eq]
  · exact (follow_eq_iff.mp (Prod.ext htimedOut rfl)).exists_of_timedOut

end Following

/-- A world that records what is done and in which a pipe fails once it is given some time. -/
def recorder : World (List Action) where
  pid := 42
  elapsed := List.length
  act action log := log ++ [action]
  brought pipe log :=
    if .salvage pipe ∈ log then some (.broken [0x65, 0x72] "closed") else none

/-- A process that exits at once and leaves its standard error open is overdue. It is terminated,
and what it wrote is kept: all of the standard output, which ended before the exit, and of the
standard error what was read in the time that it was given. -/
theorem follow_ends_open_stderr :
    let events := [.drained .stdout (.whole [0x6f, 0x6b]), .exited (.ok (some 0)), .deadline,
      .drained .stderr (.whole [0x65])]
    let run := (follow recorder.custody (some (.ofSeconds 30)) events).run []
    run = (some (.error (.timedOut (.ofSeconds 30) "ok" "er")),
      [.askToEnd, .awaitExit, .kill, .reap, .salvage .stderr]) ∧
    (∃ salvages, run.2 = recorder.stateAfter (termination ++ salvages) []) ∧
    ∀ more, (follow recorder.custody (some (.ofSeconds 30)) (events ++ more)).run [] = run := by
  intro events run
  obtain ⟨hends, -, htimedOut, happend⟩ := follow_ends recorder (some (.ofSeconds 30)) events []
  have hend : Ends recorder (some (.ofSeconds 30)) events [] _ _ :=
    .timedOutStderr rfl rfl rfl rfl rfl
  have hrun := (hends _ _).mpr hend
  refine ⟨hrun.trans rfl, (htimedOut _ _ _ (congrArg Prod.fst hrun)).2.2, happend ?_⟩
  rw [hrun]
  exact Option.some_ne_none _

end PauseWatch.Run

namespace PauseWatch.Host

open Run (World Ends follow_eq_iff)

/-- The host as the world of a process that was started on it. -/
def Started.world (s : Started) (r : Runner) (since : Nat) : World Host where
  pid := s.pid
  elapsed h := (h.now - since) / 1000
  act action h := s.act r h action
  brought pipe h := (s.drained? h pipe).map (·.2)

/-- A launch that starts is followed through what happens on the host, at most until a deadline if
there is a limit, and ends as that decides. -/
theorem run_ends {r : Runner} {spec : LaunchSpec} {h begun : Host} {s : Started}
    (hstart : h.start r spec = .ok (begun, s))
    (hclock : ∀ span, r.timeout = some span →
      ((Run.Instant.mk (h.now * 1000)).after? span).isSome) :
    ∃ (deadline : Option Nat) (h' : Host) (result : Option (Except RunError Capture)) (left : Host),
      deadline.isSome = r.timeout.isSome ∧
      h' = begun.advance r.toolbox deadline s.isOver r.patience ∧
      Ends (s.world r h.now) r.timeout (s.events h') h' result left ∧
      h.run r spec = (s.leave left, result.elim (.error .endless) .ok) := by
  have hends (h' : Host) := follow_eq_iff.mp
    (Prod.eta ((Run.follow (s.world r h.now).custody r.timeout (s.events h')).run h')).symm
  cases htimeout : r.timeout with
  | none =>
    refine ⟨none, _, _, _, rfl, rfl, htimeout ▸ hends _, ?_⟩
    simp only [run, htimeout, hstart]
    rfl
  | some span =>
    obtain ⟨t, ht⟩ := Option.isSome_iff_exists.mp (hclock span htimeout)
    refine ⟨some (t.nanos / 1000), _, _, _, rfl, rfl, htimeout ▸ hends _, ?_⟩
    simp only [run, htimeout, ht, hstart]
    rfl

end PauseWatch.Host
