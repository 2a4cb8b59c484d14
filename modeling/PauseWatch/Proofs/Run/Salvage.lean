import PauseWatch.Proofs.Run.Drain
import PauseWatch.Proofs.Run.Supervision

/-!
# What is kept of a run that is timed out

The pipes of a process are read while it is supervised and while it is terminated, so in every later
state more has been read. Of a run that is timed out all is kept that was read from a pipe, if that
has ended in the time that it was given. Otherwise nothing is kept, whatever was read before.
-/

namespace PauseWatch.Run

variable {σ : Type} {world : World σ}

/-- How the pipes of a process are read in its world. -/
structure Reading (world : World σ) where
  /-- The reads of a pipe that have been made. -/
  reads : Pipe → σ → List ReadResult
  /-- Which states can come up. -/
  Possible : σ → Prop
  /-- An action leads on to a possible state. -/
  possible_act {s : σ} (hs : Possible s) (action : Action) : Possible (world.act action s)
  /-- While an action is taken, further reads may be made. -/
  prefix_act {s : σ} (hs : Possible s) (action : Action) (pipe : Pipe) :
    reads pipe s <+: reads pipe (world.act action s)
  /-- A pipe has brought what draining makes of the reads. -/
  brought_eq {s : σ} (hs : Possible s) (pipe : Pipe) :
    world.brought pipe s = drain (some (reads pipe s))

/-- The text that is kept of a pipe that was read so far: all that was read if it has ended, and
nothing otherwise. -/
def keptText (reads : List ReadResult) : String :=
  if (drain (some reads)).isSome then Text.Utf8.decode (bytesRead reads) else ""

theorem salvagedText_drain (reads : List ReadResult) :
    salvagedText (drain (some reads)) = keptText reads := by
  rw [keptText]
  cases hd : drain (some reads) with
  | none => rfl
  | some d => exact salvaged_of_drain hd

namespace Reading

variable (reading : Reading world) {s : σ}

/-- Actions lead on to possible states. -/
theorem possible_stateAfter (hs : reading.Possible s) (actions : List Action) :
    reading.Possible (world.stateAfter actions s) := by
  induction actions generalizing s with
  | nil => exact hs
  | cons action rest ih => exact ih (reading.possible_act hs action)

/-- While actions are taken, further reads may be made. -/
theorem prefix_stateAfter (hs : reading.Possible s) (actions : List Action) (pipe : Pipe) :
    reading.reads pipe s <+: reading.reads pipe (world.stateAfter actions s) := by
  induction actions generalizing s with
  | nil => exact List.prefix_rfl
  | cons action rest ih =>
    exact (reading.prefix_act hs action pipe).trans (ih (reading.possible_act hs action))

/-- While further actions are taken, further reads may be made. -/
theorem prefix_append (hs : reading.Possible s) (actions more : List Action) (pipe : Pipe) :
    reading.reads pipe (world.stateAfter actions s) <+:
      reading.reads pipe (world.stateAfter (actions ++ more) s) := by
  have happend : world.stateAfter (actions ++ more) s =
      world.stateAfter more (world.stateAfter actions s) := List.foldl_append
  rw [happend]
  exact reading.prefix_stateAfter (reading.possible_stateAfter hs actions) more pipe

/-- The text of a pipe that is salvaged is what is kept of its reads then. -/
theorem salvaged_eq (hs : reading.Possible s) (actions : List Action) (pipe : Pipe) :
    world.salvaged actions pipe s =
      keptText (reading.reads pipe (world.stateAfter (actions ++ [.salvage pipe]) s)) := by
  rw [World.salvaged, reading.brought_eq (reading.possible_stateAfter hs _), salvagedText_drain]

/-- A pipe that has ended is kept whole, whatever is done afterwards. -/
theorem keptText_of_brought {d : Drained} {pipe : Pipe} (hs : reading.Possible s)
    (hd : world.brought pipe s = some d) (actions : List Action) :
    keptText (reading.reads pipe (world.stateAfter actions s)) = d.salvaged := by
  rw [reading.brought_eq hs] at hd
  have hlater := drain_mono (reading.prefix_stateAfter hs actions pipe) hd
  rw [keptText, hlater, Option.isSome_some, if_pos rfl, salvaged_of_drain hlater]

end Reading

/-- Whether the pipes have brought in a state what they brought in the course of some events. -/
def World.Agrees (world : World σ) (events : List Event) (s : σ) : Prop :=
  ∀ pipe d, drainedOf pipe events = some d → world.brought pipe s = some d

/-- Whether the standard output is given some time: not if only the standard error is open. -/
def stdoutSalvages (firstOpen : Option Awaited) : List Action :=
  if firstOpen = some (.endOf .stderr) then [] else [.salvage .stdout]

/-- The pipes that are given some time, one after the other, before the text of a pipe is taken. -/
def salvagesUntil (firstOpen : Option Awaited) : Pipe → List Action
  | .stdout => stdoutSalvages firstOpen
  | .stderr => stdoutSalvages firstOpen ++ [.salvage .stderr]

/-- The text of a pipe, given those of both. -/
def textOf (stdout stderr : String) : Pipe → String
  | .stdout => stdout
  | .stderr => stderr

variable {limit : Option Text.Span} {events : List Event} {s s' : σ} {after : Text.Span}
  {out err : String}

/-- The texts of a run that is timed out are what is kept of the pipes, of each after it was given
some time if it was still awaited. -/
theorem Ends.text_of_timedOut (reading : Reading world) (hs : reading.Possible s)
    (hevents : world.Agrees (inTime limit events) s)
    (h : Ends world limit events s (some (.error (.timedOut after out err))) s') (pipe : Pipe) :
    let salvages := salvagesUntil (firstOpen (inTime limit events)) pipe
    textOf out err pipe =
      keptText (reading.reads pipe (world.stateAfter (termination ++ salvages) s)) := by
  dsimp only
  cases h with
  | failed _ hfailed => exact absurd hfailed (standing_ne_timedOut _ _ _ _ _)
  | @timedOut a _ hopen _ _ _ ha =>
    have hstdout : stdoutSalvages (firstOpen (inTime limit events)) = [.salvage .stdout] :=
      if_neg (by simpa [hopen] using ha)
    cases pipe with
    | stdout => rw [textOf, reading.salvaged_eq hs, salvagesUntil, hstdout]
    | stderr => rw [textOf, reading.salvaged_eq hs, salvagesUntil, hstdout, List.append_assoc]
  | @timedOutStderr _ out hopen _ _ _ hout =>
    have hstdout : stdoutSalvages (firstOpen (inTime limit events)) = [] := if_pos hopen
    cases pipe with
    | stdout =>
      rw [textOf, reading.keptText_of_brought hs (hevents _ _ hout)]
      rfl
    | stderr => rw [textOf, reading.salvaged_eq hs, salvagesUntil, hstdout, List.nil_append]

/-- The text that is kept stands for the bytes that were read before, and for whatever came behind
them, exactly if the pipe has ended or nothing was read. -/
theorem keptText_stands_iff {before final : List ReadResult} (h : before <+: final) :
    (∃ bytes, bytesRead before <+: bytes ∧ keptText final = Text.Utf8.decode bytes) ↔
      (drain (some final)).isSome ∨ bytesRead before = [] := by
  rw [keptText]
  split
  · next hended => exact iff_of_true ⟨_, bytesRead_mono h, rfl⟩ (.inl hended)
  · next hended =>
    rw [or_iff_right hended]
    constructor
    · rintro ⟨bytes, hbytes, hempty⟩
      rw [Text.Utf8.decode_eq_empty_iff.mp hempty.symm] at hbytes
      exact List.prefix_nil.mp hbytes
    · intro hnone
      exact ⟨[], hnone ▸ List.prefix_rfl, rfl⟩

/-- The texts of a run that is timed out are what is kept of its pipes. All that was read from a
pipe is kept, before the process had been terminated and afterwards, if the pipe has ended when the
time that it was given is over; and otherwise nothing, so that only a pipe from which nothing had
been read loses nothing. -/
theorem follow_timedOut_texts (reading : Reading world) (hs : reading.Possible s)
    (hevents : world.Agrees (inTime limit events) s)
    (h : ((follow world.custody limit events).run s).1 = some (.error (.timedOut after out err)))
    (pipe : Pipe) :
    let salvages := salvagesUntil (firstOpen (inTime limit events)) pipe
    let before := reading.reads pipe (world.stateAfter termination s)
    let final := reading.reads pipe (world.stateAfter (termination ++ salvages) s)
    bytesRead before <+: bytesRead final ∧
    textOf out err pipe =
      (if (drain (some final)).isSome then Text.Utf8.decode (bytesRead final) else "") ∧
    ((∃ bytes, bytesRead before <+: bytes ∧ textOf out err pipe = Text.Utf8.decode bytes) ↔
      (drain (some final)).isSome ∨ bytesRead before = []) := by
  intro salvages before final
  have hends := follow_eq_iff.mp (Prod.ext h rfl)
  have htext : textOf out err pipe = keptText final :=
    hends.text_of_timedOut reading hs hevents pipe
  have hprefix : before <+: final := reading.prefix_append hs termination salvages pipe
  refine ⟨bytesRead_mono hprefix, htext, ?_⟩
  rw [htext]
  exact keptText_stands_iff hprefix

/-- The reads of a process whose standard output ends when it is killed, while its standard error is
held open by somebody else. -/
def heldOpen (pipe : Pipe) (actions : List Action) : List ReadResult :=
  match pipe with
  | .stdout => .bytes [0x6f] :: if .kill ∈ actions then [.bytes [0x6b], .bytes []] else []
  | .stderr => [.bytes [0x65]]

/-- A world that records what is done with such a process. -/
def holder : World (List Action) where
  pid := 42
  elapsed := List.length
  act action actions := actions ++ [action]
  brought pipe actions := drain (some (heldOpen pipe actions))

/-- How the pipes of such a process are read. -/
def holderReading : Reading holder where
  reads := heldOpen
  Possible _ := True
  possible_act _ _ := trivial
  prefix_act {actions} _ action pipe := by
    cases pipe with
    | stdout =>
      by_cases hkill : Action.kill ∈ actions <;> simp [heldOpen, holder, hkill]
    | stderr => exact List.prefix_rfl
  brought_eq _ _ := rfl

/-- What was read from a pipe that is held open is lost, while the other one is kept whole. -/
theorem follow_timedOut_texts_held_open :
    let events : List Event := [.exited (.ok (some 0)), .deadline]
    let run := (follow holder.custody (some (.ofSeconds 30)) events).run []
    holder.Agrees (inTime (some (.ofSeconds 30)) events) [] ∧
    run.1 = some (.error (.timedOut (.ofSeconds 30) "ok" "")) ∧
    bytesRead (heldOpen .stderr (holder.stateAfter termination [])) = [0x65] ∧
    (∃ bytes, bytesRead (heldOpen .stdout (holder.stateAfter termination [])) <+: bytes ∧
      "ok" = Text.Utf8.decode bytes) ∧
    ¬ ∃ bytes, [0x65] <+: bytes ∧ "" = Text.Utf8.decode bytes := by
  intro events run
  have hevents : holder.Agrees (inTime (some (.ofSeconds 30)) events) [] := by
    intro pipe d hd
    cases hd
  have hrun : run.1 = some (.error (.timedOut (.ofSeconds 30) "ok" "")) := rfl
  have htexts (pipe : Pipe) := follow_timedOut_texts holderReading trivial hevents hrun pipe
  refine ⟨hevents, hrun, rfl, ?_, ?_⟩
  · obtain ⟨-, -, hstands⟩ := htexts .stdout
    exact hstands.mpr (by decide)
  · obtain ⟨-, -, hstands⟩ := htexts .stderr
    exact fun hkept => absurd (hstands.mp hkept) (by decide)

end PauseWatch.Run
