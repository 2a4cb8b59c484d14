import Mathlib
import PauseWatch.Proofs.Host.Conduit
import PauseWatch.Proofs.Host.Deadline
import PauseWatch.Proofs.Run.Salvage

/-!
# What is kept of a run on the host

The chunks that the outside has seen of a pipe are the reads of it, and its end is the read that
brings nothing. So a run on the host that is timed out keeps all that was read from a pipe that has
ended, and nothing of one that somebody holds open.
-/

namespace PauseWatch.Host

open Run (ReadResult Reading bytesRead bytesRead_mono drain keptText textOf termination)

namespace Started

variable {s : Started} {h later : Host} {pipe : Pipe}

/-- The reads of a pipe that were made so far. -/
def readsSoFar (s : Started) (pipe : Pipe) (h : Host) : List ReadResult :=
  ((h.conduit (s.conduit pipe)).seen.reverse.map .bytes) ++
    if s.hasEnded h pipe then [.bytes []] else []

/-- Whether every chunk that was seen of the pipes brings something. -/
def SeesChunks (s : Started) (h : Host) : Prop :=
  ∀ pipe, ∀ chunk ∈ (h.conduit (s.conduit pipe)).seen, chunk ≠ []

theorem SeesChunks.onward (hsees : s.SeesChunks h) (hlater : h.Onward later) :
    s.SeesChunks later := by
  intro pipe chunk hchunk
  obtain ⟨more, hseen, hmore⟩ := (hlater (s.conduit pipe)).seen
  rw [hseen] at hchunk
  rcases List.mem_append.mp hchunk with hchunk | hchunk
  · exact hmore chunk hchunk
  · exact hsees pipe chunk hchunk

/-- Later there are further reads. -/
theorem readsSoFar_mono (s : Started) (pipe : Pipe) (hlater : h.Onward later) :
    s.readsSoFar pipe h <+: s.readsSoFar pipe later := by
  have honward := hlater (s.conduit pipe)
  cases hended : s.hasEnded h pipe with
  | true =>
    obtain ⟨hseen, hat⟩ := honward.ended hended
    have hended' : s.hasEnded later pipe = true := by rw [hasEnded, hat]; exact hended
    rw [readsSoFar, readsSoFar, hended, hended', hseen]
  | false =>
    obtain ⟨more, hseen, -⟩ := honward.seen
    rw [readsSoFar, readsSoFar, hended, hseen, List.reverse_append, List.map_append,
      List.append_assoc]
    exact List.prefix_append_right_inj _ |>.mpr List.nil_prefix

/-- A pipe has brought what draining makes of the reads so far. -/
theorem drained?_eq (hsees : s.SeesChunks h) (pipe : Pipe) :
    (s.drained? h pipe).map (·.2) = drain (some (s.readsSoFar pipe h)) := by
  cases hended : s.hasEnded h pipe with
  | true =>
    obtain ⟨endedAt, hat⟩ := Option.isSome_iff_exists.mp hended
    have hreads : s.readsSoFar pipe h = s.reads h pipe := by rw [readsSoFar, hended]; rfl
    rw [hreads, drained?, hat]
    cases drain (some (s.reads h pipe)) <;> rfl
  | false =>
    have hopen : drain (some (s.readsSoFar pipe h)) = none := by
      rw [readsSoFar, hended, if_neg Bool.false_ne_true, List.append_nil,
        ← Option.not_isSome_iff_eq_none, Run.isSome_drain_iff]
      rintro ⟨read, hread, hstop⟩
      obtain ⟨chunk, hchunk, rfl⟩ := List.mem_map.mp hread
      refine hsees pipe chunk (List.mem_reverse.mp hchunk) ?_
      simpa [ReadResult.goesOn] using hstop
    have hat : (h.conduit (s.conduit pipe)).endedAt = none := by
      simpa [hasEnded] using hended
    rw [hopen, drained?, hat]
    rfl

/-- What has happened in time to a process agrees with the host. -/
theorem agrees_events (s : Started) (r : Runner) (since : Nat) (limit : Option Text.Span)
    (h : Host) : (s.world r since).Agrees (Run.inTime limit (s.events h)) h := by
  intro pipe d hd
  have hmem := Run.mem_of_mem_inTime (Run.drained_mem_of_drainedOf hd)
  obtain ⟨_, _, hexit⟩ | ⟨_, at_, _, hdrained, hevent⟩ | ⟨_, hdeadline⟩ := mem_events_iff.mp hmem
  · cases hexit
  · cases hevent
    exact congrArg (Option.map (·.2)) hdrained
  · cases hdeadline

/-- How the pipes of a process on the host are read. -/
def reading (s : Started) (r : Runner) (since : Nat) : Reading (s.world r since) where
  reads := s.readsSoFar
  Possible := s.SeesChunks
  possible_act hsees action := hsees.onward (onward_act s r _ action)
  prefix_act _ action pipe := s.readsSoFar_mono pipe (onward_act s r _ action)
  brought_eq hsees pipe := drained?_eq hsees pipe

end Started

variable {r : Runner} {spec : LaunchSpec} {h begun : Host} {s : Started} {after : Text.Span}
  {out err : String}

/-- A process starts with two new conduits, of which nothing was seen. -/
theorem conduits_of_start (hstart : h.start r spec = .ok (begun, s)) :
    s.stderr ≠ s.stdout ∧
      begun.conduits = (s.stdout, { isWatched := true }) :: (s.stderr, { isWatched := true }) ::
        h.conduits := by
  unfold start at hstart
  split at hstart
  · cases hstart
  · simp only [bind, Except.bind, pure, Except.pure] at hstart
    split at hstart
    · cases hstart
    · cases hstart
      exact ⟨by simp, rfl⟩

/-- Nothing was seen of a process that has just started. -/
theorem sees_of_start (hstart : h.start r spec = .ok (begun, s)) : s.SeesChunks begun := by
  obtain ⟨hne, hconduits⟩ := conduits_of_start hstart
  intro pipe chunk hchunk
  have hnew : begun.conduit (s.conduit pipe) = { isWatched := true } := by
    rw [conduit, hconduits]
    cases pipe with
    | stdout => rw [Started.conduit, List.lookup_cons_self, Option.getD_some]
    | stderr =>
      rw [Started.conduit, List.lookup_cons, beq_false_of_ne hne, List.lookup_cons_self,
        Option.getD_some]
  rw [hnew] at hchunk
  cases hchunk

/-- The texts of a run on the host that is timed out are what is kept of the pipes of its process
when it has been terminated and the pipes have been given some time. -/
theorem run_timedOut_texts (hstart : h.start r spec = .ok (begun, s))
    (hrun : (h.run r spec).2 = .ok (.error (.timedOut after out err))) :
    ∃ deadline,
      let passed := begun.advance r.toolbox deadline s.isOver r.patience
      let events := Run.inTime r.timeout (s.events passed)
      let hostAfter (actions : List Run.Action) := (s.world r h.now).stateAfter actions passed
      ∀ pipe,
        let salvages := Run.salvagesUntil (Run.firstOpen events) pipe
        let before := s.readsSoFar pipe (hostAfter termination)
        let final := s.readsSoFar pipe (hostAfter (termination ++ salvages))
        bytesRead before <+: bytesRead final ∧ textOf out err pipe = keptText final := by
  have hclock : r.CountsFrom h := by
    by_contra hclock
    rw [run_of_not_countsFrom hclock] at hrun
    cases hrun
  obtain ⟨deadline, passed, result, left, -, rfl, hends, hanswer⟩ := run_ends hstart hclock
  rw [hanswer] at hrun
  cases result with
  | none => cases hrun
  | some answer =>
    cases hrun
    have hsees := (sees_of_start hstart).onward
      (onward_advance r.toolbox deadline s.isOver r.patience begun)
    refine ⟨deadline, fun pipe => ⟨bytesRead_mono ?_, ?_⟩⟩
    · exact (s.reading r h.now).prefix_append hsees termination _ pipe
    · exact hends.text_of_timedOut (s.reading r h.now) hsees (s.agrees_events r _ _ _) pipe

/-- A process that writes a word and exits, while a child in a group of its own holds its pipes open
for two seconds. -/
def lingering : Program :=
  .write 1 [0x6c, 0x6f, 0x73, 0x74] fun _ =>
    .spawn (fun _ => .lead fun _ => .pause 2000000 fun _ => .exit 0) fun _ => .exit 0

/-- What such a process wrote was read long before it was terminated, and yet the text of its
standard output is empty when it is timed out. -/
theorem run_lingering :
    let r : Runner :=
      { toolbox := fun _ _ _ => lingering, env := { vars := [] }, dir := [], patience := 100
        timeout := some (.ofMillis 250), grace := .ofMillis 100 }
    let h : Host := { files := ⟨[(["sh"], .tool "sh")]⟩ }
    (h.run r { program := "/sh" }).2 = .ok (.error (.timedOut (.ofMillis 250) "" "")) ∧
    (∃ begun s, h.start r { program := "/sh" } = .ok (begun, s) ∧
      bytesRead (s.readsSoFar .stdout ((s.world r h.now).stateAfter termination
        (begun.advance r.toolbox (some 250000) s.isOver r.patience))) = [0x6c, 0x6f, 0x73, 0x74]) ∧
    ¬ ∃ bytes, [0x6c, 0x6f, 0x73, 0x74] <+: bytes ∧ "" = Text.Utf8.decode bytes := by
  intro r h
  let process : Process :=
    { identity := ⟨300, 0, 300⟩, program := lingering, readyAt := 1000, dir := []
      table := [(0, .device .null), (1, .sink 301), (2, .sink 302)] }
  let begun : Host :=
    { files := h.files, processes := [process], nextNumber := 303
      conduits := [(301, { isWatched := true }), (302, { isWatched := true })] }
  have hstart : h.start r { program := "/sh" } = .ok (begun, ⟨300, 301, 302⟩) := by cbv
  refine ⟨?_, ⟨begun, ⟨300, 301, 302⟩, hstart, by decide +kernel⟩, ?_⟩
  · rw [run]
    simp only [hstart]
    decide +kernel
  · rintro ⟨bytes, hbytes, hempty⟩
    rw [Text.Utf8.decode_eq_empty_iff.mp hempty.symm] at hbytes
    exact absurd hbytes (by decide)

end PauseWatch.Host
