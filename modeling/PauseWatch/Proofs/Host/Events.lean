import PauseWatch.Proofs.Run.Drain
import PauseWatch.Proofs.Run.Supervision

/-!
# What has happened to a process on the host

A process that was started has an exit once it has ended, a pipe is drained once it has ended, and
the deadline passes if something is still to wait for. So a run with a limit is always decided: what
is pending has the deadline against it.
-/

namespace PauseWatch.Run

variable {σ : Type} {world : World σ} {limit : Option Text.Span} {events : List Event} {s s' : σ}
  {r : Option (Except RunError Capture)}

/-- A run is decided if its time is over, or if nothing that it awaits is pending. -/
theorem Ends.isSome (h : Ends world limit events s r s')
    (hdecided : isOver limit events = true ∨ ∀ a, standing (inTime limit events) a ≠ .pending) :
    r.isSome := by
  cases h with
  | pending _ hpending hover =>
    obtain hover' | hnone := hdecided
    · rw [hover] at hover'
      cases hover'
    · exact absurd hpending (hnone _)
  | _ => rfl

/-- An exit among some events is not pending. -/
theorem standing_exit_ne_pending {result : Except String (Option Int32)}
    (h : .exited result ∈ events) : standing events .exit ≠ .pending := by
  rw [standing]
  split
  · next hnone => exact absurd (List.findSome?_eq_none_iff.mp hnone _ h) (Option.some_ne_none _)
  · exact Standing.noConfusion
  · exact Standing.noConfusion

/-- A pipe whose end is among some events is not pending. -/
theorem standing_endOf_ne_pending {pipe : Pipe} {d : Drained} (h : .drained pipe d ∈ events) :
    standing events (.endOf pipe) ≠ .pending := by
  rw [standing]
  split
  · next hnone =>
    have := List.findSome?_eq_none_iff.mp hnone _ h
    simp [Event.drained?] at this
  · exact Standing.noConfusion
  · exact Standing.noConfusion

/-- What a pipe has brought in the course of some events is in one of them. -/
theorem drained_mem_of_drainedOf {pipe : Pipe} {d : Drained} (h : drainedOf pipe events = some d) :
    .drained pipe d ∈ events := by
  obtain ⟨e, hmem, he⟩ := List.exists_of_findSome?_eq_some h
  cases e with
  | drained other result =>
    rw [Event.drained?] at he
    split at he
    · next hpipe =>
      cases he
      exact hpipe ▸ hmem
    · cases he
  | exited result => cases he
  | deadline => cases he

/-- What has happened in time has happened. -/
theorem mem_of_mem_inTime {e : Event} (h : e ∈ inTime limit events) : e ∈ events := by
  rw [inTime] at h
  split at h
  · exact (List.takeWhile_sublist _).subset h
  · exact h

end PauseWatch.Run

namespace PauseWatch.Host.Started

open Run (Event Drained)

variable {s : Started} {h : Host} {pipe : Pipe}

/-- A pipe is drained once it has ended. -/
theorem isSome_drained? (hended : s.hasEnded h pipe = true) : (s.drained? h pipe).isSome := by
  obtain ⟨endedAt, hendedAt⟩ := Option.isSome_iff_exists.mp hended
  have hdrained : (Run.drain (some (s.reads h pipe))).isSome :=
    Run.isSome_drain_iff.mpr ⟨.bytes [], by simp [reads], rfl⟩
  obtain ⟨d, hd⟩ := Option.isSome_iff_exists.mp hdrained
  simp [drained?, hendedAt, hd]

/-- The events are what is left of the process, what its pipes have brought, and the deadline unless
there is nothing left to wait for. -/
theorem mem_events_iff {e : Event} :
    e ∈ s.events h ↔
      (∃ r, s.remains? h = some r ∧ e = .exited (.ok r.ending.code)) ∨
      (∃ pipe at_ d, s.drained? h pipe = some (at_, d) ∧ e = .drained pipe d) ∨
      (s.isOver h = false ∧ e = .deadline) := by
  rw [events, List.mem_append, or_assoc.symm]
  refine or_congr ?_ ?_
  · simp only [List.mem_map, List.mem_mergeSort, List.mem_append, Option.mem_toList,
      Option.map_eq_some_iff]
    constructor
    · rintro ⟨timed, (⟨r, hr, rfl⟩ | ⟨⟨at_, d⟩, hd, rfl⟩) | ⟨⟨at_, d⟩, hd, rfl⟩, rfl⟩
      · exact .inl ⟨r, hr, rfl⟩
      · exact .inr ⟨.stdout, at_, d, hd, rfl⟩
      · exact .inr ⟨.stderr, at_, d, hd, rfl⟩
    · rintro (⟨r, hr, rfl⟩ | ⟨pipe, at_, d, hd, rfl⟩)
      · exact ⟨_, .inl (.inl ⟨r, hr, rfl⟩), rfl⟩
      · cases pipe with
        | stdout => exact ⟨_, .inl (.inr ⟨_, hd, rfl⟩), rfl⟩
        | stderr => exact ⟨_, .inr ⟨_, hd, rfl⟩, rfl⟩
  · cases s.isOver h <;> simp

/-- Where there is nothing left to wait for, nothing that is awaited is pending. -/
theorem standing_events_ne_pending (hover : s.isOver h = true) (a : Run.Awaited) :
    Run.standing (s.events h) a ≠ .pending := by
  simp only [isOver, Bool.and_eq_true] at hover
  obtain ⟨⟨hexit, hout⟩, herr⟩ := hover
  have hended (pipe : Pipe) : s.hasEnded h pipe = true := by
    cases pipe
    · exact hout
    · exact herr
  cases a with
  | exit =>
    obtain ⟨r, hr⟩ := Option.isSome_iff_exists.mp hexit
    exact Run.standing_exit_ne_pending (mem_events_iff.mpr (.inl ⟨r, hr, rfl⟩))
  | endOf pipe =>
    obtain ⟨⟨at_, d⟩, hd⟩ := Option.isSome_iff_exists.mp (isSome_drained? (hended pipe))
    exact Run.standing_endOf_ne_pending (mem_events_iff.mpr (.inr (.inl ⟨pipe, at_, d, hd, rfl⟩)))

/-- With a limit, what has happened to a process decides its run. -/
theorem isSome_of_limit {world : Run.World Host} {limit : Option Text.Span}
    {result : Option (Except RunError Capture)} {h' left : Host} (hlimit : limit.isSome = true)
    (hends : Run.Ends world limit (s.events h) h' result left) : result.isSome := by
  refine hends.isSome ?_
  cases hover : s.isOver h with
  | false =>
    left
    have hmem : Event.deadline ∈ s.events h := mem_events_iff.mpr (.inr (.inr ⟨hover, rfl⟩))
    rw [Run.isOver, hlimit, Bool.true_and]
    exact List.any_eq_true.mpr ⟨_, hmem, rfl⟩
  | true =>
    right
    have hnone : Run.isOver limit (s.events h) = false := by
      rw [Run.isOver, hlimit, Bool.true_and, List.any_eq_false]
      intro e he hdeadline
      obtain ⟨r, _, rfl⟩ | ⟨pipe, at_, d, _, rfl⟩ | ⟨hopen, _⟩ := mem_events_iff.mp he
      · cases hdeadline
      · cases hdeadline
      · rw [hover] at hopen
        cases hopen
    rw [Run.inTime_of_not_over hnone]
    exact standing_events_ne_pending hover

end PauseWatch.Host.Started
