import Mathlib.Algebra.Group.Nat.Defs
import PauseWatch.CommandLine.Program
import PauseWatch.Proofs.Host.Events

/-!
# Runs with a limit

A limit may be any number of seconds, but the clock cannot count beyond its last second. A run whose
deadline lies there crashes before anything is started; any other run is refused or started, and
with a limit it is always answered.
-/

namespace PauseWatch

namespace Run.Instant

/-- The clock cannot count to an instant whose second lies at its horizon or beyond. -/
theorem after?_eq_none_iff (t : Instant) (span : Text.Span) :
    t.after? span = none ↔ horizon ≤ (t.nanos + span.nanos) / second := by
  rw [after?]
  split
  · next h => simpa [isReadable] using h
  · next h => simpa [isReadable] using h

/-- Whole seconds are counted from the second of the start. -/
theorem after?_ofSeconds_eq_none_iff (t : Instant) (n : Nat) :
    t.after? (.ofSeconds n) = none ↔ 2 ^ 63 ≤ t.nanos / second + n := by
  have hsecond : 0 < second := by decide
  have hsum : (t.nanos + (Text.Span.ofSeconds n).nanos) / second = t.nanos / second + n :=
    Nat.add_mul_div_right t.nanos n hsecond
  rw [after?_eq_none_iff, hsum]
  rfl

end Run.Instant

namespace Config

variable {c : Config}

/-- A run is limited exactly if the limit is not zero. -/
theorem timeout_eq_none_iff : c.timeout = none ↔ c.timeoutSecs = 0 := by
  rw [timeout]
  split
  · next h => exact iff_of_true rfl h
  · next h => exact iff_of_false (Option.some_ne_none _) h

theorem timeout_of_ne_zero (h : c.timeoutSecs ≠ 0) :
    c.timeout = some (.ofSeconds c.timeoutSecs.toNat) := if_neg h

end Config

namespace Host

variable {r : Runner} {spec : LaunchSpec} {h : Host}

/-- Whether the clock of a host can count to the deadline of a run that starts now. -/
def Runner.CountsFrom (r : Runner) (h : Host) : Prop :=
  ∀ span, r.timeout = some span → ((Run.Instant.mk (h.now * 1000)).after? span).isSome

/-- Where the clock cannot count to the deadline, nothing is started. -/
theorem run_of_not_countsFrom (hclock : ¬ r.CountsFrom h) :
    h.run r spec = (h, .error .clockOverflow) := by
  simp only [Runner.CountsFrom, not_forall, Option.not_isSome_iff_eq_none] at hclock
  obtain ⟨span, htimeout, hnone⟩ := hclock
  simp only [run, htimeout, hnone]

/-- A launch that the host refuses leaves it as it is. -/
theorem run_of_refused {e : RunError} (hclock : r.CountsFrom h)
    (hstart : h.start r spec = .error e) :
    h.run r spec = (h, .ok (.error e)) := by
  cases htimeout : r.timeout with
  | none => simp only [run, htimeout, hstart]
  | some span =>
    obtain ⟨t, ht⟩ := Option.isSome_iff_exists.mp (hclock span htimeout)
    simp only [run, htimeout, ht, hstart]

/-- A launch that starts is answered if there is a limit, and otherwise if it ends. -/
theorem run_of_started {begun : Host} {s : Started} (hclock : r.CountsFrom h)
    (hstart : h.start r spec = .ok (begun, s)) :
    (∃ answer, (h.run r spec).2 = .ok answer) ∨
      r.timeout = none ∧ (h.run r spec).2 = .error .endless := by
  obtain ⟨deadline, h', result, left, _, rfl, hends, hrun⟩ := run_ends hstart hclock
  rw [hrun]
  cases result with
  | some answer => exact .inl ⟨answer, rfl⟩
  | none =>
    cases htimeout : r.timeout with
    | none => exact .inr ⟨rfl, rfl⟩
    | some span =>
      rw [htimeout] at hends
      exact absurd (Started.isSome_of_limit rfl hends) Bool.false_ne_true

/-- A run crashes at its deadline only if the clock cannot count to that. -/
theorem run_eq_clockOverflow_iff :
    (h.run r spec).2 = .error .clockOverflow ↔ ¬ r.CountsFrom h := by
  constructor
  · intro hcrash hclock
    cases hstart : h.start r spec with
    | error e =>
      rw [run_of_refused hclock hstart] at hcrash
      cases hcrash
    | ok started =>
      obtain ⟨answer, hanswer⟩ | ⟨_, hendless⟩ := run_of_started hclock hstart
      · rw [hanswer] at hcrash
        cases hcrash
      · rw [hendless] at hcrash
        cases hcrash
  · intro hclock
    rw [run_of_not_countsFrom hclock]

/-- A limit in seconds can be counted to unless it goes beyond the last second of the clock. -/
theorem countsFrom_timeout_iff (c : Config) (r : Runner) (h : Host) :
    ({ r with timeout := c.timeout } : Runner).CountsFrom h ↔
      c.timeoutSecs = 0 ∨ h.now / 1000000 + c.timeoutSecs.toNat < 2 ^ 63 := by
  have hnow : h.now * 1000 / Run.Instant.second = h.now / 1000000 := by
    rw [Run.Instant.second]
    omega
  by_cases hzero : c.timeoutSecs = 0
  · refine iff_of_true (fun span hspan => ?_) (.inl hzero)
    rw [Config.timeout_eq_none_iff.mpr hzero] at hspan
    cases hspan
  · have hafter := Run.Instant.after?_ofSeconds_eq_none_iff ⟨h.now * 1000⟩ c.timeoutSecs.toNat
    rw [hnow] at hafter
    rw [Runner.CountsFrom, Config.timeout_of_ne_zero hzero, or_iff_right hzero, ← Nat.not_le,
      ← hafter]
    simp [Option.isSome_iff_ne_none]

/-- Whatever limit is configured or asked for: a run crashes exactly if that is not zero and goes
beyond the last second of the clock, and then nothing is started. Any other run is refused, or it is
started, and with a limit it has an answer. -/
theorem run_of_override (base : Config) (request : CommandLine.RunRequest) (r : Runner)
    (spec : LaunchSpec) (h : Host) :
    let seconds := request.timeout.getD base.timeoutSecs
    let limited : Runner := { r with timeout := (request.override base).timeout }
    ((h.run limited spec).2 = .error .clockOverflow ↔
      seconds ≠ 0 ∧ 2 ^ 63 ≤ h.now / 1000000 + seconds.toNat) ∧
    (h.run limited spec = (h, .error .clockOverflow) ∨
      (∃ e, h.start limited spec = .error e ∧ h.run limited spec = (h, .ok (.error e))) ∨
      ∃ begun s, h.start limited spec = .ok (begun, s) ∧
        ((∃ answer, (h.run limited spec).2 = .ok answer) ∨
          seconds = 0 ∧ (h.run limited spec).2 = .error .endless)) := by
  intro seconds limited
  have hcounts : limited.CountsFrom h ↔
      seconds = 0 ∨ h.now / 1000000 + seconds.toNat < 2 ^ 63 :=
    countsFrom_timeout_iff (request.override base) r h
  refine ⟨by rw [run_eq_clockOverflow_iff, hcounts, not_or, Nat.not_lt], ?_⟩
  by_cases hclock : limited.CountsFrom h
  · right
    cases hstart : h.start limited spec with
    | error e => exact .inl ⟨e, rfl, run_of_refused hclock hstart⟩
    | ok started =>
      obtain hanswer | ⟨hnone, hendless⟩ := run_of_started hclock hstart
      · exact .inr ⟨_, _, rfl, .inl hanswer⟩
      · exact .inr ⟨_, _, rfl, .inr ⟨Config.timeout_eq_none_iff.mp hnone, hendless⟩⟩
  · exact .inl (run_of_not_countsFrom hclock)

/-- The greatest limit that can be asked for is accepted, but a run with it has no answer even where
the clock has just started: it crashes. -/
theorem run_greatest_limit :
    let request : CommandLine.RunRequest := { timeout := some 18446744073709551615 }
    let c := request.override {}
    let runner : Runner :=
      { toolbox := fun _ _ _ => .exit 0, env := { vars := [] }, dir := [], timeout := c.timeout }
    let h : Host := { files := ⟨[(["true"], .tool "true")]⟩ }
    Config.load Config.ofToml (fun _ => .missing) [] = .ok {} ∧ c.validate = .ok c ∧ h.now / 1000000 < 2 ^ 40 ∧
    (h.run runner { program := "/true" }).2 = .error .clockOverflow ∧
    ¬ ∃ answer, (h.run runner { program := "/true" }).2 = .ok answer := by
  intro request c runner h
  have hcrash : (h.run runner { program := "/true" }).2 = .error .clockOverflow := by
    decide +kernel
  refine ⟨rfl, by decide, by decide, hcrash, ?_⟩
  rintro ⟨answer, hanswer⟩
  rw [hcrash] at hanswer
  cases hanswer

end Host

end PauseWatch
