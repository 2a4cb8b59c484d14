import Mathlib.Data.List.Forall2
import PauseWatch.Check.Analysis
import PauseWatch.Proofs.Text.Search

/-!
# What an output satisfies

`Capture.Satisfies` says what an expectation asks of an output without any search. A check reports
nothing exactly where it holds, every failure names what was checked, and the failures of several
expectations are those that do not hold, in their order.
-/

namespace PauseWatch.Capture

variable {c : Capture} {matcher : Matcher} {channel : Channel} {es : List Expectation}

/-- An output satisfies an expectation on a channel. A text that is no pattern matches nothing. -/
def Satisfies (c : Capture) (matcher : Matcher) (channel : Channel) : Expectation → Prop
  | .contains marker => marker.toList <:+: (c.text channel).toList
  | .notContains marker => ¬ marker.toList <:+: (c.text channel).toList
  | .matching pattern =>
    ∃ test, matcher pattern = .ok test ∧ test (c.text channel) = true
  | .exitValue code => c.exitCode = some code

private theorem checkMatching_eq_none_iff {pattern : String} :
    c.checkMatching matcher channel pattern = none ↔
      c.Satisfies matcher channel (.matching pattern) := by
  rw [checkMatching, Satisfies]
  cases hm : matcher pattern with
  | error reason => simp only [reduceCtorEq, false_and, exists_false]
  | ok test => simp only [ite_eq_left_iff, reduceCtorEq, imp_false, not_not, Except.ok.injEq,
      exists_eq_left']

/-- A check reports nothing exactly where the expectation is satisfied. -/
theorem check_eq_none_iff {e : Expectation} :
    c.check matcher channel e = none ↔ c.Satisfies matcher channel e := by
  cases e with
  | contains marker =>
    rw [check, checkContains, Satisfies, ← Text.occurs_iff]
    cases Text.occurs marker.toList (c.text channel).toList <;> simp
  | notContains marker =>
    rw [check, checkNotContains, Satisfies, ← Text.find?_eq_none_iff, Option.map_eq_none_iff]
  | matching pattern => exact checkMatching_eq_none_iff
  | exitValue code =>
    rw [check, checkExitValue, Satisfies]
    by_cases he : c.exitCode = some code <;> simp [he]

/-- Whether an output satisfies an expectation is decided by the check. -/
instance (c : Capture) (matcher : Matcher) (channel : Channel) :
    DecidablePred (c.Satisfies matcher channel) :=
  fun _ => decidable_of_iff _ check_eq_none_iff

/-- An output satisfies a pattern set if every required marker occurs and no forbidden one does. -/
theorem forall_satisfies_patterns_iff {p : PatternSet} :
    (∀ e ∈ p.expectations, c.Satisfies matcher channel e) ↔
      (∀ m ∈ p.required, m.toList <:+: (c.text channel).toList) ∧
        ∀ m ∈ p.forbidden, ¬ m.toList <:+: (c.text channel).toList := by
  rw [PatternSet.expectations, List.forall_mem_append, List.forall_mem_map, List.forall_mem_map]
  exact Iff.rfl

/-- A failure names the expectation, the channel and the output that were checked. -/
theorem check_eq_some {e : Expectation} {f : Failure} (h : c.check matcher channel e = some f) :
    f.expectation = e ∧ f.channel = channel ∧ f.output = c := by
  cases e with
  | contains marker =>
    rw [check, checkContains] at h
    split at h <;> cases h
    exact ⟨rfl, rfl, rfl⟩
  | notContains marker =>
    rw [check, checkNotContains, Option.map_eq_some_iff] at h
    obtain ⟨n, _, rfl⟩ := h
    exact ⟨rfl, rfl, rfl⟩
  | matching pattern =>
    rw [check, checkMatching] at h
    split at h
    · cases h
      exact ⟨rfl, rfl, rfl⟩
    · split at h <;> cases h
      exact ⟨rfl, rfl, rfl⟩
  | exitValue code =>
    rw [check, checkExitValue] at h
    split at h <;> cases h
    exact ⟨rfl, rfl, rfl⟩

/-- An expectation, checked alone, fails with a failure about it, the channel and the output. -/
structure FailsWith (c : Capture) (matcher : Matcher) (channel : Channel) (e : Expectation)
    (f : Failure) : Prop where
  /-- The check of the expectation reports the failure. -/
  check_eq : c.check matcher channel e = some f
  /-- The failure names the expectation. -/
  expectation_eq : f.expectation = e
  /-- The failure names the channel. -/
  channel_eq : f.channel = channel
  /-- The failure keeps the output. -/
  output_eq : f.output = c

/-- What a check reports is a failure about what was checked. -/
theorem failsWith_of_check {e : Expectation} {f : Failure}
    (h : c.check matcher channel e = some f) : c.FailsWith matcher channel e f := by
  obtain ⟨he, hchannel, houtput⟩ := check_eq_some h
  exact ⟨h, he, hchannel, houtput⟩

/-- The failures of a check pass are, one by one, those of the expectations that do not hold, each
checked alone. -/
theorem forall₂_failures (c : Capture) (matcher : Matcher) (channel : Channel)
    (es : List Expectation) :
    List.Forall₂ (c.FailsWith matcher channel) (es.filter fun e => ¬ c.Satisfies matcher channel e)
      (c.failures matcher channel es) := by
  induction es with
  | nil => exact List.Forall₂.nil
  | cons e rest ih =>
    rw [failures] at ih ⊢
    cases hc : c.check matcher channel e with
    | none =>
      have hs : c.Satisfies matcher channel e := check_eq_none_iff.mp hc
      rw [List.filterMap_cons_none hc, List.filter_cons_of_neg (by simpa using hs)]
      exact ih
    | some f =>
      have hs : ¬ c.Satisfies matcher channel e := by
        rw [← check_eq_none_iff, hc]
        exact Option.some_ne_none f
      rw [List.filterMap_cons_some hc, List.filter_cons_of_pos (by simpa using hs)]
      exact List.Forall₂.cons (failsWith_of_check hc) ih

/-- The failures are those of the expectations that do not hold, in their order. -/
theorem map_expectation_failures (c : Capture) (matcher : Matcher) (channel : Channel)
    (es : List Expectation) :
    (c.failures matcher channel es).map (·.expectation) =
      es.filter fun e => ¬ c.Satisfies matcher channel e := by
  have h := (forall₂_failures c matcher channel es).imp fun _ _ hf => hf.expectation_eq.symm
  rw [← List.forall₂_map_right_iff (f := fun f : Failure => f.expectation),
    List.forall₂_eq_eq_eq] at h
  exact h.symm

/-- Every failure of a check pass is about the output and the channel that were checked. -/
theorem mem_failures {f : Failure} (h : f ∈ c.failures matcher channel es) :
    f.channel = channel ∧ f.output = c := by
  obtain ⟨e, _, hc⟩ := List.mem_filterMap.mp h
  exact (check_eq_some hc).2

/-- There is no failure exactly if every expectation is satisfied. -/
theorem failures_eq_nil_iff :
    c.failures matcher channel es = [] ↔ ∀ e ∈ es, c.Satisfies matcher channel e := by
  rw [← List.map_eq_nil_iff, map_expectation_failures, List.filter_eq_nil_iff]
  simp only [decide_not, Bool.not_eq_true', decide_eq_false_iff_not, not_not]

/-- A check pass has no violations exactly if every expectation is satisfied. -/
theorem checkAll_eq_none_iff :
    c.checkAll matcher channel es = none ↔ ∀ e ∈ es, c.Satisfies matcher channel e := by
  rw [checkAll, Violations.ofFailures?, ← failures_eq_nil_iff]
  by_cases hf : c.failures matcher channel es = [] <;> simp [hf]

/-- A pattern set has no violations exactly if every required marker occurs and no forbidden one. -/
theorem checkPatterns_eq_none_iff {p : PatternSet} : c.checkPatterns matcher channel p = none ↔
    (∀ m ∈ p.required, m.toList <:+: (c.text channel).toList) ∧
      ∀ m ∈ p.forbidden, ¬ m.toList <:+: (c.text channel).toList := by
  rw [checkPatterns, checkAll_eq_none_iff, forall_satisfies_patterns_iff]

/-- The violations of a check pass are its failures. -/
theorem failures_of_checkAll {v : Violations} (h : c.checkAll matcher channel es = some v) :
    v.failures = c.failures matcher channel es := by
  rw [checkAll, Violations.ofFailures?] at h
  split at h <;> cases h
  rfl

end PauseWatch.Capture
