import PauseWatch.Proofs.Check.Independence
import PauseWatch.Session.Basic

/-!
# What an outcome reports

`Capture.Meets` says what a scenario asks of an output, and `Capture.unmet` lists what it asks for
in vain. `Outcome.Reports` lists what can be read off the outcome of a scenario: its stage, its three
optional parts and its lines for a reader all follow from the answer to the launch and from what the
output does not meet. Every judgement reports in this sense.
-/

namespace PauseWatch

namespace Capture

/-- An output has what a scenario asks for. -/
structure Meets (output : Capture) (s : Scenario) : Prop where
  /-- The exit code is the one that is asked for, if it matters. -/
  exitCode_eq : ∀ code, s.expectedExit = some code → output.exitCode = some code
  /-- On the channel of the scenario every marker occurs that must. -/
  required : ∀ m ∈ s.patterns.required, m.toList <:+: (output.text s.channel).toList
  /-- On the channel of the scenario no marker occurs that must not. -/
  forbidden : ∀ m ∈ s.patterns.forbidden, ¬ m.toList <:+: (output.text s.channel).toList

/-- What a scenario asks for in vain: the exit code if it is another one, then the required markers
that are missing, then the forbidden ones that are there. -/
def unmet (output : Capture) (s : Scenario) : List Expectation :=
  (s.expectedExit.toList.filter fun code => output.exitCode ≠ some code).map .exitValue ++
    ((s.patterns.required.filter fun m => ¬ m.toList <:+: (output.text s.channel).toList).map
        .contains ++
      (s.patterns.forbidden.filter fun m => m.toList <:+: (output.text s.channel).toList).map
        .notContains)

variable {output : Capture} {matcher : Matcher} {s : Scenario}

/-- An output satisfies all expectations of a scenario exactly if it has what is asked for. -/
theorem forall_satisfies_iff (matcher : Matcher) :
    (∀ e ∈ s.expectations, output.Satisfies matcher s.channel e) ↔ output.Meets s := by
  rw [Scenario.expectations, List.forall_mem_append, forall_satisfies_patterns_iff]
  have hexit : (∀ e ∈ (s.expectedExit.map .exitValue).toList,
      output.Satisfies matcher s.channel e) ↔
        ∀ code, s.expectedExit = some code → output.exitCode = some code := by
    cases s.expectedExit <;> simp [Satisfies]
  rw [hexit]
  constructor
  · rintro ⟨h, hrequired, hforbidden⟩
    exact ⟨h, hrequired, hforbidden⟩
  · intro h
    exact ⟨h.exitCode_eq, h.required, h.forbidden⟩

/-- The expectations of a scenario that do not hold are what it asks for in vain. -/
theorem filter_not_satisfies (output : Capture) (matcher : Matcher) (s : Scenario) :
    (s.expectations.filter fun e => ¬ output.Satisfies matcher s.channel e) = output.unmet s := by
  rw [Scenario.expectations, List.filter_append, filter_not_satisfies_patterns, unmet]
  congr 1
  cases s.expectedExit with
  | none => rfl
  | some code =>
    by_cases h : output.exitCode = some code <;> simp [Satisfies, h]

/-- An output has what a scenario asks for exactly if nothing is asked for in vain. -/
theorem unmet_eq_nil_iff : output.unmet s = [] ↔ output.Meets s := by
  let matcher : Matcher := fun _ => .ok fun _ => true
  rw [← filter_not_satisfies output matcher s, ← forall_satisfies_iff matcher,
    List.filter_eq_nil_iff]
  simp only [decide_not, Bool.not_eq_true', decide_eq_false_iff_not, not_not]

/-- Whether an output has what a scenario asks for is decided by what is asked for in vain. -/
instance (output : Capture) (s : Scenario) : Decidable (output.Meets s) :=
  decidable_of_iff _ unmet_eq_nil_iff

end Capture

/-- What an outcome says about a scenario, the command line of its launch and the answer to it. -/
structure Outcome.Reports (o : Outcome) (s : Scenario) (command : String)
    (answer : Except RunError Capture) : Prop where
  /-- The outcome bears the name of the scenario. -/
  name_eq : o.name = s.name
  /-- The outcome shows the launch. -/
  command_eq : o.command = command
  /-- The scenario has come to its end. -/
  stage_terminal : o.stage = .passed ∨ o.stage = .failed
  /-- A scenario passes exactly with an output that has what it asks for. -/
  passed_iff : o.stage = .passed ↔ ∃ output, answer = .ok output ∧ output.Meets s
  /-- The error is that of the answer. -/
  error_iff : ∀ e, o.error = some e ↔ answer = .error e
  /-- The output is that of the answer. -/
  output_iff : ∀ output, o.output = some output ↔ answer = .ok output
  /-- There are violations exactly with an output that does not have what the scenario asks for. -/
  violations_iff : o.violations ≠ none ↔ ∃ output, answer = .ok output ∧ ¬ output.Meets s
  /-- The violations are what the scenario asks for in vain, in order. -/
  violations_eq : ∀ v output, o.violations = some v → answer = .ok output →
    v.failures.map (·.expectation) = output.unmet s ∧
      ∀ f ∈ v.failures, f.channel = s.channel ∧ f.output = output
  /-- There is something to explain exactly if the scenario did not pass. -/
  failureLines_iff : o.failureLines = [] ↔ o.stage = .passed

namespace Session

variable {matcher : Matcher} {s : Scenario} {command : String}

/-- A launch without output fails the scenario, with the error kept. -/
theorem judge_error (matcher : Matcher) (s : Scenario) (command : String) (e : RunError) :
    judge matcher s command (.error e) =
      { name := s.name, command, stage := .failed, error := some e } := rfl

/-- An output without violations passes the scenario. -/
theorem judge_ok_of_none {output : Capture}
    (h : output.checkAll matcher s.channel s.expectations = none) :
    judge matcher s command (.ok output) =
      { name := s.name, command, stage := .passed, output := some output } := by
  simp only [judge, h]
  rfl

/-- An output with violations fails the scenario, with both kept. -/
theorem judge_ok_of_some {output : Capture} {v : Violations}
    (h : output.checkAll matcher s.channel s.expectations = some v) :
    judge matcher s command (.ok output) =
      { name := s.name, command, stage := .failed, output := some output,
        violations := some v } := by
  simp only [judge, h]
  rfl

private theorem reports_error (matcher : Matcher) (s : Scenario) (command : String)
    (e : RunError) : (judge matcher s command (.error e)).Reports s command (.error e) := by
  rw [judge_error]
  refine ⟨rfl, rfl, Or.inr rfl, ?_, ?_, ?_, ?_, ?_, ?_⟩
  · simp only [reduceCtorEq, false_and, exists_false]
  · simp only [Option.some.injEq, Except.error.injEq, implies_true]
  · simp only [reduceCtorEq, implies_true]
  · simp only [ne_eq, not_true_eq_false, reduceCtorEq, false_and, exists_false]
  · simp only [reduceCtorEq, false_imp_iff, implies_true]
  · simp [Outcome.failureLines]

private theorem reports_passed {output : Capture}
    (h : output.checkAll matcher s.channel s.expectations = none) :
    (judge matcher s command (.ok output)).Reports s command (.ok output) := by
  have hmeets : output.Meets s :=
    (Capture.forall_satisfies_iff matcher).mp (Capture.checkAll_eq_none_iff.mp h)
  rw [judge_ok_of_none h]
  refine ⟨rfl, rfl, Or.inl rfl, ?_, ?_, ?_, ?_, ?_, ?_⟩
  · simp only [true_iff]
    exact ⟨output, rfl, hmeets⟩
  · simp only [reduceCtorEq, implies_true]
  · simp only [Option.some.injEq, Except.ok.injEq, implies_true]
  · simp only [ne_eq, not_true_eq_false, false_iff]
    rintro ⟨output', ho, hnot⟩
    cases ho
    exact hnot hmeets
  · simp only [reduceCtorEq, false_imp_iff, implies_true]
  · simp [Outcome.failureLines]

private theorem reports_violations {output : Capture} {v : Violations}
    (h : output.checkAll matcher s.channel s.expectations = some v) :
    (judge matcher s command (.ok output)).Reports s command (.ok output) := by
  have hv := Capture.failures_of_checkAll h
  have hnot : ¬ output.Meets s := by
    rw [← Capture.forall_satisfies_iff matcher, ← Capture.checkAll_eq_none_iff, h]
    exact Option.some_ne_none v
  rw [judge_ok_of_some h]
  refine ⟨rfl, rfl, Or.inr rfl, ?_, ?_, ?_, ?_, ?_, ?_⟩
  · simp only [reduceCtorEq, Except.ok.injEq, false_iff]
    rintro ⟨output', rfl, hmeets⟩
    exact hnot hmeets
  · simp only [reduceCtorEq, implies_true]
  · simp only [Option.some.injEq, Except.ok.injEq, implies_true]
  · simp only [ne_eq, reduceCtorEq, not_false_eq_true, true_iff]
    exact ⟨output, rfl, hnot⟩
  · rintro v' output' hv' ho'
    cases hv'
    cases ho'
    rw [hv, Capture.map_expectation_failures, Capture.filter_not_satisfies]
    exact ⟨rfl, fun f hf => Capture.mem_failures hf⟩
  · simp [Outcome.failureLines, v.nonempty]

/-- Every judgement reports what the answer says about the scenario. -/
theorem judge_reports (matcher : Matcher) (s : Scenario) (command : String)
    (answer : Except RunError Capture) :
    (judge matcher s command answer).Reports s command answer := by
  cases answer with
  | error e => exact reports_error matcher s command e
  | ok output =>
    cases h : output.checkAll matcher s.channel s.expectations with
    | none => exact reports_passed h
    | some v => exact reports_violations h

end Session

end PauseWatch
