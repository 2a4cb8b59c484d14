import PauseWatch.Pattern.Reader
import PauseWatch.Proofs.Session.Judgement

/-!
# Runs against arbitrary answers

An executor may answer a launch in any way, also depending on the launches before it. Whatever it
answers, a run launches every scenario once and in order, and the outcome at a place of the report
is the judgement of the scenario at that place on the answer to its launch.
-/

namespace PauseWatch.Session

/-- What a run has done so far. -/
structure Trace where
  /-- The launches, in order. -/
  launches : List LaunchSpec := []
  /-- The texts on the standard output, in order. -/
  printed : List String := []
  /-- The texts on the standard error, in order. -/
  warned : List String := []
  deriving DecidableEq, Repr

/-- The trace after some more launches. -/
def Trace.afterLaunches (t : Trace) (specs : List LaunchSpec) : Trace :=
  { t with launches := t.launches ++ specs }

/-- What a launch is answered after the given launches. -/
abbrev Answers := List LaunchSpec → LaunchSpec → Except RunError Capture

/-- The executor that gives these answers and keeps the launches. -/
def Answers.executor (answers : Answers) : Executor (StateM Trace) := fun spec => do
  let t ← get
  set (t.afterLaunches [spec])
  return answers t.launches spec

/-- The outcomes of scenarios that are launched one after the other, after the given launches. -/
def outcomesAfter (matcher : Matcher) (c : Config) (env : Environment) (answers : Answers)
    (before : List LaunchSpec) : List Scenario → List Outcome
  | [] => []
  | s :: rest =>
    judge matcher s (c.launch env s).command (answers before (c.launch env s)) ::
      outcomesAfter matcher c env answers (before ++ [c.launch env s]) rest

variable (matcher : Matcher) (c : Config) (env : Environment) (answers : Answers)

@[simp] theorem Trace.launches_afterLaunches (t : Trace) (specs : List LaunchSpec) :
    (t.afterLaunches specs).launches = t.launches ++ specs := rfl

@[simp] theorem Trace.afterLaunches_nil (t : Trace) : t.afterLaunches [] = t := by
  simp only [Trace.afterLaunches, List.append_nil]

/-- Launches in two portions are launches in one. -/
@[simp] theorem Trace.afterLaunches_afterLaunches (t : Trace) (specs more : List LaunchSpec) :
    (t.afterLaunches specs).afterLaunches more = t.afterLaunches (specs ++ more) := by
  simp only [Trace.afterLaunches, List.append_assoc]

/-- A step of a run hands over what it gave and what it has done. -/
theorem run_bind_of_run {α β : Type} {step : StateM Trace α} {next : α → StateM Trace β}
    {t after : Trace} {a : α} (h : step.run t = (a, after)) :
    (step >>= next).run t = (next a).run after := by
  rw [StateT.run_bind, h]
  rfl

/-- One scenario is launched once, and its outcome is the judgement on the answer. -/
theorem runScenario_run (s : Scenario) (t : Trace) :
    (runScenario matcher c env answers.executor s).run t =
      (judge matcher s (c.launch env s).command (answers t.launches (c.launch env s)),
        t.afterLaunches [c.launch env s]) := rfl

private theorem mapM_runScenario_run (scenarios : List Scenario) (t : Trace) :
    (scenarios.mapM (runScenario matcher c env answers.executor)).run t =
      (outcomesAfter matcher c env answers t.launches scenarios,
        t.afterLaunches (scenarios.map (c.launch env))) := by
  induction scenarios generalizing t with
  | nil => rw [List.map_nil, Trace.afterLaunches_nil]; rfl
  | cons s rest ih =>
    have hrest := ih (t.afterLaunches [c.launch env s])
    simp only [Trace.launches_afterLaunches, Trace.afterLaunches_afterLaunches,
      List.singleton_append] at hrest
    rw [List.mapM_cons, run_bind_of_run (runScenario_run matcher c env answers s t),
      run_bind_of_run hrest]
    rfl

/-- A run launches the scenarios in order, changes nothing else, and reports their outcomes. -/
theorem runAll_run (scenarios : List Scenario) (t : Trace) :
    (runAll matcher c env answers.executor scenarios).run t =
      (⟨outcomesAfter matcher c env answers t.launches scenarios⟩,
        t.afterLaunches (scenarios.map (c.launch env))) := by
  rw [runAll, run_bind_of_run (mapM_runScenario_run ..)]
  rfl

/-- There is one outcome for every scenario. -/
@[simp] theorem length_outcomesAfter (before : List LaunchSpec) (scenarios : List Scenario) :
    (outcomesAfter matcher c env answers before scenarios).length = scenarios.length := by
  induction scenarios generalizing before with
  | nil => rfl
  | cons s rest ih => simp only [outcomesAfter, List.length_cons, ih]

/-- The outcome at a place judges the scenario there, launched after those before it. -/
theorem getElem?_outcomesAfter (before : List LaunchSpec) (scenarios : List Scenario) (k : Nat) :
    (outcomesAfter matcher c env answers before scenarios)[k]? =
      scenarios[k]?.map fun s => judge matcher s (c.launch env s).command
        (answers (before ++ (scenarios.take k).map (c.launch env)) (c.launch env s)) := by
  induction scenarios generalizing before k with
  | nil => rfl
  | cons s rest ih =>
    cases k with
    | zero => simp only [outcomesAfter, List.getElem?_cons_zero, Option.map_some,
        List.take_zero, List.map_nil, List.append_nil]
    | succ k => simp only [outcomesAfter, List.getElem?_cons_succ, ih, List.take_succ_cons,
        List.map_cons, List.append_assoc, List.singleton_append]

/-- All scenarios pass exactly if every answer is an output that has what its scenario asks for. -/
theorem forall_outcomesAfter_passed_iff (before : List LaunchSpec) (scenarios : List Scenario) :
    (∀ o ∈ outcomesAfter matcher c env answers before scenarios, o.stage = .passed) ↔
      ∀ k s, scenarios[k]? = some s → ∃ output,
        answers (before ++ (scenarios.take k).map (c.launch env)) (c.launch env s) = .ok output ∧
          output.Meets s := by
  constructor
  · intro hall k s hs
    have ho := getElem?_outcomesAfter matcher c env answers before scenarios k
    rw [hs, Option.map_some] at ho
    exact (judge_reports ..).passed_iff.mp (hall _ (List.mem_of_getElem? ho))
  · intro hall o ho
    obtain ⟨k, hk⟩ := List.mem_iff_getElem?.mp ho
    rw [getElem?_outcomesAfter, Option.map_eq_some_iff] at hk
    obtain ⟨s, hs, rfl⟩ := hk
    exact (judge_reports ..).passed_iff.mpr (hall k s hs)

/-- A report passes exactly if every outcome in it has passed. -/
theorem allPassed_iff (r : Report) : r.allPassed = true ↔ ∀ o ∈ r.outcomes, o.stage = .passed := by
  simp only [Report.allPassed, Outcome.hasPassed, List.all_eq_true, beq_iff_eq]

/-- Whatever is answered, a run launches every scenario exactly once and in order, and the outcome
at each place reports on the scenario there: it depends on nothing but that scenario, its launch and
the answer to it. The whole run passes exactly if every answer is an output that has what its
scenario asks for. -/
theorem runAll_reports (scenarios : List Scenario) (t : Trace) :
    let (report, after) := (runAll matcher c env answers.executor scenarios).run t
    let answerAt (k : Nat) (s : Scenario) :=
      answers (t.launches ++ (scenarios.take k).map (c.launch env)) (c.launch env s)
    after = t.afterLaunches (scenarios.map (c.launch env)) ∧
    report.outcomes.length = scenarios.length ∧
    (∀ k s, scenarios[k]? = some s → ∃ o, report.outcomes[k]? = some o ∧
      o = judge matcher s (c.launch env s).command (answerAt k s) ∧
      o.Reports s (c.launch env s).command (answerAt k s)) ∧
    (report.allPassed = true ↔ ∀ k s, scenarios[k]? = some s →
      ∃ output, answerAt k s = .ok output ∧ output.Meets s) := by
  rw [runAll_run]
  refine ⟨rfl, length_outcomesAfter .., ?_, ?_⟩
  · intro k s hs
    refine ⟨_, ?_, rfl, judge_reports ..⟩
    rw [getElem?_outcomesAfter, hs, Option.map_some]
  · rw [allPassed_iff, forall_outcomesAfter_passed_iff]

/-- Although the first of three scenarios cannot be started, the others are launched. The second
fails by its exit code, by a marker that is missing on its channel and by one that is there, while
the same markers on the other channel do not count; the third passes. -/
theorem runAll_reports_after_error :
    let second : Scenario :=
      { name := "second", expectedExit := some 0, channel := .stderr
        patterns := { required := ["pause", "full"], forbidden := ["mark", "full"] } }
    let third : Scenario :=
      { name := "third", expectedExit := some 0, patterns := { required := ["mark"] } }
    let scenarios : List Scenario := [{ name := "first" }, second, third]
    let answers : Answers := fun before _ => match before.length with
      | 0 => .error (.notFound "java")
      | 1 => .ok { stdout := "mark, pause", stderr := "full", exitCode := some 3 }
      | _ => .ok { stdout := "mark", exitCode := some 0 }
    let report := ((runAll Pattern.compile {} .empty answers.executor scenarios).run {}).1
    scenarios[1]? = some second ∧ scenarios[2]? = some third ∧ report.allPassed = false ∧
    (∃ o v, report.outcomes[1]? = some o ∧ o.stage = .failed ∧ o.violations = some v ∧
      v.failures.map (·.expectation) = [.exitValue 0, .contains "pause", .notContains "full"]) ∧
    ∃ o, report.outcomes[2]? = some o ∧ o.name = "third" ∧ o.stage = .passed := by
  intro second third scenarios answers report
  obtain ⟨_, _, hall, hpassed⟩ := runAll_reports Pattern.compile {} .empty answers scenarios {}
  obtain ⟨o₁, ho₁, _, hr₁⟩ := hall 1 second rfl
  obtain ⟨o₂, ho₂, _, hr₂⟩ := hall 2 third rfl
  let output : Capture := { stdout := "mark, pause", stderr := "full", exitCode := some 3 }
  have hnot : ¬ output.Meets second := by decide
  have hfailed : o₁.stage ≠ .passed := by
    rw [ne_eq, hr₁.passed_iff]
    rintro ⟨output', h, hmeets⟩
    cases h
    exact hnot hmeets
  obtain ⟨v, hv⟩ := Option.ne_none_iff_exists'.mp (hr₁.violations_iff.mpr ⟨output, rfl, hnot⟩)
  refine ⟨rfl, rfl, ?_, ⟨o₁, v, ho₁, hr₁.stage_terminal.resolve_left hfailed, hv, ?_⟩, o₂, ho₂,
    hr₂.name_eq, hr₂.passed_iff.mpr ⟨{ stdout := "mark", exitCode := some 0 }, rfl, by decide⟩⟩
  · refine Bool.eq_false_iff.mpr fun htrue => ?_
    obtain ⟨output', h, _⟩ := hpassed.mp htrue 0 { name := "first" } rfl
    cases h
  · rw [(hr₁.violations_eq v output hv rfl).1]
    decide

end PauseWatch.Session
