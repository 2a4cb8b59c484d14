import PauseWatch.CommandLine.Program
import PauseWatch.Proofs.Session.Run
import PauseWatch.Proofs.Session.Selection

/-!
# Quiet and loud runs

A run that shows a report as data and a run that shows lines at every step are written as two loops.
In surroundings whose answers depend on nothing but the launches and the time allowed for them, both
launch the same processes in the same order, build the same report and end with the same exit code.
Nothing is launched when the setup fails, and otherwise something is.
-/

namespace PauseWatch.CommandLine

open Session

/-- What surrounds a run: answers that depend on the time a launch may take and on the launches
before, and a clock that depends on all that was done. -/
structure Surroundings where
  /-- The environment. -/
  env : Environment
  /-- What is found under a path. -/
  look : String → FileRead
  /-- How the text of a file stands for a configuration. -/
  decode : Config.Decoder
  /-- What patterns mean. -/
  matcher : Matcher
  /-- How times are written. -/
  clock : Trace → Display.Clock
  /-- What launches are answered. -/
  answers : Option Text.Span → Answers

/-- The world of some surroundings, in which everything that is done is kept. -/
def Surroundings.world (w : Surroundings) : World (StateM Trace) where
  env := w.env
  look := w.look
  decode := w.decode
  matcher := w.matcher
  clock := do return w.clock (← get)
  execute timeout := (w.answers timeout).executor
  print text := modify fun t => { t with printed := t.printed ++ [text] }
  warn text := modify fun t => { t with warned := t.warned ++ [text] }

/-- The report on scenarios that are run in some surroundings. -/
def Surroundings.report (w : Surroundings) (c : Config) (scenarios : List Scenario) : Report :=
  ⟨outcomesAfter w.matcher c w.env (w.answers c.timeout) [] scenarios⟩

variable (w : Surroundings) (c : Config) (scenarios : List Scenario) (r : RunRequest)

/-- A quiet run builds the report and launches the scenarios in order. -/
theorem runQuietly_run :
    ∃ printed, (runQuietly w.world c scenarios).run {} =
      (w.report c scenarios, { launches := scenarios.map (c.launch w.env), printed }) := by
  refine ⟨[(w.report c scenarios).toJson.render ++ "\n"], ?_⟩
  have hrun : (runAll w.matcher c w.env (w.world.execute c.timeout) scenarios).run {} =
      (w.report c scenarios, { launches := scenarios.map (c.launch w.env) }) :=
    runAll_run w.matcher c w.env (w.answers c.timeout) scenarios {}
  exact (run_bind_of_run hrun).trans rfl

/-- Lines before and behind a scenario change neither its launch nor its outcome. -/
private theorem runShown_run (raw : Bool) (s : Scenario) (t : Trace) :
    ∃ printed, (runShown w.world c raw s).run t =
      (judge w.matcher s (c.launch w.env s).command (w.answers c.timeout t.launches (c.launch w.env s)),
        { t.afterLaunches [c.launch w.env s] with printed }) :=
  ⟨_, rfl⟩

private theorem runEachShown_run (raw : Bool) (t : Trace) :
    ∃ printed, (runEachShown w.world c raw scenarios).run t =
      (outcomesAfter w.matcher c w.env (w.answers c.timeout) t.launches scenarios,
        { t.afterLaunches (scenarios.map (c.launch w.env)) with printed }) := by
  induction scenarios generalizing t with
  | nil => exact ⟨t.printed, by rw [List.map_nil, Trace.afterLaunches_nil]; rfl⟩
  | cons s rest ih =>
    obtain ⟨shown, hs⟩ := runShown_run w c raw s t
    obtain ⟨printed, hrest⟩ := ih { t.afterLaunches [c.launch w.env s] with printed := shown }
    refine ⟨printed, ?_⟩
    rw [runEachShown, run_bind_of_run hs, run_bind_of_run hrest]
    simp only [Trace.afterLaunches, List.append_assoc, List.singleton_append, List.map_cons,
      outcomesAfter]
    rfl

/-- A loud run builds the same report with the same launches. -/
theorem runAloud_run (raw : Bool) :
    ∃ printed, (runAloud w.world c raw scenarios).run {} =
      (w.report c scenarios, { launches := scenarios.map (c.launch w.env), printed }) := by
  obtain ⟨printed, hs⟩ := runEachShown_run w c scenarios raw {}
  refine ⟨printed ++ [Display.summaryLine (w.report c scenarios)], ?_⟩
  rw [runAloud, run_bind_of_run hs]
  rfl

/-- A setup that fails ends with its own exit code, and nothing is launched. -/
private theorem runScenarios_of_error {e : ConfigError}
    (h : r.prepare (loaded w.world r.config) = .error e) :
    (runScenarios w.world r).run {} =
      (exitSetup, { warned := [Display.errorLine e.message] }) := by
  rw [runScenarios, h]
  rfl

/-- A setup that succeeds ends with the exit code of the report, whichever way it is shown. -/
private theorem runScenarios_of_ok (h : r.prepare (loaded w.world r.config) = .ok (c, scenarios)) :
    ∃ printed, (runScenarios w.world r).run {} =
      (exitOf (w.report c scenarios),
        { launches := scenarios.map (c.launch w.env), printed }) := by
  rw [runScenarios, h]
  by_cases hj : r.json = true
  · obtain ⟨printed, hq⟩ := runQuietly_run w c scenarios
    refine ⟨printed, ?_⟩
    simp only [hj, if_true]
    rw [run_bind_of_run hq]
    rfl
  · obtain ⟨printed, hl⟩ := runAloud_run w c scenarios r.raw
    refine ⟨printed, ?_⟩
    simp only [hj, Bool.false_eq_true, if_false]
    rw [run_bind_of_run hl]
    rfl

/-- The setup fails exactly if loading or selecting does. -/
private theorem prepare_eq_error_iff {load : Except ConfigError Config} {e : ConfigError} :
    r.prepare load = .error e ↔ load = .error e ∨
      ∃ base, load = .ok base ∧
        select (r.override base).effectiveScenarios r.scenarios = .error e := by
  cases load with
  | error e' => simp [RunRequest.prepare, bind, Except.bind]
  | ok base =>
    cases hs : select (r.override base).effectiveScenarios r.scenarios with
    | error e' => simp [RunRequest.prepare, bind, Except.bind, hs]
    | ok picked => simp [RunRequest.prepare, bind, Except.bind, pure, Except.pure, hs]

/-- The setup succeeds exactly if loading and selecting do. -/
private theorem prepare_eq_ok_iff {load : Except ConfigError Config} :
    r.prepare load = .ok (c, scenarios) ↔ ∃ base, load = .ok base ∧ r.override base = c ∧
      select c.effectiveScenarios r.scenarios = .ok scenarios := by
  cases load with
  | error e' => simp [RunRequest.prepare, bind, Except.bind]
  | ok base =>
    cases hs : select (r.override base).effectiveScenarios r.scenarios with
    | error e' =>
      simp only [RunRequest.prepare, bind, Except.bind, hs, reduceCtorEq, false_iff]
      rintro ⟨_, hb, rfl, hp⟩
      cases hb
      rw [hs] at hp
      cases hp
    | ok picked =>
      simp only [RunRequest.prepare, bind, Except.bind, pure, Except.pure, hs, Except.ok.injEq,
        Prod.mk.injEq]
      constructor
      · rintro ⟨rfl, rfl⟩
        exact ⟨base, rfl, rfl, hs⟩
      · rintro ⟨_, rfl, rfl, hp⟩
        rw [hs] at hp
        exact ⟨rfl, Except.ok.inj hp⟩

private theorem exitOf_eq_exitPassed_iff {report : Report} :
    exitOf report = exitPassed ↔ ∀ o ∈ report.outcomes, o.stage = .passed := by
  rw [← allPassed_iff, exitOf]
  cases report.allPassed <;> decide

private theorem exitOf_eq_exitFailed_iff {report : Report} :
    exitOf report = exitFailed ↔ ∃ o ∈ report.outcomes, o.stage ≠ .passed := by
  have hn : exitOf report = exitFailed ↔ ¬ report.allPassed = true := by
    rw [exitOf]
    cases report.allPassed <;> decide
  rw [hn, allPassed_iff]
  push Not
  rfl

private theorem exitOf_ne_exitSetup (report : Report) : exitOf report ≠ exitSetup := by
  rw [exitOf]
  cases report.allPassed <;> decide

/-- Whatever is loaded, asked for and answered, a quiet and a loud run launch the same processes in
the same order, build the same report and end with the same exit code. They end with the code of a
failed setup exactly if loading or selecting fails, and then launch nothing. Otherwise they launch
at least one scenario, and the exit code tells whether every one of them passed. -/
theorem runScenarios_branches (w : Surroundings) (r : RunRequest) :
    let quiet := (runScenarios w.world { r with json := true }).run {}
    let loud := (runScenarios w.world { r with json := false }).run {}
    quiet.1 = loud.1 ∧ quiet.2.launches = loud.2.launches ∧
    (quiet.1 = exitSetup ↔ (∃ e, loaded w.world r.config = .error e) ∨
      ∃ base e, loaded w.world r.config = .ok base ∧
        select (r.override base).effectiveScenarios r.scenarios = .error e) ∧
    (quiet.1 = exitSetup → quiet.2.launches = []) ∧
    ∀ base picked, loaded w.world r.config = .ok base →
      select (r.override base).effectiveScenarios r.scenarios = .ok picked →
      picked ≠ [] ∧ quiet.2.launches = picked.map ((r.override base).launch w.env) ∧
      ∃ report, ((runQuietly w.world (r.override base) picked).run {}).1 = report ∧
        ((runAloud w.world (r.override base) r.raw picked).run {}).1 = report ∧
        report.outcomes.length = picked.length ∧
        (quiet.1 = exitPassed ↔ ∀ o ∈ report.outcomes, o.stage = .passed) ∧
        (quiet.1 = exitFailed ↔ ∃ o ∈ report.outcomes, o.stage ≠ .passed) := by
  intro quiet loud
  have hjson (json : Bool) : ({ r with json } : RunRequest).prepare (loaded w.world r.config) =
      r.prepare (loaded w.world r.config) := rfl
  cases hp : r.prepare (loaded w.world r.config) with
  | error e =>
    have hq := runScenarios_of_error w { r with json := true } ((hjson true).trans hp)
    have hl := runScenarios_of_error w { r with json := false } ((hjson false).trans hp)
    have hfail := (prepare_eq_error_iff r).mp hp
    simp only [quiet, loud, hq, hl]
    refine ⟨trivial, trivial, ?_, fun _ => trivial, ?_⟩
    · rw [true_iff]
      exact hfail.imp (fun he => ⟨e, he⟩) (fun ⟨base, hb, hs⟩ => ⟨base, e, hb, hs⟩)
    · intro base picked hb hs
      rw [(prepare_eq_ok_iff _ _ r).mpr ⟨base, hb, rfl, hs⟩] at hp
      cases hp
  | ok setup =>
    obtain ⟨c, picked⟩ := setup
    obtain ⟨base, hb, rfl, hs⟩ := (prepare_eq_ok_iff c picked r).mp hp
    obtain ⟨_, hq⟩ := runScenarios_of_ok w _ _ { r with json := true } ((hjson true).trans hp)
    obtain ⟨_, hl⟩ := runScenarios_of_ok w _ _ { r with json := false } ((hjson false).trans hp)
    have hcode := exitOf_ne_exitSetup (w.report (r.override base) picked)
    simp only [quiet, loud, hq, hl]
    refine ⟨trivial, trivial, ?_, fun he => (hcode he).elim, ?_⟩
    · refine ⟨fun he => (hcode he).elim, ?_⟩
      rintro (⟨e, he⟩ | ⟨base', e, hb', he⟩)
      · rw [hb] at he
        cases he
      · cases hb.symm.trans hb'
        rw [hs] at he
        cases he
    · intro base' picked' hb' hs'
      cases hb.symm.trans hb'
      cases hs.symm.trans hs'
      obtain ⟨_, hquiet⟩ := runQuietly_run w (r.override base) picked
      obtain ⟨_, hloud⟩ := runAloud_run w (r.override base) picked r.raw
      refine ⟨select_ne_nil hs (Config.effectiveScenarios_ne_nil _), rfl,
        w.report (r.override base) picked, by rw [hquiet], by rw [hloud],
        length_outcomesAfter .., exitOf_eq_exitPassed_iff, exitOf_eq_exitFailed_iff⟩

/-- Without a file, and with a launcher that is not found, the scenario that is named is launched
once on either branch. -/
theorem runScenarios_branches_unstartable :
    let w : Surroundings :=
      { env := .empty, look := fun _ => .missing, decode := Config.ofToml
        matcher := Pattern.compile, clock := fun _ => ⟨"", fun _ => ""⟩,
        answers := fun _ _ spec => .error (.notFound spec.program) }
    let r : RunRequest := { scenarios := ["explicit-gc-full"] }
    let quiet := (runScenarios w.world { r with json := true }).run {}
    let loud := (runScenarios w.world { r with json := false }).run {}
    loaded w.world r.config = .ok {} ∧
    select (r.override {}).effectiveScenarios r.scenarios = .ok (Scenario.builtIn.drop 3) ∧
    quiet.1 = loud.1 ∧ quiet.2.launches = loud.2.launches ∧
    quiet.2.launches = (Scenario.builtIn.drop 3).map (Config.launch {} .empty) := by
  intro w r quiet loud
  have hs : select (r.override {}).effectiveScenarios r.scenarios =
      .ok (Scenario.builtIn.drop 3) := by decide
  obtain ⟨hcode, hsame, _, _, hok⟩ := runScenarios_branches w r
  obtain ⟨_, hlaunch, _⟩ := hok {} _ rfl hs
  exact ⟨rfl, hs, hcode, hsame, hlaunch⟩

end PauseWatch.CommandLine
