import PauseWatch.Check.Analysis
import PauseWatch.Config.Basic
import PauseWatch.Session.Report

/-!
# Running scenarios

Scenarios are run one after the other. Each is launched once, and its answer alone decides its
outcome; a scenario that fails does not stop those after it. How a launch is answered is left to an
executor, which may do anything its monad allows, and what patterns mean is left to a matcher.
-/

namespace PauseWatch

/-- Answers a launch with the output of the process or the reason why there is none. -/
abbrev Executor (m : Type → Type) := LaunchSpec → m (Except RunError Capture)

namespace Session

variable {m : Type → Type} [Monad m]

/-- The outcome of a scenario whose launch was answered. -/
def judge (matcher : Matcher) (s : Scenario) (command : String)
    (answer : Except RunError Capture) : Outcome :=
  let launched := Stage.pending.move .running
  match answer with
  | .error e => { name := s.name, command, stage := launched.move .failed, error := some e }
  | .ok output =>
    let ended := launched.move .captured
    match output.checkAll matcher s.channel s.expectations with
    | none => { name := s.name, command, stage := ended.move .passed, output := some output }
    | some v =>
      { name := s.name, command, stage := ended.move .failed, output := some output,
        violations := some v }

/-- Runs one scenario. -/
def runScenario (matcher : Matcher) (c : Config) (env : Environment) (execute : Executor m)
    (s : Scenario) : m Outcome := do
  let spec := c.launch env s
  let answer ← execute spec
  return judge matcher s spec.command answer

/-- Runs scenarios in order. -/
def runAll (matcher : Matcher) (c : Config) (env : Environment) (execute : Executor m)
    (scenarios : List Scenario) : m Report := do
  return ⟨← scenarios.mapM (runScenario matcher c env execute)⟩

end Session

end PauseWatch
