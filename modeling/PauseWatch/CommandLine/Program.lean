import PauseWatch.CommandLine.Request
import PauseWatch.Config.Load
import PauseWatch.Display.Progress
import PauseWatch.Json.Printer
import PauseWatch.Session.Basic
import PauseWatch.Session.Selection

/-!
# The program

A run loads the configuration, applies what the command line says instead, selects scenarios, and
runs them, either quietly with a report as data at the end or with a line at every step. Everything
that reaches beyond the program goes through a `World`, so a run can be followed in any monad.
-/

namespace PauseWatch.CommandLine

/-- The world around a run of the program. -/
structure World (m : Type → Type) where
  /-- The environment. -/
  env : Environment
  /-- What is found under a path. -/
  look : String → FileRead
  /-- How the text of a file stands for a configuration. -/
  decode : Config.Decoder
  /-- What patterns mean. -/
  matcher : Matcher
  /-- How times are written at this moment. -/
  clock : m Display.Clock
  /-- Launches a process that may take so long. -/
  execute : Option Text.Span → Executor m
  /-- Writes to the standard output. -/
  print : String → m Unit
  /-- Writes to the standard error. -/
  warn : String → m Unit

/-- The exit code of a run in which every scenario passed. -/
def exitPassed : Nat := 0

/-- The exit code of a run in which some scenario failed. -/
def exitFailed : Nat := 1

/-- The exit code when nothing could be run. -/
def exitSetup : Nat := 2

/-- The exit code of a crash. -/
def exitCrash : Nat := 101

/-- The name and version of the program. -/
def versionText : String := "gc-harness 0.1.0\n"

/-- How the program is called. -/
def usageText : String :=
  "Usage: gc-harness [-v] run [-c FILE] [--java PROGRAM] [--classpath PATH] [-t SECONDS]\n" ++
  "                           [-s SCENARIO]... [--json] [--raw]\n" ++
  "       gc-harness [-v] list [-c FILE]\n" ++
  "       gc-harness --version\n"

/-- The exit code that a report leads to. -/
def exitOf (r : Report) : Nat := if r.allPassed then exitPassed else exitFailed

/-- A configuration in which the command line has the last word. -/
def RunRequest.override (r : RunRequest) (c : Config) : Config :=
  { c with
    java := r.java.or c.java
    classpath := r.classpath.or c.classpath
    timeoutSecs := r.timeout.getD c.timeoutSecs }

/-- The configuration and the scenarios of a run, given the configuration that was loaded. -/
def RunRequest.prepare (r : RunRequest) (loaded : Except ConfigError Config) :
    Except ConfigError (Config × List Scenario) := do
  let c := r.override (← loaded)
  return (c, ← Session.select c.effectiveScenarios r.scenarios)

variable {m : Type → Type} [Monad m]

/-- Runs scenarios without a word and shows the report as data. -/
def runQuietly (w : World m) (c : Config) (scenarios : List Scenario) : m Report := do
  let report ← Session.runAll w.matcher c w.env (w.execute c.timeout) scenarios
  w.print (report.toJson.render ++ "\n")
  return report

/-- Runs one scenario with a line before and lines after it. -/
def runShown (w : World m) (c : Config) (raw : Bool) (s : Scenario) : m Outcome := do
  w.print (Display.startLine (← w.clock) s.name (c.launch w.env s).command raw)
  let outcome ← Session.runScenario w.matcher c w.env (w.execute c.timeout) s
  w.print (Display.outcomeLines (← w.clock) outcome)
  return outcome

/-- Runs scenarios one after the other, keeping their outcomes in order. -/
def runEachShown (w : World m) (c : Config) (raw : Bool) : List Scenario → m (List Outcome)
  | [] => return []
  | s :: rest => do
    let outcome ← runShown w c raw s
    return outcome :: (← runEachShown w c raw rest)

/-- Runs scenarios with lines about each, and a summary at the end. -/
def runAloud (w : World m) (c : Config) (raw : Bool) (scenarios : List Scenario) : m Report := do
  let report : Report := ⟨← runEachShown w c raw scenarios⟩
  w.print (Display.summaryLine report)
  return report

/-- The configuration that is loaded when a file is named, or none is. -/
def loaded (w : World m) (path : Option String) : Except ConfigError Config :=
  Config.load w.decode w.look (Config.pathsFor w.env path)

/-- Runs scenarios as asked. -/
def runScenarios (w : World m) (r : RunRequest) : m Nat := do
  match r.prepare (loaded w r.config) with
  | .error e =>
    w.warn (Display.errorLine e.message)
    return exitSetup
  | .ok (c, scenarios) =>
    if r.json then return exitOf (← runQuietly w c scenarios)
    else return exitOf (← runAloud w c r.raw scenarios)

/-- Shows scenarios. -/
def listScenarios (w : World m) (config : Option String) : m Nat := do
  match loaded w config with
  | .error e =>
    w.warn (Display.errorLine e.message)
    return exitSetup
  | .ok c =>
    w.print (String.join (c.effectiveScenarios.map fun s =>
      Display.scenarioLines s (c.launch w.env s).command))
    return exitPassed

/-- Does what a command line asks for and gives the exit code. -/
def execute (w : World m) (words : List String) : m Nat := do
  match Request.ofWords? words with
  | none =>
    w.warn usageText
    return exitSetup
  | some .version =>
    w.print versionText
    return exitPassed
  | some (.run r) => runScenarios w r
  | some (.list config) => listScenarios w config

end PauseWatch.CommandLine
