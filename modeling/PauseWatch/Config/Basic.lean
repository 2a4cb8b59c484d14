import PauseWatch.Launch.Builder
import PauseWatch.Scenario
import PauseWatch.Text.Span

/-!
# Configurations

A configuration says how the machine is launched and which scenarios are run. Everything has a
default; without scenarios of its own a configuration runs the built-in ones.
-/

namespace PauseWatch

/-- How the machine is launched, and the scenarios to run. -/
structure Config where
  /-- The launcher, if it is not to be found through the environment. -/
  java : Option String := none
  /-- The class path of the probe. -/
  classpath : Option String := none
  /-- The main class of the probe. -/
  entryPoint : String := "TestExplicitGC"
  /-- The options of every launch. -/
  baseFlags : List String :=
    ["-Xmx128m", "-XX:+UnlockExperimentalVMOptions", "-XX:+UseShenandoahGC", "-Xlog:gc"]
  /-- The seconds that a process may take; zero stands for no limit. -/
  timeoutSecs : UInt64 := 120
  /-- The variable with further options. -/
  vmOptsEnv : String := "GC_HARNESS_VM_OPTS"
  /-- The scenarios to run instead of the built-in ones. -/
  scenarios : List Scenario := []
  deriving DecidableEq, Repr

namespace Config

/-- A configuration in JSON. -/
def toJson (c : Config) : Json :=
  .obj [("java", Json.ofOption .str c.java), ("classpath", Json.ofOption .str c.classpath),
    ("entry_point", .str c.entryPoint), ("base_flags", Json.strs c.baseFlags),
    ("timeout_secs", .nat c.timeoutSecs.toNat), ("vm_opts_env", .str c.vmOptsEnv),
    ("scenario", .arr (c.scenarios.map Scenario.toJson))]

/-- The names of the entries of a configuration. -/
def fields : List String :=
  ["java", "classpath", "entry_point", "base_flags", "timeout_secs", "vm_opts_env", "scenario"]

/-- Reads a configuration. -/
def ofJson? (json : Json) : Option Config := do
  let entries ← Json.record? fields json
  let defaults : Config := {}
  let java ← Json.optional? entries "java" none (Json.nullable? Json.text?)
  let classpath ← Json.optional? entries "classpath" none (Json.nullable? Json.text?)
  let entryPoint ← Json.optional? entries "entry_point" defaults.entryPoint Json.text?
  let baseFlags ← Json.optional? entries "base_flags" defaults.baseFlags (Json.list? Json.text?)
  let timeoutSecs ← Json.optional? entries "timeout_secs" defaults.timeoutSecs Json.uint64?
  let vmOptsEnv ← Json.optional? entries "vm_opts_env" defaults.vmOptsEnv Json.text?
  let scenarios ← Json.optional? entries "scenario" [] (Json.list? Scenario.ofJson?)
  some { java, classpath, entryPoint, baseFlags, timeoutSecs, vmOptsEnv, scenarios }

/-- A path below a directory, with one slash between them. -/
def below (dir : List UInt8) (path : String) : List UInt8 :=
  if dir.getLast? = some 47 then dir ++ Text.Utf8.encode path
  else dir ++ 47 :: Text.Utf8.encode path

/-- The launcher: the configured one, or the one in the home directory that the environment names,
or the one to be looked up by name. -/
def launcher (c : Config) (env : Environment) : String :=
  match c.java, env.get? "JAVA_HOME" with
  | some java, _ => java
  | none, some (byte :: bytes) => Text.Utf8.decode (below (byte :: bytes) "bin/java")
  | none, _ => "java"

/-- The time that a process may take, if there is a limit. -/
def timeout (c : Config) : Option Text.Span :=
  if c.timeoutSecs = 0 then none else some (.ofSeconds c.timeoutSecs.toNat)

/-- The scenarios to run. -/
def effectiveScenarios (c : Config) : List Scenario :=
  if c.scenarios = [] then Scenario.builtIn else c.scenarios

/-- There is always a scenario to run. -/
theorem effectiveScenarios_ne_nil (c : Config) : c.effectiveScenarios ≠ [] := by
  unfold effectiveScenarios
  split
  · simp [Scenario.builtIn]
  · assumption

/-- The steps that build the launch of a scenario: the options of every launch, those of the
environment, that of the scenario, the class path, the entry point and the arguments of the mode. -/
def launchSteps (c : Config) (s : Scenario) : List LaunchStep :=
  [.flags c.baseFlags]
    ++ (if c.vmOptsEnv = "" then [] else [.flagsFromEnv c.vmOptsEnv])
    ++ [.flags s.flag.toList]
    ++ (c.classpath.map fun path => .flags ["-cp", path]).toList
    ++ [.entryPoint c.entryPoint, .args s.mode.programArgs]

/-- The launch of a scenario. -/
def launch (c : Config) (env : Environment) (s : Scenario) : LaunchSpec :=
  (LaunchBuilder.addAll env { program := c.launcher env } (c.launchSteps s)).build

end Config

end PauseWatch
