import PauseWatch.CommandLine.Console

/-!
# The program as an executable

The variables and the configuration files come from outside, and what a run leaves behind goes back
there. Launches run on a bare host of their own, where `java` is the simulated machine.
-/

namespace PauseWatch.Main

/-- The variables among some names that are set, as bytes. -/
def variablesOf (names : List String) : IO Environment := do
  let values ← names.mapM fun name => do
    return (← IO.getEnv name).map fun value => (name, Text.Utf8.encode value)
  return ⟨values.filterMap id⟩

/-- What is found under a path. -/
def readPath (path : String) : IO FileRead := do
  try
    return .content (← IO.FS.readBinFile path).toList
  catch e =>
    match e with
    | .noFileOrDirectory .. => return .missing
    | e => return .unreadable (toString e)

/-- The names of the variables that have a meaning whatever the configuration says. -/
def fixedNames : List String := ["PATH", "HOME", "XDG_CONFIG_HOME", "JAVA_HOME"]

/-- The configuration file that a request names. -/
def configNamed : CommandLine.Request → Option String
  | .version => none
  | .run r => r.config
  | .list config => config

/-- A bare host on which the simulated machine is installed. -/
def host : Host := { files := Tool.bareFiles.put ["usr", "bin", "java"] (.tool "java") }

/-- Does what a command line asks for. -/
def run (words : List String) : IO CommandLine.Left := do
  let env ← variablesOf fixedNames
  let paths := Config.pathsFor env ((CommandLine.Request.ofWords? words).bind configNamed)
  let files ← paths.mapM fun path => do return (path, ← readPath path)
  let look (path : String) : FileRead := (files.lookup path).getD .missing
  let named := match Config.load Config.ofToml look paths with
    | .ok c => c.vmOptsEnv
    | .error _ => ({} : Config).vmOptsEnv
  let env : Environment := ⟨env.vars ++ (← variablesOf [named]).vars⟩
  let runner : Host.Runner := { toolbox := Tool.toolbox, env, dir := ["srv"] }
  return CommandLine.executeIn { CommandLine.worldOn runner host with look } host words

end PauseWatch.Main

/-- Runs the program, shows what it leaves behind, and ends with its exit code. -/
def main (words : List String) : IO UInt32 := do
  let left ← PauseWatch.Main.run words
  (← IO.getStdout).putStr left.stdout
  (← IO.getStderr).putStr left.stderr
  return UInt32.ofNat left.exitCode
