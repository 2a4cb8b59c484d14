import PauseWatch.Environment
import PauseWatch.Launch.Spec

/-!
# Building launches step by step

The steps may come in any order: options always stand before the entry point and program arguments
after it. Steps of one kind keep their order; of several entry points or working directories the
last one counts.
-/

namespace PauseWatch

/-- One step in building a launch. -/
inductive LaunchStep where
  /-- Adds one option. -/
  | flag (word : String)
  /-- Adds options. -/
  | flags (words : List String)
  /-- Adds the words of an environment variable as options. -/
  | flagsFromEnv (name : String)
  /-- Sets the entry point. -/
  | entryPoint (word : String)
  /-- Adds one program argument. -/
  | arg (word : String)
  /-- Adds program arguments. -/
  | args (words : List String)
  /-- Sets the working directory. -/
  | dir (path : String)
  deriving DecidableEq, Repr

/-- A launch under construction. -/
structure LaunchBuilder where
  /-- The program to start. -/
  program : String
  /-- The options so far. -/
  flags : List String := []
  /-- The entry point, once set. -/
  entryPoint : Option String := none
  /-- The program arguments so far. -/
  args : List String := []
  /-- The working directory, once set. -/
  dir : Option String := none
  deriving DecidableEq, Repr, Inhabited

namespace LaunchBuilder

/-- The builder after one step. -/
def add (env : Environment) (b : LaunchBuilder) : LaunchStep → LaunchBuilder
  | .flag word => { b with flags := b.flags ++ [word] }
  | .flags words => { b with flags := b.flags ++ words }
  | .flagsFromEnv name => { b with flags := b.flags ++ env.words name }
  | .entryPoint word => { b with entryPoint := some word }
  | .arg word => { b with args := b.args ++ [word] }
  | .args words => { b with args := b.args ++ words }
  | .dir path => { b with dir := some path }

/-- The builder after several steps. -/
def addAll (env : Environment) (b : LaunchBuilder) (steps : List LaunchStep) : LaunchBuilder :=
  steps.foldl (add env) b

/-- The finished launch: options, entry point, program arguments. -/
def build (b : LaunchBuilder) : LaunchSpec :=
  ⟨b.program, b.flags ++ b.entryPoint.toList ++ b.args, b.dir⟩

end LaunchBuilder

end PauseWatch
