import PauseWatch.Launch.Quoting

/-!
# Launches

A launch is what is needed to start a process: a program, its arguments and, if given, a working
directory. No shell stands between, so every argument reaches the program as it is.
-/

namespace PauseWatch

/-- A process to be started. -/
structure LaunchSpec where
  /-- The program, as a path or a name to look up. -/
  program : String
  /-- The arguments after the program. -/
  args : List String := []
  /-- The working directory, if it is not the parent's. -/
  dir : Option String := none
  deriving DecidableEq, Repr, Inhabited

namespace LaunchSpec

/-- The launch with the given words, whose first is the program; no words make no launch. -/
def ofArgv? : List String → Option LaunchSpec
  | [] => none
  | program :: args => some ⟨program, args, none⟩

/-- The program and its arguments. -/
def argv (spec : LaunchSpec) : List String := spec.program :: spec.args

/-- The words of a launch determine its program and arguments. -/
@[simp] theorem ofArgv?_argv (spec : LaunchSpec) :
    ofArgv? spec.argv = some ⟨spec.program, spec.args, none⟩ := rfl

/-- The launch as a line that a shell would read back. -/
def command (spec : LaunchSpec) : String :=
  String.ofList (Launch.quoteWords (spec.argv.map String.toList))

end LaunchSpec

end PauseWatch
