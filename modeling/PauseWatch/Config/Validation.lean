import PauseWatch.Config.Basic
import PauseWatch.Config.Error

/-!
# Configurations that make sense

A configuration has to name an entry point, its scenarios need names of their own, and no scenario
may require and forbid the same marker. The scenarios are looked at in order, and of one scenario
the name comes first.
-/

namespace PauseWatch

namespace Config

/-- The first fault of scenarios that follow others with the given names. -/
def scenarioFault? (seen : List String) : List Scenario → Option ConfigFault
  | [] => none
  | s :: rest =>
    if s.name ∈ seen then some (.duplicateName s.name)
    else if s.patterns.conflicts ≠ [] then some (.conflict s.name s.patterns.conflicts)
    else scenarioFault? (s.name :: seen) rest

/-- The first fault of a configuration. -/
def fault? (c : Config) : Option ConfigFault :=
  if Text.isBlankText c.entryPoint then some .blankEntryPoint
  else scenarioFault? [] c.scenarios

/-- The configuration, if it has no fault. -/
def validate (c : Config) : Except ConfigError Config :=
  match c.fault? with
  | some fault => .error (.invalid fault)
  | none => .ok c

end Config

end PauseWatch
