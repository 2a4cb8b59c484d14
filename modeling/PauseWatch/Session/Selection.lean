import PauseWatch.Config.Error
import PauseWatch.Scenario

/-!
# Selecting scenarios by name

Without names every scenario is selected. With names, each selects the first scenario that bears it,
in the order of the names; a name that nothing bears makes the whole selection fail.
-/

namespace PauseWatch.Session

/-- The first scenario with a given name. -/
def named (scenarios : List Scenario) (name : String) : Except ConfigError Scenario :=
  match scenarios.find? (·.name == name) with
  | some s => .ok s
  | none => .error (.unknownScenario name)

/-- The scenarios that names select. -/
def select (scenarios : List Scenario) (names : List String) :
    Except ConfigError (List Scenario) :=
  if names = [] then .ok scenarios else names.mapM (named scenarios)

end PauseWatch.Session
