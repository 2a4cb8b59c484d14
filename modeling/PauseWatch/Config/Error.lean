import PauseWatch.Text.Quoted

/-!
# What can be wrong before a run

Files that cannot be read or understood, configurations that make no sense, and scenarios that do
not exist.
-/

namespace PauseWatch

/-- Why a configuration makes no sense. -/
inductive ConfigFault where
  /-- The entry point is empty or blank. -/
  | blankEntryPoint
  /-- Two scenarios have one name. -/
  | duplicateName (name : String)
  /-- A scenario requires and forbids the same markers. -/
  | conflict (scenario : String) (markers : List String)
  deriving DecidableEq, Repr

/-- The fault in words. -/
def ConfigFault.message : ConfigFault → String
  | .blankEntryPoint => "entry_point must not be empty"
  | .duplicateName name => "duplicate scenario name '" ++ name ++ "'"
  | .conflict scenario markers =>
    "scenario '" ++ scenario ++ "' both requires and forbids " ++ Text.Quoted.renderList markers

/-- What can be wrong before a run. -/
inductive ConfigError where
  /-- The file cannot be read. -/
  | unreadable (path : String) (cause : String)
  /-- The file is no configuration, and why. -/
  | malformed (path : String) (cause : String)
  /-- The configuration makes no sense. -/
  | invalid (fault : ConfigFault)
  /-- No scenario has the name. -/
  | unknownScenario (name : String)
  deriving DecidableEq, Repr

/-- The error in words. -/
def ConfigError.message : ConfigError → String
  | .unreadable path cause => "Failed to read config file " ++ path ++ ": " ++ cause
  | .malformed path cause => "Failed to parse config file " ++ path ++ ": " ++ cause
  | .invalid fault => "Invalid configuration: " ++ fault.message
  | .unknownScenario name => "Unknown scenario '" ++ name ++ "'"

end PauseWatch
