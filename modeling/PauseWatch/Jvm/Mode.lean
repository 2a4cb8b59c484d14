import PauseWatch.Json.Reader

/-!
# Modes of the probe

The probe is the program that a Java virtual machine runs. It either asks for a garbage collection
or does nothing; any program argument at all makes it ask.
-/

namespace PauseWatch

/-- What the probe does. -/
inductive Mode where
  /-- The probe does nothing. -/
  | idle
  /-- The probe asks for a collection. -/
  | requestCollection
  deriving DecidableEq, Repr, Inhabited

namespace Mode

/-- The mode that given program arguments select. -/
def ofArgs (args : List String) : Mode := if args = [] then .idle else .requestCollection

/-- Program arguments that select a mode. -/
def programArgs : Mode → List String
  | .idle => []
  | .requestCollection => ["test"]

/-- The arguments of a mode select it. -/
@[simp] theorem ofArgs_programArgs (mode : Mode) : ofArgs mode.programArgs = mode := by
  cases mode <;> rfl

/-- The name of a mode. -/
def name : Mode → String
  | .idle => "default"
  | .requestCollection => "request-collection"

/-- The mode with a given name. -/
def ofName? (text : String) : Option Mode :=
  if text = "default" then some .idle
  else if text = "request-collection" then some .requestCollection
  else none

/-- Every mode has a name of its own. -/
@[simp] theorem ofName?_name (mode : Mode) : ofName? mode.name = some mode := by
  cases mode <;> simp [ofName?, name]

/-- Reads a mode. -/
def ofJson? (value : Json) : Option Mode := (Json.name? value).bind ofName?

/-- A mode in JSON. -/
def toJson (mode : Mode) : Json := .str mode.name

end Mode

end PauseWatch
