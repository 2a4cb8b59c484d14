import PauseWatch.Capture

/-!
# Expectations

An expectation is one thing that a captured output has to satisfy: a marker that occurs or does not,
a pattern that matches, or the exit code.
-/

namespace PauseWatch

/-- One thing that a captured output has to satisfy. -/
inductive Expectation where
  /-- A marker occurs. -/
  | contains (marker : String)
  /-- A marker does not occur. -/
  | notContains (marker : String)
  /-- A pattern matches somewhere. -/
  | matching (pattern : String)
  /-- The process exited with a code. -/
  | exitValue (code : Int32)
  deriving DecidableEq, Repr

namespace Expectation

/-- The class of an expectation in reports. -/
def className : Expectation → String
  | .contains _ => "required"
  | .notContains _ => "forbidden"
  | .matching _ => "matches"
  | .exitValue _ => "exit_value"

/-- The marker, the pattern or the code. -/
def subject : Expectation → String
  | .contains marker => marker
  | .notContains marker => marker
  | .matching pattern => pattern
  | .exitValue code => toString code.toInt

/-- The expectation in words. -/
def describe : Expectation → String
  | .contains marker => "should contain '" ++ marker ++ "'"
  | .notContains marker => "should not contain '" ++ marker ++ "'"
  | .matching pattern => "should match /" ++ pattern ++ "/"
  | .exitValue code => "should have exit value " ++ toString code.toInt

/-- The kind of an expectation in data. -/
def kind : Expectation → String
  | .contains _ => "contains"
  | .notContains _ => "not_contains"
  | .matching _ => "matches"
  | .exitValue _ => "exit_value"

/-- What an expectation is about, in data. -/
def value : Expectation → Json
  | .contains marker => .str marker
  | .notContains marker => .str marker
  | .matching pattern => .str pattern
  | .exitValue code => .int code.toInt

/-- An expectation in JSON. -/
def toJson (e : Expectation) : Json := .obj [("kind", .str e.kind), ("value", e.value)]

/-- Reads the value of an expectation of a given kind. -/
def ofKind? (kind : String) (value : Json) : Option Expectation :=
  if kind = "contains" then (Json.text? value).map .contains
  else if kind = "not_contains" then (Json.text? value).map .notContains
  else if kind = "matches" then (Json.text? value).map .matching
  else if kind = "exit_value" then (Json.int32? value).map .exitValue
  else none

/-- Reads an expectation. -/
def ofJson? (json : Json) : Option Expectation := do
  let entries ← Json.record? ["kind", "value"] json
  let kind ← Json.required? entries "kind" Json.name?
  Json.required? entries "value" (ofKind? kind)

end Expectation

end PauseWatch
