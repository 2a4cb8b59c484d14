import PauseWatch.Check.PatternSet
import PauseWatch.Jvm.Mode

/-!
# Scenarios

A scenario is one combination of options together with what the output of the run has to satisfy.
The built-in scenarios cover the ways in which options change the answer to an explicit collection
request.
-/

namespace PauseWatch

/-- One combination of options and what its output has to satisfy. -/
structure Scenario where
  /-- The name of the scenario. -/
  name : String
  /-- What the scenario shows. -/
  description : String := ""
  /-- The option that the scenario adds, if any. -/
  flag : Option String := none
  /-- What the probe is to do. -/
  mode : Mode := .requestCollection
  /-- The markers that must and must not occur. -/
  patterns : PatternSet := {}
  /-- Where the markers are looked for. -/
  channel : Channel := .stdout
  /-- The exit code, if it matters. -/
  expectedExit : Option Int32 := none
  deriving DecidableEq, Repr

namespace Scenario

/-- What the output is checked for: the exit code first, then the markers. -/
def expectations (s : Scenario) : List Expectation :=
  (s.expectedExit.map .exitValue).toList ++ s.patterns.expectations

/-- A scenario in JSON. -/
def toJson (s : Scenario) : Json :=
  .obj ([("name", .str s.name), ("description", .str s.description),
      ("flag", Json.ofOption .str s.flag), ("mode", s.mode.toJson)]
    ++ s.patterns.toEntries
    ++ [("stream", s.channel.toJson),
      ("expected_exit", Json.ofOption (fun code => .int code.toInt) s.expectedExit)])

/-- Reads a scenario. -/
def ofJson? (json : Json) : Option Scenario := do
  let entries ← Json.entries? json
  let name ← Json.required? entries "name" Json.text?
  let description ← Json.optional? entries "description" "" Json.text?
  let flag ← Json.optional? entries "flag" none (Json.nullable? Json.text?)
  let mode ← Json.optional? entries "mode" .requestCollection Mode.ofJson?
  let patterns ← PatternSet.ofEntries? entries
  let channel ← Json.optional? entries "stream" .stdout Channel.ofJson?
  let expectedExit ← Json.optional? entries "expected_exit" none (Json.nullable? Json.int32?)
  some { name, description, flag, mode, patterns, channel, expectedExit }

/-- What a collection that stops the program logs. -/
def fullMarker : String := "Pause Full"

/-- What a concurrent collection logs. -/
def concurrentMarkers : List String := ["Pause Init Mark", "Pause Final Mark"]

/-- The markers of a concurrent collection and none of a full one. -/
def concurrentOnly : PatternSet := { required := concurrentMarkers, forbidden := [fullMarker] }

/-- The built-in scenarios. All of them ask for a clean exit, so that a machine that does not start
passes none. -/
def builtIn : List Scenario :=
  [{ name := "default"
     description := "Explicit GC runs a concurrent cycle by default"
     patterns := concurrentOnly
     expectedExit := some 0 },
   { name := "disable-explicit-gc"
     description := "DisableExplicitGC ignores the request"
     flag := some "-XX:+DisableExplicitGC"
     patterns := { forbidden := concurrentMarkers ++ [fullMarker] }
     expectedExit := some 0 },
   { name := "explicit-gc-invokes-concurrent"
     description := "ExplicitGCInvokesConcurrent runs a concurrent cycle"
     flag := some "-XX:+ExplicitGCInvokesConcurrent"
     patterns := concurrentOnly
     expectedExit := some 0 },
   { name := "explicit-gc-full"
     description := "-ExplicitGCInvokesConcurrent runs a full collection"
     flag := some "-XX:-ExplicitGCInvokesConcurrent"
     patterns := { required := [fullMarker], forbidden := concurrentMarkers }
     expectedExit := some 0 }]

end Scenario

end PauseWatch
