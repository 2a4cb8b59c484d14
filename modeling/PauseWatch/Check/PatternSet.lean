import PauseWatch.Check.Expectation

/-!
# Sets of markers

A pattern set lists markers that must occur and markers that must not. A marker on both lists is a
conflict: no output satisfies the set.
-/

namespace PauseWatch

/-- Markers that must and must not occur. -/
structure PatternSet where
  /-- The markers that must occur. -/
  required : List String := []
  /-- The markers that must not occur. -/
  forbidden : List String := []
  deriving DecidableEq, Repr, Inhabited

/-- One step in building a pattern set. -/
inductive PatternStep where
  /-- Adds markers that must occur. -/
  | require (markers : List String)
  /-- Adds markers that must not occur. -/
  | forbid (markers : List String)
  deriving DecidableEq, Repr

namespace PatternSet

/-- The set after one step. -/
def add (p : PatternSet) : PatternStep → PatternSet
  | .require markers => { p with required := p.required ++ markers }
  | .forbid markers => { p with forbidden := p.forbidden ++ markers }

/-- The set after several steps. -/
def addAll (p : PatternSet) (steps : List PatternStep) : PatternSet := steps.foldl add p

/-- The required markers that are forbidden as well. -/
def conflicts (p : PatternSet) : List String := p.required.filter (· ∈ p.forbidden)

/-- Whether the set lists no marker. -/
def isEmpty (p : PatternSet) : Bool := p.required.isEmpty && p.forbidden.isEmpty

/-- The markers as expectations, the required ones first. -/
def expectations (p : PatternSet) : List Expectation :=
  p.required.map .contains ++ p.forbidden.map .notContains

/-- The entries of a pattern set in JSON. -/
def toEntries (p : PatternSet) : List (String × Json) :=
  [("required", Json.strs p.required), ("forbidden", Json.strs p.forbidden)]

/-- A pattern set in JSON. -/
def toJson (p : PatternSet) : Json := .obj p.toEntries

/-- Reads a pattern set from the entries of an object. -/
def ofEntries? (entries : List (String × Json)) : Option PatternSet := do
  let required ← Json.optional? entries "required" [] (Json.list? Json.text?)
  let forbidden ← Json.optional? entries "forbidden" [] (Json.list? Json.text?)
  some { required, forbidden }

/-- Reads a pattern set. -/
def ofJson? (json : Json) : Option PatternSet :=
  (Json.record? ["required", "forbidden"] json).bind ofEntries?

end PatternSet

end PauseWatch
