import PauseWatch.Check.Expectation
import PauseWatch.Check.Location

/-!
# Failures

A failure keeps the expectation that does not hold, the channel it was checked on and the output, so
that it can be reported alone. The failures of one check pass are reported together and share their
output.
-/

namespace PauseWatch

/-- An expectation that does not hold. -/
structure Failure where
  /-- The expectation. -/
  expectation : Expectation
  /-- The channel that was checked. -/
  channel : Channel
  /-- The first place of a forbidden marker. -/
  location : Option Location := none
  /-- What else there is to say. -/
  detail : Option String := none
  /-- The output that was checked. -/
  output : Capture
  deriving DecidableEq, Repr

namespace Failure

/-- What is wrong, without place and detail. -/
def problem (f : Failure) : String :=
  match f.expectation with
  | .contains marker => "'" ++ marker ++ "' missing from " ++ f.channel.label
  | .notContains marker => "'" ++ marker ++ "' found in " ++ f.channel.label
  | .matching pattern => "no match for /" ++ pattern ++ "/ in " ++ f.channel.label
  | .exitValue code =>
    "expected exit value " ++ toString code.toInt ++
      match f.output.exitCode with
      | some actual => ", got " ++ toString actual.toInt
      | none => ", process was killed by a signal"

/-- The failure in one line. -/
def summary (f : Failure) : String :=
  f.problem ++ f.location.elim "" (fun place => " at " ++ place.describe)
    ++ f.detail.elim "" (fun detail => " (" ++ detail ++ ")")

/-- The failure with all of the output. -/
def describe (f : Failure) : String := f.summary ++ "\n" ++ f.output.dump

/-- A failure in JSON, without the output. -/
def toJson (f : Failure) : Json :=
  .obj [("expectation", f.expectation.toJson), ("stream", f.channel.toJson),
    ("location", Json.ofOption Location.toJson f.location),
    ("detail", Json.ofOption .str f.detail)]

end Failure

/-- The failures of one check pass, of which there is at least one. -/
structure Violations where
  /-- The failures, in the order of the expectations. -/
  failures : List Failure
  /-- There is a failure. -/
  nonempty : failures ≠ [] := by simp
  deriving DecidableEq, Repr

namespace Violations

/-- The failures as violations, if there are any. -/
def ofFailures? (failures : List Failure) : Option Violations :=
  if h : failures = [] then none else some ⟨failures, h⟩

/-- The failures one by one, then the output. -/
def describe (v : Violations) : String :=
  toString v.failures.length ++ " assertion(s) failed:\n"
    ++ String.join (v.failures.map fun f => "  - " ++ f.summary ++ "\n")
    ++ (v.failures.head v.nonempty).output.dump

/-- Violations in JSON. -/
def toJson (v : Violations) : Json := .obj [("failures", .arr (v.failures.map Failure.toJson))]

end Violations

end PauseWatch
