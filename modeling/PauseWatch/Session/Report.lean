import PauseWatch.Check.Failure
import PauseWatch.Run.Error
import PauseWatch.Stage

/-!
# Outcomes and reports

The outcome of a scenario keeps whatever there is: the output, the failed expectations, or the
reason why there is no output. A report lists the outcomes in the order of the runs.
-/

namespace PauseWatch

/-- What became of a scenario. -/
structure Outcome where
  /-- The name of the scenario. -/
  name : String
  /-- The launch, as a command line. -/
  command : String
  /-- Where the scenario stands. -/
  stage : Stage := .pending
  /-- The output, if there is one. -/
  output : Option Capture := none
  /-- The expectations that do not hold, if there are any. -/
  violations : Option Violations := none
  /-- Why there is no output. -/
  error : Option RunError := none
  deriving DecidableEq, Repr

namespace Outcome

/-- Whether the scenario has passed. -/
def hasPassed (o : Outcome) : Bool := o.stage == .passed

/-- Why a scenario failed, for a reader. -/
def failureLines (o : Outcome) : List String :=
  o.error.elim [] (fun e => e.message :: e.keptOutput)
    ++ o.violations.elim [] (fun v => v.failures.map Failure.summary)

/-- An outcome in JSON. -/
def toJson (o : Outcome) : Json :=
  .obj [("name", .str o.name), ("command", .str o.command), ("state", .str o.stage.name),
    ("output", Json.ofOption Capture.toJson o.output),
    ("violations", Json.ofOption Violations.toJson o.violations),
    ("error", Json.ofOption (fun e => .str e.message) o.error)]

end Outcome

/-- The outcomes of a run, in order. -/
structure Report where
  /-- The outcomes. -/
  outcomes : List Outcome
  deriving DecidableEq, Repr

namespace Report

/-- The outcomes of scenarios that passed. -/
def passed (r : Report) : List Outcome := r.outcomes.filter (·.hasPassed)

/-- The outcomes of scenarios that did not pass. -/
def failed (r : Report) : List Outcome := r.outcomes.filter (!·.hasPassed)

/-- Whether every scenario passed. -/
def allPassed (r : Report) : Bool := r.outcomes.all (·.hasPassed)

/-- A report in JSON. -/
def toJson (r : Report) : Json := .obj [("outcomes", .arr (r.outcomes.map Outcome.toJson))]

end Report

end PauseWatch
