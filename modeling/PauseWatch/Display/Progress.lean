import PauseWatch.Display.Style
import PauseWatch.Display.Truncation
import PauseWatch.Scenario
import PauseWatch.Session.Report

/-!
# What a run shows

One line when a scenario starts, one when it ends, the reasons and the output if it failed, and a
summary at the end. Times of day and durations are written by a clock that the caller supplies.
-/

namespace PauseWatch.Display

/-- How times are written. -/
structure Clock where
  /-- The time of day. -/
  now : String
  /-- A number of milliseconds. -/
  millis : Nat → String

/-- The most characters that are shown of a command line. -/
def commandLimit : Nat := 120

/-- The line for a scenario that starts. -/
def startLine (clock : Clock) (name command : String) (raw : Bool) : String :=
  styled .dim clock.now ++ " " ++ tag .blue "[RUN]" ++ " " ++ styled .cyan name ++ " "
    ++ styled .dim (truncate command commandLimit raw) ++ "\n"

/-- The lines for a scenario that has ended. -/
def outcomeLines (clock : Clock) (o : Outcome) : String :=
  let elapsed := o.output.elim "" fun c => "(" ++ clock.millis c.elapsed ++ " ms)"
  let head := styled .dim clock.now ++ " "
    ++ (if o.hasPassed then tag .green "[PASS]" else tag .red "[FAIL]")
    ++ " " ++ o.name ++ " " ++ styled .dim elapsed ++ "\n"
  if o.hasPassed then head
  else
    head
      ++ String.join (o.failureLines.map fun line => "  " ++ styled .red "-" ++ " " ++ line ++ "\n")
      ++ o.output.elim "" fun c => styled .dim c.dump ++ "\n"

/-- The line at the end of a run. -/
def summaryLine (r : Report) : String :=
  let tally := toString r.passed.length ++ " passed, " ++ toString r.failed.length ++ " failed"
  if r.allPassed then tag .green "[SUMMARY]" ++ " " ++ tally ++ "\n"
  else
    tag .red "[SUMMARY]" ++ " " ++ tally
      ++ " (" ++ ", ".intercalate (r.failed.map (·.name)) ++ ")\n"

/-- A scenario with its command line and its markers. -/
def scenarioLines (s : Scenario) (command : String) : String :=
  tag .cyan s.name ++ " " ++ styled .dim s.description ++ "\n"
    ++ "    " ++ command ++ "\n"
    ++ String.join (s.patterns.required.map fun m =>
      "    " ++ styled .green "+" ++ " " ++ m ++ "\n")
    ++ String.join (s.patterns.forbidden.map fun m => "    " ++ styled .red "-" ++ " " ++ m ++ "\n")

/-- The line for an error. -/
def errorLine (message : String) : String := tag .red "[ERROR]" ++ " " ++ message ++ "\n"

end PauseWatch.Display
