import PauseWatch.Json.Reader

/-!
# Stages of a scenario

A scenario is pending until its process is launched, running until the output is captured, and in
the end passed or failed. A run that cannot be captured fails at once. Any other move is ignored.
-/

namespace PauseWatch

/-- Where a scenario stands. -/
inductive Stage where
  /-- Nothing has happened yet. -/
  | pending
  /-- The process has been launched. -/
  | running
  /-- The process has ended and all output has been read. -/
  | captured
  /-- The output satisfies all expectations. -/
  | passed
  /-- There is no output, or it does not satisfy all expectations. -/
  | failed
  deriving DecidableEq, Repr, Inhabited

namespace Stage

/-- Whether nothing can follow a stage. -/
def isTerminal : Stage → Bool
  | .passed | .failed => true
  | _ => false

/-- Whether one stage may follow another. -/
def allows : Stage → Stage → Bool
  | .pending, .running => true
  | .running, .captured => true
  | .running, .failed => true
  | .captured, .passed => true
  | .captured, .failed => true
  | _, _ => false

/-- The stage after a request to move, which is ignored where it is not allowed. -/
def move (current next : Stage) : Stage := if current.allows next then next else current

/-- The stage after several requests. -/
def moveAll (current : Stage) (requests : List Stage) : Stage := requests.foldl move current

/-- A terminal stage allows nothing. -/
theorem allows_of_isTerminal {s : Stage} (h : s.isTerminal = true) (next : Stage) :
    s.allows next = false := by
  cases s <;> cases next <;> simp_all [isTerminal, allows]

/-- The name of a stage. -/
def name : Stage → String
  | .pending => "pending"
  | .running => "running"
  | .captured => "captured"
  | .passed => "passed"
  | .failed => "failed"

/-- The stage with a given name. -/
def ofName? (text : String) : Option Stage :=
  [.pending, .running, .captured, .passed, .failed].find? (·.name == text)

/-- Reads a stage. -/
def ofJson? (value : Json) : Option Stage := (Json.name? value).bind ofName?

end Stage

end PauseWatch
