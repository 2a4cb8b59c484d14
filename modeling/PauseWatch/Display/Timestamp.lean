import PauseWatch.Display.Progress
import PauseWatch.Text.Span

/-!
# Times of day

A number of microseconds since the beginning of 1970 is written as a date and a time of day. Days
are counted in years that begin in March, so that a leap day is the last day of its year.
-/

namespace PauseWatch.Display

/-- The year, the month and the day of the month on the `n`-th day after the first of 1970. -/
def dateOf (n : Nat) : Nat × Nat × Nat :=
  let n := n + 719468
  let era := n / 146097
  let day := n % 146097
  let year := (day - day / 1460 + day / 36524 - day / 146096) / 365
  let dayOfYear := day - (365 * year + year / 4 - year / 100)
  let month := (5 * dayOfYear + 2) / 153
  let dayOfMonth := dayOfYear - (153 * month + 2) / 5 + 1
  let isLate := 10 ≤ month
  (era * 400 + year + (if isLate then 1 else 0), (if isLate then month - 9 else month + 3),
    dayOfMonth)

/-- A date and time of day. -/
def timestamp (micros : Nat) : String :=
  let seconds := micros / 1000000
  let (year, month, day) := dateOf (seconds / 86400)
  let padded (width n : Nat) : String := String.ofList (Text.Span.padded width n)
  padded 4 year ++ "-" ++ padded 2 month ++ "-" ++ padded 2 day ++ "T"
    ++ padded 2 (seconds / 3600 % 24) ++ ":" ++ padded 2 (seconds / 60 % 60) ++ ":"
    ++ padded 2 (seconds % 60) ++ "." ++ padded 6 (micros % 1000000) ++ "Z"

/-- The clock at some microsecond. -/
def Clock.at (micros : Nat) : Clock := ⟨timestamp micros, toString⟩

example : timestamp 0 = "1970-01-01T00:00:00.000000Z" := by decide +kernel

example : timestamp 951868799999999 = "2000-02-29T23:59:59.999999Z" := by decide +kernel

end PauseWatch.Display
