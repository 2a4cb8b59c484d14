import PauseWatch.Text.Span

/-!
# Deadlines

The clock counts whole seconds in a signed word of 64 bits. A deadline beyond the last second that
the clock can count does not exist.
-/

namespace PauseWatch.Run

/-- A reading of the clock. -/
structure Instant where
  /-- The nanoseconds since the clock started. -/
  nanos : Nat
  deriving DecidableEq, Repr

namespace Instant

/-- The number of nanoseconds of a second. -/
def second : Nat := 1000000000

/-- The first second that the clock cannot count. -/
def horizon : Nat := Nat.pow 2 63

/-- Whether the clock can show an instant. -/
def isReadable (t : Instant) : Bool := t.nanos / second < horizon

/-- The instant a span of time later, if the clock can show it. -/
def after? (t : Instant) (span : Text.Span) : Option Instant :=
  let later : Instant := ⟨t.nanos + span.nanos⟩
  if later.isReadable then some later else none

end Instant

end PauseWatch.Run
