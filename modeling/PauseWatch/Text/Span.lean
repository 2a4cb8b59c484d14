/-!
# Spans of time in words

A span is written in the largest of the units s, ms, µs, ns that it fills, with as many decimals as
it needs and no trailing zero.
-/

namespace PauseWatch.Text

/-- A span of time, in nanoseconds. -/
structure Span where
  /-- The length of the span. -/
  nanos : Nat
  deriving DecidableEq, Repr

namespace Span

/-- A span of whole seconds. -/
def ofSeconds (n : Nat) : Span := ⟨n * 1000000000⟩

/-- A span of whole milliseconds. -/
def ofMillis (n : Nat) : Span := ⟨n * 1000000⟩

/-- `n` as exactly `width` decimal digits, for `n` below `10 ^ width`. -/
def padded (width n : Nat) : List Char :=
  let digits := Nat.toDigits 10 n
  List.replicate (width - digits.length) '0' ++ digits

/-- `n` units of which a whole has `10 ^ places`, as a decimal number without trailing zeros. -/
def decimal (places n : Nat) : String :=
  let whole := toString (n / Nat.pow 10 places)
  let fraction := ((padded places (n % Nat.pow 10 places)).reverse.dropWhile (· == '0')).reverse
  if fraction.isEmpty then whole else whole ++ "." ++ String.ofList fraction

/-- The span in words. -/
def render (s : Span) : String :=
  if 1000000000 ≤ s.nanos then decimal 9 s.nanos ++ "s"
  else if 1000000 ≤ s.nanos then decimal 6 s.nanos ++ "ms"
  else if 1000 ≤ s.nanos then decimal 3 s.nanos ++ "µs"
  else toString s.nanos ++ "ns"

end Span

end PauseWatch.Text
