import PauseWatch.Check.Failure
import PauseWatch.Check.PatternSet
import PauseWatch.Text.Search

/-!
# Checking an output

Every expectation is checked by itself: the answer is its failure or nothing, whatever else is
checked before or after. What patterns mean is left to a matcher.
-/

namespace PauseWatch

/-- Makes a test of texts from the text of a pattern, or says why the text is no pattern. -/
abbrev Matcher := String → Except String (String → Bool)

namespace Capture

/-- The failure of an expectation without place and detail. -/
def failure (c : Capture) (channel : Channel) (e : Expectation) : Failure where
  expectation := e
  channel := channel
  output := c

/-- Checks that a marker occurs. -/
def checkContains (c : Capture) (channel : Channel) (marker : String) : Option Failure :=
  if Text.occurs marker.toList (c.text channel).toList then none
  else some (c.failure channel (.contains marker))

/-- Checks that a marker does not occur; the failure tells its first place. -/
def checkNotContains (c : Capture) (channel : Channel) (marker : String) : Option Failure :=
  let chars := (c.text channel).toList
  (Text.find? marker.toList chars).map fun n =>
    { c.failure channel (.notContains marker) with location := some (.after (chars.take n)) }

/-- Checks that a pattern matches somewhere. A text that is no pattern matches nowhere, and the
failure tells why it is none. -/
def checkMatching (c : Capture) (matcher : Matcher) (channel : Channel) (pattern : String) :
    Option Failure :=
  match matcher pattern with
  | .error reason =>
    some { c.failure channel (.matching pattern) with
      detail := some ("invalid pattern: " ++ reason) }
  | .ok test => if test (c.text channel) then none else some (c.failure channel (.matching pattern))

/-- Checks the exit code. -/
def checkExitValue (c : Capture) (channel : Channel) (code : Int32) : Option Failure :=
  if c.exitCode = some code then none else some (c.failure channel (.exitValue code))

/-- Checks one expectation. -/
def check (c : Capture) (matcher : Matcher) (channel : Channel) : Expectation → Option Failure
  | .contains marker => c.checkContains channel marker
  | .notContains marker => c.checkNotContains channel marker
  | .matching pattern => c.checkMatching matcher channel pattern
  | .exitValue code => c.checkExitValue channel code

/-- The failures of several expectations, in their order. -/
def failures (c : Capture) (matcher : Matcher) (channel : Channel) (es : List Expectation) :
    List Failure :=
  es.filterMap (c.check matcher channel)

/-- Checks several expectations. -/
def checkAll (c : Capture) (matcher : Matcher) (channel : Channel) (es : List Expectation) :
    Option Violations :=
  Violations.ofFailures? (c.failures matcher channel es)

/-- Checks the markers of a pattern set. -/
def checkPatterns (c : Capture) (matcher : Matcher) (channel : Channel) (p : PatternSet) :
    Option Violations :=
  c.checkAll matcher channel p.expectations

end Capture

end PauseWatch
