/-!
# Places of a marker in a text

A marker occurs in a text when the text splits as something, the marker, and something more. The
search returns the length of the shortest text before an occurrence, so the first occurrence is
the one reported.
-/

namespace PauseWatch.Text

variable {α : Type} [DecidableEq α]

/-- How many elements stand before the first occurrence of `marker` in `text`, if there is one. -/
def find? (marker : List α) : List α → Option Nat
  | [] => if marker = [] then some 0 else none
  | c :: rest => if marker.isPrefixOf (c :: rest) then some 0 else (find? marker rest).map (· + 1)

/-- Whether `marker` is a contiguous part of `text`. -/
def occurs (marker text : List α) : Bool := (find? marker text).isSome

/-- The empty marker occurs at the very start of every text. -/
@[simp] theorem find?_nil (text : List α) : find? [] text = some 0 := by
  cases text <;> simp [find?]

/-- What follows `lead` in a text that starts with it. -/
def after? (lead text : String) : Option String :=
  (lead.toList.isPrefixOf? text.toList).map String.ofList

/-- Whether a text starts with `lead`. -/
def startsWith (lead text : String) : Bool := lead.toList.isPrefixOf text.toList

end PauseWatch.Text
