/-!
# Shortened texts

A text that is too long is cut between two characters and ends in three dots, which count towards
its length. Limits below three leave the dots alone.
-/

namespace PauseWatch.Display

/-- The three dots at the end of a shortened text. -/
def dots : List Char := ['.', '.', '.']

/-- A text with at most `limit` characters, or `limit` characters of it and dots in place of the
last three of these. -/
def shorten (limit : Nat) (text : List Char) : List Char :=
  if text.length ≤ limit then text
  else if limit ≤ 3 then dots
  else text.take (limit - 3) ++ dots

/-- A text as it is shown: as it is if it is to be shown raw, and shortened otherwise. -/
def truncate (text : String) (limit : Nat) (raw : Bool) : String :=
  if raw then text else String.ofList (shorten limit text.toList)

end PauseWatch.Display
