/-!
# Cutting a text at separators

`pieces` keeps every piece between two separators, the empty ones too, so a text has one piece more
than it has separators and joining the pieces gives the text back.
-/

namespace PauseWatch.Text

variable {α : Type}

/-- The pieces of a text between the elements that `isCut` picks, empty pieces included. -/
def pieces (isCut : α → Bool) : List α → List (List α)
  | [] => [[]]
  | c :: rest =>
    if isCut c then [] :: pieces isCut rest
    else match pieces isCut rest with
      | [] => [[c]]
      | piece :: more => (c :: piece) :: more

/-- The pieces of a text between the occurrences of one character. -/
def splitAt (cut : Char) (text : String) : List String :=
  (pieces (· == cut) text.toList).map String.ofList

end PauseWatch.Text
