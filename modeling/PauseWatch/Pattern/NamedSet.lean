import PauseWatch.Text.CharSet

/-!
# Named sets of characters

Tables of character properties list sets under one or several names.
-/

namespace PauseWatch.Pattern

/-- A set of characters with its names. -/
structure NamedSet where
  /-- The names, in lower case and without separators. -/
  names : List String
  /-- The characters. -/
  chars : Text.CharSet
  deriving Repr

/-- The characters of the first set that has a given name. -/
def NamedSet.find? (sets : List NamedSet) (name : String) : Option Text.CharSet :=
  (sets.find? (·.names.contains name)).map (·.chars)

end PauseWatch.Pattern
