/-!
# JSON values

Objects keep their entries in the order written. Numbers are whole numbers or anything else: the
formats of this library hold whole numbers only, so a number with a point or an exponent is kept as
its text and is accepted nowhere.
-/

namespace PauseWatch

/-- A JSON value. -/
inductive Json where
  /-- The value null. -/
  | null
  /-- A truth value. -/
  | bool (b : Bool)
  /-- A number written without point and exponent. -/
  | int (n : Int)
  /-- Any other number, as written. -/
  | decimal (text : String)
  /-- A text. -/
  | str (text : String)
  /-- An array. -/
  | arr (items : List Json)
  /-- An object, as its entries. -/
  | obj (entries : List (String × Json))
  deriving Repr, Inhabited

namespace Json

/-- A whole number that is not negative. -/
def nat (n : Nat) : Json := .int n

/-- An array of texts. -/
def strs (texts : List String) : Json := .arr (texts.map .str)

/-- A value that may be missing, with null for a missing one. -/
def ofOption {α : Type} (encode : α → Json) : Option α → Json
  | none => .null
  | some a => encode a

end Json

end PauseWatch
