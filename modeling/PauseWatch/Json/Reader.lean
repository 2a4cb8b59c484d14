import PauseWatch.Json.Basic

/-!
# Reading domain values from JSON

A reader answers `none` when a value does not have the shape it expects. A record is read entry by
entry: an entry that is missing takes its default, an entry that is there must have the right shape,
and entries nobody asks for are passed over, so neither their number nor the order matters.
-/

namespace PauseWatch.Json

/-- A reader of values of one type. -/
abbrev Reader (α : Type) := Json → Option α

/-- Reads a text. -/
def text? : Reader String
  | .str text => some text
  | _ => none

/-- Reads a truth value. -/
def bool? : Reader Bool
  | .bool b => some b
  | _ => none

/-- Reads a whole number from `low` up to `high`. -/
def intIn? (low high : Int) : Reader Int
  | .int n => if low ≤ n ∧ n ≤ high then some n else none
  | _ => none

/-- Reads a signed number of 32 bits. -/
def int32? (value : Json) : Option Int32 :=
  (intIn? (-2147483648) 2147483647 value).map Int32.ofInt

/-- Reads an unsigned number of 64 bits. -/
def uint64? (value : Json) : Option UInt64 :=
  (intIn? 0 18446744073709551615 value).map fun n => UInt64.ofNat n.toNat

/-- Reads a value that may be null. -/
def nullable? {α : Type} (read : Reader α) : Reader (Option α)
  | .null => some none
  | value => (read value).map some

/-- Reads the name of a value without content: a text, or an object whose only entry has that name
and the value null. -/
def name? : Reader String
  | .str text => some text
  | .obj [(key, .null)] => some key
  | _ => none

/-- Reads every item of an array. -/
def list? {α : Type} (read : Reader α) : Reader (List α)
  | .arr items => items.mapM read
  | _ => none

/-- The entries of an object. -/
def entries? : Reader (List (String × Json))
  | .obj entries => some entries
  | _ => none

/-- Reads the entry `key`, which has to be there. -/
def required? {α : Type} (entries : List (String × Json)) (key : String) (read : Reader α) :
    Option α :=
  (entries.lookup key).bind read

/-- Reads the entry `key`, or answers `default` when there is no such entry. -/
def optional? {α : Type} (entries : List (String × Json)) (key : String) (default : α)
    (read : Reader α) : Option α :=
  match entries.lookup key with
  | none => some default
  | some value => read value

/-- The entries of a record with the given field names: those of an object, or the items of an array
in the order of the fields, of which the last ones may be missing. -/
def record? (fields : List String) : Reader (List (String × Json))
  | .obj entries => some entries
  | .arr items => if items.length ≤ fields.length then some (fields.zip items) else none
  | _ => none

end PauseWatch.Json
