import PauseWatch.Json.Basic

/-!
# Tables under construction

A document builds its tables step by step, and how a table came about decides what may be added to
it: a table made on the way to another one can still be given a header, one made by a dotted key can
only grow by dotted keys, and a table written as a value cannot grow at all.
-/

namespace PauseWatch.Toml

/-- How a table came about. -/
inductive Origin where
  /-- By a header of its own, or as the whole document. -/
  | header
  /-- On the way to a table with a header. -/
  | implied
  /-- On the way to a value with a dotted key. -/
  | dotted
  deriving DecidableEq, Repr

/-- What a key stands for while a document is read. -/
inductive Tree where
  /-- A finished value. -/
  | value (v : Json)
  /-- A table. -/
  | table (origin : Origin) (entries : List (String × Tree))
  /-- An array of tables, the last one first. -/
  | tables (items : List (List (String × Tree)))
  deriving Inhabited

/-- The entries of a table. -/
abbrev Entries := List (String × Tree)

mutual

/-- The value that a finished tree stands for. -/
def Tree.toJson : Tree → Json
  | .value v => v
  | .table _ entries => .obj (Tree.entriesToJson entries)
  | .tables items => .arr (Tree.itemsToJson [] items)

/-- The entries of a finished table. -/
def Tree.entriesToJson : List (String × Tree) → List (String × Json)
  | [] => []
  | (key, tree) :: rest => (key, tree.toJson) :: Tree.entriesToJson rest

/-- The tables of a finished array, in order, before others. -/
def Tree.itemsToJson (later : List Json) : List (List (String × Tree)) → List Json
  | [] => later
  | entries :: earlier => Tree.itemsToJson (.obj (Tree.entriesToJson entries) :: later) earlier

end

namespace Entries

/-- The entries with a new tree for a key, in the place of the old one or at the end. -/
def set (entries : Entries) (key : String) (tree : Tree) : Entries :=
  match entries with
  | [] => [(key, tree)]
  | (k, t) :: rest => if k = key then (key, tree) :: rest else (k, t) :: set rest key tree

/-- Changes the table that a path leads to. Tables that are missing on the way are made; `dotted`
tells whether the path is a dotted key, which may not lead through tables with a header. An array of
tables leads to its last table. -/
def updateAt (dotted : Bool) (change : Origin → Entries → Option Entries) :
    List String → Origin → Entries → Option Entries
  | [], origin, entries => change origin entries
  | key :: path, _, entries =>
    match (entries.lookup key).getD (.table (if dotted then .dotted else .implied) []) with
    | .value _ => none
    | .table origin inner =>
      if dotted && origin == .header then none
      else
        (updateAt dotted change path origin inner).map fun inner =>
          set entries key (.table origin inner)
    | .tables [] => none
    | .tables (last :: earlier) =>
      (updateAt dotted change path .header last).map fun last =>
        set entries key (.tables (last :: earlier))

/-- Adds a value under a dotted key, whose last part must be new. A key with one part belongs to
tables that were not made by dotted keys, a longer key only to such tables. -/
def addValue (path : List String) (key : String) (v : Json) (entries : Entries) : Option Entries :=
  updateAt true
    (fun origin inner =>
      if (origin == .dotted) == path.isEmpty then none
      else if (inner.lookup key).isSome then none
      else some (inner ++ [(key, .value v)]))
    path .header entries

/-- Opens the table of a header, which may have been made on the way to another one but in no other
way. -/
def openTable (path : List String) (key : String) (entries : Entries) : Option Entries :=
  updateAt false
    (fun _ inner =>
      match inner.lookup key with
      | none => some (inner ++ [(key, .table .header [])])
      | some (.table .implied old) => some (set inner key (.table .header old))
      | some _ => none)
    path .header entries

/-- Opens a new table at the end of an array of tables. -/
def openItem (path : List String) (key : String) (entries : Entries) : Option Entries :=
  updateAt false
    (fun _ inner =>
      match inner.lookup key with
      | none => some (inner ++ [(key, .tables [[]])])
      | some (.tables items) => some (set inner key (.tables ([] :: items)))
      | some _ => none)
    path .header entries

/-- Adds a value to the table that was opened last, given by its header. -/
def addUnder (header path : List String) (key : String) (v : Json) (entries : Entries) :
    Option Entries :=
  updateAt false (fun _ inner => addValue path key v inner) header .header entries

end Entries

end PauseWatch.Toml
