import PauseWatch.Host.Fault
import PauseWatch.Text.Split

/-!
# Files

The files of the host form a tree, which is kept as a list of the places in it and what stands
there. A path is read from left to right, one name at a time, and links are followed on the way.
-/

namespace PauseWatch.Host

/-- A place in the tree: the names on the way from the root. -/
abbrev Place := List String

/-- The text of a place. -/
def Place.text (place : Place) : String := "/" ++ "/".intercalate place

/-- A device. -/
inductive Device where
  /-- Takes everything and gives nothing. -/
  | null
  /-- Takes everything and gives zeros without end. -/
  | zero
  /-- Takes nothing and gives zeros without end. -/
  | full
  deriving DecidableEq, Repr

/-- What stands at a place. -/
inductive Item where
  /-- A directory. -/
  | folder
  /-- A file, which can be a program. -/
  | file (bytes : List UInt8) (executable : Bool)
  /-- A program that the host brings along. -/
  | tool (name : String)
  /-- A device. -/
  | device (device : Device)
  /-- A descriptor of the process that asks. -/
  | descriptor (number : Nat)
  /-- A link to another path. -/
  | link (target : String)
  deriving DecidableEq, Repr

/-- Whether something can be started as a program. -/
def Item.isProgram : Item → Bool
  | .file _ executable => executable
  | .tool _ => true
  | _ => false

/-- The files of the host. -/
structure Files where
  /-- What stands at which place; the root is always a directory. -/
  items : List (Place × Item)
  deriving Repr, Inhabited

namespace Files

/-- What stands at a place, without following a link there. -/
def at? (files : Files) (place : Place) : Option Item :=
  if place = [] then some .folder else files.items.lookup place

/-- The files with something at a place. -/
def put (files : Files) (place : Place) (item : Item) : Files :=
  ⟨(place, item) :: files.items.filter (·.1 != place)⟩

/-- The files with nothing at a place. -/
def remove (files : Files) (place : Place) : Files := ⟨files.items.filter (·.1 != place)⟩

/-- The files with a directory at a place and on the way to it. -/
def putFolder (files : Files) (place : Place) : Files :=
  (List.range place.length).foldl (fun files n =>
    let part := place.take (n + 1)
    if (files.at? part).isSome then files else files.put part .folder) files

/-- The names in a directory, in order. -/
def names (files : Files) (place : Place) : List String :=
  (files.items.filterMap fun (p, _) =>
    if p.dropLast == place && p != [] then p.getLast? else none).mergeSort (· ≤ ·)

/-- The length of the longest name of a file. -/
def longestName : Nat := 255

/-- The length from which on a path is too long. -/
def pathLimit : Nat := 4096

/-- How many links a path may lead through. -/
def linkLimit : Nat := 40

/-- The names on a path, and the place from which they lead on, seen from a place. -/
def start (here : Place) (path : String) : Place × List String :=
  (if path.startsWith "/" then [] else here, Text.splitAt '/' path)

/-- Follows names from a place. The place may be free at the end, but not on the way. A link at the
end is followed or not. -/
def walk (files : Files) (follows : Bool) : Nat → Place → List String → Except Fault Place
  | 0, _, _ => .error .manyLinks
  | _ + 1, at_, [] => .ok at_
  | fuel + 1, at_, name :: rest =>
    match files.at? at_ with
    | some .folder =>
      if longestName < name.length then .error .longName
      else if name = "." ∨ name = "" then walk files follows fuel at_ rest
      else if name = ".." then walk files follows fuel at_.dropLast rest
      else match files.at? (at_ ++ [name]), follows || rest ≠ [] with
        | some (.link target), true =>
          let (from_, names) := start at_ target
          walk files follows fuel from_ (names ++ rest)
        | _, _ => walk files follows fuel (at_ ++ [name]) rest
    | none => .error .missing
    | some _ => .error .notFolder

/-- The place that a path means, seen from a directory, where a link at the end is followed or
not. -/
def place? (files : Files) (follows : Bool) (here : Place) (path : String) :
    Except Fault Place :=
  if path = "" then .error .missing
  else if pathLimit ≤ path.length then .error .longName
  else
    let (from_, names) := start here path
    walk files follows (names.length + linkLimit * 8) from_ names

/-- What a path leads to, seen from a directory, where a link at the end is followed or not. -/
def entry? (files : Files) (follows : Bool) (here : Place) (path : String) :
    Except Fault (Place × Item) := do
  let place ← files.place? follows here path
  match files.at? place with
  | some item => .ok (place, item)
  | none => .error .missing

/-- What a path leads to in the end, seen from a directory. -/
def find? (files : Files) (here : Place) (path : String) : Except Fault (Place × Item) :=
  files.entry? true here path

/-- A place after everything at and below one was moved to another. -/
def moved (source target place : Place) : Place :=
  match source.isPrefixOf? place with
  | some rest => target ++ rest
  | none => place

/-- The files after everything at and below a place was moved to another. -/
def move (files : Files) (source target : Place) : Files :=
  ⟨files.items.map fun (place, item) => (moved source target place, item)⟩

/-- The directory that a path leads to. -/
def folder? (files : Files) (here : Place) (path : String) : Except Fault Place := do
  let (place, item) ← files.find? here path
  if item = .folder then .ok place else .error .notFolder

end Files

end PauseWatch.Host
