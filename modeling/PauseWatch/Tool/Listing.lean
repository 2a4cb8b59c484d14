import PauseWatch.Tool.Folder
import PauseWatch.Tool.Mode
import PauseWatch.Tool.Order.Version

/-!
# What is in directories

The names in directories, in some order and with or without what else is known about them.
-/

namespace PauseWatch.Tool

open Host (Fault Item Work)

namespace Listing

/-- Something that is listed. -/
structure Entry where
  /-- The name under which it is shown. -/
  name : String
  /-- What it is. -/
  item : Item
  /-- What it leads to. -/
  reached : Option Item
  /-- How many directories are in it. -/
  folders : Nat := 0

/-- How things are listed. -/
structure Plan where
  /-- The name of the program. -/
  me : String
  /-- Whether hidden names are shown. -/
  showsHidden : Bool
  /-- Whether the directory itself and the one above it are shown. -/
  showsDots : Bool
  /-- Whether names that end with a tilde are left out. -/
  hidesBackups : Bool
  /-- Whether directories are shown themselves. -/
  isFlat : Bool
  /-- Whether directories in directories are listed as well. -/
  isDeep : Bool
  /-- Whether more than the name is shown. -/
  isLong : Bool
  /-- The letter of the order. -/
  order : Char
  /-- Whether the order is turned around. -/
  isBackward : Bool
  /-- Which marks stand behind names. -/
  marks : Char
  /-- Whether names stand between quotes. -/
  quotes : Bool
  /-- Whether names stand in a row with commas. -/
  isRow : Bool

/-- The size of something. -/
def sizeOf : Item → Nat
  | .file bytes _ => bytes.length
  | .folder => 4096
  | .link target => target.length
  | _ => 0

/-- The letter of a kind. -/
def kindLetter : Item → String
  | .folder => "d"
  | .link _ => "l"
  | .device _ => "c"
  | _ => "-"

/-- The mark behind a name. -/
def Plan.mark (plan : Plan) (item : Item) : String :=
  match plan.marks, item with
  | ' ', _ => ""
  | _, .folder => "/"
  | 'p', _ => ""
  | _, .link _ => "@"
  | 't', _ => ""
  | _, item => if item.isProgram then "*" else ""

/-- Whether an entry stands before another one. -/
def Plan.atMost (plan : Plan) (a b : Entry) : Bool :=
  let ending (name : String) : List Char :=
    let rest := name.toList.reverse.takeWhile (· != '.')
    if rest.length = name.length then [] else rest.reverse
  let first : Ordering :=
    if plan.order = 'S' then compare (sizeOf b.item) (sizeOf a.item)
    else if plan.order = 'X' then compareOfLessAndEq (ending a.name) (ending b.name)
    else if plan.order = 'v' then compareVersions a.name.toList b.name.toList
    else .eq
  let order := first.then (compareOfLessAndEq a.name.toList b.name.toList)
  if plan.isBackward then order != .lt else order != .gt

/-- A name as it is shown. -/
def Plan.nameText (plan : Plan) (name : String) : String :=
  if !plan.quotes then name
  else
    let shown (c : Char) : List Char :=
      if c = '"' || c = '\\' then ['\\', c] else if isVisible c then [c] else invisible c
    "\"" ++ String.ofList (name.toList.flatMap shown) ++ "\""

/-- An entry as it is shown with all that is known; the widths of the columns come first. -/
def Plan.longText (plan : Plan) (linkWidth sizeWidth : Nat) (e : Entry) : String :=
  let padded (width n : Nat) : String :=
    let digits := toString n
    String.ofList (List.replicate (width - digits.length) ' ') ++ digits
  let behind := match e.item with
    | .link target => " -> " ++ plan.nameText target
    | item => plan.mark item
  kindLetter e.item ++ permissionText (permissionsOf e.item) ++ " " ++ padded linkWidth (links e)
    ++ " root root " ++ padded sizeWidth (sizeOf e.item) ++ " Jan  1 00:00 "
    ++ plan.nameText e.name ++ behind
where
  /-- How many names an entry has. -/
  links (e : Entry) : Nat := if e.item = .folder then 2 + e.folders else 1

/-- The lines of entries. -/
def Plan.lines (plan : Plan) (entries : List Entry) : List String :=
  let entries := if plan.order = 'U' then entries else entries.mergeSort plan.atMost
  if plan.isLong then
    let width (n : Nat) : Nat := (toString n).length
    let linkWidth := (entries.map fun e => width (Plan.longText.links e)).foldl max 1
    let sizeWidth := (entries.map fun e => width (sizeOf e.item)).foldl max 1
    entries.map (plan.longText linkWidth sizeWidth)
  else
    let names := entries.map fun e => plan.nameText e.name ++ plan.mark e.item
    if plan.isRow && names ≠ [] then [", ".intercalate names] else names

/-- The blocks that entries take. -/
def blocks (entries : List Entry) : Nat :=
  (entries.map fun e => match e.item with
    | .folder => 4
    | .file bytes _ => (bytes.length + 4095) / 4096 * 4
    | _ => 0).foldl (· + ·) 0

/-- What stands at a path, as an entry. -/
def entryAt (name path : String) : Work (Except Fault Entry) := do
  match ← Work.peek path with
  | .error fault => return .error fault
  | .ok item =>
    let reached := (← Work.look path).toOption
    let folders : Nat ← do
      if item ≠ .folder then pure 0
      else
        let mut count := 0
        for inner in (← Work.names path).toOption.getD [] do
          if (← Work.peek (join path inner)).toOption = some .folder then count := count + 1
        pure count
    return .ok { name, item, reached, folders }

/-- The entries of a directory. -/
def Plan.entriesIn (plan : Plan) (path : String) : Work (List Entry) := do
  let names := (← Work.names path).toOption.getD []
  let isShown (name : String) : Bool :=
    (plan.showsHidden || plan.showsDots || !name.startsWith ".")
      && !(plan.hidesBackups && name.endsWith "~")
  let names := (if plan.showsDots then [".", ".."] else []) ++ names.filter isShown
  let found ← names.mapM fun name => entryAt name (join path name)
  return found.filterMap (·.toOption)

/-- The texts of a directory and, if that is wanted, of those in it. -/
def Plan.folderTexts (plan : Plan) (hasHeading : Bool) : Nat → String → Work (List String)
  | 0, _ => return []
  | depth + 1, path => do
    let entries ← plan.entriesIn path
    let total := if plan.isLong then ["total " ++ toString (blocks entries)] else []
    let heading := if hasHeading then [plan.nameText path ++ ":"] else []
    let text := unlines (heading ++ total ++ plan.lines entries)
    if !plan.isDeep then return [text]
    let inner := (entries.filter fun e => e.item = .folder && e.name ≠ "." && e.name ≠ "..")
    let inner := if plan.order = 'U' then inner else inner.mergeSort plan.atMost
    let mut texts := [text]
    for e in inner do
      texts := texts ++ (← plan.folderTexts hasHeading depth (join path e.name))
    return texts

end Listing

open Listing in
/-- Shows the names in directories. -/
def ls (me : String) (args : List String) : Work Nat :=
  let names := [("all", 'a'), ("almost-all", 'A'), ("escape", 'b'), ("ignore-backups", 'B'),
    ("directory", 'd'), ("classify::", 'F'), ("file-type", 'y'), ("human-readable", 'h'),
    ("inode", 'i'), ("ignore:", 'I'), ("dereference", 'L'), ("numeric-uid-gid", 'n'),
    ("literal", 'N'), ("quote-name", 'Q'), ("reverse", 'r'), ("recursive", 'R'), ("size", 's'),
    ("color::", 'z'), ("sort:", 'O'), ("time:", 'e'), ("width:", 'w'), ("no-group", 'G'),
    ("indicator-style:", 'k'), ("format:", 'f'), ("group-directories-first", 'j')]
  withOptions me "aAbBcCdDfFgGhHiI:klLmnNopqQrRsStT:uUvw:xXZ1" names true 2 args fun s => do
    let named := (s.last? 'O').bind fun name =>
      ([("none", 'U'), ("size", 'S'), ("version", 'v'), ("extension", 'X')]
        : List (String × Char)).lookup name
    let plan : Plan := {
      me
      showsHidden := s.has 'A'
      showsDots := s.lastOf ['a', 'A'] = some 'a' || (s.has 'f' && (s.last? 'f').isNone)
      hidesBackups := s.has 'B'
      isFlat := s.has 'd'
      isDeep := s.has 'R'
      isLong := s.lastOf ['l', 'g', 'n', 'o', 'm', '1', 'C', 'x'] |>.any ['l', 'g', 'n', 'o'].contains
      order := named.getD ((s.lastOf ['S', 'X', 'v', 'U', 't']).getD 'n')
      isBackward := s.has 'r'
      marks := (s.lastOf ['F', 'p', 'y']).elim ' ' fun c => if c = 'y' then 't' else c
      quotes := s.has 'Q'
      isRow := s.lastOf ['l', 'g', 'n', 'o', 'm', '1', 'C', 'x'] = some 'm' }
    let paths := if s.operands = [] then ["."] else s.operands
    let mut entries : List Entry := []
    let mut isWhole := true
    for path in paths do
      match ← entryAt path path with
      | .ok e => entries := entries ++ [e]
      | .error fault =>
        warn me ("cannot access " ++ shellQuoted path ++ ": " ++ fault.text)
        isWhole := false
    let isFolder (e : Entry) : Bool :=
      !plan.isFlat && (e.item = .folder
        || (!plan.isLong && plan.marks = ' ' && e.reached = some .folder))
    let folders := entries.filter isFolder
    let folders := if plan.order = 'U' then folders else folders.mergeSort plan.atMost
    let files := entries.filter fun e => !isFolder e
    let hasHeading := 1 < paths.length || plan.isDeep
    let mut texts := if files = [] then [] else [unlines (plan.lines files)]
    for e in folders do
      texts := texts ++ (← plan.folderTexts hasHeading 100 e.name)
    let text := "\n".intercalate texts
    unless text = "" do print me text
    return if isWhole then 0 else 2

end PauseWatch.Tool
