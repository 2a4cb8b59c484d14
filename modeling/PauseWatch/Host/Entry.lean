import PauseWatch.Host.Basic

/-!
# Opening, making, moving and removing files

The answers of the host to requests that are about what stands at a path. A file that is open when
it loses its path lives on without one.
-/

namespace PauseWatch.Host

/-- A path without slashes at its end. -/
def withoutSlash (path : String) : String :=
  let bare := (path.toList.reverse.dropWhile (· = '/')).reverse
  if bare = [] then path else String.ofList bare

/-- Opens the file at a place. -/
def openAt (h : Host) (place : Place) (access : Access) : Host × Except Fault Handle :=
  let number := h.nextNumber
  ({ h with opened := replace number ⟨place, access, 0⟩ h.opened, nextNumber := number + 1 },
    .ok (.file number))

/-- Answers a request to open a file. -/
def openFile (h : Host) (p : Process) (path : String) (access : Access) :
    Host × Except Fault Handle :=
  match h.files.place? true p.dir path with
  | .error fault =>
    let isNew := access ≠ .read && path.endsWith "/"
      && (h.files.place? true p.dir (withoutSlash path)).toOption.any fun place =>
        (h.files.at? place).isNone && h.files.at? place.dropLast = some .folder
    (h, .error (if isNew then .isFolder else fault))
  | .ok place =>
    match h.files.at? place with
    | none =>
      if access = .read then (h, .error .missing)
      else match h.files.at? place.dropLast with
        | some .folder => { h with files := h.files.put place (.file [] false) }.openAt place access
        | some _ => (h, .error .notFolder)
        | none => (h, .error .missing)
    | some .folder => (h, if access = .read then .ok .folder else .error .isFolder)
    | some (.device d) => (h, .ok (.device d))
    | some (.descriptor fd) => (h, (p.handle? fd).elim (.error .missing) .ok)
    | some (.tool _) => (h, if access = .read then .ok (.device .null) else .error .denied)
    | some (.link _) => (h, .error .manyLinks)
    | some (.file _ executable) =>
      let h := if access = .write then
        { h with files := h.files.put place (.file [] executable) } else h
      h.openAt place access

/-- Moves everything at and below a place, so that what is open there stays open. -/
def relocate (h : Host) (source target : Place) : Host :=
  { h with
    files := h.files.move source target
    opened := h.opened.map fun (number, o) =>
      (number, { o with place := Files.moved source target o.place }) }

/-- Takes away what stands at a place. If it is open, it lives on at a place without a path. -/
def vacate (h : Host) (place : Place) : Host :=
  if h.opened.any fun (_, o) => o.place == place then
    { h with nextNumber := h.nextNumber + 1 }.relocate place ["", toString h.nextNumber]
  else { h with files := h.files.remove place }

/-- Answers a request to make something. Slashes at the end of the path of a directory mean
nothing. -/
def makeItem (h : Host) (p : Process) (path : String) (item : Item) : Host × Option Fault :=
  let path := if item = .folder then withoutSlash path else path
  match h.files.place? false p.dir path with
  | .error fault => (h, some fault)
  | .ok place =>
    match h.files.at? place, h.files.at? place.dropLast with
    | some _, _ => (h, some .taken)
    | none, some .folder =>
      if item = .link "" then (h, some .missing)
      else ({ h with files := h.files.put place item }, none)
    | none, some _ => (h, some .notFolder)
    | none, none => (h, some .missing)

/-- Answers a request to remove something. -/
def removeItem (h : Host) (p : Process) (path : String) : Host × Option Fault :=
  match h.files.entry? false p.dir path with
  | .error fault => (h, some fault)
  | .ok (place, item) =>
    if (Text.splitAt '/' (withoutSlash path)).getLast? = some "." then (h, some .invalid)
    else if item = .folder && h.files.names place != [] then (h, some .notEmpty)
    else (h.vacate place, none)

/-- Answers a request to move something. -/
def moveItem (h : Host) (p : Process) (source target : String) : Host × Option Fault :=
  match h.files.entry? false p.dir source, h.files.place? false p.dir target with
  | .error fault, _ | _, .error fault => (h, some fault)
  | .ok (old, item), .ok new =>
    if old = new then (h, none)
    else if old.isPrefixOf new then (h, some .invalid)
    else match h.files.at? new, h.files.at? new.dropLast with
      | none, none => (h, some .missing)
      | none, some .folder => (h.relocate old new, none)
      | none, some _ => (h, some .notFolder)
      | some .folder, _ =>
        if item ≠ .folder then (h, some .isFolder)
        else if h.files.names new ≠ [] then (h, some .notEmpty)
        else ((h.vacate new).relocate old new, none)
      | some _, _ =>
        if item = .folder then (h, some .notFolder)
        else ((h.vacate new).relocate old new, none)

/-- Answers a request to say whether a file can be started. -/
def permitItem (h : Host) (p : Process) (path : String) (executable : Bool) :
    Host × Option Fault :=
  match h.files.find? p.dir path with
  | .error fault => (h, some fault)
  | .ok (place, .file bytes _) =>
    ({ h with files := h.files.put place (.file bytes executable) }, none)
  | .ok _ => (h, none)

end PauseWatch.Host
