import PauseWatch.Host.Program

/-!
# The host

The host runs processes against a clock of its own that counts microseconds. Processes share files
and conduits; a conduit is a pipe between processes, or one that the outside watches, which takes
everything at once and keeps it.
-/

namespace PauseWatch.Host

/-- A process. -/
structure Process where
  /-- Its number, its parent's and its group's. -/
  identity : Identity
  /-- What it has still to do. -/
  program : Program
  /-- When it can go on. -/
  readyAt : Nat
  /-- Its working directory. -/
  dir : Place
  /-- What its descriptors stand for. -/
  table : List (Nat × Handle)
  /-- The signals it ignores. -/
  ignored : List Signal := []
  /-- The signals it reacts to by itself. -/
  caught : List Signal := []
  /-- The caught signals that it has not asked for yet. -/
  told : List Signal := []
  /-- The signals that wait until it goes on. -/
  held : List Signal := []
  /-- Whether it is stopped. -/
  isStopped : Bool := false

/-- What is left of a process that has ended, until its parent asks. -/
structure Remains where
  /-- Who it was. -/
  identity : Identity
  /-- How it has ended. -/
  ending : Ending
  /-- When it has ended. -/
  endedAt : Nat
  deriving DecidableEq, Repr

/-- A pipe between processes, or one that the outside watches. -/
structure Conduit where
  /-- What was written and not yet read, the oldest first. -/
  waiting : List (List UInt8) := []
  /-- How many bytes that are. -/
  size : Nat := 0
  /-- What the outside has seen, the last first. -/
  seen : List (List UInt8) := []
  /-- Whether the outside watches. -/
  isWatched : Bool := false
  /-- When the last writer let go of a watched conduit. -/
  endedAt : Option Nat := none

/-- A file that was opened, which those who share it read and write from one point on. -/
structure Opened where
  /-- Where the file stands. -/
  place : Place
  /-- How it was opened. -/
  access : Access
  /-- How far it was read or written. -/
  offset : Nat := 0
  deriving DecidableEq, Repr

end Host

/-- A host and everything on it. -/
structure Host where
  /-- The microseconds since its start. -/
  now : Nat := 0
  /-- The files. -/
  files : Host.Files
  /-- The processes that have not ended. -/
  processes : List Host.Process := []
  /-- The processes that have ended and that their parents have not asked for yet. -/
  remains : List Host.Remains := []
  /-- The conduits, by number. -/
  conduits : List (Nat × Host.Conduit) := []
  /-- The opened files, by number. -/
  opened : List (Nat × Host.Opened) := []
  /-- The next number of anything new. -/
  nextNumber : Nat := 300

namespace Host

/-- The number of the parent of those who have no other. -/
def root : Nat := 1

/-- The number by which the outside is the parent of a process. -/
def outside : Nat := 0

/-- The bytes that a conduit holds at most. -/
def conduitRoom : Nat := 65536

/-- Puts a value under a key, in the place of what stood there. -/
def replace {α β : Type} [BEq α] (key : α) (value : β) (entries : List (α × β)) : List (α × β) :=
  (key, value) :: entries.filter (·.1 != key)

/-- The process with a number. -/
def process? (h : Host) (pid : Nat) : Option Process :=
  h.processes.find? (·.identity.pid == pid)

/-- The host with one process changed. -/
def change (h : Host) (pid : Nat) (f : Process → Process) : Host :=
  { h with processes := h.processes.map fun p => if p.identity.pid = pid then f p else p }

/-- Whether a process has a descriptor that stands for something. -/
def Process.holds (p : Process) (handle : Handle) : Bool := p.table.any (·.2 == handle)

/-- What a descriptor of a process stands for. -/
def Process.handle? (p : Process) (fd : Nat) : Option Handle := p.table.lookup fd

/-- Whether somebody can still write to a conduit. -/
def hasWriter (h : Host) (conduit : Nat) : Bool := h.processes.any (·.holds (.sink conduit))

/-- Whether somebody can still read from a conduit. -/
def hasReader (h : Host) (conduit : Nat) : Bool := h.processes.any (·.holds (.source conduit))

/-- A conduit. -/
def conduit (h : Host) (number : Nat) : Conduit := (h.conduits.lookup number).getD {}

/-- The host with one conduit changed. -/
def changeConduit (h : Host) (number : Nat) (f : Conduit → Conduit) : Host :=
  { h with conduits := replace number (f (h.conduit number)) h.conduits }

/-- Takes note of the watched conduits that nobody can write to any more. -/
def noteEnds (h : Host) : Host :=
  { h with conduits := h.conduits.map fun (number, c) =>
      if c.isWatched && c.endedAt.isNone && !h.hasWriter number then
        (number, { c with endedAt := some h.now })
      else (number, c) }

/-- What is left of a child. -/
def remainsOf? (h : Host) (parent : Nat) (child : Option Nat) : Option Remains :=
  h.remains.find? fun r => r.identity.parent == parent && child.all (· == r.identity.pid)

/-- Whether a process has a child that has not ended. -/
def hasChild (h : Host) (parent : Nat) (child : Option Nat) : Bool :=
  h.processes.any fun p => p.identity.parent == parent && child.all (· == p.identity.pid)

end Host

end PauseWatch
