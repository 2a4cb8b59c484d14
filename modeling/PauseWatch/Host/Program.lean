import PauseWatch.Host.Files
import PauseWatch.Host.Signal

/-!
# Programs

A program is the tree of its requests to the host: a request, and for every answer the program that
goes on from there. It is built lazily, so a program may go on for longer than anybody wants to
follow it. `Work` is the same thing with a place left open at the end, which makes programs compose.
-/

namespace PauseWatch.Host

/-- What a descriptor stands for. -/
inductive Handle where
  /-- A device. -/
  | device (device : Device)
  /-- The reading end of a conduit. -/
  | source (conduit : Nat)
  /-- The writing end of a conduit. -/
  | sink (conduit : Nat)
  /-- An opened file. -/
  | file (opened : Nat)
  /-- An opened directory. -/
  | folder
  deriving DecidableEq, Repr

/-- How a file is opened. -/
inductive Access where
  /-- For reading. -/
  | read
  /-- For writing, emptied or created before. -/
  | write
  /-- For writing at its end, created before. -/
  | append
  /-- For both, created before. -/
  | both
  deriving DecidableEq, Repr

/-- What a process arranges for a signal. -/
inductive Arrangement where
  /-- The default reaction. -/
  | default
  /-- Nothing happens. -/
  | ignore
  /-- The process is told and reacts by itself. -/
  | catch
  deriving DecidableEq, Repr

/-- Exported variables and their values, as texts of bytes. -/
abbrev Variables := List (String × String)

/-- The first descriptor that a new program does not keep. -/
def firstPrivate : Nat := 10

/-- What a process knows about itself. -/
structure Identity where
  /-- Its number. -/
  pid : Nat
  /-- The number of its parent. -/
  parent : Nat
  /-- The number of its group. -/
  group : Nat
  deriving DecidableEq, Repr

/-- What waiting for a child brings. -/
inductive Waited where
  /-- A child has ended. -/
  | ended (pid : Nat) (ending : Ending)
  /-- There is no such child. -/
  | nobody
  /-- A signal has come in between. -/
  | interrupted (signal : Signal)
  deriving DecidableEq, Repr

/-- A program as the tree of its requests. -/
inductive Program where
  /-- Ends with a status. -/
  | exit (status : Nat)
  /-- Spends some microseconds. -/
  | pause (micros : Nat) (next : Unit → Program)
  /-- Reads at most so many bytes; none stand for the end. -/
  | read (fd limit : Nat) (next : Except Fault (List UInt8) → Program)
  /-- Writes bytes, all of them unless it fails. -/
  | write (fd : Nat) (bytes : List UInt8) (next : Option Fault → Program)
  /-- Opens a file. -/
  | openFile (path : String) (access : Access) (next : Except Fault Handle → Program)
  /-- Asks what a descriptor stands for. -/
  | handle (fd : Nat) (next : Option Handle → Program)
  /-- Makes a descriptor stand for something, or for nothing. -/
  | attach (fd : Nat) (handle : Option Handle) (next : Unit → Program)
  /-- Makes a new conduit. -/
  | conduit (next : Nat → Program)
  /-- Starts a child that runs another program and shares everything else. -/
  | spawn (child : Unit → Program) (next : Nat → Program)
  /-- Goes on as the program in a file, or with the reason why it cannot. -/
  | become (path : String) (argv : List String) (vars : Variables) (next : Fault → Program)
  /-- Waits for one child or for any, and lets caught signals come in between or not. -/
  | wait (child : Option Nat) (yields : Bool) (next : Waited → Program)
  /-- Sends a signal to a process or, by a negative number, to a group; zero is the own group. -/
  | send (target : Int) (signal : Nat) (next : Option Fault → Program)
  /-- Arranges what happens at a signal. -/
  | arrange (signal : Signal) (arrangement : Arrangement) (next : Unit → Program)
  /-- Asks for the caught signals since the last time. -/
  | caught (next : List Signal → Program)
  /-- Asks whether a signal is ignored. -/
  | ignores (signal : Signal) (next : Bool → Program)
  /-- Becomes the leader of a group of its own. -/
  | lead (next : Unit → Program)
  /-- Asks who the process is. -/
  | identity (next : Identity → Program)
  /-- Moves to another directory. -/
  | enter (path : String) (next : Option Fault → Program)
  /-- Asks for the working directory. -/
  | here (next : Place → Program)
  /-- Asks what stands at a path. -/
  | look (path : String) (next : Except Fault Item → Program)
  /-- Asks what stands at a path, where a link at its end is not followed. -/
  | peek (path : String) (next : Except Fault Item → Program)
  /-- Asks for the place that a path leads to, where nothing needs to stand yet. -/
  | place (path : String) (next : Except Fault Place → Program)
  /-- Asks for the names in a directory. -/
  | names (path : String) (next : Except Fault (List String) → Program)
  /-- Makes something at a path where nothing stands. -/
  | make (path : String) (item : Item) (next : Option Fault → Program)
  /-- Removes a file or an empty directory. -/
  | remove (path : String) (next : Option Fault → Program)
  /-- Gives something another path, in the place of what stood there. -/
  | move (source target : String) (next : Option Fault → Program)
  /-- Says whether a file can be started as a program. -/
  | permit (path : String) (executable : Bool) (next : Option Fault → Program)

/-- A program with a place left open at its end, where the result is used. -/
def Work (α : Type) : Type := (α → Program) → Program

namespace Work

instance : Monad Work where
  pure a := fun next => next a
  bind work f := fun next => work fun a => f a next

/-- Ends the process. -/
def exit {α : Type} (status : Nat) : Work α := fun _ => .exit status

/-- Spends some microseconds. -/
def pause (micros : Nat) : Work Unit := Program.pause micros

/-- Reads at most so many bytes; none stand for the end. -/
def read (fd limit : Nat) : Work (Except Fault (List UInt8)) := Program.read fd limit

/-- Writes bytes. -/
def write (fd : Nat) (bytes : List UInt8) : Work (Option Fault) := Program.write fd bytes

/-- Opens a file. -/
def openFile (path : String) (access : Access) : Work (Except Fault Handle) :=
  Program.openFile path access

/-- What a descriptor stands for. -/
def handle (fd : Nat) : Work (Option Handle) := Program.handle fd

/-- Makes a descriptor stand for something, or for nothing. -/
def attach (fd : Nat) (handle : Option Handle) : Work Unit := Program.attach fd handle

/-- Makes a new conduit. -/
def conduit : Work Nat := Program.conduit

/-- Starts a child. -/
def spawn (child : Unit → Program) : Work Nat := Program.spawn child

/-- Goes on as another program; returns only the reason why it cannot. -/
def become (path : String) (argv : List String) (vars : Variables) : Work Fault :=
  Program.become path argv vars

/-- Waits for one child or for any. -/
def wait (child : Option Nat) (yields : Bool) : Work Waited := Program.wait child yields

/-- Sends a signal. -/
def send (target : Int) (signal : Nat) : Work (Option Fault) := Program.send target signal

/-- Arranges what happens at a signal. -/
def arrange (signal : Signal) (arrangement : Arrangement) : Work Unit :=
  Program.arrange signal arrangement

/-- The caught signals since the last time. -/
def caught : Work (List Signal) := Program.caught

/-- Whether a signal is ignored. -/
def ignores (signal : Signal) : Work Bool := Program.ignores signal

/-- Becomes the leader of a group of its own. -/
def lead : Work Unit := Program.lead

/-- Who the process is. -/
def identity : Work Identity := Program.identity

/-- Moves to another directory. -/
def enter (path : String) : Work (Option Fault) := Program.enter path

/-- The working directory. -/
def here : Work Place := Program.here

/-- What stands at a path. -/
def look (path : String) : Work (Except Fault Item) := Program.look path

/-- What stands at a path, where a link at its end is not followed. -/
def peek (path : String) : Work (Except Fault Item) := Program.peek path

/-- The place that a path leads to, where nothing needs to stand yet. -/
def place (path : String) : Work (Except Fault Place) := Program.place path

/-- The names in a directory. -/
def names (path : String) : Work (Except Fault (List String)) := Program.names path

/-- Makes something at a path where nothing stands. -/
def make (path : String) (item : Item) : Work (Option Fault) := Program.make path item

/-- Makes a directory. -/
def makeFolder (path : String) : Work (Option Fault) := make path .folder

/-- Removes a file or an empty directory. -/
def remove (path : String) : Work (Option Fault) := Program.remove path

/-- Gives something another path. -/
def move (source target : String) : Work (Option Fault) := Program.move source target

/-- Makes a link. -/
def link (target path : String) : Work (Option Fault) := make path (.link target)

/-- Says whether a file can be started. -/
def permit (path : String) (executable : Bool) : Work (Option Fault) :=
  Program.permit path executable

/-- The program that ends with the status that some work brings. -/
def toProgram (work : Work Nat) : Program := work .exit

end Work

/-- The programs that the host brings along, by name, for given words and variables. -/
abbrev Toolbox := String → List String → Variables → Program

end PauseWatch.Host
