import PauseWatch.Host.Program
import PauseWatch.Shell.Reader
import PauseWatch.Text.Bytes

/-!
# The state of a shell

What a shell remembers between commands, the ways in which a command can be left early, and how
messages are written.
-/

namespace PauseWatch.Shell

/-- A variable. -/
structure Variable where
  /-- The value, if it is set. -/
  value : Option String := none
  /-- Whether programs are given it. -/
  isExported : Bool := false
  /-- Whether it can no longer be changed. -/
  isFixed : Bool := false
  deriving Repr, Inhabited

/-- The options that can be switched. -/
structure Options where
  /-- Whether a failure ends the shell. -/
  exitsOnFailure : Bool := false
  /-- Whether a variable must be set to be used. -/
  needsSet : Bool := false
  /-- Whether names are left alone. -/
  leavesNames : Bool := false
  /-- Whether commands are shown before they run. -/
  shows : Bool := false
  /-- Whether every variable is exported. -/
  exportsAll : Bool := false
  deriving Repr, Inhabited

/-- What a shell remembers. -/
structure State where
  /-- The name of the shell or script. -/
  name : String
  /-- The arguments. -/
  args : List String := []
  /-- The variables. -/
  vars : List (String × Variable) := []
  /-- The functions. -/
  functions : List (String × Command) := []
  /-- What runs at a signal, or at the end. -/
  traps : List (Option Host.Signal × String) := []
  /-- The options. -/
  options : Options := {}
  /-- The status of the last command. -/
  status : Nat := 0
  /-- The status of the last substitution of a command. -/
  substituted : Option Nat := none
  /-- The number of the shell that was started first. -/
  pid : Nat := 0
  /-- The last command that was not waited for. -/
  lastBackground : Option Nat := none
  /-- The commands that were not waited for, and how they ended if that is known. -/
  jobs : List (Nat × Option Host.Ending) := []
  /-- The line of the last simple command; zero before the first one. -/
  line : Nat := 0
  /-- The command that is named in messages. -/
  speaker : Option String := none
  /-- How many redirections are to be taken back. -/
  saved : Nat := 0
  /-- How many loops are being run. -/
  loops : Nat := 0
  /-- What the variables were that are local to the function that runs. -/
  outer : List (String × Option Variable) := []
  /-- How many conditions are being tested, in which a failure is no failure. -/
  tests : Nat := 0
  deriving Repr, Inhabited

/-- A way to leave a command early. -/
inductive Leave where
  /-- The shell ends. -/
  | exit
  /-- Something is wrong, and the shell ends unless the command is forgiving. -/
  | abandon
  /-- So many loops end. -/
  | breakLoops (count : Nat)
  /-- So many loops go on with their next round. -/
  | nextRound (count : Nat)
  /-- The function or the script that was read ends. -/
  | leaveFunction
  deriving DecidableEq, Repr

/-- Something that a shell does. -/
abbrev Act := ExceptT Leave (StateT State Host.Work)

/-- Makes a request to the host. -/
def ask {α : Type} (work : Host.Work α) : Act α := liftM (m := StateT State Host.Work) (liftM work)

/-- Sets the status. -/
def setStatus (status : Nat) : Act Unit := modify fun s => { s with status }

/-- Writes a text. -/
def say (fd : Nat) (text : String) : Act (Option Host.Fault) :=
  ask (Host.Work.write fd (Text.toByteList text))

/-- Writes a message of the shell. -/
def complain (message : String) : Act Unit := do
  let s ← get
  let speaker := s.speaker.elim "" (· ++ ": ")
  let _ ← say 2 (s.name ++ ": " ++ toString s.line ++ ": " ++ speaker ++ message ++ "\n")

/-- Writes a message and gives up. -/
def abandon {α : Type} (message : String) : Act α := do
  complain message
  setStatus 2
  throw .abandon

/-- The value of a variable that is set. -/
def State.get? (s : State) (name : String) : Option String :=
  (s.vars.lookup name).bind (·.value)

/-- The state with one variable changed. -/
def State.change (s : State) (name : String) (f : Variable → Variable) : State :=
  let v := f ((s.vars.lookup name).getD {})
  { s with vars := (name, v) :: s.vars.filter (·.1 != name) }

/-- Gives a variable a value. -/
def assign (name value : String) : Act Unit := do
  let s ← get
  if ((s.vars.lookup name).getD {}).isFixed then abandon (name ++ ": is read only")
  else set (s.change name fun v =>
    { v with value := some value, isExported := v.isExported || s.options.exportsAll })

/-- The variables that programs are given. -/
def State.exported (s : State) : Host.Variables :=
  s.vars.filterMap fun (name, v) => if v.isExported then v.value.map (name, ·) else none

/-- The separators of fields. -/
def State.separators (s : State) : List Char := ((s.get? "IFS").getD " \t\n").toList

/-- The switched options, as letters. -/
def Options.letters (o : Options) : String :=
  String.ofList ((if o.exitsOnFailure then ['e'] else []) ++ (if o.leavesNames then ['f'] else [])
    ++ (if o.shows then ['x'] else []) ++ (if o.needsSet then ['u'] else [])
    ++ (if o.exportsAll then ['a'] else []))

/-- The value of a parameter that is no list: a variable, an argument by its number, or one of the
special ones. -/
def State.parameter? (s : State) (name : String) : Option String :=
  if name = "#" then some (toString s.args.length)
  else if name = "?" then some (toString s.status)
  else if name = "$" then some (toString s.pid)
  else if name = "!" then s.lastBackground.map toString
  else if name = "-" then some s.options.letters
  else if name = "0" then some s.name
  else match name.toNat? with
    | some n => s.args[n - 1]?
    | none => s.get? name

end PauseWatch.Shell
