/-!
# Signals

A signal has a number, and most have a name, a description and a default reaction. Of the numbers
that stand for no signal with a name, those up to the last one end a process.
-/

namespace PauseWatch.Host

/-- A signal, by its number. -/
structure Signal where
  /-- The number. -/
  number : Nat
  deriving DecidableEq, Repr

namespace Signal

/-- What a signal does to a process that has made no arrangement for it. -/
inductive Reaction where
  /-- The process ends. -/
  | ends
  /-- The process stops. -/
  | stops
  /-- A stopped process goes on. -/
  | resumes
  /-- Nothing happens. -/
  | nothing
  deriving DecidableEq, Repr

/-- What is known about a signal. -/
structure Entry where
  /-- The name. -/
  name : String
  /-- The description. -/
  description : String
  /-- The default reaction. -/
  reaction : Reaction := .ends

/-- The signals with a name, from number one on. -/
def table : List Entry :=
  [{ name := "HUP", description := "Hangup" },
    { name := "INT", description := "Interrupt" },
    { name := "QUIT", description := "Quit" },
    { name := "ILL", description := "Illegal instruction" },
    { name := "TRAP", description := "Trace/breakpoint trap" },
    { name := "ABRT", description := "Aborted" },
    { name := "BUS", description := "Bus error" },
    { name := "FPE", description := "Floating point exception" },
    { name := "KILL", description := "Killed" },
    { name := "USR1", description := "User defined signal 1" },
    { name := "SEGV", description := "Segmentation fault" },
    { name := "USR2", description := "User defined signal 2" },
    { name := "PIPE", description := "Broken pipe" },
    { name := "ALRM", description := "Alarm clock" },
    { name := "TERM", description := "Terminated" },
    { name := "16", description := "Stack fault" },
    { name := "CHLD", description := "Child exited", reaction := .nothing },
    { name := "CONT", description := "Continued", reaction := .resumes },
    { name := "STOP", description := "Stopped (signal)", reaction := .stops },
    { name := "TSTP", description := "Stopped", reaction := .stops },
    { name := "TTIN", description := "Stopped (tty input)", reaction := .stops },
    { name := "TTOU", description := "Stopped (tty output)", reaction := .stops },
    { name := "URG", description := "Urgent I/O condition", reaction := .nothing },
    { name := "XCPU", description := "CPU time limit exceeded" },
    { name := "XFSZ", description := "File size limit exceeded" },
    { name := "VTALRM", description := "Virtual timer expired" },
    { name := "PROF", description := "Profiling timer expired" },
    { name := "WINCH", description := "Window changed", reaction := .nothing },
    { name := "IO", description := "I/O possible" },
    { name := "PWR", description := "Power failure" },
    { name := "SYS", description := "Bad system call" }]

/-- The greatest number of a signal. -/
def last : Nat := 64

/-- What is known about a signal, if it has a name. -/
def details? (s : Signal) : Option Entry := if s.number = 0 then none else table[s.number - 1]?

/-- The first of the signals that programs may use as they like. -/
def firstFree : Nat := 34

/-- A signal as lists show it: by its name, or by its distance from the nearer end of the free ones,
or by its number. -/
def label (s : Signal) : String :=
  if s.number < firstFree then s.details?.elim (toString s.number) (·.name)
  else
    let above := s.number - firstFree
    let below := last - s.number
    if above = 0 then "RTMIN"
    else if below = 0 then "RTMAX"
    else if above ≤ below then "RTMIN+" ++ toString above
    else "RTMAX-" ++ toString below

/-- The description of a signal. -/
def description (s : Signal) : String :=
  s.details?.elim ("Unknown signal " ++ toString s.number) (·.description)

/-- The default reaction to a signal. -/
def reaction (s : Signal) : Reaction := s.details?.elim .ends (·.reaction)

/-- The signal with a given name, in letters of either case. -/
def ofName? (name : String) : Option Signal :=
  ((List.range last).find? fun n => (Signal.mk (n + 1)).label == name.map Char.toUpper).map
    fun n => ⟨n + 1⟩

/-- The request to end at once, which cannot be refused. -/
def kill : Signal := ⟨9⟩

/-- The signal for a write that nobody can read any more. -/
def brokenPipe : Signal := ⟨13⟩

/-- The request to end. -/
def terminate : Signal := ⟨15⟩

/-- The request to go on. -/
def resume : Signal := ⟨18⟩

/-- The request to stop, which cannot be refused. -/
def stop : Signal := ⟨19⟩

/-- The request from a keyboard to end. -/
def interrupt : Signal := ⟨2⟩

/-- The request from a keyboard to quit. -/
def quit : Signal := ⟨3⟩

/-- Whether a process may arrange something of its own for a signal. -/
def isOpen (s : Signal) : Bool := s != kill && s != stop

end Signal

/-- How a process has ended. -/
inductive Ending where
  /-- By itself, with a status. -/
  | exited (status : Nat)
  /-- By a signal. -/
  | signaled (signal : Signal)
  deriving DecidableEq, Repr

namespace Ending

/-- The status as a shell counts it: one that a signal ended counts from 128 on. -/
def status : Ending → Nat
  | .exited status => status
  | .signaled signal => 128 + signal.number

/-- The exit code, unless a signal ended the process. -/
def code : Ending → Option Int32
  | .exited status => some (Int32.ofNat status)
  | .signaled _ => none

end Ending

end PauseWatch.Host
