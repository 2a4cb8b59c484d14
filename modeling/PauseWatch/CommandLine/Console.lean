import PauseWatch.CommandLine.Program
import PauseWatch.Display.Timestamp
import PauseWatch.Host.Run
import PauseWatch.Pattern.Reader
import PauseWatch.Tool.Toolbox

/-!
# The program on a host

The world of a run can be a modelled host: launches become processes there, files are the host's,
and what is written is kept. A crash ends the run but not what was written before it.
-/

namespace PauseWatch.CommandLine

/-- A host and what was written so far. -/
structure Console where
  /-- The host. -/
  host : Host
  /-- The texts on the standard output, the last first. -/
  printed : List String := []
  /-- The texts on the standard error, the last first. -/
  warned : List String := []

/-- A run on a console. -/
abbrev OnConsole := ExceptT Host.Crash (StateM Console)

/-- What is found under a path on a host, seen from a directory. -/
def lookOn (h : Host) (dir : Host.Place) (path : String) : FileRead :=
  if path.contains '\x00' then .missing
  else match h.files.find? dir (Host.bytesText path) with
    | .error _ => .missing
    | .ok (_, .folder) => .unreadable Host.Fault.isFolder.describe
    | .ok (_, .file bytes _) => .content bytes
    | .ok (_, .tool _) => .content [0xFF]
    | .ok _ => .content []

/-- Runs a launch on the host of the console. -/
def launchOn (r : Host.Runner) (timeout : Option Text.Span) : Executor OnConsole := fun spec => do
  let c ← get
  let (host, answer) := Host.run { r with timeout } spec c.host
  set { c with host }
  match answer with
  | .ok answer => return answer
  | .error crash => throw crash

/-- The world of a host. -/
def worldOn (r : Host.Runner) (h : Host) : World OnConsole where
  env := r.env
  look := lookOn h r.dir
  decode := Config.ofToml
  matcher := Pattern.compile
  clock := do return Display.Clock.at ((← get).host.now)
  execute := launchOn r
  print text := modify fun c => { c with printed := text :: c.printed }
  warn text := modify fun c => { c with warned := text :: c.warned }

/-- What a run of the program leaves behind. -/
structure Left where
  /-- The exit code. -/
  exitCode : Nat
  /-- The text on the standard output. -/
  stdout : String
  /-- The text on the standard error. -/
  stderr : String
  /-- What ended the run before its time. -/
  crash : Option Host.Crash := none

/-- Does what a command line asks for in a world that may be like that of a host. -/
def executeIn (w : World OnConsole) (h : Host) (words : List String) : Left :=
  let (result, c) := (execute w words).run.run { host := h }
  let stdout := String.join c.printed.reverse
  let stderr := String.join c.warned.reverse
  match result with
  | .ok exitCode => { exitCode, stdout, stderr }
  | .error crash => { exitCode := exitCrash, stdout, stderr, crash := some crash }

end PauseWatch.CommandLine
