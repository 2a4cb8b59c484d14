import PauseWatch.Json.Reader
import PauseWatch.Text.Blank

/-!
# Captured output

What a process wrote, as text, and how it exited. A check looks at one of the two pipes or at both
together, the standard output first and nothing between them.
-/

namespace PauseWatch

/-- A pipe that a process writes to. -/
inductive Pipe where
  /-- The standard output. -/
  | stdout
  /-- The standard error. -/
  | stderr
  deriving DecidableEq, Repr

/-- The name of a pipe. -/
def Pipe.name : Pipe → String
  | .stdout => "stdout"
  | .stderr => "stderr"

/-- Reads a pipe. -/
def Pipe.ofJson? (value : Json) : Option Pipe :=
  match Json.name? value with
  | some "stdout" => some .stdout
  | some "stderr" => some .stderr
  | _ => none

/-- Which text a check looks at. -/
inductive Channel where
  /-- The standard output. -/
  | stdout
  /-- The standard error. -/
  | stderr
  /-- The standard output followed by the standard error. -/
  | combined
  deriving DecidableEq, Repr, Inhabited

namespace Channel

/-- The name of a channel in data. -/
def name : Channel → String
  | .stdout => "stdout"
  | .stderr => "stderr"
  | .combined => "combined"

/-- The name of a channel in messages. -/
def label : Channel → String
  | .stdout => "stdout"
  | .stderr => "stderr"
  | .combined => "stdout+stderr"

/-- The channel with a given name. -/
def ofName? (text : String) : Option Channel :=
  if text = "stdout" then some .stdout
  else if text = "stderr" then some .stderr
  else if text = "combined" then some .combined
  else none

/-- Every channel has a name of its own. -/
@[simp] theorem ofName?_name (channel : Channel) : ofName? channel.name = some channel := by
  cases channel <;> simp [ofName?, name]

/-- Reads a channel. -/
def ofJson? (value : Json) : Option Channel := (Json.name? value).bind ofName?

/-- A channel in JSON. -/
def toJson (channel : Channel) : Json := .str channel.name

end Channel

/-- Everything a finished process wrote, and how it exited. -/
structure Capture where
  /-- The text on the standard output. -/
  stdout : String := ""
  /-- The text on the standard error. -/
  stderr : String := ""
  /-- The exit code, unless a signal ended the process. -/
  exitCode : Option Int32 := none
  /-- The number of the process, if there was one. -/
  pid : Option Nat := none
  /-- The milliseconds from the start to the end of the output. -/
  elapsed : Nat := 0
  deriving DecidableEq, Repr, Inhabited

namespace Capture

/-- Whether the process exited with code zero. -/
def success (c : Capture) : Bool := c.exitCode == some 0

/-- The text of one pipe. -/
def pipeText (c : Capture) : Pipe → String
  | .stdout => c.stdout
  | .stderr => c.stderr

/-- The text of a channel. -/
def text (c : Capture) : Channel → String
  | .stdout => c.stdout
  | .stderr => c.stderr
  | .combined => c.stdout ++ c.stderr

/-- All of the capture for a reader, without the blanks at the end of each text. -/
def dump (c : Capture) : String :=
  "--- exit value: " ++ c.exitCode.elim "none (signal)" (fun code => toString code.toInt)
    ++ "\n--- stdout ---\n" ++ Text.trimEnd c.stdout
    ++ "\n--- stderr ---\n" ++ Text.trimEnd c.stderr ++ "\n"

/-- A capture in JSON. -/
def toJson (c : Capture) : Json :=
  .obj [("stdout", .str c.stdout), ("stderr", .str c.stderr),
    ("exit_code", Json.ofOption (fun code => .int code.toInt) c.exitCode),
    ("pid", Json.ofOption Json.nat c.pid), ("elapsed", Json.nat c.elapsed)]

end Capture

end PauseWatch
