import PauseWatch.Capture
import PauseWatch.Text.Span

/-!
# Why a run has no output

Either the process could not be started, or it was started and could not be followed to its end.
-/

namespace PauseWatch

/-- Why a run has no output. -/
inductive RunError where
  /-- There is no program to start. -/
  | emptyArgv
  /-- The program was not found. -/
  | notFound (program : String)
  /-- The program may not be started. -/
  | permissionDenied (program : String)
  /-- The program could not be started for another reason. -/
  | notStarted (program : String) (cause : String)
  /-- A pipe could not be read to its end; what was read before is kept. -/
  | unreadable (pipe : Pipe) (cause : String) (readBefore : String)
  /-- The process did not end in time and was terminated; what it wrote is kept. -/
  | timedOut (after : Text.Span) (stdout : String) (stderr : String)
  /-- The end of the process could not be awaited. -/
  | notAwaited (cause : String)
  deriving DecidableEq, Repr

namespace RunError

/-- The error in one line. -/
def message : RunError → String
  | .emptyArgv => "Empty argument vector"
  | .notFound program => "Executable not found: " ++ program
  | .permissionDenied program => "Permission denied: " ++ program
  | .notStarted program cause => "Failed to spawn " ++ program ++ ": " ++ cause
  | .unreadable pipe cause _ => "Failed to read " ++ pipe.name ++ ": " ++ cause
  | .timedOut after _ _ => "Process did not exit within " ++ after.render ++ " and was terminated"
  | .notAwaited cause => "Failed to wait for process: " ++ cause

/-- The output that an error has kept, for a reader. -/
def keptOutput : RunError → List String
  | .unreadable _ _ readBefore =>
    if readBefore.isEmpty then [] else ["partial output:\n" ++ Text.trimEnd readBefore]
  | .timedOut _ stdout stderr =>
    ["partial stdout:\n" ++ Text.trimEnd stdout ++ "\npartial stderr:\n" ++ Text.trimEnd stderr]
  | _ => []

end RunError

end PauseWatch
