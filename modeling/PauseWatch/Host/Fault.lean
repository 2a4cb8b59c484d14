/-!
# Faults

The reasons for which the host refuses what a program asks for, each with the number and the text
that are usual for it.
-/

namespace PauseWatch.Host

/-- Why the host refuses a request. -/
inductive Fault where
  /-- Nothing has that name. -/
  | missing
  /-- There is no such process. -/
  | noProcess
  /-- The arguments take too much room. -/
  | tooManyWords
  /-- The file is no program. -/
  | noProgram
  /-- The descriptor is not open for this. -/
  | badDescriptor
  /-- The permission is missing. -/
  | denied
  /-- Something has that name already. -/
  | taken
  /-- A part of the path is no directory. -/
  | notFolder
  /-- A directory cannot be used like this. -/
  | isFolder
  /-- The argument makes no sense. -/
  | invalid
  /-- There is no room left. -/
  | full
  /-- Nobody can read what was written. -/
  | brokenPipe
  /-- The number is too large. -/
  | tooLarge
  /-- The name is too long. -/
  | longName
  /-- The directory is not empty. -/
  | notEmpty
  /-- Too many links lead on to others. -/
  | manyLinks
  deriving DecidableEq, Repr

namespace Fault

/-- The number of a fault. -/
def number : Fault → Nat
  | .missing => 2
  | .noProcess => 3
  | .tooManyWords => 7
  | .noProgram => 8
  | .badDescriptor => 9
  | .denied => 13
  | .taken => 17
  | .notFolder => 20
  | .isFolder => 21
  | .invalid => 22
  | .full => 28
  | .brokenPipe => 32
  | .tooLarge => 34
  | .longName => 36
  | .notEmpty => 39
  | .manyLinks => 40

/-- The text of a fault. -/
def text : Fault → String
  | .missing => "No such file or directory"
  | .noProcess => "No such process"
  | .tooManyWords => "Argument list too long"
  | .noProgram => "Exec format error"
  | .badDescriptor => "Bad file descriptor"
  | .denied => "Permission denied"
  | .taken => "File exists"
  | .notFolder => "Not a directory"
  | .isFolder => "Is a directory"
  | .invalid => "Invalid argument"
  | .full => "No space left on device"
  | .brokenPipe => "Broken pipe"
  | .tooLarge => "Numerical result out of range"
  | .longName => "File name too long"
  | .notEmpty => "Directory not empty"
  | .manyLinks => "Too many levels of symbolic links"

/-- The text of a fault with its number. -/
def describe (f : Fault) : String := f.text ++ " (os error " ++ toString f.number ++ ")"

end Fault

end PauseWatch.Host
