import PauseWatch.Text.Split

/-!
# Search paths

A program that is named without a slash is looked for in the directories of a search path, in their
order. An empty part of the path stands for the working directory.
-/

namespace PauseWatch.Host

/-- The directories in which programs are looked up if nothing else is said. -/
def usualPath : String := "/usr/local/sbin:/usr/local/bin:/usr/sbin:/usr/bin:/sbin:/bin"

/-- The paths under which a program may be found. Without a search path it must be named with a
slash. -/
def candidates (searchPath : Option String) (program : String) : List String :=
  if program.contains '/' then [program]
  else match searchPath with
    | none => []
    | some searchPath => (Text.splitAt ':' searchPath).map fun dir =>
      if dir = "" then program else dir ++ "/" ++ program

end PauseWatch.Host
