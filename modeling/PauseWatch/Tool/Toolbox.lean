import PauseWatch.Jvm.Simulation
import PauseWatch.Shell.Evaluation
import PauseWatch.Text.Utf8
import PauseWatch.Tool.Calculation
import PauseWatch.Tool.Characters
import PauseWatch.Tool.Child
import PauseWatch.Tool.Columns
import PauseWatch.Tool.Copying
import PauseWatch.Tool.Count
import PauseWatch.Tool.Deadline
import PauseWatch.Tool.Edit.Run
import PauseWatch.Tool.Excerpt
import PauseWatch.Tool.Folder
import PauseWatch.Tool.Grep
import PauseWatch.Tool.Lines
import PauseWatch.Tool.Listing
import PauseWatch.Tool.Path
import PauseWatch.Tool.Permission
import PauseWatch.Tool.Removal
import PauseWatch.Tool.Repetition
import PauseWatch.Tool.Sequence
import PauseWatch.Tool.Sorting
import PauseWatch.Tool.Transfer
import PauseWatch.Tool.Words

/-!
# The programs of the host

The programs that a host brings along, and the files of a host that has nothing but them.
-/

namespace PauseWatch.Tool

open Host (Files Program Variables Work)

/-- The simulated virtual machine as a program. -/
def jvm (args : List String) : Work Nat := do
  let result := Jvm.simulateArgs (args.map fun a => Text.Utf8.decode (Text.toByteList a))
  let _ ← Work.write 1 (Text.Utf8.encode (Jvm.linesText result.stdout))
  let _ ← Work.write 2 (Text.Utf8.encode (Jvm.linesText result.stderr))
  return result.exitCode

/-- The programs that need nothing but their words, given the name they are called by. -/
def plainPrograms : List (String × (String → List String → Work Nat)) :=
  [("true", fun _ _ => return 0), ("false", fun _ _ => return 1), ("echo", echo),
    ("printf", printf), ("test", test), ("[", bracket), ("expr", expr), ("basename", basename),
    ("dirname", dirname), ("cat", cat), ("tee", tee), ("dd", dd), ("head", head), ("tail", tail),
    ("tr", tr), ("cut", cut), ("grep", grepAs 'G'), ("egrep", grepAs 'E'), ("fgrep", grepAs 'F'),
    ("yes", yes), ("wc", wc), ("sort", sort), ("uniq", uniq), ("seq", seq), ("sleep", sleep),
    ("kill", kill), ("pwd", fun me _ => pwd me), ("ls", ls), ("touch", touch), ("mkdir", mkdir),
    ("rm", rm), ("rmdir", rmdir), ("cp", cp), ("mv", mv), ("ln", ln), ("chmod", chmod),
    ("readlink", readlink), ("realpath", realpath), ("mktemp", mktemp),
    ("java", fun _ args => jvm args)]

/-- The programs, given the name they are called by, their words and their variables. -/
def programs : List (String × (String → List String → Variables → Work Nat)) :=
  [("setsid", setsid), ("nohup", nohup), ("timeout", timeout), ("env", env), ("nice", nice),
    ("stdbuf", stdbuf), ("printenv", printenv), ("sed", sed), ("which", which)]
    ++ plainPrograms.map fun (name, act) => (name, fun me args _ => act me args)

/-- The names under which shells are started. -/
def shells : List String := ["sh", "dash", "bash"]

/-- The program with a name. -/
def toolbox : Host.Toolbox := fun name argv vars =>
  if shells.contains name then Shell.tool argv vars
  else match programs.lookup name with
    | some act => (act (argv.headD name) argv.tail vars).toProgram
    | none => .exit 127

/-- The files of a host that has nothing but its programs. -/
def bareFiles : Files :=
  let folders : List Host.Place := [["usr"], ["usr", "bin"], ["usr", "sbin"], ["usr", "lib"],
    ["usr", "local"], ["usr", "local", "bin"], ["usr", "local", "sbin"], ["etc"], ["tmp"], ["dev"],
    ["dev", "fd"], ["var"], ["var", "tmp"], ["home"], ["root"], ["opt"], ["proc"], ["srv"]]
  let devices : List (Host.Place × Host.Item) :=
    [(["dev", "null"], .device .null), (["dev", "zero"], .device .zero),
      (["dev", "full"], .device .full), (["dev", "stdin"], .descriptor 0),
      (["dev", "stdout"], .descriptor 1), (["dev", "stderr"], .descriptor 2)]
  let links : List (Host.Place × Host.Item) :=
    [(["bin"], .link "usr/bin"), (["sbin"], .link "usr/sbin"), (["lib"], .link "usr/lib")]
  let installed := shells ++ (programs.map (·.1)).filter (· != "java")
  let accounts := Text.Utf8.encode
    (unlines ["root:x:0:0:root:/root:/bin/bash",
      "daemon:x:1:1:daemon:/usr/sbin:/usr/sbin/nologin",
      "bin:x:2:2:bin:/bin:/usr/sbin/nologin", "sys:x:3:3:sys:/dev:/usr/sbin/nologin",
      "nobody:x:65534:65534:nobody:/nonexistent:/usr/sbin/nologin"])
  ⟨folders.map (·, .folder) ++ devices ++ links
    ++ ((List.range 10).map fun n => (["dev", "fd", toString n], .descriptor n))
    ++ [(["etc", "passwd"], .file accounts false)]
    ++ installed.map fun name => (["usr", "bin", name], .tool name)⟩

end PauseWatch.Tool
