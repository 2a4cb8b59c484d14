import PauseWatch.Shell.Condition
import PauseWatch.Shell.Process
import PauseWatch.Tool.Format

/-!
# Commands that the shell carries out itself

Some of them are special: what goes wrong in them ends the shell, and assignments before them last.
-/

namespace PauseWatch.Shell

open Host (Work Signal)

/-! ## Writing -/

/-- Writes the output of a command that the shell carries out itself. -/
def put (name text : String) : Act Unit := do
  match ← say 1 text with
  | none => return ()
  | some _ =>
    complain (name ++ ": I/O error")
    setStatus 1

/-- Writes words, in which escapes have a meaning. -/
def echo (args : List String) : Act Unit := do
  setStatus 0
  let (words, endsLine) := match args with
    | "-n" :: rest => (rest, false)
    | words => (words, true)
  put "echo" (Tool.echoText .plain (" ".intercalate words) endsLine)

/-- Writes a filled format. What is said about the arguments comes first, as what is written waits
for the end. -/
def printf (args : List String) : Act Unit := do
  match args with
  | [] => abandon "usage: printf format [arg ...]"
  | "--" :: format :: args => go format args
  | format :: args =>
    match format.toList with
    | '-' :: c :: _ =>
      abandon ("Illegal option -" ++ String.singleton c)
    | _ => go format args
where
  /-- Fills a format, writes it, and says what is wrong. -/
  go (format : String) (args : List String) : Act Unit := do
    setStatus 0
    let filled := Tool.fill .plain format args
    for piece in filled.pieces.reverse do
      if let .strange arg strangeness := piece then
        let problem : Option String := match strangeness with
          | .noNumber => some "expected numeric value"
          | .excess => some "not completely converted"
          | .tooLarge => some Host.Fault.tooLarge.text
          | .moreThanOne _ => none
        if let some problem := problem then
          complain (arg ++ ": " ++ problem)
          setStatus 1
    let problem : Option String := match filled.halt with
      | some (.unknown directive) => some (directive ++ ": invalid directive")
      | some (.unfinished _) => some "missing format character"
      | some .tooLong => some "xvsnprintf failed"
      | _ => none
    match problem with
    | some problem =>
      complain problem
      put "printf" filled.text
      setStatus 2
      throw .abandon
    | none => put "printf" filled.text

/-- Evaluates a condition. -/
def test (args : List String) : Act Unit := do
  match ← ask (condition args) with
  | .ok b => setStatus (if b then 0 else 1)
  | .error message => abandon message

/-- Evaluates a condition that ends with a bracket. -/
def bracket (args : List String) : Act Unit := do
  if args.getLast? = some "]" then test args.dropLast else abandon "missing ]"

/-! ## Directories -/

/-- The names that lead from the root to a path that is seen from a directory. -/
def cleanPath (base : List String) (path : String) : List String :=
  let start := if path.startsWith "/" then [] else base
  (Text.splitAt '/' path).foldl (fun names name =>
    if name = "" ∨ name = "." then names
    else if name = ".." then names.dropLast
    else names ++ [name]) start

/-- The working directory as the shell has got there. -/
def workingDirectory : Act String := do
  match (← get).get? "PWD" with
  | some path => return path
  | none => return Host.Place.text (← ask Work.here)

/-- Moves to another directory. -/
def changeDirectory (args : List String) : Act Unit := do
  let s ← get
  let args := args.filter fun a => a != "-P" && a != "-L" && a != "--"
  let target := match args with
    | [] => s.get? "HOME"
    | "-" :: _ => s.get? "OLDPWD"
    | path :: _ => some path
  match target with
  | none => abandon (if args = [] then "HOME not set" else "OLDPWD not set")
  | some target =>
    let old ← workingDirectory
    let path := Host.Place.text (cleanPath (cleanPath [] old) target)
    match ← ask (Work.enter (if target = "" then "." else path)) with
    | some _ => abandon ("can't cd to " ++ target)
    | none =>
      assign "OLDPWD" old
      assign "PWD" (if target = "" then old else path)
      for name in ["OLDPWD", "PWD"] do
        modify fun s => s.change name fun v => { v with isExported := true }
      setStatus 0
      if args.head? = some "-" then put "cd" (path ++ "\n")

/-- Writes the working directory. -/
def printDirectory (args : List String) : Act Unit := do
  setStatus 0
  let path ← if args.contains "-P" then do pure (Host.Place.text (← ask Work.here))
    else workingDirectory
  put "pwd" (path ++ "\n")

/-! ## Variables -/

/-- The name and the value of an argument that may assign. -/
def splitAssignment (arg : String) : String × Option String :=
  let chars := arg.toList
  let name := String.ofList (chars.takeWhile (· != '='))
  match chars.dropWhile (· != '=') with
  | _ :: value => (name, some (String.ofList value))
  | [] => (name, none)

/-- Assigns and marks the variables that arguments name. -/
def declare (mark : Variable → Variable) (args : List String) : Act Unit := do
  setStatus 0
  for arg in args do
    let (name, value) := splitAssignment arg
    unless isName name do abandon (name ++ ": bad variable name")
    match value with
    | some value => assign name value
    | none => pure ()
    modify fun s => s.change name mark

/-- A value between single quotes. -/
def quotedValue (value : String) : String :=
  "'" ++ String.join (value.toList.map fun c => if c = '\x27' then "'\"'\"'" else c.toString) ++ "'"

/-- Writes marked variables as commands, in the order of their names. -/
def listMarked (lead : String) (isMarked : Variable → Bool) : Act Unit := do
  setStatus 0
  let found := (← get).vars.filterMap fun (name, v) =>
    if isMarked v then some (lead ++ name ++ v.value.elim "" fun x => "=" ++ quotedValue x)
    else none
  put lead (String.join ((found.mergeSort (· ≤ ·)).map (· ++ "\n")))

/-- Makes variables local to the function that runs. -/
def makeLocal (args : List String) : Act Unit := do
  for arg in args do
    let (name, _) := splitAssignment arg
    modify fun s => { s with outer := (name, s.vars.lookup name) :: s.outer }
  declare id args

/-- Exports variables. -/
def exportVariables (args : List String) : Act Unit :=
  if args = [] || args = ["-p"] then listMarked "export " (·.isExported)
  else declare (fun v => { v with isExported := true }) args

/-- Makes variables unchangeable. -/
def fixVariables (args : List String) : Act Unit :=
  if args = [] || args = ["-p"] then listMarked "readonly " (·.isFixed)
  else declare (fun v => { v with isFixed := true }) args

/-- Removes variables or functions. -/
def unsetNames (args : List String) : Act Unit := do
  setStatus 0
  let isFunction := args.head? = some "-f"
  for name in args.filter fun a => a != "-f" && a != "-v" do
    let s ← get
    if isFunction then set { s with functions := s.functions.filter (·.1 != name) }
    else if ((s.vars.lookup name).getD {}).isFixed then abandon (name ++ ": is read only")
    else set { s with vars := s.vars.filter (·.1 != name) }

/-- Reads the characters of a line, a byte at a time; tells whether the line had an end. -/
def readLine (isRaw : Bool) : Nat → List Mark → Act (List Mark × Bool)
  | 0, done => return (done.reverse, false)
  | fuel + 1, done => do
    match ← ask (Work.read 0 1) with
    | .error _ | .ok [] => return (done.reverse, false)
    | .ok (b :: _) =>
      let c := Char.ofNat b.toNat
      if c = '\n' then return (done.reverse, true)
      else if c = '\\' && !isRaw then
        match ← ask (Work.read 0 1) with
        | .error _ | .ok [] => return (done.reverse, false)
        | .ok (b :: _) =>
          let d := Char.ofNat b.toNat
          readLine isRaw fuel (if d = '\n' then done else .quoted d :: done)
      else if c = '\x00' then readLine isRaw fuel done
      else readLine isRaw fuel (.loose c :: done)

/-- Gives fields to variables, the last of which takes what is left of the line. -/
def assignFields (separators : List Char) : List String → List Mark → Act Unit
  | [], _ => return ()
  | [name], line => do
    let isBlank (m : Mark) : Bool := match m with
      | .loose c => separators.contains c && (c = ' ' ∨ c = '\t' ∨ c = '\n')
      | _ => false
    assign name (Mark.text ((line.dropWhile isBlank).reverse.dropWhile isBlank).reverse)
  | name :: rest, line => do
    let isSeparator (m : Mark) : Bool := match m with
      | .loose c => separators.contains c
      | _ => false
    let isBlank (m : Mark) : Bool :=
      isSeparator m && m.char?.any fun (c, _) => c == ' ' || c == '\t'
    let line := line.dropWhile isBlank
    let field := line.takeWhile fun m => !isSeparator m
    assign name (Mark.text field)
    let line := (line.drop field.length).dropWhile isBlank
    let line := match line with
      | m :: after => if isSeparator m then after else line
      | [] => []
    assignFields separators rest line

/-- Reads a line into variables. -/
def readInto (args : List String) : Act Unit := do
  let isRaw := args.contains "-r"
  match args.filter (· != "-r") with
  | [] => abandon "arg count"
  | names =>
    let (line, isWhole) ← readLine isRaw patience []
    assignFields (← get).separators names line
    setStatus (if isWhole then 0 else 1)

/-! ## Signals and children -/

/-- The signal that a text names, by its name or its number; the end of the shell is number zero. -/
def signalOf? (text : String) : Option (Option Signal) :=
  match text.toNat? with
  | some 0 => some none
  | some n => if n ≤ Signal.last then some (some ⟨n⟩) else none
  | none =>
    if text.map Char.toUpper = "EXIT" then some none else (Signal.ofName? text).map some

/-- The command that was not waited for and has a number, or the last one of them. -/
def State.job? (s : State) (number : String) : Option Nat :=
  match number.toNat? with
  | some n => s.jobs[n - 1]?.map (·.1)
  | none => s.jobs.getLast?.map (·.1)

/-- Sends a signal. A job is meant as a group, which it leads only if it has made itself one. -/
def killTargets (number : Nat) (targets : List String) : Act Unit := do
  setStatus 0
  if targets = [] then
    abandon ("Usage: kill [-s sigspec | -signum | -sigspec] [pid | job]... or\n" ++
      "kill -l [exitstatus]")
  for target in targets do
    let s ← get
    let pid? : Option Int := match target.toList with
      | '%' :: digits => (s.job? (String.ofList digits)).map fun pid => -(pid : Int)
      | '-' :: digits => (String.ofList digits).toNat?.map fun n => -(n : Int)
      | _ => target.toNat?.map fun n => (n : Int)
    match pid? with
    | none => abandon ("Illegal number: " ++ target)
    | some pid =>
      match ← ask (Work.send pid number) with
      | none => pure ()
      | some fault =>
        complain (fault.text ++ "\n")
        setStatus 1

/-- Sends a signal, which is the request to end unless another one is named. -/
def kill (args : List String) : Act Unit := do
  match args with
  | "-l" :: rest =>
    setStatus 0
    match rest with
    | [] =>
      put "kill" (String.join ((List.range (Signal.last + 1)).map fun n =>
        (Signal.mk n).label ++ "\n"))
    | n :: _ => put "kill" ((Signal.mk ((n.toNat?.getD 0) % 128)).label ++ "\n")
  | "-s" :: name :: targets =>
    match signalOf? name with
    | some s => killTargets (s.elim 0 (·.number)) targets
    | none => abandon ("invalid signal number or name: " ++ name)
  | "--" :: targets => killTargets Signal.terminate.number targets
  | first :: rest =>
    match first.toList with
    | '-' :: name =>
      match signalOf? (String.ofList name) with
      | some s => killTargets (s.elim 0 (·.number)) rest
      | none => abandon ("Illegal option -" ++ String.ofList (name.take 1))
    | _ => killTargets Signal.terminate.number args
  | [] => killTargets Signal.terminate.number []

/-- Arranges what runs at a signal. -/
def setTrap (signal : Option Signal) (script : Option String) : Act Unit := do
  let s ← get
  let others := s.traps.filter (·.1 != signal)
  let isDeaf ← match signal with
    | some signal => do
      let ignored ← ask (Work.ignores signal)
      pure (ignored && (s.traps.lookup (some signal)).isNone)
    | none => pure false
  unless isDeaf do
    match signal, script with
    | some signal, none => ask (Work.arrange signal .default)
    | some signal, some "" => ask (Work.arrange signal .ignore)
    | some signal, some _ => ask (Work.arrange signal .catch)
    | none, _ => pure ()
    set { s with traps := others ++ (script.map (signal, ·)).toList }

/-- Arranges what runs at signals, or shows it. -/
def trap (args : List String) : Act Unit := do
  setStatus 0
  let args := match args with
    | "--" :: rest => rest
    | args => args
  let name (signal : Option Signal) : String := signal.elim "EXIT" (·.label)
  match args with
  | [] =>
    let lines := (← get).traps.map fun (signal, script) =>
      "trap -- " ++ quotedValue script ++ " " ++ name signal ++ "\n"
    put "trap" (String.join lines)
  | first :: rest =>
    let isReset := rest = [] || (first.toNat?).isSome
    let (script, signals) := if isReset then (none, args)
      else (if first = "-" then none else some first, rest)
    for signal in signals do
      match signalOf? signal with
      | some signal => setTrap signal script
      | none =>
        let _ ← say 2 ("trap: " ++ signal ++ ": bad trap\n")
        setStatus 1

/-- Waits until children that were not waited for have ended, unless a signal comes in between. -/
def awaitJobs : Nat → List Nat → Act Unit
  | 0, _ => return ()
  | fuel + 1, pids => do
    let s ← get
    let isOpen (pid : Nat) : Bool := s.jobs.lookup pid == some none
    if pids.any isOpen then
      match ← ask (Work.wait none true) with
      | .ended pid ending =>
        noteJob pid ending
        if pids.length = 1 && pids.contains pid then announce ending
        awaitJobs fuel pids
      | .nobody => return ()
      | .interrupted signal => setStatus (128 + signal.number)
    else return ()

/-- Waits for children. -/
def waitFor (args : List String) : Act Unit := do
  setStatus 0
  let s ← get
  let all := s.jobs.map (·.1)
  if args = [] then
    awaitJobs patience (if all.length = 1 then 0 :: all else all)
    modify fun s => { s with jobs := s.jobs.filter (·.2.isNone) }
  else
    for arg in args do
      let pid? := match arg.toList with
        | '%' :: digits => s.job? (String.ofList digits)
        | _ => arg.toNat?
      match pid? with
      | none => abandon ("Illegal number: " ++ arg)
      | some pid =>
        if (s.jobs.lookup pid).isNone then setStatus 127
        else
          awaitJobs patience [pid]
          match (← get).jobs.lookup pid with
          | some (some ending) => setStatus ending.status
          | _ => pure ()

/-! ## Arguments and options -/

/-- A number of times or a status that an argument gives. -/
def countOf (args : List String) (default : Nat) : Act Nat := do
  match args with
  | [] => return default
  | a :: _ =>
    match a.toNat? with
    | some n => return n
    | none => abandon ("Illegal number: " ++ a)

/-- Ends the shell. -/
def exitShell (args : List String) : Act Unit := do
  let status ← countOf args (← get).status
  setStatus (status % 256)
  throw .exit

/-- Leaves a function. -/
def returnFrom (args : List String) : Act Unit := do
  setStatus (← countOf args (← get).status)
  throw .leaveFunction

/-- Leaves loops, as many as there are and no more. -/
def leaveLoops (leave : Nat → Leave) (args : List String) : Act Unit := do
  let n := min (← countOf args 1) (← get).loops
  setStatus 0
  unless n = 0 do throw (leave n)

/-- Drops arguments. -/
def shiftArgs (args : List String) : Act Unit := do
  let n ← countOf args 1
  let s ← get
  if s.args.length < n then abandon "can't shift that many"
  else set { s with args := s.args.drop n, status := 0 }

/-- The options with one letter switched. -/
def Options.switch (o : Options) (isOn : Bool) (letter : Char) : Option Options :=
  if letter = 'e' then some { o with exitsOnFailure := isOn }
  else if letter = 'u' then some { o with needsSet := isOn }
  else if letter = 'f' then some { o with leavesNames := isOn }
  else if letter = 'x' then some { o with shows := isOn }
  else if letter = 'a' then some { o with exportsAll := isOn }
  else if letter ∈ ['h', 'm', 'b', 'v', 'n', 'C', 'I', 's', 'i'] then some o
  else none

/-- The letter of an option with a long name. -/
def Options.letterOf? (name : String) : Option Char :=
  ([("errexit", 'e'), ("nounset", 'u'), ("noglob", 'f'), ("xtrace", 'x'), ("allexport", 'a'),
    ("monitor", 'm'), ("verbose", 'v')] : List (String × Char)).lookup name

/-- Switches options and takes them off the arguments; the rest is given only if there is one. -/
def switchOptions : List String → Act (Option (List String))
  | [] => return none
  | "--" :: rest => return some rest
  | "-o" :: name :: rest => do
    match Options.letterOf? name with
    | some letter =>
      modify fun s => { s with options := (s.options.switch true letter).getD s.options }
    | none => abandon ("Illegal option -o " ++ name)
    switchOptions rest
  | "+o" :: name :: rest => do
    match Options.letterOf? name with
    | some letter =>
      modify fun s => { s with options := (s.options.switch false letter).getD s.options }
    | none => abandon ("Illegal option +o " ++ name)
    switchOptions rest
  | arg :: rest => do
    match arg.toList with
    | sign :: letter :: letters =>
      if sign = '-' ∨ sign = '+' then
        for letter in letter :: letters do
          match (← get).options.switch (sign = '-') letter with
          | some options => modify fun s => { s with options }
          | none => abandon ("Illegal option " ++ String.ofList [sign, letter])
        switchOptions rest
      else return some (arg :: rest)
    | _ => return some (arg :: rest)

/-- Switches options and sets the arguments, or shows the variables. -/
def setOptions (args : List String) : Act Unit := do
  setStatus 0
  if args = [] then listMarked "" fun v => v.value.isSome
  else match ← switchOptions args with
    | some args => modify fun s => { s with args }
    | none => return ()

/-- The commands that are carried out without running other commands. -/
def plainBuiltins : List (String × (List String → Act Unit)) :=
  let succeed : List String → Act Unit := fun _ => setStatus 0
  [(":", succeed), ("true", succeed), ("false", fun _ => setStatus 1),
    ("echo", echo), ("printf", printf), ("test", test),
    ("[", bracket), ("cd", changeDirectory), ("chdir", changeDirectory),
    ("pwd", printDirectory), ("export", exportVariables),
    ("readonly", fixVariables), ("local", makeLocal),
    ("unset", unsetNames), ("read", readInto), ("kill", kill),
    ("trap", trap), ("wait", waitFor), ("exit", exitShell),
    ("return", returnFrom), ("shift", shiftArgs), ("set", setOptions),
    ("break", leaveLoops .breakLoops), ("continue", leaveLoops .nextRound),
    ("umask", fun args => do
      setStatus 0
      if args = [] then put "umask" "0022\n"),
    ("hash", succeed), ("alias", succeed), ("unalias", succeed),
    ("jobs", succeed), ("ulimit", fun _ => do
      setStatus 0
      put "ulimit" "unlimited\n"),
    ("times", fun _ => do
      setStatus 0
      put "times" "0m0.000000s 0m0.000000s\n0m0.000000s 0m0.000000s\n")]

end PauseWatch.Shell
