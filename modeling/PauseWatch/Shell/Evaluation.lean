import PauseWatch.Shell.Builtin

/-!
# Running commands

What each kind of command does, given how to run a command. A command that is the last thing for its
process needs no child of its own.
-/

namespace PauseWatch.Shell

open Host (Work)

/-! ## Conditions and failures -/

/-- Runs a command of which a failure is no failure of the shell. -/
def tested (act : Act Unit) : Act Unit := do
  modify fun s => { s with tests := s.tests + 1 }
  finally_ act (modify fun s => { s with tests := s.tests - 1 })

/-- Ends the shell after a failure, if that is wanted. -/
def checkFailure : Act Unit := do
  let s ← get
  if s.options.exitsOnFailure && s.tests = 0 && s.status ≠ 0 then throw .exit

/-! ## Simple commands -/

/-- Carries out assignments, and gives the values. -/
def assignAll (self : Evaluate) : List (String × Word) → Act (List (String × String))
  | [] => return []
  | (name, word) :: rest => do
    let value ← expandText (substitute self) word
    assign name value
    return (name, value) :: (← assignAll self rest)

/-- Does something while variables have other values, and are exported. -/
def withAssignments (self : Evaluate) (assignments : List (String × Word)) (act : Act Unit) :
    Act Unit := do
  if assignments.isEmpty then act
  else
    let old := (← get).vars
    let names := assignments.map (·.1)
    finally_
      (do
        let _ ← assignAll self assignments
        for name in names do
          modify fun s => s.change name fun v => { v with isExported := true }
        act)
      (modify fun s => { s with vars :=
        (old.filter fun (name, _) => names.contains name)
          ++ (s.vars.filter fun (name, _) => !names.contains name) })

/-- Carries out a command of the shell under its name. -/
def speakingAs (name : String) (act : Act Unit) : Act Unit := do
  let old := (← get).speaker
  modify fun s => { s with speaker := some name }
  finally_ act (modify fun s => { s with speaker := old })

/-- Calls a function. -/
def call (self : Evaluate) (body : Command) (args : List String) : Act Unit := do
  let s ← get
  set { s with args, outer := [], loops := 0 }
  finally_
    (do
      try self false body
      catch e => unless e = .leaveFunction do throw e)
    (do
      for (name, old) in (← get).outer do
        modify fun now => { now with
          vars := (old.map (name, ·)).toList ++ now.vars.filter (·.1 != name) }
      modify fun now => { now with args := s.args, outer := s.outer, loops := s.loops })

/-- Runs a program, in a child unless it is the last thing to do. -/
def runProgram (self : Evaluate) (isLast : Bool) (argv : List String)
    (prepare : Act Unit → Act Unit) : Act Unit := do
  let s ← get
  if isLast && !s.hasTraps then prepare (becomeProgram argv)
  else
    let pid ← spawn self (prepare (becomeProgram argv))
    await [pid]

/-- What a name means to the shell, in words. -/
def meaning (name : String) : Act (Option (String × String)) := do
  let s ← get
  if reserved.contains name then return some (name ++ " is a shell keyword", name)
  else if (s.functions.lookup name).isSome then
    return some (name ++ " is a shell function", name)
  else if specials.contains name then
    return some (name ++ " is a special shell builtin", name)
  else match plainBuiltins.lookup name with
    | some _ => return some (name ++ " is a shell builtin", name)
    | none =>
      if ["command", "type"].contains name then
        return some (name ++ " is a shell builtin", name)
      for path in s.pathsOf name do
        match ← ask (Work.look path) with
        | .ok item => if item.isProgram then return some (name ++ " is " ++ path, path)
        | .error _ => pure ()
      return none

/-- Tells what names mean to the shell. -/
def tellMeanings (isShort : Bool) (names : List String) : Act Unit := do
  setStatus 0
  for name in names do
    match ← meaning name with
    | some (long, short) => put "type" ((if isShort then short else long) ++ "\n")
    | none =>
      unless isShort do put "type" (name ++ ": not found\n")
      setStatus 127

/-- Reads commands from a file. -/
def readScript (self : Evaluate) (args : List String) : Act Unit := do
  match args with
  | [] => abandon "filename argument required"
  | path :: _ =>
    match ← ask (Work.openFile path .read) with
    | .error fault => abandon (openProblem false path fault)
    | .ok handle =>
      ask (Work.attach conduitFd (some handle))
      let bytes ← readAll conduitFd patience []
      ask (Work.attach conduitFd none)
      setStatus 0
      try speakingAs path (runText self false (Text.ofByteList bytes))
      catch e => unless e = .leaveFunction do throw e

/-- The commands that run other commands. -/
def runningBuiltins (self : Evaluate) : List (String × (List String → Act Unit)) :=
  [("eval", fun args => do
      setStatus 0
      runText self false (" ".intercalate args)),
    (".", readScript self), ("type", tellMeanings false),
    ("exec", fun args => do
      setStatus 0
      if args ≠ [] then
        modify fun s => { s with traps := s.traps.filter (·.1 != none) }
        becomeProgram args)]

/-- The command of the shell with a name. -/
def builtin? (self : Evaluate) (name : String) : Option (List String → Act Unit) :=
  (runningBuiltins self ++ plainBuiltins).lookup name

/-- Shows a command before it runs. -/
def trace (assignments : List (String × Word)) (fields : List String) : Act Unit := do
  if (← get).options.shows then
    let words := assignments.map (fun (name, value) => name ++ "=" ++ value) ++ fields
    let _ ← say 2 ("+ " ++ " ".intercalate words ++ "\n")

/-- Drops the options in front of a command that is to be found without functions. -/
def withoutCommandOptions : List String → List String
  | "-p" :: rest | "--" :: rest => withoutCommandOptions rest
  | words => words

/-- Runs words as a command. -/
def runFields (self : Evaluate) (isLast : Bool) (assignments : List (String × Word))
    (redirects : List Redirect) (usesFunctions : Bool) (fields : List String) : Act Unit := do
  let s ← get
  let name := fields.headD ""
  let args := fields.tail
  let function? := if usesFunctions then s.functions.lookup name else none
  match function?, builtin? self name with
  | some body, _ =>
    withRedirects self true redirects (withAssignments self assignments (call self body args))
  | none, some act =>
    if name = "exec" then
      for r in redirects do redirect self r
      if args = [] then
        let _ ← assignAll self assignments
        setStatus 0
      else withAssignments self assignments (speakingAs name (act args))
    else if specials.contains name && usesFunctions then
      withRedirects self false redirects do
        let _ ← assignAll self assignments
        speakingAs name (act args)
    else forgiving do
      withRedirects self false redirects
        (withAssignments self assignments (speakingAs name (act args)))
  | none, none =>
    runProgram self isLast fields fun act => do
      for r in redirects do redirect self r
      withAssignments self assignments act

/-- Runs a simple command. -/
def runSimple (self : Evaluate) (isLast : Bool) (assignments : List (String × Word))
    (words : List Word) (redirects : List Redirect) (line : Nat) : Act Unit := do
  ask (Work.pause commandCost)
  modify fun s => { s with line, substituted := none }
  let fields ← expandWords (substitute self) words
  match fields with
  | [] =>
    setStatus 0
    if ← isForgiven (withRedirects self false redirects (return ())) then
      trace (← assignAll self assignments) []
      modify fun s => { s with status := s.substituted.getD s.status }
  | "command" :: rest =>
    trace assignments fields
    match withoutCommandOptions rest with
    | [] => setStatus 0
    | "-v" :: names => withRedirects self true redirects (tellMeanings true names)
    | "-V" :: names => withRedirects self true redirects (tellMeanings false names)
    | rest => runFields self isLast assignments redirects false rest
  | fields =>
    trace assignments fields
    runFields self isLast assignments redirects true fields

/-! ## Compound commands -/

/-- Starts the stages of a pipeline, each reading what the one before writes. -/
def startStages (self : Evaluate) (readsConduit : Bool) : List Command → Act (List Nat)
  | [] => return []
  | [stage] => do
    let pid ← spawn self do
      if readsConduit then copyHandle 0 conduitFd
      closeConduits
      self true stage
    closeConduits
    return [pid]
  | stage :: rest => do
    let number ← ask Work.conduit
    ask (Work.attach (conduitFd + 1) (some (.sink number)))
    ask (Work.attach (conduitFd + 2) (some (.source number)))
    let pid ← spawn self do
      if readsConduit then copyHandle 0 conduitFd
      copyHandle 1 (conduitFd + 1)
      closeConduits
      self true stage
    ask (Work.attach (conduitFd + 1) none)
    copyHandle conduitFd (conduitFd + 2)
    ask (Work.attach (conduitFd + 2) none)
    return pid :: (← startStages self true rest)

/-- Starts a command that is not waited for. -/
def runBackground (self : Evaluate) (c : Command) : Act Unit := do
  let pid ← spawn self do
    ask (Work.arrange .interrupt .ignore)
    ask (Work.arrange .quit .ignore)
    match ← ask (Work.openFile "/dev/null" .read) with
    | .ok handle => ask (Work.attach 0 (some handle))
    | .error _ => pure ()
    self true c
  modify fun s => { s with
    jobs := s.jobs ++ [(pid, none)], lastBackground := some pid, status := 0 }

/-- Runs the body of a loop; tells whether another round may follow. -/
def runRound (body : Act Unit) : Act Bool := do
  try
    body
    return true
  catch e =>
    match e with
    | .breakLoops (n + 2) => throw (.breakLoops (n + 1))
    | .breakLoops _ => return false
    | .nextRound (n + 2) => throw (.nextRound (n + 1))
    | .nextRound _ => return true
    | e => throw e

/-- Runs the rounds of a loop with a condition. -/
def runRounds (condition body : Act Unit) (isUntil : Bool) : Nat → Nat → Act Unit
  | 0, status => setStatus status
  | fuel + 1, status => do
    let goesOn ← runRound (tested condition)
    if goesOn && ((← get).status == 0) != isUntil then
      if ← runRound body then runRounds condition body isUntil fuel (← get).status
      else return ()
    else setStatus status

/-- Does something as the inside of a loop. -/
def inLoop (act : Act Unit) : Act Unit := do
  modify fun s => { s with loops := s.loops + 1 }
  finally_ act (modify fun s => { s with loops := s.loops - 1 })

/-- Runs a loop over words. -/
def runEach (body : Act Unit) (name : String) : List String → Act Unit
  | [] => return ()
  | value :: rest => do
    ask (Work.pause commandCost)
    assign name value
    if ← runRound body then runEach body name rest else return ()

/-- The branch that has a pattern for a text. -/
def findBranch (self : Evaluate) (text : List Char) :
    List (List Word × Command) → Act (Option Command)
  | [] => return none
  | (patterns, body) :: rest => do
    for p in patterns do
      let atoms := Mark.pattern (← expandMarks (substitute self) .bare p)
      if Atom.fits atoms text then return some body
    findBranch self text rest

/-- Runs a command, given how to run the commands inside it. -/
def evaluateWith (self : Evaluate) (isLast : Bool) (c : Command) : Act Unit := do
  match c with
  | .nothing => setStatus 0
  | .located line c =>
    modify fun s => { s with line }
    self isLast c
  | .simple assignments words redirects line =>
    runSimple self isLast assignments words redirects line
    checkFailure
  | .pipeline stages =>
    await (← startStages self false stages)
    checkFailure
  | .negated c =>
    tested (self false c)
    modify fun s => { s with status := if s.status = 0 then 1 else 0 }
  | .andThen first second =>
    tested (self false first)
    if (← get).status = 0 then self isLast second
  | .orElse first second =>
    tested (self false first)
    if (← get).status ≠ 0 then self isLast second
  | .sequence first second =>
    self false first
    self isLast second
  | .background c => runBackground self c
  | .subshell body =>
    if isLast && !(← get).hasTraps then self true body
    else
      await [← spawn self (self true body)]
      checkFailure
  | .redirected body redirects =>
    if redirects.isEmpty then self isLast body
    else withRedirects self true redirects (self false body)
  | .choice condition yes no =>
    tested (self false condition)
    if (← get).status = 0 then self isLast yes
    else
      setStatus 0
      self isLast no
  | .loop isUntil condition body =>
    inLoop (runRounds (self false condition) (self false body) isUntil patience 0)
  | .each name words body =>
    let values ← match words with
      | some words => expandWords (substitute self) words
      | none => pure (← get).args
    setStatus 0
    inLoop (runEach (self false body) name values)
  | .select word branches =>
    let text ← expandText (substitute self) word
    match ← findBranch self text.toList branches with
    | some body => self isLast body
    | none => setStatus 0
  | .define name body =>
    modify fun s => { s with
      functions := (name, body) :: s.functions.filter (·.1 != name), status := 0 }
  runTraps self

/-- How deep commands may stand in each other. -/
def depthLimit : Nat := 100000

/-- Runs a command that is at most so deep. -/
def evaluate_ : Nat → Evaluate
  | 0, _, _ => abandon "Maximum function recursion depth reached"
  | depth + 1, isLast, c => evaluateWith (evaluate_ depth) isLast c

/-- Runs a command. -/
def run : Evaluate := evaluate_ depthLimit

/-! ## Starting -/

/-- The variables of a new shell. -/
def startingVariables (vars : Host.Variables) (here : String) : List (String × Variable) :=
  let given := (vars.filter fun (name, _) => isName name && name ≠ "PWD" && name ≠ "IFS").map
    fun (name, value) => (name, { value := some value, isExported := true : Variable })
  let own := [("PWD", { value := some here, isExported := true }),
    ("IFS", { value := some " \t\n" }), ("PATH", { value := some Host.usualPath })]
  given ++ own.filter fun (name, _) => (given.lookup name).isNone

/-- Runs a script in a file. -/
def runFile (path : String) : Act Unit := do
  match ← ask (Work.openFile path .read) with
  | .error fault => abandon (openProblem false path fault)
  | .ok handle =>
    ask (Work.attach conduitFd (some handle))
    let bytes ← readAll conduitFd patience []
    ask (Work.attach conduitFd none)
    modify fun s => { s with name := path }
    runText run false (Text.ofByteList bytes)

/-- Runs a script that is read as input. -/
def runInput : Act Unit := do
  let bytes ← readAll 0 patience []
  runText run false (Text.ofByteList bytes)

/-- Where the script of a shell comes from. -/
inductive Origin where
  /-- A file that the first argument names, or the input if there is none. -/
  | file
  /-- The first argument itself. -/
  | argument
  /-- The input. -/
  | input
  deriving DecidableEq, Repr

/-- Where options say that the script comes from, and the arguments after the options. -/
def startingOptions : Origin → List String → Act (Origin × List String)
  | origin, [] => return (origin, [])
  | origin, arg :: rest => do
    match arg.toList with
    | '-' :: letter :: letters =>
      if arg = "--" then return (origin, rest)
      else
        let letters := letter :: letters
        let others := letters.filter (· != 'c')
        if others ≠ [] then
          let _ ← switchOptions [String.ofList ('-' :: others)]
        let origin := if letters.contains 'c' then .argument
          else if letters.contains 's' && origin != .argument then .input else origin
        startingOptions origin rest
    | _ => return (origin, arg :: rest)

/-- Starts a shell. -/
def start (args : List String) : Act Unit := do
  match ← startingOptions .file args with
  | (.argument, []) => abandon "-c requires an argument"
  | (.argument, script :: names) =>
    modify fun s => { s with name := names.headD s.name, args := names.tail }
    runText run false script
  | (.file, path :: args) =>
    modify fun s => { s with args }
    runFile path
  | (_, args) =>
    modify fun s => { s with args }
    runInput

/-- The program of a shell with some words and variables. -/
def tool (argv : List String) (vars : Host.Variables) : Host.Program :=
  Work.identity fun identity => Work.here fun here =>
    let s : State := {
      name := argv.headD "sh"
      vars := startingVariables vars here.text
      pid := identity.pid }
    program run s (start argv.tail)

end PauseWatch.Shell
