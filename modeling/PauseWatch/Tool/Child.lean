import PauseWatch.Host.SearchPath
import PauseWatch.Text.Numeral
import PauseWatch.Tool.Stream

/-!
# Programs about processes

Programs that start others, wait, send signals, and show variables.
-/

namespace PauseWatch.Tool

open Host (Fault Signal Variables Work)

/-- The longest length of time that is waited, in microseconds. -/
def longest : Nat := Nat.pow 10 18

/-- The microseconds that a length of time stands for: a number and a letter for its unit. -/
def microsOf? (text : String) : Option Nat :=
  let units : List (List Char × Nat) :=
    [([], 1), (['s'], 1), (['m'], 60), (['h'], 3600), (['d'], 86400)]
  match Text.Numeral.read? text with
  | some (x, rest) =>
    (units.lookup rest).bind fun unit =>
      match x with
      | .finite isNegative size =>
        if isNegative && size.num ≠ 0 then none
        else some (min longest (size.num * unit * 1000000 / size.den))
      | .infinite isNegative => if isNegative then none else some longest
      | .undefined _ => none
  | none => none

/-- What is said about a length of time that makes no sense. -/
def badLength (length : String) : String := "invalid time interval " ++ quoted length

/-- Waits for some time. -/
def sleep (me : String) (args : List String) : Work Nat :=
  withOptions me "" [] true 1 args fun s => do
    let bad := s.operands.filter fun a => (microsOf? a).isNone
    match bad.reverse with
    | last :: others =>
      for length in others.reverse do warn me (badLength length)
      usage me (badLength last) 1
    | [] =>
      if s.operands = [] then usage me "missing operand" 1
      else
        Work.pause ((s.operands.filterMap microsOf?).foldl (· + ·) 0)
        return 0

/-! ## Other programs -/

/-- Goes on as another program. If that is not possible, says so, given how to say that a name is
the name of no program, and gives a status. -/
def becomeProgram (me : String) (problem : String → String) (argv : List String)
    (vars : Variables) : Work Nat := do
  let name := argv.headD ""
  let rec attempt (worst : Fault) : List String → Work Fault
    | [] => return worst
    | path :: rest => do
      match ← Work.become path argv vars with
      | .noProgram => Work.become "/bin/sh" ("sh" :: path :: argv.tail) vars
      | .missing => attempt worst rest
      | fault => attempt fault rest
  let paths :=
    if name = "" then [] else Host.candidates (some ((vars.lookup "PATH").getD Host.usualPath)) name
  let fault ← attempt .missing paths
  warn me (problem name ++ ": " ++ fault.text)
  return if fault = .missing then 127 else 126

/-- Starts a program that goes on when its terminal is gone. -/
def nohup (me : String) (args : List String) (vars : Variables) : Work Nat :=
  withOptions me "" [] false 125 args fun s => do
    if s.operands = [] then usage me "missing operand" 125
    else
      Work.arrange ⟨1⟩ .ignore
      becomeProgram me (fun name => "failed to run command " ++ shellQuoted name) s.operands vars

/-- Starts a program that gives way to others, or shows how much it would give way. -/
def nice (me : String) (args : List String) (vars : Variables) : Work Nat :=
  let isNumber (chars : List Char) : Bool := match chars with
    | '-' :: digits | '+' :: digits | digits => digits ≠ [] && digits.all Char.isDigit
  let args := match args with
    | first :: rest =>
      match first.toList with
      | '-' :: number => if isNumber number then "-n" :: String.ofList number :: rest else args
      | _ => args
    | [] => args
  withOptions me "n:" [("adjustment:", 'n')] false 125 args fun s => do
    match (s.last? 'n').filter fun value => !isNumber value.toList with
    | some value =>
      warn me ("invalid adjustment " ++ quoted value)
      return 125
    | none =>
      if s.operands ≠ [] then becomeProgram me quoted s.operands vars
      else if s.has 'n' then usage me "a command must be given with an adjustment" 125
      else
        print me "0\n"
        return 0

/-- Starts a program whose output waits for more or less company. -/
def stdbuf (me : String) (args : List String) (vars : Variables) : Work Nat :=
  withOptions me "i:o:e:" [("input:", 'i'), ("output:", 'o'), ("error:", 'e')] false 125 args
    fun s => do
      let isMode (value : String) : Bool := value = "L" || (sizeOf? value).isSome
      match s.options.filterMap (·.2) |>.find? fun value => !isMode value with
      | some value =>
        warn me ("invalid mode " ++ quoted value)
        return 125
      | none =>
        if s.operands = [] then usage me "missing operand" 125
        else if s.options = [] then usage me "you must specify a buffering mode option" 125
        else becomeProgram me (fun name => "failed to run command " ++ quoted name) s.operands vars

/-- Starts a program in a session of its own. -/
def setsid (me : String) (args : List String) (vars : Variables) : Work Nat :=
  withOptions me "cfw" [("ctty", 'c'), ("fork", 'f'), ("wait", 'w')] false 1 args fun s => do
    if s.operands = [] then usage me "no command specified" 1
    else
      let go : Work Nat := do
        Work.lead
        becomeProgram me ("failed to execute " ++ ·) s.operands vars
      let self ← Work.identity
      if self.pid = self.group || s.has 'f' then
        let pid ← Work.spawn fun () => go.toProgram
        if s.has 'w' then
          match ← Work.wait (some pid) false with
          | .ended _ ending => return ending.status
          | _ => return 0
        else return 0
      else go

/-! ## Variables -/

/-- Gives a variable a value, in its place if it is there. -/
def assign (vars : Variables) (name value : String) : Variables :=
  if vars.any (·.1 == name) then
    vars.map fun (n, old) => (n, if n == name then value else old)
  else vars ++ [(name, value)]

/-- The variable and the value that a word says, if it says any. -/
def assignment? (word : String) : Option (String × String) :=
  let chars := word.toList
  match chars.dropWhile (· != '=') with
  | _ :: value => some (String.ofList (chars.takeWhile (· != '=')), String.ofList value)
  | [] => none

/-- Changes variables as words say, and gives the words after those. -/
def changeVariables (vars : Variables) : List String → Variables × List String
  | [] => (vars, [])
  | word :: rest =>
    match assignment? word with
    | some (name, value) => changeVariables (assign vars name value) rest
    | none => (vars, word :: rest)

/-- Cuts a text into words at its blanks. -/
def wordsOf (text : String) : List String :=
  (text.splitToList fun c => c = ' ' || ('\t' ≤ c && c ≤ '\r')).filter (· != "")

/-- The words of a program, where a text that is to be cut into words is cut. -/
def withSplitWords : List String → List String
  | "-S" :: text :: rest => wordsOf text ++ rest
  | first :: rest =>
    match "-S".toList.isPrefixOf? first.toList, "--split-string=".toList.isPrefixOf? first.toList with
    | some text, _ | _, some text => wordsOf (String.ofList text) ++ rest
    | none, none => first :: rest
  | [] => []

/-- Variables and their values, one a line. -/
def variablesText (lineEnd : String) (vars : Variables) : String :=
  String.join (vars.map fun (name, value) => name ++ "=" ++ value ++ lineEnd)

/-- Shows variables, or starts a program with other ones. -/
def env (me : String) (args : List String) (vars : Variables) : Work Nat :=
  let names := [("ignore-environment", 'i'), ("null", '0'), ("unset:", 'u'), ("chdir:", 'C'),
    ("split-string:", 'S'), ("debug", 'v')]
  withOptions me "C:iS:u:v0" names false 125 (withSplitWords args) fun s => do
    let fail (message : String) : Work Nat := do
      warn me message
      return 125
    let (isBare, words) := match s.operands with
      | "-" :: rest => (true, rest)
      | words => (s.has 'i', words)
    match (s.all 'u').find? fun name => name = "" || name.contains '=' with
    | some name => fail ("cannot unset " ++ quoted name ++ ": " ++ Fault.invalid.text)
    | none =>
      let kept := if isBare then [] else vars.filter fun (name, _) => !(s.all 'u').contains name
      let (vars, argv) := changeVariables kept words
      let folder := s.last? 'C'
      if argv = [] then
        if folder.isSome then usage me "must specify command with --chdir (-C)" 125
        else
          print me (variablesText (if s.has '0' then "\x00" else "\n") vars)
          return 0
      else if s.has '0' then usage me "cannot specify --null (-0) with command" 125
      else
        let moved ← match folder with
          | none => pure none
          | some path => Work.enter path
        match moved, folder with
        | some fault, some path =>
          fail ("cannot change directory to " ++ shellQuoted path ++ ": " ++ fault.text)
        | _, _ =>
          let status ← becomeProgram me quoted argv vars
          if status = 127 && (argv.headD "").contains ' ' then
            warn me "use -[v]S to pass options in shebang lines"
          return status

/-- Shows the values of variables. -/
def printenv (me : String) (args : List String) (vars : Variables) : Work Nat :=
  withOptions me "0" [("null", '0')] false 2 args fun s => do
    let lineEnd := if s.has '0' then "\x00" else "\n"
    if s.operands = [] then
      print me (variablesText lineEnd vars)
      return 0
    else
      let values := s.operands.map fun name => vars.lookup name
      print me (String.join ((values.filterMap id).map (· ++ lineEnd)))
      return if values.all (·.isSome) then 0 else 1

/-! ## Signals -/

/-- The signal that a word names: its number, or its name in letters of any size. -/
def signalNumber? (word : String) : Option Nat :=
  match word.toNat? with
  | some n => if n ≤ Signal.last then some n else none
  | none =>
    let upper := word.map Char.toUpper
    let bare := if upper.startsWith "SIG" then String.ofList (upper.toList.drop 3) else upper
    (Signal.ofName? bare).map (·.number)

/-- Sends signals. -/
def kill (me : String) (args : List String) : Work Nat := do
  let (number?, targets) := match args with
    | "-s" :: name :: rest => (signalNumber? name, rest)
    | "--" :: rest => (some 15, rest)
    | first :: rest =>
      match first.toList with
      | '-' :: name => (signalNumber? (String.ofList name), rest)
      | _ => (some 15, args)
    | [] => (some 15, [])
  let targets := targets.filter (· != "--")
  match number? with
  | none =>
    warn me "unknown signal"
    return 1
  | some number =>
    let rec sendAll (status : Nat) : List String → Work Nat
      | [] => return status
      | target :: rest => do
        match target.toInt? with
        | none =>
          warn me ("failed to parse argument: " ++ quoted target)
          sendAll 1 rest
        | some pid =>
          match ← Work.send pid number with
          | none => sendAll status rest
          | some fault =>
            warn me ("(" ++ target ++ "): " ++ fault.text)
            sendAll 1 rest
    if targets = [] then usage me "not enough arguments" 1 else sendAll 0 targets

end PauseWatch.Tool
