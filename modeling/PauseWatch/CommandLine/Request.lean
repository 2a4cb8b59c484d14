import PauseWatch.CommandLine.Words

/-!
# What is asked for

A command line asks for the version, for a run of scenarios, or for a list of them. Everything else
is refused.
-/

namespace PauseWatch.CommandLine

/-- How scenarios are to be run. -/
structure RunRequest where
  /-- The configuration file. -/
  config : Option String := none
  /-- The launcher instead of the configured one. -/
  java : Option String := none
  /-- The class path instead of the configured one. -/
  classpath : Option String := none
  /-- The seconds instead of the configured ones. -/
  timeout : Option UInt64 := none
  /-- The names of the scenarios to run; without names all are run. -/
  scenarios : List String := []
  /-- Whether the report is shown as data. -/
  json : Bool := false
  /-- Whether command lines are shown in full. -/
  raw : Bool := false
  deriving DecidableEq, Repr

/-- What a command line asks for. -/
inductive Request where
  /-- The version. -/
  | version
  /-- A run of scenarios. -/
  | run (request : RunRequest)
  /-- A list of scenarios. -/
  | list (config : Option String)
  deriving DecidableEq, Repr

/-- The option that is allowed everywhere, and more than once. -/
def verbose : Flag := { long := "verbose", letter := some 'v' }

/-- The options in front of a command. -/
def topFlags : List Flag := [verbose, { long := "version", letter := some 'V' }]

/-- The option for the configuration file. -/
def configFlag : Flag := { long := "config", letter := some 'c', hasValue := true }

/-- The options of a run. -/
def runFlags : List Flag :=
  [verbose, configFlag, { long := "java", hasValue := true },
    { long := "classpath", hasValue := true },
    { long := "timeout", letter := some 't', hasValue := true },
    { long := "scenario", letter := some 's', hasValue := true }, { long := "json" },
    { long := "raw" }]

/-- The options of a list. -/
def listFlags : List Flag := [verbose, configFlag]

/-- The options that may be given more than once. -/
def repeatable : List String := ["verbose", "scenario"]

/-- A number of seconds: digits, perhaps behind a plus, that stay below the limit of the word. -/
def secondsOf? (text : String) : Option UInt64 :=
  let digits := match text.toList with
    | '+' :: digits => digits
    | digits => digits
  if digits ≠ [] && digits.all Char.isDigit then
    let n := digits.foldl (fun n c => n * 10 + (c.toNat - '0'.toNat)) 0
    if n < UInt64.size then some (UInt64.ofNat n) else none
  else none

/-- The options of a command, none of them given too often, with no words behind them. -/
def commandOptions (flags : List Flag) (words : List String) : Option (List Given) :=
  match options flags words with
  | some (given, []) =>
    if flags.all fun f => repeatable.contains f.long || timesGiven f.long given ≤ 1 then some given
    else none
  | _ => none

/-- The configuration file among options, whose name must not be empty. -/
def configOf (given : List Given) : Option (Option String) :=
  match (valuesOf "config" given).head? with
  | some "" => none
  | path => some path

/-- The run that options ask for. -/
def runOf (given : List Given) : Option RunRequest := do
  let timeout ← match (valuesOf "timeout" given).head? with
    | none => some none
    | some text => (secondsOf? text).map some
  some {
    config := ← configOf given
    java := (valuesOf "java" given).head?
    classpath := (valuesOf "classpath" given).head?
    timeout
    scenarios := valuesOf "scenario" given
    json := timesGiven "json" given ≠ 0
    raw := timesGiven "raw" given ≠ 0 }

/-- Whether the options before the first wrong one ask for the version. -/
def asksVersion : List String → Bool
  | [] => false
  | word :: rest =>
    match word.toList with
    | '-' :: '-' :: name =>
      if String.ofList name = "version" then true
      else if String.ofList name = "verbose" then asksVersion rest
      else false
    | '-' :: letters => if letters = [] then false
      else match letters.dropWhile (· == 'v') with
        | 'V' :: _ => true
        | [] => asksVersion rest
        | _ => false
    | _ => false

/-- What a command line asks for, if it makes sense. -/
def Request.ofWords? (words : List String) : Option Request :=
  if asksVersion words then some .version
  else match options topFlags words with
    | some (_, "run" :: rest) => do some (.run (← runOf (← commandOptions runFlags rest)))
    | some (_, "list" :: rest) => do some (.list (← configOf (← commandOptions listFlags rest)))
    | _ => none

end PauseWatch.CommandLine
