import PauseWatch.Jvm.Mode
import PauseWatch.Jvm.Options

/-!
# The answer of a Java virtual machine to an explicit collection request

The simulated machine refuses to start when the experimental collector is asked for without an
unlocking option before it, or when there is no class to run. Otherwise it logs which collector it
uses, what an explicit request makes that collector do, and that it exits.
-/

namespace PauseWatch.Jvm

/-- The lines that a run writes, and how it exits. -/
structure Simulation where
  /-- The lines on the standard output. -/
  stdout : List String := []
  /-- The lines on the standard error. -/
  stderr : List String := []
  /-- The exit code. -/
  exitCode : Nat := 0
  deriving DecidableEq, Repr, Inhabited

/-- Why a machine does not start. -/
inductive Refusal where
  /-- The experimental collector is asked for and experimental options are never unlocked. -/
  | locked
  /-- The experimental collector is asked for before experimental options are unlocked. -/
  | unlockedTooLate
  /-- There is no class to run. -/
  | noEntryPoint
  deriving DecidableEq, Repr

/-- The lines that a refusal writes. -/
def Refusal.message : Refusal → List String
  | .locked =>
    ["Error: VM option 'UseShenandoahGC' is experimental and must be enabled via " ++
        "-XX:+UnlockExperimentalVMOptions.",
      "Error: Could not create the Java Virtual Machine.",
      "Error: A fatal exception has occurred. Program will exit."]
  | .unlockedTooLate =>
    ["Error: VM option 'UseShenandoahGC' is experimental and must be enabled via " ++
        "-XX:+UnlockExperimentalVMOptions.",
      "Error: The unlock option must precede 'UseShenandoahGC'.",
      "Error: Could not create the Java Virtual Machine.",
      "Error: A fatal exception has occurred. Program will exit."]
  | .noEntryPoint => ["Usage: java [options] <mainclass> [args...]"]

/-- Whether the experimental collector is in effect. -/
def Options.usesShenandoah (o : Options) : Bool := o.isOn "UseShenandoahGC"

/-- Whether the first request for the experimental collector stands before the given place among
the settings. -/
def Options.asksBefore (o : Options) (place : Nat) : Bool :=
  match o.firstOn? "UseShenandoahGC" with
  | none => true
  | some asked => asked < place

/-- Why a machine with these options does not start, if it does not. -/
def Options.refusal? (o : Options) : Option Refusal :=
  if o.usesShenandoah then
    match o.firstOn? "UnlockExperimentalVMOptions" with
    | none => some .locked
    | some unlocked =>
      if o.asksBefore unlocked then some .unlockedTooLate
      else if o.entryPoint.isNone then some .noEntryPoint else none
  else if o.entryPoint.isNone then some .noEntryPoint else none

/-- What an explicit request makes a collector do. -/
inductive Collection where
  /-- The request is ignored. -/
  | ignored
  /-- Shenandoah collects while the program runs. -/
  | shenandoahConcurrent
  /-- Shenandoah stops the program for the whole collection. -/
  | shenandoahFull
  /-- G1 collects while the program runs. -/
  | g1Concurrent
  /-- G1 stops the program for the whole collection. -/
  | g1Full
  deriving DecidableEq, Repr

/-- What an explicit request makes the chosen collector do: Shenandoah collects concurrently
unless told otherwise, and G1 only if told so. -/
def Options.collection (o : Options) : Collection :=
  if o.isOn "DisableExplicitGC" then .ignored
  else
    match o.usesShenandoah, (o.setting? "ExplicitGCInvokesConcurrent").getD o.usesShenandoah with
    | true, true => .shenandoahConcurrent
    | true, false => .shenandoahFull
    | false, true => .g1Concurrent
    | false, false => .g1Full

/-- The messages that a collection logs with a heap of the given size. -/
def Collection.messages (heap : String) : Collection → List String
  | .ignored => []
  | .shenandoahConcurrent =>
    ["Trigger: Explicit GC request (System.gc())",
      "GC(0) Pause Init Mark 0.214ms",
      "GC(0) Concurrent marking 2M->2M(8M) 1.032ms",
      "GC(0) Pause Final Mark 0.187ms",
      "GC(0) Concurrent cleanup 2M->1M(8M) 0.011ms",
      "GC(0) Concurrent evacuation 1M->1M(8M) 0.204ms",
      "GC(0) Pause Init Update Refs 0.019ms",
      "GC(0) Concurrent update references 1M->1M(8M) 0.312ms",
      "GC(0) Pause Final Update Refs 0.045ms",
      "GC(0) Concurrent cleanup 1M->1M(8M) 0.006ms"]
  | .shenandoahFull => ["GC(0) Pause Full (System.gc()) 2M->1M(" ++ heap ++ ") 4.871ms"]
  | .g1Concurrent =>
    ["GC(0) Pause Young (Concurrent Start) (System.gc()) 2M->1M(8M) 1.204ms",
      "GC(1) Concurrent Mark Cycle",
      "GC(1) Concurrent Mark Cycle 2.118ms"]
  | .g1Full => ["GC(0) Pause Full (System.gc()) 2M->1M(" ++ heap ++ ") 5.302ms"]

/-- The messages that are logged after the program has asked for a collection or not. -/
def Options.laterMessages (o : Options) (mode : Mode) : List String :=
  (match mode with
    | .idle => []
    | .requestCollection => o.collection.messages o.heapLabel)
    ++ ["Heap: " ++ o.heapLabel ++ " reserved, exiting"]

/-- The message about the collector in use. -/
def Options.collectorMessage (o : Options) : String :=
  if o.usesShenandoah then "Using Shenandoah" else "Using G1"

/-- A number of milliseconds below a thousand, in three digits. -/
def threeDigits (n : Nat) : String :=
  String.ofList [Nat.digitChar (n / 100), Nat.digitChar (n / 10 % 10), Nat.digitChar (n % 10)]

/-- A log line at an uptime in milliseconds. -/
def logLine (uptime : Nat) (message : String) : String :=
  "[" ++ toString (uptime / 1000) ++ "." ++ threeDigits (uptime % 1000) ++ "s][info][gc] " ++
    message

/-- Log lines, each three milliseconds after the line before. -/
def logLinesFrom (uptime : Nat) : List String → List String
  | [] => []
  | message :: rest => logLine (uptime + 3) message :: logLinesFrom (uptime + 3) rest

/-- The line that the probe writes before it asks for a collection. -/
def requestLine : Mode → List String
  | .idle => []
  | .requestCollection => ["Calling System.gc()"]

/-- The lines of a run that starts: the log of a collection follows the line of the program that
asked for it. -/
def Options.runLines (o : Options) (mode : Mode) : List String :=
  if o.gcLog then
    logLine 3 o.collectorMessage :: requestLine mode ++ logLinesFrom 3 (o.laterMessages mode)
  else requestLine mode

/-- A run of the probe in a given mode. -/
def simulate (o : Options) (mode : Mode) : Simulation :=
  match o.refusal? with
  | some refusal => { stderr := refusal.message, exitCode := 1 }
  | none => { stdout := o.runLines mode }

/-- The run that a command line asks for. -/
def simulateArgs (args : List String) : Simulation :=
  let o := Options.read args
  simulate o (Mode.ofArgs o.programArgs)

/-- Lines as the text that is written for them. -/
def linesText (lines : List String) : String := String.join (lines.map (· ++ "\n"))

end PauseWatch.Jvm
