import PauseWatch.Jvm.LogSelection
import PauseWatch.Text.Search
import PauseWatch.Text.Uppercase

/-!
# Options of a Java virtual machine

The words after the launcher are options until the first word without a leading dash, which names
the entry point; everything after it belongs to the program. A class-path option takes the next
word, whatever it looks like. Options that have no bearing on collections are passed over.
-/

namespace PauseWatch.Jvm

/-- One setting of a switch. -/
structure Setting where
  /-- The name of the switch. -/
  name : String
  /-- Whether the switch is turned on. -/
  on : Bool
  deriving DecidableEq, Repr

/-- What a command line says to a Java virtual machine. -/
structure Options where
  /-- The settings of switches, in order. -/
  settings : List Setting := []
  /-- The size of the heap, as written. -/
  maxHeap : Option String := none
  /-- Whether the collector's log is on. -/
  gcLog : Bool := false
  /-- The class path. -/
  classpath : Option String := none
  /-- The class to run. -/
  entryPoint : Option String := none
  /-- The arguments of the program. -/
  programArgs : List String := []
  deriving DecidableEq, Repr, Inhabited

/-- Whether a word is an option and not an entry point. -/
def isOption (word : String) : Bool := Text.startsWith "-" word

/-- Whether an option takes the next word as the class path. -/
def takesClasspath (word : String) : Bool :=
  word == "-cp" || word == "-classpath" || word == "--class-path"

namespace Options

/-- Takes one option into account that stands for itself. -/
def withOption (o : Options) (word : String) : Options :=
  match Text.after? "-XX:+" word with
  | some name => { o with settings := o.settings ++ [⟨name, true⟩] }
  | none =>
    match Text.after? "-XX:-" word with
    | some name => { o with settings := o.settings ++ [⟨name, false⟩] }
    | none =>
      match Text.after? "-Xmx" word with
      | some size => { o with maxHeap := some size }
      | none =>
        match Text.after? "-Xlog" word with
        | some selection => { o with gcLog := enablesGcLog selection.toList }
        | none => o

/-- Reads the words that remain after those already taken into account. A class-path option that
is the last word leaves no class path. -/
def readFrom (o : Options) : List String → Options
  | [] => o
  | word :: rest =>
    if !isOption word then { o with entryPoint := some word, programArgs := rest }
    else if takesClasspath word then
      match rest with
      | [] => { o with classpath := none }
      | value :: rest => readFrom { o with classpath := some value } rest
    else readFrom (o.withOption word) rest

/-- Reads the words after the launcher. -/
def read (words : List String) : Options := readFrom {} words

/-- How a switch was last set. -/
def setting? (o : Options) (name : String) : Option Bool :=
  (o.settings.reverse.find? (·.name == name)).map (·.on)

/-- Whether a switch was last turned on. -/
def isOn (o : Options) (name : String) : Bool := o.setting? name == some true

/-- Where among the settings a switch is first turned on. -/
def firstOn? (o : Options) (name : String) : Option Nat :=
  o.settings.findIdx? fun s => s.name == name && s.on

/-- The size of the heap as the log shows it. -/
def heapLabel (o : Options) : String := o.maxHeap.elim "256M" Text.upper

end Options

end PauseWatch.Jvm
