import PauseWatch.Text.Search

/-!
# Options on a command line

An option has a long name, perhaps a letter, and perhaps a value. The value of a long option stands
behind an equals sign or in the next word, the value of a letter right behind it, with or without an
equals sign, or in the next word. A value in a word of its own does not start with a hyphen, unless
it is nothing but one.
-/

namespace PauseWatch.CommandLine

/-- An option that a command has. -/
structure Flag where
  /-- The name behind two hyphens. -/
  long : String
  /-- The letter behind one hyphen. -/
  letter : Option Char := none
  /-- Whether a value belongs to it. -/
  hasValue : Bool := false
  deriving DecidableEq, Repr

/-- An option that was given. -/
structure Given where
  /-- Its long name. -/
  name : String
  /-- Its value, if it has one. -/
  value : Option String := none
  deriving DecidableEq, Repr

/-- Whether a word can be a value by itself. -/
def isValueWord (word : String) : Bool := word = "-" || !Text.startsWith "-" word

/-- The options behind one hyphen; the last one may have to take its value from the next word, in
which case it is given apart. -/
def letters (flags : List Flag) : List Char → Option (List Given × Option String)
  | [] => some ([], none)
  | c :: rest =>
    match flags.find? (·.letter == some c) with
    | none => none
    | some flag =>
      if !flag.hasValue then
        (letters flags rest).map fun (given, pending) => (⟨flag.long, none⟩ :: given, pending)
      else match rest with
        | [] => some ([], some flag.long)
        | '=' :: value => some ([⟨flag.long, some (String.ofList value)⟩], none)
        | value => some ([⟨flag.long, some (String.ofList value)⟩], none)

/-- The option behind two hyphens, in the same form. -/
def longName (flags : List Flag) (text : List Char) : Option (List Given × Option String) :=
  let name := String.ofList (text.takeWhile (· != '='))
  match flags.find? (·.long == name), text.dropWhile (· != '=') with
  | none, _ => none
  | some flag, _ :: value =>
    if flag.hasValue then some ([⟨name, some (String.ofList value)⟩], none) else none
  | some flag, [] =>
    if flag.hasValue then some ([], some name) else some ([⟨name, none⟩], none)

/-- The options in a word that starts with a hyphen. -/
def optionWord (flags : List Flag) (word : String) : Option (List Given × Option String) :=
  match word.toList with
  | '-' :: '-' :: text => longName flags text
  | '-' :: text => letters flags text
  | _ => none

/-- The options in front of the first word that is none, and the words from there on. Two hyphens
alone end the options and leave the words behind them, which nothing may follow. -/
def options (flags : List Flag) : List String → Option (List Given × List String)
  | [] => some ([], [])
  | word :: rest =>
    if isValueWord word then some ([], word :: rest)
    else if word = "--" then if rest = [] then some ([], []) else none
    else match optionWord flags word, rest with
      | none, _ => none
      | some (given, none), rest =>
        (options flags rest).map fun (more, left) => (given ++ more, left)
      | some (_, some _), [] => none
      | some (given, some name), value :: rest =>
        if isValueWord value then
          (options flags rest).map fun (more, left) =>
            (given ++ ⟨name, some value⟩ :: more, left)
        else none

/-- How often an option was given. -/
def timesGiven (name : String) (given : List Given) : Nat := given.countP (·.name == name)

/-- The values that an option was given. -/
def valuesOf (name : String) (given : List Given) : List String :=
  given.filterMap fun g => if g.name = name then g.value else none

end PauseWatch.CommandLine
