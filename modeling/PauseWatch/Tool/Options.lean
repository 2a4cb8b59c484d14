import PauseWatch.Text.Search
import PauseWatch.Text.Split

/-!
# Options

The words of a program are options and operands. An option is a letter after a hyphen, where several
letters can share a hyphen, or a name after two hyphens, which can be cut short as long as it is
clear. What an option takes is the rest of its word or the next word. A word of two hyphens ends the
options.
-/

namespace PauseWatch.Tool

/-- What an option takes. -/
inductive Demand where
  /-- Nothing. -/
  | nothing
  /-- A text. -/
  | text
  /-- A text in the same word, or nothing. -/
  | maybe
  deriving DecidableEq, Repr

/-- The options that a program knows: letters and names, each with what it takes, and the names with
the keys by which the program tells options from each other; the key of a letter is the letter. -/
structure OptionTable where
  /-- The letters. -/
  letters : List (Char × Demand)
  /-- The names. -/
  names : List (String × Char × Demand)
  deriving Repr

/-- What is wrong with the words of a program. -/
inductive OptionFault where
  /-- There is no such letter. -/
  | unknownLetter (letter : Char)
  /-- There is no such name. -/
  | unknownName (word : String)
  /-- The name is the start of several. -/
  | unclear (word : String) (names : List String)
  /-- The letter needs a text. -/
  | letterNeeds (letter : Char)
  /-- The name needs a text. -/
  | nameNeeds (name : String)
  /-- The name takes no text. -/
  | nameRefuses (name : String)
  deriving DecidableEq, Repr

/-- How a fault is told. -/
def OptionFault.message : OptionFault → String
  | .unknownLetter letter => "invalid option -- '" ++ String.singleton letter ++ "'"
  | .unknownName word => "unrecognized option '" ++ word ++ "'"
  | .unclear word names => "option '" ++ word ++ "' is ambiguous; possibilities:" ++
    String.join (names.map fun name => " '--" ++ name ++ "'")
  | .letterNeeds letter =>
    "option requires an argument -- '" ++ String.singleton letter ++ "'"
  | .nameNeeds name => "option '--" ++ name ++ "' requires an argument"
  | .nameRefuses name => "option '--" ++ name ++ "' doesn't allow an argument"

/-- The words of a program, taken apart. -/
structure Selection where
  /-- The options that were given, in order, and what they took. -/
  options : List (Char × Option String)
  /-- The words that are no options. -/
  operands : List String
  deriving Repr

namespace Selection

/-- Whether an option was given. -/
def has (s : Selection) (key : Char) : Bool := s.options.any (·.1 == key)

/-- What an option took when it was given last. -/
def last? (s : Selection) (key : Char) : Option String :=
  ((s.options.filter (·.1 == key)).getLast?).bind (·.2)

/-- What an option took every time it was given. -/
def all (s : Selection) (key : Char) : List String :=
  s.options.filterMap fun (k, value) => if k == key then value else none

/-- Which of several options was given last. -/
def lastOf (s : Selection) (keys : List Char) : Option Char :=
  ((s.options.map (·.1)).filter keys.contains).getLast?

end Selection

/-- What letters take, where one colon says that the letter before it takes a text, and two that it
may take one. -/
def letterDemands : List Char → List (Char × Demand)
  | [] => []
  | c :: ':' :: ':' :: rest => (c, .maybe) :: letterDemands rest
  | c :: ':' :: rest => (c, .text) :: letterDemands rest
  | c :: rest => (c, .nothing) :: letterDemands rest

/-- A name and what it takes, which is written after it in the same way. -/
def nameDemand (name : String) : String × Demand :=
  let bare := String.ofList (name.toList.takeWhile (· != ':'))
  (bare, if name = bare then .nothing else if name = bare ++ ":" then .text else .maybe)

/-- The options with some letters and names. -/
def OptionTable.of (letters : String) (names : List (String × Char)) : OptionTable where
  letters := letterDemands letters.toList
  names := names.map fun (name, key) => ((nameDemand name).1, key, (nameDemand name).2)

/-- The options whose names start with some text; a whole name counts alone. -/
def OptionTable.named (table : OptionTable) (start : String) : List (String × Char × Demand) :=
  match table.names.find? (·.1 == start) with
  | some found => [found]
  | none => table.names.filter fun (name, _) => Text.startsWith start name

/-- The options that stand behind one hyphen, given the words that follow; and the words that are
left of them. -/
def readLetters (table : OptionTable) :
    List Char → List String → Except OptionFault (List (Char × Option String) × List String)
  | [], words => .ok ([], words)
  | c :: rest, words =>
    match table.letters.lookup c with
    | none => .error (.unknownLetter c)
    | some .nothing => do
      let (options, words) ← readLetters table rest words
      return ((c, none) :: options, words)
    | some .maybe => .ok ([(c, if rest = [] then none else some (String.ofList rest))], words)
    | some .text =>
      if rest ≠ [] then .ok ([(c, some (String.ofList rest))], words)
      else match words with
        | value :: words => .ok ([(c, some value)], words)
        | [] => .error (.letterNeeds c)

/-- The option that stands behind two hyphens, given the words that follow; and the words that are
left of them. -/
def readName (table : OptionTable) (body : List Char) (words : List String) :
    Except OptionFault ((Char × Option String) × List String) :=
  let start := String.ofList (body.takeWhile (· != '='))
  let value : Option String := match body.dropWhile (· != '=') with
    | [] => none
    | _ :: value => some (String.ofList value)
  let found := table.named start
  match found with
  | [] => .error (.unknownName ("--" ++ String.ofList body))
  | (name, key, demand) :: others =>
    if others.any fun (_, other, _) => other != key then
      .error (.unclear ("--" ++ String.ofList body) (found.map (·.1)))
    else match demand, value, words with
      | .nothing, some _, _ => .error (.nameRefuses name)
      | .text, none, value :: words => .ok ((key, some value), words)
      | .text, none, [] => .error (.nameNeeds name)
      | _, value, words => .ok ((key, value), words)

/-- Reads words, at most as many as the number says. -/
def readWords (table : OptionTable) (goesOn : Bool) :
    Nat → List String → Except OptionFault Selection
  | 0, words => .ok ⟨[], words⟩
  | _ + 1, [] => .ok ⟨[], []⟩
  | _ + 1, "--" :: words => .ok ⟨[], words⟩
  | fuel + 1, word :: words =>
    match word.toList with
    | '-' :: '-' :: body => do
      let (option, words) ← readName table body words
      let s ← readWords table goesOn fuel words
      return { s with options := option :: s.options }
    | '-' :: c :: letters => do
      let (options, words) ← readLetters table (c :: letters) words
      let s ← readWords table goesOn fuel words
      return { s with options := options ++ s.options }
    | _ =>
      if goesOn then do
        let s ← readWords table goesOn fuel words
        return { s with operands := word :: s.operands }
      else .ok ⟨[], word :: words⟩

/-- Takes the words of a program apart. Options stand before all operands, unless a program takes
them between operands too. -/
def selectOptions (letters : String) (names : List (String × Char)) (goesOn : Bool)
    (words : List String) : Except OptionFault Selection :=
  readWords (.of letters names) goesOn words.length words

end PauseWatch.Tool
