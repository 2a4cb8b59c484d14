import PauseWatch.Host.Basic
import PauseWatch.Host.SearchPath

/-!
# Loading programs

A file is started as a program if it may be: a program that the host brings along, or a script whose
first line names the program to read it. A name without a slash is looked up in the directories of a
search path.
-/

namespace PauseWatch.Host

/-- The bytes from which on an argument is too long. -/
def wordLimit : Nat := 131072

/-- The bytes that all arguments and variables may take. -/
def wordsLimit : Nat := 2097152

/-- Whether arguments and variables can be handed to a program. -/
def wordsFit (argv : List String) (vars : Variables) : Bool :=
  let words := argv ++ vars.map fun (name, value) => name ++ "=" ++ value
  words.all (·.length < wordLimit)
    && words.foldl (fun n word => n + word.length + 9) 0 ≤ wordsLimit

/-- The most characters of a first line that count. -/
def firstLineLimit : Nat := 255

/-- The program that the first line of a script names, and its argument, if it has one. -/
def interpreter? (bytes : List UInt8) : Option (String × Option String) :=
  let isBlank (c : Char) : Bool := c == ' ' || c == '\t'
  match (bytes.take firstLineLimit).map fun b => Char.ofNat b.toNat with
  | '#' :: '!' :: line =>
    let line := (line.takeWhile (· != '\n')).dropWhile isBlank
    let line := (line.reverse.dropWhile isBlank).reverse
    match line.takeWhile (fun c => !isBlank c), (line.dropWhile (fun c => !isBlank c)) with
    | [], _ => none
    | name, [] => some (String.ofList name, none)
    | name, rest => some (String.ofList name, some (String.ofList (rest.dropWhile isBlank)))
  | _ => none

/-- The name of the program that the host brings along for a file, and the words it is started with.
A script hands on its own path before the other words. -/
def load (files : Files) (here : Place) : Nat → String → List String →
    Except Fault (String × List String)
  | 0, _, _ => .error .manyLinks
  | depth + 1, path, argv => do
    let (_, item) ← files.find? here path
    match item with
    | .tool name => .ok (name, argv)
    | .file bytes true =>
      match interpreter? bytes with
      | none => .error .noProgram
      | some (program, arg) =>
        load files here depth program (program :: arg.toList ++ path :: argv.tail)
    | _ => .error .denied

/-- How many scripts may stand behind each other. -/
def scriptDepth : Nat := 5

/-- Tries paths in order. A path that leads nowhere is passed over; a missing permission counts only
if nothing better is found. -/
def firstLoaded (load : String → Except Fault (String × List String)) (denied : Bool) :
    List String → Except Fault (String × List String)
  | [] => .error (if denied then .denied else .missing)
  | path :: rest =>
    match load path with
    | .ok found => .ok found
    | .error .missing | .error .notFolder => firstLoaded load denied rest
    | .error .denied => firstLoaded load true rest
    | .error fault => .error fault

/-- Finds and loads a program by name or path. -/
def lookUp (files : Files) (here : Place) (vars : Variables) (argv : List String) :
    Except Fault (String × List String) :=
  match argv with
  | [] | "" :: _ => .error .missing
  | program :: _ =>
    let attempt (path : String) := load files here scriptDepth path argv
    if program.contains '/' then attempt program
    else firstLoaded attempt false (candidates (some ((vars.lookup "PATH").getD usualPath)) program)

end PauseWatch.Host
