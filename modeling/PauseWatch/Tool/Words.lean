import PauseWatch.Tool.Format
import PauseWatch.Tool.Stream
import PauseWatch.Tool.Verdict

/-!
# Programs about their own words

Programs that write their words, test them, compute with them, or take them apart.
-/

namespace PauseWatch.Tool

open Host (Fault Work)

/-- Writes its words; escapes have a meaning only if that is asked for. -/
def echo (me : String) (args : List String) : Work Nat := do
  let isOption (a : String) : Bool :=
    a.length != 1 && a.startsWith "-" && (a.toList.drop 1).all fun c => c ∈ ['n', 'e', 'E']
  let flags := (args.takeWhile isOption).flatMap (·.toList)
  let text := " ".intercalate (args.dropWhile isOption)
  let decides := flags.filter fun c => c = 'e' || c = 'E'
  if decides.getLast? = some 'e' then print me (echoText .rich text (!flags.contains 'n'))
  else print me (text ++ if flags.contains 'n' then "" else "\n")
  return 0

/-- What is said about an argument of a format, and whether that is more than a warning. -/
def strangenessText (arg : String) : Strangeness → String × Bool
  | .noNumber => (quoted arg ++ ": expected a numeric value", true)
  | .excess => (quoted arg ++ ": value not completely converted", true)
  | .tooLarge => (quoted arg ++ ": " ++ Fault.tooLarge.text, true)
  | .moreThanOne rest =>
    ("warning: " ++ rest ++ ": character(s) following character constant have been ignored", false)

/-- Writes the pieces of a filled format in order; what waits is written before anything is said.
What is left waiting is given back with the status. -/
def putPieces (me : String) : Nat → List Char → List Piece → Work (Nat × List Char)
  | status, waiting, [] => return (status, waiting)
  | status, waiting, .text chars :: rest => putPieces me status (waiting ++ chars) rest
  | status, waiting, .strange arg strangeness :: rest => do
    unless waiting = [] do print me (String.ofList waiting)
    let (text, isFailure) := strangenessText arg strangeness
    warn me text
    putPieces me (if isFailure then 1 else status) [] rest

/-- What is said about a format that is not filled to its end, if that is a failure. -/
def haltText? : Halt → Option String
  | .cut => none
  | .unknown directive | .unfinished directive =>
    some (directive ++ ": invalid conversion specification")
  | .tooLong => some "write error"
  | .noDigits => some "missing hexadecimal number in escape"
  | .noCharacter text => some ("invalid universal character name " ++ text)

/-- Writes a filled format. -/
def printf (me : String) (args : List String) : Work Nat := do
  let args := if args.head? = some "--" then args.tail else args
  match args with
  | [] => usage me "missing operand" 1
  | format :: args =>
    let filled := fill .rich format args
    let (status, waiting) ← putPieces me 0 [] filled.pieces.reverse
    unless waiting = [] do print me (String.ofList waiting)
    match filled.halt with
    | some halt =>
      match haltText? halt with
      | some text =>
        warn me text
        return 1
      | none => return status
    | none =>
      match filled.args with
      | extra :: _ =>
        warn me ("warning: ignoring excess arguments, starting with " ++ quoted extra)
      | [] => pure ()
      return status

/-- Evaluates a condition. -/
def test (name : String) (args : List String) : Work Nat := do
  match ← verdict args with
  | .ok b => return if b then 0 else 1
  | .error message =>
    warn name message
    return 2

/-- Evaluates a condition that ends with a bracket. -/
def bracket (me : String) (args : List String) : Work Nat := do
  if args.getLast? = some "]" then test me args.dropLast
  else
    warn me "missing ']'"
    return 2

/-- A path without the slashes at its end, of which one stays if there is nothing else. -/
def withoutSlashes (path : List Char) : List Char :=
  let bare := (path.reverse.dropWhile (· = '/')).reverse
  if bare = [] then path.take 1 else bare

/-- The last name of a path. -/
def lastName (path : List Char) : List Char :=
  let bare := withoutSlashes path
  if bare = ['/'] then bare else (bare.reverse.takeWhile (· != '/')).reverse

/-- Leaves out an ending, if something else stands before it. -/
def withoutEnding (ending name : List Char) : List Char :=
  if ending.length < name.length && ending.isSuffixOf name then
    name.take (name.length - ending.length)
  else name

/-- The part of a path before its last name. -/
def parent (path : List Char) : List Char :=
  let bare := withoutSlashes path
  let lead := (bare.reverse.dropWhile (· != '/')).reverse
  if lead = [] then ['.'] else withoutSlashes lead

/-- The last names of paths. -/
def basename (me : String) (args : List String) : Work Nat :=
  withOptions me "as:z" [("multiple", 'a'), ("suffix:", 's'), ("zero", 'z')] false 1 args fun s => do
    let isMany := s.has 'a' || s.has 's'
    let lineEnd := if s.has 'z' then "\x00" else "\n"
    let show_ (ending : String) (path : String) : String :=
      String.ofList (withoutEnding ending.toList (lastName path.toList)) ++ lineEnd
    match s.operands with
    | [] => usage me "missing operand" 1
    | paths@(path :: more) =>
      if isMany then
        print me (String.join (paths.map (show_ ((s.last? 's').getD ""))))
        return 0
      else match more with
        | _ :: extra :: _ => usage me ("extra operand " ++ quoted extra) 1
        | _ =>
          print me (show_ (more.headD "") path)
          return 0

/-- The parts of paths before their last names. -/
def dirname (me : String) (args : List String) : Work Nat :=
  withOptions me "z" [("zero", 'z')] false 1 args fun s => do
    let lineEnd := if s.has 'z' then "\x00" else "\n"
    if s.operands = [] then usage me "missing operand" 1
    else
      let show_ (path : String) : String := String.ofList (parent path.toList) ++ lineEnd
      print me (String.join (s.operands.map show_))
      return 0

end PauseWatch.Tool
