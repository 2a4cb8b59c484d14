import PauseWatch.Shell.Arithmetic
import PauseWatch.Shell.Glob
import PauseWatch.Shell.State

/-!
# Expanding words

A word is expanded to marks: characters that remember whether they were quoted and whether they come
from an expansion. The marks are then cut into fields, and a field that is a pattern gives way to
the names that fit it.
-/

namespace PauseWatch.Shell

/-- A character of an expanded word, or what stands between characters. -/
inductive Mark where
  /-- A character that stands in the word as it is. -/
  | plain (c : Char)
  /-- A quoted character. -/
  | quoted (c : Char)
  /-- A character that an expansion has brought. -/
  | loose (c : Char)
  /-- Something quoted, which makes a field even if it is empty. -/
  | keep
  /-- The place between two arguments. -/
  | cut
  deriving DecidableEq, Repr

/-- Where a text stands that is expanded. -/
inductive Place where
  /-- Outside quotes. -/
  | bare
  /-- Between double quotes. -/
  | quotes
  /-- In a supplied text. -/
  | supplied
  deriving DecidableEq, Repr

namespace Mark

/-- The character of a mark, with whether it may mean something in a pattern. -/
def char? : Mark → Option (Char × Bool)
  | .plain c | .loose c => some (c, true)
  | .quoted c => some (c, false)
  | .keep | .cut => none

/-- The text of marks as one field. -/
def text (marks : List Mark) : String :=
  String.ofList (marks.filterMap fun m => match m with
    | .cut => some ' '
    | m => m.char?.map (·.1))

/-- The pattern of marks. -/
def pattern (marks : List Mark) : List Atom :=
  Atom.ofChars (marks.length + 1) (marks.filterMap char?)

/-- The marks of a text that an expansion has brought. -/
def ofValue (at_ : Place) (value : String) : List Mark :=
  value.toList.map (if at_ = .bare then .loose else .quoted)

/-- The marks of arguments, each a field of its own. -/
def ofArguments (at_ : Place) (args : List String) : List Mark :=
  let each := args.map fun a => (if at_ = .bare then [] else [.keep]) ++ ofValue at_ a
  [.cut].intercalate each

/-- The fields found so far while marks are cut. -/
structure Cutting where
  /-- The fields, the last first. -/
  fields : List (List Mark) := []
  /-- The field that was begun, the last mark first. -/
  begun : Option (List Mark) := none
  /-- Whether a field has ended at a blank and no separator has followed yet. -/
  endedAtBlank : Bool := false

/-- The fields after the one that was begun has ended. -/
def Cutting.finish (c : Cutting) : Cutting :=
  match c.begun with
  | some field => { fields := field.reverse :: c.fields }
  | none => c

/-- Adds a mark to the field that was begun. -/
def Cutting.add (c : Cutting) (marks : List Mark) : Cutting :=
  { c with begun := some (marks ++ c.begun.getD []), endedAtBlank := false }

/-- Takes one mark into account. -/
def Cutting.take (separators : List Char) (c : Cutting) (m : Mark) : Cutting :=
  match m with
  | .plain _ | .quoted _ => c.add [m]
  | .keep => c.add []
  | .cut => { c.finish with endedAtBlank := false }
  | .loose d =>
    if !separators.contains d then c.add [m]
    else if d = ' ' ∨ d = '\t' ∨ d = '\n' then
      if c.begun.isSome then { c.finish with endedAtBlank := true } else c
    else if c.begun.isNone && c.endedAtBlank then { c with endedAtBlank := false }
    else { (c.add []).finish with endedAtBlank := false }

/-- Cuts marks into fields. -/
def fields (separators : List Char) (marks : List Mark) : List (List Mark) :=
  (marks.foldl (Cutting.take separators) {}).finish.fields.reverse

end Mark

/-! ## Parameters -/

/-- A parameter expansion between braces. -/
structure Parameter where
  /-- The name of the parameter. -/
  name : String
  /-- Whether the length is asked for. -/
  isLength : Bool := false
  /-- What is done with the value. -/
  operator : String := ""
  /-- The word that it is done with. -/
  word : List Char := []

namespace Parameter

/-- The special parameters that have one character. -/
def specials : List Char := ['@', '*', '#', '?', '-', '$', '!', '0']

/-- Takes the name of a parameter. -/
def nameOf (chars : List Char) : List Char :=
  match chars with
  | [] => []
  | c :: rest =>
    if c.isAlpha || c == '_' then c :: rest.takeWhile fun d => d.isAlphanum || d == '_'
    else if c.isDigit then c :: rest.takeWhile Char.isDigit
    else if specials.contains c then [c]
    else []

/-- The operators, the longer ones before those that they start with. -/
def operators : List String :=
  [":-", ":=", ":?", ":+", "-", "=", "?", "+", "%%", "%", "##", "#"]

/-- Reads what stands between the braces. -/
def ofChars? (chars : List Char) : Option Parameter :=
  let plain? (chars : List Char) : Option Parameter :=
    match nameOf chars with
    | [] => none
    | name =>
      let rest := chars.drop name.length
      if rest = [] then some { name := String.ofList name }
      else (operators.find? fun o => o.toList.isPrefixOf rest).map fun o =>
        { name := String.ofList name, operator := o, word := rest.drop o.length }
  match chars with
  | '#' :: c :: rest =>
    match nameOf (c :: rest) with
    | [] => plain? chars
    | name =>
      if (c :: rest).drop name.length = [] then
        some { name := String.ofList name, isLength := true }
      else plain? chars
  | chars => plain? chars

end Parameter

/-! ## Words -/

/-- Runs a script whose first line has a given number, and brings what it writes. -/
abbrev Substitute := Nat → String → Act String

/-- A text without the ends of lines at its end. -/
def withoutNewlines (text : String) : String :=
  String.ofList ((text.toList.reverse.dropWhile (· == '\n')).reverse)

/-- Removes the backslashes that keep characters from meaning something between backquotes. -/
def unescapeCommand (at_ : Place) : List Char → List Char
  | '\\' :: c :: rest =>
    if c = '$' || c = '\\' || c.toNat = 0x60 || (c = '"' && at_ ≠ .bare) then
      c :: unescapeCommand at_ rest
    else '\\' :: c :: unescapeCommand at_ rest
  | c :: rest => c :: unescapeCommand at_ rest
  | [] => []

/-- The marks of a substituted command. -/
def substituteMarks (run : Substitute) (at_ : Place) (line : Nat) (command : List Char) :
    Act (List Mark) := do
  let text ← run line (String.ofList command)
  return Mark.ofValue at_ (withoutNewlines (String.ofList (text.toList.filter (· != '\x00'))))

/-- What an arithmetic expression has for a problem, in words. -/
def ArithmeticFault.text (e : ArithmeticFault) (expression : String) : String :=
  match e with
  | .malformed expected => "arithmetic expression: " ++ expected ++ ": \"" ++ expression ++ "\""
  | .zeroDivision => "arithmetic expression: division by zero: \"" ++ expression ++ "\""
  | .noNumber text => "Illegal number: " ++ text

/-- The value of an arithmetic expression, whose assignments are made. -/
def evaluate (expression : String) : Act String := do
  let s ← get
  match Expr.evaluate (fun name => (s.parameter? name).getD "") expression with
  | .error e => abandon (e.text expression)
  | .ok (n, assignments) =>
    for (name, n) in assignments do assign name (toString n.toInt)
    return toString n.toInt

/-- The marks of a parameter without any operator. -/
def parameterMarks (at_ : Place) (name : String) : Act (List Mark) := do
  let s ← get
  if name = "@" then return Mark.ofArguments at_ s.args
  else if name = "*" then
    if at_ = .bare then return Mark.ofArguments at_ s.args
    else
      let glue := match s.get? "IFS" with
        | some value => String.ofList (value.toList.take 1)
        | none => " "
      return Mark.ofValue at_ (glue.intercalate s.args)
  else match s.parameter? name with
    | some value => return Mark.ofValue at_ value
    | none =>
      if s.options.needsSet && name != "!" then abandon (name ++ ": parameter not set")
      else return []

/-- The value of a parameter, the arguments being one text. -/
def State.whole? (s : State) (name : String) : Option String :=
  if name = "@" ∨ name = "*" then
    if s.args = [] then none else some (" ".intercalate s.args)
  else s.parameter? name

/-- The marks of a parameter expansion between braces, given how to expand its word. -/
def bracesMarks (expand : Place → List Char → Act (List Mark)) (at_ : Place) (p : Parameter) :
    Act (List Mark) := do
  let s ← get
  let value? := s.whole? p.name
  let loosened (marks : List Mark) : List Mark :=
    if at_ = .bare then marks.map fun m => match m with
      | .plain c => .loose c
      | m => m
    else marks
  let missing := if p.operator.startsWith ":" then value?.all (· == "") else value?.isNone
  let kind := p.operator.toList.getLast?
  if p.isLength then
    if value?.isNone && s.options.needsSet then abandon (p.name ++ ": parameter not set")
    else
      let length := if p.name = "@" ∨ p.name = "*" then s.args.length else (value?.getD "").length
      return Mark.ofValue at_ (toString length)
  else if p.operator = "" then parameterMarks at_ p.name
  else if kind = some '-' then
    if missing then return loosened (← expand at_ p.word) else parameterMarks at_ p.name
  else if kind = some '+' then
    if missing then return [] else return loosened (← expand at_ p.word)
  else if kind = some '=' then
    if missing then
      let value := Mark.text (← expand at_ p.word)
      unless isName p.name do abandon (p.name ++ ": bad variable name")
      assign p.name value
      return Mark.ofValue at_ value
    else parameterMarks at_ p.name
  else if kind = some '?' then
    if missing then
      let message := Mark.text (← expand at_ p.word)
      let usual := if p.operator = "?" then "parameter not set" else "parameter not set or null"
      abandon (p.name ++ ": " ++ if p.word = [] then usual else message)
    else parameterMarks at_ p.name
  else
    if value?.isNone && s.options.needsSet then abandon (p.name ++ ": parameter not set")
    let atoms := Mark.pattern (← expand .bare p.word)
    let cut := if kind = some '%' then Atom.withoutEnd else Atom.withoutStart
    let rest := cut atoms (p.operator.length == 2) (value?.getD "").toList
    return Mark.ofValue at_ (String.ofList rest)

/-- The marks of a text at some place. -/
def expandChars (run : Substitute) : Nat → Place → List Char → Act (List Mark)
  | 0, _, _ => return []
  | fuel + 1, at_, chars => do
    let isBare := at_ = .bare
    let more (marks : List Mark) (rest : List Char) : Act (List Mark) := do
      return marks ++ (← expandChars run fuel at_ rest)
    let literal (c : Char) : Mark := if isBare then .plain c else .quoted c
    let within (nest : Nest) (rest : List Char) : Act (List Char × List Char) :=
      match Nest.inside nest rest with
      | .ok result => return result
      | .error stack => abandon ("Syntax error: " ++ (Malformed.ofOpen stack).text)
    match chars with
    | [] => return []
    | '\\' :: '\n' :: rest => expandChars run fuel at_ rest
    | '\\' :: c :: rest =>
      if isBare then more [.quoted c] rest
      else if c = '$' || c = '\\' || c.toNat = 0x60 || (c = '"' && at_ = .quotes) then
        more [.quoted c] rest
      else more [.quoted '\\'] (c :: rest)
    | '$' :: '(' :: '(' :: rest =>
      let (body, after) ← within .parens ('(' :: rest)
      match body.getLast? with
      | some ')' =>
        let expression := Mark.text (← expandChars run fuel .quotes (body.drop 1).dropLast)
        more (Mark.ofValue at_ (← evaluate expression)) after
      | _ => more (← substituteMarks run at_ (← get).line body) after
    | '$' :: '(' :: rest =>
      let (body, after) ← within .parens rest
      more (← substituteMarks run at_ (← get).line body) after
    | '$' :: '{' :: rest =>
      let (body, after) ← within .braces rest
      match Parameter.ofChars? body with
      | some p => more (← bracesMarks (expandChars run fuel) at_ p) after
      | none => abandon "Bad substitution"
    | '$' :: c :: rest =>
      let name := if c.isDigit then [c] else Parameter.nameOf (c :: rest)
      if name = [] then more [literal '$'] (c :: rest)
      else
        let marks ← parameterMarks at_ (String.ofList name)
        more marks ((c :: rest).drop name.length)
    | c :: rest =>
      if c.toNat = 0x60 then
        let (body, after) ← within .backquotes rest
        more (← substituteMarks run at_ 1 (unescapeCommand at_ body)) after
      else if isBare && c = '\x27' then
        let (body, after) ← within .single rest
        more (.keep :: body.map .quoted) after
      else if at_ ≠ .supplied && c = '"' then
        if isBare then
          let (body, after) ← within .double rest
          let marks ← expandChars run fuel .quotes body
          let isArguments := body = ['$', '@'] || body = ['$', '{', '@', '}']
          more (if isArguments && marks = [] then [] else .keep :: marks) after
        else expandChars run fuel at_ rest
      else more [literal c] rest

/-- The marks of a word. A tilde at its start stands for the home directory. -/
def expandMarks (run : Substitute) (at_ : Place) (word : Word) : Act (List Mark) := do
  let chars := word.toList
  let fuel := chars.length + 1
  match chars, at_, (← get).get? "HOME" with
  | '~' :: rest, .bare, some home =>
    if rest.head?.all (· == '/') then
      return home.toList.map .quoted ++ (← expandChars run fuel at_ rest)
    else expandChars run fuel at_ chars
  | _, _, _ => expandChars run fuel at_ chars

/-- The text of a word that is one field. -/
def expandText (run : Substitute) (word : Word) : Act String := do
  return Mark.text (← expandMarks run .bare word)

/-! ## Names of files -/

/-- The paths that fit the parts of a pattern, below a path. -/
def fittingPaths : List (List Mark) → String → Act (List String)
  | [], path => return [path]
  | part :: rest, path => do
    let atoms := Mark.pattern part
    let down (name : String) : String := if rest.isEmpty then path ++ name else path ++ name ++ "/"
    if !Atom.isOpen atoms then
      let name := Mark.text part
      if rest.isEmpty then
        match ← ask (Host.Work.look (path ++ name)) with
        | .ok _ => return [path ++ name]
        | .error _ => return []
      else fittingPaths rest (down name)
    else
      match ← ask (Host.Work.names (if path = "" then "." else path)) with
      | .error _ => return []
      | .ok names =>
        let isHidden (name : String) : Bool := name.startsWith "."
        let fitting := names.filter fun name =>
          (!isHidden name || atoms.head? == some (.char '.')) && Atom.fits atoms name.toList
        let found ← fitting.mapM fun name => fittingPaths rest (down name)
        return found.flatten

/-- The names that a field gives way to, or its own text. -/
def expandNames (field : List Mark) : Act (List String) := do
  let own := Mark.text field
  if (← get).options.leavesNames || !Atom.isOpen (Mark.pattern field) then return [own]
  else
    let isSlash (m : Mark) : Bool := m.char?.any (·.1 == '/')
    match ← fittingPaths (Text.pieces isSlash field) "" with
    | [] => return [own]
    | names => return names

/-- The fields of a word. -/
def expandWord (run : Substitute) (word : Word) : Act (List String) := do
  let marks ← expandMarks run .bare word
  let fields := Mark.fields (← get).separators marks
  return (← fields.mapM expandNames).flatten

/-- The fields of words. -/
def expandWords (run : Substitute) (words : List Word) : Act (List String) := do
  return (← words.mapM (expandWord run)).flatten

end PauseWatch.Shell
