import PauseWatch.Shell.Command
import PauseWatch.Shell.Nesting
import PauseWatch.Text.Split

/-!
# Reading commands

A script is read one complete command at a time, up to the end of a line on which nothing is left
open. What is wrong with a script is therefore only found when the commands before it have run.
-/

namespace PauseWatch.Shell

/-- What is wrong with a script. -/
inductive Malformed where
  /-- Something stands where something else is needed. -/
  | unexpected (what : String) (expected : Option String)
  /-- A quote is not closed. -/
  | openQuote
  /-- A backquote is not closed. -/
  | openBackquote
  /-- A brace is not closed. -/
  | openBrace
  /-- An arithmetic expression is not closed. -/
  | openExpression
  /-- The variable of a loop has no proper name. -/
  | badLoopVariable
  /-- A function has no proper name. -/
  | badFunctionName
  deriving Repr

/-- What is wrong, in words. -/
def Malformed.text : Malformed → String
  | .unexpected what none => what ++ " unexpected"
  | .unexpected what (some expected) => what ++ " unexpected (expecting " ++ expected ++ ")"
  | .openQuote => "Unterminated quoted string"
  | .openBackquote => "EOF in backquote substitution"
  | .openBrace => "Missing '\x7d'"
  | .openExpression => "Missing '))'"
  | .badLoopVariable => "Bad for loop variable"
  | .badFunctionName => "Bad function name"

/-- What is wrong if something is still open at the end. -/
def Malformed.ofOpen : List Nest → Malformed
  | .parens :: .parens :: _ => .openExpression
  | .parens :: _ => .unexpected "end of file" (some "\")\"")
  | .braces :: _ => .openBrace
  | .backquotes :: _ => .openBackquote
  | _ => .openQuote

/-- A reader of the rest of a script. What is left when something is wrong tells where that is. -/
abbrev Reading := ExceptT Malformed (StateM (List Char))

/-- A part of a script that means something of its own. -/
inductive Token where
  /-- The end of the script. -/
  | done
  /-- The end of a line. -/
  | newline
  /-- Characters with a meaning. -/
  | operator (text : String)
  /-- A word. -/
  | word (text : Word)
  deriving DecidableEq, Repr

/-- The words that mean something where a command can start. -/
def reserved : List String :=
  ["!", "\x7b", "\x7d", "case", "do", "done", "elif", "else", "esac", "fi", "for", "if", "then",
    "until", "while"]

/-- The operators, the longer ones before those that they start with. -/
def operators : List String :=
  ["<<-", "<<", "<&", "<>", "<", ">>", ">&", ">|", ">", "&&", "&", "||", "|", ";;", ";", "(", ")"]

/-- A token as it is called in messages. -/
def Token.describe : Token → String
  | .done => "end of file"
  | .newline => "newline"
  | .operator text =>
    if text.any fun c => c = '<' || c = '>' then "redirection" else "\"" ++ text ++ "\""
  | .word text => if reserved.contains text then "\"" ++ text ++ "\"" else "word"

/-- The names of the special commands: what goes wrong in them ends the shell, assignments before
them last, and no function can have their names. -/
def specials : List String :=
  [".", ":", "break", "continue", "eval", "exec", "exit", "export", "readonly", "return", "set",
    "shift", "times", "trap", "unset"]

/-- Whether a text is the name of a variable. -/
def isName (text : String) : Bool :=
  match text.toList with
  | [] => false
  | c :: rest => (c.isAlpha || c == '_') && rest.all fun c => c.isAlphanum || c == '_'

namespace Reading

/-- Leaves out blanks, joined lines and a comment. -/
def blanks : List Char → List Char
  | '\\' :: '\n' :: rest => blanks rest
  | c :: rest =>
    if c = ' ' ∨ c = '\t' then blanks rest
    else if c = '#' then rest.dropWhile (· != '\n')
    else c :: rest
  | [] => []

/-- Takes the next token. -/
def token : Reading Token := do
  let rest := blanks (← get)
  match rest with
  | [] =>
    set rest
    return .done
  | '\n' :: rest =>
    set rest
    return .newline
  | _ =>
    match operators.find? fun o => o.toList.isPrefixOf rest with
    | some o =>
      set (rest.drop o.length)
      return .operator o
    | none =>
      match Nest.word [] [] rest with
      | .ok (taken, rest) =>
        set rest
        return .word (String.ofList taken)
      | .error stack =>
        set ([] : List Char)
        throw (.ofOpen stack)

/-- The next token, which is left where it is. -/
def peek : Reading Token := do
  let rest ← get
  let t ← token
  set rest
  return t

/-- Refuses the next token. -/
def unexpected {α : Type} (expected : Option String) : Reading α := do
  throw (.unexpected (← token).describe expected)

/-- Takes a given token if it comes next, and tells whether it did. -/
def accept (t : Token) : Reading Bool := do
  if (← peek) = t then
    let _ ← token
    return true
  else return false

/-- Takes a given token, which must come next. -/
def expect (t : Token) : Reading Unit := do
  unless ← accept t do unexpected (some t.describe)

/-- Leaves out the ends of lines. -/
def newlines : Nat → Reading Unit
  | 0 => return ()
  | fuel + 1 => do if ← accept .newline then newlines fuel

/-- Leaves out the ends of lines that come next. -/
def allNewlines : Reading Unit := do newlines ((← get).length + 1)

/-! ## Redirections -/

/-- A word without its quotes. -/
def unquoted : List Char → List Char
  | [] => []
  | '\\' :: c :: rest => c :: unquoted rest
  | c :: rest => if c = '\x27' ∨ c = '"' then unquoted rest else c :: unquoted rest

/-- Cuts a supplied text off the lines that follow, and gives the lines after the one that ends it.
Without such a line the text goes on to the end of the script. -/
def textLines (delimiter : List Char) (dropsTabs : Bool) :
    List (List Char) → List Char × List (List Char)
  | [] => ([], [])
  | line :: rest =>
    let line := if dropsTabs then line.dropWhile (· == '\t') else line
    if line = delimiter then ([], rest)
    else
      let (body, after) := textLines delimiter dropsTabs rest
      (line ++ (if rest.isEmpty then [] else '\n' :: body), after)

/-- Takes the text that is supplied on the lines after this one. -/
def suppliedText (delimiter : Word) (dropsTabs : Bool) : Reading Redirection := do
  let rest ← get
  let here := rest.takeWhile (· != '\n')
  let below := rest.drop (here.length + 1)
  let bare := unquoted delimiter.toList
  let (body, after) := textLines bare dropsTabs (Text.pieces (· == '\n') below)
  set (here ++ '\n' :: ['\n'].intercalate after)
  return .text (String.ofList body) (bare == delimiter.toList)

/-- The word that must come next. -/
def wordToken : Reading Word := do
  match ← peek with
  | .word text =>
    let _ ← token
    return text
  | _ => unexpected none

/-- Takes a redirection if one comes next. A number right before it is its descriptor. -/
def redirect? : Reading (Option Redirect) := do
  let start ← get
  let rest := blanks start
  let digits := rest.takeWhile Char.isDigit
  let isNumbered := digits.length == 1
    && (rest.drop 1).head?.any fun c => c == '<' || c == '>'
  if isNumbered then set (rest.drop 1)
  let given := if isNumbered then digits.head?.map fun c => c.toNat - '0'.toNat else none
  let make (default : Nat) (action : Redirection) : Option Redirect :=
    some ⟨given.getD default, action⟩
  match ← token with
  | .operator "<" => return make 0 (.input (← wordToken))
  | .operator ">" | .operator ">|" => return make 1 (.output (← wordToken))
  | .operator ">>" => return make 1 (.append (← wordToken))
  | .operator "<>" => return make 0 (.both (← wordToken))
  | .operator "<&" => return make 0 (.copy (← wordToken))
  | .operator ">&" => return make 1 (.copy (← wordToken))
  | .operator "<<" => return make 0 (← suppliedText (← wordToken) false)
  | .operator "<<-" => return make 0 (← suppliedText (← wordToken) true)
  | _ =>
    set start
    return none

/-- Takes the redirections that come next. -/
def redirects : Nat → Reading (List Redirect)
  | 0 => return []
  | fuel + 1 => do
    match ← redirect? with
    | some r => return r :: (← redirects fuel)
    | none => return []

/-! ## Commands -/

/-- The assignment that a word is, if it is one. -/
def assignment? (word : Word) : Option (String × Word) :=
  let chars := word.toList
  let name := String.ofList (chars.takeWhile (· != '='))
  match chars.dropWhile (· != '=') with
  | _ :: value => if isName name then some (name, String.ofList value) else none
  | [] => none

/-- The parts of a simple command. -/
structure Parts where
  /-- The assignments. -/
  assignments : List (String × Word) := []
  /-- The words. -/
  words : List Word := []
  /-- The redirections. -/
  redirects : List Redirect := []

/-- Takes the parts of a simple command. -/
def parts : Nat → Parts → Reading Parts
  | 0, p => return p
  | fuel + 1, p => do
    match ← redirect? with
    | some r => parts fuel { p with redirects := p.redirects ++ [r] }
    | none =>
      match ← peek with
      | .word text =>
        let _ ← token
        match (if p.words = [] then assignment? text else none) with
        | some a => parts fuel { p with assignments := p.assignments ++ [a] }
        | none => parts fuel { p with words := p.words ++ [text] }
      | _ => return p

/-- The number of the line that comes next in a script with so many ends of lines. -/
def line (ends : Nat) : Reading Nat := do return ends - (← get).count '\n' + 1

/-- Takes a simple command. -/
def simple (ends : Nat) : Reading Command := do
  let at_ ← line ends
  let p ← parts ((← get).length + 1) {}
  if p.words = [] && p.assignments = [] && p.redirects.isEmpty then unexpected none
  return .simple p.assignments p.words p.redirects at_

/-- The words up to the end of a list of words. -/
def wordList : Nat → Reading (List Word)
  | 0 => return []
  | fuel + 1 => do
    match ← peek with
    | .word text =>
      let _ ← token
      return text :: (← wordList fuel)
    | _ => return []

/-- The rest of a choice, behind its first word. -/
def choiceRest (list : Reading Command) : Nat → Reading Command
  | 0 => unexpected none
  | fuel + 1 => do
    let condition ← list
    expect (.word "then")
    let yes ← list
    if ← accept (.word "elif") then
      return .choice condition yes (← choiceRest list fuel)
    let no ← if ← accept (.word "else") then list else pure .nothing
    expect (.word "fi")
    return .choice condition yes no

/-- The body of a loop. -/
def loopBody (list : Reading Command) : Reading Command := do
  expect (.word "do")
  let body ← list
  expect (.word "done")
  return body

/-- The rest of a loop over words, behind its first word. -/
def eachRest (list : Reading Command) : Reading Command := do
  let name ← match ← token with
    | .word name => if isName name then pure name else throw .badLoopVariable
    | _ => throw .badLoopVariable
  allNewlines
  if ← accept (.word "in") then
    let words ← wordList ((← get).length + 1)
    unless (← accept (.operator ";")) do
      unless (← accept .newline) do unexpected none
    allNewlines
    return .each name (some words) (← loopBody list)
  else
    let _ ← accept (.operator ";")
    allNewlines
    return .each name none (← loopBody list)

/-- The patterns of a branch. -/
def patterns : Nat → Reading (List Word)
  | 0 => unexpected none
  | fuel + 1 => do
    let first := match ← token with
      | .word text => text
      | _ => ""
    if ← accept (.operator "|") then return first :: (← patterns fuel)
    else return [first]

/-- The branches of a selection. -/
def branches (list : Reading Command) : Nat → Reading (List (List Word × Command))
  | 0 => unexpected none
  | fuel + 1 => do
    allNewlines
    if ← accept (.word "esac") then return []
    let _ ← accept (.operator "(")
    let pats ← patterns ((← get).length + 1)
    expect (.operator ")")
    allNewlines
    let isEmpty := match ← peek with
      | .operator ";;" | .word "esac" => true
      | _ => false
    let body ← if isEmpty then pure .nothing else list
    if ← accept (.operator ";;") then return (pats, body) :: (← branches list fuel)
    else if ← accept (.word "esac") then return [(pats, body)]
    else unexpected (some (Token.operator ";;").describe)

/-- The rest of a selection, behind its first word. -/
def selectRest (list : Reading Command) : Reading Command := do
  let word ← match ← peek with
    | .word _ => wordToken
    | _ => unexpected (some "word")
  allNewlines
  expect (.word "in")
  return .select word (← branches list ((← get).length + 1))

/-- Takes a command that starts with a reserved word or a parenthesis, if one comes next. -/
def compound? (list : Reading Command) : Reading (Option Command) := do
  if ← accept (.operator "(") then
    let body ← list
    expect (.operator ")")
    return some (.subshell body)
  else if ← accept (.word "\x7b") then
    let body ← list
    expect (.word "\x7d")
    return some (.redirected body [])
  else if ← accept (.word "if") then return some (← choiceRest list ((← get).length + 1))
  else if ← accept (.word "while") then
    let condition ← list
    return some (.loop false condition (← loopBody list))
  else if ← accept (.word "until") then
    let condition ← list
    return some (.loop true condition (← loopBody list))
  else if ← accept (.word "for") then return some (← eachRest list)
  else if ← accept (.word "case") then return some (← selectRest list)
  else return none

/-- Takes the name of a function and its parentheses, if they come next. -/
def functionName? : Reading (Option String) := do
  let start ← get
  match ← peek with
  | .word name =>
    let _ ← token
    if (assignment? name).isNone && (← accept (.operator "(")) then
      expect (.operator ")")
      unless isName name && !specials.contains name do throw .badFunctionName
      allNewlines
      return some name
    else
      set start
      return none
  | _ => return none

/-- Takes a command, given how to take a list of commands. -/
def command (list : Reading Command) (ends : Nat) : Reading Command := do
  let withRedirects (c : Command) : Reading Command := do
    match c, ← redirects ((← get).length + 1) with
    | c, [] => return c
    | .redirected body [], rs => return .redirected body rs
    | c, rs => return .redirected c rs
  let at_ ← line ends
  match ← compound? list with
  | some c => return .located at_ (← withRedirects c)
  | none =>
    match ← peek with
    | .word text =>
      if reserved.contains text then unexpected none
      else match ← functionName? with
        | some name =>
          match ← compound? list with
          | some body => return .define name (← withRedirects body)
          | none => return .define name (← simple ends)
        | none => simple ends
    | _ => simple ends

/-- The rest of a pipeline, behind its first stage. -/
def pipelineRest (stage : Reading Command) (first : Command) : Nat → Reading Command
  | 0 => unexpected none
  | fuel + 1 => do
    if ← accept (.operator "|") then
      allNewlines
      let second ← stage
      return first.pipeInto (← pipelineRest stage second fuel)
    else return first

/-- Takes a pipeline, which may be turned round. -/
def pipeline (stage : Reading Command) : Reading Command := do
  let isNegated ← accept (.word "!")
  let c ← pipelineRest stage (← stage) ((← get).length + 1)
  return if isNegated then .negated c else c

/-- The rest of pipelines that depend on each other, behind the first one. -/
def conditionsRest (item : Reading Command) : Nat → Command → Reading Command
  | 0, _ => unexpected none
  | fuel + 1, first => do
    if ← accept (.operator "&&") then
      allNewlines
      conditionsRest item fuel (.andThen first (← item))
    else if ← accept (.operator "||") then
      allNewlines
      conditionsRest item fuel (.orElse first (← item))
    else return first

/-- Takes pipelines that depend on each other. -/
def conditions (item : Reading Command) : Reading Command := do
  conditionsRest item ((← get).length + 1) (← item)

/-- Whether a list of commands ends before a token. -/
def endsList : Token → Bool
  | .done => true
  | .operator text => text == ")" || text == ";;"
  | .word text => ["\x7d", "do", "done", "elif", "else", "esac", "fi", "then"].contains text
  | .newline => false

/-- The rest of a list of commands, behind an item. A list that fills a whole line ends with it. -/
def listRest (item : Reading Command) (isLine : Bool) : Nat → Command → Reading Command
  | 0, _ => unexpected none
  | fuel + 1, first => do
    let more (first : Command) : Reading Command := do
      unless isLine do allNewlines
      let next ← peek
      if endsList next || next = .newline then return first
      else match ← listRest item isLine fuel (← item) with
        | .nothing => return first
        | second => return .sequence first second
    if ← accept (.operator "&") then more (.background first)
    else if ← accept (.operator ";") then more first
    else if !isLine then
      if ← accept .newline then more first else return first
    else return first

/-- Takes the list of commands inside another command. -/
def innerList (ends : Nat) : Nat → Reading Command
  | 0 => unexpected none
  | depth + 1 => do
    allNewlines
    if (← peek) = .done then return .nothing
    let item := conditions (pipeline (command (innerList ends depth) ends))
    listRest item false ((← get).length + 1) (← item)

/-- Takes the next complete command of a script with so many ends of lines, if there is one. -/
def complete? (ends : Nat) : Reading (Option Command) := do
  allNewlines
  if (← peek) = .done then return none
  let depth := (← get).length + 1
  let item := conditions (pipeline (command (innerList ends depth) ends))
  let c ← listRest item true depth (← item)
  unless (← accept .newline) do
    unless (← peek) = .done do unexpected none
  return some c

end Reading

end PauseWatch.Shell
