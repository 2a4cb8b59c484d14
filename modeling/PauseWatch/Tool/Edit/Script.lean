import PauseWatch.Tool.Regexp

/-!
# Edit scripts

A script is a table of commands. A command acts on the lines that it selects, by their numbers, by
what they match, or by a range that starts and ends in such a way. Blocks and labels are places of
the table.
-/

namespace PauseWatch.Tool.Edit

/-- An expression with the way it is matched. -/
structure Expression where
  /-- The expression. -/
  regexp : Regexp
  /-- How many groups it has. -/
  groups : Nat
  /-- Whether lines start and end inside the text. -/
  hasLines : Bool := false
  /-- Whether large and small letters are the same. -/
  ignoresCase : Bool := false
  deriving Repr, Inhabited

/-- A way to select a line; no expression stands for the one that was matched last. -/
inductive Address where
  /-- By its number. -/
  | line (number : Nat)
  /-- By its number, again after so many lines. -/
  | every (first step : Nat)
  /-- The last line. -/
  | last
  /-- By what it matches. -/
  | matching (expression : Option Expression)
  deriving Repr, Inhabited

/-- A way to end a range. -/
inductive RangeEnd where
  /-- As a line is selected. -/
  | address (address : Address)
  /-- After so many lines. -/
  | after (lines : Nat)
  /-- At the next multiple of a number. -/
  | multiple (number : Nat)
  deriving Repr, Inhabited

/-- Which lines are selected. -/
structure Selector where
  /-- The line, or the first line of a range. -/
  first : Option Address := none
  /-- The end of the range. -/
  stop : Option RangeEnd := none
  /-- Whether the other lines are meant. -/
  isInverse : Bool := false
  deriving Repr, Inhabited

/-- A change in the size of letters. -/
inductive LetterSize where
  /-- From here on large. -/
  | large
  /-- From here on small. -/
  | small
  /-- From here on as they are. -/
  | kept
  /-- The next one large. -/
  | nextLarge
  /-- The next one small. -/
  | nextSmall
  deriving DecidableEq, Repr

/-- A part of what is put in the place of a match. -/
inductive Piece where
  /-- A text. -/
  | text (text : List Char)
  /-- What a group has matched; the whole match has the number zero. -/
  | group (number : Nat)
  /-- A change in the size of letters. -/
  | size (size : LetterSize)
  deriving DecidableEq, Repr

/-- A replacement of matches. -/
structure Substitution where
  /-- What is replaced. -/
  expression : Option Expression
  /-- What comes in its place. -/
  pieces : List Piece
  /-- Whether all matches are replaced. -/
  isGlobal : Bool := false
  /-- The first match that is replaced. -/
  first : Nat := 1
  /-- Whether the result is run as a command. -/
  isRun : Bool := false
  /-- Whether the result is written. -/
  prints : Bool := false
  /-- The file that the result is written to. -/
  file : Option String := none
  deriving Repr, Inhabited

/-- When a jump is made. -/
inductive JumpTime where
  /-- Always. -/
  | always
  /-- After a replacement. -/
  | replaced
  /-- After no replacement. -/
  | unreplaced
  deriving DecidableEq, Repr

/-- What a command does. There are a text under way and one that is kept. -/
inductive Action where
  /-- Starts a block, with the place behind it. -/
  | openBlock (stop : Nat)
  /-- Does nothing. -/
  | nothing
  /-- Writes the number of the line. -/
  | number
  /-- Writes a text after the line. -/
  | append (text : String)
  /-- Writes a text before the line. -/
  | insert (text : String)
  /-- Writes a text for the line. -/
  | change (text : String)
  /-- Goes on at a label, or behind everything. -/
  | jump (time : JumpTime) (label : String)
  /-- Ends with the line. -/
  | delete
  /-- Drops the first line of the text, and starts again. -/
  | deleteFirst
  /-- Runs a command, or the text if none is given. -/
  | run (command : String)
  /-- Writes the name of the file. -/
  | fileName
  /-- Takes the kept text, or adds it. -/
  | fetch (adds : Bool)
  /-- Keeps the text, or adds it to the kept one. -/
  | keep (adds : Bool)
  /-- Exchanges the texts. -/
  | exchange
  /-- Shows the text with its invisible characters. -/
  | reveal (width : Option Nat)
  /-- Goes on with the next line. -/
  | next
  /-- Adds the next line. -/
  | nextMore
  /-- Writes the text. -/
  | print
  /-- Writes the first line of the text. -/
  | printFirst
  /-- Ends with a status. -/
  | quit (status : Nat) (prints : Bool)
  /-- Writes a file after the line. -/
  | appendFile (path : String)
  /-- Writes the next line of a file after the line. -/
  | appendLine (path : String)
  /-- Writes the text to a file. -/
  | write (path : String)
  /-- Writes the first line of the text to a file. -/
  | writeFirst (path : String)
  /-- Replaces matches. -/
  | substitute (substitution : Substitution)
  /-- Replaces characters. -/
  | replaceChars (table : List (Char × Char))
  /-- Empties the text. -/
  | clear
  deriving Repr, Inhabited

/-- A command. -/
structure Command where
  /-- The lines that are selected. -/
  selector : Selector
  /-- What is done. -/
  action : Action
  deriving Repr, Inhabited

/-- A script. -/
structure Script where
  /-- The commands. -/
  commands : Array Command := #[]
  /-- The labels and their places. -/
  labels : List (String × Nat) := []
  /-- Whether lines are not written by themselves. -/
  isQuiet : Bool := false
  deriving Repr, Inhabited

/-- The files that a script writes to. -/
def Script.files (s : Script) : List String :=
  (s.commands.toList.filterMap fun c => match c.action with
    | .write path | .writeFirst path => some path
    | .substitute sub => sub.file
    | _ => none).eraseDups

/-- The label of a jump that leads nowhere. -/
def Script.lostLabel? (s : Script) : Option String :=
  s.commands.toList.findSome? fun c => match c.action with
    | .jump _ label =>
      if label = "" || (s.labels.lookup label).isSome then none else some label
    | _ => none

end PauseWatch.Tool.Edit
