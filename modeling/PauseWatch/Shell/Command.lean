/-!
# Commands of the shell

A word is kept as it was written, quotes and all, and is read once more when it is expanded.
-/

namespace PauseWatch.Shell

/-- A word as it was written. -/
abbrev Word := String

/-- What a redirection does. -/
inductive Redirection where
  /-- Opens a file for reading. -/
  | input (path : Word)
  /-- Opens a file for writing, emptied before. -/
  | output (path : Word)
  /-- Opens a file for writing at its end. -/
  | append (path : Word)
  /-- Opens a file for both. -/
  | both (path : Word)
  /-- Makes a descriptor stand for what another one stands for, or for nothing. -/
  | copy (source : Word)
  /-- Supplies a text, which is expanded or not. -/
  | text (body : String) (isExpanded : Bool)
  deriving Repr, Inhabited

/-- A redirection of a descriptor. -/
structure Redirect where
  /-- The descriptor. -/
  fd : Nat
  /-- What is done. -/
  action : Redirection
  deriving Repr, Inhabited

/-- A command. -/
inductive Command where
  /-- No command at all. -/
  | nothing
  /-- A command that starts on a line. -/
  | located (line : Nat) (command : Command)
  /-- Words to run, with assignments and redirections, and the line they stand on. -/
  | simple (assignments : List (String × Word)) (words : List Word) (redirects : List Redirect)
      (line : Nat)
  /-- Commands whose output is the input of the next one. -/
  | pipeline (stages : List Command)
  /-- A command whose status is turned round. -/
  | negated (command : Command)
  /-- A command, and another one if it succeeds. -/
  | andThen (first second : Command)
  /-- A command, and another one if it fails. -/
  | orElse (first second : Command)
  /-- Two commands, one after the other. -/
  | sequence (first second : Command)
  /-- A command that is not waited for. -/
  | background (command : Command)
  /-- A command in a process of its own. -/
  | subshell (body : Command)
  /-- A command with redirections. -/
  | redirected (body : Command) (redirects : List Redirect)
  /-- One of two commands, as the condition turns out. -/
  | choice (condition yes no : Command)
  /-- A command for as long as, or until, the condition succeeds. -/
  | loop (isUntil : Bool) (condition body : Command)
  /-- A command for every word; without words for every argument. -/
  | each (name : String) (words : Option (List Word)) (body : Command)
  /-- The first command that has a pattern for a word. -/
  | select (word : Word) (branches : List (List Word × Command))
  /-- The definition of a function. -/
  | define (name : String) (body : Command)
  deriving Repr, Inhabited

/-- The stages of a pipeline with one more in front. -/
def Command.pipeInto (first : Command) : Command → Command
  | .pipeline stages => .pipeline (first :: stages)
  | second => .pipeline [first, second]

end PauseWatch.Shell
