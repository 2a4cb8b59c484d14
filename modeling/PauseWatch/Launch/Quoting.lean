import PauseWatch.Text.Split

/-!
# Command lines of a shell

A list of words is shown as one line that a shell would read back as the same words. A word made of
harmless characters stands as it is; any other stands between single quotes, with a quote or an
exclamation mark written outside them behind a backslash. `readWords` states how a shell cuts such a
line into words.
-/

namespace PauseWatch.Launch

/-- The characters that need no quotes. -/
def isPlain (c : Char) : Bool :=
  c.isAlphanum || c ∈ ['-', '_', '=', '/', ',', '.', '+']

/-- One character between single quotes; the two that cannot stand there close the quotes, stand
behind a backslash, and open them again. -/
def quoteChar (c : Char) : List Char :=
  if c = '\x27' ∨ c = '!' then ['\x27', '\\', c, '\x27'] else [c]

/-- A word as it stands in a command line. -/
def quoteWord (word : List Char) : List Char :=
  if word ≠ [] ∧ word.all isPlain then word
  else '\x27' :: word.flatMap quoteChar ++ ['\x27']

/-- The words in one line, with one blank between neighbours. -/
def quoteWords (words : List (List Char)) : List Char :=
  [' '].intercalate (words.map quoteWord)

/-- Where a shell stands while it reads a line. -/
inductive Reading where
  /-- Between two words. -/
  | between
  /-- In a word, outside quotes; the characters so far stand last first. -/
  | inWord (word : List Char)
  /-- Behind a backslash. -/
  | escaped (word : List Char)
  /-- Between single quotes. -/
  | quoted (word : List Char)
  deriving DecidableEq, Repr

/-- Cuts a line into words as a shell does: blanks outside quotes separate words, single quotes keep
everything between them, a backslash outside quotes keeps the next character, and neighbouring
pieces join. A line that ends inside quotes or behind a backslash has no words. -/
def readFrom : Reading → List Char → Option (List (List Char))
  | .between, [] => some []
  | .inWord word, [] => some [word.reverse]
  | .escaped _, [] => none
  | .quoted _, [] => none
  | .between, c :: rest =>
    if c = ' ' then readFrom .between rest
    else if c = '\x27' then readFrom (.quoted []) rest
    else if c = '\\' then readFrom (.escaped []) rest
    else readFrom (.inWord [c]) rest
  | .inWord word, c :: rest =>
    if c = ' ' then (readFrom .between rest).map (word.reverse :: ·)
    else if c = '\x27' then readFrom (.quoted word) rest
    else if c = '\\' then readFrom (.escaped word) rest
    else readFrom (.inWord (c :: word)) rest
  | .escaped word, c :: rest => readFrom (.inWord (c :: word)) rest
  | .quoted word, c :: rest =>
    if c = '\x27' then readFrom (.inWord word) rest else readFrom (.quoted (c :: word)) rest

/-- The words of a line. -/
def readWords (line : List Char) : Option (List (List Char)) := readFrom .between line

end PauseWatch.Launch
