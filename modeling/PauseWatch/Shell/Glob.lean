/-!
# Patterns of names

A pattern is a list of atoms. A star stands for any characters, a question mark for one, brackets
for one of some characters; what was quoted stands for itself.
-/

namespace PauseWatch.Shell

/-- A part of a pattern. -/
inductive Atom where
  /-- One character. -/
  | char (c : Char)
  /-- Any character. -/
  | one
  /-- Any number of any characters. -/
  | many
  /-- A character in one of some ranges, or in none of them. -/
  | range (isNegated : Bool) (ranges : List (Char × Char))
  deriving DecidableEq, Repr

namespace Atom

/-- The ranges of a named class of characters. -/
def classRanges (name : String) : List (Char × Char) :=
  if name = "alpha" then [('a', 'z'), ('A', 'Z')]
  else if name = "digit" then [('0', '9')]
  else if name = "alnum" then [('a', 'z'), ('A', 'Z'), ('0', '9')]
  else if name = "upper" then [('A', 'Z')]
  else if name = "lower" then [('a', 'z')]
  else if name = "space" then [(' ', ' '), ('\t', '\r')]
  else if name = "blank" then [(' ', ' '), ('\t', '\t')]
  else if name = "punct" then [('!', '/'), (':', '@'), ('[', '\x60'), ('\x7b', '~')]
  else if name = "xdigit" then [('a', 'f'), ('A', 'F'), ('0', '9')]
  else []

/-- Reads ranges up to the closing bracket; `none` if there is none. Each character comes with
whether it may mean something. -/
def ranges (done : List (Char × Char)) :
    List (Char × Bool) → Option (List (Char × Char) × List (Char × Bool))
  | [] => none
  | (']', true) :: rest => if done = [] then ranges [(']', ']')] rest else some (done, rest)
  | ('[', true) :: (':', true) :: rest =>
    let name := String.ofList ((rest.takeWhile (·.1 != ':')).map (·.1))
    ranges (done ++ classRanges name) (rest.drop (name.length + 2))
  | (c, _) :: ('-', true) :: (d, b) :: rest =>
    if d = ']' ∧ b then some (done ++ [(c, c), ('-', '-')], rest)
    else ranges (done ++ [(c, d)]) rest
  | (c, _) :: rest => ranges (done ++ [(c, c)]) rest
  termination_by chars => chars.length
  decreasing_by all_goals simp_wf <;> omega

/-- The pattern of characters that come with whether they may mean something. -/
def ofChars : Nat → List (Char × Bool) → List Atom
  | 0, _ | _, [] => []
  | fuel + 1, ('*', true) :: rest => .many :: ofChars fuel rest
  | fuel + 1, ('?', true) :: rest => .one :: ofChars fuel rest
  | fuel + 1, ('[', true) :: rest =>
    let (isNegated, body) := match rest with
      | ('!', true) :: body | ('^', true) :: body => (true, body)
      | body => (false, body)
    match ranges [] body with
    | some (found, rest) => .range isNegated found :: ofChars fuel rest
    | none => .char '[' :: ofChars fuel rest
  | fuel + 1, (c, _) :: rest => .char c :: ofChars fuel rest

/-- Whether a part of a pattern stands for one given character. -/
def accepts : Atom → Char → Bool
  | .char c, d => c == d
  | .one, _ => true
  | .many, _ => false
  | .range isNegated found, d => isNegated != found.any fun (a, b) => a ≤ d && d ≤ b

/-- Whether a pattern stands for a whole text. -/
def fits : List Atom → List Char → Bool
  | [], text => text.isEmpty
  | .many :: rest, [] => fits rest []
  | .many :: rest, c :: text => fits rest (c :: text) || fits (.many :: rest) text
  | _ :: _, [] => false
  | a :: rest, c :: text => a.accepts c && fits rest text
  termination_by atoms text => (atoms.length, text.length)

/-- Whether a pattern stands for more than one text. -/
def isOpen (atoms : List Atom) : Bool :=
  atoms.any fun a => match a with
    | .char _ => false
    | _ => true

/-- A text without the shortest or longest beginning that a pattern stands for. -/
def withoutStart (atoms : List Atom) (longest : Bool) (text : List Char) : List Char :=
  let cuts := List.range (text.length + 1)
  let cuts := if longest then cuts.reverse else cuts
  ((cuts.find? fun n => fits atoms (text.take n)).map text.drop).getD text

/-- A text without the shortest or longest end that a pattern stands for. -/
def withoutEnd (atoms : List Atom) (longest : Bool) (text : List Char) : List Char :=
  let cuts := List.range (text.length + 1)
  let cuts := if longest then cuts else cuts.reverse
  ((cuts.find? fun n => fits atoms (text.drop n)).map text.take).getD text

end Atom

end PauseWatch.Shell
