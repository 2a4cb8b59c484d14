import PauseWatch.Text.CharSet

/-!
# Expressions that line editors match

An expression is matched from the left, and of all matches that start at a place the longest is
taken. Parts that are matched by a group are remembered, and can be asked for again. A match is
followed as a list of spots, the ones to prefer first: a spot is a place of the text, together with
what the groups have matched on the way to it.
-/

namespace PauseWatch.Tool

/-- A condition on a place of a text. -/
inductive Edge where
  /-- The start of a line. -/
  | lineStart
  /-- The end of a line. -/
  | lineEnd
  /-- The start of the text. -/
  | textStart
  /-- The end of the text. -/
  | textEnd
  /-- A word starts. -/
  | wordStart
  /-- A word ends. -/
  | wordEnd
  /-- A word starts or ends. -/
  | wordEdge
  /-- No word starts or ends. -/
  | noWordEdge
  deriving DecidableEq, Repr

/-- An expression. -/
inductive Regexp where
  /-- The empty text. -/
  | empty
  /-- One character of a set. -/
  | among (set : Text.CharSet)
  /-- A condition on a place. -/
  | edge (at_ : Edge)
  /-- One after the other. -/
  | seq (first second : Regexp)
  /-- Either of two. -/
  | oneOf (first second : Regexp)
  /-- Several times. -/
  | times (inner : Regexp) (least : Nat) (most : Option Nat)
  /-- A group that is remembered under its number. -/
  | group (number : Nat) (inner : Regexp)
  /-- What a group has matched. -/
  | again (number : Nat)
  deriving Repr, Inhabited

/-- A place of a text on the way through an expression, and what the groups have matched so far, the
latest first, each as the places where it starts and ends. -/
structure Spot where
  /-- The place. -/
  place : Nat
  /-- The groups. -/
  groups : List (Nat × Nat × Nat) := []
  deriving DecidableEq, Repr

namespace Regexp

/-- Whether what groups have matched decides how the match goes on. -/
def looksBack : Regexp → Bool
  | .empty | .among _ | .edge _ => false
  | .seq a b | .oneOf a b => a.looksBack || b.looksBack
  | .times inner _ _ | .group _ inner => inner.looksBack
  | .again _ => true

/-- Whether a character belongs to words. -/
def isWordChar (c : Char) : Bool := c.isAlphanum || c = '_'

/-- How expressions are matched against a text. -/
structure Subject where
  /-- The text. -/
  text : Array Char
  /-- Whether lines start and end inside the text. -/
  hasLines : Bool := false
  /-- Whether large and small letters are the same. -/
  ignoresCase : Bool := false
  /-- Whether spots at the same place differ when their groups do. -/
  looksBack : Bool := false

namespace Subject

/-- The character before a place. -/
def before (s : Subject) : Nat → Option Char
  | 0 => none
  | place + 1 => s.text[place]?

/-- Whether a condition holds at a place. -/
def holds (s : Subject) (place : Nat) : Edge → Bool
  | .lineStart => place = 0 || (s.hasLines && s.before place = some '\n')
  | .lineEnd => place = s.text.size || (s.hasLines && s.text[place]? = some '\n')
  | .textStart => place = 0
  | .textEnd => place = s.text.size
  | .wordStart => !(s.before place).any isWordChar && s.text[place]?.any isWordChar
  | .wordEnd => (s.before place).any isWordChar && !s.text[place]?.any isWordChar
  | .wordEdge => (s.before place).any isWordChar != s.text[place]?.any isWordChar
  | .noWordEdge => (s.before place).any isWordChar == s.text[place]?.any isWordChar

/-- Whether two spots are as good as one. -/
def same (s : Subject) (a b : Spot) : Bool :=
  a.place = b.place && (!s.looksBack || a.groups = b.groups)

/-- Leaves out spots that are as good as the one before. -/
def distinct (s : Subject) : List Spot → List Spot
  | a :: b :: rest =>
    if s.same a b then distinct s (a :: rest) else a :: distinct s (b :: rest)
  | spots => spots
  termination_by spots => spots.length

/-- The spots that are farthest first, and of those at one place only the first. -/
def ranked (s : Subject) (spots : List Spot) : List Spot :=
  match spots with
  | [] | [_] => spots
  | _ => s.distinct (spots.mergeSort fun a b => b.place ≤ a.place)

/-- Whether a piece of the text comes again at a place. -/
def repeats (s : Subject) (start place : Nat) : Nat → Bool
  | 0 => true
  | length + 1 =>
    match s.text[start + length]?, s.text[place + length]? with
    | some a, some b =>
      (a = b || (s.ignoresCase && a.toLower = b.toLower)) && repeats s start place length
    | _, _ => false

/-- Adds the spots that steps lead to from the given ones, where every step leads farther on and
every place is visited once. What was visited is kept by place. -/
def explore (s : Subject) (step : Spot → List Spot) :
    Nat → List Spot → Array (List Spot) → List Spot → List Spot
  | 0, _, _, found => found
  | _ + 1, [], _, found => found
  | fuel + 1, spot :: rest, visited, found =>
    if (visited.getD spot.place []).any (s.same spot) then explore s step fuel rest visited found
    else
      let visited := visited.modify spot.place (spot :: ·)
      let further := (step spot).filter fun next => spot.place < next.place
      explore s step fuel (further ++ rest) visited (spot :: found)

end Subject

/-- Takes a step exactly `n` times. -/
def stepExactly (s : Subject) (step : Spot → List Spot) : Nat → List Spot → List Spot
  | 0, spots => spots
  | n + 1, spots => stepExactly s step n (s.ranked (spots.flatMap step))

/-- Takes a step at most `n` times, as long as that leads farther on. -/
def stepUpTo (s : Subject) (step : Spot → List Spot) : Nat → List Spot → List Spot
  | 0, spots => spots
  | n + 1, spots =>
    let further := spots.flatMap fun spot =>
      (step spot).filter fun next => spot.place < next.place
    if further = [] then spots
    else s.ranked (stepUpTo s step n (s.ranked further) ++ spots)

/-- The spots where matches end that start at a spot, those to prefer first. -/
def ends (s : Subject) : Regexp → Spot → List Spot
  | .empty, spot => [spot]
  | .among set, spot =>
    if s.text[spot.place]?.any set.contains then [{ spot with place := spot.place + 1 }] else []
  | .edge at_, spot => if s.holds spot.place at_ then [spot] else []
  | .seq first second, spot =>
    s.ranked ((first.ends s spot).flatMap fun middle => second.ends s middle)
  | .oneOf first second, spot => s.ranked (first.ends s spot ++ second.ends s spot)
  | .times inner least most, spot =>
    let start := stepExactly s (fun at_ => inner.ends s at_) least [spot]
    match most with
    | some most => stepUpTo s (fun at_ => inner.ends s at_) (most - least) start
    | none =>
      let fuel := Nat.pow (s.text.size + 2) (if s.looksBack then 4 else 2)
      let visited := (List.replicate (s.text.size + 1) []).toArray
      s.ranked (s.explore (fun at_ => inner.ends s at_) fuel start visited []).reverse
  | .group number inner, spot =>
    (inner.ends s spot).map fun stop =>
      { stop with groups := (number, spot.place, stop.place) :: stop.groups }
  | .again number, spot =>
    match spot.groups.lookup number with
    | none => []
    | some (start, stop) =>
      if s.repeats start spot.place (stop - start) then
        [{ spot with place := spot.place + (stop - start) }]
      else []

/-- The first match that starts at a place or behind it, within some number of places: where it
starts, and the spot where it ends. -/
def search (s : Subject) (r : Regexp) : Nat → Nat → Option (Nat × Spot)
  | 0, _ => none
  | fuel + 1, start =>
    match r.ends s ⟨start, []⟩ with
    | spot :: _ => some (start, spot)
    | [] => if start < s.text.size then search s r fuel (start + 1) else none

end Regexp

end PauseWatch.Tool
