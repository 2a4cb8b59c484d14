import PauseWatch.Pattern.Property

/-!
# Patterns and their matches

A pattern is matched against places of a text, the places being the gaps before, between and after
its characters. A pattern takes the set of places where a match may begin to the set of places where
it can end; sets of places are increasing lists. So a text has a match when the set of all its
places is taken to a set that is not empty.
-/

namespace PauseWatch.Pattern

/-- A condition on the characters around a place. -/
inductive Anchor where
  /-- The start of the text. -/
  | textStart
  /-- The end of the text. -/
  | textEnd
  /-- The start of a line. -/
  | lineStart
  /-- The end of a line. -/
  | lineEnd
  /-- The start of a line, where a carriage return before a line feed belongs to the line end. -/
  | crlfLineStart
  /-- The end of a line, where a carriage return before a line feed belongs to the line end. -/
  | crlfLineEnd
  /-- A word starts or ends. -/
  | wordEdge
  /-- No word starts or ends. -/
  | noWordEdge
  /-- A word starts. -/
  | wordStart
  /-- A word ends. -/
  | wordEnd
  /-- No word character stands before. -/
  | wordStartHalf
  /-- No word character stands after. -/
  | wordEndHalf
  deriving DecidableEq, Repr

/-- A pattern. -/
inductive Regex where
  /-- The empty text. -/
  | empty
  /-- A text as it is. -/
  | literal (text : List Char)
  /-- One character of a set, which is a set of bytes when it was written without Unicode. -/
  | chars (set : Text.CharSet) (bytewise : Bool)
  /-- A condition on a place; the set is that of the characters of words. -/
  | anchor (at_ : Anchor) (word : Text.CharSet)
  /-- A pattern several times, at least `least` and at most `most` times; a lazy one takes as few
  as it can. -/
  | times (inner : Regex) (least : Nat) (most : Option Nat) (lazy : Bool)
  /-- A group that is remembered under its number. -/
  | group (number : Nat) (inner : Regex)
  /-- Several patterns, one after another. -/
  | seq (parts : List Regex)
  /-- Any of several patterns. -/
  | oneOf (branches : List Regex)
  deriving Repr, Inhabited

/-- Whether a condition holds between two neighbouring characters, where `none` stands for the
outside of the text. -/
def Anchor.holds (word : Text.CharSet) (before after : Option Char) : Anchor → Bool
  | .textStart => before.isNone
  | .textEnd => after.isNone
  | .lineStart => before.isNone || before == some '\n'
  | .lineEnd => after.isNone || after == some '\n'
  | .crlfLineStart =>
    before.isNone || before == some '\n' || (before == some '\r' && after != some '\n')
  | .crlfLineEnd =>
    after.isNone || after == some '\r' || (after == some '\n' && before != some '\r')
  | .wordEdge => before.any word.contains != after.any word.contains
  | .noWordEdge => before.any word.contains == after.any word.contains
  | .wordStart => !before.any word.contains && after.any word.contains
  | .wordEnd => before.any word.contains && !after.any word.contains
  | .wordStartHalf => !before.any word.contains
  | .wordEndHalf => !after.any word.contains

/-- The character before a place. -/
def charBefore (text : Array Char) : Nat → Option Char
  | 0 => none
  | place + 1 => text[place]?

/-- The places of two increasing lists together. -/
def mergePlaces : List Nat → List Nat → List Nat
  | [], bs => bs
  | as, [] => as
  | a :: as, b :: bs =>
    if a < b then a :: mergePlaces as (b :: bs)
    else if b < a then b :: mergePlaces (a :: as) bs
    else a :: mergePlaces as bs

/-- Takes a step `rounds` times, as long as it leads to other places. -/
def stepTimes (step : List Nat → List Nat) : Nat → List Nat → List Nat
  | 0, places => places
  | rounds + 1, places =>
    let next := step places
    if next == places then places else stepTimes step rounds next

/-- Marks places as reached. -/
def markAll (reached : Array Bool) (places : List Nat) : Array Bool :=
  places.foldl (fun r p => r.setIfInBounds p true) reached

/-- Marks every place that at most `rounds` steps lead to from the given places, which are marked
already; only places reached for the first time are stepped from again. -/
def reachWithin (step : List Nat → List Nat) : Nat → List Nat → Array Bool → Array Bool
  | 0, _, reached => reached
  | _ + 1, [], reached => reached
  | rounds + 1, places, reached =>
    let fresh := (step places).filter fun p => !reached.getD p true
    reachWithin step rounds fresh (markAll reached fresh)

/-- The places that are marked, in order. -/
def marked (reached : Array Bool) : List Nat :=
  (List.range reached.size).filter fun p => reached.getD p false

/-- The places where a text ends that begins at one of the given places. -/
def literalEnds (text : Array Char) : List Char → List Nat → List Nat
  | [], places => places
  | c :: rest, places =>
    literalEnds text rest ((places.filter fun p => text[p]? == some c).map (· + 1))

mutual

/-- The places where a match can end that begins at one of the given places. -/
def Regex.ends (text : Array Char) : Regex → List Nat → List Nat
  | .empty, places => places
  | .literal letters, places => literalEnds text letters places
  | .chars set _, places =>
    (places.filter fun p => text[p]?.any set.contains).map (· + 1)
  | .anchor at_ word, places =>
    places.filter fun p => at_.holds word (charBefore text p) text[p]?
  | .times inner least most _, places =>
    let start := stepTimes (inner.ends text) least places
    let rounds := most.elim (text.size + 1) fun m => min (m - least) (text.size + 1)
    if rounds = 0 then start
    else
      let none := (List.replicate (text.size + 1) false).toArray
      marked (reachWithin (inner.ends text) rounds start (markAll none start))
  | .group _ inner, places => inner.ends text places
  | .seq parts, places => Regex.endsOfSeq text parts places
  | .oneOf branches, places => Regex.endsOfAny text branches places

/-- The places where matches of patterns in a row can end. -/
def Regex.endsOfSeq (text : Array Char) : List Regex → List Nat → List Nat
  | [], places => places
  | part :: parts, places => Regex.endsOfSeq text parts (part.ends text places)

/-- The places where a match of any of several patterns can end. -/
def Regex.endsOfAny (text : Array Char) : List Regex → List Nat → List Nat
  | [], _ => []
  | branch :: branches, places =>
    mergePlaces (branch.ends text places) (Regex.endsOfAny text branches places)

end

/-- Whether a pattern matches anywhere in a text. -/
def Regex.occursIn (r : Regex) (text : String) : Bool :=
  let chars := text.toList.toArray
  !(r.ends chars (List.range (chars.size + 1))).isEmpty

end PauseWatch.Pattern
