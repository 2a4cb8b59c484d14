/-!
# Sets of characters

A set of characters is kept as the increasing list of the places where membership changes, so a
character belongs to the set when an odd number of these places lie at or before it. Tables are
written as the gaps between neighbouring places; sets built from ranges are sorted and merged.
-/

namespace PauseWatch.Text

/-- A set of characters, as the places where membership changes. -/
structure CharSet where
  /-- The first character of the set, the first after it that is not of the set, and so on. -/
  edges : Array Nat
  deriving DecidableEq, Repr, Inhabited

namespace CharSet

/-- The number after that of the last character. -/
def bound : Nat := 0x110000

/-- Reads one more character of a list of decimal numbers: the sum of the numbers read before,
the number under way, and the sums so far. -/
def readGap (state : Nat × Nat × Array Nat) (c : Char) : Nat × Nat × Array Nat :=
  let (sum, number, edges) := state
  if c = ' ' then (sum + number, 0, edges.push (sum + number))
  else (sum, number * 10 + (c.toNat - '0'.toNat), edges)

/-- The set whose gaps are the given decimal numbers, with one space after each number. -/
def ofGaps (gaps : List String) : CharSet :=
  ⟨(gaps.foldl (fun state line => line.toList.foldl readGap state) (0, 0, #[])).2.2⟩

/-- How many entries of `edges` from `low` on and before `low + width` are at most `n`, plus `low`,
by halving the width. -/
def countUpTo (edges : Array Nat) (n : Nat) (low width : Nat) : Nat :=
  if h : width = 0 then low
  else
    let half := width / 2
    if edges.getD (low + half) 0 ≤ n then countUpTo edges n (low + half + 1) (width - half - 1)
    else countUpTo edges n low half
termination_by width
decreasing_by all_goals omega

/-- Whether the character with the number `n` belongs to the set. -/
def containsCode (s : CharSet) (n : Nat) : Bool :=
  countUpTo s.edges n 0 s.edges.size % 2 == 1

/-- Whether a character belongs to the set. -/
def contains (s : CharSet) (c : Char) : Bool := s.containsCode c.toNat

/-- The ranges between edges, each as its first number and the first number after it. -/
def pairUp : List Nat → List (Nat × Nat)
  | first :: stop :: rest => (first, stop) :: pairUp rest
  | [first] => [(first, bound)]
  | [] => []

/-- The set as ranges, each as its first number and the first number after it. -/
def toRanges (s : CharSet) : List (Nat × Nat) := pairUp s.edges.toList

/-- The edges of ranges sorted by their first numbers, where the ranges up to `stop` are already
written and ranges that touch are joined. -/
def joinRanges (edges : Array Nat) (first stop : Nat) : List (Nat × Nat) → Array Nat
  | [] => (edges.push first).push stop
  | (nextFirst, nextStop) :: rest =>
    if nextFirst ≤ stop then joinRanges edges first (max stop nextStop) rest
    else joinRanges ((edges.push first).push stop) nextFirst nextStop rest

/-- The set of the numbers in any of the ranges, each given by its first number and the first
number after it. -/
def ofRanges (ranges : List (Nat × Nat)) : CharSet :=
  match (ranges.filter fun r => r.1 < r.2).mergeSort fun a b => a.1 ≤ b.1 with
  | [] => ⟨#[]⟩
  | (first, stop) :: rest => ⟨joinRanges #[] first stop rest⟩

/-- The set without members. -/
def empty : CharSet := ⟨#[]⟩

/-- The set of all characters. -/
def all : CharSet := ⟨#[0, bound]⟩

/-- The set of one character. -/
def singleton (c : Char) : CharSet := ⟨#[c.toNat, c.toNat + 1]⟩

/-- The characters from `first` up to `last`. -/
def range (first last : Char) : CharSet := ofRanges [(first.toNat, last.toNat + 1)]

/-- The given characters. -/
def ofChars (chars : List Char) : CharSet := ofRanges (chars.map fun c => (c.toNat, c.toNat + 1))

/-- The characters of either set. -/
def union (s t : CharSet) : CharSet := ofRanges (s.toRanges ++ t.toRanges)

/-- The characters of any of the sets. -/
def unionAll (sets : List CharSet) : CharSet := ofRanges (sets.flatMap toRanges)

/-- The ranges between and around sorted ranges, from `low` on. -/
def gapsFrom (low : Nat) : List (Nat × Nat) → List (Nat × Nat)
  | [] => [(low, bound)]
  | (first, stop) :: rest => (low, first) :: gapsFrom stop rest

/-- A range without the surrogates at its ends, which are no characters. -/
def trimSurrogates (r : Nat × Nat) : Nat × Nat :=
  (if 0xD800 ≤ r.1 ∧ r.1 < 0xE000 then 0xE000 else r.1,
    if 0xD800 < r.2 ∧ r.2 ≤ 0xE000 then 0xD800 else r.2)

/-- The characters that do not belong to the set. -/
def compl (s : CharSet) : CharSet := ofRanges ((gapsFrom 0 s.toRanges).map trimSurrogates)

/-- The characters of both sets. -/
def inter (s t : CharSet) : CharSet := (s.compl.union t.compl).compl

/-- The characters of the first set that are not in the second. -/
def diff (s t : CharSet) : CharSet := (s.compl.union t).compl

/-- The characters of exactly one of the sets. -/
def symmDiff (s t : CharSet) : CharSet := (s.diff t).union (t.diff s)

/-- Whether all characters of the set are ASCII characters. -/
def isAscii (s : CharSet) : Bool := s.toRanges.all fun r => r.2 ≤ 0x80

end CharSet

end PauseWatch.Text
