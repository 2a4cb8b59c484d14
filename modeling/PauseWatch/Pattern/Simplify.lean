import PauseWatch.Pattern.Basic

/-!
# Patterns in simplest form

Patterns are put together by functions that leave out what makes no difference: empty parts, rows in
rows, choices in choices, repetitions of nothing. Texts that follow one another become one text,
choices between characters become a set, and a start that all branches share is written once. The
size of the machine of a pattern depends on this form.
-/

namespace PauseWatch.Pattern

/-- How many bytes a character takes. -/
def codeSize (code : Nat) : Nat :=
  if code < 0x80 then 1 else if code < 0x800 then 2 else if code < 0x10000 then 3 else 4

/-- The least of the lengths of several branches, unless one of them never matches. -/
def leastOf : List (Option Nat) → Option Nat
  | [] => none
  | [n] => n
  | n :: rest => do some (min (← n) (← leastOf rest))

/-- The greatest of the lengths of several branches, unless one of them has no bound. -/
def greatestOf : List (Option Nat) → Option Nat
  | [] => none
  | [n] => n
  | n :: rest => do some (max (← n) (← greatestOf rest))

/-- The sum of lengths, if there are all of them. -/
def sumOf : List (Option Nat) → Option Nat
  | [] => some 0
  | n :: rest => do some ((← n) + (← sumOf rest))

mutual

/-- The least number of bytes that a match takes; `none` if nothing matches. -/
def Regex.minLength : Regex → Option Nat
  | .empty => some 0
  | .literal text => some (text.foldl (fun n c => n + codeSize c.toNat) 0)
  | .chars set _ => set.edges[0]?.map codeSize
  | .anchor _ _ => some 0
  | .times inner least _ _ => inner.minLength.map (least * ·)
  | .group _ inner => inner.minLength
  | .seq parts => sumOf (Regex.minLengths parts)
  | .oneOf branches => leastOf (Regex.minLengths branches)

/-- The least lengths of several patterns. -/
def Regex.minLengths : List Regex → List (Option Nat)
  | [] => []
  | part :: parts => part.minLength :: Regex.minLengths parts

end

mutual

/-- The greatest number of bytes that a match takes; `none` if there is no bound or no match. -/
def Regex.maxLength : Regex → Option Nat
  | .empty => some 0
  | .literal text => some (text.foldl (fun n c => n + codeSize c.toNat) 0)
  | .chars set _ => set.edges.back?.map fun stop => codeSize (stop - 1)
  | .anchor _ _ => some 0
  | .times inner _ most _ => do some ((← most) * (← inner.maxLength))
  | .group _ inner => inner.maxLength
  | .seq parts => sumOf (Regex.maxLengths parts)
  | .oneOf branches => greatestOf (Regex.maxLengths branches)

/-- The greatest lengths of several patterns. -/
def Regex.maxLengths : List Regex → List (Option Nat)
  | [] => []
  | part :: parts => part.maxLength :: Regex.maxLengths parts

end

mutual

/-- Whether two patterns are written alike. -/
def Regex.same : Regex → Regex → Bool
  | .empty, .empty => true
  | .literal a, .literal b => a == b
  | .chars a x, .chars b y => a == b && x == y
  | .anchor a v, .anchor b w => a == b && v == w
  | .times a l m x, .times b l' m' y => l == l' && m == m' && x == y && a.same b
  | .group n a, .group n' b => n == n' && a.same b
  | .seq as, .seq bs => Regex.sameAll as bs
  | .oneOf as, .oneOf bs => Regex.sameAll as bs
  | _, _ => false

/-- Whether two lists of patterns are written alike. -/
def Regex.sameAll : List Regex → List Regex → Bool
  | [], [] => true
  | a :: as, b :: bs => a.same b && Regex.sameAll as bs
  | _, _ => false

end

/-- The pattern without matches. -/
def Regex.never : Regex := .chars .empty true

/-- One character of a set. A set of one character is a text. -/
def Regex.ofSet (bytewise : Bool) (set : Text.CharSet) : Regex :=
  match set.edges.toList with
  | [] => .never
  | [first, stop] =>
    if stop = first + 1 then .literal [Char.ofNat first] else .chars set bytewise
  | _ => .chars set bytewise

/-- Texts that follow one another as one text. -/
def joinLiterals : List Regex → List Regex
  | [] => []
  | part :: parts =>
    match part, joinLiterals parts with
    | .literal a, .literal b :: rest => .literal (a ++ b) :: rest
    | part, rest => part :: rest

/-- The parts of a row of patterns, where rows in it are opened and empty patterns left out. -/
def openRows : List Regex → List Regex
  | [] => []
  | .empty :: parts => openRows parts
  | .seq inner :: parts => inner ++ openRows parts
  | part :: parts => part :: openRows parts

/-- Patterns one after another. -/
def Regex.ofParts (parts : List Regex) : Regex :=
  match joinLiterals (openRows parts) with
  | [] => .empty
  | [part] => part
  | parts => .seq parts

/-- The characters of branches that are single characters. -/
def singleChars? : List Regex → Option (List Char)
  | [] => some []
  | .literal [c] :: rest => (singleChars? rest).map (c :: ·)
  | _ => none

/-- The sets of branches that are sets of characters. -/
def charSets? : List Regex → Option (List Text.CharSet)
  | [] => some []
  | .chars set _ :: rest => (charSets? rest).map (set :: ·)
  | _ => none

/-- The parts of branches that are rows of patterns. -/
def rows? : List Regex → Option (List (List Regex))
  | [] => some []
  | .seq parts :: rest => (rows? rest).map (parts :: ·)
  | _ => none

/-- How many parts two rows share at their starts. -/
def sharedStart : List Regex → List Regex → Nat
  | a :: as, b :: bs => if a.same b then sharedStart as bs + 1 else 0
  | _, _ => 0

/-- How many parts all rows share with the first one at their starts. -/
def commonStart (first : List Regex) (rows : List (List Regex)) : Nat :=
  rows.foldl (fun n row => min n (sharedStart first row)) first.length

/-- The branches of a choice, where choices in it are opened. -/
def openChoices : List Regex → List Regex
  | [] => []
  | .oneOf inner :: rest => inner ++ openChoices rest
  | branch :: rest => branch :: openChoices rest

/-- A choice between branches that share no start. -/
def Regex.ofDistinct (branches : List Regex) : Regex :=
  match openChoices branches with
  | [] => .never
  | [branch] => branch
  | branches =>
    match singleChars? branches, charSets? branches with
    | some letters, _ => .ofSet false (.ofChars letters)
    | none, some sets => .ofSet false (.unionAll sets)
    | none, none => .oneOf branches

/-- A choice between branches. What remains behind a shared start is a choice too; `fuel` bounds how
often a start can be shared again. -/
def Regex.ofBranchesWithin : Nat → List Regex → Regex
  | 0, branches => .ofDistinct branches
  | fuel + 1, branches =>
    match Regex.ofDistinct branches with
    | .oneOf branches =>
      match rows? branches with
      | some (first :: others) =>
        match commonStart first others with
        | 0 => .oneOf branches
        | n =>
          let rests := (first :: others).map fun row => Regex.ofParts (row.drop n)
          .ofParts (first.take n ++ [.ofBranchesWithin fuel rests])
      | _ => .oneOf branches
    | other => other

/-- A choice between branches. -/
def Regex.ofBranches (branches : List Regex) : Regex :=
  .ofBranchesWithin (branches.length + 1) branches

/-- A pattern several times. What matches the empty text only is repeated once at most. -/
def Regex.repeated (inner : Regex) (least : Nat) (most : Option Nat) (lazy : Bool) : Regex :=
  let (least, most) :=
    if inner.maxLength = some 0 then (min least 1, some (most.elim 1 (min 1 ·))) else (least, most)
  if least = 0 ∧ most = some 0 then .empty
  else if least = 1 ∧ most = some 1 then inner
  else .times inner least most lazy

mutual

/-- Whether every match begins where a condition on places holds that stands at its start. -/
def Regex.startsAt (at_ : Anchor) : Regex → Bool
  | .anchor a _ => a == at_
  | .times inner least _ _ => least > 0 && inner.startsAt at_
  | .group _ inner => inner.startsAt at_
  | .seq parts => Regex.rowStartsAt at_ parts
  | .oneOf branches => Regex.allStartAt at_ branches
  | _ => false

/-- Whether a row of patterns starts with the condition. Parts that take no character let the next
part count too. -/
def Regex.rowStartsAt (at_ : Anchor) : List Regex → Bool
  | [] => false
  | part :: parts =>
    part.startsAt at_ || (part.maxLength == some 0 && Regex.rowStartsAt at_ parts)

/-- Whether all of several patterns start with the condition. -/
def Regex.allStartAt (at_ : Anchor) : List Regex → Bool
  | [] => true
  | branch :: branches => branch.startsAt at_ && Regex.allStartAt at_ branches

end

mutual

/-- The pattern with its rows in the opposite order. Texts stay as they are. -/
def Regex.mirror : Regex → Regex
  | .times inner least most lazy => .times inner.mirror least most lazy
  | .group n inner => .group n inner.mirror
  | .seq parts => .seq (Regex.mirrorAll parts).reverse
  | .oneOf branches => .oneOf (Regex.mirrorAll branches)
  | other => other

/-- Several patterns, each with its rows in the opposite order. -/
def Regex.mirrorAll : List Regex → List Regex
  | [] => []
  | part :: parts => part.mirror :: Regex.mirrorAll parts

end

end PauseWatch.Pattern
