/-!
# The order of names with versions

Digits in a name count as a number, a tilde stands before everything, even before the end, and
letters stand before all other signs. What looks like the ending of a file counts only if the names
are the same without it.
-/

namespace PauseWatch.Tool

/-- The weight of the first character of a name where no digits are compared. -/
def nameWeight : List Char → Int
  | [] => -1
  | c :: _ =>
    if c.isDigit then 0 else if c.isAlpha then c.toNat else if c = '~' then -2 else c.toNat + 256

/-- Compares names up to where both have digits; what is left of them stands beside the result. -/
def compareSigns : Nat → List Char → List Char → Ordering × List Char × List Char
  | 0, a, b => (.eq, a, b)
  | fuel + 1, a, b =>
    let hasSign (chars : List Char) : Bool := chars.head?.any (!·.isDigit)
    if !hasSign a && !hasSign b then (.eq, a, b)
    else match compare (nameWeight a) (nameWeight b) with
      | .eq => compareSigns fuel a.tail b.tail
      | order => (order, a, b)

/-- Compares names with versions. -/
def compareParts : Nat → List Char → List Char → Ordering
  | 0, _, _ => .eq
  | _, [], [] => .eq
  | fuel + 1, a, b =>
    match compareSigns (a.length + b.length + 1) a b with
    | (.eq, a, b) =>
      let number (chars : List Char) : List Char := (chars.dropWhile (· = '0')).takeWhile Char.isDigit
      let m := number a
      let n := number b
      ((compare m.length n.length).then (compareOfLessAndEq m n)).then
        (compareParts fuel (a.dropWhile Char.isDigit) (b.dropWhile Char.isDigit))
    | (order, _, _) => order

/-- Whether some characters look like endings of a file and nothing else: points, each with a letter
or tilde behind it. -/
def areEndings : List Char → Bool
  | [] => true
  | '.' :: c :: rest =>
    (c.isAlpha || c = '~') && areEndings (rest.dropWhile fun c => c.isAlphanum || c = '~')
  | _ => false
  termination_by chars => chars.length
  decreasing_by
    have := (List.dropWhile_suffix (fun c => c.isAlphanum || c = '~') (l := rest)).length_le
    simp only [List.length_cons]
    omega

/-- A name without what looks like the endings of a file; the first character always stays. -/
def withoutEndings : List Char → List Char
  | [] => []
  | c :: rest => c :: (if areEndings rest then [] else withoutEndings rest)

/-- The order of names with versions. -/
def compareVersions (a b : List Char) : Ordering :=
  let rank (name : List Char) : Nat :=
    if name = [] then 0 else if name = ['.'] then 1 else if name = ['.', '.'] then 2
    else if name.head? = some '.' then 3 else 4
  let fuel := a.length + b.length + 1
  match compare (rank a) (rank b) with
  | .eq =>
    if rank a < 3 then .eq
    else
      (compareParts fuel (withoutEndings a) (withoutEndings b)).then (compareParts fuel a b)
  | order => order

end PauseWatch.Tool
