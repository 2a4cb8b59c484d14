import PauseWatch.Text.CharSet

/-!
# Characters as rows of byte ranges

A range of characters is cut into pieces whose bytes vary independently: the first
byte of a piece runs over a range, the second over another, and so on. So a piece is a row of byte
ranges, and the pieces follow one another in the order of the characters.
-/

namespace PauseWatch.Text

/-- The bytes of the character with a given number. -/
def encodeCode (n : Nat) : List Nat :=
  if n < 0x80 then [n]
  else if n < 0x800 then [0xC0 + n / 64, 0x80 + n % 64]
  else if n < 0x10000 then [0xE0 + n / 4096, 0x80 + n / 64 % 64, 0x80 + n % 64]
  else [0xF0 + n / 262144, 0x80 + n / 4096 % 64, 0x80 + n / 64 % 64, 0x80 + n % 64]

/-- The last characters of one, two and three bytes. -/
def lastOfSizes : List Nat := [0x7F, 0x7FF, 0xFFFF]

/-- Where the bytes that hold the last `bits` bits keep a range from being one piece: the last
character of its first part. -/
def cutAt? (first last : Nat) (block : Nat) : Option Nat :=
  if first / block = last / block then none
  else if first % block ≠ 0 then some (first / block * block + (block - 1))
  else if last % block ≠ block - 1 then some (last / block * block - 1)
  else none

/-- The last character of the first part when a range is no single piece. -/
def splitAt? (first last : Nat) : Option Nat :=
  match lastOfSizes.find? fun m => first ≤ m && m < last with
  | some m => some m
  | none => if last < 0x80 then none else [64, 4096, 262144].findSome? (cutAt? first last)

/-- The pieces of the range from `first` to `last`, each as the first and the last byte of each of
its ranges; `fuel` bounds how often the range is cut. -/
def byteRowsWithin : Nat → Nat → Nat → List (List (Nat × Nat))
  | 0, _, _ => []
  | fuel + 1, first, last =>
    match splitAt? first last with
    | some m => byteRowsWithin fuel first m ++ byteRowsWithin fuel (m + 1) last
    | none => [(encodeCode first).zip (encodeCode last)]

/-- The pieces of a range of characters. A range is cut less than thirty times in a row. -/
def byteRows (first last : Nat) : List (List (Nat × Nat)) := byteRowsWithin 32 first last

/-- The pieces of a set of characters, without the surrogates in it. -/
def CharSet.byteRows (s : CharSet) : List (List (Nat × Nat)) :=
  s.toRanges.flatMap fun (first, stop) =>
    if first < 0xD800 ∧ 0xE000 < stop then
      Text.byteRows first 0xD7FF ++ Text.byteRows 0xE000 (stop - 1)
    else Text.byteRows first (stop - 1)

end PauseWatch.Text
