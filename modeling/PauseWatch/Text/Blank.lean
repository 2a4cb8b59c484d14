import PauseWatch.Text.Split

/-!
# Blank characters and words

A character is blank when Unicode gives it the property White_Space. Words are the maximal runs of
characters that are not blank.
-/

namespace PauseWatch.Text

/-- The characters with the Unicode property White_Space. -/
def isBlank (c : Char) : Bool :=
  let n := c.toNat
  (9 ≤ n && n ≤ 13) || n == 0x20 || n == 0x85 || n == 0xA0 || n == 0x1680
    || (0x2000 ≤ n && n ≤ 0x200A) || n == 0x2028 || n == 0x2029 || n == 0x202F || n == 0x205F
    || n == 0x3000

/-- The maximal runs of characters that are not blank, in order. -/
def wordsOf (text : List Char) : List (List Char) :=
  (pieces isBlank text).filter (· ≠ [])

/-- The words of a text. -/
def words (text : String) : List String := (wordsOf text.toList).map String.ofList

/-- A text without the blank characters at its end. -/
def trimEnd (text : String) : String :=
  String.ofList (text.toList.reverse.dropWhile isBlank).reverse

/-- Whether a text holds nothing but blank characters. -/
def isBlankText (text : String) : Bool := text.toList.all isBlank

end PauseWatch.Text
