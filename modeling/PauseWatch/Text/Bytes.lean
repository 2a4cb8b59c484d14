/-!
# Bytes as characters

Programs that work on bytes are easier to read when bytes are characters: a byte stands for the
character with its number, so a text of such characters has one character a byte.
-/

namespace PauseWatch.Text

/-- Bytes as a text with one character a byte. -/
def ofByteList (bytes : List UInt8) : String :=
  String.ofList (bytes.map fun b => Char.ofNat b.toNat)

/-- The bytes of a text with one character a byte. -/
def toByteList (text : String) : List UInt8 := text.toList.map fun c => UInt8.ofNat c.toNat

end PauseWatch.Text
