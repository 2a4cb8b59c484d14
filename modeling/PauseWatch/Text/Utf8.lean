/-!
# Bytes as text

Bytes are read one at a time by a small machine whose state is the character begun and not yet
complete. A byte that cannot continue the character begun ends it as malformed and is then read as
the start of the next one, so each maximal malformed run counts once.
-/

namespace PauseWatch.Text.Utf8

/-- A character whose first bytes have been read. -/
structure Begun where
  /-- The bits gathered so far. -/
  value : Nat
  /-- How many bytes are still to come, less one. -/
  more : Nat
  /-- The least byte that may come next. -/
  low : Nat
  /-- The greatest byte that may come next. -/
  high : Nat
  deriving DecidableEq, Repr

/-- What a byte at the start of a character means. -/
inductive Start where
  /-- The byte is a character. -/
  | whole (c : Char)
  /-- The byte begins a longer character. -/
  | begun (b : Begun)
  /-- No character starts with the byte. -/
  | malformed
  deriving DecidableEq, Repr

/-- Reads the first byte of a character. The bounds on the second byte rule out overlong forms,
surrogates and values beyond the last character. -/
def start (b : UInt8) : Start :=
  let n := b.toNat
  if n < 0x80 then .whole (Char.ofNat n)
  else if n < 0xC2 then .malformed
  else if n < 0xE0 then .begun ⟨n - 0xC0, 0, 0x80, 0xBF⟩
  else if n = 0xE0 then .begun ⟨0, 1, 0xA0, 0xBF⟩
  else if n = 0xED then .begun ⟨0xD, 1, 0x80, 0x9F⟩
  else if n < 0xF0 then .begun ⟨n - 0xE0, 1, 0x80, 0xBF⟩
  else if n = 0xF0 then .begun ⟨0, 2, 0x90, 0xBF⟩
  else if n < 0xF4 then .begun ⟨n - 0xF0, 2, 0x80, 0xBF⟩
  else if n = 0xF4 then .begun ⟨4, 2, 0x80, 0x8F⟩
  else .malformed

/-- Reads bytes after those of `pending`; each item of the result is a character, or `none` for a
malformed run. The items read before stand in `done`, last first. -/
def scanFrom (done : List (Option Char)) : Option Begun → List UInt8 → List (Option Char)
  | none, [] => done.reverse
  | some _, [] => (none :: done).reverse
  | none, b :: rest =>
    match start b with
    | .whole c => scanFrom (some c :: done) none rest
    | .begun p => scanFrom done (some p) rest
    | .malformed => scanFrom (none :: done) none rest
  | some p, b :: rest =>
    if p.low ≤ b.toNat ∧ b.toNat ≤ p.high then
      let value := p.value * 64 + (b.toNat - 0x80)
      match p.more with
      | 0 => scanFrom (some (Char.ofNat value) :: done) none rest
      | more + 1 => scanFrom done (some ⟨value, more, 0x80, 0xBF⟩) rest
    else
      match start b with
      | .whole c => scanFrom (some c :: none :: done) none rest
      | .begun q => scanFrom (none :: done) (some q) rest
      | .malformed => scanFrom (none :: none :: done) none rest

/-- The characters of `bytes`, with `none` for each malformed run. -/
def scan (bytes : List UInt8) : List (Option Char) := scanFrom [] none bytes

/-- The character that stands for a malformed run. -/
def replacement : Char := Char.ofNat 0xFFFD

/-- The text of `bytes`, where each malformed run reads as one replacement character. -/
def decode (bytes : List UInt8) : String :=
  String.ofList ((scan bytes).map (·.getD replacement))

/-- The text of `bytes`, if none of it is malformed. -/
def decode? (bytes : List UInt8) : Option String :=
  let items := scan bytes
  if items.all Option.isSome then some (String.ofList (items.filterMap id)) else none

/-- The bytes of a text. -/
def encode (text : String) : List UInt8 := text.toList.flatMap String.utf8EncodeChar

end PauseWatch.Text.Utf8
