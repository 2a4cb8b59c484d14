import Mathlib.Algebra.Group.Nat.Defs
import Mathlib.Data.List.Induction
import Mathlib.Data.Nat.Find
import PauseWatch.Text.Utf8

/-!
# What bytes read as

Bytes are divided from left to right into encodings of characters and malformed runs. A malformed
run stands where no character is encoded: it is the longest part there with which the encoding of
some character starts, or one byte if there is none. All bytes can be divided so in exactly one way,
and the machine that reads one byte after the other finds it. In particular the encoding of a text
reads as that text.
-/

namespace PauseWatch.Text.Utf8

/-- Whether the encoding of some character starts with some bytes. -/
def Begins (part : List UInt8) : Prop := ∃ c : Char, part <+: String.utf8EncodeChar c

/-- A malformed run in front of other bytes. -/
structure Malformed (run rest : List UInt8) : Prop where
  /-- The run has bytes. -/
  ne_nil : run ≠ []
  /-- No character is encoded where the run starts. -/
  not_encoded : ∀ c, ¬ String.utf8EncodeChar c <+: run ++ rest
  /-- A character begins with the run, unless it is a single byte. -/
  begins_or : Begins run ∨ run.length = 1
  /-- No character begins with more of the bytes than the run. -/
  longest : ∀ part, part <+: run ++ rest → Begins part → part.length ≤ run.length

/-- How bytes read: as characters, and as `none` for each malformed run. -/
inductive Reads : List UInt8 → List (Option Char) → Prop where
  /-- No bytes. -/
  | nil : Reads [] []
  /-- The encoding of a character, and more. -/
  | char {rest : List UInt8} {items : List (Option Char)} (c : Char) (h : Reads rest items) :
    Reads (String.utf8EncodeChar c ++ rest) (some c :: items)
  /-- A malformed run, and more. -/
  | malformed {run rest : List UInt8} {items : List (Option Char)} (hrun : Malformed run rest)
    (h : Reads rest items) : Reads (run ++ rest) (none :: items)

theorem Begins.of_isPrefix {part longer : List UInt8} (h : Begins longer) (hp : part <+: longer) :
    Begins part := by
  obtain ⟨c, hc⟩ := h
  exact ⟨c, hp.trans hc⟩

/-- Where no character is encoded, there is a malformed run. -/
theorem exists_malformed {bytes : List UInt8} (hne : bytes ≠ [])
    (hnone : ∀ c, ¬ String.utf8EncodeChar c <+: bytes) :
    ∃ run rest, run ++ rest = bytes ∧ Malformed run rest := by
  classical
  let begins (n : Nat) : Prop := Begins (bytes.take n)
  let n := Nat.findGreatest begins bytes.length
  have hn : n ≤ bytes.length := Nat.findGreatest_le _
  have hlength : 0 < bytes.length := List.length_pos_iff.mpr hne
  have hsplit : bytes.take (max n 1) ++ bytes.drop (max n 1) = bytes := List.take_append_drop _ _
  refine ⟨bytes.take (max n 1), bytes.drop (max n 1), hsplit, ?_, ?_, ?_, ?_⟩
  · rw [← List.length_pos_iff, List.length_take]
    omega
  · rwa [hsplit]
  · rcases Nat.eq_zero_or_pos n with hzero | hpos
    · refine .inr ?_
      rw [List.length_take]
      omega
    · have hempty : begins 0 := ⟨default, List.nil_prefix⟩
      rw [max_eq_left hpos]
      exact .inl (Nat.findGreatest_spec (P := begins) (Nat.zero_le _) hempty)
  · intro part hpart hbegins
    rw [hsplit] at hpart
    rw [List.prefix_iff_eq_take.mp hpart] at hbegins
    have hle : part.length ≤ n := Nat.le_findGreatest hpart.length_le hbegins
    rw [List.length_take]
    omega

/-- All bytes can be divided. -/
theorem exists_reads (bytes : List UInt8) : ∃ items, Reads bytes items := by
  induction hlength : bytes.length using Nat.strongRecOn generalizing bytes with
  | ind n ih =>
    by_cases hne : bytes = []
    · exact ⟨[], hne ▸ .nil⟩
    by_cases hchar : ∃ c, String.utf8EncodeChar c <+: bytes
    · obtain ⟨c, rest, rfl⟩ := hchar
      have hpos := List.length_pos_iff.mpr (String.utf8EncodeChar_ne_nil (c := c))
      rw [List.length_append] at hlength
      obtain ⟨items, hitems⟩ := ih rest.length (by omega) rest rfl
      exact ⟨_, .char c hitems⟩
    · obtain ⟨run, rest, rfl, hrun⟩ := exists_malformed hne (not_exists.mp hchar)
      have hpos := List.length_pos_iff.mpr hrun.ne_nil
      rw [List.length_append] at hlength
      obtain ⟨items, hitems⟩ := ih rest.length (by omega) rest rfl
      exact ⟨_, .malformed hrun hitems⟩

/-- The first byte of the encoding of the character with a number. -/
def lead (v : Nat) : Nat :=
  if v ≤ 0x7F then v
  else if v ≤ 0x7FF then v / 64 + 0xC0
  else if v ≤ 0xFFFF then v / 4096 + 0xE0
  else v / 262144 + 0xF0

/-- How many bytes follow the first. -/
def following (v : Nat) : Nat :=
  if v ≤ 0x7F then 0 else if v ≤ 0x7FF then 1 else if v ≤ 0xFFFF then 2 else 3

/-- The last bytes of an encoding, which carry six bits each. -/
def trail (v : Nat) : Nat → List UInt8
  | 0 => []
  | n + 1 => UInt8.ofNat (0x80 + v / 64 ^ n % 64) :: trail v n

theorem lead_following (v : Nat) :
    (v ≤ 0x7F ∧ following v = 0 ∧ lead v = v) ∨
    (0x7F < v ∧ v ≤ 0x7FF ∧ following v = 1 ∧ lead v = v / 64 + 0xC0) ∨
    (0x7FF < v ∧ v ≤ 0xFFFF ∧ following v = 2 ∧ lead v = v / 4096 + 0xE0) ∨
    (0xFFFF < v ∧ following v = 3 ∧ lead v = v / 262144 + 0xF0) := by
  unfold following lead
  by_cases h1 : v ≤ 0x7F
  · exact .inl ⟨h1, if_pos h1, if_pos h1⟩
  rw [if_neg h1, if_neg h1]
  by_cases h2 : v ≤ 0x7FF
  · exact .inr (.inl ⟨by omega, h2, if_pos h2, if_pos h2⟩)
  rw [if_neg h2, if_neg h2]
  by_cases h3 : v ≤ 0xFFFF
  · exact .inr (.inr (.inl ⟨by omega, h3, if_pos h3, if_pos h3⟩))
  · exact .inr (.inr (.inr ⟨by omega, if_neg h3, if_neg h3⟩))

/-- The number of a character is no surrogate and not beyond the last one. -/
theorem toNat_bounds (c : Char) : c.toNat < 0xD800 ∨ 0xDFFF < c.toNat ∧ c.toNat < 0x110000 :=
  c.valid

theorem toNat_ofNat {v : Nat} (h : v.isValidChar) : (Char.ofNat v).toNat = v := by
  rw [Char.ofNat, dif_pos h]
  rfl

theorem utf8EncodeChar_eq (c : Char) :
    String.utf8EncodeChar c = UInt8.ofNat (lead c.toNat) :: trail c.toNat (following c.toNat) := by
  have hbounds := toNat_bounds c
  have hnumber : c.val.toNat = c.toNat := rfl
  rw [String.utf8EncodeChar, hnumber, lead, following]
  split
  · rfl
  split
  · simp [trail, Nat.add_comm, Nat.mod_eq_of_lt (show c.toNat / 64 < 32 by omega)]
  split
  · simp [trail, Nat.add_comm, Nat.mod_eq_of_lt (show c.toNat / 4096 < 16 by omega)]
  · simp [trail, Nat.add_comm, Nat.mod_eq_of_lt (show c.toNat / 262144 < 8 by omega)]

theorem ofNat_eq_iff {n : Nat} (h : n < 256) (b : UInt8) : UInt8.ofNat n = b ↔ n = b.toNat := by
  constructor
  · rintro rfl
    rw [UInt8.toNat_ofNat', Nat.mod_eq_of_lt h]
  · rintro rfl
    exact UInt8.ofNat_toNat

/-- An encoding is known from its first byte and its last ones. -/
theorem utf8EncodeChar_eq_cons_iff (c : Char) (b : UInt8) (t : List UInt8) :
    String.utf8EncodeChar c = b :: t ↔
      lead c.toNat = b.toNat ∧ t = trail c.toNat (following c.toNat) := by
  have hbounds := toNat_bounds c
  have hlead : lead c.toNat < 256 := by
    have := lead_following c.toNat
    omega
  rw [utf8EncodeChar_eq, List.cons.injEq, ofNat_eq_iff hlead, eq_comm (a := t)]

theorem trail_ne_nil (v n : Nat) : trail v (n + 1) ≠ [] := List.cons_ne_nil _ _

theorem cons_eq_trail_iff {b : UInt8} {t : List UInt8} {v n : Nat} :
    b :: t = trail v (n + 1) ↔ 0x80 + v / 64 ^ n % 64 = b.toNat ∧ t = trail v n := by
  rw [trail, List.cons.injEq, eq_comm (a := b), ofNat_eq_iff (by omega)]

/-- What the first byte of a character says: the bits in it, how many bytes follow, and the bounds
of the second byte. These rule out overlong forms, surrogates and numbers beyond the last one. -/
inductive StartsAs (b : UInt8) : Start → Prop where
  /-- The character is that byte. -/
  | one (h : b.toNat < 0x80) : StartsAs b (.whole (Char.ofNat b.toNat))
  /-- One byte follows. -/
  | two {value : Nat} (h : b.toNat = value + 0xC0) (hvalue : 2 ≤ value ∧ value < 0x20) :
    StartsAs b (.begun ⟨value, 0, 0x80, 0xBF⟩)
  /-- Two bytes follow. -/
  | three {value low high : Nat} (h : b.toNat = value + 0xE0) (hvalue : value < 0x10)
    (hlow : low = 0xA0 ∧ value = 0 ∨ low = 0x80 ∧ value ≠ 0)
    (hhigh : high = 0x9F ∧ value = 0xD ∨ high = 0xBF ∧ value ≠ 0xD) :
    StartsAs b (.begun ⟨value, 1, low, high⟩)
  /-- Three bytes follow. -/
  | four {value low high : Nat} (h : b.toNat = value + 0xF0) (hvalue : value ≤ 4)
    (hlow : low = 0x90 ∧ value = 0 ∨ low = 0x80 ∧ value ≠ 0)
    (hhigh : high = 0x8F ∧ value = 4 ∨ high = 0xBF ∧ value ≠ 4) :
    StartsAs b (.begun ⟨value, 2, low, high⟩)
  /-- No character starts with that byte. -/
  | none (h : 0x80 ≤ b.toNat ∧ b.toNat < 0xC2 ∨ 0xF4 < b.toNat) : StartsAs b .malformed

theorem startsAs (b : UInt8) : StartsAs b (start b) := by
  unfold start
  dsimp only
  refine iteInduction (fun h => .one h) fun h1 => ?_
  refine iteInduction (fun h => .none (by omega)) fun h2 => ?_
  refine iteInduction (fun h => .two (by omega) (by omega)) fun h3 => ?_
  refine iteInduction (fun h => .three (by omega) (by omega) (by omega) (by omega)) fun h4 => ?_
  refine iteInduction (fun h => .three (by omega) (by omega) (by omega) (by omega)) fun h5 => ?_
  refine iteInduction (fun h => .three (by omega) (by omega) (by omega) (by omega)) fun h6 => ?_
  refine iteInduction (fun h => .four (by omega) (by omega) (by omega) (by omega)) fun h7 => ?_
  refine iteInduction (fun h => .four (by omega) (by omega) (by omega) (by omega)) fun h8 => ?_
  refine iteInduction (fun h => .four (by omega) (by omega) (by omega) (by omega)) fun h9 => ?_
  exact .none (by omega)

/-- Whether a character that has been begun may become the one with a number: the bits gathered so
far are its first ones, and the next byte would be within the bounds. -/
def Begun.Fits (p : Begun) (v : Nat) : Prop :=
  v / 64 ^ (p.more + 1) = p.value ∧ p.low ≤ 0x80 + v / 64 ^ p.more % 64 ∧
    0x80 + v / 64 ^ p.more % 64 ≤ p.high

/-- Whether the machine may read a byte as the next one of a character. -/
def Begun.Accepts (p : Begun) (b : UInt8) : Prop := p.low ≤ b.toNat ∧ b.toNat ≤ p.high

/-- The state after a byte that is not the last one of a character. -/
def Begun.next (p : Begun) (b : UInt8) (more : Nat) : Begun :=
  ⟨p.value * 64 + (b.toNat - 0x80), more, 0x80, 0xBF⟩

/-- What the machine knows after the first bytes of a character. -/
structure Stands (part : List UInt8) (p : Begun) : Prop where
  /-- The characters that begin with these bytes and have more are those that fit. -/
  encode_iff : ∀ c t, String.utf8EncodeChar c = part ++ t ∧ t ≠ [] ↔
    p.Fits c.toNat ∧ t = trail c.toNat (p.more + 1)
  /-- A number that fits is that of a character. -/
  isValidChar : ∀ v, p.Fits v → v.isValidChar
  /-- The next byte is one of those that follow a first one. -/
  le_low : 0x80 ≤ p.low
  /-- The next byte is one of those that follow a first one. -/
  high_le : p.high ≤ 0xBF

section States

variable {part : List UInt8} {p : Begun} {b : UInt8}

/-- The first byte tells how many follow. -/
theorem following_eq (h : start b = .begun p) {v : Nat} (hv : v < 0x110000)
    (hlead : lead v = b.toNat) : following v = p.more + 1 := by
  have hcases := lead_following v
  have hstart := startsAs b
  rw [h] at hstart
  cases hstart <;> dsimp only <;> omega

/-- The characters with a first byte are those that fit. -/
theorem lead_eq_iff (h : start b = .begun p) {v : Nat}
    (hv : v < 0xD800 ∨ 0xDFFF < v ∧ v < 0x110000) : lead v = b.toNat ↔ p.Fits v := by
  have hcases := lead_following v
  have hstart := startsAs b
  rw [h] at hstart
  cases hstart <;> simp only [Begun.Fits, Nat.zero_add, Nat.pow_zero, Nat.pow_one, Nat.div_one,
    Nat.reduceAdd, Nat.reducePow] <;> omega

theorem isValidChar_of_fits (h : start b = .begun p) {v : Nat} (hv : p.Fits v) :
    v.isValidChar := by
  change v < 0xD800 ∨ 0xDFFF < v ∧ v < 0x110000
  have hstart := startsAs b
  rw [h] at hstart
  cases hstart <;> simp only [Begun.Fits, Nat.zero_add, Nat.pow_zero, Nat.pow_one, Nat.div_one,
    Nat.reduceAdd, Nat.reducePow] at hv <;> omega

theorem stands_start (h : start b = .begun p) : Stands [b] p where
  encode_iff c t := by
    have hbounds := toNat_bounds c
    rw [List.singleton_append, utf8EncodeChar_eq_cons_iff, ← lead_eq_iff h hbounds]
    constructor
    · rintro ⟨⟨hlead, ht⟩, -⟩
      exact ⟨hlead, by rw [ht, following_eq h (by omega) hlead]⟩
    · rintro ⟨hlead, rfl⟩
      exact ⟨⟨hlead, by rw [following_eq h (by omega) hlead]⟩, trail_ne_nil _ _⟩
  isValidChar v hv := isValidChar_of_fits h hv
  le_low := by
    have hstart := startsAs b
    rw [h] at hstart
    cases hstart <;> dsimp only <;> omega
  high_le := by
    have hstart := startsAs b
    rw [h] at hstart
    cases hstart <;> dsimp only <;> omega

theorem Stands.fits_next_iff {more v : Nat} (h : Stands part p) (hmore : p.more = more + 1)
    (hb : p.Accepts b) :
    (p.next b more).Fits v ↔ p.Fits v ∧ 0x80 + v / 64 ^ p.more % 64 = b.toNat := by
  have hlow := h.le_low
  have hhigh := h.high_le
  obtain ⟨hle, hge⟩ := hb
  rw [Begun.Fits, Begun.Fits, Nat.pow_succ 64 p.more, ← Nat.div_div_eq_div_mul, hmore]
  dsimp only [Begun.next]
  omega

/-- A byte that is not the last one leaves the characters that have it in its place. -/
theorem Stands.next {more : Nat} (h : Stands part p) (hmore : p.more = more + 1)
    (hb : p.Accepts b) : Stands (part ++ [b]) (p.next b more) where
  encode_iff c t := by
    have hpart := h.encode_iff c (b :: t)
    rw [cons_eq_trail_iff, hmore] at hpart
    rw [h.fits_next_iff hmore hb, List.append_assoc, List.singleton_append, hmore]
    constructor
    · rintro ⟨hc, -⟩
      obtain ⟨hfits, hbyte, ht⟩ := hpart.mp ⟨hc, List.cons_ne_nil _ _⟩
      exact ⟨⟨hfits, hbyte⟩, ht⟩
    · rintro ⟨⟨hfits, hbyte⟩, ht⟩
      exact ⟨(hpart.mpr ⟨hfits, hbyte, ht⟩).1, ht ▸ trail_ne_nil _ _⟩
  isValidChar v hv := h.isValidChar v ((h.fits_next_iff hmore hb).mp hv).1
  le_low := Nat.le_refl _
  high_le := Nat.le_refl _

/-- A byte is accepted exactly if some character begins with it behind what was read. -/
theorem Stands.begins_iff (h : Stands part p) : Begins (part ++ [b]) ↔ p.Accepts b := by
  have hlow := h.le_low
  have hhigh := h.high_le
  constructor
  · rintro ⟨c, t, ht⟩
    rw [List.append_assoc, List.singleton_append] at ht
    obtain ⟨⟨-, hle, hge⟩, htrail⟩ := (h.encode_iff c (b :: t)).mp ⟨ht.symm, List.cons_ne_nil _ _⟩
    rw [(cons_eq_trail_iff.mp htrail).1] at hle hge
    exact ⟨hle, hge⟩
  · rintro ⟨hle, hge⟩
    let v := (p.value * 64 + (b.toNat - 0x80)) * 64 ^ p.more
    have hv : v / 64 ^ p.more = p.value * 64 + (b.toNat - 0x80) :=
      Nat.mul_div_cancel _ (Nat.pow_pos (by decide))
    have hfits : p.Fits v := by
      rw [Begun.Fits, Nat.pow_succ, ← Nat.div_div_eq_div_mul, hv]
      omega
    have hnumber : (Char.ofNat v).toNat = v := toNat_ofNat (h.isValidChar v hfits)
    have htrail : b :: trail v p.more = trail v (p.more + 1) := by
      rw [cons_eq_trail_iff, hv]
      exact ⟨by omega, rfl⟩
    obtain ⟨hc, -⟩ := (h.encode_iff (Char.ofNat v) (b :: trail v p.more)).mpr
      (by rw [hnumber]; exact ⟨hfits, htrail⟩)
    exact ⟨Char.ofNat v, trail v p.more, by rw [hc, List.append_assoc, List.singleton_append]⟩

theorem utf8EncodeChar_of_whole {c : Char} (h : start b = .whole c) :
    String.utf8EncodeChar c = [b] := by
  have hstart := startsAs b
  rw [h] at hstart
  cases hstart with
  | one hb =>
    have hcases := lead_following b.toNat
    have hnumber : (Char.ofNat b.toNat).toNat = b.toNat := toNat_ofNat (.inl (by omega))
    rw [utf8EncodeChar_eq_cons_iff, hnumber, show following b.toNat = 0 by omega]
    exact ⟨by omega, rfl⟩

theorem begins_of_begun (h : start b = .begun p) : Begins [b] := by
  have hstart := startsAs b
  rw [h] at hstart
  have haccepts : p.Accepts (UInt8.ofNat p.low) := by
    rw [Begun.Accepts, UInt8.toNat_ofNat']
    cases hstart <;> dsimp only <;> omega
  exact ((stands_start h).begins_iff.mpr haccepts).of_isPrefix (List.prefix_append _ _)

theorem not_begins_of_malformed (h : start b = .malformed) : ¬ Begins [b] := by
  rintro ⟨c, t, hc⟩
  obtain ⟨hlead, -⟩ := (utf8EncodeChar_eq_cons_iff c b t).mp hc.symm
  have hbounds := toNat_bounds c
  have hcases := lead_following c.toNat
  have hstart := startsAs b
  rw [h] at hstart
  cases hstart
  omega

end States

section Scanning

variable {done : List (Option Char)} {rest : List UInt8} {p : Begun} {b : UInt8}

theorem scanFrom_begun (h : start b = .begun p) :
    scanFrom done none (b :: rest) = scanFrom done (some p) rest := by
  rw [scanFrom, h]

theorem scanFrom_next {more : Nat} (hmore : p.more = more + 1) (hb : p.Accepts b) :
    scanFrom done (some p) (b :: rest) = scanFrom done (some (p.next b more)) rest := by
  rw [Begun.Accepts] at hb
  rw [scanFrom, if_pos hb]
  simp only [hmore]
  rfl

theorem scanFrom_last (hmore : p.more = 0) (hb : p.Accepts b) :
    scanFrom done (some p) (b :: rest) =
      scanFrom (some (Char.ofNat (p.value * 64 + (b.toNat - 0x80))) :: done) none rest := by
  rw [Begun.Accepts] at hb
  rw [scanFrom, if_pos hb]
  simp only [hmore]

theorem scanFrom_refused (hb : ¬ p.Accepts b) :
    scanFrom done (some p) (b :: rest) = scanFrom (none :: done) none (b :: rest) := by
  rw [Begun.Accepts] at hb
  simp only [scanFrom, if_neg hb]

/-- The bytes behind the first ones bring the machine to the end of a character. -/
theorem scanFrom_trail {part : List UInt8} {c : Char} {n : Nat} (h : Stands part p)
    (hn : p.more = n) (hfits : p.Fits c.toNat) :
    scanFrom done (some p) (trail c.toNat (n + 1) ++ rest) =
      scanFrom (some c :: done) none rest := by
  induction n generalizing p part with
  | zero =>
    obtain ⟨b, hb⟩ : ∃ b, trail c.toNat 1 = [b] := ⟨_, rfl⟩
    have hbyte := (cons_eq_trail_iff.mp hb.symm).1
    rw [Begun.Fits, hn, Nat.zero_add, Nat.pow_one, Nat.pow_zero, Nat.div_one] at hfits
    rw [Nat.pow_zero, Nat.div_one] at hbyte
    obtain ⟨hfront, hle, hge⟩ := hfits
    have hc : p.value * 64 + (b.toNat - 0x80) = c.toNat := by omega
    rw [hb, List.singleton_append, scanFrom_last hn ⟨by omega, by omega⟩, hc, Char.ofNat_toNat]
  | succ n ih =>
    obtain ⟨b, hb⟩ : ∃ b, trail c.toNat (n + 2) = b :: trail c.toNat (n + 1) := ⟨_, rfl⟩
    have hbyte := (cons_eq_trail_iff.mp hb.symm).1
    rw [← hn] at hbyte
    have haccepts : p.Accepts b := by
      rw [Begun.Accepts, ← hbyte]
      exact hfits.2
    rw [hb, List.cons_append, scanFrom_next hn haccepts]
    exact ih (h.next hn haccepts) rfl ((h.fits_next_iff hn haccepts).mpr ⟨hfits, hbyte⟩)

/-- A character is found where it is encoded. -/
theorem scanFrom_utf8EncodeChar (c : Char) :
    scanFrom done none (String.utf8EncodeChar c ++ rest) = scanFrom (some c :: done) none rest := by
  obtain ⟨b, t, hc⟩ : ∃ b t, String.utf8EncodeChar c = b :: t := ⟨_, _, utf8EncodeChar_eq c⟩
  obtain ⟨hlead, ht⟩ := (utf8EncodeChar_eq_cons_iff c b t).mp hc
  have hbounds := toNat_bounds c
  have hcases := lead_following c.toNat
  have hstart := startsAs b
  rw [hc, List.cons_append]
  cases h : start b with
  | whole d =>
    rw [h] at hstart
    cases hstart with
    | one hb =>
      have hfollowing : following c.toNat = 0 := by omega
      have hnumber : b.toNat = c.toNat := by omega
      rw [scanFrom, h, ht, hfollowing, hnumber, Char.ofNat_toNat]
      rfl
  | begun p =>
    rw [scanFrom_begun h, ht, following_eq h (by omega) hlead]
    exact scanFrom_trail (stands_start h) rfl ((lead_eq_iff h hbounds).mp hlead)
  | malformed =>
    have hbegins : Begins [b] := ⟨c, t, by rw [hc, List.singleton_append]⟩
    exact absurd hbegins (not_begins_of_malformed h)

/-- After bytes with which some character begins and none ends, the machine has begun one. -/
theorem exists_stands {part : List UInt8} (hne : part ≠ []) (hbegins : Begins part)
    (hnone : ∀ c, ¬ String.utf8EncodeChar c <+: part) :
    ∃ p, Stands part p ∧ ∀ done rest,
      scanFrom done none (part ++ rest) = scanFrom done (some p) rest := by
  induction part using List.reverseRecOn with
  | nil => exact absurd rfl hne
  | append_singleton part b ih =>
    by_cases hpart : part = []
    · subst hpart
      cases h : start b with
      | whole c => exact absurd (utf8EncodeChar_of_whole h ▸ List.prefix_refl _) (hnone c)
      | begun p => exact ⟨p, stands_start h, fun done rest => scanFrom_begun h⟩
      | malformed => exact absurd hbegins (not_begins_of_malformed h)
    · obtain ⟨p, hstands, hscan⟩ := ih hpart (hbegins.of_isPrefix (List.prefix_append _ _))
        fun c hc => hnone c (hc.trans (List.prefix_append _ _))
      have haccepts := hstands.begins_iff.mp hbegins
      cases hmore : p.more with
      | zero =>
        obtain ⟨c, t, hc⟩ := hbegins
        rw [List.append_assoc, List.singleton_append] at hc
        obtain ⟨-, ht⟩ := (hstands.encode_iff c (b :: t)).mp ⟨hc.symm, List.cons_ne_nil _ _⟩
        rw [hmore, cons_eq_trail_iff] at ht
        rw [ht.2] at hc
        exact absurd (hc ▸ List.prefix_refl _) (hnone c)
      | succ more =>
        refine ⟨p.next b more, hstands.next hmore haccepts, fun done rest => ?_⟩
        rw [List.append_assoc, hscan, List.singleton_append, scanFrom_next hmore haccepts]

/-- A malformed run is found where there is one. -/
theorem scanFrom_malformed {run : List UInt8} (h : Malformed run rest) :
    scanFrom done none (run ++ rest) = scanFrom (none :: done) none rest := by
  have hnone (c : Char) (hc : String.utf8EncodeChar c <+: run) : False :=
    h.not_encoded c (hc.trans (List.prefix_append _ _))
  by_cases hbegins : Begins run
  · obtain ⟨p, hstands, hscan⟩ := exists_stands h.ne_nil hbegins hnone
    rw [hscan]
    cases rest with
    | nil => rfl
    | cons b rest =>
      refine scanFrom_refused fun hb => ?_
      have hlonger := h.longest (run ++ [b]) (by simp) (hstands.begins_iff.mpr hb)
      rw [List.length_append, List.length_singleton] at hlonger
      omega
  · obtain ⟨b, rfl⟩ := List.length_eq_one_iff.mp (h.begins_or.resolve_left hbegins)
    cases hstart : start b with
    | whole c => exact (hnone c (utf8EncodeChar_of_whole hstart ▸ List.prefix_refl _)).elim
    | begun p => exact absurd (begins_of_begun hstart) hbegins
    | malformed => rw [List.singleton_append, scanFrom, hstart]

/-- The machine finds how bytes read. -/
theorem Reads.scanFrom_eq {bytes : List UInt8} {items : List (Option Char)} (h : Reads bytes items)
    (done : List (Option Char)) : scanFrom done none bytes = done.reverse ++ items := by
  induction h generalizing done with
  | nil => rw [scanFrom, List.append_nil]
  | char c _ ih =>
    rw [scanFrom_utf8EncodeChar, ih, List.reverse_cons, List.append_assoc, List.singleton_append]
  | malformed hrun _ ih =>
    rw [scanFrom_malformed hrun, ih, List.reverse_cons, List.append_assoc, List.singleton_append]

end Scanning

/-- Bytes read in one way only, which is what the machine finds. -/
theorem reads_iff {bytes : List UInt8} {items : List (Option Char)} :
    Reads bytes items ↔ scan bytes = items := by
  constructor
  · intro h
    exact (h.scanFrom_eq []).trans (List.nil_append _)
  · rintro rfl
    obtain ⟨items, h⟩ := exists_reads bytes
    rwa [scan, h.scanFrom_eq [], List.reverse_nil, List.nil_append]

/-- The encoding of a text reads as its characters. -/
theorem reads_encode (text : String) : Reads (encode text) (text.toList.map some) := by
  rw [encode]
  induction text.toList with
  | nil => exact .nil
  | cons c cs ih => exact .char c ih

/-- Whether bytes read as a text, in which a replacement stands for each malformed run. -/
def ReadsAs (bytes : List UInt8) (text : String) : Prop :=
  ∃ items, Reads bytes items ∧ text = String.ofList (items.map (·.getD replacement))

theorem decode_eq_iff {bytes : List UInt8} {text : String} :
    decode bytes = text ↔ ReadsAs bytes text := by
  rw [decode]
  constructor
  · rintro rfl
    exact ⟨scan bytes, reads_iff.mpr rfl, rfl⟩
  · rintro ⟨items, h, rfl⟩
    rw [reads_iff.mp h]

/-- Only no bytes read as the empty text. -/
theorem decode_eq_empty_iff {bytes : List UInt8} : decode bytes = "" ↔ bytes = [] := by
  constructor
  · intro h
    obtain ⟨items, hreads, htext⟩ := decode_eq_iff.mp h
    have hnil : items = [] := by simpa using congrArg String.toList htext
    subst hnil
    cases hreads
    rfl
  · rintro rfl
    rfl

/-- A text is decoded from its encoding. -/
theorem decode_encode (text : String) : decode (encode text) = text := by
  refine decode_eq_iff.mpr ⟨_, reads_encode text, ?_⟩
  rw [List.map_map]
  simp [Function.comp_def]

/-- Bytes without a malformed run are the encodings of their characters. -/
theorem Reads.eq_flatMap {bytes : List UInt8} {items : List (Option Char)} (h : Reads bytes items)
    (hall : items.all Option.isSome = true) :
    bytes = (items.filterMap id).flatMap String.utf8EncodeChar := by
  induction h with
  | nil => rfl
  | char c _ ih => rw [List.filterMap_cons_some (f := id) rfl, List.flatMap_cons, ← ih hall]
  | malformed => cases hall

/-- Bytes are well-formed text exactly if they encode it. -/
theorem decode?_eq_some_iff {bytes : List UInt8} {text : String} :
    decode? bytes = some text ↔ bytes = encode text := by
  rw [decode?]
  constructor
  · intro h
    split_ifs at h with hall
    cases h
    rw [encode, String.toList_ofList]
    exact (reads_iff.mpr rfl).eq_flatMap hall
  · rintro rfl
    rw [reads_iff.mp (reads_encode text)]
    simp

end PauseWatch.Text.Utf8
