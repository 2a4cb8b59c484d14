import Mathlib.Order.Compare
import PauseWatch.Tool.Order.Version

/-!
# The order of names with versions is one

Names are compared one stretch after the other: the signs up to the next digits, then these digits
as a number. Every stretch is compared by a key, so names are compared as by their lists of keys,
which is transitive, and any two of them the same way round.
-/

namespace PauseWatch.Tool

open Std

variable {a b : List Char} {fuel : Nat}

instance transCmp_chars : TransCmp fun a b : List Char => compareOfLessAndEq a b :=
  TransOrd.compareOfLessAndEq_of_lt_trans_of_lt_iff List.lt_trans fun _ _ => by grind

/-- The weights of the signs up to the next digits, and that of the digits. The end of a name counts
as digits do, since no sign lies between the two. -/
def signKey : List Char → List Int
  | [] => [0]
  | c :: rest => if c.isDigit then [0] else nameWeight (c :: rest) :: signKey rest

/-- What follows the signs up to the next digits. -/
def afterSigns (name : List Char) : List Char := name.dropWhile (!·.isDigit)

/-- Whether a sign stands in front of a name. -/
def startsWithSign (name : List Char) : Bool := name.head?.any (!·.isDigit)

theorem signKey_of_startsWithSign (h : startsWithSign a = true) :
    signKey a = nameWeight a :: signKey a.tail ∧ afterSigns a = afterSigns a.tail ∧
      a.tail.length < a.length ∧ (nameWeight a < -1 ∨ 0 < nameWeight a) := by
  cases a with
  | nil => simp [startsWithSign] at h
  | cons c rest =>
    have hc : c.isDigit = false := by simpa [startsWithSign] using h
    refine ⟨by simp [signKey, hc], by simp [afterSigns, hc], by simp, ?_⟩
    have hchar : 0 < (c.toNat : Int) + 256 := by omega
    rw [nameWeight, hc, if_neg Bool.false_ne_true]
    split_ifs with halpha
    · have hzero : c.toNat ≠ 0 := by
        intro hzero
        obtain rfl : c = '\x00' := Char.toNat_inj.mp hzero
        exact absurd halpha (by decide)
      omega
    · exact .inl (by decide)
    · exact .inr hchar

theorem signKey_of_not_startsWithSign (h : startsWithSign a = false) :
    signKey a = [0] ∧ afterSigns a = a ∧ -1 ≤ nameWeight a ∧ nameWeight a ≤ 0 := by
  cases a with
  | nil => simp [signKey, afterSigns, nameWeight]
  | cons c rest =>
    have hc : c.isDigit = true := by simpa [startsWithSign] using h
    simp [signKey, afterSigns, nameWeight, hc]

/-- A sign stands to what is no sign as to digits. -/
theorem compare_nameWeight (ha : startsWithSign a = true) (hb : startsWithSign b = false) :
    compare (nameWeight a) (nameWeight b) = compare (nameWeight a) 0 ∧
      compare (nameWeight a) 0 ≠ .eq := by
  obtain ⟨-, -, -, hweight⟩ := signKey_of_startsWithSign ha
  obtain ⟨-, -, hlow, hhigh⟩ := signKey_of_not_startsWithSign hb
  rcases hweight with hweight | hweight
  · have hzero : compare (nameWeight a) 0 = .lt := Int.compare_eq_lt.mpr (by omega)
    rw [hzero, Int.compare_eq_lt]
    exact ⟨by omega, by decide⟩
  · have hzero : compare (nameWeight a) 0 = .gt := Int.compare_eq_gt.mpr (by omega)
    rw [hzero, Int.compare_eq_gt]
    exact ⟨by omega, by decide⟩

theorem compareSigns_succ : compareSigns (fuel + 1) a b =
    if !startsWithSign a && !startsWithSign b then (.eq, a, b)
    else match compare (nameWeight a) (nameWeight b) with
      | .eq => compareSigns fuel a.tail b.tail
      | order => (order, a, b) := rfl

/-- Signs are compared by their weights, and if these are the same, the rests are what follows. -/
theorem compareSigns_eq (hfuel : a.length < fuel) :
    (compareSigns fuel a b).1 = compare (signKey a) (signKey b) ∧
      (compare (signKey a) (signKey b) = .eq →
        compareSigns fuel a b = (.eq, afterSigns a, afterSigns b)) := by
  induction fuel generalizing a b with
  | zero => omega
  | succ fuel ih =>
    rw [compareSigns_succ]
    cases ha : startsWithSign a <;> cases hb : startsWithSign b
    · obtain ⟨hkeya, haftera, -⟩ := signKey_of_not_startsWithSign ha
      obtain ⟨hkeyb, hafterb, -⟩ := signKey_of_not_startsWithSign hb
      simp [hkeya, hkeyb, haftera, hafterb]
    · obtain ⟨hkeya, -⟩ := signKey_of_not_startsWithSign ha
      obtain ⟨hkeyb, -⟩ := signKey_of_startsWithSign hb
      obtain ⟨hcompare, hne⟩ := compare_nameWeight hb ha
      rw [hkeya, hkeyb, List.compare_cons_cons, ← Int.compare_swap (nameWeight b),
        ← Int.compare_swap (nameWeight b), hcompare]
      cases horder : compare (nameWeight b) 0 with
      | eq => exact absurd horder hne
      | lt => simp
      | gt => simp
    · obtain ⟨hkeya, -⟩ := signKey_of_startsWithSign ha
      obtain ⟨hkeyb, -⟩ := signKey_of_not_startsWithSign hb
      obtain ⟨hcompare, hne⟩ := compare_nameWeight ha hb
      rw [hkeya, hkeyb, List.compare_cons_cons, hcompare]
      cases horder : compare (nameWeight a) 0 with
      | eq => exact absurd horder hne
      | lt => simp
      | gt => simp
    · obtain ⟨hkeya, haftera, hlength, -⟩ := signKey_of_startsWithSign ha
      obtain ⟨hkeyb, hafterb, -⟩ := signKey_of_startsWithSign hb
      obtain ⟨hfst, hrest⟩ := ih (a := a.tail) (b := b.tail) (by omega)
      rw [hkeya, hkeyb, List.compare_cons_cons, haftera, hafterb]
      cases compare (nameWeight a) (nameWeight b) with
      | eq => exact ⟨hfst, hrest⟩
      | lt => simp
      | gt => simp

/-- The digits that count at the start of a name, without zeros in front. -/
def leadingNumber (name : List Char) : List Char :=
  (name.dropWhile (· = '0')).takeWhile Char.isDigit

/-- The order of two names by the stretch at their starts. -/
def compareStretch (a b : List Char) : Ordering :=
  (compare (signKey a) (signKey b)).then
    ((compare (leadingNumber (afterSigns a)).length (leadingNumber (afterSigns b)).length).then
      (compareOfLessAndEq (leadingNumber (afterSigns a)) (leadingNumber (afterSigns b))))

/-- What follows the stretch at the start of a name. -/
def afterStretch (name : List Char) : List Char := (afterSigns name).dropWhile Char.isDigit

theorem length_afterStretch_lt (hne : a ≠ []) : (afterStretch a).length < a.length := by
  obtain ⟨c, rest, rfl⟩ := List.exists_cons_of_ne_nil hne
  have hsuffix : afterStretch (c :: rest) <:+ rest := by
    cases hc : c.isDigit with
    | true =>
      rw [afterStretch, afterSigns, List.dropWhile_cons_of_neg (by simp [hc]),
        List.dropWhile_cons_of_pos hc]
      exact List.dropWhile_suffix _
    | false =>
      rw [afterStretch, afterSigns, List.dropWhile_cons_of_pos (by simp [hc])]
      exact (List.dropWhile_suffix _).trans (List.dropWhile_suffix _)
  exact Nat.lt_succ_of_le hsuffix.length_le

theorem compareParts_nil : compareParts fuel [] [] = .eq := by
  cases fuel <;> rfl

/-- Names are compared by the stretches at their starts, and then by what follows these. -/
theorem compareParts_succ : compareParts (fuel + 1) a b =
    (compareStretch a b).then (compareParts fuel (afterStretch a) (afterStretch b)) := by
  by_cases hnil : a = [] ∧ b = []
  · obtain ⟨rfl, rfl⟩ := hnil
    rw [compareParts_nil]
    exact compareParts_nil.symm
  obtain ⟨horder, hrest⟩ : (compareSigns (a.length + b.length + 1) a b).1 =
      compare (signKey a) (signKey b) ∧ (compare (signKey a) (signKey b) = .eq →
        compareSigns (a.length + b.length + 1) a b = (.eq, afterSigns a, afterSigns b)) :=
    compareSigns_eq (by omega)
  have hother {order : Ordering} (hsigns : (compareSigns (a.length + b.length + 1) a b).1 = order)
      (hne : order ≠ .eq) : compareParts (fuel + 1) a b = order := by
    rw [compareParts.eq_3 _ _ _ fun ha hb => hnil ⟨ha, hb⟩]
    split
    next heq => exact absurd (hsigns.symm.trans (congrArg Prod.fst heq)) hne
    next heq => exact (congrArg Prod.fst heq).symm.trans hsigns
  rw [compareStretch, Ordering.then_assoc]
  cases hkey : compare (signKey a) (signKey b) with
  | eq =>
    rw [compareParts.eq_3 _ _ _ fun ha hb => hnil ⟨ha, hb⟩, hrest hkey, Ordering.eq_then]
    rfl
  | lt =>
    rw [hother (horder.trans hkey) (by decide)]
    rfl
  | gt =>
    rw [hother (horder.trans hkey) (by decide)]
    rfl

instance : TransCmp compareStretch :=
  inferInstanceAs (TransCmp (compareLex (compareOn signKey)
    (compareLex (compareOn fun name => (leadingNumber (afterSigns name)).length)
      (Ordering.byKey (fun name => leadingNumber (afterSigns name))
        fun a b => compareOfLessAndEq a b))))

instance (fuel : Nat) : TransCmp (compareParts fuel) := by
  induction fuel with
  | zero => exact { eq_swap := rfl, isLE_trans := fun _ _ => rfl }
  | succ fuel ih =>
    have hlex : compareParts (fuel + 1) =
        compareLex compareStretch (Ordering.byKey afterStretch (compareParts fuel)) := by
      funext a b
      exact compareParts_succ
    rw [hlex]
    infer_instance

/-- Two names are compared alike however much fuel there is, if it is enough for both. -/
theorem compareParts_congr {more : Nat} (ha : a.length ≤ fuel) (hb : b.length ≤ fuel)
    (hmore : fuel ≤ more) : compareParts fuel a b = compareParts more a b := by
  induction fuel generalizing a b more with
  | zero =>
    obtain rfl := List.length_eq_zero_iff.mp (Nat.le_zero.mp ha)
    obtain rfl := List.length_eq_zero_iff.mp (Nat.le_zero.mp hb)
    rw [compareParts_nil, compareParts_nil]
  | succ fuel ih =>
    obtain ⟨more, rfl⟩ := Nat.exists_eq_add_one.mpr (Nat.zero_lt_of_lt hmore)
    have hafter {name : List Char} (h : name.length ≤ fuel + 1) :
        (afterStretch name).length ≤ fuel := by
      by_cases hne : name = []
      · rw [hne]
        exact Nat.zero_le _
      · have := length_afterStretch_lt hne
        omega
    rw [compareParts_succ, compareParts_succ, ih (hafter ha) (hafter hb)
      (Nat.le_of_succ_le_succ hmore)]

/-- Whether a name is compared by what it is as a whole, and its rank if it is. -/
def nameRank (name : List Char) : Nat :=
  if name = [] then 0 else if name = ['.'] then 1 else if name = ['.', '.'] then 2
  else if name.head? = some '.' then 3 else 4

/-- What of a name is compared behind its rank. -/
def ranked (name : List Char) : List Char := if nameRank name < 3 then [] else name

/-- The order of names with versions, with enough fuel for all names of interest. -/
def compareWithin (fuel : Nat) (a b : List Char) : Ordering :=
  (compare (nameRank a) (nameRank b)).then
    ((compareParts fuel (withoutEndings (ranked a)) (withoutEndings (ranked b))).then
      (compareParts fuel (ranked a) (ranked b)))

theorem length_withoutEndings_le : (withoutEndings a).length ≤ a.length := by
  fun_induction withoutEndings a <;> grind

theorem compareVersions_def : compareVersions a b =
    match compare (nameRank a) (nameRank b) with
    | .eq =>
      if nameRank a < 3 then .eq
      else (compareParts (a.length + b.length + 1) (withoutEndings a) (withoutEndings b)).then
        (compareParts (a.length + b.length + 1) a b)
    | order => order := rfl

/-- Names are compared alike however much fuel there is, if it is enough for both. -/
theorem compareVersions_eq (ha : a.length ≤ fuel) (hb : b.length ≤ fuel) :
    compareVersions a b = compareWithin fuel a b := by
  rw [compareVersions_def, compareWithin]
  cases hrank : compare (nameRank a) (nameRank b) with
  | eq =>
    have heq : nameRank a = nameRank b := Nat.compare_eq_eq.mp hrank
    rw [Ordering.eq_then, ranked, ranked, ← heq]
    by_cases hwhole : nameRank a < 3
    · simp [hwhole, withoutEndings, compareParts_nil]
    · have hparts {a' b' : List Char} (ha' : a'.length ≤ a.length) (hb' : b'.length ≤ b.length) :
          compareParts (a.length + b.length + 1) a' b' = compareParts fuel a' b' := by
        have hmore : a.length + b.length + 1 ≤ a.length + b.length + 1 + fuel := by omega
        rw [compareParts_congr (by omega) (by omega) hmore]
        exact (compareParts_congr (by omega) (by omega) (by omega)).symm
      simp only [if_neg hwhole]
      rw [hparts length_withoutEndings_le length_withoutEndings_le,
        hparts (Nat.le_refl _) (Nat.le_refl _)]
  | lt => rfl
  | gt => rfl

instance (fuel : Nat) : TransCmp (compareWithin fuel) :=
  inferInstanceAs (TransCmp (compareLex (compareOn nameRank)
    (compareLex (Ordering.byKey (fun name => withoutEndings (ranked name)) (compareParts fuel))
      (Ordering.byKey ranked (compareParts fuel)))))

instance : TransCmp compareVersions where
  eq_swap {a b} := by
    rw [compareVersions_eq (Nat.le_add_right a.length b.length) (Nat.le_add_left b.length a.length),
      compareVersions_eq (Nat.le_add_left b.length a.length) (Nat.le_add_right a.length b.length)]
    exact OrientedCmp.eq_swap
  isLE_trans {a b c} hab hbc := by
    have hwithin {x y : List Char} (hx : x.length ≤ a.length + b.length + c.length)
        (hy : y.length ≤ a.length + b.length + c.length) :
        compareVersions x y = compareWithin (a.length + b.length + c.length) x y :=
      compareVersions_eq hx hy
    rw [hwithin (by omega) (by omega)] at *
    exact TransCmp.isLE_trans hab hbc

end PauseWatch.Tool
