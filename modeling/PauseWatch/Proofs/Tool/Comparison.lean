import Mathlib.Algebra.Order.Field.Rat
import Mathlib.Algebra.Order.Ring.Cast
import PauseWatch.Proofs.Tool.Version
import PauseWatch.Tool.Sorting

/-!
# The orders of lines are orders

Every key compares parts of lines by something that is in order: numbers by the rational numbers
that they stand for, months by their numbers, names by their versions. So the order of lines that a
plan makes is transitive, and any two lines are compared the same way round, whatever the keys are.
-/

namespace PauseWatch.Tool

open Std
open Text.Numeral (Size extended read?)

variable {a b : Size} {isNegative isOtherNegative : Bool}

namespace Key

/-- A number with its sign. -/
def signed (isNegative : Bool) (n : Nat) : Int := if isNegative then -(n : Int) else n

theorem signed_mul (n m : Nat) : signed isNegative (n * m) = signed isNegative n * m := by
  cases isNegative <;> simp [signed]

/-- The rational number that a fraction with a sign stands for. -/
def value (isNegative : Bool) (size : Size) : ℚ := signed isNegative size.num / size.den

theorem value_mul_den (ha : 0 < a.den) (m : Nat) :
    value isNegative a * (a.den * m) = signed isNegative (a.num * m) := by
  have hden : (a.den : ℚ) ≠ 0 := Nat.cast_ne_zero.mpr ha.ne'
  rw [value, ← mul_assoc, div_mul_cancel₀ _ hden, signed_mul]
  push_cast
  rfl

theorem compareSizes_eq (ha : 0 < a.den) (hb : 0 < b.den) :
    compareSizes isNegative a isOtherNegative b =
      compare (value isNegative a) (value isOtherNegative b) := by
  have hscale : StrictMono fun x : ℚ => x * (a.den * b.den) :=
    strictMono_mul_right_of_pos (mul_pos (Nat.cast_pos.mpr ha) (Nat.cast_pos.mpr hb))
  calc compareSizes isNegative a isOtherNegative b
    _ = cmp (signed isNegative (a.num * b.den)) (signed isOtherNegative (b.num * a.den)) :=
      (cmp_eq_compare _ _).symm
    _ = cmp (signed isNegative (a.num * b.den) : ℚ) (signed isOtherNegative (b.num * a.den)) :=
      ((Int.cast_strictMono (R := ℚ)).cmp_map_eq _ _).symm
    _ = cmp (value isNegative a * (a.den * b.den)) (value isOtherNegative b * (a.den * b.den)) := by
      rw [value_mul_den ha, mul_comm (a.den : ℚ), value_mul_den hb]
    _ = compare (value isNegative a) (value isOtherNegative b) := by
      rw [hscale.cmp_map_eq, cmp_eq_compare]

/-- The rational number at the start of a text. -/
def numberValue (chars : List Char) : ℚ := value (numberAt chars).1 (numberAt chars).2.1

theorem den_numberAt_pos (chars : List Char) : 0 < (numberAt chars).2.1.den := by
  dsimp only [numberAt]
  split
  · exact Nat.pow_pos (by decide)
  · exact Nat.one_pos

theorem compareNumbers_eq (a b : List Char) :
    compareNumbers a b = compare (numberValue a) (numberValue b) :=
  compareSizes_eq (den_numberAt_pos a) (den_numberAt_pos b)

instance : TransCmp compareNumbers := by
  have : compareNumbers = compareOn numberValue := funext₂ compareNumbers_eq
  rw [this]
  infer_instance

theorem den_scale_pos (ha : 0 < a.den) (power : Int) : 0 < (a.scale 2 power).den := by
  rw [Size.scale]
  split
  · exact ha
  · exact Nat.mul_pos ha (Nat.pow_pos (by decide))

/-- A number that is held has no zero below. -/
theorem den_round_pos {format : Text.Numeral.Format} {held : Size} (h : held ∈ (a.round format).1) :
    0 < held.den := by
  dsimp only [Size.round] at h
  split_ifs at h
  · cases h
    exact Nat.one_pos
  · cases h
  · cases h
    exact den_scale_pos Nat.one_pos _

theorem den_pos_of_round_eq {format : Text.Numeral.Format} {x : Text.Numeral.Real}
    (h : (x.round format).1 = .finite isNegative a) : 0 < a.den := by
  cases x with
  | finite sign size =>
    rw [Text.Numeral.Real.round] at h
    split at h
    next hround =>
      cases h
      exact den_round_pos (congrArg Prod.fst hround)
    next => cases h
  | infinite sign => cases h
  | undefined sign => cases h

/-- The number of a numeral that is compared. -/
def heldAt (chars : List Char) : Option Text.Numeral.Real :=
  (read? (String.ofList chars)).map fun (x, _) => (x.round extended).1

/-- The place of numerals of a kind among those of other kinds. -/
def kindRank : Option Text.Numeral.Real → Nat
  | none => 0
  | some (.undefined _) => 1
  | some (.infinite isNegative) => if isNegative then 2 else 4
  | some (.finite _ _) => 3

/-- The rational number of a numeral; zero if it has none. -/
def heldValue : Option Text.Numeral.Real → ℚ
  | some (.finite isNegative size) => value isNegative size
  | _ => 0

theorem kindRank_eq_three_iff {x : Option Text.Numeral.Real} :
    kindRank x = 3 ↔ ∃ isNegative size, x = some (.finite isNegative size) := by
  constructor
  · intro h
    match x with
    | some (.finite isNegative size) => exact ⟨isNegative, size, rfl⟩
    | some (.infinite true) | some (.infinite false) => cases h
  · rintro ⟨isNegative, size, rfl⟩
    rfl

theorem heldValue_of_kindRank_ne {x : Option Text.Numeral.Real} (h : kindRank x ≠ 3) :
    heldValue x = 0 := by
  rw [heldValue.eq_def]
  split
  · exact absurd rfl h
  · rfl

theorem compareGenerally_def (a b : List Char) : compareGenerally a b =
    (compare (kindRank (heldAt a)) (kindRank (heldAt b))).then (match heldAt a, heldAt b with
      | some (.finite isNegative m), some (.finite isOtherNegative n) =>
        compareSizes isNegative m isOtherNegative n
      | _, _ => .eq) := rfl

theorem den_heldAt_pos {chars : List Char} (h : heldAt chars = some (.finite isNegative a)) :
    0 < a.den := by
  obtain ⟨_, -, hround⟩ := Option.map_eq_some_iff.mp h
  exact den_pos_of_round_eq hround

theorem compareGenerally_eq (a b : List Char) : compareGenerally a b =
    (compare (kindRank (heldAt a)) (kindRank (heldAt b))).then
      (compare (heldValue (heldAt a)) (heldValue (heldAt b))) := by
  rw [compareGenerally_def]
  cases hrank : compare (kindRank (heldAt a)) (kindRank (heldAt b)) with
  | lt => rfl
  | gt => rfl
  | eq =>
    have heq : kindRank (heldAt a) = kindRank (heldAt b) := Nat.compare_eq_eq.mp hrank
    rw [Ordering.eq_then, Ordering.eq_then]
    split
    next ha hb =>
      rw [ha, hb]
      exact compareSizes_eq (den_heldAt_pos ha) (den_heldAt_pos hb)
    next hother =>
      have hne : kindRank (heldAt a) ≠ 3 := by
        intro hthree
        obtain ⟨s, m, ha⟩ := kindRank_eq_three_iff.mp hthree
        obtain ⟨t, n, hb⟩ := kindRank_eq_three_iff.mp (heq.symm.trans hthree)
        exact hother s m t n ha hb
      rw [heldValue_of_kindRank_ne hne, heldValue_of_kindRank_ne (heq ▸ hne)]
      exact ReflCmp.compare_self.symm

instance : TransCmp compareGenerally := by
  have : compareGenerally = compareLex (compareOn fun chars => kindRank (heldAt chars))
      (compareOn fun chars => heldValue (heldAt chars)) := funext₂ compareGenerally_eq
  rw [this]
  infer_instance

/-- How the parts of lines that count are compared, without the direction. -/
def order (k : Key) : List Char → List Char → Ordering :=
  if k.has 'n' then compareNumbers
  else if k.has 'g' then compareGenerally
  else if k.has 'h' then compareLex (compareOn unitRank) compareNumbers
  else if k.has 'M' then compareOn monthOf
  else if k.has 'V' then compareVersions
  else fun a b => compareOfLessAndEq a b

instance (k : Key) : TransCmp k.order := by
  unfold order
  split_ifs <;> infer_instance

theorem compareForward_eq (k : Key) (a b : List Char) :
    k.compareForward a b = k.order (k.counted a) (k.counted b) := by
  unfold compareForward order
  split_ifs <;> rfl

/-- Every key compares parts of lines in some order. -/
instance (k : Key) : TransCmp k.compareParts := by
  have hforward : k.compareForward = Ordering.byKey k.counted k.order :=
    funext₂ k.compareForward_eq
  have : TransCmp k.compareForward := hforward ▸ inferInstance
  have hparts : k.compareParts =
      if k.has 'r' then flip k.compareForward else k.compareForward := by
    funext a b
    rw [compareParts, ← OrientedCmp.eq_swap]
    split_ifs <;> rfl
  rw [hparts]
  split_ifs <;> infer_instance

end Key

/-- Lines are in order by the parts that keys pick out of them. -/
theorem transCmp_compareKeys (keys : List Key) (part : Key → List Char → List Char) :
    TransCmp fun a b => compareKeys keys (keys.map (part · a)) (keys.map (part · b)) := by
  induction keys with
  | nil => exact { eq_swap := rfl, isLE_trans := fun _ _ => rfl }
  | cons k keys ih =>
    exact inferInstanceAs (TransCmp (compareLex (Ordering.byKey (part k) k.compareParts)
      fun a b => compareKeys keys (keys.map (part · a)) (keys.map (part · b))))

namespace Sorting

/-- The order of lines that a plan makes. -/
def Plan.order (plan : Plan) (a b : List Char) : Ordering :=
  plan.compare (plan.keyed a) (plan.keyed b)

/-- The order of whole lines that a plan makes. -/
def Plan.wholeOrder (plan : Plan) : List Char → List Char → Ordering :=
  if plan.isBackward then flip fun a b => compareOfLessAndEq a b
  else fun a b => compareOfLessAndEq a b

instance (plan : Plan) : TransCmp plan.wholeOrder := by
  unfold Plan.wholeOrder
  split_ifs <;> infer_instance

/-- The order of lines by the keys of a plan. -/
def Plan.keyOrder (plan : Plan) (a b : List Char) : Ordering :=
  compareKeys plan.keys (plan.keyed a).parts (plan.keyed b).parts

instance (plan : Plan) : TransCmp plan.keyOrder :=
  transCmp_compareKeys plan.keys fun k line => k.part plan.separator line

theorem Plan.order_def (plan : Plan) (a b : List Char) : plan.order a b =
    if plan.keys ≠ [] && (plan.isUnique || plan.isStable) then plan.keyOrder a b
    else (plan.keyOrder a b).then (if plan.isBackward then (compareOfLessAndEq a b).swap
      else compareOfLessAndEq a b) := rfl

theorem Plan.order_eq (plan : Plan) : plan.order =
    if plan.keys ≠ [] && (plan.isUnique || plan.isStable) then plan.keyOrder
    else compareLex plan.keyOrder plan.wholeOrder := by
  have hswap (a b : List Char) : compareOfLessAndEq b a = (compareOfLessAndEq a b).swap :=
    transCmp_chars.eq_swap
  funext a b
  rw [plan.order_def, wholeOrder, ← hswap]
  split_ifs <;> rfl

/-- Every plan puts lines in some order. -/
instance (plan : Plan) : TransCmp plan.order := by
  rw [plan.order_eq]
  split_ifs <;> infer_instance

end Sorting

end PauseWatch.Tool
