import PauseWatch.Text.Uppercase

/-!
# Capitals are not small letters

Whatever a text holds, its capital form holds none of the small letters of ASCII. The tables outside
ASCII are checked by their entries: no run of capitals and no long capital reaches these letters.
-/

namespace PauseWatch.Text

/-- The small letters of ASCII stand together. -/
theorem isLower_eq_false_iff {c : Char} : c.isLower = false ↔ c.toNat < 97 ∨ 122 < c.toNat := by
  change (decide ('a'.val ≤ c.val) && decide (c.val ≤ 'z'.val)) = false ↔ _
  rw [Bool.and_eq_false_iff, decide_eq_false_iff_not, decide_eq_false_iff_not,
    UInt32.le_iff_toNat_le, UInt32.le_iff_toNat_le]
  change ¬ 97 ≤ c.toNat ∨ ¬ c.toNat ≤ 122 ↔ _
  omega

private theorem isLower_ofNat {n : Nat} (h : n < 97 ∨ 122 < n) :
    (Char.ofNat n).isLower = false := by
  by_cases hv : n.isValidChar
  · rw [Char.ofNat, dif_pos hv]
    exact isLower_eq_false_iff.mpr h
  · rw [Char.ofNat, dif_neg hv]
    decide

private theorem isLower_toUpper {c : Char} (h : c.toNat < 0x80) : c.toUpper.isLower = false := by
  have hall : ∀ n < 0x80, (Char.ofNat n).toUpper.isLower = false := by decide
  rw [← Char.ofNat_toNat c]
  exact hall _ h

/-- No long capital has a small letter of ASCII. -/
theorem longCapitals_avoid : ∀ entry ∈ longCapitals, ∀ n ∈ entry.2, n < 97 ∨ 122 < n := by
  decide +kernel

/-- No run of capitals meets the small letters of ASCII. -/
theorem capitalRuns_avoid :
    ∀ run ∈ capitalRuns, run.capital + (run.last - run.first) < 97 ∨ 122 < run.capital := by
  decide +kernel

/-- A capital from a run is no small letter of ASCII. -/
theorem capital?_avoids {run : CapitalRun} (hrun : run ∈ capitalRuns) {n capital : Nat}
    (h : run.capital? n = some capital) : capital < 97 ∨ 122 < capital := by
  rw [CapitalRun.capital?] at h
  split at h
  case isTrue hin =>
    have he := Option.some.inj h
    rcases capitalRuns_avoid run hrun with hlow | hhigh
    · exact Or.inl (by omega)
    · exact Or.inr (by omega)
  case isFalse => cases h

/-- The capital form of a character has no small letter of ASCII. -/
theorem isLower_of_mem_capitalOf {c d : Char} (h : d ∈ capitalOf c) : d.isLower = false := by
  rw [capitalOf] at h
  by_cases hc : c.toNat < 0x80
  · rw [if_pos hc, List.mem_singleton] at h
    rw [h, isLower_toUpper hc]
  · rw [if_neg hc] at h
    cases hl : longCapitals.lookup c.toNat with
    | some capitals =>
      simp only [hl, List.mem_map] at h
      obtain ⟨n, hn, rfl⟩ := h
      obtain ⟨before, after, he, _⟩ := List.lookup_eq_some_iff.mp hl
      have hmem : (c.toNat, capitals) ∈ longCapitals := by
        rw [he]
        exact List.mem_append_right _ (List.mem_cons_self ..)
      exact isLower_ofNat (longCapitals_avoid _ hmem n hn)
    | none =>
      simp only [hl, List.mem_singleton] at h
      rw [h]
      cases hr : capitalRuns.findSome? (·.capital? c.toNat) with
      | some capital =>
        obtain ⟨run, hrun, hcapital⟩ := List.exists_of_findSome?_eq_some hr
        exact isLower_ofNat (capital?_avoids hrun hcapital)
      | none =>
        rw [Option.elim_none]
        exact isLower_eq_false_iff.mpr (Or.inr (by omega))

/-- A text in capitals has no small letter of ASCII. -/
theorem isLower_of_mem_upper {text : String} {c : Char} (h : c ∈ (upper text).toList) :
    c.isLower = false := by
  rw [upper, String.toList_ofList, List.mem_flatMap] at h
  obtain ⟨d, _, hd⟩ := h
  exact isLower_of_mem_capitalOf hd

end PauseWatch.Text
