import Mathlib.Data.List.Infix

/-!
# Contiguous parts of joined texts

A marker in a joined text may reach over the seam. It cannot where an element that it does not hold
stands between the two texts, nor where its first element does not stand in the first of them. Two
neighbours reach over a seam only if the one ends the first text and the other starts the second.
-/

namespace PauseWatch.Text

variable {α : Type} {marker before after : List α} {x y : α}

/-- A marker does not reach over an element that it does not hold. -/
theorem infix_separated_iff (hx : x ∉ marker) (hm : marker ≠ []) :
    marker <:+: before ++ x :: after ↔ marker <:+: before ∨ marker <:+: after := by
  have hstart {m : List α} (hxm : x ∉ m) (h : m <+: x :: after) : m = [] := by
    cases m with
    | nil => rfl
    | cons y rest => exact absurd ((List.cons_prefix_cons.mp h).1 ▸ List.mem_cons_self ..) hxm
  constructor
  · intro h
    rcases List.infix_append_iff.mp h with hb | ha | ⟨m₁, m₂, rfl, h₁, h₂⟩
    · exact Or.inl hb
    · rcases List.infix_cons_iff.mp ha with hp | hi
      · exact absurd (hstart hx hp) hm
      · exact Or.inr hi
    · obtain rfl := hstart (fun hm₂ => hx (List.mem_append_right _ hm₂)) h₂
      rw [List.append_nil]
      exact Or.inl h₁.isInfix
  · rintro (hb | ha)
    · exact List.infix_append_of_infix_left hb
    · exact List.infix_append_of_infix_right (List.infix_cons ha)

/-- A marker whose first element does not stand in a text starts behind it. -/
theorem cons_infix_append_iff (hx : x ∉ before) :
    x :: marker <:+: before ++ after ↔ x :: marker <:+: after := by
  refine ⟨fun h => ?_, List.infix_append_of_infix_right⟩
  rcases List.infix_append_iff.mp h with hb | ha | ⟨m₁, m₂, he, h₁, h₂⟩
  · exact absurd (hb.subset (List.mem_cons_self ..)) hx
  · exact ha
  · cases m₁ with
    | nil =>
      rw [he, List.nil_append]
      exact h₂.isInfix
    | cons y rest =>
      obtain ⟨rfl, _⟩ := List.cons.inj he
      exact absurd (h₁.subset (List.mem_cons_self ..)) hx

/-- Two neighbours stand in one of two joined texts or at both sides of the seam. -/
theorem pair_infix_append_iff : [x, y] <:+: before ++ after ↔
    [x, y] <:+: before ∨ [x, y] <:+: after ∨ [x] <:+ before ∧ [y] <+: after := by
  rw [List.infix_append_iff_ne_nil]
  refine or_congr_right (or_congr_right ?_)
  constructor
  · rintro ⟨m₁, m₂, hne₁, hne₂, he, h₁, h₂⟩
    cases m₁ with
    | nil => exact absurd rfl hne₁
    | cons a rest =>
      obtain ⟨rfl, hrest⟩ := List.cons.inj he
      cases rest with
      | nil => exact ⟨h₁, hrest ▸ h₂⟩
      | cons b more =>
        obtain ⟨rfl, hnil⟩ := List.cons.inj hrest
        exact absurd (List.append_eq_nil_iff.mp hnil.symm).2 hne₂
  · rintro ⟨h₁, h₂⟩
    exact ⟨[x], [y], List.cons_ne_nil _ _, List.cons_ne_nil _ _, rfl, h₁, h₂⟩

/-- A text without the second of two neighbours does not bring them about between two others. -/
theorem not_pair_infix_framed {middle : List α} (hb : ¬ [x, y] <:+: before)
    (ha : ¬ [x, y] <:+: after) (hy : y ∉ middle) (hseam : ¬ [y] <+: after) :
    ¬ [x, y] <:+: before ++ (middle ++ after) := by
  rw [pair_infix_append_iff, pair_infix_append_iff]
  rintro (h | (h | h | ⟨_, h⟩) | ⟨_, h⟩)
  · exact hb h
  · exact hy (h.subset (List.mem_cons_of_mem _ (List.mem_cons_self ..)))
  · exact ha h
  · exact hseam h
  · cases middle with
    | nil => exact hseam h
    | cons z rest => exact hy ((List.cons_prefix_cons.mp h).1 ▸ List.mem_cons_self ..)

end PauseWatch.Text
