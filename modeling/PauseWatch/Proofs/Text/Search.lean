import Mathlib.Data.List.Infix
import PauseWatch.Text.Search

/-!
# What a search finds

A marker is found in a text exactly if the text splits around it, and a lead is taken off a text
exactly if the text starts with it. The statements speak about append and infix, so later proofs
never open a search.
-/

namespace PauseWatch.Text

variable {α : Type} [DecidableEq α]

/-- A search fails exactly where the marker is no contiguous part of the text. -/
theorem find?_eq_none_iff {marker text : List α} :
    find? marker text = none ↔ ¬ marker <:+: text := by
  induction text with
  | nil =>
    rw [List.infix_nil, find?]
    by_cases he : marker = []
    · simp only [he, if_true, reduceCtorEq, not_true_eq_false]
    · simp only [he, if_false, not_false_eq_true]
  | cons c rest ih =>
    rw [List.infix_cons_iff, ← List.isPrefixOf_iff_prefix, find?]
    by_cases hp : marker.isPrefixOf (c :: rest) = true
    · simp only [hp, if_true, reduceCtorEq, true_or, not_true_eq_false]
    · rw [if_neg hp, Option.map_eq_none_iff, ih, or_iff_right hp]

/-- A marker occurs exactly if it is a contiguous part of the text. -/
theorem occurs_iff {marker text : List α} : occurs marker text = true ↔ marker <:+: text := by
  rw [occurs, Option.isSome_iff_ne_none, ne_eq, find?_eq_none_iff, not_not]

/-- What follows a lead is what has to be put behind it to get the text back. -/
theorem after?_eq_some_iff {lead text rest : String} :
    after? lead text = some rest ↔ text = lead ++ rest := by
  rw [← String.toList_inj, String.toList_append, after?, Option.map_eq_some_iff]
  constructor
  · rintro ⟨chars, hc, rfl⟩
    rw [String.toList_ofList]
    exact (List.isPrefixOf?_eq_some_iff_append_eq.mp hc).symm
  · intro he
    exact ⟨rest.toList, List.isPrefixOf?_eq_some_iff_append_eq.mpr he.symm, String.ofList_toList⟩

/-- A text behind a lead is what follows it. -/
@[simp] theorem after?_append (lead rest : String) : after? lead (lead ++ rest) = some rest :=
  after?_eq_some_iff.mpr rfl

/-- Nothing follows a lead in a text that starts with something else. -/
theorem after?_append_eq_none {lead other : String}
    (h : ∀ rest, lead.toList.isPrefixOf? (other.toList ++ rest) = none) (rest : String) :
    after? lead (other ++ rest) = none := by
  rw [after?, String.toList_append, h, Option.map_none]

/-- Something follows a lead exactly in the texts that start with it. -/
theorem isSome_after? (lead text : String) : (after? lead text).isSome = startsWith lead text := by
  rw [after?, Option.isSome_map, List.isSome_isPrefixOf?_eq_isPrefixOf, startsWith]

/-- A text starts with a lead exactly if something put behind the lead gives the text. -/
theorem startsWith_iff {lead text : String} :
    startsWith lead text = true ↔ ∃ rest, text = lead ++ rest := by
  rw [← isSome_after?, Option.isSome_iff_exists]
  exact exists_congr fun _ => after?_eq_some_iff

end PauseWatch.Text
