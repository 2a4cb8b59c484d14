import PauseWatch.Proofs.Text.Search

/-!
# First occurrences

A search gives the place of the first occurrence: the text starts with what stands before it and the
marker, and no shorter start of the text is followed by the marker. Where two texts are joined, the
first occurrence of the joined text is that of the first text if there is one there, and that of the
second text, moved behind the first, if the marker neither stands in the first text nor reaches over
the seam.
-/

namespace PauseWatch.Text

section First

variable {α : Type} {before marker text front : List α} {c : α}

/-- A marker stands in a text behind the given elements and at no earlier place. -/
structure FirstBehind (before marker text : List α) : Prop where
  /-- The text starts with these elements and the marker. -/
  starts : before ++ marker <+: text
  /-- Wherever the marker stands, no fewer elements stand before it. -/
  least : ∀ before', before' ++ marker <+: text → before.length ≤ before'.length

/-- A marker reaches over the seam of two texts: it has a part at the end of the first one and a
part at the start of the second one. -/
def Straddles (marker front text : List α) : Prop :=
  ∃ u v, u ≠ [] ∧ v ≠ [] ∧ marker = u ++ v ∧ u <:+ front ∧ v <+: text

/-- A marker that stands first somewhere is a part of the text. -/
theorem FirstBehind.isInfix (h : FirstBehind before marker text) : marker <:+: text := by
  have hpart : marker <:+: before ++ marker := (List.suffix_append before marker).isInfix
  exact hpart.trans h.starts.isInfix

/-- What stands before a first occurrence is a start of the text. -/
theorem FirstBehind.isPrefix (h : FirstBehind before marker text) : before <+: text :=
  (List.prefix_append before marker).trans h.starts

/-- The elements before a first occurrence are as many of the text as there are. -/
theorem FirstBehind.take_length (h : FirstBehind before marker text) :
    text.take before.length = before :=
  (List.prefix_iff_eq_take.mp h.isPrefix).symm

/-- The elements before a first occurrence are a start of those before any other one. -/
theorem FirstBehind.isPrefix_of_starts (h : FirstBehind before marker text) {before' : List α}
    (h' : before' ++ marker <+: text) : before <+: before' := by
  have hb' : before' <+: text := (List.prefix_append before' marker).trans h'
  exact List.prefix_of_prefix_length_le h.isPrefix hb' (h.least before' h')

/-- There is only one first occurrence. -/
theorem FirstBehind.unique {before' : List α} (h : FirstBehind before marker text)
    (h' : FirstBehind before' marker text) : before = before' := by
  have hp := h.isPrefix_of_starts h'.starts
  exact hp.eq_of_length_le (h'.least before h.starts)

/-- A marker that does not stand at the very start stands first where it does in the rest. -/
theorem FirstBehind.cons (h : FirstBehind before marker text) (hc : ¬ marker <+: c :: text) :
    FirstBehind (c :: before) marker (c :: text) where
  starts := List.cons_prefix_cons.mpr ⟨rfl, h.starts⟩
  least before' hb := by
    cases before' with
    | nil => exact absurd hb hc
    | cons d rest =>
      obtain ⟨_, hrest⟩ := List.cons_prefix_cons.mp hb
      exact Nat.succ_le_succ (h.least rest hrest)

/-- What is put behind a text does not change where a marker stands first in it. -/
theorem FirstBehind.append (h : FirstBehind before marker text) (more : List α) :
    FirstBehind before marker (text ++ more) where
  starts := h.starts.trans (List.prefix_append text more)
  least before' hb := by
    by_contra hlt
    have hlen : (before' ++ marker).length ≤ text.length := by
      have := h.starts.length_le
      simp only [List.length_append] at this ⊢
      omega
    have hin := (List.isPrefix_append_of_length hlen).mp hb
    exact hlt (h.least before' hin)

/-- A marker at the start of two joined texts lies in the first one, unless that one is empty, or it
reaches over the seam. -/
theorem starts_append_cases (h : marker <+: front ++ text) (hf : front ≠ []) :
    marker <+: front ∨ Straddles marker front text := by
  rcases List.prefix_or_prefix_of_prefix h (List.prefix_append front text) with hin | ⟨v, rfl⟩
  · exact Or.inl hin
  · by_cases hv : v = []
    · subst hv
      exact Or.inl (by rw [List.append_nil])
    · have hv' : v <+: text := (List.prefix_append_right_inj front).mp h
      exact Or.inr ⟨front, v, hf, hv, rfl, List.suffix_refl front, hv'⟩

/-- A marker that reaches over the seam holds the last element of the text in front. -/
theorem Straddles.exists_getLast? (h : Straddles marker front text) :
    ∃ x ∈ marker, front.getLast? = some x := by
  obtain ⟨u, v, hu, _, rfl, ⟨start, rfl⟩, _⟩ := h
  refine ⟨u.getLast hu, List.mem_append_left v (List.getLast_mem hu), ?_⟩
  rw [List.getLast?_append_of_ne_nil start hu, List.getLast?_eq_some_getLast hu]

/-- A marker that neither stands in the text in front nor reaches over the seam stands first where
it does in the text behind. -/
theorem FirstBehind.prepend (h : FirstBehind before marker text) (hfront : ¬ marker <:+: front)
    (hseam : ¬ Straddles marker front text) :
    FirstBehind (front ++ before) marker (front ++ text) := by
  induction front with
  | nil => exact h
  | cons c rest ih =>
    have hrest : ¬ marker <:+: rest := fun hi => hfront (List.infix_cons hi)
    have hseam' : ¬ Straddles marker rest text := by
      rintro ⟨u, v, hu, hv, he, hsuffix, hv'⟩
      exact hseam ⟨u, v, hu, hv, he, hsuffix.trans (List.suffix_cons c rest), hv'⟩
    refine (ih hrest hseam').cons fun hstart => ?_
    have hjoined : marker <+: (c :: rest) ++ text := hstart
    rcases starts_append_cases hjoined (List.cons_ne_nil c rest) with hin | hover
    · exact hfront hin.isInfix
    · exact hseam hover

end First

section Search

variable {α : Type} [DecidableEq α] {marker text : List α} {n : Nat}

/-- What a search skips stands before the first occurrence. -/
theorem exists_firstBehind_of_find? (h : find? marker text = some n) :
    ∃ before, FirstBehind before marker text ∧ before.length = n := by
  induction text generalizing n with
  | nil =>
    rw [find?] at h
    split at h <;> cases h
    next hm =>
      subst hm
      exact ⟨[], ⟨List.prefix_refl [], fun _ _ => Nat.zero_le _⟩, rfl⟩
  | cons c rest ih =>
    rw [find?] at h
    by_cases hp : marker.isPrefixOf (c :: rest) = true
    · rw [if_pos hp] at h
      cases h
      exact ⟨[], ⟨List.isPrefixOf_iff_prefix.mp hp, fun _ _ => Nat.zero_le _⟩, rfl⟩
    · rw [if_neg hp, Option.map_eq_some_iff] at h
      obtain ⟨k, hk, rfl⟩ := h
      obtain ⟨before, hb, rfl⟩ := ih hk
      have hc : ¬ marker <+: c :: rest := fun hc => hp (List.isPrefixOf_iff_prefix.mpr hc)
      exact ⟨c :: before, hb.cons hc, rfl⟩

/-- A search finds a place exactly if it is that of the first occurrence. -/
theorem find?_eq_some_iff :
    find? marker text = some n ↔ ∃ before, FirstBehind before marker text ∧ before.length = n := by
  refine ⟨exists_firstBehind_of_find?, ?_⟩
  rintro ⟨before, hb, rfl⟩
  cases hk : find? marker text with
  | none => exact absurd hb.isInfix (find?_eq_none_iff.mp hk)
  | some k =>
    obtain ⟨before', hb', rfl⟩ := exists_firstBehind_of_find? hk
    rw [hb.unique hb']

/-- A marker that is a part of a text stands first somewhere. -/
theorem exists_firstBehind (h : marker <:+: text) : ∃ before, FirstBehind before marker text := by
  obtain ⟨n, hn⟩ := Option.isSome_iff_exists.mp (occurs_iff.mpr h)
  obtain ⟨before, hb, _⟩ := exists_firstBehind_of_find? hn
  exact ⟨before, hb⟩

end Search

section Strings

variable {marker text : String}

/-- A marker that is a part of a text stands first behind some text. -/
theorem exists_firstBehind_toList (h : marker.toList <:+: text.toList) :
    ∃ before : String, FirstBehind before.toList marker.toList text.toList := by
  obtain ⟨before, hb⟩ := exists_firstBehind h
  exact ⟨String.ofList before, by rwa [String.toList_ofList]⟩

end Strings

end PauseWatch.Text
