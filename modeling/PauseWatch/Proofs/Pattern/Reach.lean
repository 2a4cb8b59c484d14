import Mathlib.Data.List.Basic
import PauseWatch.Pattern.Basic

/-!
# Stepping over the places of a text

A pattern that is repeated takes one step after another over the places of a text, and no step goes
back. A search that marks places finds what so many rounds lead to, where each round starts only
from the places that were marked in the round before. Rounds that stay where they are can be left
out, so a text never needs more rounds than it has places.
-/

namespace PauseWatch.Pattern

/-- That so many steps lead from one place to another. -/
def Leads (leads : Nat → Nat → Prop) : Nat → Nat → Nat → Prop
  | 0, p, q => p = q
  | n + 1, p, q => ∃ m, leads p m ∧ Leads leads n m q

/-- That a function on lists of places takes the steps of a relation, which go neither back nor out
of the text. -/
structure Takes (size : Nat) (step : List Nat → List Nat) (leads : Nat → Nat → Prop) : Prop where
  mem_step {places : List Nat} {q : Nat} (bounded : ∀ p ∈ places, p < size) :
    q ∈ step places ↔ ∃ p ∈ places, leads p q
  le {p q : Nat} (h : leads p q) : p ≤ q
  lt_size {p q : Nat} (h : leads p q) : q < size

variable {size : Nat} {step : List Nat → List Nat} {leads : Nat → Nat → Prop}
variable {places : List Nat} {reached : Array Bool} {p q : Nat}

theorem leads_add_iff {m n : Nat} :
    Leads leads (m + n) p q ↔ ∃ r, Leads leads m p r ∧ Leads leads n r q := by
  induction m generalizing p with
  | zero => simp [Leads]
  | succ m ih =>
    rw [Nat.succ_add]
    simp only [Leads, ih]
    grind

theorem mem_marked_iff : p ∈ marked reached ↔ reached.getD p false = true := by
  simp only [marked, List.mem_filter, List.mem_range, and_iff_right_iff_imp]
  intro h
  by_contra hp
  simp [Array.getD, hp] at h

theorem lt_size_of_mem_marked (h : p ∈ marked reached) : p < reached.size :=
  List.mem_range.mp (List.mem_filter.mp h).1

theorem size_markAll : (markAll reached places).size = reached.size := by
  induction places generalizing reached with
  | nil => rfl
  | cons p places ih => rw [markAll, List.foldl_cons, ← markAll, ih, Array.size_setIfInBounds]

theorem mem_marked_markAll_iff (bounded : ∀ p ∈ places, p < reached.size) :
    q ∈ marked (markAll reached places) ↔ q ∈ marked reached ∨ q ∈ places := by
  induction places generalizing reached with
  | nil => simp [markAll]
  | cons p places ih =>
    have hp := bounded p List.mem_cons_self
    have hplaces : ∀ a ∈ places, a < (reached.setIfInBounds p true).size := by
      simpa using fun a ha => bounded a (List.mem_cons_of_mem p ha)
    rw [markAll, List.foldl_cons, ← markAll, ih hplaces, List.mem_cons, ← or_assoc]
    refine or_congr_left ?_
    simp only [mem_marked_iff, Array.getD_eq_getD_getElem?, Array.getElem?_setIfInBounds]
    grind

namespace Takes

theorem bounded_step (h : Takes size step leads) (bounded : ∀ p ∈ places, p < size) :
    ∀ q ∈ step places, q < size := by
  intro q hq
  obtain ⟨p, -, hpq⟩ := (h.mem_step bounded).mp hq
  exact h.lt_size hpq

theorem lt_of_leads (h : Takes size step leads) {n : Nat} (hp : p < size)
    (hn : Leads leads n p q) : q < size := by
  induction n generalizing p with
  | zero => exact hn ▸ hp
  | succ n ih =>
    obtain ⟨m, hpm, hmq⟩ := hn
    exact ih (h.lt_size hpm) hmq

/-- Steps that stay where they are can be left out, and every other one moves on by a place at
least. -/
theorem exists_fewer (h : Takes size step leads) {n : Nat} (hn : Leads leads n p q) :
    ∃ k ≤ n, k ≤ q - p ∧ p ≤ q ∧ Leads leads k p q := by
  induction n generalizing p with
  | zero => exact ⟨0, Nat.le_refl 0, Nat.zero_le _, Nat.le_of_eq hn, hn⟩
  | succ n ih =>
    obtain ⟨m, hpm, hmq⟩ := hn
    obtain ⟨k, hkn, hk, hle, hlead⟩ := ih hmq
    rcases Nat.eq_or_lt_of_le (h.le hpm) with rfl | hlt
    · exact ⟨k, by omega, hk, hle, hlead⟩
    · exact ⟨k + 1, by omega, by omega, by omega, m, hpm, hlead⟩

/-- However often a step is taken from places that it leads to itself, it leads there. -/
theorem mem_iff_of_step_eq (h : Takes size step leads) (bounded : ∀ p ∈ places, p < size)
    (fixed : step places = places) (n q : Nat) :
    q ∈ places ↔ ∃ p ∈ places, Leads leads n p q := by
  induction n with
  | zero => simp [Leads]
  | succ n ih =>
    rw [ih]
    constructor
    · rintro ⟨m, hm, hmq⟩
      rw [← fixed] at hm
      obtain ⟨p, hp, hpm⟩ := (h.mem_step bounded).mp hm
      exact ⟨p, hp, m, hpm, hmq⟩
    · rintro ⟨p, hp, m, hpm, hmq⟩
      have hm := (h.mem_step bounded).mpr ⟨p, hp, hpm⟩
      rw [fixed] at hm
      exact ⟨m, hm, hmq⟩

/-- Taking a step so many times leads where so many steps lead, though it ends early once a step
leads to the same places again. -/
theorem mem_stepTimes_iff (h : Takes size step leads) {rounds : Nat}
    (bounded : ∀ p ∈ places, p < size) :
    q ∈ stepTimes step rounds places ↔ ∃ p ∈ places, Leads leads rounds p q := by
  induction rounds generalizing places with
  | zero => simp [stepTimes, Leads]
  | succ n ih =>
    simp only [stepTimes, beq_iff_eq]
    split
    next fixed => exact h.mem_iff_of_step_eq bounded fixed (n + 1) q
    next =>
      rw [ih (h.bounded_step bounded)]
      constructor
      · rintro ⟨m, hm, hmq⟩
        obtain ⟨p, hp, hpm⟩ := (h.mem_step bounded).mp hm
        exact ⟨p, hp, m, hpm, hmq⟩
      · rintro ⟨p, hp, m, hpm, hmq⟩
        exact ⟨m, (h.mem_step bounded).mpr ⟨p, hp, hpm⟩, hmq⟩

end Takes

/-- The places that a step leads to and that are not marked yet. -/
def freshPlaces (step : List Nat → List Nat) (places : List Nat) (reached : Array Bool) :
    List Nat :=
  (step places).filter fun p => !reached.getD p true

theorem reachWithin_succ {n : Nat} (hne : places ≠ []) :
    reachWithin step (n + 1) places reached =
      reachWithin step n (freshPlaces step places reached)
        (markAll reached (freshPlaces step places reached)) := by
  cases places with
  | nil => exact absurd rfl hne
  | cons first others => rfl

/-- What holds between the rounds of a search: the places to step from are marked, and a step from
any other marked place leads to a marked one. -/
structure Explored (size : Nat) (leads : Nat → Nat → Prop) (places : List Nat)
    (reached : Array Bool) : Prop where
  size_eq : reached.size = size
  mem_marked : ∀ p ∈ places, p ∈ marked reached
  closed : ∀ p ∈ marked reached, p ∉ places → ∀ q, leads p q → q ∈ marked reached

namespace Explored

theorem bounded (e : Explored size leads places reached) : ∀ p ∈ places, p < size := fun p hp =>
  e.size_eq ▸ lt_size_of_mem_marked (e.mem_marked p hp)

/-- Steps from a marked place lead to a marked one, or come through a place to step from. -/
theorem mem_or_leads (e : Explored size leads places reached) {n : Nat} (hp : p ∈ marked reached)
    (h : Leads leads n p q) :
    q ∈ marked reached ∨ ∃ k ≤ n, ∃ m ∈ places, Leads leads k m q := by
  induction n generalizing p with
  | zero =>
    obtain rfl : p = q := h
    exact .inl hp
  | succ n ih =>
    by_cases hplaces : p ∈ places
    · exact .inr ⟨n + 1, Nat.le_refl _, p, hplaces, h⟩
    · obtain ⟨m, hpm, hmq⟩ := h
      rcases ih (e.closed p hp hplaces m hpm) hmq with hq | ⟨k, hk, hlead⟩
      · exact .inl hq
      · exact .inr ⟨k, by omega, hlead⟩

theorem mem_freshPlaces_iff (e : Explored size leads places reached)
    (h : Takes size step leads) :
    q ∈ freshPlaces step places reached ↔ (∃ p ∈ places, leads p q) ∧ q ∉ marked reached := by
  rw [freshPlaces, List.mem_filter, h.mem_step e.bounded]
  refine and_congr_right fun ⟨p, _, hpq⟩ => ?_
  have hq : q < reached.size := e.size_eq ▸ h.lt_size hpq
  simp [mem_marked_iff, Array.getD, hq]

theorem mem_marked_round_iff (e : Explored size leads places reached)
    (h : Takes size step leads) :
    q ∈ marked (markAll reached (freshPlaces step places reached)) ↔
      q ∈ marked reached ∨ ∃ p ∈ places, leads p q := by
  rw [mem_marked_markAll_iff, e.mem_freshPlaces_iff h, or_and_left, and_iff_left (Classical.em _)]
  intro q hq
  obtain ⟨⟨p, -, hpq⟩, -⟩ := (e.mem_freshPlaces_iff h).mp hq
  exact e.size_eq ▸ h.lt_size hpq

/-- A round keeps what holds between rounds. -/
theorem round (e : Explored size leads places reached) (h : Takes size step leads) :
    Explored size leads (freshPlaces step places reached)
      (markAll reached (freshPlaces step places reached)) where
  size_eq := size_markAll.trans e.size_eq
  mem_marked q hq := by
    rw [e.mem_freshPlaces_iff h] at hq
    exact (e.mem_marked_round_iff h).mpr (.inr hq.1)
  closed p hp hfresh q hpq := by
    rw [e.mem_freshPlaces_iff h] at hfresh
    rw [e.mem_marked_round_iff h] at hp ⊢
    have hp : p ∈ marked reached := by grind
    by_cases hplaces : p ∈ places
    · exact .inr ⟨p, hplaces, hpq⟩
    · exact .inl (e.closed p hp hplaces q hpq)

/-- A search marks what was marked before and what at most so many steps lead to. -/
theorem mem_marked_reachWithin_iff (e : Explored size leads places reached)
    (h : Takes size step leads) {rounds : Nat} :
    q ∈ marked (reachWithin step rounds places reached) ↔
      q ∈ marked reached ∨ ∃ k ≤ rounds, ∃ p ∈ places, Leads leads k p q := by
  induction rounds generalizing places reached with
  | zero =>
    simp only [reachWithin, Nat.le_zero, exists_eq_left, Leads, exists_eq_right]
    exact ⟨.inl, fun hq => hq.elim id (e.mem_marked q)⟩
  | succ n ih =>
    by_cases hne : places = []
    · simp [hne, reachWithin]
    rw [reachWithin_succ hne, ih (e.round h), e.mem_marked_round_iff h]
    constructor
    · rintro ((hq | ⟨p, hp, hpq⟩) | ⟨k, hk, m, hm, hmq⟩)
      · exact .inl hq
      · exact .inr ⟨1, by omega, p, hp, q, hpq, rfl⟩
      · obtain ⟨⟨p, hp, hpm⟩, -⟩ := (e.mem_freshPlaces_iff h).mp hm
        exact .inr ⟨k + 1, by omega, p, hp, m, hpm, hmq⟩
    · rintro (hq | ⟨k, hk, p, hp, hlead⟩)
      · exact .inl (.inl hq)
      · cases k with
        | zero =>
          obtain rfl : p = q := hlead
          exact .inl (.inl (e.mem_marked p hp))
        | succ k =>
          obtain ⟨m, hpm, hmq⟩ := hlead
          have hm := (e.mem_marked_round_iff h).mpr (.inr ⟨p, hp, hpm⟩)
          rcases (e.round h).mem_or_leads hm hmq with hq | ⟨j, hj, hlead⟩
          · exact .inl ((e.mem_marked_round_iff h).mp hq)
          · exact .inr ⟨j, by omega, hlead⟩

end Explored

/-- A search that starts with nothing marked but the places to step from finds what at most so many
steps lead to. -/
theorem Takes.mem_reachWithin_iff (h : Takes size step leads) {rounds : Nat}
    (bounded : ∀ p ∈ places, p < size) :
    q ∈ marked (reachWithin step rounds places
        (markAll (List.replicate size false).toArray places)) ↔
      ∃ k ≤ rounds, ∃ p ∈ places, Leads leads k p q := by
  have hmarked (p : Nat) :
      p ∈ marked (markAll (List.replicate size false).toArray places) ↔ p ∈ places := by
    rw [mem_marked_markAll_iff (by simpa using bounded), or_iff_right]
    simp [mem_marked_iff, Array.getD]
  have e : Explored size leads places (markAll (List.replicate size false).toArray places) :=
    ⟨by simp [size_markAll], fun p hp => (hmarked p).mpr hp,
      fun p hp hn => absurd ((hmarked p).mp hp) hn⟩
  rw [e.mem_marked_reachWithin_iff h, hmarked]
  exact or_iff_right_of_imp fun hq => ⟨0, Nat.zero_le _, q, hq, rfl⟩

/-- Once the least number of steps is taken, no more of them are needed than there are places. -/
theorem Takes.exists_leads_iff (h : Takes size step leads) {least : Nat} (most : Option Nat)
    (hp : p < size) :
    (∃ k ≤ most.elim size fun m => min (m - least) size,
        ∃ r, Leads leads least p r ∧ Leads leads k r q) ↔
      ∃ k, least ≤ k ∧ (∀ m ∈ most, k ≤ max least m) ∧ Leads leads k p q := by
  constructor
  · rintro ⟨k, hk, hlead⟩
    refine ⟨least + k, Nat.le_add_right _ _, ?_, leads_add_iff.mpr hlead⟩
    rintro m rfl
    rw [Option.elim_some] at hk
    omega
  · rintro ⟨k, hleast, hmost, hlead⟩
    rw [← Nat.add_sub_cancel' hleast, leads_add_iff] at hlead
    obtain ⟨r, hpr, hrq⟩ := hlead
    have hq := h.lt_of_leads (h.lt_of_leads hp hpr) hrq
    obtain ⟨j, hj, hjsize, -, hrq⟩ := h.exists_fewer hrq
    refine ⟨j, ?_, r, hpr, hrq⟩
    cases most with
    | none =>
      rw [Option.elim_none]
      omega
    | some m =>
      have := hmost m rfl
      rw [Option.elim_some]
      omega

end PauseWatch.Pattern
