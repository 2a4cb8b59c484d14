import PauseWatch.Proofs.Text.Pieces
import PauseWatch.Text.Blank

/-!
# Texts that are cut into words

A text is cut into words when each word is shown by a run of characters that ends only at a
separator or at the end of the text. What counts as a separator and how a run shows a word is left
open, since a text and a command line differ in both. In a text the words are the runs of characters
that are not blank, and there is one way only to cut them out.
-/

namespace PauseWatch.Text

variable {isGap : Char → Bool} {shows : List Char → List Char → Prop}
variable {text rest gap part word : List Char} {words : List (List Char)} {c : Char}

/-- A text is nothing, or starts with a separator. -/
def StartsWithGap (isGap : Char → Bool) (text : List Char) : Prop :=
  ∀ c ∈ text.head?, isGap c = true

/-- The words that a text is cut into. -/
inductive Cuts (isGap : Char → Bool) (shows : List Char → List Char → Prop) :
    List Char → List (List Char) → Prop where
  /-- Separators alone hold no word. -/
  | nil {gap : List Char} (areGaps : ∀ c ∈ gap, isGap c = true) : Cuts isGap shows gap []
  /-- Behind separators a run shows a word, and ends where the next separator stands. -/
  | cons {gap part rest word : List Char} {words : List (List Char)}
      (areGaps : ∀ c ∈ gap, isGap c = true) (ne_nil : part ≠ []) (isWord : shows part word)
      (ends : StartsWithGap isGap rest) (more : Cuts isGap shows rest words) :
      Cuts isGap shows (gap ++ part ++ rest) (word :: words)

theorem startsWithGap_nil : StartsWithGap isGap [] := by simp [StartsWithGap]

theorem startsWithGap_cons_iff : StartsWithGap isGap (c :: rest) ↔ isGap c = true := by
  simp [StartsWithGap]

namespace Cuts

/-- A separator in front of a text changes nothing. -/
theorem gap_cons (h : Cuts isGap shows text words) (hc : isGap c = true) :
    Cuts isGap shows (c :: text) words := by
  cases h with
  | nil areGaps => exact .nil (List.forall_mem_cons.mpr ⟨hc, areGaps⟩)
  | cons areGaps ne_nil isWord ends more =>
    exact .cons (List.forall_mem_cons.mpr ⟨hc, areGaps⟩) ne_nil isWord ends more

/-- A run in front of a text that starts with a separator shows one more word. -/
theorem part_append (h : Cuts isGap shows rest words) (hne : part ≠ []) (hshows : shows part word)
    (hends : StartsWithGap isGap rest) : Cuts isGap shows (part ++ rest) (word :: words) := by
  have hcuts : Cuts isGap shows ([] ++ part ++ rest) (word :: words) :=
    .cons (fun _ hc => (List.not_mem_nil hc).elim) hne hshows hends h
  rwa [List.nil_append] at hcuts

end Cuts

/-- A run of characters that are not blank shows itself. -/
def ShowsItself (part word : List Char) : Prop := part = word ∧ ∀ c ∈ part, isBlank c = false

/-- A blank in front of a text changes none of its words. -/
theorem wordsOf_cons (h : isBlank c = true) : wordsOf (c :: text) = wordsOf text := by
  rw [wordsOf, pieces, if_pos h]
  rfl

/-- Blanks in front of a text change none of its words. -/
theorem wordsOf_gap_append (h : ∀ c ∈ gap, isBlank c = true) :
    wordsOf (gap ++ text) = wordsOf text := by
  induction gap with
  | nil => rfl
  | cons c gap ih =>
    obtain ⟨hc, hgap⟩ := List.forall_mem_cons.mp h
    exact (wordsOf_cons hc).trans (ih hgap)

/-- A run of characters that are not blank, in front of a blank or of nothing, is a word. -/
theorem wordsOf_part_append (hne : part ≠ []) (hpart : ∀ c ∈ part, isBlank c = false)
    (hends : StartsWithGap isBlank rest) : wordsOf (part ++ rest) = part :: wordsOf rest := by
  cases rest with
  | nil =>
    rw [List.append_nil, wordsOf, pieces_of_not_cut hpart]
    simp [wordsOf, pieces, hne]
  | cons c rest =>
    have hc := startsWithGap_cons_iff.mp hends
    rw [wordsOf_cons hc, wordsOf, pieces_append_cut hpart hc]
    simp [wordsOf, hne]

/-- Words that a text is cut into are the words of the text. -/
theorem Cuts.wordsOf_eq (h : Cuts isBlank ShowsItself text words) : wordsOf text = words := by
  induction h with
  | @nil gap areGaps =>
    have hgap : wordsOf (gap ++ []) = [] := wordsOf_gap_append areGaps
    rwa [List.append_nil] at hgap
  | cons areGaps ne_nil isWord ends _ ih =>
    obtain ⟨rfl, hpart⟩ := isWord
    rw [List.append_assoc, wordsOf_gap_append areGaps, wordsOf_part_append ne_nil hpart ends, ih]

/-- Any text is cut into some words. -/
theorem exists_cuts (text : List Char) : ∃ words, Cuts isBlank ShowsItself text words := by
  induction text with
  | nil => exact ⟨[], .nil fun _ hc => (List.not_mem_nil hc).elim⟩
  | cons c text ih =>
    obtain ⟨words, h⟩ := ih
    by_cases hc : isBlank c = true
    · exact ⟨words, h.gap_cons hc⟩
    · rw [Bool.not_eq_true] at hc
      have hself : ∀ d ∈ [c], isBlank d = false := by simpa using hc
      by_cases hends : StartsWithGap isBlank text
      · exact ⟨[c] :: words, h.part_append (List.cons_ne_nil c []) ⟨rfl, hself⟩ hends⟩
      · cases h with
        | nil areGaps =>
          exact absurd (fun d hd => areGaps d (List.mem_of_mem_head? hd)) hends
        | @cons gap part rest word words areGaps ne_nil isWord ends more =>
          cases gap with
          | cons d gap =>
            exact absurd (startsWithGap_cons_iff.mpr (areGaps d List.mem_cons_self)) hends
          | nil =>
            obtain ⟨rfl, hpart⟩ := isWord
            exact ⟨(c :: part) :: words, more.part_append (List.cons_ne_nil c part)
              ⟨rfl, List.forall_mem_cons.mpr ⟨hc, hpart⟩⟩ ends⟩

/-- The words of a text are the ones that it is cut into. -/
theorem wordsOf_eq_iff : wordsOf text = words ↔ Cuts isBlank ShowsItself text words := by
  refine ⟨?_, Cuts.wordsOf_eq⟩
  rintro rfl
  obtain ⟨words, h⟩ := exists_cuts text
  rwa [h.wordsOf_eq]

end PauseWatch.Text
