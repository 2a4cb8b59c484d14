import PauseWatch.Display.Truncation

/-!
# What shortening keeps of a text

A text that is too long becomes a start of it and three dots, at every limit: below three the start
is empty. So a shortened text is as long as the limit says, and shortening it again is the same as
shortening the whole text at once, although the dots of the first cut are text for the second one.
-/

namespace PauseWatch.Display

variable {limit m n : Nat} {text : List Char}

/-- A text that is short enough stays as it is. -/
theorem shorten_of_length_le (h : text.length ≤ limit) : shorten limit text = text := if_pos h

/-- A text that is too long loses all but a start, which is empty at the limits below three. -/
theorem shorten_of_lt_length (h : limit < text.length) :
    shorten limit text = text.take (limit - 3) ++ dots := by
  rw [shorten, if_neg (Nat.not_le.mpr h)]
  split
  · next hthree => rw [Nat.sub_eq_zero_of_le hthree, List.take_zero, List.nil_append]
  · rfl

/-- A text that is too long becomes as long as the limit says, or as the dots. -/
theorem length_shorten_of_lt_length (h : limit < text.length) :
    (shorten limit text).length = max limit 3 := by
  have hkept : (text.take (limit - 3)).length = limit - 3 := by
    rw [List.length_take]
    omega
  have hdots : dots.length = 3 := rfl
  rw [shorten_of_lt_length h, List.length_append, hkept, hdots]
  omega

theorem length_shorten_le (limit : Nat) (text : List Char) :
    (shorten limit text).length ≤ max limit 3 := by
  rcases Nat.lt_or_ge limit text.length with h | h
  · exact Nat.le_of_eq (length_shorten_of_lt_length h)
  · rw [shorten_of_length_le h]
    exact Nat.le_trans h (Nat.le_max_left _ _)

/-- Shortening in two steps is shortening once. -/
theorem shorten_shorten (h : n ≤ m) (text : List Char) :
    shorten n (shorten m text) = shorten n text := by
  rcases Nat.lt_or_ge m text.length with hm | hm
  · have hlength := length_shorten_of_lt_length hm
    rcases Nat.lt_or_ge n (max m 3) with hn | hn
    · have hkept : n - 3 ≤ (text.take (m - 3)).length := by
        rw [List.length_take]
        omega
      rw [shorten_of_lt_length (hlength ▸ hn), shorten_of_lt_length hm,
        shorten_of_lt_length (Nat.lt_of_le_of_lt h hm), List.take_append_of_le_length hkept,
        List.take_take, Nat.min_eq_left (Nat.sub_le_sub_right h 3)]
    · obtain rfl : n = m := by omega
      exact shorten_of_length_le (hlength ▸ hn)
  · rw [shorten_of_length_le hm]

@[simp] theorem truncate_raw (s : String) (limit : Nat) : truncate s limit true = s := rfl

@[simp] theorem toList_truncate (s : String) (limit : Nat) :
    (truncate s limit false).toList = shorten limit s.toList := String.toList_ofList

theorem length_truncate (s : String) (limit : Nat) :
    (truncate s limit false).length = (shorten limit s.toList).length := String.length_ofList

/-- A text that is too long is shown as a start of it, of all but three of the characters that may
be shown, and the dots. -/
theorem exists_truncate_of_lt_length {s : String} (h : limit < s.length) :
    ∃ kept lost : String, s = kept ++ lost ∧ kept.length = limit - 3 ∧
      truncate s limit false = kept ++ "..." := by
  refine ⟨String.ofList (s.toList.take (limit - 3)), String.ofList (s.toList.drop (limit - 3)),
    ?_, ?_, ?_⟩
  · rw [← String.ofList_append, List.take_append_drop, String.ofList_toList]
  · rw [String.length_ofList, List.length_take, String.length_toList]
    omega
  · rw [← String.toList_inj, toList_truncate, shorten_of_lt_length h, String.toList_append,
      String.toList_ofList]
    rfl

/-- What is shown of a text. Shortened at two limits, the greater one first, it is what it is at the
smaller one alone. It has at most as many characters as the limit or the dots say; a text that is
short enough is shown whole, and of a longer one all characters but three of those that may be
shown, and the dots: it fills the limit, unless that leaves room for the dots at most. A raw text is
always shown whole. -/
theorem truncate_shows :
    (∀ (s : String) (m n : Nat), n ≤ m →
      truncate (truncate s m false) n false = truncate s n false) ∧
    (∀ (s : String) (m : Nat), (truncate s m false).length ≤ max m 3 ∧
      (s.length ≤ m → truncate s m false = s) ∧
      (m < s.length → (∃ kept lost : String, s = kept ++ lost ∧ kept.length = m - 3 ∧
          truncate s m false = kept ++ "...") ∧
        (3 ≤ m → (truncate s m false).length = m) ∧ (m ≤ 3 → truncate s m false = "..."))) ∧
    ∀ (s : String) (m : Nat), truncate s m true = s := by
  refine ⟨fun s m n h => ?_, fun s m => ⟨?_, fun h => ?_, fun h => ?_⟩, truncate_raw⟩
  · rw [← String.toList_inj, toList_truncate, toList_truncate, toList_truncate,
      shorten_shorten h]
  · rw [length_truncate]
    exact length_shorten_le m s.toList
  · rw [← String.toList_inj, toList_truncate, shorten_of_length_le h]
  · obtain ⟨kept, lost, hsplit, hkept, hshown⟩ := exists_truncate_of_lt_length h
    refine ⟨⟨kept, lost, hsplit, hkept, hshown⟩, fun hm => ?_, fun hm => ?_⟩
    · rw [length_truncate, length_shorten_of_lt_length h, Nat.max_eq_left hm]
    · have hzero : kept.length = 0 := hkept.trans (Nat.sub_eq_zero_of_le hm)
      rw [hshown, String.length_eq_zero_iff.mp hzero, String.empty_append]

/-- Six characters of two bytes each, cut at five and then at four of them: the second cut takes a
letter and all dots of the first one away. -/
theorem truncate_shows_cut_twice :
    let s := "éàüöñç"
    (4 ≤ 5 ∧ truncate (truncate s 5 false) 4 false = truncate s 4 false) ∧
    5 < s.length ∧ (truncate s 5 false).length = 5 ∧
    2 < s.length ∧ truncate s 2 false = "..." ∧
    s.length ≤ 6 ∧ truncate s 6 false = s := by
  intro s
  obtain ⟨htwice, hshown, -⟩ := truncate_shows
  have hlength : s.length = 6 := by decide
  obtain ⟨-, hwhole, -⟩ := hshown s 6
  obtain ⟨-, -, hcut⟩ := hshown s 5
  obtain ⟨-, -, hdots⟩ := hshown s 2
  exact ⟨⟨by decide, htwice s 5 4 (by decide)⟩, by omega, (hcut (by omega)).2.1 (by decide),
    by omega, (hdots (by omega)).2.2 (by decide), by omega, hwhole (by omega)⟩

end PauseWatch.Display
