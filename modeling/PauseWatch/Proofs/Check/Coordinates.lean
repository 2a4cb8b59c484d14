import Mathlib.Data.Prod.Lex
import PauseWatch.Proofs.Check.Marker

/-!
# Places in the order of their coordinates

Along a text the coordinates of a place, its line and then its column, only grow: each character
brings the place to the next column or, a line feed, to the start of the next line. So two places of
one text are in the order of their coordinates, and a line and a column belong to one offset. The
places that are reported are places of the checked text.
-/

namespace PauseWatch.Location

/-- The line and the column of a place, where the line counts before the column. -/
def coordinates (place : Location) : ℕ ×ₗ ℕ := toLex (place.line, place.column)

/-- The place behind one more character. -/
def behindChar (place : Location) (c : Char) : Location where
  offset := place.offset + c.utf8Size
  line := if c = '\n' then place.line + 1 else place.line
  column := if c = '\n' then 1 else place.column + 1

/-- The place of a position in a text, which lies between two of its characters or at an end. -/
def ofPos {text : String} (p : text.Pos) : Location := ofOffset text p.offset.byteIdx

variable {text : String} {before rest : String} {p q : text.Pos}

/-- One character more in front brings a place behind that character. -/
theorem after_concat (before : List Char) (c : Char) :
    after (before ++ [c]) = (after before).behindChar c := by
  have hoffset : (after (before ++ [c])).offset = (after before).offset + c.utf8Size := by
    rw [offset_after, byteLength_append]
    rfl
  have hline : (after (before ++ [c])).line =
      if c = '\n' then (after before).line + 1 else (after before).line := by
    rw [line_after, line_after, List.count_append, List.count_singleton]
    by_cases hc : c = '\n'
    · rw [if_pos (beq_iff_eq.mpr hc), if_pos hc]
    · rw [if_neg (beq_iff_eq.not.mpr hc), if_neg hc, Nat.add_zero]
  have hcolumn : (after (before ++ [c])).column =
      if c = '\n' then 1 else (after before).column + 1 := by
    rw [column_after, column_after, lastLine_append]
    by_cases hc : c = '\n'
    · subst hc
      rfl
    · rw [if_neg (List.mem_singleton.not.mpr (Ne.symm hc)), if_neg hc, List.length_append]
      rfl
  rw [behindChar, ← hoffset, ← hline, ← hcolumn]

/-- The coordinates grow with every character. -/
theorem coordinates_lt_behindChar (place : Location) (c : Char) :
    place.coordinates < (place.behindChar c).coordinates := by
  rw [coordinates, coordinates, Prod.Lex.toLex_lt_toLex, behindChar]
  by_cases hc : c = '\n'
  · exact Or.inl (by simp [hc])
  · exact Or.inr (by simp [hc])

theorem coordinates_lt_concat (before : List Char) (c : Char) :
    (after before).coordinates < (after (before ++ [c])).coordinates := by
  rw [after_concat]
  exact coordinates_lt_behindChar _ c

/-- The coordinates grow along a text. -/
theorem coordinates_lt_append (before : List Char) (c : Char) (more : List Char) :
    (after before).coordinates < (after (before ++ c :: more)).coordinates := by
  induction more generalizing before c with
  | nil => exact coordinates_lt_concat before c
  | cons d rest ih =>
    have hmore := ih (before ++ [c]) d
    rw [List.append_assoc, List.singleton_append] at hmore
    exact (coordinates_lt_concat before c).trans hmore

/-- The characters before the offset at which a text is split are those of its first part. -/
theorem charsBefore_append (before rest : List Char) :
    charsBefore (byteLength before) (before ++ rest) = before := by
  induction before with
  | nil =>
    cases rest with
    | nil => rfl
    | cons c rest => exact if_neg (Nat.not_le.mpr c.utf8Size_pos)
  | cons c more ih =>
    rw [List.cons_append, byteLength, charsBefore, if_pos (Nat.le_add_right _ _),
      Nat.add_sub_cancel_left, ih]

/-- The place of a position is counted from the text before it. -/
theorem ofPos_of_splits (h : p.Splits before rest) : ofPos p = after before.toList := by
  have hoffset : p.offset.byteIdx = byteLength before.toList := by
    rw [h.offset_eq_rawEndPos, byteLength_toList]
    rfl
  have htext : text.toList = before.toList ++ rest.toList := by
    rw [h.eq_append, String.toList_append]
  rw [ofPos, ofOffset, hoffset, htext, charsBefore_append]

theorem ofPos_next (p : text.Pos) (h : p ≠ text.endPos) :
    ofPos (p.next h) = (ofPos p).behindChar (p.get h) := by
  rw [ofPos_of_splits (p.splits_next h), ofPos_of_splits p.splits, String.toList_append,
    String.toList_singleton, after_concat]

/-- The places of a text are in the order of their coordinates. -/
theorem coordinates_lt_of_lt (h : p < q) : (ofPos p).coordinates < (ofPos q).coordinates := by
  obtain ⟨between, hne, hbefore, -⟩ := (p.splits.lt_iff_exists_eq_append q.splits).mp h
  rw [ofPos_of_splits p.splits, ofPos_of_splits q.splits, hbefore, String.toList_append]
  cases hb : between.toList with
  | nil => exact absurd (String.toList_eq_nil_iff.mp hb) hne
  | cons c more => exact coordinates_lt_append _ c more

theorem coordinates_lt_iff : (ofPos p).coordinates < (ofPos q).coordinates ↔ p < q := by
  refine ⟨fun h => ?_, coordinates_lt_of_lt⟩
  rcases Std.lt_trichotomy p q with hlt | rfl | hgt
  · exact hlt
  · exact absurd h (lt_irrefl _)
  · exact absurd h (lt_asymm (coordinates_lt_of_lt hgt))

/-- A line and a column belong to one position. -/
theorem coordinates_inj : (ofPos p).coordinates = (ofPos q).coordinates ↔ p = q := by
  refine ⟨fun h => ?_, fun h => h ▸ rfl⟩
  have hlt : ¬ p < q := fun hlt => (coordinates_lt_of_lt hlt).ne h
  have hgt : ¬ q < p := fun hgt => (coordinates_lt_of_lt hgt).ne h.symm
  exact ((Std.lt_trichotomy p q).resolve_left hlt).resolve_right hgt

/-- The place that the check for a forbidden marker reports is the place of a position. -/
theorem exists_ofPos_of_check {c : Capture} {matcher : Matcher} {channel : Channel}
    {marker : String} {f : Failure}
    (h : c.check matcher channel (.notContains marker) = some f) :
    ∃ p : (c.text channel).Pos, f.location = some (ofPos p) := by
  obtain ⟨before, hfirst, rfl⟩ := Capture.check_notContains_eq_some_iff.mp h
  obtain ⟨rest, htext⟩ := hfirst.isPrefix
  have hsplit : c.text channel = before ++ String.ofList rest := by
    rw [← String.toList_inj, String.toList_append, String.toList_ofList, htext]
  refine ⟨.ofEqAppend hsplit, ?_⟩
  rw [ofPos_of_splits (String.Pos.splits_ofEqAppend hsplit)]
  rfl

/-- How lines and columns follow the offsets of a text. A text starts in the first column of its
first line; behind a line feed comes the first column of the next line, and behind any other
character the next column. The coordinates of two positions, the line first, are in the order of
their offsets, so no two positions have the same line and column, and a position that is reported is
one of the text that was checked. -/
theorem coordinates_follow_offsets :
    (∀ text : String,
      ofPos text.startPos = ⟨0, 1, 1⟩ ∧
      (∀ (p : text.Pos) (h : p ≠ text.endPos),
        (ofPos (p.next h)).line = (if p.get h = '\n' then (ofPos p).line + 1 else (ofPos p).line) ∧
        (ofPos (p.next h)).column = if p.get h = '\n' then 1 else (ofPos p).column + 1) ∧
      ∀ p q : text.Pos, (ofPos p).offset = p.offset.byteIdx ∧
        ((ofPos p).coordinates < (ofPos q).coordinates ↔ p.offset.byteIdx < q.offset.byteIdx) ∧
        ((ofPos p).line = (ofPos q).line ∧ (ofPos p).column = (ofPos q).column ↔
          p.offset.byteIdx = q.offset.byteIdx)) ∧
    ∀ (c : Capture) (matcher : Matcher) (channel : Channel) (marker : String) (f : Failure),
      c.check matcher channel (.notContains marker) = some f →
        ∃ p : (c.text channel).Pos, f.location = some (ofPos p) := by
  refine ⟨fun text => ⟨?_, fun p h => ?_, fun p q => ⟨?_, coordinates_lt_iff, ?_⟩⟩,
    fun c matcher channel marker f => exists_ofPos_of_check⟩
  · rw [ofPos_of_splits (String.splits_startPos text)]
    rfl
  · rw [ofPos_next]
    exact ⟨rfl, rfl⟩
  · rw [ofPos_of_splits p.splits, offset_after, byteLength_toList]
    exact congrArg String.Pos.Raw.byteIdx p.splits.offset_eq_rawEndPos.symm
  · rw [← Prod.mk_inj, ← String.Pos.Raw.ext_iff, ← String.Pos.ext_iff]
    exact toLex_inj.symm.trans coordinates_inj

/-- In a text of two lines with letters of two bytes, the position behind the line feed, and one
that is reported. -/
theorem coordinates_follow_offsets_second_line :
    let c : Capture := { stdout := "é\nñaa" }
    (∃ (p : (c.text .stdout).Pos) (h : p ≠ (c.text .stdout).endPos),
      p.offset.byteIdx = 2 ∧ p.get h = '\n' ∧
        (ofPos (p.next h)).line = 2 ∧ (ofPos (p.next h)).column = 1) ∧
    ∃ f, c.check Pattern.compile .stdout (.notContains "aa") = some f ∧
      ∃ p : (c.text .stdout).Pos, f.location = some (ofPos p) := by
  intro c
  obtain ⟨htext, hreported⟩ := coordinates_follow_offsets
  obtain ⟨-, hnext, -⟩ := htext (c.text .stdout)
  let p : (c.text .stdout).Pos := (c.text .stdout).startPos.next (by decide)
  have hchar : p.get (by decide) = '\n' := by decide
  obtain ⟨hline, hcolumn⟩ := hnext p (by decide)
  rw [if_pos hchar] at hline hcolumn
  have hf : c.check Pattern.compile .stdout (.notContains "aa") =
      some (c.foundBehind .stdout "aa" "é\nñ") := by
    decide
  exact ⟨⟨p, by decide, by decide, hchar, hline.trans (by decide), hcolumn⟩, _, hf,
    hreported c Pattern.compile .stdout "aa" _ hf⟩

end PauseWatch.Location
