import Mathlib.Data.List.DropRight
import PauseWatch.Check.Location
import PauseWatch.Proofs.Text.Pieces

/-!
# Places in their three coordinates

A place in a text is told by bytes, by lines and by columns. `Location.Between` says what each of
the three means for the text before the place and the text that follows it, and every place that is
counted from what stands before it is meant so. Where a text is put in front of another one, the
places of that one move as `Location.behind` says.
-/

namespace PauseWatch.Location

open Text

/-- The number of bytes of characters is that of the text that they make up. -/
theorem byteLength_eq (chars : List Char) :
    byteLength chars = (String.ofList chars).utf8ByteSize := by
  induction chars with
  | nil => rfl
  | cons c rest ih =>
    rw [byteLength, ih, String.ofList_cons, String.utf8ByteSize_append,
      String.utf8ByteSize_singleton]

@[simp] theorem byteLength_toList (text : String) : byteLength text.toList = text.utf8ByteSize := by
  rw [byteLength_eq, String.ofList_toList]

@[simp] theorem byteLength_append (front chars : List Char) :
    byteLength (front ++ chars) = byteLength front + byteLength chars := by
  rw [byteLength_eq, byteLength_eq, byteLength_eq, String.ofList_append, String.utf8ByteSize_append]

/-- The characters after the last line feed. -/
def lastLine (chars : List Char) : List Char := chars.rtakeWhile (· != '\n')

@[simp] theorem offset_after (before : List Char) : (after before).offset = byteLength before := rfl

@[simp] theorem line_after (before : List Char) :
    (after before).line = before.count '\n' + 1 := rfl

/-- The column of a place counts the last line before it. -/
theorem column_after (before : List Char) :
    (after before).column = (lastLine before).length + 1 := by
  rw [after, lastLine, List.rtakeWhile, List.length_reverse]

private theorem takeWhile_eq_self_iff_not_mem {line : List Char} :
    line.takeWhile (· != '\n') = line ↔ '\n' ∉ line := by
  rw [List.takeWhile_eq_self_iff]
  constructor
  · intro hall hm
    simpa using hall '\n' hm
  · intro hm c hc
    refine bne_iff_ne.mpr ?_
    rintro rfl
    exact hm hc

/-- The last line of joined texts is that of the second one, behind that of the first one if there
is no line feed in the second one. -/
theorem lastLine_append (front chars : List Char) : lastLine (front ++ chars) =
    if '\n' ∈ chars then lastLine chars else lastLine front ++ chars := by
  have hself : (chars.reverse.takeWhile (· != '\n')).length = chars.reverse.length ↔
      '\n' ∉ chars := by
    rw [← List.mem_reverse, ← takeWhile_eq_self_iff_not_mem]
    exact ⟨(List.takeWhile_prefix _).eq_of_length, congrArg List.length⟩
  rw [lastLine, List.rtakeWhile, List.reverse_append, List.takeWhile_append, lastLine, lastLine,
    List.rtakeWhile, List.rtakeWhile]
  by_cases hm : '\n' ∈ chars
  · rw [if_pos hm, if_neg (by rw [hself]; exact not_not_intro hm)]
  · rw [if_neg hm, if_pos (hself.mpr hm), List.reverse_append, List.reverse_reverse]

/-- Closed lines do not belong to the last line. -/
theorem lastLine_closed_append (earlier : List (List Char)) {line : List Char} (h : '\n' ∉ line) :
    lastLine (closed '\n' earlier ++ line) = line := by
  have hclosed : lastLine (closed '\n' earlier) = [] := by
    rcases List.eq_nil_or_concat earlier with rfl | ⟨more, last, rfl⟩
    · rfl
    · rw [List.concat_eq_append, closed_concat, lastLine, List.rtakeWhile_concat]
      rfl
  rw [lastLine_append, if_neg h, hclosed, List.nil_append]

/-- The place that a place becomes when a text is put in front. -/
def behind (front : String) (place : Location) : Location where
  offset := front.utf8ByteSize + place.offset
  line := front.toList.count '\n' + place.line
  column := if place.line = 1 then (lastLine front.toList).length + place.column else place.column

/-- A place in a text moves when another text is put in front. -/
theorem after_append (front : String) (before : List Char) :
    after (front.toList ++ before) = (after before).behind front := by
  have hoffset : (after (front.toList ++ before)).offset =
      front.utf8ByteSize + (after before).offset := by
    simp only [offset_after, byteLength_append, byteLength_toList]
  have hline : (after (front.toList ++ before)).line =
      front.toList.count '\n' + (after before).line := by
    simp only [line_after, List.count_append, Nat.add_assoc]
  have hone : (after before).line = 1 ↔ '\n' ∉ before := by
    rw [line_after, Nat.add_eq_right, List.count_eq_zero]
  have hcolumn : (after (front.toList ++ before)).column =
      if (after before).line = 1 then (lastLine front.toList).length + (after before).column
      else (after before).column := by
    rw [column_after, column_after, lastLine_append]
    by_cases hm : '\n' ∈ before
    · rw [if_pos hm, if_neg (by rw [hone]; exact not_not_intro hm)]
    · have hself : lastLine before = before := lastLine_closed_append [] hm
      rw [if_neg hm, if_pos (hone.mpr hm), hself, List.length_append, Nat.add_assoc]
  rw [behind, ← hoffset, ← hline, ← hcolumn]

end PauseWatch.Location
