import PauseWatch.Proofs.Text.Parts
import PauseWatch.Text.Split

/-!
# Texts and their pieces

Every text is some pieces, each with a separator behind it, and one more piece; it is also one piece
and some more, each with a separator before it. The pieces hold no separator themselves, and they
are what cutting at the separator gives back. A marker that holds no separator lies within one
piece.
-/

namespace PauseWatch.Text

variable {α : Type}

/-- Pieces with a separator behind each of them. -/
def closed (x : α) (pieces : List (List α)) : List α := pieces.flatMap (· ++ [x])

/-- Pieces with a separator before each of them. -/
def opened (x : α) (pieces : List (List α)) : List α := pieces.flatMap (x :: ·)

@[simp] theorem closed_nil (x : α) : closed x [] = [] := rfl

@[simp] theorem closed_cons (x : α) (piece : List α) (more : List (List α)) :
    closed x (piece :: more) = piece ++ x :: closed x more := by
  simp only [closed, List.flatMap_cons, List.append_assoc, List.singleton_append]

/-- The last piece stands last, with the last separator. -/
theorem closed_concat (x : α) (pieces : List (List α)) (piece : List α) :
    closed x (pieces ++ [piece]) = closed x pieces ++ piece ++ [x] := by
  simp only [closed, List.flatMap_append, List.flatMap_singleton, List.append_assoc]

/-- Every piece stands in the closed pieces. -/
theorem infix_closed_of_mem {x : α} {piece : List α} {pieces : List (List α)} (h : piece ∈ pieces) :
    piece <:+: closed x pieces := by
  obtain ⟨earlier, later, rfl⟩ := List.append_of_mem h
  refine ⟨closed x earlier, x :: closed x later, ?_⟩
  simp only [closed, List.flatMap_append, List.flatMap_cons, List.append_assoc,
    List.singleton_append]

/-- A marker without separators stands in closed pieces exactly if it stands in one of them. -/
theorem infix_closed_iff {x : α} {marker : List α} (hx : x ∉ marker) (hm : marker ≠ [])
    {pieces : List (List α)} :
    marker <:+: closed x pieces ↔ ∃ piece ∈ pieces, marker <:+: piece := by
  induction pieces with
  | nil => simp [hm]
  | cons piece rest ih => rw [closed_cons, infix_separated_iff hx hm, ih, List.exists_mem_cons_iff]

section Cutting

variable {isCut : α → Bool} {piece text : List α} {later : List (List α)} {c : α}

/-- An element that does not cut belongs to the first piece. -/
theorem pieces_cons_of_not_cut (hc : isCut c = false) (h : pieces isCut text = piece :: later) :
    pieces isCut (c :: text) = (c :: piece) :: later := by
  rw [pieces, hc, h]
  rfl

/-- A text up to the first element that cuts is a piece. -/
theorem pieces_append_cut (h : ∀ a ∈ piece, isCut a = false) (hc : isCut c = true)
    (more : List α) : pieces isCut (piece ++ c :: more) = piece :: pieces isCut more := by
  induction piece with
  | nil => rw [List.nil_append, pieces, if_pos hc]
  | cons a rest ih =>
    obtain ⟨ha, hrest⟩ := List.forall_mem_cons.mp h
    exact pieces_cons_of_not_cut ha (ih hrest)

/-- A text in which nothing cuts is one piece. -/
theorem pieces_of_not_cut (h : ∀ a ∈ piece, isCut a = false) : pieces isCut piece = [piece] := by
  induction piece with
  | nil => rfl
  | cons a rest ih =>
    obtain ⟨ha, hrest⟩ := List.forall_mem_cons.mp h
    exact pieces_cons_of_not_cut ha (ih hrest)

end Cutting

variable [DecidableEq α] {x : α} {piece : List α} {earlier later : List (List α)}

/-- Every text is some closed pieces and one more piece. -/
theorem exists_closed (x : α) (text : List α) :
    ∃ earlier piece, (∀ p ∈ earlier, x ∉ p) ∧ x ∉ piece ∧ text = closed x earlier ++ piece := by
  induction text with
  | nil => exact ⟨[], [], by simp, by simp, rfl⟩
  | cons c rest ih =>
    obtain ⟨earlier, piece, he, hp, rfl⟩ := ih
    by_cases hc : x = c
    · subst hc
      exact ⟨[] :: earlier, piece, by simpa using he, hp, by simp⟩
    · cases earlier with
      | nil => exact ⟨[], c :: piece, by simp, by simp [hc, hp], by simp⟩
      | cons first more =>
        obtain ⟨hfirst, hmore⟩ := List.forall_mem_cons.mp he
        have hfirst' : x ∉ c :: first := by simp [hc, hfirst]
        exact ⟨(c :: first) :: more, piece, List.forall_mem_cons.mpr ⟨hfirst', hmore⟩, hp, by simp⟩

private theorem not_cut_of_not_mem (h : x ∉ piece) : ∀ a ∈ piece, (a == x) = false :=
  fun _ ha => beq_false_of_ne fun he => h (he ▸ ha)

/-- A text up to its first separator is a piece. -/
theorem pieces_append_cons (h : x ∉ piece) (more : List α) :
    pieces (· == x) (piece ++ x :: more) = piece :: pieces (· == x) more :=
  pieces_append_cut (not_cut_of_not_mem h) (beq_self_eq_true x) more

/-- A text without separators is one piece. -/
theorem pieces_of_not_mem (h : x ∉ piece) : pieces (· == x) piece = [piece] :=
  pieces_of_not_cut (not_cut_of_not_mem h)

/-- Closed pieces are cut off one by one. -/
theorem pieces_closed_append (h : ∀ p ∈ earlier, x ∉ p) (more : List α) :
    pieces (· == x) (closed x earlier ++ more) = earlier ++ pieces (· == x) more := by
  induction earlier with
  | nil => rfl
  | cons p rest ih =>
    obtain ⟨hp, hrest⟩ := List.forall_mem_cons.mp h
    rw [closed_cons, List.append_assoc, List.cons_append, pieces_append_cons hp, ih hrest,
      List.cons_append]

/-- Two texts that are joined by a separator have the pieces of both. -/
theorem pieces_append_separator (x : α) (before after : List α) :
    pieces (· == x) (before ++ x :: after) =
      pieces (· == x) before ++ pieces (· == x) after := by
  obtain ⟨earlier, piece, he, hp, rfl⟩ := exists_closed x before
  rw [List.append_assoc, pieces_closed_append he, pieces_append_cons hp, pieces_closed_append he,
    pieces_of_not_mem hp, List.append_assoc, List.singleton_append]

/-- Texts that are joined by separators have the pieces of all of them. -/
theorem pieces_intercalate (x : α) {texts : List (List α)} (h : texts ≠ []) :
    pieces (· == x) ([x].intercalate texts) = texts.flatMap (pieces (· == x)) := by
  induction texts with
  | nil => exact absurd rfl h
  | cons first more ih =>
    cases more with
    | nil => rw [List.intercalate_singleton, List.flatMap_singleton]
    | cons second others =>
      have hmore := ih (List.cons_ne_nil second others)
      rw [List.intercalate_cons_cons, List.append_assoc, List.singleton_append,
        pieces_append_separator, hmore, ← List.flatMap_cons]

end PauseWatch.Text
