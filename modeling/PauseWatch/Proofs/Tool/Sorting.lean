import Mathlib.Data.List.Basic
import PauseWatch.Proofs.Tool.Comparison

/-!
# Lines are put in order

What is printed is in order, and of the lines that are alike it holds all, in the order in which
they were read, or only the first. No other lines can be printed, so it does not matter whether
files that are in order are merged or sorted. What was printed passes the check.
-/

namespace PauseWatch.Tool.Sorting

open Std

variable {plan : Plan} {a b c line : List Char} {lines printed : List (List Char)}

namespace Plan

/-- Whether two lines are alike. -/
def isLike (plan : Plan) (a b : List Char) : Bool := plan.order a b = .eq

/-- A line can stand behind another one. -/
def Follows (plan : Plan) (a b : List Char) : Prop :=
  plan.order a b = .lt ∨ (plan.order a b = .eq ∧ plan.isUnique = false)

/-- Every line can stand behind those before it. -/
def InOrder (plan : Plan) (lines : List (List Char)) : Prop := lines.Pairwise plan.Follows

/-- What a plan prints of some lines. -/
structure Prints (plan : Plan) (lines printed : List (List Char)) : Prop where
  /-- It is in order. -/
  inOrder : plan.InOrder printed
  /-- Of lines that are alike there are all, in the order in which they were read, or only the
  first. -/
  keeps (line : List Char) : printed.filter (plan.isLike line) =
    if plan.isUnique then ((lines.filter (plan.isLike line)).take 1)
    else lines.filter (plan.isLike line)

theorem isLike_iff : plan.isLike a b = true ↔ plan.order a b = .eq := decide_eq_true_iff

theorem isLike_self : plan.isLike a a = true := isLike_iff.mpr ReflCmp.compare_self

theorem isLike_congr (h : plan.order a b = .eq) : plan.isLike line a = plan.isLike line b := by
  rw [isLike, isLike, TransCmp.congr_right h]

theorem isLike_of_lt (h : plan.order a b = .lt) (ha : plan.isLike line a = true) :
    plan.isLike line b = false := by
  rw [isLike, TransCmp.congr_left (isLike_iff.mp ha), h]
  rfl

theorem Follows.isLE (h : plan.Follows a b) : (plan.order a b).isLE = true := by
  rcases h with h | ⟨h, -⟩ <;> rw [h] <;> rfl

theorem Follows.trans (hab : plan.Follows a b) (hbc : plan.Follows b c) : plan.Follows a c := by
  rcases hab with hab | ⟨hab, hunique⟩
  · exact .inl (TransCmp.lt_of_lt_of_isLE hab hbc.isLE)
  · rw [Follows, TransCmp.congr_left hab]
    exact hbc

theorem Follows.isLike (hab : plan.Follows a b) (hba : plan.Follows b a) :
    plan.isLike a b = true :=
  isLike_iff.mpr (OrientedCmp.isLE_antisymm hab.isLE hba.isLE)

/-- Lines in order are known from what they hold of the lines that are like any one. -/
theorem InOrder.eq_of_filter_eq {other : List (List Char)} (hlines : plan.InOrder lines)
    (hother : plan.InOrder other)
    (h : ∀ line, lines.filter (plan.isLike line) = other.filter (plan.isLike line)) :
    lines = other := by
  induction lines generalizing other with
  | nil =>
    cases other with
    | nil => rfl
    | cons b other =>
      have hb := h b
      rw [List.filter_cons_of_pos isLike_self] at hb
      cases hb
  | cons a lines ih =>
    have hmem {line} : line ∈ a :: lines ↔ line ∈ other := by
      have hfilter {l : List (List Char)} : line ∈ l ↔ line ∈ l.filter (plan.isLike line) := by
        rw [List.mem_filter]
        exact ⟨fun hl => ⟨hl, isLike_self⟩, fun hl => hl.1⟩
      rw [hfilter, h, ← hfilter]
    cases other with
    | nil => cases hmem.mp List.mem_cons_self
    | cons b other =>
      obtain ⟨ha, hlinesTail⟩ := List.pairwise_cons.mp hlines
      obtain ⟨hb, hotherTail⟩ := List.pairwise_cons.mp hother
      have hlike : plan.isLike a b = true := by
        rcases List.mem_cons.mp (hmem.mpr List.mem_cons_self) with rfl | hbmem
        · exact isLike_self
        rcases List.mem_cons.mp (hmem.mp List.mem_cons_self) with rfl | hamem
        · exact isLike_self
        exact (ha b hbmem).isLike (hb a hamem)
      have heq := h a
      rw [List.filter_cons_of_pos isLike_self, List.filter_cons_of_pos hlike, List.cons.injEq]
        at heq
      obtain rfl := heq.1
      refine congrArg (a :: ·) (ih hlinesTail hotherTail fun line => ?_)
      have hline := h line
      rw [List.filter_cons, List.filter_cons] at hline
      split_ifs at hline
      · exact (List.cons.inj hline).2
      · exact hline

/-- Only one list of lines can be printed. -/
theorem Prints.unique {other : List (List Char)} (h : plan.Prints lines printed)
    (hother : plan.Prints lines other) : printed = other :=
  h.inOrder.eq_of_filter_eq hother.inOrder fun line => (h.keeps line).trans (hother.keeps line).symm

/-- Without lines left out, the lines that are printed are those that were read. -/
theorem Prints.perm (h : plan.Prints lines printed) (hall : plan.isUnique = false) :
    printed.Perm lines := by
  rw [List.perm_iff_count]
  intro line
  have hcount {l : List (List Char)} : (l.filter (plan.isLike line)).count line = l.count line :=
    List.count_filter isLike_self
  have hkeeps := h.keeps line
  rw [hall, if_neg Bool.false_ne_true] at hkeeps
  rw [← hcount, hkeeps, hcount]

/-- What is printed was read. -/
theorem Prints.mem (h : plan.Prints lines printed) (hline : line ∈ printed) : line ∈ lines := by
  have hmem : line ∈ printed.filter (plan.isLike line) := List.mem_filter.mpr ⟨hline, isLike_self⟩
  rw [h.keeps] at hmem
  split_ifs at hmem
  · exact (List.mem_filter.mp (List.mem_of_mem_take hmem)).1
  · exact (List.mem_filter.mp hmem).1

/-- Whether a line can stand before another one, or like it. -/
def precedes (plan : Plan) (a b : List Char) : Bool := plan.atMost (plan.keyed a) (plan.keyed b)

theorem precedes_iff : plan.precedes a b = true ↔ (plan.order a b).isLE = true := by
  rw [precedes, atMost, ← order]
  cases plan.order a b <;> decide

theorem precedes_trans (a b c : List Char) (hab : plan.precedes a b = true)
    (hbc : plan.precedes b c = true) : plan.precedes a c = true :=
  precedes_iff.mpr (TransCmp.isLE_trans (precedes_iff.mp hab) (precedes_iff.mp hbc))

theorem precedes_total (a b : List Char) : (plan.precedes a b || plan.precedes b a) = true := by
  have hswap : plan.order b a = (plan.order a b).swap := OrientedCmp.eq_swap
  rw [Bool.or_eq_true, precedes_iff, precedes_iff, hswap]
  cases plan.order a b <;> decide

theorem precedes_of_isLike (ha : plan.isLike line a = true) (hb : plan.isLike line b = true) :
    plan.precedes a b = true := by
  rw [precedes_iff, ← TransCmp.congr_left (isLike_iff.mp ha), isLike_iff.mp hb]
  rfl

/-- Sorting keeps the lines that are like one in their order. -/
theorem filter_mergeSort (line : List Char) :
    (lines.mergeSort plan.precedes).filter (plan.isLike line) =
      lines.filter (plan.isLike line) := by
  have hlike : (lines.filter (plan.isLike line)).Pairwise (plan.precedes · ·) :=
    List.pairwise_of_forall_mem_list fun a ha b hb =>
      precedes_of_isLike (List.mem_filter.mp ha).2 (List.mem_filter.mp hb).2
  have hsublist : (lines.filter (plan.isLike line)).Sublist (lines.mergeSort plan.precedes) :=
    List.sublist_mergeSort precedes_trans precedes_total hlike List.filter_sublist
  have hfilter := hsublist.filter (plan.isLike line)
  rw [List.filter_filter] at hfilter
  simp only [Bool.and_self] at hfilter
  exact (hfilter.eq_of_length ((List.mergeSort_perm lines _).filter _).length_eq.symm).symm

/-- Merging keeps the lines that are like one in their order, those of the first file first. -/
theorem filter_merge {more : List (List Char)} (hlines : lines.Pairwise (plan.precedes · ·))
    (line : List Char) : (lines.merge more plan.precedes).filter (plan.isLike line) =
      lines.filter (plan.isLike line) ++ more.filter (plan.isLike line) := by
  induction lines generalizing more with
  | nil => rw [List.nil_merge, List.filter_nil, List.nil_append]
  | cons a lines ih =>
    induction more with
    | nil => rw [List.merge_right, List.filter_nil, List.append_nil]
    | cons b more ihMore =>
      rw [List.cons_merge_cons]
      split
      next =>
        simp only [List.filter_cons, ih hlines.tail]
        split_ifs <;> rfl
      next hafter =>
        rw [List.filter_cons, ihMore]
        by_cases hb : plan.isLike line b = true
        · have hnone : (a :: lines).filter (plan.isLike line) = [] := by
            refine List.filter_eq_nil_iff.mpr fun c hc hlike => hafter ?_
            rcases List.mem_cons.mp hc with rfl | hc
            · exact precedes_of_isLike hlike hb
            · exact precedes_trans _ _ _ (List.rel_of_pairwise_cons hlines hc)
                (precedes_of_isLike hlike hb)
          rw [if_pos hb, hnone, List.filter_cons_of_pos hb]
          rfl
        · rw [if_neg hb, List.filter_cons_of_neg hb]

theorem lt_or_eq_of_precedes (h : plan.precedes a b = true) :
    plan.order a b = .lt ∨ plan.order a b = .eq :=
  Ordering.isLE_iff_eq_lt_or_eq_eq.mp (precedes_iff.mp h)

/-- A line like the one before is left out. -/
theorem Prints.skip (hunique : plan.isUnique = true) (hab : plan.order a b = .eq)
    (h : plan.Prints (a :: lines) printed) : plan.Prints (a :: b :: lines) printed where
  inOrder := h.inOrder
  keeps line := by
    rw [h.keeps, hunique, if_pos rfl, if_pos rfl]
    by_cases ha : plan.isLike line a = true
    · simp only [List.filter_cons_of_pos ha, List.take_succ_cons, List.take_zero]
    · have hb : ¬plan.isLike line b = true := isLike_congr hab ▸ ha
      rw [List.filter_cons_of_neg ha, List.filter_cons_of_neg ha, List.filter_cons_of_neg hb]

/-- A line before all others is printed before them. -/
theorem Prints.cons (hunique : plan.isUnique = true) (ha : ∀ b ∈ lines, plan.order a b = .lt)
    (h : plan.Prints lines printed) : plan.Prints (a :: lines) (a :: printed) where
  inOrder := List.pairwise_cons.mpr ⟨fun _ hb => .inl (ha _ (h.mem hb)), h.inOrder⟩
  keeps line := by
    have hkeeps := h.keeps line
    rw [hunique, if_pos rfl] at hkeeps
    rw [hunique, if_pos rfl]
    by_cases hlike : plan.isLike line a = true
    · have hnone : lines.filter (plan.isLike line) = [] :=
        List.filter_eq_nil_iff.mpr fun b hb => by simp [isLike_of_lt (ha b hb) hlike]
      rw [List.filter_cons_of_pos hlike, List.filter_cons_of_pos hlike, hkeeps, hnone]
      rfl
    · rw [List.filter_cons_of_neg hlike, List.filter_cons_of_neg hlike, hkeeps]

theorem prints_nil : plan.Prints [] [] where
  inOrder := .nil
  keeps line := by rw [List.filter_nil, List.take_nil, ite_self]

theorem distinct_cons_cons (a b : List Char) (rest : List (List Char)) :
    plan.distinct ((a :: b :: rest).map plan.keyed) =
      if plan.order a b = .eq then plan.distinct ((a :: rest).map plan.keyed)
      else plan.keyed a :: plan.distinct ((b :: rest).map plan.keyed) := by
  rw [List.map_cons, List.map_cons, distinct]
  rfl

/-- Of lines that are in order, the first of those that are alike stay. -/
theorem exists_prints_distinct (hunique : plan.isUnique = true)
    (hlines : lines.Pairwise (plan.precedes · ·)) :
    ∃ printed, plan.distinct (lines.map plan.keyed) = printed.map plan.keyed ∧
      plan.Prints lines printed := by
  match lines with
  | [] => exact ⟨[], by simp [distinct], prints_nil⟩
  | a :: rest =>
    induction rest generalizing a with
    | nil =>
      exact ⟨[a], by simp [distinct],
        prints_nil.cons hunique fun _ hb => absurd hb List.not_mem_nil⟩
    | cons b rest ih =>
      obtain ⟨ha, hrest⟩ := List.pairwise_cons.mp hlines
      rw [distinct_cons_cons]
      by_cases hab : plan.order a b = .eq
      · obtain ⟨printed, hprinted, hprints⟩ :=
          ih a (hlines.sublist (.cons_cons a (.cons b (.refl _))))
        exact ⟨printed, by rw [if_pos hab, hprinted], hprints.skip hunique hab⟩
      · obtain ⟨printed, hprinted, hprints⟩ := ih b hrest
        refine ⟨a :: printed, by rw [if_neg hab, hprinted, List.map_cons], ?_⟩
        refine hprints.cons hunique fun c hc => ?_
        have hlt : plan.order a b = .lt :=
          (lt_or_eq_of_precedes (ha b List.mem_cons_self)).resolve_right hab
        rcases List.mem_cons.mp hc with rfl | hc
        · exact hlt
        · exact TransCmp.lt_of_lt_of_isLE hlt (precedes_iff.mp (List.rel_of_pairwise_cons hrest hc))

/-- Lines that are in order, with those that are like one in their order, are what is printed once
lines that are like the one before are left out if they are to be. -/
theorem exists_prints {sorted : List (List Char)} (hsorted : sorted.Pairwise (plan.precedes · ·))
    (hkeeps : ∀ line, sorted.filter (plan.isLike line) = lines.filter (plan.isLike line)) :
    ∃ printed, (if plan.isUnique then plan.distinct (sorted.map plan.keyed)
      else sorted.map plan.keyed) = printed.map plan.keyed ∧ plan.Prints lines printed := by
  cases hunique : plan.isUnique with
  | false =>
    refine ⟨sorted, rfl, ?_, fun line => ?_⟩
    · exact hsorted.imp fun hab => (lt_or_eq_of_precedes hab).imp_right fun heq => ⟨heq, hunique⟩
    · rw [hkeeps, hunique, if_neg Bool.false_ne_true]
  | true =>
    obtain ⟨printed, hprinted, hprints⟩ := exists_prints_distinct hunique hsorted
    refine ⟨printed, hprinted, hprints.inOrder, fun line => ?_⟩
    rw [hprints.keeps, hkeeps]

theorem foldl_merge_keyed (files : List (List (List Char))) (done : List (List Char)) :
    (files.map (·.map plan.keyed)).foldl (fun done lines => done.merge lines plan.atMost)
      (done.map plan.keyed) =
    (files.foldl (fun done lines => done.merge lines plan.precedes) done).map plan.keyed := by
  induction files generalizing done with
  | nil => rfl
  | cons lines files ih =>
    have hmerge : (done.merge lines plan.precedes).map plan.keyed =
        (done.map plan.keyed).merge (lines.map plan.keyed) plan.atMost :=
      List.map_merge fun _ _ _ _ => rfl
    rw [List.map_cons, List.foldl_cons, List.foldl_cons, ← ih, hmerge]

/-- Merging files that are in order puts their lines in order and keeps those that are alike in
theirs. -/
theorem foldl_merge {files : List (List (List Char))} {done : List (List Char)}
    (hdone : done.Pairwise (plan.precedes · ·))
    (hfiles : ∀ lines ∈ files, lines.Pairwise (plan.precedes · ·)) :
    (files.foldl (fun done lines => done.merge lines plan.precedes) done).Pairwise
        (plan.precedes · ·) ∧
      ∀ line, (files.foldl (fun done lines => done.merge lines plan.precedes) done).filter
          (plan.isLike line) = (done ++ files.flatten).filter (plan.isLike line) := by
  induction files generalizing done with
  | nil =>
    refine ⟨hdone, fun line => ?_⟩
    rw [List.foldl_nil, List.flatten_nil, List.append_nil]
  | cons lines files ih =>
    obtain ⟨hlines, hfiles⟩ := List.forall_mem_cons.mp hfiles
    have hmerge : (done.merge lines plan.precedes).Pairwise (plan.precedes · ·) :=
      List.pairwise_merge precedes_trans precedes_total _ _ hdone hlines
    obtain ⟨hsorted, hkeeps⟩ := ih hmerge hfiles
    refine ⟨hsorted, fun line => ?_⟩
    rw [List.foldl_cons, hkeeps, List.filter_append, filter_merge hdone, List.flatten_cons,
      List.filter_append, List.filter_append, List.append_assoc]

/-- The files are in order one by one, as they are to be for merging. -/
def EachInOrder (plan : Plan) (files : List (List (List Char))) : Prop :=
  ∀ lines ∈ files, plan.InOrder lines

theorem InOrder.pairwise_precedes (h : plan.InOrder lines) :
    lines.Pairwise (plan.precedes · ·) :=
  h.imp fun hab => precedes_iff.mpr hab.isLE

/-- Lines are printed as they are to be, whether files are sorted or, in order already, merged. -/
theorem arrange_prints {merges : Bool} {files : List (List (List Char))}
    (hmerges : merges = true → plan.EachInOrder files) :
    ∃ printed, plan.arrange merges (files.map (·.map plan.keyed)) = printed.map plan.keyed ∧
      plan.Prints files.flatten printed := by
  cases merges with
  | false =>
    have hsort : (files.flatten.mergeSort plan.precedes).map plan.keyed =
        (files.flatten.map plan.keyed).mergeSort plan.atMost :=
      List.map_mergeSort fun _ _ _ _ => rfl
    obtain ⟨printed, hprinted, hprints⟩ := exists_prints
      (List.pairwise_mergeSort precedes_trans precedes_total files.flatten) filter_mergeSort
    rw [hsort, List.map_flatten] at hprinted
    exact ⟨printed, hprinted, hprints⟩
  | true =>
    have hfiles : ∀ lines ∈ files, lines.Pairwise (plan.precedes · ·) := fun lines hlines =>
      (hmerges rfl lines hlines).pairwise_precedes
    obtain ⟨hsorted, hkeeps⟩ := foldl_merge .nil hfiles
    obtain ⟨printed, hprinted, hprints⟩ := exists_prints hsorted hkeeps
    rw [← foldl_merge_keyed] at hprinted
    exact ⟨printed, hprinted, hprints⟩

/-- Files that are in order are merged to what sorting makes of them. -/
theorem arrange_merge_eq_sort {files : List (List (List Char))} (h : plan.EachInOrder files) :
    plan.arrange true (files.map (·.map plan.keyed)) =
      plan.arrange false (files.map (·.map plan.keyed)) := by
  obtain ⟨merged, hmerged, hmergedPrints⟩ := arrange_prints fun _ => h
  have hsort : false = true → plan.EachInOrder files := nofun
  obtain ⟨sorted, hsorted, hsortedPrints⟩ := arrange_prints hsort
  rw [hmerged, hsorted, hmergedPrints.unique hsortedPrints]

instance : Trans plan.Follows plan.Follows plan.Follows := ⟨Follows.trans⟩

theorem disorder?_cons_cons (number : Nat) (a b : List Char) (rest : List (List Char)) :
    plan.disorder? number ((a :: b :: rest).map plan.keyed) =
      if plan.order a b = .gt || (plan.isUnique && plan.order a b = .eq) then
        some (number + 1, plan.keyed b)
      else plan.disorder? (number + 1) ((b :: rest).map plan.keyed) := rfl

theorem follows_iff : plan.Follows a b ↔
    ¬(plan.order a b = .gt || (plan.isUnique && plan.order a b = .eq)) = true := by
  rw [Follows]
  cases plan.order a b <;> simp

/-- The check accepts what is in order, and nothing else. -/
theorem disorder?_eq_none_iff (number : Nat) :
    plan.disorder? number (lines.map plan.keyed) = none ↔ plan.InOrder lines := by
  rw [InOrder, ← List.isChain_iff_pairwise]
  match lines with
  | [] => exact ⟨fun _ => .nil, fun _ => rfl⟩
  | a :: rest =>
    induction rest generalizing a number with
    | nil => exact ⟨fun _ => .singleton a, fun _ => rfl⟩
    | cons b rest ih =>
      have hrest : plan.disorder? (number + 1) ((b :: rest).map plan.keyed) = none ↔
          (b :: rest).IsChain plan.Follows := ih (number + 1) b
      rw [disorder?_cons_cons, List.isChain_cons_cons, ← hrest, follows_iff]
      split
      next h => exact ⟨nofun, fun hchain => absurd h hchain.1⟩
      next h => exact (and_iff_right h).symm

/-- What was printed is printed again as it is. -/
theorem Prints.again (h : plan.Prints lines printed) (merges : Bool) :
    plan.arrange merges [printed.map plan.keyed] = printed.map plan.keyed := by
  have hself : plan.Prints printed printed := by
    refine ⟨h.inOrder, fun line => ?_⟩
    rw [h.keeps]
    split
    · rw [List.take_take, Nat.min_self]
    · rfl
  have hmerges : merges = true → plan.EachInOrder [printed] := fun _ _ hlines =>
    List.mem_singleton.mp hlines ▸ h.inOrder
  obtain ⟨other, hother, hprints⟩ := arrange_prints hmerges
  rw [List.flatten_singleton] at hprints
  rw [hself.unique hprints]
  exact hself.unique hprints ▸ hother

/-- The lines of a file as they stand there. -/
def cutLines (plan : Plan) (bytes : List UInt8) : List (List Char) :=
  cut plan.lineEnd [] [] (bytes.map fun b => Char.ofNat b.toNat)

end Plan

variable {lineEnd : Char} {text : List Char}

theorem cut_eq_append (begun : List Char) :
    cut lineEnd lines begun text = lines.reverse ++ cut lineEnd [] begun text := by
  induction text generalizing lines begun with
  | nil =>
    rw [cut, cut]
    split <;> simp
  | cons c rest ih =>
    rw [cut, cut]
    split
    · have hmore : cut lineEnd [begun.reverse] [] rest =
          [begun.reverse].reverse ++ cut lineEnd [] [] rest := ih []
      rw [ih, hmore]
      simp
    · exact ih _

theorem cut_cons_lineEnd (begun : List Char) :
    cut lineEnd [] begun (lineEnd :: text) = begun.reverse :: cut lineEnd [] [] text := by
  rw [cut, if_pos rfl, cut_eq_append]
  rfl

theorem cut_cons_of_ne {c : Char} (hc : c ≠ lineEnd) (begun : List Char) :
    cut lineEnd [] begun (c :: text) = cut lineEnd [] (c :: begun) text := by
  rw [cut, if_neg hc]

/-- No line holds what ends lines. -/
theorem lineEnd_not_mem_of_mem_cut {begun : List Char} (hbegun : lineEnd ∉ begun)
    (h : line ∈ cut lineEnd [] begun text) : lineEnd ∉ line := by
  induction text generalizing begun with
  | nil =>
    rw [cut] at h
    split at h
    · cases h
    · obtain rfl := List.mem_singleton.mp h
      rwa [List.mem_reverse]
  | cons c rest ih =>
    by_cases hc : c = lineEnd
    · subst hc
      rw [cut_cons_lineEnd] at h
      rcases List.mem_cons.mp h with rfl | h
      · rwa [List.mem_reverse]
      · exact ih List.not_mem_nil h
    · rw [cut_cons_of_ne hc] at h
      exact ih (List.not_mem_cons_of_ne_of_not_mem (Ne.symm hc) hbegun) h

theorem cut_append {begun : List Char} (h : lineEnd ∉ line) :
    cut lineEnd [] begun (line ++ lineEnd :: text) =
      (begun.reverse ++ line) :: cut lineEnd [] [] text := by
  induction line generalizing begun with
  | nil => rw [List.nil_append, cut_cons_lineEnd, List.append_nil]
  | cons c line ih =>
    have hc : lineEnd ≠ c := List.ne_of_not_mem_cons h
    have hline : lineEnd ∉ line := List.not_mem_of_not_mem_cons h
    rw [List.cons_append, cut_cons_of_ne (Ne.symm hc), ih hline, List.reverse_cons,
      List.append_assoc, List.singleton_append]

/-- Lines that were printed are read back. -/
theorem cut_flatMap (h : ∀ line ∈ lines, lineEnd ∉ line) :
    cut lineEnd [] [] (lines.flatMap (· ++ [lineEnd])) = lines := by
  induction lines with
  | nil => rfl
  | cons line lines ih =>
    obtain ⟨hline, hlines⟩ := List.forall_mem_cons.mp h
    rw [List.flatMap_cons, List.append_assoc, List.singleton_append, cut_append hline, ih hlines]
    rfl

/-- The lines of any files are put in order by sorting, and by merging if the check accepts every
file. The check accepts what is printed, and its lines are read back from it. -/
theorem Plan.arrange_linesOf {merges : Bool} {files : List (List UInt8)}
    (h : merges = true → ∀ bytes ∈ files, plan.disorder? 1 (plan.linesOf bytes) = none) :
    ∃ printed, plan.arrange merges (files.map plan.linesOf) = printed.map plan.keyed ∧
      plan.Prints (files.flatMap plan.cutLines) printed ∧
      plan.disorder? 1 (printed.map plan.keyed) = none ∧
      cut plan.lineEnd [] [] (printed.flatMap (· ++ [plan.lineEnd])) = printed := by
  have hmerges : merges = true → plan.EachInOrder (files.map plan.cutLines) := by
    intro hmerge lines hlines
    obtain ⟨bytes, hbytes, rfl⟩ := List.mem_map.mp hlines
    exact (disorder?_eq_none_iff 1).mp (h hmerge bytes hbytes)
  obtain ⟨printed, hprinted, hprints⟩ := arrange_prints hmerges
  rw [List.map_map] at hprinted
  rw [← List.flatMap_def] at hprints
  refine ⟨printed, hprinted, hprints, (disorder?_eq_none_iff 1).mpr hprints.inOrder, ?_⟩
  refine cut_flatMap fun line hline => ?_
  obtain ⟨bytes, -, hmem⟩ := List.mem_flatMap.mp (hprints.mem hline)
  exact lineEnd_not_mem_of_mem_cut List.not_mem_nil hmem

end PauseWatch.Tool.Sorting
