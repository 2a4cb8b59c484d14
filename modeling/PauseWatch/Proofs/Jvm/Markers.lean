import PauseWatch.Jvm.Simulation
import PauseWatch.Proofs.Text.Pieces
import PauseWatch.Proofs.Text.Uppercase
import PauseWatch.Scenario

/-!
# Markers in what a machine writes

A marker that starts with a capital occurs in the output exactly if it occurs in a line of the
program or in a message of the log: what stands in front of a message has no capitals, and a marker
does not reach over the end of a line. The size of the heap stands in two messages as the user wrote
it, but in capitals, so it neither forges a marker nor hides one.
-/

namespace PauseWatch.Jvm

variable {lines messages : List String} {marker : List Char}

/-- The text of lines is the lines, each with its end. -/
theorem toList_linesText (lines : List String) :
    (linesText lines).toList = Text.closed '\n' (lines.map String.toList) := by
  induction lines with
  | nil => rfl
  | cons line rest ih =>
    rw [linesText, List.map_cons, String.join_cons, ← linesText, String.toList_append,
      String.toList_append, ih, List.map_cons, Text.closed_cons, List.append_assoc]
    rfl

/-- A marker within one line occurs in the text of lines exactly if it occurs in one of them. -/
theorem infix_linesText_iff (hm : marker ≠ []) (hline : '\n' ∉ marker) :
    marker <:+: (linesText lines).toList ↔ ∃ line ∈ lines, marker <:+: line.toList := by
  rw [toList_linesText, Text.infix_closed_iff hline hm]
  simp only [List.mem_map, exists_exists_and_eq_and]

private theorem isUpper_of_isDigit {c : Char} (h : c.isDigit = true) : c.isUpper = false := by
  change (decide ('0'.val ≤ c.val) && decide (c.val ≤ '9'.val)) = true at h
  change decide ('A'.val ≤ c.val ∧ c.val ≤ 'Z'.val) = false
  rw [Bool.and_eq_true, decide_eq_true_eq, decide_eq_true_eq, UInt32.le_iff_toNat_le,
    UInt32.le_iff_toNat_le] at h
  rw [decide_eq_false_iff_not, UInt32.le_iff_toNat_le, UInt32.le_iff_toNat_le]
  change 48 ≤ c.toNat ∧ c.toNat ≤ 57 at h
  change ¬ (65 ≤ c.toNat ∧ c.toNat ≤ 90)
  omega

/-- Below a thousand the three digits are digits. -/
theorem isDigit_of_mem_threeDigits {n : Nat} (hn : n < 1000) {c : Char}
    (h : c ∈ (threeDigits n).toList) : c.isDigit = true := by
  rw [threeDigits, String.toList_ofList] at h
  simp only [List.mem_cons, List.not_mem_nil, or_false] at h
  rcases h with rfl | rfl | rfl <;> rw [Nat.isDigit_digitChar, decide_eq_true_eq] <;> omega

/-- There are no capitals in front of a logged message. -/
theorem cons_infix_logLine_iff {c : Char} (hc : c.isUpper = true) (uptime : Nat)
    (message : String) :
    c :: marker <:+: (logLine uptime message).toList ↔ c :: marker <:+: message.toList := by
  have hdigit {d : Char} (hd : d.isDigit = true) : c ≠ d := by
    rintro rfl
    rw [isUpper_of_isDigit hd] at hc
    cases hc
  have hclosed (text : String) (htext : text.toList.all (!·.isUpper) = true) : c ∉ text.toList := by
    intro hmem
    have hno := List.all_eq_true.mp htext c hmem
    rw [hc] at hno
    cases hno
  have hseconds : c ∉ (toString (uptime / 1000)).toList := fun hmem =>
    hdigit (Nat.isDigit_of_mem_toDigits (by decide) le_rfl (by simpa using hmem)) rfl
  have hmillis : c ∉ (threeDigits (uptime % 1000)).toList := fun hmem =>
    hdigit (isDigit_of_mem_threeDigits (Nat.mod_lt _ (by decide)) hmem) rfl
  rw [logLine]
  simp only [String.toList_append]
  refine Text.cons_infix_append_iff ?_
  simp only [List.mem_append, not_or]
  exact ⟨⟨⟨⟨hclosed "[" rfl, hseconds⟩, hclosed "." rfl⟩, hmillis⟩, hclosed _ rfl⟩

/-- A marker with a capital first occurs in logged messages exactly where it occurs in them. -/
theorem exists_infix_logLinesFrom_iff {c : Char} (hc : c.isUpper = true) (uptime : Nat) :
    (∃ line ∈ logLinesFrom uptime messages, c :: marker <:+: line.toList) ↔
      ∃ message ∈ messages, c :: marker <:+: message.toList := by
  induction messages generalizing uptime with
  | nil => rfl
  | cons message rest ih =>
    rw [logLinesFrom, List.exists_mem_cons_iff, List.exists_mem_cons_iff,
      cons_infix_logLine_iff hc, ih]

/-- A marker with a capital first is written by the program or, if the log is on, is logged. -/
theorem cons_infix_runLines_iff {c : Char} (hc : c.isUpper = true) (hline : '\n' ∉ c :: marker)
    (o : Options) (mode : Mode) :
    c :: marker <:+: (linesText (o.runLines mode)).toList ↔
      (∃ line ∈ requestLine mode, c :: marker <:+: line.toList) ∨
        o.gcLog = true ∧ ∃ message ∈ o.collectorMessage :: o.laterMessages mode,
          c :: marker <:+: message.toList := by
  rw [infix_linesText_iff (List.cons_ne_nil _ _) hline, Options.runLines]
  cases o.gcLog with
  | false => simp
  | true =>
    simp only [if_true, true_and, List.cons_append, List.exists_mem_cons_iff, List.mem_append,
      or_and_right, exists_or, cons_infix_logLine_iff hc, exists_infix_logLinesFrom_iff hc]
    exact or_left_comm

/-- The size of the heap is shown without small letters. -/
theorem isLower_of_mem_heapLabel {o : Options} {c : Char} (h : c ∈ o.heapLabel.toList) :
    c.isLower = false := by
  rw [Options.heapLabel] at h
  cases hmax : o.maxHeap with
  | none =>
    rw [hmax, Option.elim_none] at h
    have hall : "256M".toList.all (!·.isLower) = true := rfl
    simpa only [Bool.not_eq_true'] using List.all_eq_true.mp hall c h
  | some size =>
    rw [hmax, Option.elim_some] at h
    exact Text.isLower_of_mem_upper h

/-- A text without small letters brings no marker about that has one behind another character,
where these two do not stand already. -/
theorem not_infix_framed {before heap after : String} {x y : Char} (hpair : [x, y] <:+: marker)
    (hy : y.isLower = true) (hheap : ∀ c ∈ heap.toList, c.isLower = false)
    (hb : ¬ [x, y] <:+: before.toList) (ha : ¬ [x, y] <:+: after.toList)
    (hseam : ¬ [y] <+: after.toList) : ¬ marker <:+: (before ++ heap ++ after).toList := by
  intro hm
  have hnot : y ∉ heap.toList := by
    intro hmem
    rw [hheap y hmem] at hy
    cases hy
  rw [String.toList_append, String.toList_append, List.append_assoc] at hm
  exact Text.not_pair_infix_framed hb ha hnot hseam (hpair.trans hm)

variable {heap : String}

private theorem concurrent_not_infix_full {m after : String} (hm : m ∈ Scenario.concurrentMarkers)
    (hheap : ∀ c ∈ heap.toList, c.isLower = false)
    (hafter : after = ") 4.871ms" ∨ after = ") 5.302ms") :
    ¬ m.toList <:+: ("GC(0) Pause Full (System.gc()) 2M->1M(" ++ heap ++ after).toList := by
  simp only [Scenario.concurrentMarkers, List.mem_cons, List.not_mem_nil, or_false] at hm
  rcases hm with rfl | rfl
  · rcases hafter with rfl | rfl <;>
      exact not_infix_framed (x := 'I') (y := 'n') (by decide) rfl hheap (by decide) (by decide)
        (by decide)
  · rcases hafter with rfl | rfl <;>
      exact not_infix_framed (x := 'F') (y := 'i') (by decide) rfl hheap (by decide) (by decide)
        (by decide)

/-- A concurrent collection logs both of its markers, and nothing else logs one of them. -/
theorem concurrent_infix_messages_iff {m : String} (hm : m ∈ Scenario.concurrentMarkers)
    (hheap : ∀ c ∈ heap.toList, c.isLower = false) (collection : Collection) :
    (∃ message ∈ collection.messages heap, m.toList <:+: message.toList) ↔
      collection = .shenandoahConcurrent := by
  have hconcurrent : ∀ m ∈ Scenario.concurrentMarkers,
      ∃ message ∈ Collection.messages "" .shenandoahConcurrent, m.toList <:+: message.toList := by
    decide +kernel
  have hyoung : ∀ m ∈ Scenario.concurrentMarkers,
      ¬ ∃ message ∈ Collection.messages "" .g1Concurrent, m.toList <:+: message.toList := by
    decide +kernel
  cases collection with
  | ignored => simp [Collection.messages]
  | shenandoahConcurrent => exact iff_of_true (hconcurrent m hm) rfl
  | shenandoahFull =>
    simp only [Collection.messages, List.mem_singleton, exists_eq_left]
    exact iff_of_false (concurrent_not_infix_full hm hheap (Or.inl rfl)) (by decide)
  | g1Concurrent => exact iff_of_false (hyoung m hm) (by decide)
  | g1Full =>
    simp only [Collection.messages, List.mem_singleton, exists_eq_left]
    exact iff_of_false (concurrent_not_infix_full hm hheap (Or.inr rfl)) (by decide)

/-- The two full collections log their marker, and nothing else logs it. -/
theorem full_infix_messages_iff (collection : Collection) :
    (∃ message ∈ collection.messages heap, Scenario.fullMarker.toList <:+: message.toList) ↔
      collection = .shenandoahFull ∨ collection = .g1Full := by
  have hconcurrent : ∀ collection ∈ [Collection.shenandoahConcurrent, .g1Concurrent],
      ¬ ∃ message ∈ Collection.messages "" collection,
        Scenario.fullMarker.toList <:+: message.toList := by
    decide +kernel
  have hfull : Scenario.fullMarker.toList <:+:
      "GC(0) Pause Full (System.gc()) 2M->1M(".toList := by
    decide
  cases collection with
  | ignored => simp [Collection.messages]
  | shenandoahConcurrent =>
    exact iff_of_false (hconcurrent .shenandoahConcurrent (by decide)) (by decide)
  | g1Concurrent => exact iff_of_false (hconcurrent .g1Concurrent (by decide)) (by decide)
  | _ =>
    simp only [Collection.messages, List.mem_singleton, exists_eq_left, String.toList_append]
    exact iff_of_true (List.infix_append_of_infix_left (List.infix_append_of_infix_left hfull))
      (by decide)

section Pauses

variable {m : String} (hm : m ∈ Scenario.concurrentMarkers ++ [Scenario.fullMarker])
include hm

private theorem pause_shape : ['P', 'a'] <:+: m.toList ∧ '\n' ∉ m.toList ∧
    ∃ rest, m.toList = 'P' :: rest := by
  have hall : ∀ m ∈ Scenario.concurrentMarkers ++ [Scenario.fullMarker],
      ['P', 'a'] <:+: m.toList ∧ '\n' ∉ m.toList ∧ m.toList.head? = some 'P' := by
    decide
  obtain ⟨hpair, hline, hhead⟩ := hall m hm
  exact ⟨hpair, hline, List.head?_eq_some_iff.mp hhead⟩

private theorem pause_not_infix {text : String} (h : ¬ ['P', 'a'] <:+: text.toList) :
    ¬ m.toList <:+: text.toList :=
  fun hinfix => h ((pause_shape hm).1.trans hinfix)

/-- No line of the program shows a pause. -/
theorem pause_not_infix_requestLine (mode : Mode) :
    ¬ ∃ line ∈ requestLine mode, m.toList <:+: line.toList := by
  rintro ⟨line, hl, hinfix⟩
  cases mode with
  | idle => exact List.not_mem_nil hl
  | requestCollection =>
    rw [List.mem_singleton.mp hl] at hinfix
    exact pause_not_infix hm (by decide) hinfix

/-- Of the messages of a run only those of a collection that was asked for show a pause. -/
theorem pause_infix_messages_iff (o : Options) (mode : Mode) :
    (∃ message ∈ o.collectorMessage :: o.laterMessages mode, m.toList <:+: message.toList) ↔
      mode = .requestCollection ∧
        ∃ message ∈ o.collection.messages o.heapLabel, m.toList <:+: message.toList := by
  have hcollector : ¬ m.toList <:+: o.collectorMessage.toList := by
    rw [Options.collectorMessage]
    split <;> exact pause_not_infix hm (by decide)
  have hexit : ¬ m.toList <:+: ("Heap: " ++ o.heapLabel ++ " reserved, exiting").toList :=
    not_infix_framed (pause_shape hm).1 rfl (fun _ => isLower_of_mem_heapLabel) (by decide)
      (by decide) (by decide)
  rw [List.exists_mem_cons_iff, or_iff_right hcollector]
  cases mode with
  | idle =>
    simp only [Options.laterMessages, List.nil_append, List.mem_singleton, exists_eq_left]
    exact iff_of_false hexit (by simp)
  | requestCollection =>
    simp only [Options.laterMessages, List.mem_append, or_and_right, exists_or,
      List.mem_singleton, exists_eq_left, true_and]
    exact or_iff_left hexit

/-- A pause is in the lines of a run exactly if the collection that is asked for logs it. -/
theorem pause_infix_runLines_iff (o : Options) (mode : Mode) :
    m.toList <:+: (linesText (o.runLines mode)).toList ↔
      o.gcLog = true ∧ mode = .requestCollection ∧
        ∃ message ∈ o.collection.messages o.heapLabel, m.toList <:+: message.toList := by
  obtain ⟨_, hline, rest, hrest⟩ := pause_shape hm
  have hprogram := pause_not_infix_requestLine hm mode
  rw [← pause_infix_messages_iff hm]
  rw [hrest] at hline hprogram ⊢
  rw [cons_infix_runLines_iff rfl hline, or_iff_right hprogram]

end Pauses

variable {o : Options} {mode : Mode}

/-- A machine that does not start writes nothing to the standard output. -/
theorem stdout_simulate (o : Options) (mode : Mode) :
    (simulate o mode).stdout = if o.refusal? = none then o.runLines mode else [] := by
  rw [simulate]
  cases o.refusal? <;> rfl

/-- A pause is in the output exactly if the machine starts and the collection logs it. -/
theorem pause_infix_stdout_iff {m : String}
    (hm : m ∈ Scenario.concurrentMarkers ++ [Scenario.fullMarker]) :
    m.toList <:+: (linesText (simulate o mode).stdout).toList ↔
      o.refusal? = none ∧ o.gcLog = true ∧ mode = .requestCollection ∧
        ∃ message ∈ o.collection.messages o.heapLabel, m.toList <:+: message.toList := by
  rw [← pause_infix_runLines_iff hm, stdout_simulate]
  by_cases hr : o.refusal? = none
  · rw [if_pos hr, and_iff_right hr]
  · have hne : m.toList ≠ [] := by
      obtain ⟨_, _, rest, hrest⟩ := pause_shape hm
      rw [hrest]
      exact List.cons_ne_nil _ _
    rw [if_neg hr]
    exact iff_of_false (fun h => hne (List.infix_nil.mp h)) (fun h => hr h.1)

/-- When a marker of a concurrent collection is in the output. -/
theorem concurrent_infix_stdout_iff {m : String} (hm : m ∈ Scenario.concurrentMarkers) :
    m.toList <:+: (linesText (simulate o mode).stdout).toList ↔
      o.refusal? = none ∧ o.gcLog = true ∧ mode = .requestCollection ∧
        o.collection = .shenandoahConcurrent := by
  rw [pause_infix_stdout_iff (List.mem_append_left _ hm),
    concurrent_infix_messages_iff hm fun _ => isLower_of_mem_heapLabel]

/-- When the marker of a full collection is in the output. -/
theorem full_infix_stdout_iff :
    Scenario.fullMarker.toList <:+: (linesText (simulate o mode).stdout).toList ↔
      o.refusal? = none ∧ o.gcLog = true ∧ mode = .requestCollection ∧
        (o.collection = .shenandoahFull ∨ o.collection = .g1Full) := by
  rw [pause_infix_stdout_iff (List.mem_append_right _ (List.mem_singleton_self _)),
    full_infix_messages_iff]

end PauseWatch.Jvm
