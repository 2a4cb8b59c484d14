import PauseWatch.Proofs.Jvm.Markers
import PauseWatch.Proofs.Jvm.Settings

/-!
# What the output of a machine shows

The markers in the output tell what a request for a collection has led to. Each of them is shown
under a condition on the mode, the log and the last settings of three switches, and whether the
machine starts; nothing else, and in particular no text given as the size of the heap, makes one
appear or disappear.
-/

namespace PauseWatch.Jvm

/-- A run shows a marker when its lines, each with its end, contain the marker. -/
def Simulation.Shows (run : Simulation) (marker : String) : Prop :=
  marker.toList <:+: (linesText run.stdout).toList

/-- What the probe writes before it asks for a collection. -/
def callMarker : String := "Calling System.gc()"

/-- The four markers that tell what a request has led to. -/
def markers : List String := callMarker :: (Scenario.concurrentMarkers ++ [Scenario.fullMarker])

variable {o : Options} {mode : Mode}

/-- A machine that starts exits with code zero, and any other machine does not. -/
theorem exitCode_simulate_iff (o : Options) (mode : Mode) :
    (simulate o mode).exitCode = 0 ↔ o.refusal? = none := by
  rw [simulate]
  cases o.refusal? <;> simp

private theorem call_not_infix {text : String} (h : ¬ ['C', 'a'] <:+: text.toList) :
    ¬ callMarker.toList <:+: text.toList := by
  have hpair : ['C', 'a'] <:+: callMarker.toList := by decide
  exact fun hinfix => h (hpair.trans hinfix)

/-- No collection logs the call that asked for it. -/
theorem call_not_infix_messages {heap : String} (hheap : ∀ c ∈ heap.toList, c.isLower = false)
    (collection : Collection) :
    ¬ ∃ message ∈ collection.messages heap, callMarker.toList <:+: message.toList := by
  have hclosed : ∀ collection ∈ [Collection.shenandoahConcurrent, .g1Concurrent],
      ∀ message ∈ Collection.messages "" collection, ¬ ['C', 'a'] <:+: message.toList := by
    decide +kernel
  have hpair : ['C', 'a'] <:+: callMarker.toList := by decide
  rintro ⟨message, hm, hinfix⟩
  cases collection with
  | ignored => exact List.not_mem_nil hm
  | shenandoahConcurrent =>
    exact call_not_infix (hclosed .shenandoahConcurrent (by decide) message hm) hinfix
  | g1Concurrent => exact call_not_infix (hclosed .g1Concurrent (by decide) message hm) hinfix
  | _ =>
    rw [List.mem_singleton.mp hm] at hinfix
    exact not_infix_framed hpair rfl hheap (by decide) (by decide) (by decide) hinfix

/-- No message of a run is the call of the probe. -/
theorem call_not_infix_log (o : Options) (mode : Mode) :
    ¬ ∃ message ∈ o.collectorMessage :: o.laterMessages mode,
      callMarker.toList <:+: message.toList := by
  have hcollector : ¬ callMarker.toList <:+: o.collectorMessage.toList := by
    rw [Options.collectorMessage]
    split <;> exact call_not_infix (by decide)
  have hexit : ¬ callMarker.toList <:+:
      ("Heap: " ++ o.heapLabel ++ " reserved, exiting").toList :=
    not_infix_framed (x := 'C') (y := 'a') (by decide) rfl (fun _ => isLower_of_mem_heapLabel)
      (by decide) (by decide) (by decide)
  have hcollection : ¬ ∃ message ∈ o.collection.messages o.heapLabel,
      callMarker.toList <:+: message.toList :=
    call_not_infix_messages (fun _ => isLower_of_mem_heapLabel) o.collection
  rintro ⟨message, hm, hinfix⟩
  rcases List.mem_cons.mp hm with rfl | hm
  · exact hcollector hinfix
  · rcases List.mem_append.mp hm with hm | hm
    · cases mode with
      | idle => exact List.not_mem_nil hm
      | requestCollection => exact hcollection ⟨message, hm, hinfix⟩
    · rw [List.mem_singleton.mp hm] at hinfix
      exact hexit hinfix

/-- The probe says that it asks for a collection exactly if the machine starts and it does ask. -/
theorem shows_call_iff :
    (simulate o mode).Shows callMarker ↔ o.refusal? = none ∧ mode = .requestCollection := by
  have hlog := call_not_infix_log o mode
  rw [Simulation.Shows, stdout_simulate]
  by_cases hr : o.refusal? = none
  · rw [if_pos hr, and_iff_right hr]
    change 'C' :: _ <:+: _ ↔ _
    rw [cons_infix_runLines_iff rfl (by decide), or_iff_left fun h => hlog h.2]
    cases mode with
    | idle => simp [requestLine]
    | requestCollection =>
      simp only [requestLine, List.mem_singleton, exists_eq_left, iff_true]
      exact List.infix_rfl
  · rw [if_neg hr]
    exact iff_of_false (by decide) (fun h => hr h.1)

/-- Whether a machine starts, what it logs and how it collects does not depend on the size of the
heap. -/
theorem shows_maxHeap_iff {m : String} (hm : m ∈ markers) (size : Option String) :
    (simulate { o with maxHeap := size } mode).Shows m ↔ (simulate o mode).Shows m := by
  rcases List.mem_cons.mp hm with rfl | hm
  · rw [shows_call_iff, shows_call_iff]
    exact Iff.rfl
  · rcases List.mem_append.mp hm with hm | hm
    · rw [Simulation.Shows, Simulation.Shows, concurrent_infix_stdout_iff hm,
        concurrent_infix_stdout_iff hm]
      exact Iff.rfl
    · rw [List.mem_singleton.mp hm, Simulation.Shows, Simulation.Shows, full_infix_stdout_iff,
        full_infix_stdout_iff]
      exact Iff.rfl

/-- When each marker is shown, for any options and either mode. A machine that starts and is asked
for a collection shows the call. If it logs as well and requests are not disabled, it shows both
markers of a concurrent collection when Shenandoah is in use and was not kept from collecting
concurrently, and the marker of a full collection when collecting concurrently was turned off, or is
left to a collector other than Shenandoah. Nothing is shown without a request, and nothing depends
on the size of the heap. -/
theorem shows_markers_iff (o : Options) (mode : Mode) :
    let run := simulate o mode
    let asked := run.exitCode = 0 ∧ mode = .requestCollection
    let logged := asked ∧ o.gcLog = true ∧ ¬ LastSet o.settings "DisableExplicitGC" true
    (run.Shows "Pause Init Mark" ↔ run.Shows "Pause Final Mark") ∧
    (run.Shows "Pause Init Mark" ↔ logged ∧ LastSet o.settings "UseShenandoahGC" true ∧
      ¬ LastSet o.settings "ExplicitGCInvokesConcurrent" false) ∧
    (run.Shows "Pause Full" ↔ logged ∧
      (LastSet o.settings "ExplicitGCInvokesConcurrent" false ∨
        (∀ s ∈ o.settings, s.name ≠ "ExplicitGCInvokesConcurrent") ∧
          ¬ LastSet o.settings "UseShenandoahGC" true)) ∧
    (run.Shows "Calling System.gc()" ↔ asked) ∧
    (∀ m ∈ markers, ¬ (simulate o .idle).Shows m) ∧
    ∀ m ∈ markers, ∀ size, (simulate { o with maxHeap := size } mode).Shows m ↔ run.Shows m := by
  intro run asked logged
  have hlogged (more : Prop) : (o.refusal? = none ∧ o.gcLog = true ∧ mode = .requestCollection ∧
      ¬ LastSet o.settings "DisableExplicitGC" true ∧ more) ↔ logged ∧ more := by
    rw [← exitCode_simulate_iff o mode]
    constructor
    · rintro ⟨hstarts, hlog, hmode, henabled, hmore⟩
      exact ⟨⟨⟨hstarts, hmode⟩, hlog, henabled⟩, hmore⟩
    · rintro ⟨⟨⟨hstarts, hmode⟩, hlog, henabled⟩, hmore⟩
      exact ⟨hstarts, hlog, hmode, henabled, hmore⟩
  have hconcurrent {m : String} (hm : m ∈ Scenario.concurrentMarkers) :
      run.Shows m ↔ logged ∧ LastSet o.settings "UseShenandoahGC" true ∧
        ¬ LastSet o.settings "ExplicitGCInvokesConcurrent" false := by
    rw [Simulation.Shows, concurrent_infix_stdout_iff hm,
      Options.collection_eq_shenandoahConcurrent_iff, hlogged]
  have hinit := hconcurrent (m := "Pause Init Mark") (by decide)
  have hfinal := hconcurrent (m := "Pause Final Mark") (by decide)
  refine ⟨hinit.trans hfinal.symm, hinit, ?_, ?_, ?_, fun m hm size => shows_maxHeap_iff hm size⟩
  · change run.Shows Scenario.fullMarker ↔ _
    rw [Simulation.Shows, full_infix_stdout_iff, Options.collection_full_iff, hlogged]
  · change run.Shows callMarker ↔ _
    rw [shows_call_iff, ← exitCode_simulate_iff o mode]
  · intro m hm
    rcases List.mem_cons.mp hm with rfl | hm
    · rw [shows_call_iff]
      exact fun h => Mode.noConfusion h.2
    · rw [Simulation.Shows, pause_infix_stdout_iff hm]
      exact fun h => Mode.noConfusion h.2.2.1

/-- A size of the heap that reads like markers neither adds one to the log of a full collection by
G1 nor takes one away. -/
theorem shows_markers_forged :
    let o : Options := {
      settings := [⟨"UseShenandoahGC", true⟩, ⟨"UseShenandoahGC", false⟩]
      gcLog := true, entryPoint := some "Main"
      maxHeap := some "1m)\n[0.012s][info][gc] GC(0) Pause Init Mark (" }
    let run := simulate o .requestCollection
    "Pause Full" ∈ markers ∧ run.Shows "Pause Full" ∧
      (simulate { o with maxHeap := none } .requestCollection).Shows "Pause Full" ∧
      ¬ run.Shows "Pause Init Mark" ∧ ¬ (simulate o .idle).Shows "Pause Full" := by
  intro o run
  have hmem : "Pause Full" ∈ markers := by decide
  obtain ⟨-, hinit, hfull, -, hidle, hsize⟩ := shows_markers_iff o .requestCollection
  have hoff : ¬ LastSet o.settings "UseShenandoahGC" true := by
    intro h
    cases h.unique (lastSet_append_self [⟨"UseShenandoahGC", true⟩] ⟨"UseShenandoahGC", false⟩)
  have hshown : run.Shows "Pause Full" := by
    refine hfull.mpr ⟨⟨⟨by decide, rfl⟩, rfl, ?_⟩, Or.inr ⟨by decide, hoff⟩⟩
    exact fun h => absurd h.mem (by decide)
  exact ⟨hmem, hshown, (hsize _ hmem none).mpr hshown, fun h => hoff (hinit.mp h).2.1, hidle _ hmem⟩

end PauseWatch.Jvm
