import PauseWatch.Jvm.Simulation
import PauseWatch.Proofs.Text.Search

/-!
# What settings decide

Of several settings of a switch the last one counts, except for the experimental collector: whether
a machine starts with it depends on which request and which unlocking option stand first.
-/

namespace PauseWatch.Jvm

/-- Among the settings, the last one of a switch turns it on or off as told. -/
def LastSet (settings : List Setting) (name : String) (on : Bool) : Prop :=
  ∃ before after, settings = before ++ ⟨name, on⟩ :: after ∧ ∀ s ∈ after, s.name ≠ name

/-- Among the settings, one switch is turned on before another one ever is. -/
def OnBefore (settings : List Setting) (first second : String) : Prop :=
  ∃ before after, settings = before ++ ⟨first, true⟩ :: after ∧ ⟨second, true⟩ ∉ before

variable {settings more : List Setting} {name first second : String} {on : Bool}

/-- A setting at the end is the last one of its switch. -/
theorem lastSet_append_self (settings : List Setting) (s : Setting) :
    LastSet (settings ++ [s]) s.name s.on :=
  ⟨settings, [], rfl, fun _ hs => (List.not_mem_nil hs).elim⟩

/-- The last setting of a switch is one of the settings. -/
theorem LastSet.mem (h : LastSet settings name on) : ⟨name, on⟩ ∈ settings := by
  obtain ⟨before, after, rfl, _⟩ := h
  exact List.mem_append_right _ (List.mem_cons_self ..)

/-- A switch that is turned on before another one is turned on. -/
theorem OnBefore.mem (h : OnBefore settings first second) : ⟨first, true⟩ ∈ settings := by
  obtain ⟨before, after, rfl, _⟩ := h
  exact List.mem_append_right _ (List.mem_cons_self ..)

/-- One switch is turned on before another one exactly if that happens at some place. -/
theorem onBefore_iff_getElem? : OnBefore settings first second ↔
    ∃ place : Nat, settings[place]? = some (⟨first, true⟩ : Setting) ∧
      ∀ k < place, settings[k]? ≠ some (⟨second, true⟩ : Setting) := by
  constructor
  · rintro ⟨before, after, rfl, hn⟩
    refine ⟨before.length, ?_, fun k hk hks => hn ?_⟩
    · rw [List.getElem?_append_right le_rfl, Nat.sub_self, List.getElem?_cons_zero]
    rw [List.getElem?_append_left hk] at hks
    exact List.mem_of_getElem? hks
  · rintro ⟨place, hs, hbefore⟩
    obtain ⟨hlt, hs⟩ := List.getElem?_eq_some_iff.mp hs
    refine ⟨settings.take place, settings.drop (place + 1), ?_, fun hm => ?_⟩
    · rw [← hs, ← List.drop_eq_getElem_cons hlt, List.take_append_drop]
    · obtain ⟨k, hk, hks⟩ := List.mem_take_iff_getElem.mp hm
      exact hbefore k (by omega) (List.getElem?_eq_some_iff.mpr ⟨by omega, hks⟩)

/-- A switch that is turned on before another one stays so, whatever settings follow. -/
theorem OnBefore.append (h : OnBefore settings first second) (more : List Setting) :
    OnBefore (settings ++ more) first second := by
  obtain ⟨before, after, rfl, hn⟩ := h
  exact ⟨before, after ++ more, by rw [List.append_assoc, List.cons_append], hn⟩

namespace Options

variable {o : Options}

/-- A switch counts as it was last set. -/
theorem setting?_eq_some_iff : o.setting? name = some on ↔ LastSet o.settings name on := by
  rw [setting?, Option.map_eq_some_iff]
  constructor
  · rintro ⟨s, hs, rfl⟩
    obtain ⟨hname, after, before, he, hafter⟩ := List.find?_eq_some_iff_append.mp hs
    rw [beq_iff_eq] at hname
    subst hname
    refine ⟨before.reverse, after.reverse, ?_, ?_⟩
    · rw [List.reverse_eq_iff] at he
      simpa using he
    · intro t ht
      simpa using hafter t (List.mem_reverse.mp ht)
  · rintro ⟨before, after, he, hafter⟩
    refine ⟨⟨name, on⟩, List.find?_eq_some_iff_append.mpr ⟨by simp, after.reverse, before.reverse,
      ?_, ?_⟩, rfl⟩
    · simp [he]
    · intro t ht
      simpa using hafter t (List.mem_reverse.mp ht)

/-- A switch that was never set counts as unset. -/
theorem setting?_eq_none_iff : o.setting? name = none ↔ ∀ s ∈ o.settings, s.name ≠ name := by
  rw [setting?, Option.map_eq_none_iff, List.find?_eq_none]
  simp only [List.mem_reverse, beq_iff_eq]

/-- A switch is on exactly if it was last turned on. -/
theorem isOn_iff : o.isOn name = true ↔ LastSet o.settings name true := by
  rw [isOn, beq_iff_eq, setting?_eq_some_iff]

/-- A switch is first turned on at a place exactly if that setting stands there and not before. -/
theorem firstOn?_eq_some_iff {place : Nat} : o.firstOn? name = some place ↔
    o.settings[place]? = some ⟨name, true⟩ ∧
      ∀ k < place, o.settings[k]? ≠ some ⟨name, true⟩ := by
  have hon (s : Setting) : (s.name == name && s.on) = true ↔ s = ⟨name, true⟩ := by
    rw [Bool.and_eq_true, beq_iff_eq, Setting.mk.injEq]
  rw [firstOn?, List.findIdx?_eq_some_iff_getElem]
  simp only [hon]
  constructor
  · rintro ⟨hlt, hs, hbefore⟩
    refine ⟨List.getElem?_eq_some_iff.mpr ⟨hlt, hs⟩, fun k hk hks => ?_⟩
    obtain ⟨_, hks⟩ := List.getElem?_eq_some_iff.mp hks
    exact hbefore k hk hks
  · rintro ⟨hs, hbefore⟩
    obtain ⟨hlt, hs⟩ := List.getElem?_eq_some_iff.mp hs
    exact ⟨hlt, hs, fun k hk hks =>
      hbefore k hk (List.getElem?_eq_some_iff.mpr ⟨by omega, hks⟩)⟩

/-- A switch that is turned on somewhere is first turned on somewhere. -/
theorem exists_firstOn? (h : ⟨name, true⟩ ∈ o.settings) : ∃ place, o.firstOn? name = some place :=
  ⟨_, List.findIdx?_eq_some_of_exists ⟨_, h, by simp⟩⟩

/-- A switch that is not first turned on anywhere is never turned on. -/
theorem not_mem_of_firstOn?_eq_none (h : o.firstOn? name = none) : ⟨name, true⟩ ∉ o.settings := by
  intro hmem
  obtain ⟨_, hsome⟩ := exists_firstOn? hmem
  rw [h] at hsome
  cases hsome

end Options

/-- A switch has at most one last setting. -/
theorem LastSet.unique {on' : Bool} (h : LastSet settings name on)
    (h' : LastSet settings name on') : on = on' := by
  rw [← Options.setting?_eq_some_iff (o := { settings })] at h h'
  exact Option.some.inj (h.symm.trans h')

/-- A setting at the end does not touch another switch. -/
theorem lastSet_append_iff {s : Setting} (hne : s.name ≠ name) :
    LastSet (settings ++ [s]) name on ↔ LastSet settings name on := by
  rw [← Options.setting?_eq_some_iff (o := { settings := settings ++ [s] }),
    ← Options.setting?_eq_some_iff (o := { settings })]
  simp [Options.setting?, hne]

section Keeping

variable {keep : Setting → Bool}

/-- Leaving out settings of other switches does not change how a switch was last set. -/
theorem lastSet_filter_iff (hkeep : ∀ s, s.name = name → keep s = true) :
    LastSet (settings.filter keep) name on ↔ LastSet settings name on := by
  have hkept (s : Setting) :
      decide (keep s = true ∧ (s.name == name) = true) = (s.name == name) := by
    by_cases hname : s.name = name
    · simp [hkeep s hname, hname]
    · simp [hname]
  rw [← Options.setting?_eq_some_iff (o := { settings := settings.filter keep }),
    ← Options.setting?_eq_some_iff (o := { settings }), Options.setting?, Options.setting?,
    ← List.filter_reverse, List.find?_filter]
  simp only [hkept]

/-- Leaving out settings of other switches does not change which of two is turned on first. -/
theorem onBefore_filter_iff (hfirst : keep ⟨first, true⟩ = true)
    (hsecond : keep ⟨second, true⟩ = true) :
    OnBefore (settings.filter keep) first second ↔ OnBefore settings first second := by
  constructor
  · rintro ⟨before, after, he, hn⟩
    obtain ⟨start, rest, rfl, rfl, hrest⟩ := List.filter_eq_append_iff.mp he
    obtain ⟨between, after, rfl, hbetween, -, -⟩ := List.filter_eq_cons_iff.mp hrest
    refine ⟨start ++ between, after, by rw [List.append_assoc], fun hm => ?_⟩
    rcases List.mem_append.mp hm with hm | hm
    · exact hn (List.mem_filter.mpr ⟨hm, hsecond⟩)
    · exact hbetween _ hm hsecond
  · rintro ⟨before, after, rfl, hn⟩
    refine ⟨before.filter keep, after.filter keep, ?_, fun hm => hn (List.mem_filter.mp hm).1⟩
    rw [List.filter_append, List.filter_cons_of_pos hfirst]

end Keeping

namespace Options

variable {o : Options}

/-- When the experimental collector is asked for at all, it is asked for too early exactly if
experimental options are not unlocked before. -/
theorem asksBefore_iff {unlocked : Nat} (hasks : ⟨"UseShenandoahGC", true⟩ ∈ o.settings)
    (hu : o.firstOn? "UnlockExperimentalVMOptions" = some unlocked) :
    o.asksBefore unlocked = true ↔
      ¬ OnBefore o.settings "UnlockExperimentalVMOptions" "UseShenandoahGC" := by
  obtain ⟨asked, ha⟩ := exists_firstOn? hasks
  obtain ⟨hasked, hfirst⟩ := firstOn?_eq_some_iff.mp ha
  obtain ⟨hunlocked, hearliest⟩ := firstOn?_eq_some_iff.mp hu
  rw [asksBefore, ha, decide_eq_true_eq, onBefore_iff_getElem?]
  constructor
  · rintro hlate ⟨place, hp, hnot⟩
    have hge : unlocked ≤ place := not_lt.mp fun hlt => hearliest place hlt hp
    exact hnot asked (by omega) hasked
  · intro hnone
    by_contra hle
    exact hnone ⟨unlocked, hunlocked, fun k hk => hfirst k (by omega)⟩

/-- When a machine has a reason not to start. -/
def Refuses (o : Options) : Refusal → Prop
  | .locked => LastSet o.settings "UseShenandoahGC" true ∧
      ⟨"UnlockExperimentalVMOptions", true⟩ ∉ o.settings
  | .unlockedTooLate => LastSet o.settings "UseShenandoahGC" true ∧
      ⟨"UnlockExperimentalVMOptions", true⟩ ∈ o.settings ∧
        ¬ OnBefore o.settings "UnlockExperimentalVMOptions" "UseShenandoahGC"
  | .noEntryPoint => (LastSet o.settings "UseShenandoahGC" true →
      OnBefore o.settings "UnlockExperimentalVMOptions" "UseShenandoahGC") ∧ o.entryPoint = none

/-- A machine does not start for the reason that it has. -/
theorem refusal?_eq_some_iff {r : Refusal} : o.refusal? = some r ↔ o.Refuses r := by
  rw [refusal?]
  cases huses : o.usesShenandoah with
  | false =>
    have hnot : ¬ LastSet o.settings "UseShenandoahGC" true := by
      rw [← isOn_iff]
      simpa [usesShenandoah] using huses
    cases r <;> simp [Refuses, hnot]
  | true =>
    have hset : LastSet o.settings "UseShenandoahGC" true := isOn_iff.mp huses
    cases hu : o.firstOn? "UnlockExperimentalVMOptions" with
    | none =>
      have hnever := not_mem_of_firstOn?_eq_none hu
      have hnot : ¬ OnBefore o.settings "UnlockExperimentalVMOptions" "UseShenandoahGC" :=
        fun h => hnever h.mem
      cases r <;> simp [Refuses, hset, hnever, hnot]
    | some unlocked =>
      have hmem := List.mem_of_getElem? (firstOn?_eq_some_iff.mp hu).1
      have hlate := asksBefore_iff hset.mem hu
      cases hasks : o.asksBefore unlocked with
      | true =>
        have hnot := hlate.mp hasks
        cases r <;> simp [Refuses, hset, hmem, hnot, hasks]
      | false =>
        have hbefore := not_not.mp (mt hlate.mpr (Bool.eq_false_iff.mp hasks))
        cases r <;> simp [Refuses, hset, hmem, hbefore, hasks]

/-- A machine starts exactly if experimental options are unlocked before the experimental collector
is first asked for, should it be asked for last, and there is a class to run. -/
theorem starts_iff : o.refusal? = none ↔
    (LastSet o.settings "UseShenandoahGC" true →
      OnBefore o.settings "UnlockExperimentalVMOptions" "UseShenandoahGC") ∧
        o.entryPoint ≠ none := by
  rw [Option.eq_none_iff_forall_ne_some]
  simp only [ne_eq, refusal?_eq_some_iff]
  constructor
  · intro hnone
    have hbefore (h : LastSet o.settings "UseShenandoahGC" true) :
        OnBefore o.settings "UnlockExperimentalVMOptions" "UseShenandoahGC" := by
      have hmem := not_not.mp fun hnever => hnone .locked ⟨h, hnever⟩
      exact not_not.mp fun hnot => hnone .unlockedTooLate ⟨h, hmem, hnot⟩
    exact ⟨hbefore, fun hentry => hnone .noEntryPoint ⟨hbefore, hentry⟩⟩
  · rintro ⟨hbefore, hentry⟩ (_ | _ | _)
    · exact fun ⟨h, hnever⟩ => hnever (hbefore h).mem
    · exact fun ⟨h, _, hnot⟩ => hnot (hbefore h)
    · exact fun ⟨_, hno⟩ => hentry hno

/-- A machine that is asked for the experimental collector starts exactly if experimental options
are unlocked before the collector is first asked for, and there is a class to run. -/
theorem refusal?_eq_none_iff (h : LastSet o.settings "UseShenandoahGC" true) : o.refusal? = none ↔
    OnBefore o.settings "UnlockExperimentalVMOptions" "UseShenandoahGC" ∧
      o.entryPoint.isSome = true := by
  rw [starts_iff, Option.isSome_iff_ne_none]
  exact and_congr_left' (forall_prop_of_true h)

/-- A request is ignored when requests are disabled last. -/
theorem collection_eq_ignored (h : LastSet o.settings "DisableExplicitGC" true) :
    o.collection = .ignored := by
  rw [collection, if_pos (isOn_iff.mpr h)]

/-- When Shenandoah answers a request concurrently. -/
theorem collection_eq_shenandoahConcurrent_iff : o.collection = .shenandoahConcurrent ↔
    ¬ LastSet o.settings "DisableExplicitGC" true ∧ LastSet o.settings "UseShenandoahGC" true ∧
      ¬ LastSet o.settings "ExplicitGCInvokesConcurrent" false := by
  rw [← isOn_iff, ← isOn_iff, ← setting?_eq_some_iff, collection, usesShenandoah]
  cases o.isOn "DisableExplicitGC" <;> cases o.isOn "UseShenandoahGC" <;>
    rcases o.setting? "ExplicitGCInvokesConcurrent" with _ | _ | _ <;> decide

/-- When Shenandoah answers a request with a full collection. -/
theorem collection_eq_shenandoahFull_iff : o.collection = .shenandoahFull ↔
    ¬ LastSet o.settings "DisableExplicitGC" true ∧ LastSet o.settings "UseShenandoahGC" true ∧
      LastSet o.settings "ExplicitGCInvokesConcurrent" false := by
  rw [← isOn_iff, ← isOn_iff, ← setting?_eq_some_iff, collection, usesShenandoah]
  cases o.isOn "DisableExplicitGC" <;> cases o.isOn "UseShenandoahGC" <;>
    rcases o.setting? "ExplicitGCInvokesConcurrent" with _ | _ | _ <;> decide

/-- When a request stops the program for a full collection: it is not disabled, and collecting
concurrently was last turned off, or never set although only Shenandoah does so by itself. -/
theorem collection_full_iff : o.collection = .shenandoahFull ∨ o.collection = .g1Full ↔
    ¬ LastSet o.settings "DisableExplicitGC" true ∧
      (LastSet o.settings "ExplicitGCInvokesConcurrent" false ∨
        (∀ s ∈ o.settings, s.name ≠ "ExplicitGCInvokesConcurrent") ∧
          ¬ LastSet o.settings "UseShenandoahGC" true) := by
  rw [← isOn_iff, ← isOn_iff, ← setting?_eq_some_iff, ← setting?_eq_none_iff, collection,
    usesShenandoah]
  cases o.isOn "DisableExplicitGC" <;> cases o.isOn "UseShenandoahGC" <;>
    rcases o.setting? "ExplicitGCInvokesConcurrent" with _ | _ | _ <;> decide

end Options

end PauseWatch.Jvm
