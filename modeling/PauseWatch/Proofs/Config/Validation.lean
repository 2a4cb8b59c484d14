import PauseWatch.CommandLine.Program
import PauseWatch.Proofs.Session.Selection
import PauseWatch.Proofs.Text.Utf8

/-!
# Which configurations make sense

A configuration has no fault exactly if its entry point is not blank, its scenarios have different
names, and none of them requires and forbids the same marker. Of several faults that of the entry
point is found, or else that of the first scenario with one, where its name comes before its
markers. What is loaded makes sense, whatever the command line says instead of it, so every scenario
can be selected by its name.
-/

namespace PauseWatch

namespace Config

/-- Whether a configuration makes sense. -/
structure Sensible (c : Config) : Prop where
  /-- Some character of the entry point is not blank. -/
  entryPoint : ∃ char ∈ c.entryPoint.toList, Text.isBlank char = false
  /-- No two scenarios have one name. -/
  names : (c.scenarios.map (·.name)).Nodup
  /-- No scenario requires a marker that it forbids. -/
  markers : ∀ s ∈ c.scenarios, ∀ marker ∈ s.patterns.required, marker ∉ s.patterns.forbidden

/-- What is wrong with the scenario at an index. -/
inductive FaultAt (scenarios : List Scenario) (i : Nat) : ConfigFault → Prop where
  /-- A scenario before it has the same name. -/
  | duplicateName {s : Scenario} (hs : scenarios[i]? = some s)
    (hname : s.name ∈ (scenarios.take i).map (·.name)) : FaultAt scenarios i (.duplicateName s.name)
  /-- Its name is new, but it requires markers that it forbids. -/
  | conflict {s : Scenario} (hs : scenarios[i]? = some s)
    (hname : s.name ∉ (scenarios.take i).map (·.name)) (hmarkers : s.patterns.conflicts ≠ []) :
    FaultAt scenarios i (.conflict s.name s.patterns.conflicts)

/-- Which fault of a configuration comes first. -/
inductive FirstFault (c : Config) : ConfigFault → Prop where
  /-- All characters of the entry point are blank. -/
  | entryPoint (hblank : ∀ char ∈ c.entryPoint.toList, Text.isBlank char = true) :
    FirstFault c .blankEntryPoint
  /-- The scenario at an index has the fault, and none before it has any. -/
  | scenario {i : Nat} {fault : ConfigFault}
    (hentry : ∃ char ∈ c.entryPoint.toList, Text.isBlank char = false)
    (hfault : FaultAt c.scenarios i fault)
    (hfirst : ∀ j < i, ∀ other, ¬ FaultAt c.scenarios j other) : FirstFault c fault

variable {c : Config} {scenarios before rest : List Scenario} {s : Scenario} {fault : ConfigFault}
  {decode : Decoder}

/-- What is wrong with a scenario that follows others with the given names. -/
def faultAfter? (seen : List String) (s : Scenario) : Option ConfigFault :=
  if s.name ∈ seen then some (.duplicateName s.name)
  else if s.patterns.conflicts ≠ [] then some (.conflict s.name s.patterns.conflicts)
  else none

/-- The first of some scenarios has a fault, or else the first fault is one of the others. -/
theorem scenarioFault?_cons (seen : List String) (s : Scenario) (rest : List Scenario) :
    scenarioFault? seen (s :: rest) =
      (faultAfter? seen s).or (scenarioFault? (s.name :: seen) rest) := by
  rw [scenarioFault?, faultAfter?]
  split
  · rfl
  split <;> rfl

theorem conflicts_eq_nil_iff (p : PatternSet) :
    p.conflicts = [] ↔ ∀ marker ∈ p.required, marker ∉ p.forbidden := by
  simp [PatternSet.conflicts, List.filter_eq_nil_iff]

theorem faultAfter?_eq_none_iff (seen : List String) (s : Scenario) :
    faultAfter? seen s = none ↔
      s.name ∉ seen ∧ ∀ marker ∈ s.patterns.required, marker ∉ s.patterns.forbidden := by
  rw [faultAfter?, ← conflicts_eq_nil_iff]
  by_cases hname : s.name ∈ seen <;> by_cases hmarkers : s.patterns.conflicts = [] <;>
    simp [hname, hmarkers]

/-- Scenarios have no fault exactly if their names are new and different and no markers conflict. -/
theorem scenarioFault?_eq_none_iff (seen : List String) (scenarios : List Scenario) :
    scenarioFault? seen scenarios = none ↔
      (∀ s ∈ scenarios, s.name ∉ seen) ∧ (scenarios.map (·.name)).Nodup ∧
      ∀ s ∈ scenarios, ∀ marker ∈ s.patterns.required, marker ∉ s.patterns.forbidden := by
  induction scenarios generalizing seen with
  | nil => simp [scenarioFault?]
  | cons s rest ih =>
    rw [scenarioFault?_cons, Option.or_eq_none_iff, faultAfter?_eq_none_iff, ih]
    rw [List.forall_mem_cons, List.forall_mem_cons, List.map_cons, List.nodup_cons]
    simp only [List.mem_cons, not_or]
    constructor
    · rintro ⟨⟨hname, hmarkers⟩, hnew, hnodup, hclear⟩
      refine ⟨⟨hname, fun t ht => (hnew t ht).2⟩, ⟨?_, hnodup⟩, hmarkers, hclear⟩
      intro hmem
      obtain ⟨t, ht, hsame⟩ := List.mem_map.mp hmem
      exact (hnew t ht).1 hsame
    · rintro ⟨⟨hname, hnew⟩, ⟨hother, hnodup⟩, hmarkers, hclear⟩
      refine ⟨⟨hname, hmarkers⟩, fun t ht => ⟨fun hsame => ?_, hnew t ht⟩, hnodup, hclear⟩
      exact hother (hsame ▸ List.mem_map_of_mem ht)

theorem faultAt_iff {i : Nat} :
    FaultAt scenarios i fault ↔
      ∃ s, scenarios[i]? = some s ∧
        faultAfter? ((scenarios.take i).map (·.name)) s = some fault := by
  constructor
  · intro h
    cases h with
    | duplicateName hs hname => exact ⟨_, hs, if_pos hname⟩
    | conflict hs hname hmarkers =>
      exact ⟨_, hs, by rw [faultAfter?, if_neg hname, if_pos hmarkers]⟩
  · rintro ⟨s, hs, h⟩
    rw [faultAfter?] at h
    split at h
    · next hname => exact Option.some.inj h ▸ .duplicateName hs hname
    split at h
    · next hname hmarkers => exact Option.some.inj h ▸ .conflict hs hname hmarkers
    · cases h

/-- The fault of a scenario is known from it and the names before it. -/
theorem faultAt_length_iff :
    FaultAt (before ++ s :: rest) before.length fault ↔
      faultAfter? (before.map (·.name)).reverse s = some fault := by
  rw [faultAt_iff, List.take_left]
  simp [faultAfter?]

/-- The fault that is found in the scenarios behind some is that of the first one that has any. -/
theorem scenarioFault?_eq_some_iff (fault : ConfigFault) (before rest : List Scenario) :
    scenarioFault? (before.map (·.name)).reverse rest = some fault ↔
      ∃ i, before.length ≤ i ∧ FaultAt (before ++ rest) i fault ∧
        ∀ j, before.length ≤ j → j < i → ∀ other, ¬ FaultAt (before ++ rest) j other := by
  induction rest generalizing before with
  | nil =>
    simp only [scenarioFault?, reduceCtorEq, false_iff, not_exists, List.append_nil]
    rintro i ⟨hi, hfault, -⟩
    obtain ⟨s, hs, -⟩ := faultAt_iff.mp hfault
    rw [List.getElem?_eq_none hi] at hs
    cases hs
  | cons s rest ih =>
    have hnext := ih (before ++ [s])
    simp only [List.map_append, List.map_cons, List.map_nil, List.reverse_append,
      List.reverse_singleton, List.singleton_append, List.append_assoc, List.length_append,
      List.length_singleton] at hnext
    rw [scenarioFault?_cons]
    cases hs : faultAfter? (before.map (·.name)).reverse s with
    | some first =>
      have hfirst : FaultAt (before ++ s :: rest) before.length first := faultAt_length_iff.mpr hs
      rw [Option.some_or, Option.some.injEq]
      constructor
      · rintro rfl
        exact ⟨before.length, Nat.le_refl _, hfirst, fun j hj hlt => absurd hj (by omega)⟩
      · rintro ⟨i, hi, hfault, hleast⟩
        rcases Nat.eq_or_lt_of_le hi with rfl | hlt
        · rw [faultAt_length_iff, hs] at hfault
          exact Option.some.inj hfault
        · exact absurd hfirst (hleast _ (Nat.le_refl _) hlt _)
    | none =>
      have hnone (other : ConfigFault) : ¬ FaultAt (before ++ s :: rest) before.length other := by
        rw [faultAt_length_iff, hs]
        exact (Option.some_ne_none other).symm
      rw [Option.none_or, hnext]
      constructor
      · rintro ⟨i, hi, hfault, hleast⟩
        refine ⟨i, by omega, hfault, fun j hj hlt other => ?_⟩
        rcases Nat.eq_or_lt_of_le hj with rfl | hlt'
        · exact hnone other
        · exact hleast j hlt' hlt other
      · rintro ⟨i, hi, hfault, hleast⟩
        refine ⟨i, ?_, hfault, fun j hj hlt other => hleast j (by omega) hlt other⟩
        rcases Nat.eq_or_lt_of_le hi with rfl | hlt
        · exact absurd hfault (hnone fault)
        · exact hlt

theorem isBlankText_eq_false_iff (text : String) :
    Text.isBlankText text = false ↔ ∃ char ∈ text.toList, Text.isBlank char = false := by
  simp [Text.isBlankText]

theorem isBlankText_iff (text : String) :
    Text.isBlankText text = true ↔ ∀ char ∈ text.toList, Text.isBlank char = true :=
  List.all_eq_true

/-- A configuration has no fault exactly if it makes sense. -/
theorem fault?_eq_none_iff : c.fault? = none ↔ c.Sensible := by
  rw [fault?]
  split
  · next hblank =>
    refine ⟨fun h => absurd h (Option.some_ne_none _), fun h => ?_⟩
    rw [(isBlankText_eq_false_iff _).mpr h.entryPoint] at hblank
    cases hblank
  · next hblank =>
    have hentry := (isBlankText_eq_false_iff _).mp (Bool.eq_false_iff.mpr hblank)
    rw [scenarioFault?_eq_none_iff]
    exact ⟨fun ⟨_, hnames, hmarkers⟩ => ⟨hentry, hnames, hmarkers⟩,
      fun h => ⟨fun _ _ => List.not_mem_nil, h.names, h.markers⟩⟩

/-- The fault that is found comes first. -/
theorem fault?_eq_some_iff : c.fault? = some fault ↔ FirstFault c fault := by
  rw [fault?]
  split
  · next hblank =>
    rw [Option.some.injEq]
    constructor
    · rintro rfl
      exact .entryPoint ((isBlankText_iff _).mp hblank)
    · intro h
      cases h with
      | entryPoint => rfl
      | scenario hentry =>
        rw [(isBlankText_eq_false_iff _).mpr hentry] at hblank
        cases hblank
  · next hblank =>
    have hscenarios := scenarioFault?_eq_some_iff fault [] c.scenarios
    simp only [List.map_nil, List.reverse_nil, List.length_nil, Nat.zero_le, List.nil_append,
      true_and, forall_const] at hscenarios
    rw [hscenarios]
    constructor
    · rintro ⟨i, hfault, hfirst⟩
      exact .scenario ((isBlankText_eq_false_iff _).mp (Bool.eq_false_iff.mpr hblank)) hfault
        hfirst
    · intro h
      cases h with
      | entryPoint h => exact absurd ((isBlankText_iff _).mpr h) hblank
      | scenario _ hfault hfirst => exact ⟨_, hfault, hfirst⟩

theorem validate_eq_ok_iff {valid : Config} : c.validate = .ok valid ↔ valid = c ∧ c.Sensible := by
  rw [← fault?_eq_none_iff, validate]
  cases c.fault? <;> simp [eq_comm]

theorem validate_eq_error_iff {e : ConfigError} :
    c.validate = .error e ↔ ∃ fault, e = .invalid fault ∧ FirstFault c fault := by
  simp only [← fault?_eq_some_iff, validate]
  cases c.fault? <;> simp [eq_comm]

/-- The defaults make sense. -/
theorem sensible_default : ({} : Config).Sensible where
  entryPoint := ⟨'T', by decide, by decide⟩
  names := List.nodup_nil
  markers := by simp

theorem sensible_of_ofFile {path : String} {read : FileRead}
    (h : ofFile decode path read = .ok c) : c.Sensible := by
  cases read with
  | missing =>
    rw [ofFile] at h
    obtain ⟨rfl, hsensible⟩ := validate_eq_ok_iff.mp h
    exact hsensible
  | unreadable cause => cases h
  | content bytes =>
    simp only [ofFile] at h
    split at h
    · cases h
    split at h
    · cases h
    · obtain ⟨rfl, hsensible⟩ := validate_eq_ok_iff.mp h
      exact hsensible

/-- What is loaded makes sense, whatever the files hold. -/
theorem sensible_of_load {look : String → FileRead} {paths : List String}
    (h : load decode look paths = .ok c) : c.Sensible := by
  rw [load] at h
  split at h
  · cases h
    exact sensible_default
  · exact sensible_of_ofFile h

theorem ofFile_eq_malformed_iff {path path' cause : String} {read : FileRead} :
    ofFile decode path read = .error (.malformed path' cause) ↔ path = path' ∧
      ∃ text, read = .content (Text.Utf8.encode text) ∧ decode text = .error cause := by
  cases read with
  | missing => simp [ofFile, validate_eq_error_iff]
  | unreadable reason => simp [ofFile]
  | content bytes =>
    simp only [ofFile, FileRead.content.injEq, ← Text.Utf8.decode?_eq_some_iff]
    cases Text.Utf8.decode? bytes with
    | none => simp
    | some text =>
      simp only [Option.some.injEq, exists_eq_left']
      cases decode text with
      | ok c => simp [validate_eq_error_iff]
      | error reason => simp

/-- Loading finds a file malformed exactly if that is the file it reads, the file is text, and the
decoder refuses the text; the reason that the decoder gives is kept. -/
theorem load_eq_malformed_iff {look : String → FileRead} {paths : List String}
    {path cause : String} : load decode look paths = .error (.malformed path cause) ↔
      findFile? look paths = some path ∧
        ∃ text, look path = .content (Text.Utf8.encode text) ∧ decode text = .error cause := by
  rw [load]
  cases findFile? look paths with
  | none => simp only [reduceCtorEq, false_and]
  | some found =>
    rw [Option.some.injEq, ofFile_eq_malformed_iff]
    refine and_congr_right ?_
    rintro rfl
    exact Iff.rfl

/-- The scenarios to run have different names. -/
theorem Sensible.nodup_effectiveScenarios (h : c.Sensible) :
    (c.effectiveScenarios.map (·.name)).Nodup := by
  rw [effectiveScenarios]
  split
  · decide
  · exact h.names

/-- What the command line says is not about what has to make sense. -/
theorem Sensible.override (h : c.Sensible) (r : CommandLine.RunRequest) : (r.override c).Sensible :=
  ⟨h.entryPoint, h.names, h.markers⟩

/-- A configuration is valid exactly if it makes sense, and otherwise its first fault is reported.
What is loaded is valid, also when the command line has the last word; so the scenarios to run have
different names, and names of such scenarios select one by one those that bear them. -/
theorem validate_load_select :
    (∀ c : Config, c.validate = .ok c ↔ c.Sensible) ∧
    (∀ (c : Config) (e : ConfigError), c.validate = .error e ↔
      ∃ fault, e = .invalid fault ∧ FirstFault c fault) ∧
    ∀ (decode : Decoder) (look : String → FileRead) (paths : List String) (base : Config),
      load decode look paths = .ok base → base.validate = .ok base ∧
      ∀ r : CommandLine.RunRequest, (r.override base).validate = .ok (r.override base) ∧
        ((r.override base).effectiveScenarios.map (·.name)).Nodup ∧
        ∀ names, names ≠ [] →
          (∀ name ∈ names, name ∈ (r.override base).effectiveScenarios.map (·.name)) →
          ∃ picked, Session.select (r.override base).effectiveScenarios names = .ok picked ∧
            List.Forall₂ (fun name s => s ∈ (r.override base).effectiveScenarios ∧ s.name = name ∧
              ∀ t ∈ (r.override base).effectiveScenarios, t.name = name → t = s) names picked := by
  refine ⟨fun c => ?_, fun c e => validate_eq_error_iff, fun decode look paths base hload => ?_⟩
  · rw [validate_eq_ok_iff, and_iff_right rfl]
  · have hbase := sensible_of_load hload
    refine ⟨validate_eq_ok_iff.mpr ⟨rfl, hbase⟩, fun r => ?_⟩
    have hsensible := hbase.override r
    have hnames := hsensible.nodup_effectiveScenarios
    exact ⟨validate_eq_ok_iff.mpr ⟨rfl, hsensible⟩, hnames,
      fun names hne hmem => Session.select_of_forall_mem hnames hne hmem⟩

/-- A file with two scenarios is loaded, and each can be selected twice, in any order. -/
theorem validate_load_select_twice :
    let text := "[[scenario]]\nname = 'b'\n[[scenario]]\nname = 'a'\nrequired = ['x']\n"
    let look : String → FileRead := fun _ => .content (Text.Utf8.encode text)
    let base : Config := { scenarios :=
      [{ name := "b" }, { name := "a", patterns := { required := ["x"] } }] }
    load ofToml look ["c.toml"] = .ok base ∧
    ∃ picked, Session.select base.effectiveScenarios ["a", "b", "a"] = .ok picked ∧
      picked.map (·.name) = ["a", "b", "a"] := by
  intro text look base
  have hload : load ofToml look ["c.toml"] = .ok base := by
    decide +kernel
  obtain ⟨-, hrun⟩ := validate_load_select.2.2 ofToml look ["c.toml"] base hload
  obtain ⟨-, -, hselect⟩ := hrun {}
  obtain ⟨picked, hpicked, hbear⟩ := hselect ["a", "b", "a"] (by decide) (by decide)
  have hnames : List.Forall₂ Eq ["a", "b", "a"] (picked.map (·.name)) :=
    List.forall₂_map_right_iff.mpr (hbear.imp fun _ _ ⟨_, hname, _⟩ => hname.symm)
  rw [List.forall₂_eq_eq_eq] at hnames
  exact ⟨hload, picked, hpicked, hnames.symm⟩

end Config

end PauseWatch
