import Mathlib.Data.List.Forall2
import Mathlib.Data.List.Nodup
import PauseWatch.Session.Selection

/-!
# What names select

A selection by names pairs every name with the first scenario that bears it, so it is as long as the
list of names; it fails at the first name that no scenario bears. A selection from a list that is
not empty is never empty: without names it is the list itself. Where scenarios have different names,
each can be selected by its name.
-/

namespace PauseWatch.Session

variable {scenarios selected : List Scenario} {names : List String}

section Traversal

variable {α β ε : Type} {f : α → Except ε β} {e : ε}

/-- A traversal succeeds with the result of its first entry and those behind it. -/
theorem mapM_cons_eq_ok_iff {x : α} {rest : List α} {ys : List β} :
    (x :: rest).mapM f = .ok ys ↔
      ∃ y more, f x = .ok y ∧ rest.mapM f = .ok more ∧ ys = y :: more := by
  rw [List.mapM_cons]
  cases f x with
  | error e => simp [bind, Except.bind]
  | ok y => cases rest.mapM f <;> simp [bind, Except.bind, pure, Except.pure, eq_comm]

/-- A traversal fails at its first entry, or behind it if it succeeds there. -/
theorem mapM_cons_eq_error_iff {x : α} {rest : List α} : (x :: rest).mapM f = .error e ↔
    f x = .error e ∨ (∃ y, f x = .ok y) ∧ rest.mapM f = .error e := by
  rw [List.mapM_cons]
  cases f x with
  | error e' => simp [bind, Except.bind]
  | ok y => cases rest.mapM f <;> simp [bind, Except.bind, pure, Except.pure]

/-- A traversal that succeeds gives the results of its entries one by one. -/
theorem mapM_eq_ok_iff {xs : List α} {ys : List β} :
    xs.mapM f = .ok ys ↔ List.Forall₂ (fun x y => f x = .ok y) xs ys := by
  induction xs generalizing ys with
  | nil =>
    rw [List.forall₂_nil_left_iff, List.mapM_nil]
    exact ⟨fun h => (Except.ok.inj h).symm, fun h => h ▸ rfl⟩
  | cons x rest ih =>
    rw [mapM_cons_eq_ok_iff, List.forall₂_cons_left_iff]
    simp only [ih, exists_and_left]

/-- A traversal fails as the first entry does at which it fails. -/
theorem mapM_eq_error_iff {xs : List α} : xs.mapM f = .error e ↔
    ∃ before x after, xs = before ++ x :: after ∧ (∀ y ∈ before, ∃ z, f y = .ok z) ∧
      f x = .error e := by
  constructor
  · intro h
    induction xs with
    | nil => cases h
    | cons x rest ih =>
      rcases mapM_cons_eq_error_iff.mp h with hx | ⟨hx, hrest⟩
      · exact ⟨[], x, rest, rfl, fun _ hy => (List.not_mem_nil hy).elim, hx⟩
      · obtain ⟨before, y, after, rfl, hbefore, hy⟩ := ih hrest
        exact ⟨x :: before, y, after, rfl, List.forall_mem_cons.mpr ⟨hx, hbefore⟩, hy⟩
  · rintro ⟨before, x, after, rfl, hbefore, hx⟩
    induction before with
    | nil => exact mapM_cons_eq_error_iff.mpr (Or.inl hx)
    | cons y before ih =>
      obtain ⟨hy, hbefore⟩ := List.forall_mem_cons.mp hbefore
      exact mapM_cons_eq_error_iff.mpr (Or.inr ⟨hy, ih hbefore⟩)

/-- A traversal succeeds exactly if it succeeds at every entry. -/
theorem exists_mapM_eq_ok_iff {xs : List α} :
    (∃ ys, xs.mapM f = .ok ys) ↔ ∀ x ∈ xs, ∃ y, f x = .ok y := by
  constructor
  · rintro ⟨ys, hys⟩
    rw [mapM_eq_ok_iff] at hys
    induction hys with
    | nil => exact fun x hx => (List.not_mem_nil hx).elim
    | cons hy _ ih => exact List.forall_mem_cons.mpr ⟨⟨_, hy⟩, ih⟩
  · intro h
    cases hxs : xs.mapM f with
    | ok ys => exact ⟨ys, rfl⟩
    | error e =>
      obtain ⟨before, x, after, rfl, -, hx⟩ := mapM_eq_error_iff.mp hxs
      obtain ⟨y, hy⟩ := h x (by simp)
      rw [hx] at hy
      cases hy

end Traversal

/-- The first of the scenarios that bears a name. -/
def FirstNamed (scenarios : List Scenario) (name : String) (s : Scenario) : Prop :=
  ∃ before after, scenarios = before ++ s :: after ∧ s.name = name ∧ ∀ t ∈ before, t.name ≠ name

/-- The first of the scenarios that bears a name is one of the scenarios. -/
theorem FirstNamed.mem {name : String} {s : Scenario} (h : FirstNamed scenarios name s) :
    s ∈ scenarios := by
  obtain ⟨before, after, rfl, -⟩ := h
  exact List.mem_append_right _ List.mem_cons_self

/-- The first of the scenarios that bears a name bears it. -/
theorem FirstNamed.name_eq {name : String} {s : Scenario} (h : FirstNamed scenarios name s) :
    s.name = name := by
  obtain ⟨_, _, -, hname, -⟩ := h
  exact hname

/-- Whether some scenario bears a name. -/
def Borne (scenarios : List Scenario) (name : String) : Prop := ∃ s ∈ scenarios, s.name = name

/-- A name selects the first scenario that bears it. -/
theorem named_eq_ok_iff {name : String} {s : Scenario} :
    named scenarios name = .ok s ↔ FirstNamed scenarios name s := by
  have hfind : scenarios.find? (·.name == name) = some s ↔ FirstNamed scenarios name s := by
    rw [List.find?_eq_some_iff_append, FirstNamed]
    constructor
    · rintro ⟨hname, before, after, he, hbefore⟩
      exact ⟨before, after, he, beq_iff_eq.mp hname, fun t ht => by simpa using hbefore t ht⟩
    · rintro ⟨before, after, he, hname, hbefore⟩
      exact ⟨beq_iff_eq.mpr hname, before, after, he, fun t ht => by simpa using hbefore t ht⟩
  rw [← hfind, named]
  cases scenarios.find? (·.name == name) with
  | none => simp
  | some t => simp

/-- A name selects nothing exactly if no scenario bears it. -/
theorem named_eq_error_iff {name : String} {e : ConfigError} :
    named scenarios name = .error e ↔ ¬ Borne scenarios name ∧ e = .unknownScenario name := by
  have hfind : scenarios.find? (·.name == name) = none ↔ ¬ Borne scenarios name := by
    rw [List.find?_eq_none, Borne]
    simp
  rw [← hfind, named]
  cases scenarios.find? (·.name == name) with
  | none => simp [eq_comm]
  | some t => simp

/-- A name selects some scenario exactly if one bears it. -/
theorem exists_named_iff {name : String} :
    (∃ s, named scenarios name = .ok s) ↔ Borne scenarios name := by
  constructor
  · rintro ⟨s, hs⟩
    have hfirst := named_eq_ok_iff.mp hs
    exact ⟨s, hfirst.mem, hfirst.name_eq⟩
  · intro hborne
    cases hs : named scenarios name with
    | ok s => exact ⟨s, rfl⟩
    | error e => exact absurd hborne (named_eq_error_iff.mp hs).1

/-- A selection by names has one scenario for every name. -/
theorem length_select (h : select scenarios names = .ok selected) (hn : names ≠ []) :
    selected.length = names.length := by
  rw [select, if_neg hn] at h
  exact (mapM_eq_ok_iff.mp h).length_eq.symm

/-- What is selected from some scenarios is not empty. -/
theorem select_ne_nil (h : select scenarios names = .ok selected) (hs : scenarios ≠ []) :
    selected ≠ [] := by
  by_cases hn : names = []
  · rw [select, if_pos hn] at h
    cases h
    exact hs
  · intro he
    have hl := length_select h hn
    rw [he, List.length_nil] at hl
    exact hn (List.length_eq_zero_iff.mp hl.symm)

/-- Where names are different, some of them select one by one the scenarios that bear them. -/
theorem select_of_forall_mem (hnames : (scenarios.map (·.name)).Nodup) (hne : names ≠ [])
    (hmem : ∀ name ∈ names, name ∈ scenarios.map (·.name)) :
    ∃ picked, select scenarios names = .ok picked ∧
      List.Forall₂ (fun name s => s ∈ scenarios ∧ s.name = name ∧
        ∀ t ∈ scenarios, t.name = name → t = s) names picked := by
  obtain ⟨picked, hpicked⟩ := exists_mapM_eq_ok_iff.mpr fun name hname =>
    exists_named_iff.mpr (List.mem_map.mp (hmem name hname))
  refine ⟨picked, by rw [select, if_neg hne, hpicked], (mapM_eq_ok_iff.mp hpicked).imp ?_⟩
  intro name s h
  have hfirst := named_eq_ok_iff.mp h
  exact ⟨hfirst.mem, hfirst.name_eq, fun t ht hname =>
    List.inj_on_of_nodup_map hnames ht hfirst.mem (hname.trans hfirst.name_eq.symm)⟩

/-- Selecting by names selects the scenarios of the names, whatever scenarios there are: each name
selects the first scenario that bears it, so a name given twice selects it twice, and the selection
fails as the first name that no scenario bears. Names that are put together select what each part
selects, and fail as the first part that fails. Without names everything is selected. -/
theorem select_finds (scenarios : List Scenario) :
    select scenarios [] = .ok scenarios ∧
    ∀ names, names ≠ [] →
      (∀ picked, select scenarios names = .ok picked ↔
        List.Forall₂ (FirstNamed scenarios) names picked) ∧
      ((∃ picked, select scenarios names = .ok picked) ↔ ∀ name ∈ names, Borne scenarios name) ∧
      (∀ e, select scenarios names = .error e ↔ ∃ before name after,
        names = before ++ name :: after ∧ (∀ n ∈ before, Borne scenarios n) ∧
          ¬ Borne scenarios name ∧ e = .unknownScenario name) ∧
      ∀ more, more ≠ [] → select scenarios (names ++ more) = do
        let first ← select scenarios names
        let second ← select scenarios more
        return first ++ second := by
  refine ⟨rfl, fun names hne => ?_⟩
  have hselect {names : List String} (hne : names ≠ []) :
      select scenarios names = names.mapM (named scenarios) := if_neg hne
  rw [hselect hne]
  refine ⟨fun picked => ?_, ?_, fun e => ?_, fun more hmore => ?_⟩
  · simp only [mapM_eq_ok_iff, named_eq_ok_iff]
  · simp only [exists_mapM_eq_ok_iff, exists_named_iff]
  · simp only [mapM_eq_error_iff, exists_named_iff, named_eq_error_iff]
  · rw [hselect (List.append_ne_nil_of_left_ne_nil hne more), hselect hmore, List.mapM_append]

/-- A name given twice that two scenarios share, and two names that nothing bears. -/
theorem select_finds_repeated :
    let first : Scenario := { name := "a", description := "first" }
    let second : Scenario := { name := "a", description := "second" }
    let other : Scenario := { name := "b" }
    let scenarios := [first, other, second]
    let names := ["a", "b", "a"]
    let unknown := ["c", "d"]
    names ≠ [] ∧ unknown ≠ [] ∧ select scenarios names = .ok [first, other, first] ∧
      select scenarios (names ++ unknown) = .error (.unknownScenario "c") := by
  intro first second other scenarios names unknown
  have hnames : names ≠ [] := by decide
  have hunknown : unknown ≠ [] := by decide
  obtain ⟨hok, -, -, happend⟩ := (select_finds scenarios).2 names hnames
  obtain ⟨-, -, herror, -⟩ := (select_finds scenarios).2 unknown hunknown
  have hfirst : FirstNamed scenarios "a" first := ⟨[], _, rfl, rfl, by decide⟩
  have hother : FirstNamed scenarios "b" other := ⟨[first], _, rfl, rfl, by decide⟩
  have hpicked : select scenarios names = .ok [first, other, first] :=
    (hok _).mpr (.cons hfirst (.cons hother (.cons hfirst .nil)))
  have hnone : select scenarios unknown = .error (.unknownScenario "c") :=
    (herror _).mpr ⟨[], "c", ["d"], rfl, by simp, by simp [Borne, scenarios, first, second, other],
      rfl⟩
  refine ⟨hnames, hunknown, hpicked, ?_⟩
  rw [happend unknown hunknown, hpicked, hnone]
  rfl

end PauseWatch.Session
