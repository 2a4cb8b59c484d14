import PauseWatch.Proofs.Session.Run
import PauseWatch.Proofs.Text.Pieces

/-!
# Which pattern sets can pass

A required marker brings every part of it along, so a pattern set whose forbidden markers are empty
or stand in a required one cannot pass. Any other set passes on the required markers themselves,
each with a character behind it that no forbidden marker holds. A conflict, where one marker is both
required and forbidden, is the special case in which the forbidden marker is all of the required
one; a scenario with a conflict fails whatever its launch is answered.
-/

namespace PauseWatch

/-- The output whose text on a channel is the given one. -/
def Capture.showing (channel : Channel) (text : String) : Capture :=
  match channel with
  | .stdout | .combined => { stdout := text }
  | .stderr => { stderr := text }

theorem Capture.text_showing (channel : Channel) (text : String) :
    (showing channel text).text channel = text := by
  cases channel with
  | stdout => rfl
  | stderr => rfl
  | combined => exact String.append_empty

namespace PatternSet

/-- No forbidden marker is bound to occur where the required ones do. -/
structure Clear (p : PatternSet) : Prop where
  /-- No forbidden marker is empty. -/
  nonempty : ∀ m ∈ p.forbidden, m ≠ ""
  /-- No forbidden marker is a part of a required one. -/
  apart : ∀ m ∈ p.forbidden, ∀ r ∈ p.required, ¬ m.toList <:+: r.toList

variable {p : PatternSet} {x : Char}

/-- A set is clear if a text has every required marker and no forbidden one. -/
theorem clear_of_infix {text : List Char} (hrequired : ∀ m ∈ p.required, m.toList <:+: text)
    (hforbidden : ∀ m ∈ p.forbidden, ¬ m.toList <:+: text) : p.Clear := by
  constructor
  · rintro m hm rfl
    exact hforbidden "" hm List.nil_infix
  · intro m hm r hr hpart
    exact hforbidden m hm (hpart.trans (hrequired r hr))

/-- A text that has every required marker, each with `x` behind it. -/
def joined (p : PatternSet) (x : Char) : String :=
  String.ofList (Text.closed x (p.required.map String.toList))

/-- A marker without `x` stands in the joined text exactly if it stands in a required marker. -/
theorem infix_joined_iff {m : String} (hx : x ∉ m.toList) (hm : m ≠ "") :
    m.toList <:+: (p.joined x).toList ↔ ∃ r ∈ p.required, m.toList <:+: r.toList := by
  have hne : m.toList ≠ [] := fun he => hm (String.toList_eq_nil_iff.mp he)
  rw [joined, String.toList_ofList, Text.infix_closed_iff hx hne]
  simp only [List.mem_map, exists_exists_and_eq_and]

/-- Every required marker stands in the joined text. -/
theorem infix_joined_of_mem {r : String} (hr : r ∈ p.required) :
    r.toList <:+: (p.joined x).toList := by
  rw [joined, String.toList_ofList]
  exact Text.infix_closed_of_mem (List.mem_map_of_mem hr)

/-- A clear set passes on its joined text, if there is a character that no forbidden marker holds.
-/
theorem Clear.passes_joined (h : p.Clear) (hx : ∀ m ∈ p.forbidden, x ∉ m.toList)
    (matcher : Matcher) (channel : Channel) :
    (Capture.showing channel (p.joined x)).checkPatterns matcher channel p = none := by
  rw [Capture.checkPatterns_eq_none_iff, Capture.text_showing]
  refine ⟨fun r hr => infix_joined_of_mem hr, fun m hm hstands => ?_⟩
  obtain ⟨r, hr, hpart⟩ := (infix_joined_iff (hx m hm) (h.nonempty m hm)).mp hstands
  exact h.apart m hm r hr hpart

/-- A set with a conflict is not clear. -/
theorem not_clear_of_conflict (h : p.conflicts ≠ []) : ¬ p.Clear := by
  intro hclear
  obtain ⟨m, hm⟩ := List.exists_mem_of_ne_nil _ h
  obtain ⟨hrequired, hforbidden⟩ := List.mem_filter.mp hm
  exact hclear.apart m (of_decide_eq_true hforbidden) m hrequired List.infix_rfl

/-- A required marker is as often in conflict as it is required, if it is forbidden at all. -/
theorem count_conflicts (p : PatternSet) (m : String) :
    p.conflicts.count m = if m ∈ p.forbidden then p.required.count m else 0 := by
  by_cases hm : m ∈ p.forbidden
  · rw [if_pos hm, conflicts, List.count_filter (p := fun r => decide (r ∈ p.forbidden))]
    exact decide_eq_true hm
  · rw [if_neg hm, List.count_eq_zero]
    intro hconflict
    exact hm (of_decide_eq_true (List.mem_filter.mp hconflict).2)

end PatternSet

namespace Session

/-- A scenario whose patterns cannot pass fails, whatever its launch is answered. -/
theorem stage_judge_of_not_clear {s : Scenario} (h : ¬ s.patterns.Clear) (matcher : Matcher)
    (command : String) (answer : Except RunError Capture) :
    (judge matcher s command answer).stage = .failed := by
  have hr := judge_reports matcher s command answer
  refine hr.stage_terminal.resolve_left fun hpassed => ?_
  obtain ⟨output, -, hmeets⟩ := hr.passed_iff.mp hpassed
  exact h (PatternSet.clear_of_infix hmeets.required hmeets.forbidden)

/-- If there is a character that no forbidden marker holds, a pattern set passes on some output
exactly if no forbidden marker is empty or a part of a required one. A set with a conflict passes on
no output, and a scenario with it fails whatever its launch is answered, alone or in a run of
several scenarios. The conflicts are the required markers that are forbidden as well, in their order
and as often as they are required. -/
theorem patterns_satisfiable_iff (matcher : Matcher) (p : PatternSet) :
    (∀ x : Char, (∀ m ∈ p.forbidden, x ∉ m.toList) → ∀ channel,
      ((∃ c : Capture, c.checkPatterns matcher channel p = none) ↔
        (∀ m ∈ p.forbidden, m ≠ "") ∧
          ∀ m ∈ p.forbidden, ∀ r ∈ p.required, ¬ m.toList <:+: r.toList)) ∧
    (p.conflicts ≠ [] →
      (∀ (c : Capture) (channel : Channel), c.checkPatterns matcher channel p ≠ none) ∧
      ∀ (config : Config) (env : Environment) (answers : Answers) (s : Scenario) (t : Trace),
        s.patterns = p →
          ((runScenario matcher config env answers.executor s).run t).1.stage = .failed ∧
          ∀ (scenarios : List Scenario) (k : Nat), scenarios[k]? = some s →
            ((runAll matcher config env answers.executor scenarios).run t).1.outcomes[k]?.map (·.stage) =
              some .failed) ∧
    p.conflicts.Sublist p.required ∧
    ∀ m, p.conflicts.count m = if m ∈ p.forbidden then p.required.count m else 0 := by
  refine ⟨fun x hx channel => ?_, fun hconflict => ?_, List.filter_sublist, p.count_conflicts⟩
  · constructor
    · rintro ⟨c, hc⟩
      obtain ⟨hrequired, hforbidden⟩ := Capture.checkPatterns_eq_none_iff.mp hc
      have hclear := PatternSet.clear_of_infix hrequired hforbidden
      exact ⟨hclear.nonempty, hclear.apart⟩
    · rintro ⟨hnonempty, hapart⟩
      have hclear : p.Clear := ⟨hnonempty, hapart⟩
      exact ⟨_, hclear.passes_joined hx matcher channel⟩
  · have hclear := PatternSet.not_clear_of_conflict hconflict
    refine ⟨fun c channel hc => ?_, ?_⟩
    · obtain ⟨hrequired, hforbidden⟩ := Capture.checkPatterns_eq_none_iff.mp hc
      exact hclear (PatternSet.clear_of_infix hrequired hforbidden)
    rintro config env answers s t rfl
    refine ⟨?_, fun scenarios k hs => ?_⟩
    · rw [runScenario_run]
      exact stage_judge_of_not_clear hclear _ _ _
    · rw [runAll_run, getElem?_outcomesAfter, hs, Option.map_some, Option.map_some]
      exact congrArg some (stage_judge_of_not_clear hclear _ _ _)

/-- A set may fail on every output without a conflict, and pass although its markers overlap; with a
conflict the scenario fails even on an output that is nothing but the marker. -/
theorem patterns_satisfiable_iff_overlapping :
    let hidden : PatternSet := { required := ["Pause Full"], forbidden := ["Pause"] }
    let overlapping : PatternSet := { required := ["Pause", "Full"], forbidden := ["Pause Full"] }
    let conflicting : PatternSet := { required := ["GC", "Pause", "GC"], forbidden := ["GC"] }
    let answers : Answers := fun _ _ => .ok { stdout := "GC" }
    let s : Scenario := { name := "gc", patterns := conflicting }
    (hidden.conflicts = [] ∧ ¬ ∃ c : Capture, c.checkPatterns Pattern.compile .stdout hidden = none) ∧
    (∃ c : Capture, c.checkPatterns Pattern.compile .stdout overlapping = none) ∧
    conflicting.conflicts = ["GC", "GC"] ∧
    ((runScenario Pattern.compile {} .empty answers.executor s).run {}).1.stage = .failed := by
  intro hidden overlapping conflicting answers s
  refine ⟨⟨by decide, ?_⟩, ?_, by decide, ?_⟩
  · obtain ⟨hiff, -⟩ := patterns_satisfiable_iff Pattern.compile hidden
    rw [hiff '\n' (by decide) .stdout]
    decide
  · obtain ⟨hiff, -⟩ := patterns_satisfiable_iff Pattern.compile overlapping
    rw [hiff '\n' (by decide) .stdout]
    decide
  · obtain ⟨-, hconflict, -⟩ := patterns_satisfiable_iff Pattern.compile conflicting
    obtain ⟨-, hfails⟩ := hconflict (by decide)
    obtain ⟨hstage, -⟩ := hfails {} .empty answers s {} rfl
    exact hstage

end Session

end PauseWatch
