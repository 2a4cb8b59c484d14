import PauseWatch.Pattern.Reader
import PauseWatch.Proofs.Check.Satisfaction

/-!
# Expectations are checked one by one

The failures of a check pass are the failures of the expectations that do not hold, each as it is
reported when that expectation is checked alone. So the failures of two lists of expectations are
those of the first followed by those of the second, and they change places as the expectations do.
How a pattern set was put together shows only in the order of its required and of its forbidden
markers.
-/

namespace PauseWatch

/-- The markers that a step adds to those that must occur. -/
def PatternStep.required : PatternStep → List String
  | .require markers => markers
  | .forbid _ => []

/-- The markers that a step adds to those that must not occur. -/
def PatternStep.forbidden : PatternStep → List String
  | .require _ => []
  | .forbid markers => markers

/-- A step adds its markers behind those that are there. -/
theorem PatternSet.add_eq (p : PatternSet) (step : PatternStep) :
    p.add step = ⟨p.required ++ step.required, p.forbidden ++ step.forbidden⟩ := by
  cases step with
  | require markers => simp only [add, PatternStep.required, PatternStep.forbidden, List.append_nil]
  | forbid markers => simp only [add, PatternStep.required, PatternStep.forbidden, List.append_nil]

/-- Several steps add their markers in order, the two lists apart. -/
theorem PatternSet.addAll_eq (p : PatternSet) (steps : List PatternStep) :
    p.addAll steps =
      ⟨p.required ++ steps.flatMap (·.required), p.forbidden ++ steps.flatMap (·.forbidden)⟩ := by
  induction steps generalizing p with
  | nil => simp only [addAll, List.foldl_nil, List.flatMap_nil, List.append_nil]
  | cons step rest ih =>
    have hrest := ih (p.add step)
    rw [addAll] at hrest ⊢
    rw [List.foldl_cons, hrest, add_eq]
    simp only [List.flatMap_cons, List.append_assoc]

namespace Capture

/-- The expectations of a pattern set that do not hold: the required markers that are missing, then
the forbidden ones that are there. -/
theorem filter_not_satisfies_patterns (c : Capture) (matcher : Matcher) (channel : Channel)
    (p : PatternSet) :
    (p.expectations.filter fun e => ¬ c.Satisfies matcher channel e) =
      (p.required.filter fun m => ¬ m.toList <:+: (c.text channel).toList).map .contains ++
        (p.forbidden.filter fun m => m.toList <:+: (c.text channel).toList).map .notContains := by
  rw [PatternSet.expectations, List.filter_append, List.filter_map, List.filter_map]
  congr 2
  · refine List.filter_congr fun m _ => decide_eq_decide.mpr ?_
    exact Iff.rfl
  · refine List.filter_congr fun m _ => decide_eq_decide.mpr ?_
    exact not_not

end Capture

end PauseWatch
