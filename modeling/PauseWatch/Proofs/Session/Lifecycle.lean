import Mathlib.Data.List.Infix
import PauseWatch.Stage

/-!
# The life of a scenario

A stage is asked to move any number of times; some requests are granted and the others are ignored.
The granted ones follow each other as the stages allow it, so they are the beginning of one of the
three lives that a scenario can have, and the next request is granted exactly if it goes on with
such a life. What is ignored leaves no trace, neither in the stage nor in the later answers.
-/

namespace PauseWatch.Stage

/-- The answers to several requests to move, in order: whether each of them is granted. -/
def answers : Stage → List Stage → List Bool
  | _, [] => []
  | s, r :: rest => s.allows r :: answers (s.move r) rest

/-- The requests that are granted, in order. -/
def granted (s : Stage) (requests : List Stage) : List Stage :=
  ((requests.zip (s.answers requests)).filter (·.2)).map (·.1)

/-- The lives of a scenario, without the stage in which all of them begin. -/
def lives : List (List Stage) :=
  [[.running, .failed], [.running, .captured, .passed], [.running, .captured, .failed]]

variable {s r : Stage} {path : List Stage}

theorem move_of_allows (h : s.allows r = true) : s.move r = r := if_pos h

/-- A request that is not granted is ignored. -/
theorem move_of_not_allows (h : s.allows r = false) : s.move r = s :=
  if_neg (Bool.eq_false_iff.mp h)

@[simp] theorem moveAll_nil (s : Stage) : s.moveAll [] = s := rfl

@[simp] theorem moveAll_cons (s r : Stage) (rest : List Stage) :
    s.moveAll (r :: rest) = (s.move r).moveAll rest := rfl

@[simp] theorem granted_nil (s : Stage) : s.granted [] = [] := rfl

theorem granted_cons_of_allows (h : s.allows r = true) (rest : List Stage) :
    s.granted (r :: rest) = r :: r.granted rest := by
  rw [granted, answers, List.zip_cons_cons, List.filter_cons, if_pos h, List.map_cons,
    move_of_allows h, granted]

theorem granted_cons_of_not_allows (h : s.allows r = false) (rest : List Stage) :
    s.granted (r :: rest) = s.granted rest := by
  rw [granted, answers, List.zip_cons_cons, List.filter_cons, if_neg (Bool.eq_false_iff.mp h),
    move_of_not_allows h, granted]

theorem moveAll_append (s : Stage) (before rest : List Stage) :
    s.moveAll (before ++ rest) = (s.moveAll before).moveAll rest := List.foldl_append

theorem answers_append (s : Stage) (before rest : List Stage) :
    s.answers (before ++ rest) = s.answers before ++ (s.moveAll before).answers rest := by
  induction before generalizing s with
  | nil => rfl
  | cons r more ih =>
    rw [List.cons_append, answers, ih, answers, moveAll_cons, List.cons_append]

theorem granted_append (s : Stage) (before rest : List Stage) :
    s.granted (before ++ rest) = s.granted before ++ (s.moveAll before).granted rest := by
  induction before generalizing s with
  | nil => rfl
  | cons r more ih =>
    rw [List.cons_append, moveAll_cons]
    cases h : s.allows r with
    | true =>
      rw [granted_cons_of_allows h, granted_cons_of_allows h, move_of_allows h, ih,
        List.cons_append]
    | false =>
      rw [granted_cons_of_not_allows h, granted_cons_of_not_allows h, move_of_not_allows h, ih]

/-- The stage is the last one that was granted. -/
theorem moveAll_eq_getLastD (s : Stage) (requests : List Stage) :
    s.moveAll requests = (s.granted requests).getLastD s := by
  induction requests generalizing s with
  | nil => rfl
  | cons r rest ih =>
    rw [moveAll_cons]
    cases h : s.allows r with
    | true => rw [move_of_allows h, granted_cons_of_allows h, List.getLastD_cons, ih]
    | false => rw [move_of_not_allows h, granted_cons_of_not_allows h, ih]

/-- A terminal stage grants nothing any more. -/
theorem answers_of_isTerminal (h : s.isTerminal = true) (requests : List Stage) :
    s.answers requests = List.replicate requests.length false := by
  induction requests with
  | nil => rfl
  | cons r rest ih =>
    have hr := allows_of_isTerminal h r
    rw [answers, hr, move_of_not_allows hr, ih, List.length_cons, List.replicate_succ]

theorem moveAll_of_isTerminal (h : s.isTerminal = true) (requests : List Stage) :
    s.moveAll requests = s := by
  induction requests with
  | nil => rfl
  | cons r rest ih => rw [moveAll_cons, move_of_not_allows (allows_of_isTerminal h r), ih]

/-- Every stage allows the next one. -/
def Follows (s : Stage) (path : List Stage) : Prop :=
  (s :: path).IsChain fun current next => current.allows next = true

theorem follows_cons_iff : Follows s (r :: path) ↔ s.allows r = true ∧ Follows r path :=
  List.isChain_cons_cons

/-- What is granted follows what was granted before. -/
theorem follows_granted (s : Stage) (requests : List Stage) : Follows s (s.granted requests) := by
  induction requests generalizing s with
  | nil => exact List.IsChain.singleton s
  | cons r rest ih =>
    cases h : s.allows r with
    | true =>
      rw [granted_cons_of_allows h]
      exact follows_cons_iff.mpr ⟨h, ih r⟩
    | false =>
      rw [granted_cons_of_not_allows h]
      exact ih s

/-- Requests that follow each other are all granted, and only such requests are. -/
theorem granted_eq_self_iff : s.granted path = path ↔ Follows s path := by
  refine ⟨fun h => h ▸ follows_granted s path, fun h => ?_⟩
  induction path generalizing s with
  | nil => rfl
  | cons r rest ih =>
    obtain ⟨hr, hrest⟩ := follows_cons_iff.mp h
    rw [granted_cons_of_allows hr, ih hrest]

/-- The granted requests are granted without the others. -/
theorem granted_granted (s : Stage) (requests : List Stage) :
    s.granted (s.granted requests) = s.granted requests :=
  granted_eq_self_iff.mpr (follows_granted s requests)

theorem moveAll_granted (s : Stage) (requests : List Stage) :
    s.moveAll (s.granted requests) = s.moveAll requests := by
  rw [moveAll_eq_getLastD, granted_granted, ← moveAll_eq_getLastD]

/-- What can still come after a stage. -/
def ahead : Stage → List (List Stage)
  | .pending => lives
  | .running => [[.failed], [.captured, .passed], [.captured, .failed]]
  | .captured => [[.passed], [.failed]]
  | .passed => [[]]
  | .failed => [[]]

theorem ahead_ne_nil (s : Stage) : s.ahead ≠ [] := by
  cases s <;> exact List.cons_ne_nil _ _

/-- What can come after a stage is a stage that it allows and what can come after that one. -/
theorem cons_mem_ahead_iff : r :: path ∈ s.ahead ↔ s.allows r = true ∧ path ∈ r.ahead := by
  cases s <;> cases r <;> simp [ahead, lives, allows]

/-- Stages that follow each other are the beginning of what can come after the first one. -/
theorem follows_iff_ahead : Follows s path ↔ ∃ life ∈ s.ahead, path <+: life := by
  induction path generalizing s with
  | nil =>
    obtain ⟨life, hlife⟩ := List.exists_mem_of_ne_nil _ s.ahead_ne_nil
    exact iff_of_true (List.IsChain.singleton s) ⟨life, hlife, List.nil_prefix⟩
  | cons r rest ih =>
    rw [follows_cons_iff, ih]
    constructor
    · rintro ⟨hr, life, hlife, hrest⟩
      exact ⟨r :: life, cons_mem_ahead_iff.mpr ⟨hr, hlife⟩, List.cons_prefix_cons.mpr ⟨rfl, hrest⟩⟩
    · rintro ⟨life, hlife, hprefix⟩
      obtain ⟨later, rfl, hrest⟩ := List.cons_prefix_iff.mp hprefix
      obtain ⟨hr, hlater⟩ := cons_mem_ahead_iff.mp hlife
      exact ⟨hr, later, hlater, hrest⟩

/-- A request is granted exactly if it goes on with what was granted before. -/
theorem allows_moveAll_iff (s : Stage) (before : List Stage) (r : Stage) :
    (s.moveAll before).allows r = true ↔ ∃ life ∈ s.ahead, s.granted before ++ [r] <+: life := by
  rw [← follows_iff_ahead, ← granted_eq_self_iff, granted_append, granted_granted,
    List.append_cancel_left_eq, granted_eq_self_iff, moveAll_granted, follows_cons_iff]
  exact (and_iff_left (List.IsChain.singleton r)).symm

/-- What a new scenario is granted is the beginning of a life. -/
theorem exists_life_granted (requests : List Stage) :
    ∃ life ∈ lives, granted .pending requests <+: life :=
  follows_iff_ahead.mp (follows_granted .pending requests)

theorem length_le_of_mem_lives : ∀ life ∈ lives, life.length ≤ 3 := by decide

private theorem eq_of_ends_passed : ∀ life ∈ lives, ∀ path ∈ life.inits,
    path.getLastD .pending = .passed → path = [.running, .captured, .passed] := by decide

/-- A scenario passes only when its output has been captured. -/
theorem granted_of_passed {requests : List Stage} (h : moveAll .pending requests = .passed) :
    granted .pending requests = [.running, .captured, .passed] := by
  obtain ⟨life, hlife, hprefix⟩ := exists_life_granted requests
  rw [moveAll_eq_getLastD] at h
  exact eq_of_ends_passed life hlife _ ((List.mem_inits _ _).mpr hprefix) h

/-- What becomes of a new scenario that is asked to move. The granted requests, three at most, are
the beginning of a life, and the stage is the last of them; it is passed only after the output has
been captured. Without the other requests the same ones are granted and the stage is the same. A
request is granted exactly if it goes on with a life; one that is not granted changes neither the
stage nor the answers to later requests, and a terminal stage grants nothing ever after. -/
theorem granted_follows_life :
    (∀ requests : List Stage,
      (∃ life ∈ lives, granted .pending requests <+: life) ∧
      (granted .pending requests).length ≤ 3 ∧
      moveAll .pending requests = (granted .pending requests).getLastD .pending ∧
      (moveAll .pending requests = .passed →
        granted .pending requests = [.running, .captured, .passed]) ∧
      granted .pending (granted .pending requests) = granted .pending requests ∧
      moveAll .pending (granted .pending requests) = moveAll .pending requests) ∧
    ∀ (before : List Stage) (r : Stage) (rest : List Stage),
      let s := moveAll .pending before
      (s.allows r = true ↔ ∃ life ∈ lives, granted .pending before ++ [r] <+: life) ∧
      (s.allows r = false → s.move r = s ∧
        answers .pending (before ++ r :: rest) =
          answers .pending before ++ false :: answers s rest ∧
        answers .pending (before ++ rest) = answers .pending before ++ answers s rest ∧
        moveAll .pending (before ++ r :: rest) = moveAll .pending (before ++ rest)) ∧
      (s.isTerminal = true → moveAll .pending (before ++ rest) = s ∧
        answers .pending (before ++ rest) =
          answers .pending before ++ List.replicate rest.length false) := by
  refine ⟨fun requests => ?_, fun before r rest => ⟨?_, fun hr => ?_, fun hend => ?_⟩⟩
  · obtain ⟨life, hlife, hprefix⟩ := exists_life_granted requests
    exact ⟨⟨life, hlife, hprefix⟩, hprefix.length_le.trans (length_le_of_mem_lives life hlife),
      moveAll_eq_getLastD .pending requests, granted_of_passed,
      granted_granted .pending requests, moveAll_granted .pending requests⟩
  · exact allows_moveAll_iff .pending before r
  · have hmove := move_of_not_allows hr
    refine ⟨hmove, ?_, answers_append .pending before rest, ?_⟩
    · rw [answers_append, answers, hr, hmove]
    · rw [moveAll_append, moveAll_append, moveAll_cons, hmove]
  · rw [moveAll_append, moveAll_of_isTerminal hend, answers_append, answers_of_isTerminal hend]
    exact ⟨rfl, rfl⟩

/-- A scenario that is asked to pass before it runs, to run again while it runs, and to move on once
it has failed. -/
theorem granted_follows_life_out_of_order :
    let before : List Stage := [.passed, .running, .running, .captured, .pending]
    let rest : List Stage := [.failed, .passed, .running]
    granted .pending (before ++ rest) = [.running, .captured, .failed] ∧
    (moveAll .pending before).allows .pending = false ∧
    answers .pending (before ++ .pending :: rest) =
      answers .pending before ++ false :: answers (moveAll .pending before) rest ∧
    (moveAll .pending (before ++ rest)).isTerminal = true ∧
    moveAll .pending (before ++ rest ++ before) = .failed ∧
    moveAll .pending (before ++ [.passed]) = .passed ∧
    granted .pending (before ++ [.passed]) = [.running, .captured, .passed] := by
  intro before rest
  obtain ⟨hall, hone⟩ := granted_follows_life
  obtain ⟨-, -, -, hpassed, -⟩ := hall (before ++ [.passed])
  obtain ⟨-, hignored, -⟩ := hone before .pending rest
  obtain ⟨-, -, hended⟩ := hone (before ++ rest) .pending before
  exact ⟨by decide, by decide, (hignored (by decide)).2.1, by decide, (hended (by decide)).1,
    by decide, hpassed (by decide)⟩

end PauseWatch.Stage
