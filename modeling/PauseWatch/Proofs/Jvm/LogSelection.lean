import PauseWatch.Jvm.LogSelection
import PauseWatch.Proofs.Text.Pieces

/-!
# Selections with several selectors

A selection switches the collector's log on exactly if one of its selectors does, so neither their
order nor what else is selected matters, and a selection never switches the log off that a part of
it switches on. The word that switches all logs off is no selector, and what follows the selection
behind another colon is about the output.
-/

namespace PauseWatch.Jvm

open Text

variable {rest selection : List Char} {selectors : List (List Char)}

/-- What can follow a selection: nothing, or a colon and anything behind it. -/
def EndsSelection (rest : List Char) : Prop := rest = [] ∨ ∃ more, rest = ':' :: more

/-- Several selectors in one selection. -/
def joined (selectors : List (List Char)) : List Char := [','].intercalate selectors

/-- A selection switches the log on exactly if one of its selectors does: the word that switches all
logs off has no such selector. -/
theorem selectionEnablesGc_eq (selection : List Char) :
    selectionEnablesGc selection = (pieces (· == ',') selection).any selectsGc := by
  rw [selectionEnablesGc]
  split
  · next h =>
    subst h
    decide
  · rfl

/-- The selection goes up to the next colon. -/
theorem takeWhile_selection (hs : ':' ∉ selection) (hr : EndsSelection rest) :
    (selection ++ rest).takeWhile (· != ':') = selection := by
  have hrest : rest.takeWhile (· != ':') = [] := by
    rcases hr with rfl | ⟨more, rfl⟩
    · rfl
    · exact List.takeWhile_cons_of_neg (by decide)
  have hselection : ∀ c ∈ selection, (c != ':') = true := fun c hc =>
    bne_iff_ne.mpr (ne_of_mem_of_not_mem hc hs)
  rw [List.takeWhile_append_of_pos hselection, hrest, List.append_nil]

/-- What follows the selection does not matter. -/
theorem enablesGcLog_append (hs : ':' ∉ selection) (hr : EndsSelection rest) :
    enablesGcLog (':' :: (selection ++ rest)) = (pieces (· == ',') selection).any selectsGc := by
  rw [enablesGcLog, if_pos rfl, takeWhile_selection hs hr, selectionEnablesGc_eq]

theorem enablesGcLog_selection (hs : ':' ∉ selection) :
    enablesGcLog (':' :: selection) = (pieces (· == ',') selection).any selectsGc := by
  have h := enablesGcLog_append hs (Or.inl rfl : EndsSelection [])
  rwa [List.append_nil] at h

/-- The selectors of a joined selection are those of its parts. -/
theorem any_pieces_joined (selectors : List (List Char)) :
    (pieces (· == ',') (joined selectors)).any selectsGc =
      selectors.any fun s => (pieces (· == ',') s).any selectsGc := by
  cases selectors with
  | nil => decide
  | cons first more =>
    rw [joined, pieces_intercalate ',' (List.cons_ne_nil first more), List.any_flatMap]

theorem not_mem_joined (h : ∀ s ∈ selectors, ':' ∉ s) : ':' ∉ joined selectors := by
  induction selectors with
  | nil => exact List.not_mem_nil
  | cons first more ih =>
    obtain ⟨hfirst, hmore⟩ := List.forall_mem_cons.mp h
    cases more with
    | nil => rwa [joined, List.intercalate_singleton]
    | cons second others =>
      rw [joined, List.intercalate_cons_cons, List.append_assoc, List.mem_append, List.mem_append]
      rintro (hc | hc | hc)
      · exact hfirst hc
      · exact absurd hc (by decide)
      · exact ih hmore hc

/-- A selection switches the log on exactly if one of the selections does of which it is joined. -/
theorem enablesGcLog_joined_append (h : ∀ s ∈ selectors, ':' ∉ s) (hr : EndsSelection rest) :
    enablesGcLog (':' :: (joined selectors ++ rest)) = true ↔
      ∃ s ∈ selectors, enablesGcLog (':' :: s) = true := by
  rw [enablesGcLog_append (not_mem_joined h) hr, any_pieces_joined, List.any_eq_true]
  refine exists_congr fun s => and_congr_right fun hs => ?_
  rw [enablesGcLog_selection (h s hs)]

/-- Two selections joined by a comma switch the log on exactly if one of them does. -/
theorem enablesGcLog_append_comma {a b : List Char} (ha : ':' ∉ a) (hb : ':' ∉ b)
    (hr : EndsSelection rest) :
    enablesGcLog (':' :: (a ++ ',' :: (b ++ rest))) =
      (enablesGcLog (':' :: a) || enablesGcLog (':' :: b)) := by
  have hboth : ':' ∉ a ++ ',' :: b := by simp [ha, hb]
  have hassoc : a ++ ',' :: (b ++ rest) = (a ++ ',' :: b) ++ rest := by
    rw [List.append_assoc, List.cons_append]
  rw [hassoc, enablesGcLog_append hboth hr, pieces_append_separator, List.any_append,
    enablesGcLog_selection ha, enablesGcLog_selection hb]

/-- What several selectors switch on. Two selections joined by a comma, and whatever follows them
behind a colon, switch the collector's log on exactly if one of them does; so any selectors among
more of them, in any order and with anything behind them, switch it on where they do by themselves.
The word that switches all logs off needs no rule of its own. -/
theorem enablesGcLog_joins :
    (∀ a b rest : List Char, ':' ∉ a → ':' ∉ b → EndsSelection rest →
      enablesGcLog (':' :: (a ++ ',' :: (b ++ rest))) =
        (enablesGcLog (':' :: a) || enablesGcLog (':' :: b))) ∧
    (∀ (fewer more : List (List Char)) (rest rest' : List Char), fewer ⊆ more →
      (∀ s ∈ more, ':' ∉ s) → EndsSelection rest → EndsSelection rest' →
      enablesGcLog (':' :: (joined fewer ++ rest)) = true →
        enablesGcLog (':' :: (joined more ++ rest')) = true) ∧
    ∀ selection rest : List Char, ':' ∉ selection → EndsSelection rest →
      enablesGcLog (':' :: (selection ++ rest)) = (pieces (· == ',') selection).any selectsGc := by
  refine ⟨fun a b rest => enablesGcLog_append_comma,
    fun fewer more rest rest' hsub hmore hr hr' hon => ?_,
    fun selection rest => enablesGcLog_append⟩
  have hfewer : ∀ s ∈ fewer, ':' ∉ s := fun s hs => hmore s (hsub hs)
  obtain ⟨s, hs, hon⟩ := (enablesGcLog_joined_append hfewer hr).mp hon
  exact (enablesGcLog_joined_append hmore hr').mpr ⟨s, hsub hs, hon⟩

/-- The word that switches all logs off does so by itself, but not as one selector of several, where
another one selects the collector at a level and in front of an output. -/
theorem enablesGcLog_joins_disable :
    let off := "disable".toList
    let debug := "gc=debug".toList
    let output := ":stderr:uptime".toList
    enablesGcLog (':' :: (off ++ output)) = false ∧
    enablesGcLog (':' :: (off ++ ',' :: (debug ++ output))) = true ∧
    enablesGcLog (':' :: (joined [debug, [], off] ++ output)) = true := by
  intro off debug output
  obtain ⟨hcomma, hmore, hrule⟩ := enablesGcLog_joins
  have houtput : EndsSelection output := Or.inr ⟨"stderr:uptime".toList, rfl⟩
  have hdebug : enablesGcLog (':' :: (joined [debug] ++ [])) = true := by decide
  refine ⟨?_, ?_, ?_⟩
  · rw [hrule off output (by decide) houtput]
    decide
  · rw [hcomma off debug output (by decide) (by decide) houtput]
    decide
  · exact hmore [debug] [debug, [], off] [] output (by decide) (by decide) (Or.inl rfl) houtput
      hdebug

end PauseWatch.Jvm
