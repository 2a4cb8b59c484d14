import PauseWatch.Proofs.Launch.Quoting
import PauseWatch.Shell.Command
import PauseWatch.Shell.Nesting

/-!
# The nesting of guarded words

A guarded word opens nothing but single quotes and closes them again, and nothing else in it means
anything to the scan that finds where a word ends or where quotes are closed.
-/

namespace PauseWatch.Shell

open Launch (Guards StartsWithBlank quoteWord isPlain)

variable {rest part word : List Char}

/-- A word as it stands on the line of a launch. -/
def quotedWord (word : List Char) : Word := String.ofList (quoteWord word)

/-- A harmless character is none of those that are not. -/
theorem ne_of_isPlain {c d : Char} (hc : isPlain c = true) (hd : isPlain d = false) : c ≠ d := by
  rintro rfl
  rw [hc] at hd
  cases hd

/-- What a guarded word starts with. -/
theorem head_of_guards {c : Char} (h : Guards (c :: part) word) :
    isPlain c = true ∨ c = '\\' ∨ c = '\x27' := by
  cases h with
  | plain harmless _ => exact .inl harmless
  | escaped => exact .inr (.inl rfl)
  | quoted => exact .inr (.inr rfl)

namespace Nest

variable {stack stack' : List Nest} {taken : List Char} {c d : Char}

/-- A character that the nesting takes alone joins the word. -/
theorem word_cons_of_step_one (hbreak : ¬ (stack = [] ∧ isBreak c = true))
    (hstep : step stack c rest.head? = (stack', 1)) :
    Nest.word taken stack (c :: rest) = Nest.word (c :: taken) stack' rest := by
  cases rest with
  | nil =>
    rw [List.head?_nil] at hstep
    cases stack' <;> simp [Nest.word, hstep, hbreak]
  | cons d rest =>
    rw [List.head?_cons] at hstep
    simp [Nest.word, hstep, hbreak]

/-- Two characters that the nesting takes together join the word. -/
theorem word_cons_of_step_two (hbreak : ¬ (stack = [] ∧ isBreak c = true))
    (hstep : step stack c (some d) = (stack', 2)) :
    Nest.word taken stack (c :: d :: rest) = Nest.word (d :: c :: taken) stack' rest := by
  simp [Nest.word, hstep, hbreak]

/-- Between single quotes every character but the closing quote is taken as it stands. -/
theorem step_single (hc : c ≠ '\x27') (next : Option Char) :
    step [.single] c next = ([.single], 1) := by
  simp [step, hc]

/-- Characters between single quotes join the word, and the quotes around them. -/
theorem word_single (hrun : '\x27' ∉ word) :
    Nest.word taken [.single] (word ++ '\x27' :: rest) =
      Nest.word ('\x27' :: (word.reverse ++ taken)) [] rest := by
  induction word generalizing taken with
  | nil => exact word_cons_of_step_one (by simp) (by simp [step])
  | cons c word ih =>
    rw [List.mem_cons, not_or] at hrun
    have hstep := step_single (Ne.symm hrun.1) (word ++ '\x27' :: rest).head?
    rw [List.cons_append, word_cons_of_step_one (by simp) hstep, ih hrun.2, List.reverse_cons,
      List.append_assoc, List.singleton_append]

theorem toNat_ne_of_isPlain (h : isPlain c = true) : c.toNat ≠ 0x60 := fun hc =>
  ne_of_isPlain h (show isPlain '\x60' = false by decide) (Char.toNat_inj.mp hc)

/-- A harmless character neither ends a word nor opens anything. -/
theorem step_of_isPlain (h : isPlain c = true) (next : Option Char) :
    isBreak c = false ∧ step [] c next = ([], 1) := by
  constructor
  · rw [isBreak, decide_eq_false_iff_not]
    intro hc
    simp only [List.mem_cons, List.not_mem_nil, or_false] at hc
    rcases hc with rfl | rfl | rfl | rfl | rfl | rfl | rfl | rfl | rfl | rfl <;>
      exact ne_of_isPlain h (by decide) rfl
  · simp [step, isQuoted, toNat_ne_of_isPlain h,
      ne_of_isPlain h (show isPlain '\\' = false by decide),
      ne_of_isPlain h (show isPlain '\x27' = false by decide),
      ne_of_isPlain h (show isPlain '"' = false by decide),
      ne_of_isPlain h (show isPlain '$' = false by decide)]

/-- A guarded word is taken as a whole. -/
theorem word_guards (h : Guards part word) (hends : StartsWithBlank rest) :
    Nest.word taken [] (part ++ rest) = .ok (taken.reverse ++ part, rest) := by
  induction h generalizing taken with
  | nil =>
    rw [List.nil_append, List.append_nil]
    cases rest with
    | nil => rfl
    | cons c rest =>
      obtain rfl := Launch.startsWithBlank_cons_iff.mp hends
      cases rest <;> simp [Nest.word, isBreak]
  | @plain c part word harmless _ ih =>
    obtain ⟨hbreak, hstep⟩ := step_of_isPlain harmless (part ++ rest).head?
    rw [List.cons_append, word_cons_of_step_one (by simp [hbreak]) hstep, ih]
    simp
  | @escaped c part word _ _ ih =>
    have hstep : step [] '\\' (some c) = ([], 2) := by simp [step]
    rw [List.cons_append, List.cons_append, word_cons_of_step_two (by simp [isBreak]) hstep, ih]
    simp
  | @quoted run part word isRun _ ih =>
    have hstep : step [] '\x27' (run ++ '\x27' :: (part ++ rest)).head? = ([.single], 1) := by
      simp [step, isQuoted]
    rw [List.cons_append, List.append_assoc, List.cons_append,
      word_cons_of_step_one (by simp [isBreak]) hstep, word_single isRun, ih]
    simp

/-- A character that the nesting takes alone is taken on the way to the end of the nesting. -/
theorem close_cons_of_step_one {nest : Nest}
    (hstep : step (nest :: stack) c rest.head? = (stack', 1)) :
    close taken (nest :: stack) (c :: rest) = close (c :: taken) stack' rest := by
  cases rest with
  | nil =>
    rw [List.head?_nil] at hstep
    cases stack' <;> simp [close, hstep]
  | cons d rest =>
    rw [List.head?_cons] at hstep
    simp [close, hstep]

theorem close_single (hrun : '\x27' ∉ word) :
    close taken [.single] (word ++ '\x27' :: rest) =
      .ok (taken.reverse ++ word ++ ['\x27'], rest) := by
  induction word generalizing taken with
  | nil =>
    have hstep : step [.single] '\x27' rest.head? = ([], 1) := by simp [step]
    rw [List.nil_append, close_cons_of_step_one hstep, close]
    simp
  | cons c word ih =>
    rw [List.mem_cons, not_or] at hrun
    have hstep := step_single (Ne.symm hrun.1) (word ++ '\x27' :: rest).head?
    rw [List.cons_append, close_cons_of_step_one hstep, ih hrun.2]
    simp

/-- What stands inside single quotes is found. -/
theorem inside_single (hrun : '\x27' ∉ word) :
    inside .single (word ++ '\x27' :: rest) = .ok (word, rest) := by
  rw [inside, close_single hrun]
  simp [bind, Except.bind, pure, Except.pure]

end Nest

end PauseWatch.Shell
