import PauseWatch.Proofs.Shell.Nesting
import PauseWatch.Shell.Process

/-!
# Expanding guarded words

Nothing in a guarded word is expanded, cut or taken for a pattern: its marks are its own characters,
and those that could mean something in a pattern are quoted. So it expands to one field, the word,
in every state of the shell and without asking the host for anything.
-/

namespace PauseWatch.Shell

open Launch (Guards quoteWord isPlain)

variable {α β : Type} {s : State}

instance : LawfulMonad Host.Work :=
  LawfulMonad.mk' Host.Work (fun _ => rfl) (fun _ _ => rfl) (fun _ _ _ => rfl)

instance : LawfulMonad Act :=
  inferInstanceAs (LawfulMonad (ExceptT Leave (StateT State Host.Work)))

/-- That something a shell does brings a result, asks the host for nothing and changes nothing. -/
def Brings (s : State) (act : Act α) (a : α) : Prop := act.run.run s = pure (.ok a, s)

theorem brings_pure {a : α} : Brings s (pure a) a := rfl

theorem brings_get : Brings s get s := rfl

theorem Brings.bind {act : Act α} {f : α → Act β} {a : α} {b : β} (h : Brings s act a)
    (hf : Brings s (f a) b) : Brings s (act >>= f) b := by
  rw [Brings, ExceptT.run_bind, StateT.run_bind, h]
  exact hf

/-- What brings the same result in every state is nothing but the result. -/
theorem eq_pure_of_brings {act : Act α} {a : α} (h : ∀ s, Brings s act a) : act = pure a :=
  funext h

theorem brings_mapM {f : α → Act β} {g : α → β} {as : List α}
    (h : ∀ a ∈ as, Brings s (f a) (g a)) : Brings s (as.mapM f) (as.map g) := by
  induction as with
  | nil => exact brings_pure
  | cons a as ih =>
    rw [List.forall_mem_cons] at h
    rw [List.mapM_cons]
    exact h.1.bind ((ih h.2).bind brings_pure)

/-- That marks show a word: they hold its characters, and those that may mean something in a pattern
are harmless. -/
inductive Shows : List Mark → List Char → Prop where
  | nil : Shows [] []
  | plain {c : Char} {marks : List Mark} {word : List Char} (harmless : isPlain c = true)
      (h : Shows marks word) : Shows (.plain c :: marks) (c :: word)
  | quoted {c : Char} {marks : List Mark} {word : List Char} (h : Shows marks word) :
      Shows (.quoted c :: marks) (c :: word)
  | keep {marks : List Mark} {word : List Char} (h : Shows marks word) : Shows (.keep :: marks) word

variable {part word run : List Char} {marks : List Mark} {substitute : Substitute}

theorem Shows.append_quoted (h : Shows marks word) :
    Shows (run.map .quoted ++ marks) (run ++ word) := by
  induction run with
  | nil => exact h
  | cons c run ih => exact .quoted ih

variable {fuel : Nat} {c : Char}

/-- A harmless character brings itself. -/
theorem Brings.plain (harmless : isPlain c = true)
    (h : Brings s (expandChars substitute fuel .bare part) marks) :
    Brings s (expandChars substitute (fuel + 1) .bare (c :: part)) (.plain c :: marks) := by
  have hbackslash := ne_of_isPlain harmless (show isPlain '\\' = false by decide)
  have hdollar := ne_of_isPlain harmless (show isPlain '$' = false by decide)
  have hquote := ne_of_isPlain harmless (show isPlain '\x27' = false by decide)
  have hdouble := ne_of_isPlain harmless (show isPlain '"' = false by decide)
  rw [expandChars.eq_9 _ _ _ _ _ (fun _ hc _ => hbackslash hc) (fun _ _ hc _ => hbackslash hc)
    (fun _ hc _ => hdollar hc) (fun _ hc _ => hdollar hc) (fun _ hc _ => hdollar hc)
    (fun _ _ hc _ => hdollar hc), if_neg (Nest.toNat_ne_of_isPlain harmless),
    if_neg (by simp [hquote]), if_neg (by simp [hdouble])]
  exact h.bind brings_pure

/-- A character behind a backslash brings itself, quoted. -/
theorem Brings.escaped (inLine : c ≠ '\n')
    (h : Brings s (expandChars substitute fuel .bare part) marks) :
    Brings s (expandChars substitute (fuel + 1) .bare ('\\' :: c :: part))
      (.quoted c :: marks) := by
  rw [expandChars.eq_4 _ _ _ _ _ inLine, if_pos rfl]
  exact h.bind brings_pure

/-- What stands between single quotes brings itself, quoted. -/
theorem Brings.quoted (isRun : '\x27' ∉ run)
    (h : Brings s (expandChars substitute fuel .bare part) marks) :
    Brings s (expandChars substitute (fuel + 1) .bare ('\x27' :: (run ++ '\x27' :: part)))
      (.keep :: (run.map .quoted ++ marks)) := by
  rw [expandChars.eq_9 _ _ _ _ _ (fun _ hc _ => absurd hc (by decide))
    (fun _ _ hc _ => absurd hc (by decide)) (fun _ hc _ => absurd hc (by decide))
    (fun _ hc _ => absurd hc (by decide)) (fun _ hc _ => absurd hc (by decide))
    (fun _ _ hc _ => absurd hc (by decide)), if_neg (by decide), if_pos (by decide)]
  simp only [Nest.inside_single isRun]
  exact brings_pure.bind (h.bind brings_pure)

/-- A guarded word brings marks that show the word. -/
theorem exists_brings_expandChars (s : State) (substitute : Substitute) (h : Guards part word) :
    ∃ marks, Shows marks word ∧ (part ≠ [] → marks ≠ []) ∧
      ∀ fuel, part.length < fuel → Brings s (expandChars substitute fuel .bare part) marks := by
  induction h with
  | nil =>
    refine ⟨[], .nil, fun h => absurd rfl h, fun fuel hfuel => ?_⟩
    obtain ⟨fuel, rfl⟩ := Nat.exists_eq_add_one.mpr hfuel
    exact brings_pure
  | @plain c part word harmless _ ih =>
    obtain ⟨marks, hshows, -, hbrings⟩ := ih
    refine ⟨.plain c :: marks, .plain harmless hshows, fun _ => List.cons_ne_nil _ _,
      fun fuel hfuel => ?_⟩
    obtain ⟨fuel, rfl⟩ := Nat.exists_eq_add_one.mpr (Nat.zero_lt_of_lt hfuel)
    rw [List.length_cons] at hfuel
    exact (hbrings fuel (by omega)).plain harmless
  | @escaped c part word inLine _ ih =>
    obtain ⟨marks, hshows, -, hbrings⟩ := ih
    refine ⟨.quoted c :: marks, .quoted hshows, fun _ => List.cons_ne_nil _ _,
      fun fuel hfuel => ?_⟩
    obtain ⟨fuel, rfl⟩ := Nat.exists_eq_add_one.mpr (Nat.zero_lt_of_lt hfuel)
    rw [List.length_cons, List.length_cons] at hfuel
    exact (hbrings fuel (by omega)).escaped inLine
  | @quoted run part word isRun _ ih =>
    obtain ⟨marks, hshows, -, hbrings⟩ := ih
    refine ⟨.keep :: (run.map .quoted ++ marks), .keep hshows.append_quoted,
      fun _ => List.cons_ne_nil _ _, fun fuel hfuel => ?_⟩
    obtain ⟨fuel, rfl⟩ := Nat.exists_eq_add_one.mpr (Nat.zero_lt_of_lt hfuel)
    rw [List.length_cons, List.length_append, List.length_cons] at hfuel
    exact (hbrings fuel (by omega)).quoted isRun

/-- No tilde stands in front of a guarded word. -/
theorem exists_brings_expandMarks (s : State) (substitute : Substitute) (h : Guards part word)
    (hne : part ≠ []) :
    ∃ marks, Shows marks word ∧ marks ≠ [] ∧
      Brings s (expandMarks substitute .bare (String.ofList part)) marks := by
  obtain ⟨marks, hshows, hmarks, hbrings⟩ := exists_brings_expandChars s substitute h
  refine ⟨marks, hshows, hmarks hne, brings_get.bind ?_⟩
  rw [String.toList_ofList]
  split
  next =>
    rcases head_of_guards h with hplain | hc | hc
    · exact absurd hplain (by decide)
    · exact absurd hc (by decide)
    · exact absurd hc (by decide)
  next => exact hbrings _ (Nat.lt_succ_self _)

/-- The marks of a field that are characters. -/
def held (marks : List Mark) : List Mark := marks.filter (· != .keep)

theorem Mark.Cutting.add_add (c : Mark.Cutting) (before after : List Mark) :
    (c.add before).add after = c.add (after ++ before) := by
  simp [Mark.Cutting.add]

/-- Marks that show a word are added to the field that was begun. -/
theorem Shows.foldl_take (h : Shows marks word) (hne : marks ≠ []) (separators : List Char)
    (c : Mark.Cutting) :
    marks.foldl (Mark.Cutting.take separators) c = c.add (held marks).reverse := by
  have hmore {m : Mark} {marks : List Mark} {c : Mark.Cutting}
      (htake : Mark.Cutting.take separators c m = c.add (held [m]))
      (ih : marks ≠ [] → ∀ c, marks.foldl (Mark.Cutting.take separators) c =
        c.add (held marks).reverse) :
      (m :: marks).foldl (Mark.Cutting.take separators) c =
        c.add (held (m :: marks)).reverse := by
    rw [List.foldl_cons, htake]
    cases marks with
    | nil => cases m <;> rfl
    | cons next marks =>
      rw [ih (List.cons_ne_nil _ _), Mark.Cutting.add_add]
      cases m <;> simp [held]
  induction h generalizing c with
  | nil => exact absurd rfl hne
  | plain _ _ ih => exact hmore rfl ih
  | quoted _ ih => exact hmore rfl ih
  | keep _ ih => exact hmore rfl ih

theorem Shows.fields_eq (h : Shows marks word) (hne : marks ≠ []) (separators : List Char) :
    Mark.fields separators marks = [held marks] := by
  rw [Mark.fields, h.foldl_take hne]
  simp [Mark.Cutting.add, Mark.Cutting.finish]

theorem Shows.text_eq (h : Shows marks word) : Mark.text (held marks) = String.ofList word := by
  rw [Mark.text, String.ofList_inj]
  induction h with
  | nil => rfl
  | plain _ _ ih => simpa [held, Mark.char?] using ih
  | quoted _ ih => simpa [held, Mark.char?] using ih
  | keep _ ih => simpa [held] using ih

/-- Harmless characters and those that mean nothing make no pattern. -/
theorem isOpen_ofChars {chars : List (Char × Bool)}
    (h : ∀ p ∈ chars, p.2 = true → isPlain p.1 = true) (fuel : Nat) :
    Atom.isOpen (Atom.ofChars fuel chars) = false := by
  fun_induction Atom.ofChars fuel chars with
  | case1 => rfl
  | case2 => rfl
  | case3 => exact absurd (h _ List.mem_cons_self rfl) (by decide)
  | case4 => exact absurd (h _ List.mem_cons_self rfl) (by decide)
  | case5 => exact absurd (h _ List.mem_cons_self rfl) (by decide)
  | case6 => exact absurd (h _ List.mem_cons_self rfl) (by decide)
  | case7 _ _ _ _ _ _ _ ih => simpa [Atom.isOpen] using ih (List.forall_mem_cons.mp h).2

theorem Shows.isOpen_eq_false (h : Shows marks word) :
    Atom.isOpen (Mark.pattern (held marks)) = false := by
  refine isOpen_ofChars ?_ _
  induction h with
  | nil => simp [held]
  | plain harmless _ ih => simpa [held, Mark.char?, harmless] using ih
  | quoted _ ih => simpa [held, Mark.char?] using ih
  | keep _ ih => simpa [held] using ih

theorem Shows.brings_expandNames (h : Shows marks word) :
    Brings s (expandNames (held marks)) [String.ofList word] := by
  refine brings_get.bind ?_
  rw [if_pos (by simp [h.isOpen_eq_false]), h.text_eq]
  exact brings_pure

/-- A guarded word expands to the word. -/
theorem brings_expandWord (h : Guards part word) (hne : part ≠ []) :
    Brings s (expandWord substitute (String.ofList part)) [String.ofList word] := by
  obtain ⟨marks, hshows, hmarks, hbrings⟩ := exists_brings_expandMarks s substitute h hne
  refine hbrings.bind (brings_get.bind ?_)
  rw [hshows.fields_eq hmarks]
  have hnames : Brings s ([held marks].mapM expandNames) [[String.ofList word]] :=
    brings_mapM (g := fun _ => [String.ofList word]) (by simpa using hshows.brings_expandNames)
  exact hnames.bind brings_pure

/-- Words that stand as on the line of a launch expand to themselves. -/
theorem brings_expandWords (words : List (List Char)) :
    Brings s (expandWords substitute (words.map quotedWord)) (words.map String.ofList) := by
  have hwords : Brings s (words.mapM fun word => expandWord substitute (quotedWord word))
      (words.map fun word => [String.ofList word]) :=
    brings_mapM fun word _ =>
      brings_expandWord (Launch.guards_quoteWord word) (Launch.quoteWord_ne_nil word)
  have hflat : (words.map fun word => [String.ofList word]).flatten = words.map String.ofList := by
    rw [← List.flatMap_def, List.map_eq_flatMap]
  rw [expandWords, List.mapM_map, ← hflat]
  exact hwords.bind brings_pure

end PauseWatch.Shell
