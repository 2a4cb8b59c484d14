import PauseWatch.Launch.Spec
import PauseWatch.Proofs.Text.Words

/-!
# Command lines that a shell reads back

The rules by which a shell cuts a line into words are stated as a relation between a run of
characters and the word that it spells; the reader that goes through a line once finds the words
that these rules give, and finds none where they give none. The quoted form of a word spells that
word, so the line of a launch reads as its program and arguments, and as nothing else.
-/

namespace PauseWatch.Launch

/-- How a run of characters spells a word. -/
inductive Spells : List Char → List Char → Prop where
  /-- No characters spell no characters. -/
  | nil : Spells [] []
  /-- A character without a meaning of its own stands for itself. -/
  | bare {c : Char} {part word : List Char} (isBare : c ∉ [' ', '\x27', '\\'])
      (h : Spells part word) : Spells (c :: part) (c :: word)
  /-- Behind a backslash any character stands for itself. -/
  | escaped (c : Char) {part word : List Char} (h : Spells part word) :
      Spells ('\\' :: c :: part) (c :: word)
  /-- Between single quotes every character stands for itself. -/
  | quoted {run part word : List Char} (isRun : '\x27' ∉ run) (h : Spells part word) :
      Spells ('\x27' :: (run ++ '\x27' :: part)) (run ++ word)

/-- The words of a line, cut where blanks stand outside quotes. -/
abbrev IsLine : List Char → List (List Char) → Prop := Text.Cuts (· == ' ') Spells

/-- Nothing, or a line that starts with a blank. -/
abbrev StartsWithBlank : List Char → Prop := Text.StartsWithGap (· == ' ')

variable {c : Char} {line rest before part word run : List Char} {words more : List (List Char)}

theorem startsWithBlank_cons_iff : StartsWithBlank (c :: rest) ↔ c = ' ' :=
  Text.startsWithGap_cons_iff.trans beq_iff_eq

/-- How a line goes on from within a word. -/
def GoesOn (before line : List Char) (words : List (List Char)) : Prop :=
  ∃ part rest word more, line = part ++ rest ∧ Spells part word ∧ StartsWithBlank rest ∧
    IsLine rest more ∧ words = (before.reverse ++ word) :: more

namespace GoesOn

/-- A word ends where a blank or the end of the line follows. -/
theorem of_isLine (h : IsLine rest more) (hends : StartsWithBlank rest) :
    GoesOn before rest (before.reverse :: more) :=
  ⟨[], rest, [], more, rfl, .nil, hends, h, by rw [List.append_nil]⟩

theorem bare (hc : c ∉ [' ', '\x27', '\\']) (h : GoesOn (c :: before) rest words) :
    GoesOn before (c :: rest) words := by
  obtain ⟨part, rest, word, more, rfl, hspells, hends, hrest, rfl⟩ := h
  exact ⟨c :: part, rest, c :: word, more, rfl, .bare hc hspells, hends, hrest, by simp⟩

theorem escaped (h : GoesOn (c :: before) rest words) :
    GoesOn before ('\\' :: c :: rest) words := by
  obtain ⟨part, rest, word, more, rfl, hspells, hends, hrest, rfl⟩ := h
  exact ⟨'\\' :: c :: part, rest, c :: word, more, rfl, .escaped c hspells, hends, hrest, by simp⟩

theorem quoted (hrun : '\x27' ∉ run) (h : GoesOn (run.reverse ++ before) rest words) :
    GoesOn before ('\x27' :: (run ++ '\x27' :: rest)) words := by
  obtain ⟨part, rest, word, more, rfl, hspells, hends, hrest, rfl⟩ := h
  exact ⟨'\x27' :: (run ++ '\x27' :: part), rest, run ++ word, more, by simp, .quoted hrun hspells,
    hends, hrest, by simp⟩

/-- A word that starts with something else than a blank starts a line. -/
theorem isLine (h : GoesOn [] (c :: rest) words) (hc : c ≠ ' ') : IsLine (c :: rest) words := by
  obtain ⟨part, rest, word, more, hline, hspells, hends, hrest, rfl⟩ := h
  have hne : part ≠ [] := by
    rintro rfl
    rw [List.nil_append] at hline
    rw [← hline] at hends
    exact hc (startsWithBlank_cons_iff.mp hends)
  rw [hline]
  exact hrest.part_append hne hspells hends

end GoesOn

/-- How a line goes on from where a reader stands. -/
def Ahead : Reading → List Char → List (List Char) → Prop
  | .between, line, words => IsLine line words
  | .inWord before, line, words => GoesOn before line words
  | .escaped before, line, words => ∃ c rest, line = c :: rest ∧ GoesOn (c :: before) rest words
  | .quoted before, line, words => ∃ run rest, line = run ++ '\x27' :: rest ∧ '\x27' ∉ run ∧
      GoesOn (run.reverse ++ before) rest words

/-- In front of a word a reader that stands between words reads on as within an empty word. -/
theorem readFrom_between_cons (hc : c ≠ ' ') :
    readFrom .between (c :: rest) = readFrom (.inWord []) (c :: rest) := by
  rw [readFrom, readFrom, if_neg hc, if_neg hc]

/-- Wherever a reader stands, it finds words with which the line goes on. -/
theorem ahead_of_readFrom {state : Reading} (h : readFrom state line = some words) :
    Ahead state line words := by
  induction line generalizing state words with
  | nil =>
    cases state with
    | between =>
      cases h
      exact .nil fun _ hc => (List.not_mem_nil hc).elim
    | inWord before =>
      cases h
      exact .of_isLine (.nil fun _ hc => (List.not_mem_nil hc).elim) Text.startsWithGap_nil
    | escaped before => cases h
    | quoted before => cases h
  | cons c rest ih =>
    have hword {before : List Char} {words : List (List Char)}
        (hread : readFrom (.inWord before) (c :: rest) = some words) :
        GoesOn before (c :: rest) words := by
      rw [readFrom] at hread
      split_ifs at hread with hblank hquote hbackslash
      · subst hblank
        obtain ⟨more, hmore, rfl⟩ := Option.map_eq_some_iff.mp hread
        exact .of_isLine (Text.Cuts.gap_cons (ih hmore) rfl) (startsWithBlank_cons_iff.mpr rfl)
      · subst hquote
        obtain ⟨run, rest, rfl, hrun, hgoes⟩ := ih hread
        exact hgoes.quoted hrun
      · subst hbackslash
        obtain ⟨c, rest, rfl, hgoes⟩ := ih hread
        exact hgoes.escaped
      · exact GoesOn.bare (by simp [hblank, hquote, hbackslash]) (ih hread)
    cases state with
    | between =>
      by_cases hblank : c = ' '
      · subst hblank
        rw [readFrom, if_pos rfl] at h
        exact Text.Cuts.gap_cons (ih h) rfl
      · rw [readFrom_between_cons hblank] at h
        exact (hword h).isLine hblank
    | inWord before => exact hword h
    | escaped before =>
      rw [readFrom] at h
      exact ⟨c, rest, rfl, ih h⟩
    | quoted before =>
      rw [readFrom] at h
      split_ifs at h with hquote
      · exact ⟨[], rest, by rw [hquote, List.nil_append], List.not_mem_nil, ih h⟩
      · obtain ⟨run, rest, rfl, hrun, hgoes⟩ := ih h
        have hrun' : '\x27' ∉ c :: run := by simp [hrun, Ne.symm hquote]
        exact ⟨c :: run, rest, rfl, hrun', by simpa using hgoes⟩

/-- Quoted characters are read as they stand. -/
theorem readFrom_quoted_append (hrun : '\x27' ∉ run) :
    readFrom (.quoted before) (run ++ '\x27' :: rest) =
      readFrom (.inWord (run.reverse ++ before)) rest := by
  induction run generalizing before with
  | nil => rw [List.nil_append, readFrom, if_pos rfl, List.reverse_nil, List.nil_append]
  | cons c run ih =>
    rw [List.mem_cons, not_or] at hrun
    rw [List.cons_append, readFrom, if_neg (Ne.symm hrun.1), ih hrun.2, List.reverse_cons,
      List.append_assoc, List.singleton_append]

/-- What spells some characters is read as these characters. -/
theorem Spells.readFrom_append (h : Spells part word) (before rest : List Char) :
    readFrom (.inWord before) (part ++ rest) =
      readFrom (.inWord (word.reverse ++ before)) rest := by
  induction h generalizing before with
  | nil => rfl
  | @bare c part word isBare _ ih =>
    simp only [List.mem_cons, List.not_mem_nil, or_false, not_or] at isBare
    obtain ⟨hblank, hquote, hbackslash⟩ := isBare
    rw [List.cons_append, readFrom, if_neg hblank, if_neg hquote, if_neg hbackslash, ih,
      List.reverse_cons, List.append_assoc, List.singleton_append]
  | @escaped c part word _ ih =>
    rw [List.cons_append, readFrom, if_neg (by decide), if_neg (by decide), if_pos rfl,
      List.cons_append, readFrom, ih, List.reverse_cons, List.append_assoc, List.singleton_append]
  | @quoted run part word isRun _ ih =>
    rw [List.cons_append, readFrom, if_neg (by decide), if_pos rfl, List.append_assoc,
      List.cons_append, readFrom_quoted_append isRun, ih, List.reverse_append, List.append_assoc]

/-- No word is spelled with a blank in front. -/
theorem Spells.head_ne (h : Spells (c :: part) word) : c ≠ ' ' := by
  cases h with
  | bare isBare _ => exact fun hc => isBare (hc ▸ List.mem_cons_self)
  | escaped => decide
  | quoted => decide

/-- The words of a line are read. -/
theorem IsLine.readWords_eq (h : IsLine line words) : readWords line = some words := by
  have hgap {gap line : List Char} (hgap : ∀ c ∈ gap, (c == ' ') = true) :
      readWords (gap ++ line) = readWords line := by
    induction gap with
    | nil => rfl
    | cons c gap ih =>
      obtain ⟨hc, hgap⟩ := List.forall_mem_cons.mp hgap
      rw [← ih hgap, List.cons_append, readWords, readFrom, if_pos (beq_iff_eq.mp hc), readWords]
  induction h with
  | @nil gap areGaps =>
    have hread : readWords (gap ++ []) = some [] := hgap areGaps
    rwa [List.append_nil] at hread
  | @cons gap part rest word words areGaps ne_nil isWord ends _ ih =>
    obtain ⟨c, part, rfl⟩ := List.exists_cons_of_ne_nil ne_nil
    rw [List.append_assoc, hgap areGaps, readWords, List.cons_append,
      readFrom_between_cons isWord.head_ne, ← List.cons_append, isWord.readFrom_append,
      List.append_nil]
    cases rest with
    | nil =>
      cases ih
      rw [readFrom, List.reverse_reverse]
    | cons c rest =>
      obtain rfl := startsWithBlank_cons_iff.mp ends
      rw [readWords, readFrom, if_pos rfl] at ih
      rw [readFrom, if_pos rfl, ih, List.reverse_reverse, Option.map_some]

/-- A line reads as the words that the rules of the shell give. -/
theorem readWords_eq_some_iff : readWords line = some words ↔ IsLine line words :=
  ⟨ahead_of_readFrom, IsLine.readWords_eq⟩

/-- A character that needs no quotes has no meaning to the shell. -/
theorem isBare_of_isPlain (h : isPlain c = true) : c ∉ [' ', '\x27', '\\'] := by
  intro hc
  simp only [List.mem_cons, List.not_mem_nil, or_false] at hc
  rcases hc with rfl | rfl | rfl <;> revert h <;> decide

/-- How a run of characters guards a word: outside quotes stand harmless characters and, behind a
backslash, any character that does not end a line. -/
inductive Guards : List Char → List Char → Prop where
  | nil : Guards [] []
  | plain {c : Char} {part word : List Char} (harmless : isPlain c = true)
      (h : Guards part word) : Guards (c :: part) (c :: word)
  | escaped {c : Char} {part word : List Char} (inLine : c ≠ '\n') (h : Guards part word) :
      Guards ('\\' :: c :: part) (c :: word)
  | quoted {run part word : List Char} (isRun : '\x27' ∉ run) (h : Guards part word) :
      Guards ('\x27' :: (run ++ '\x27' :: part)) (run ++ word)

theorem Guards.spells (h : Guards part word) : Spells part word := by
  induction h with
  | nil => exact .nil
  | plain harmless _ ih => exact .bare (isBare_of_isPlain harmless) ih
  | escaped _ _ ih => exact .escaped _ ih
  | quoted isRun _ ih => exact .quoted isRun ih

/-- Characters that need no quotes guard themselves. -/
theorem guards_of_isPlain (h : ∀ c ∈ word, isPlain c = true) : Guards word word := by
  induction word with
  | nil => exact .nil
  | cons c word ih =>
    obtain ⟨hc, hword⟩ := List.forall_mem_cons.mp h
    exact .plain hc (ih hword)

/-- Within quotes, behind characters that stand there already, a word is guarded by its quoted
characters. -/
theorem guards_quoted (word : List Char) (hrun : '\x27' ∉ run) :
    Guards ('\x27' :: (run ++ (word.flatMap quoteChar ++ ['\x27']))) (run ++ word) := by
  induction word generalizing run with
  | nil => exact .quoted hrun .nil
  | cons c word ih =>
    rw [List.flatMap_cons]
    by_cases hc : c = '\x27' ∨ c = '!'
    · rw [quoteChar, if_pos hc]
      have hline : c ≠ '\n' := by
        rcases hc with rfl | rfl <;> decide
      exact .quoted hrun (.escaped hline (ih List.not_mem_nil))
    · have hrun' : '\x27' ∉ run ++ [c] := by
        rw [not_or] at hc
        simp [hrun, Ne.symm hc.1]
      have hquoted := ih hrun'
      rw [quoteChar, if_neg hc]
      simpa only [List.append_assoc, List.cons_append, List.nil_append] using hquoted

/-- A quoted word guards the word. -/
theorem guards_quoteWord (word : List Char) : Guards (quoteWord word) word := by
  rw [quoteWord]
  split_ifs with h
  · exact guards_of_isPlain (List.all_eq_true.mp h.2)
  · exact guards_quoted word List.not_mem_nil

/-- A quoted word spells the word. -/
theorem spells_quoteWord (word : List Char) : Spells (quoteWord word) word :=
  (guards_quoteWord word).spells

/-- A quoted word is there, even if the word is empty. -/
theorem quoteWord_ne_nil (word : List Char) : quoteWord word ≠ [] := by
  rw [quoteWord]
  split_ifs with h
  · exact h.1
  · exact List.cons_ne_nil _ _

/-- Quoted words make a line of these words. -/
theorem isLine_quoteWords (words : List (List Char)) : IsLine (quoteWords words) words := by
  have hlast (word : List Char) {rest : List Char} {more : List (List Char)}
      (h : IsLine rest more) (hends : StartsWithBlank rest) :
      IsLine (quoteWord word ++ rest) (word :: more) :=
    h.part_append (quoteWord_ne_nil word) (spells_quoteWord word) hends
  induction words with
  | nil => exact .nil fun _ hc => (List.not_mem_nil hc).elim
  | cons word more ih =>
    cases more with
    | nil =>
      have h := hlast word ih Text.startsWithGap_nil
      simpa [quoteWords] using h
    | cons next more =>
      exact hlast word (ih.gap_cons rfl) (startsWithBlank_cons_iff.mpr rfl)

end PauseWatch.Launch

namespace PauseWatch.LaunchSpec

open Launch

/-- The words of a launch are its program and its arguments. The rules of the shell cut the line of
a launch into these, whatever texts they are, and into nothing else; so a reader finds them, and
launches with one line have the same program and arguments. -/
theorem command_reads (spec : LaunchSpec) :
    spec.argv = spec.program :: spec.args ∧
    (∀ words, IsLine spec.command.toList words ↔
      words = (spec.program :: spec.args).map String.toList) ∧
    readWords spec.command.toList = some ((spec.program :: spec.args).map String.toList) ∧
    ∀ other : LaunchSpec, (other.command = spec.command ↔ other.argv = spec.argv) ∧
      (other.command = spec.command ↔ other.program = spec.program ∧ other.args = spec.args) := by
  have hread (spec : LaunchSpec) :
      readWords spec.command.toList = some ((spec.program :: spec.args).map String.toList) := by
    rw [readWords_eq_some_iff, command, String.toList_ofList]
    exact isLine_quoteWords _
  have hargv (other : LaunchSpec) : other.command = spec.command ↔ other.argv = spec.argv := by
    refine ⟨fun h => ?_, fun h => by rw [command, command, h]⟩
    have hwords : other.argv.map String.toList = spec.argv.map String.toList := by
      rw [argv, argv, ← Option.some.injEq, ← hread, ← hread, h]
    exact List.map_injective_iff.mpr (fun _ _ => String.toList_inj.mp) hwords
  refine ⟨rfl, fun words => ?_, hread spec, fun other => ⟨hargv other, ?_⟩⟩
  · rw [← readWords_eq_some_iff, hread, Option.some.injEq, eq_comm]
  · rw [hargv, argv, argv, List.cons.injEq]

/-- A quote, an exclamation mark, an empty argument and a blank. -/
example : command { program := "sh", args := ["it's!", "", "a b"] } =
    "sh 'it'\\''s'\\!'' '' 'a b'" := by decide

end PauseWatch.LaunchSpec
