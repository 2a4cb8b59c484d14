import PauseWatch.Jvm.Options
import PauseWatch.Proofs.Text.Search

/-!
# Complete options

Words are complete options when every word is an option, except the one behind a class-path option,
which may be anything and has to be there. Reading complete options is described by what they say:
the options that stand for themselves, the settings, heap sizes and log selections among them, and
the class paths. What follows complete options is read as if they had been taken into account.
-/

namespace PauseWatch.Jvm

/-- Words of which none is left without its value and none names an entry point. -/
inductive Complete : List String → Prop where
  /-- No words. -/
  | nil : Complete []
  /-- An option that stands for itself. -/
  | plain {word : String} {rest : List String} (isOpt : isOption word = true)
      (alone : takesClasspath word = false) (complete : Complete rest) : Complete (word :: rest)
  /-- A class-path option with its value, whatever it looks like. -/
  | classpath {word : String} (value : String) {rest : List String}
      (takes : takesClasspath word = true) (complete : Complete rest) :
      Complete (word :: value :: rest)

/-- The options among words that stand for themselves. -/
def plainOptions : List String → List String
  | [] => []
  | [word] => if takesClasspath word then [] else [word]
  | word :: value :: rest =>
    if takesClasspath word then plainOptions rest else word :: plainOptions (value :: rest)

/-- The values of the class-path options among words. -/
def classpaths : List String → List String
  | [] => []
  | [_] => []
  | word :: value :: rest =>
    if takesClasspath word then value :: classpaths rest else classpaths (value :: rest)

/-- A setting as an option. -/
def Setting.word (s : Setting) : String := (if s.on then "-XX:+" else "-XX:-") ++ s.name

/-- The setting that an option makes, if it makes one. -/
def Setting.ofWord? (word : String) : Option Setting :=
  ((Text.after? "-XX:+" word).map fun name => ⟨name, true⟩).or
    ((Text.after? "-XX:-" word).map fun name => ⟨name, false⟩)

/-- The settings among words, in order. -/
def settingsIn (words : List String) : List Setting :=
  (plainOptions words).filterMap Setting.ofWord?

/-- The sizes of the heap among words, in order. -/
def heapSizesIn (words : List String) : List String :=
  (plainOptions words).filterMap (Text.after? "-Xmx")

/-- The selections for the log among words, in order. -/
def selectionsIn (words : List String) : List String :=
  (plainOptions words).filterMap (Text.after? "-Xlog")

/-- A class-path option is an option. -/
theorem isOption_of_takesClasspath {word : String} (h : takesClasspath word = true) :
    isOption word = true := by
  simp only [takesClasspath, Bool.or_eq_true, beq_iff_eq] at h
  rcases h with (rfl | rfl) | rfl <;> decide

variable {words rest : List String}

section Views

variable {word value : String}

theorem plainOptions_cons (h : takesClasspath word = false) :
    plainOptions (word :: rest) = word :: plainOptions rest := by
  cases rest <;> simp [plainOptions, h]

theorem plainOptions_classpath (h : takesClasspath word = true) :
    plainOptions (word :: value :: rest) = plainOptions rest := by
  simp only [plainOptions, h, if_true]

theorem classpaths_cons (h : takesClasspath word = false) :
    classpaths (word :: rest) = classpaths rest := by
  cases rest <;> simp [classpaths, h]

theorem classpaths_classpath (h : takesClasspath word = true) :
    classpaths (word :: value :: rest) = value :: classpaths rest := by
  simp only [classpaths, h, if_true]

end Views

/-- Complete options followed by complete options are complete. -/
theorem Complete.append (h : Complete words) (hr : Complete rest) : Complete (words ++ rest) := by
  induction h with
  | nil => exact hr
  | plain isOpt alone _ ih => exact .plain isOpt alone ih
  | classpath value takes _ ih => exact .classpath value takes ih

/-- Nothing in complete options takes its value from what follows them. -/
theorem Complete.plainOptions_append (h : Complete words) :
    plainOptions (words ++ rest) = plainOptions words ++ plainOptions rest := by
  induction h with
  | nil => rfl
  | plain _ alone _ ih =>
    rw [List.cons_append, plainOptions_cons alone, plainOptions_cons alone, ih, List.cons_append]
  | classpath value takes _ ih =>
    rw [List.cons_append, List.cons_append, plainOptions_classpath takes,
      plainOptions_classpath takes, ih]

/-- What is read off complete options comes before what is read off the words behind them. -/
theorem Complete.filterMap_append {α : Type} (f : String → Option α) (h : Complete words) :
    (plainOptions (words ++ rest)).filterMap f =
      (plainOptions words).filterMap f ++ (plainOptions rest).filterMap f := by
  rw [h.plainOptions_append, List.filterMap_append]

/-- The settings of complete options come before those of what follows. -/
theorem Complete.settingsIn_append (h : Complete words) :
    settingsIn (words ++ rest) = settingsIn words ++ settingsIn rest :=
  h.filterMap_append _

/-- The log selections of complete options come before those of what follows. -/
theorem Complete.selectionsIn_append (h : Complete words) :
    selectionsIn (words ++ rest) = selectionsIn words ++ selectionsIn rest :=
  h.filterMap_append _

/-- The last of complete options either stands for itself or is a class path. -/
theorem Complete.of_append_singleton {word : String} (h : Complete (words ++ [word])) :
    Complete words ∨ (classpaths (words ++ [word])).getLast? = some word := by
  generalize hall : words ++ [word] = all at h
  induction h generalizing words with
  | nil => exact absurd hall (by simp)
  | @plain first more isOpt alone _ ih =>
    cases words with
    | nil => exact Or.inl .nil
    | cons first' words =>
      obtain ⟨rfl, hmore⟩ := List.cons.inj hall
      rcases ih hmore with hc | hl
      · exact Or.inl (.plain isOpt alone hc)
      · exact Or.inr (by rw [classpaths_cons alone, hl])
  | @classpath first value more takes _ ih =>
    match words with
    | [] => exact absurd hall (by simp)
    | [first'] =>
      obtain ⟨rfl, hmore⟩ := List.cons.inj hall
      obtain ⟨rfl, rfl⟩ := List.cons.inj hmore
      exact Or.inr (by rw [classpaths_classpath takes]; rfl)
    | first' :: value' :: words =>
      simp only [List.cons_append, List.cons.injEq] at hall
      obtain ⟨rfl, rfl, hmore⟩ := hall
      rcases ih hmore with hc | hl
      · exact Or.inl (.classpath _ takes hc)
      · refine Or.inr ?_
        rw [classpaths_classpath takes, List.getLast?_cons, hl, Option.getD_some]

/-- An option makes a setting exactly if it is that setting as an option. -/
theorem Setting.ofWord?_eq_some_iff {word : String} {s : Setting} :
    Setting.ofWord? word = some s ↔ word = s.word := by
  rw [ofWord?, Option.or_eq_some_iff, Option.map_eq_none_iff]
  constructor
  · rintro (hon | ⟨_, hoff⟩)
    · obtain ⟨name, hn, rfl⟩ := Option.map_eq_some_iff.mp hon
      exact Text.after?_eq_some_iff.mp hn
    · obtain ⟨name, hn, rfl⟩ := Option.map_eq_some_iff.mp hoff
      exact Text.after?_eq_some_iff.mp hn
  · rintro rfl
    obtain ⟨name, on⟩ := s
    cases on with
    | true =>
      have hname : Text.after? "-XX:+" (Setting.word ⟨name, true⟩) = some name :=
        Text.after?_append _ _
      exact Or.inl (Option.map_eq_some_iff.mpr ⟨name, hname, rfl⟩)
    | false =>
      have hname : Text.after? "-XX:-" (Setting.word ⟨name, false⟩) = some name :=
        Text.after?_append _ _
      have hnone : Text.after? "-XX:+" ("-XX:-" ++ name) = none :=
        Text.after?_append_eq_none (fun _ => rfl) name
      exact Or.inr ⟨hnone, Option.map_eq_some_iff.mpr ⟨name, hname, rfl⟩⟩

/-- A setting can be told from its option. -/
@[simp] theorem Setting.ofWord?_word (s : Setting) : Setting.ofWord? s.word = some s :=
  Setting.ofWord?_eq_some_iff.mpr rfl

/-- Whether an option makes a setting. -/
def isSwitch (word : String) : Bool :=
  Text.startsWith "-XX:+" word || Text.startsWith "-XX:-" word

/-- The options that make settings are those with one of the two leads. -/
theorem isSome_ofWord? (word : String) : (Setting.ofWord? word).isSome = isSwitch word := by
  rw [Setting.ofWord?, Option.isSome_or, Option.isSome_map, Option.isSome_map, isSwitch,
    Text.isSome_after?, Text.isSome_after?]

/-- The settings among words, as options, are the words with one of the two leads. -/
theorem map_word_settingsIn (words : List String) :
    (settingsIn words).map Setting.word = (plainOptions words).filter isSwitch := by
  rw [settingsIn]
  induction plainOptions words with
  | nil => rfl
  | cons word rest ih =>
    have hs := isSome_ofWord? word
    cases hw : Setting.ofWord? word with
    | none =>
      rw [hw, Option.isSome_none] at hs
      rw [List.filterMap_cons_none hw, ih, List.filter_cons_of_neg (by rw [← hs]; decide)]
    | some s =>
      rw [hw, Option.isSome_some] at hs
      rw [List.filterMap_cons_some hw, List.map_cons, ih, List.filter_cons_of_pos hs.symm,
        Setting.ofWord?_eq_some_iff.mp hw]

/-- A setting as an option takes no value. -/
theorem takesClasspath_word (s : Setting) : takesClasspath s.word = false := by
  cases h : takesClasspath s.word with
  | false => rfl
  | true =>
    have hs := Setting.ofWord?_word s
    simp only [takesClasspath, Bool.or_eq_true, beq_iff_eq] at h
    rcases h with (h | h) | h <;> rw [h] at hs <;> cases hs

/-- A setting as an option stands for itself. -/
theorem Complete.setting (s : Setting) : Complete [s.word] := by
  refine .plain ?_ (takesClasspath_word s) .nil
  obtain ⟨name, on⟩ := s
  rw [isOption, Text.startsWith_iff]
  cases on with
  | true => exact ⟨"XX:+" ++ name, by rw [← String.append_assoc]; rfl⟩
  | false => exact ⟨"XX:-" ++ name, by rw [← String.append_assoc]; rfl⟩

@[simp] theorem settingsIn_setting (s : Setting) : settingsIn [s.word] = [s] := by
  rw [settingsIn, plainOptions_cons (takesClasspath_word s),
    List.filterMap_cons_some (Setting.ofWord?_word s)]
  rfl

/-- A setting as an option selects nothing for the log. -/
@[simp] theorem selectionsIn_setting (s : Setting) : selectionsIn [s.word] = [] := by
  obtain ⟨name, on⟩ := s
  have hon : Text.after? "-Xlog" ("-XX:+" ++ name) = none :=
    Text.after?_append_eq_none (fun _ => rfl) name
  have hoff : Text.after? "-Xlog" ("-XX:-" ++ name) = none :=
    Text.after?_append_eq_none (fun _ => rfl) name
  have hnone : Text.after? "-Xlog" (Setting.word ⟨name, on⟩) = none := by
    cases on with
    | true => exact hon
    | false => exact hoff
  rw [selectionsIn, plainOptions_cons (takesClasspath_word _), List.filterMap_cons_none hnone]
  rfl

end PauseWatch.Jvm
