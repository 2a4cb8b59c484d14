import PauseWatch.Proofs.Jvm.Reading
import PauseWatch.Proofs.Jvm.Settings

/-!
# How a command line divides

The words after the launcher are options and values of class-path options up to the entry point, and
what follows belongs to the program. Reading finds exactly this division, which is the only one, and
what it reads is what the options say: settings add up, and of the heap sizes, log selections and
class paths the last one counts. A class-path option that ends the words leaves no class path.
-/

namespace PauseWatch.Jvm

/-- The word at a place is the value of a class-path option: such an option stands right before it
and is no value itself. -/
def IsValue (words : List String) : Nat → Prop
  | 0 => False
  | place + 1 =>
    (∃ word, words[place]? = some word ∧ takesClasspath word = true) ∧ ¬ IsValue words place

/-- Every word is an option or the value of a class-path option. -/
def OptionsOnly (words : List String) : Prop :=
  ∀ place word, words[place]? = some word → isOption word = true ∨ IsValue words place

/-- No class-path option is left without its value. -/
def ValuesGiven (words : List String) : Prop :=
  ∀ place word, words[place]? = some word → takesClasspath word = true → ¬ IsValue words place →
    place + 1 < words.length

/-- Words divide into options, an entry point and program arguments. -/
inductive Divides : List String → List String → Option String → List String → Prop where
  /-- All words are options, the last of which may miss its value. -/
  | options {words : List String} (only : OptionsOnly words) : Divides words words none []
  /-- The first word that is neither an option nor a value is the entry point. -/
  | entryPoint {part : List String} {entry : String} (args : List String)
      (only : OptionsOnly part) (given : ValuesGiven part) (isEntry : isOption entry = false) :
      Divides (part ++ entry :: args) part (some entry) args

/-- For every class-path option among words, its value; only the last one can be without. -/
def classpathWords : List String → List (Option String)
  | [] => []
  | [word] => if takesClasspath word then [none] else []
  | word :: value :: rest =>
    if takesClasspath word then some value :: classpathWords rest
    else classpathWords (value :: rest)

/-- What the options of a command line have changed. -/
structure Taken (before : Options) (part : List String) (after : Options) : Prop where
  /-- The settings are added in order. -/
  settings_eq : after.settings = before.settings ++ settingsIn part
  /-- As options, the added settings are the words that turn a switch on or off. -/
  words_eq : (settingsIn part).map Setting.word = (plainOptions part).filter isSwitch
  /-- The last class-path option decides the class path. -/
  classpath_eq : after.classpath = (classpathWords part).getLast?.getD before.classpath
  /-- The last heap size counts. -/
  maxHeap_eq : after.maxHeap = (heapSizesIn part).getLast?.or before.maxHeap
  /-- The last log selection decides whether the log is on. -/
  gcLog_eq : after.gcLog = logAfter before.gcLog (selectionsIn part)

section Places

variable {word value : String} {words rest : List String}

theorem isValue_succ {place : Nat} : IsValue words (place + 1) ↔
    (∃ word, words[place]? = some word ∧ takesClasspath word = true) ∧ ¬ IsValue words place :=
  Iff.rfl

/-- Behind an option that stands for itself the places are those of the words that follow. -/
theorem isValue_plain (alone : takesClasspath word = false) (place : Nat) :
    IsValue (word :: rest) (place + 1) ↔ IsValue rest place := by
  induction place with
  | zero => simp [IsValue, alone]
  | succ place ih => rw [isValue_succ, ih, isValue_succ, List.getElem?_cons_succ]

/-- Behind a class-path option and its value the places are those of the words that follow. -/
theorem isValue_classpath (takes : takesClasspath word = true) (value : String) (place : Nat) :
    IsValue (word :: value :: rest) (place + 2) ↔ IsValue rest place := by
  induction place with
  | zero => simp [IsValue, takes]
  | succ place ih =>
    rw [isValue_succ, ih, isValue_succ, List.getElem?_cons_succ, List.getElem?_cons_succ]

private theorem isValue_one (takes : takesClasspath word = true) :
    IsValue (word :: rest) 1 := by
  simp [IsValue, takes]

theorem optionsOnly_plain (alone : takesClasspath word = false) :
    OptionsOnly (word :: rest) ↔ isOption word = true ∧ OptionsOnly rest := by
  constructor
  · intro h
    refine ⟨(h 0 word rfl).resolve_right id, fun place w hw => ?_⟩
    rw [← isValue_plain alone]
    exact h (place + 1) w hw
  · rintro ⟨hword, hrest⟩ (_ | place) w hw
    · cases hw
      exact Or.inl hword
    · rw [isValue_plain alone]
      exact hrest place w hw

theorem optionsOnly_classpath (takes : takesClasspath word = true) :
    OptionsOnly (word :: value :: rest) ↔ OptionsOnly rest := by
  constructor
  · intro h place w hw
    rw [← isValue_classpath takes value]
    exact h (place + 2) w hw
  · rintro hrest (_ | _ | place) w hw
    · cases hw
      exact Or.inl (isOption_of_takesClasspath takes)
    · exact Or.inr (isValue_one takes)
    · rw [isValue_classpath takes]
      exact hrest place w hw

theorem valuesGiven_plain (alone : takesClasspath word = false) :
    ValuesGiven (word :: rest) ↔ ValuesGiven rest := by
  constructor
  · intro h place w hw htakes hnot
    rw [← isValue_plain alone] at hnot
    exact Nat.lt_of_succ_lt_succ (h (place + 1) w hw htakes hnot)
  · rintro hrest (_ | place) w hw htakes hnot
    · cases hw
      rw [alone] at htakes
      cases htakes
    · rw [isValue_plain alone] at hnot
      exact Nat.succ_lt_succ (hrest place w hw htakes hnot)

theorem valuesGiven_classpath (takes : takesClasspath word = true) :
    ValuesGiven (word :: value :: rest) ↔ ValuesGiven rest := by
  constructor
  · intro h place w hw htakes hnot
    rw [← isValue_classpath takes value] at hnot
    exact Nat.lt_of_succ_lt_succ (Nat.lt_of_succ_lt_succ (h (place + 2) w hw htakes hnot))
  · rintro hrest (_ | _ | place) w hw htakes hnot
    · simp
    · exact absurd (isValue_one takes) hnot
    · rw [isValue_classpath takes] at hnot
      exact Nat.succ_lt_succ (Nat.succ_lt_succ (hrest place w hw htakes hnot))

theorem complete_plain (alone : takesClasspath word = false) :
    Complete (word :: rest) ↔ isOption word = true ∧ Complete rest := by
  constructor
  · intro h
    cases h with
    | plain isOpt _ complete => exact ⟨isOpt, complete⟩
    | classpath _ takes _ =>
      rw [alone] at takes
      cases takes
  · exact fun ⟨isOpt, complete⟩ => .plain isOpt alone complete

theorem complete_classpath (takes : takesClasspath word = true) :
    Complete (word :: value :: rest) ↔ Complete rest := by
  constructor
  · intro h
    cases h with
    | plain _ alone _ =>
      rw [takes] at alone
      cases alone
    | classpath _ _ complete => exact complete
  · exact .classpath value takes

/-- Options are complete exactly if nothing stands among them but options with their values. -/
theorem complete_iff : ∀ {words : List String},
    Complete words ↔ OptionsOnly words ∧ ValuesGiven words
  | [] => by
    refine iff_of_true .nil ⟨?_, ?_⟩ <;> intro place word hw <;> cases hw
  | word :: rest => by
    cases htakes : takesClasspath word with
    | false =>
      rw [complete_plain htakes, optionsOnly_plain htakes, valuesGiven_plain htakes, and_assoc,
        complete_iff]
    | true =>
      cases rest with
      | nil =>
        refine iff_of_false (fun h => ?_) (fun h => ?_)
        · cases h with
          | plain _ alone _ =>
            rw [htakes] at alone
            cases alone
        · exact absurd (h.2 0 word rfl htakes id) (lt_irrefl 1)
      | cons value rest =>
        rw [complete_classpath htakes, optionsOnly_classpath htakes, valuesGiven_classpath htakes,
          complete_iff]

/-- Options behind complete options are still nothing but options. -/
theorem Complete.optionsOnly_append (h : Complete words) (hr : OptionsOnly rest) :
    OptionsOnly (words ++ rest) := by
  induction h with
  | nil => exact hr
  | plain isOpt alone _ ih => exact (optionsOnly_plain alone).mpr ⟨isOpt, ih⟩
  | classpath value takes _ ih => exact (optionsOnly_classpath takes).mpr ih

/-- Words that are nothing but options are complete, or only the last one misses its value. -/
theorem OptionsOnly.complete_or : ∀ {words : List String}, OptionsOnly words → Complete words ∨
    ∃ part option, words = part ++ [option] ∧ Complete part ∧ takesClasspath option = true
  | [], _ => Or.inl .nil
  | word :: rest, h => by
    cases htakes : takesClasspath word with
    | false =>
      obtain ⟨isOpt, hrest⟩ := (optionsOnly_plain htakes).mp h
      rcases hrest.complete_or with complete | ⟨part, option, rfl, complete, takes⟩
      · exact Or.inl (.plain isOpt htakes complete)
      · exact Or.inr ⟨word :: part, option, rfl, .plain isOpt htakes complete, takes⟩
    | true =>
      cases rest with
      | nil => exact Or.inr ⟨[], word, rfl, .nil, htakes⟩
      | cons value rest =>
        rcases ((optionsOnly_classpath htakes).mp h).complete_or with
          complete | ⟨part, option, rfl, complete, takes⟩
        · exact Or.inl (.classpath value htakes complete)
        · exact Or.inr
            ⟨word :: value :: part, option, rfl, .classpath value htakes complete, takes⟩

/-- A class-path option that ends the words behind complete options is an option. -/
theorem Complete.optionsOnly_singleton (h : Complete words) (takes : takesClasspath word = true) :
    OptionsOnly (words ++ [word]) := by
  refine h.optionsOnly_append ?_
  rintro (_ | place) w hw
  · cases hw
    exact Or.inl (isOption_of_takesClasspath takes)
  · cases hw

/-- Any words divide. -/
theorem exists_divides : ∀ words : List String, ∃ part entry args, Divides words part entry args
  | [] => ⟨[], none, [], .options (complete_iff.mp .nil).1⟩
  | word :: rest => by
    cases htakes : takesClasspath word with
    | false =>
      cases hopt : isOption word with
      | false =>
        obtain ⟨only, given⟩ := complete_iff.mp .nil
        exact ⟨[], some word, rest, .entryPoint rest only given hopt⟩
      | true =>
        obtain ⟨part, entry, args, h⟩ := exists_divides rest
        refine ⟨word :: part, entry, args, ?_⟩
        cases h with
        | options only => exact .options ((optionsOnly_plain htakes).mpr ⟨hopt, only⟩)
        | entryPoint _ only given isEntry =>
          exact .entryPoint args ((optionsOnly_plain htakes).mpr ⟨hopt, only⟩)
            ((valuesGiven_plain htakes).mpr given) isEntry
    | true =>
      cases rest with
      | nil => exact ⟨[word], none, [], .options (Complete.nil.optionsOnly_singleton htakes)⟩
      | cons value rest =>
        obtain ⟨part, entry, args, h⟩ := exists_divides rest
        refine ⟨word :: value :: part, entry, args, ?_⟩
        cases h with
        | options only => exact .options ((optionsOnly_classpath htakes).mpr only)
        | entryPoint _ only given isEntry =>
          exact .entryPoint args ((optionsOnly_classpath htakes).mpr only)
            ((valuesGiven_classpath htakes).mpr given) isEntry

end Places

namespace Options

variable {o : Options} {words part rest : List String} {word option : String}

/-- A class-path option at the end takes the class path away. -/
theorem readFrom_missing (takes : takesClasspath option = true) (o : Options) :
    o.readFrom [option] = { o with classpath := none } := by
  rw [readFrom.eq_def]
  simp only [isOption_of_takesClasspath takes, takes, Bool.not_true, Bool.false_eq_true, if_false,
    if_true]

end Options

/-- The class-path options of complete options all have their values. -/
theorem Complete.classpathWords_append {words : List String} (h : Complete words)
    (rest : List String) :
    classpathWords (words ++ rest) = (classpaths words).map some ++ classpathWords rest := by
  induction h with
  | nil => rfl
  | @plain word words _ alone _ ih =>
    rw [classpaths_cons alone, ← ih, List.cons_append]
    cases words ++ rest <;> simp [classpathWords, alone]
  | classpath value takes _ ih =>
    simp only [classpaths_classpath takes, List.map_cons, List.cons_append, classpathWords, takes,
      if_true, ih]

namespace Taken

variable {o : Options} {part : List String} {option : String}

/-- Complete options are taken as a whole. -/
theorem of_complete (h : Complete part) (o : Options) : Taken o part (o.taking part) := by
  have hpaths := h.classpathWords_append []
  rw [List.append_nil, classpathWords, List.append_nil] at hpaths
  constructor
  case settings_eq => rfl
  case words_eq => exact map_word_settingsIn part
  case classpath_eq =>
    rw [hpaths, List.getLast?_map, Options.taking]
    cases (classpaths part).getLast? <;> rfl
  case maxHeap_eq => rfl
  case gcLog_eq => rfl

/-- A class-path option behind complete options that misses its value only takes the class path
away. -/
theorem of_missing (h : Complete part) (takes : takesClasspath option = true) (o : Options) :
    Taken o (part ++ [option]) { o.taking part with classpath := none } := by
  have hnone : plainOptions [option] = [] := by rw [plainOptions, if_pos takes]
  have hfilter {α : Type} (f : String → Option α) :
      (plainOptions (part ++ [option])).filterMap f = (plainOptions part).filterMap f := by
    rw [h.plainOptions_append, hnone, List.append_nil]
  constructor
  case settings_eq => rw [settingsIn, hfilter]; rfl
  case words_eq => exact map_word_settingsIn _
  case classpath_eq =>
    rw [h.classpathWords_append, classpathWords, if_pos takes, List.getLast?_append]
    rfl
  case maxHeap_eq => rw [heapSizesIn, hfilter]; rfl
  case gcLog_eq => rw [selectionsIn, hfilter]; rfl

end Taken

namespace Options

variable {words part args : List String} {entry : Option String}

/-- Complete options are read by taking them into account. -/
theorem readFrom_complete (h : Complete words) (o : Options) :
    o.readFrom words = o.taking words := by
  have hread := readFrom_append h o []
  rwa [List.append_nil, readFrom] at hread

/-- What follows complete options is read after them. -/
theorem read_append (h : Complete part) (words : List String) :
    read (part ++ words) = (read part).readFrom words := by
  rw [read, readFrom_append h, read, readFrom_complete h]

/-- Words are read as they divide, whatever options have been taken into account before. -/
theorem readFrom_divides (h : Divides words part entry args) {o : Options}
    (hentry : o.entryPoint = none) (hargs : o.programArgs = []) :
    Taken o part (o.readFrom words) ∧ (o.readFrom words).entryPoint = entry ∧
      (o.readFrom words).programArgs = args := by
  cases h with
  | options only =>
    rcases only.complete_or with complete | ⟨part, option, rfl, complete, takes⟩
    · rw [readFrom_complete complete]
      exact ⟨.of_complete complete o, hentry, hargs⟩
    · rw [readFrom_append complete, readFrom_missing takes]
      exact ⟨.of_missing complete takes o, hentry, hargs⟩
  | entryPoint _ only given isEntry =>
    have complete := complete_iff.mpr ⟨only, given⟩
    have htaken := Taken.of_complete complete o
    rw [readFrom_append complete, readFrom_entry isEntry]
    exact ⟨⟨htaken.settings_eq, htaken.words_eq, htaken.classpath_eq, htaken.maxHeap_eq,
      htaken.gcLog_eq⟩, rfl, rfl⟩

theorem read_of_divides (h : Divides words part entry args) :
    Taken {} part (read words) ∧ (read words).entryPoint = entry ∧
      (read words).programArgs = args :=
  readFrom_divides h rfl rfl

/-- Words divide in one way only, since they are read in one way only. -/
theorem divides_unique {part' : List String} {entry' : Option String} {args' : List String}
    (h : Divides words part entry args) (h' : Divides words part' entry' args') :
    part' = part ∧ entry' = entry ∧ args' = args := by
  obtain ⟨-, hentry, hargs⟩ := read_of_divides h
  obtain ⟨-, hentry', hargs'⟩ := read_of_divides h'
  have he : entry' = entry := hentry'.symm.trans hentry
  have ha : args' = args := hargs'.symm.trans hargs
  refine ⟨?_, he, ha⟩
  cases h with
  | options =>
    cases h' with
    | options => rfl
    | entryPoint => cases he
  | entryPoint =>
    generalize hw : part ++ _ = words at h'
    cases h' with
    | options => cases he
    | entryPoint =>
      cases he
      cases ha
      exact List.append_cancel_right hw.symm

/-- A switch counts as it was set last, or before if it is not set again. -/
theorem setting?_of_append {o first second : Options}
    (h : o.settings = first.settings ++ second.settings) (name : String) :
    o.setting? name = (second.setting? name).or (first.setting? name) := by
  rw [setting?, setting?, setting?, h, List.reverse_append, List.find?_append, Option.map_or]

/-- Any words divide into options, an entry point if there is one, and program arguments, and in one
way only; they are read as what the options say, that entry point and those arguments. Whatever
follows the entry point changes nothing but the arguments. Complete options in front of the words
are read first: what the options of the words say is added, and of two settings of a switch the
later one counts. -/
theorem read_divides (words : List String) : ∃ part,
    Divides words part (read words).entryPoint (read words).programArgs ∧
    (∀ part' entry' args', Divides words part' entry' args' →
      part' = part ∧ entry' = (read words).entryPoint ∧ args' = (read words).programArgs) ∧
    Taken {} part (read words) ∧
    (∀ entry args, (read words).entryPoint = some entry →
      read (part ++ entry :: args) = { read words with programArgs := args }) ∧
    ∀ before, OptionsOnly before → ValuesGiven before →
      Taken (read before) part (read (before ++ words)) ∧
      (read (before ++ words)).entryPoint = (read words).entryPoint ∧
      (read (before ++ words)).programArgs = (read words).programArgs ∧
      (read (before ++ words)).settings = (read before).settings ++ (read words).settings ∧
      ∀ name, (read (before ++ words)).setting? name =
        ((read words).setting? name).or ((read before).setting? name) := by
  obtain ⟨part, entry, args, hdivides⟩ := exists_divides words
  obtain ⟨htaken, hentry, hargs⟩ := read_of_divides hdivides
  refine ⟨part, ?_, ?_, htaken, ?_, ?_⟩
  · rw [hentry, hargs]
    exact hdivides
  · intro part' entry' args' h'
    rw [hentry, hargs]
    exact divides_unique hdivides h'
  · intro entry' args' hsome
    obtain rfl := hentry.symm.trans hsome
    cases hdivides with
    | entryPoint _ only given isEntry =>
      have complete := complete_iff.mpr ⟨only, given⟩
      rw [read_entryPoint complete isEntry, read_entryPoint complete isEntry]
  · intro before only given
    have hread := read_append (complete_iff.mpr ⟨only, given⟩) words
    obtain ⟨-, hnone, hnil⟩ := read_of_divides (.options only)
    obtain ⟨htaken', hentry', hargs'⟩ := readFrom_divides hdivides hnone hnil
    rw [← hread] at htaken' hentry' hargs'
    have hsettings : (read (before ++ words)).settings =
        (read before).settings ++ (read words).settings := by
      rw [htaken'.settings_eq, htaken.settings_eq]
      rfl
    exact ⟨htaken', hentry'.trans hentry.symm, hargs'.trans hargs.symm, hsettings,
      setting?_of_append hsettings⟩

/-- A class path that looks like an option, an option behind the entry point, and a setting that is
made again. -/
theorem read_divides_again :
    let before := ["-XX:+B", "-classpath", "-XX:+A"]
    let words := ["-XX:-B", "-Xmx1m", "Main", "-XX:+B", "-cp"]
    OptionsOnly before ∧ ValuesGiven before ∧
      (read (before ++ words)).setting? "A" = none ∧
      (read (before ++ words)).setting? "B" = some false ∧
      (read (before ++ words)).entryPoint = some "Main" ∧
      (read (before ++ words)).programArgs = ["-XX:+B", "-cp"] ∧
      read ["-XX:-B", "-Xmx1m", "Main"] = { read words with programArgs := [] } := by
  intro before words
  obtain ⟨only, given⟩ : OptionsOnly before ∧ ValuesGiven before :=
    complete_iff.mp (.plain (by decide) (by decide) (.classpath _ (by decide) .nil))
  obtain ⟨part, hdivides, hunique, -, hargs, hbefore⟩ := read_divides words
  obtain ⟨-, hentry, hrest, -, hsetting⟩ := hbefore before only given
  obtain ⟨only', given'⟩ : OptionsOnly ["-XX:-B", "-Xmx1m"] ∧ ValuesGiven ["-XX:-B", "-Xmx1m"] :=
    complete_iff.mp (.plain (by decide) (by decide) (.plain (by decide) (by decide) .nil))
  have hmain : Divides words ["-XX:-B", "-Xmx1m"] (some "Main") ["-XX:+B", "-cp"] :=
    .entryPoint _ only' given' (by decide)
  obtain ⟨rfl, hsome, hwords⟩ := hunique _ _ _ hmain
  refine ⟨only, given, ?_, ?_, ?_, ?_, ?_⟩
  · rw [hsetting]
    decide
  · rw [hsetting]
    decide
  · rw [hentry, ← hsome]
  · rw [hrest, ← hwords]
  · exact hargs "Main" [] hsome.symm

end Options

end PauseWatch.Jvm
