import PauseWatch.Proofs.Jvm.OptionWords

/-!
# Reading complete options

Reading takes complete options into account one after the other: settings add up, and of the heap
sizes, log selections and class paths the last one counts. The word behind them that is no option
is the entry point, and what follows it goes to the program untouched.
-/

namespace PauseWatch.Jvm

/-- Whether the log is on after some selections, given whether it was on before. -/
def logAfter (before : Bool) (selections : List String) : Bool :=
  (selections.getLast?.map fun selection => enablesGcLog selection.toList).getD before

/-- A log that was off is on exactly if the last selection switches it on. -/
theorem logAfter_false_iff {selections : List String} : logAfter false selections = true ↔
    ∃ selection, selections.getLast? = some selection ∧ enablesGcLog selection.toList = true := by
  rw [logAfter]
  cases selections.getLast? <;> simp

namespace Options

/-- The options after complete options have been taken into account. -/
def taking (o : Options) (words : List String) : Options :=
  { o with
    settings := o.settings ++ settingsIn words
    maxHeap := (heapSizesIn words).getLast?.or o.maxHeap
    gcLog := logAfter o.gcLog (selectionsIn words)
    classpath := (classpaths words).getLast?.or o.classpath }

variable {o : Options} {words rest : List String} {word : String}

/-- An option that stands for itself is a setting, a heap size, a log selection or nothing. -/
theorem withOption_eq (o : Options) (word : String) :
    o.withOption word =
      { o with
        settings := o.settings ++ (Setting.ofWord? word).toList
        maxHeap := (Text.after? "-Xmx" word).or o.maxHeap
        gcLog := logAfter o.gcLog (Text.after? "-Xlog" word).toList } := by
  rw [withOption, Setting.ofWord?]
  cases hon : Text.after? "-XX:+" word with
  | some name =>
    have hsize : Text.after? "-Xmx" ("-XX:+" ++ name) = none :=
      Text.after?_append_eq_none (fun _ => rfl) name
    have hlog : Text.after? "-Xlog" ("-XX:+" ++ name) = none :=
      Text.after?_append_eq_none (fun _ => rfl) name
    rw [Text.after?_eq_some_iff.mp hon, hsize, hlog]
    rfl
  | none =>
    cases hoff : Text.after? "-XX:-" word with
    | some name =>
      have hsize : Text.after? "-Xmx" ("-XX:-" ++ name) = none :=
        Text.after?_append_eq_none (fun _ => rfl) name
      have hlog : Text.after? "-Xlog" ("-XX:-" ++ name) = none :=
        Text.after?_append_eq_none (fun _ => rfl) name
      rw [Text.after?_eq_some_iff.mp hoff, hsize, hlog]
      rfl
    | none =>
      cases hsize : Text.after? "-Xmx" word with
      | some size =>
        have hlog : Text.after? "-Xlog" ("-Xmx" ++ size) = none :=
          Text.after?_append_eq_none (fun _ => rfl) size
        rw [Text.after?_eq_some_iff.mp hsize, hlog]
        simp [logAfter]
      | none => cases Text.after? "-Xlog" word <;> simp [logAfter]

/-- No words change nothing. -/
@[simp] theorem taking_nil (o : Options) : o.taking [] = o := by
  simp [taking, settingsIn, heapSizesIn, selectionsIn, plainOptions, classpaths, logAfter]

private theorem getLast?_filterMap_cons {α β : Type} (f : α → Option β) (a : α) (l : List α)
    (before : Option β) :
    ((a :: l).filterMap f).getLast?.or before = (l.filterMap f).getLast?.or ((f a).or before) := by
  cases hf : f a with
  | none => rw [List.filterMap_cons_none hf, Option.none_or]
  | some b =>
    rw [List.filterMap_cons_some hf, List.getLast?_cons, Option.some_or]
    cases (l.filterMap f).getLast? <;> rfl

private theorem logAfter_filterMap_cons (before : Bool) (f : String → Option String) (word : String)
    (words : List String) :
    logAfter before ((word :: words).filterMap f) =
      logAfter (logAfter before (f word).toList) (words.filterMap f) := by
  cases hf : f word with
  | none => rw [List.filterMap_cons_none hf]; rfl
  | some selection =>
    rw [List.filterMap_cons_some hf, logAfter, List.getLast?_cons, Option.map_some,
      Option.getD_some]
    cases hl : (words.filterMap f).getLast? <;> simp [logAfter, hl]

/-- An option that stands for itself is taken into account before what follows it. -/
theorem withOption_taking (alone : takesClasspath word = false) :
    (o.withOption word).taking words = o.taking (word :: words) := by
  have hsettings : (Setting.ofWord? word).toList ++ settingsIn words =
      settingsIn (word :: words) := by
    rw [settingsIn, settingsIn, plainOptions_cons alone]
    cases hs : Setting.ofWord? word with
    | none => rw [List.filterMap_cons_none hs]; rfl
    | some s => rw [List.filterMap_cons_some hs]; rfl
  rw [withOption_eq, taking, taking, ← hsettings, classpaths_cons alone, heapSizesIn, heapSizesIn,
    selectionsIn, selectionsIn, plainOptions_cons alone, getLast?_filterMap_cons,
    logAfter_filterMap_cons, List.append_assoc]

/-- A class path is taken into account before what follows it. -/
theorem classpath_taking (value : String) (takes : takesClasspath word = true) :
    taking { o with classpath := some value } words = o.taking (word :: value :: words) := by
  rw [taking, taking, settingsIn, settingsIn, heapSizesIn, heapSizesIn, selectionsIn, selectionsIn,
    plainOptions_classpath takes, classpaths_classpath takes, List.getLast?_cons, Option.some_or]
  cases (classpaths words).getLast? <;> rfl

/-- Complete options are taken into account before the options behind them. -/
theorem taking_append (h : Complete words) (o : Options) (rest : List String) :
    o.taking (words ++ rest) = (o.taking words).taking rest := by
  induction h generalizing o with
  | nil => rw [taking_nil, List.nil_append]
  | plain _ alone _ ih =>
    rw [List.cons_append, ← withOption_taking alone, ih, withOption_taking alone]
  | classpath value takes _ ih =>
    rw [List.cons_append, List.cons_append, ← classpath_taking value takes, ih,
      classpath_taking value takes]

theorem readFrom_entry {entry : String} (h : isOption entry = false) (o : Options)
    (args : List String) :
    o.readFrom (entry :: args) = { o with entryPoint := some entry, programArgs := args } := by
  rw [readFrom.eq_def]
  simp only [h, Bool.not_false, if_true]

theorem readFrom_plain (isOpt : isOption word = true) (alone : takesClasspath word = false)
    (o : Options) (rest : List String) :
    o.readFrom (word :: rest) = (o.withOption word).readFrom rest := by
  rw [readFrom.eq_def]
  simp only [isOpt, alone, Bool.not_true, Bool.false_eq_true, if_false]

theorem readFrom_classpath (takes : takesClasspath word = true) (o : Options) (value : String)
    (rest : List String) :
    o.readFrom (word :: value :: rest) = readFrom { o with classpath := some value } rest := by
  rw [readFrom.eq_def]
  simp only [isOption_of_takesClasspath takes, takes, Bool.not_true, Bool.false_eq_true, if_false,
    if_true]

/-- What follows complete options is read as if they had been taken into account. -/
theorem readFrom_append (h : Complete words) (o : Options) (rest : List String) :
    o.readFrom (words ++ rest) = (o.taking words).readFrom rest := by
  induction h generalizing o with
  | nil => rw [taking_nil, List.nil_append]
  | plain isOpt alone _ ih =>
    rw [List.cons_append, readFrom_plain isOpt alone, ih, withOption_taking alone]
  | classpath value takes _ ih =>
    rw [List.cons_append, List.cons_append, readFrom_classpath takes, ih,
      classpath_taking value takes]

/-- What is said by complete options in front of an entry point, and what goes to the program. -/
theorem read_entryPoint (h : Complete words) {entry : String} (hentry : isOption entry = false)
    (args : List String) :
    read (words ++ entry :: args) =
      { taking {} words with entryPoint := some entry, programArgs := args } := by
  rw [read, readFrom_append h, readFrom_entry hentry]

end Options

end PauseWatch.Jvm
