import PauseWatch.Proofs.Jvm.Division
import PauseWatch.Proofs.Jvm.Evidence

/-!
# What a start depends on, and what the log adds

Whether a machine starts depends on the settings of two switches, in their order, and on whether
there is a class to run; so does the reason that it gives when it does not start. Everything else
that is said to a machine changes at most what a run writes to the standard output. There the log
adds its lines to those of the program and takes none away: each log line starts with a bracket and
its uptime, three milliseconds after the line before, and a collection is logged behind the line
with which the program asked for it.
-/

namespace PauseWatch.Jvm

/-- A refusal always says why. -/
theorem Refusal.message_ne_nil (r : Refusal) : r.message ≠ [] := by
  cases r <;> exact List.cons_ne_nil _ _

namespace Options

variable {o o' : Options}

/-- A machine does not start exactly if the experimental collector is asked for and not unlocked
before, or there is no class to run. -/
theorem refusal?_ne_none_iff : o.refusal? ≠ none ↔
    LastSet o.settings "UseShenandoahGC" true ∧
        ¬ OnBefore o.settings "UnlockExperimentalVMOptions" "UseShenandoahGC" ∨
      o.entryPoint = none := by
  rw [ne_eq, starts_iff, not_and_or, Classical.not_imp, not_not]

/-- The settings on which it depends whether a machine starts. -/
def decisive (o : Options) : List Setting :=
  o.settings.filter fun s =>
    s.name == "UseShenandoahGC" || s.name == "UnlockExperimentalVMOptions"

/-- Machines with the same decisive settings have the same reasons not to start. -/
theorem refuses_congr (hsettings : o.decisive = o'.decisive)
    (hentry : o.entryPoint.isSome = o'.entryPoint.isSome) (r : Refusal) :
    o.Refuses r ↔ o'.Refuses r := by
  have hset {o : Options} : LastSet o.settings "UseShenandoahGC" true ↔
      LastSet o.decisive "UseShenandoahGC" true :=
    (lastSet_filter_iff fun s hs => by simp [hs]).symm
  have hbefore {o : Options} :
      OnBefore o.settings "UnlockExperimentalVMOptions" "UseShenandoahGC" ↔
        OnBefore o.decisive "UnlockExperimentalVMOptions" "UseShenandoahGC" :=
    (onBefore_filter_iff rfl rfl).symm
  have hmem {o : Options} : ⟨"UnlockExperimentalVMOptions", true⟩ ∈ o.settings ↔
      ⟨"UnlockExperimentalVMOptions", true⟩ ∈ o.decisive := by
    simp [decisive]
  have hnone : o.entryPoint = none ↔ o'.entryPoint = none := by
    rw [← Option.isNone_iff_eq_none, ← Option.isNone_iff_eq_none, ← Option.not_isSome, hentry,
      Option.not_isSome]
  cases r with
  | locked => simp only [Refuses, hset, hmem, hsettings]
  | unlockedTooLate => simp only [Refuses, hset, hmem, hbefore, hsettings]
  | noEntryPoint => simp only [Refuses, hset, hbefore, hsettings, hnone]

end Options

/-- How a machine answers that has a reason not to start. -/
theorem simulate_of_refusal {o : Options} {r : Refusal} (h : o.refusal? = some r) (mode : Mode) :
    simulate o mode = { stderr := r.message, exitCode := 1 } := by
  rw [simulate, h]

/-- How a machine answers that starts. -/
theorem simulate_of_starts {o : Options} (h : o.refusal? = none) (mode : Mode) :
    simulate o mode = { stdout := o.runLines mode } := by
  rw [simulate, h]

/-- A line shows an uptime in milliseconds: as seconds with three decimals between brackets. -/
def ShowsUptime (line : String) (millis : Nat) : Prop :=
  ∃ whole decimals rest : List Char,
    line.toList = '[' :: (whole ++ '.' :: decimals ++ 's' :: ']' :: rest) ∧
    whole ≠ [] ∧ decimals.length = 3 ∧ (∀ c ∈ whole ++ decimals, c.isDigit = true) ∧
    Nat.ofDigitChars 10 (whole ++ decimals) 0 = millis

private theorem digitChar_value : ∀ d < 10, (Nat.digitChar d).toNat - '0'.toNat = d := by decide

theorem toList_logLine (uptime : Nat) (message : String) : (logLine uptime message).toList =
    '[' :: (Nat.toDigits 10 (uptime / 1000) ++ '.' :: (threeDigits (uptime % 1000)).toList ++
      's' :: ']' :: ("[info][gc] ".toList ++ message.toList)) := by
  rw [logLine]
  simp

/-- A log line shows its uptime. -/
theorem showsUptime_logLine (uptime : Nat) (message : String) :
    ShowsUptime (logLine uptime message) uptime := by
  have hlt : uptime % 1000 < 1000 := Nat.mod_lt _ (by decide)
  refine ⟨_, _, _, toList_logLine uptime message, Nat.toDigits_ne_nil, ?_, fun c hc => ?_, ?_⟩
  · rw [threeDigits, String.toList_ofList]
    rfl
  · rcases List.mem_append.mp hc with hc | hc
    · exact Nat.isDigit_of_mem_toDigits (by decide) le_rfl hc
    · exact isDigit_of_mem_threeDigits hlt hc
  · rw [Nat.ofDigitChars_append, Nat.ofDigitChars_toDigits (by decide) le_rfl, threeDigits,
      String.toList_ofList, Nat.ofDigitChars_cons, Nat.ofDigitChars_cons, Nat.ofDigitChars_cons,
      digitChar_value _ (by omega), digitChar_value _ (by omega), digitChar_value _ (by omega),
      Nat.ofDigitChars_nil]
    omega

/-- Whether a line is a line of the log. -/
def isLogLine (line : String) : Bool := Text.startsWith "[" line

/-- The lines are lines of the log, one for each message. -/
def Logs (lines messages : List String) : Prop :=
  List.Forall₂ (fun line message => ∃ uptime, line = logLine uptime message) lines messages

theorem isLogLine_logLine (uptime : Nat) (message : String) :
    isLogLine (logLine uptime message) = true := by
  rw [isLogLine, Text.startsWith_iff, logLine]
  simp only [String.append_assoc]
  exact ⟨_, rfl⟩

/-- What the program writes are no lines of the log. -/
theorem isLogLine_of_mem_requestLine {mode : Mode} {line : String} (h : line ∈ requestLine mode) :
    isLogLine line = false := by
  cases mode with
  | idle => exact (List.not_mem_nil h).elim
  | requestCollection =>
    rw [List.mem_singleton.mp h]
    decide

section Lines

variable {messages : List String} (uptime : Nat)

/-- Every message has its line. -/
theorem logs_logLinesFrom : Logs (logLinesFrom uptime messages) messages := by
  induction messages generalizing uptime with
  | nil => exact .nil
  | cons message rest ih => exact .cons ⟨_, rfl⟩ (ih _)

/-- The line for a last message comes last. -/
theorem logLinesFrom_concat (message : String) : logLinesFrom uptime (messages ++ [message]) =
    logLinesFrom uptime messages ++ [logLine (uptime + 3 * (messages.length + 1)) message] := by
  induction messages generalizing uptime with
  | nil => rfl
  | cons first rest ih =>
    rw [List.cons_append, logLinesFrom, ih, logLinesFrom, List.length_cons, List.cons_append]
    congr 4
    omega

/-- Each line of the log shows an uptime three milliseconds after that of the line before. -/
theorem showsUptime_of_getElem? {k : Nat} {line : String}
    (h : (logLinesFrom uptime messages)[k]? = some line) :
    ShowsUptime line (uptime + 3 * (k + 1)) := by
  induction messages generalizing uptime k with
  | nil => cases h
  | cons message rest ih =>
    cases k with
    | zero =>
      cases h
      exact showsUptime_logLine _ _
    | succ k =>
      have hline := ih (uptime + 3) h
      rwa [show uptime + 3 + 3 * (k + 1) = uptime + 3 * (k + 1 + 1) by omega] at hline

theorem isLogLine_of_mem_logLinesFrom {line : String} (h : line ∈ logLinesFrom uptime messages) :
    isLogLine line = true := by
  induction messages generalizing uptime with
  | nil => exact (List.not_mem_nil h).elim
  | cons message rest ih =>
    rcases List.mem_cons.mp h with rfl | h
    · exact isLogLine_logLine _ _
    · exact ih _ h

end Lines

namespace Options

variable (o : Options) (mode : Mode)

/-- The lines of a run with the log on. -/
theorem runLines_of_gcLog (h : o.gcLog = true) : o.runLines mode =
    logLine 3 o.collectorMessage ::
      (requestLine mode ++ logLinesFrom 3 (o.laterMessages mode)) := by
  rw [runLines, if_pos h, List.cons_append]

/-- The lines of a run with the log off are those of the program. -/
theorem runLines_of_not_gcLog (h : o.gcLog = false) : o.runLines mode = requestLine mode := by
  rw [runLines, h]
  rfl

variable {o mode}

/-- The lines of the log are those for the messages of the run, in order. -/
theorem filter_isLogLine_runLines (h : o.gcLog = true) : (o.runLines mode).filter isLogLine =
    logLinesFrom 0 (o.collectorMessage :: o.laterMessages mode) := by
  have hprogram : (requestLine mode).filter isLogLine = [] :=
    List.filter_eq_nil_iff.mpr fun line hl => by simp [isLogLine_of_mem_requestLine hl]
  have hlog : (logLinesFrom 3 (o.laterMessages mode)).filter isLogLine = _ :=
    List.filter_eq_self.mpr fun line hl => isLogLine_of_mem_logLinesFrom 3 hl
  rw [runLines_of_gcLog o mode h, List.filter_cons_of_pos (isLogLine_logLine _ _),
    List.filter_append, hprogram, hlog]
  rfl

/-- The other lines are those of the program. -/
theorem filter_not_isLogLine_runLines (h : o.gcLog = true) :
    (o.runLines mode).filter (!isLogLine ·) = requestLine mode := by
  have hprogram : (requestLine mode).filter (!isLogLine ·) = requestLine mode :=
    List.filter_eq_self.mpr fun line hl => by simp [isLogLine_of_mem_requestLine hl]
  have hlog : (logLinesFrom 3 (o.laterMessages mode)).filter (!isLogLine ·) = [] :=
    List.filter_eq_nil_iff.mpr fun line hl => by simp [isLogLine_of_mem_logLinesFrom 3 hl]
  rw [runLines_of_gcLog o mode h, List.filter_cons_of_neg (by simp [isLogLine_logLine]),
    List.filter_append, hprogram, hlog, List.append_nil]

end Options

section Runs

variable (o : Options) (mode : Mode)

/-- A run that is refused fails, writes nothing to the standard output and says why; every other run
succeeds and writes nothing to the standard error. -/
theorem simulate_refused_iff :
    ((simulate o mode).exitCode = 1 ∧ (simulate o mode).stdout = [] ∧
      (simulate o mode).stderr ≠ [] ↔ o.refusal? ≠ none) ∧
    ((simulate o mode).exitCode = 0 ∧ (simulate o mode).stderr = [] ↔ ¬ o.refusal? ≠ none) := by
  cases hr : o.refusal? with
  | none => simp [simulate_of_starts hr]
  | some r => simp [simulate_of_refusal hr, r.message_ne_nil]

/-- With the log off, a run writes what it writes with the log on, less the lines of the log. -/
theorem stdout_simulate_log_off : (simulate { o with gcLog := false } mode).stdout =
    (simulate { o with gcLog := true } mode).stdout.filter (!isLogLine ·) := by
  have hrefusal : ({ o with gcLog := false } : Options).refusal? =
      ({ o with gcLog := true } : Options).refusal? := rfl
  rw [stdout_simulate, stdout_simulate, hrefusal]
  split
  · rw [Options.runLines_of_not_gcLog _ mode rfl, Options.filter_not_isLogLine_runLines rfl]
  · rfl

/-- Every line of the log shows its place among the lines of the log. -/
theorem showsUptime_of_getElem?_log {k : Nat} {line : String}
    (h : ((simulate { o with gcLog := true } mode).stdout.filter isLogLine)[k]? = some line) :
    ShowsUptime line (3 * (k + 1)) := by
  rw [stdout_simulate] at h
  split at h
  · rw [Options.filter_isLogLine_runLines rfl] at h
    simpa using showsUptime_of_getElem? 0 h
  · cases h

/-- The log of a collection stands behind the line of the program that asked for it. -/
theorem exists_stdout_requestCollection
    (h : (simulate { o with gcLog := true } .requestCollection).exitCode = 0) :
    ∃ first collected last,
      (simulate { o with gcLog := true } .requestCollection).stdout =
        first :: "Calling System.gc()" :: (collected ++ [last]) ∧
      isLogLine first = true ∧ Logs collected (o.collection.messages o.heapLabel) ∧
      isLogLine last = true := by
  rw [stdout_simulate, if_pos ((exitCode_simulate_iff _ _).mp h),
    Options.runLines_of_gcLog _ _ rfl]
  have hlog : logLinesFrom 3 (o.laterMessages .requestCollection) =
      logLinesFrom 3 (o.collection.messages o.heapLabel) ++ [_] := logLinesFrom_concat 3 _
  exact ⟨_, _, _, congrArg (_ :: _ :: ·) hlog, isLogLine_logLine _ _, logs_logLinesFrom 3,
    isLogLine_logLine _ _⟩

end Runs

/-- What the start of a machine depends on, and what its log adds. A command line is refused exactly
if it asks for the experimental collector last and has not unlocked experimental options before it
first asks for it, or if it has no class to run; every other run succeeds. How a run exits and what
it writes to the standard error depends on the decisive settings and on whether there is a class,
in any mode. With the log off, a run writes what it writes with the log on, less the lines of the
log; those show uptimes three milliseconds apart, and the ones for a collection follow the request
for it. -/
theorem simulate_depends :
    (∀ words mode, ∃ part,
      Divides words part (Options.read words).entryPoint (Options.read words).programArgs ∧
      let run := simulate (Options.read words) mode
      let refused := LastSet (settingsIn part) "UseShenandoahGC" true ∧
          ¬ OnBefore (settingsIn part) "UnlockExperimentalVMOptions" "UseShenandoahGC" ∨
        (Options.read words).entryPoint = none
      (run.exitCode = 1 ∧ run.stdout = [] ∧ run.stderr ≠ [] ↔ refused) ∧
        (run.exitCode = 0 ∧ run.stderr = [] ↔ ¬ refused)) ∧
    (∀ o o' : Options, o.decisive = o'.decisive → o.entryPoint.isSome = o'.entryPoint.isSome →
      ∀ mode mode', (simulate o mode).exitCode = (simulate o' mode').exitCode ∧
        (simulate o mode).stderr = (simulate o' mode').stderr) ∧
    ∀ (o : Options) (mode : Mode),
      let on := simulate { o with gcLog := true } mode
      let off := simulate { o with gcLog := false } mode
      off.stdout = on.stdout.filter (!isLogLine ·) ∧
      (∀ k line, (on.stdout.filter isLogLine)[k]? = some line → ShowsUptime line (3 * (k + 1))) ∧
      (on.exitCode = 0 → mode = .requestCollection → ∃ first collected last,
        on.stdout = first :: "Calling System.gc()" :: (collected ++ [last]) ∧
        isLogLine first = true ∧ Logs collected (o.collection.messages o.heapLabel) ∧
        isLogLine last = true) := by
  refine ⟨fun words mode => ?_, fun o o' hsettings hentry mode mode' => ?_, fun o mode => ?_⟩
  · obtain ⟨part, entry, args, hdivides⟩ := exists_divides words
    obtain ⟨htaken, rfl, rfl⟩ := Options.read_of_divides hdivides
    have hsettings : (Options.read words).settings = settingsIn part := htaken.settings_eq
    refine ⟨part, hdivides, ?_⟩
    rw [← hsettings]
    simp only [← Options.refusal?_ne_none_iff]
    exact simulate_refused_iff _ mode
  · have hrefusal : o.refusal? = o'.refusal? := Option.ext fun r => by
      rw [Options.refusal?_eq_some_iff, Options.refusal?_eq_some_iff,
        Options.refuses_congr hsettings hentry]
    rw [simulate, simulate, hrefusal]
    cases o'.refusal? <;> exact ⟨rfl, rfl⟩
  · refine ⟨stdout_simulate_log_off o mode, fun k line => showsUptime_of_getElem?_log o mode, ?_⟩
    rintro hstarts rfl
    exact exists_stdout_requestCollection o hstarts

/-- A command line that unlocks the experimental collector only when it asks for it again, machines
that have nothing but their decisive settings in common, and the log of a concurrent collection. -/
theorem simulate_depends_asked_again :
    let words := ["-XX:+UseShenandoahGC", "-XX:+UnlockExperimentalVMOptions",
      "-XX:+UseShenandoahGC", "Main"]
    let unlocked : Options :=
      { settings := [⟨"UnlockExperimentalVMOptions", true⟩, ⟨"UseShenandoahGC", true⟩],
        entryPoint := some "Main" }
    let other : Options :=
      { settings := [⟨"DisableExplicitGC", true⟩, ⟨"UnlockExperimentalVMOptions", true⟩,
          ⟨"ExplicitGCInvokesConcurrent", false⟩, ⟨"UseShenandoahGC", true⟩],
        maxHeap := some "1g", gcLog := true, classpath := some "a.jar", entryPoint := some "Other",
        programArgs := ["idle"] }
    let on := simulate { unlocked with gcLog := true } .requestCollection
    let second := "[0.006s][info][gc] Trigger: Explicit GC request (System.gc())"
    (∃ part, Divides words part (some "Main") [] ∧
      LastSet (settingsIn part) "UseShenandoahGC" true ∧
      ¬ OnBefore (settingsIn part) "UnlockExperimentalVMOptions" "UseShenandoahGC") ∧
    unlocked.decisive = other.decisive ∧ unlocked.entryPoint.isSome = other.entryPoint.isSome ∧
    (simulate unlocked .requestCollection).stderr = (simulate other .idle).stderr ∧
    on.exitCode = 0 ∧ (on.stdout.filter isLogLine)[1]? = some second ∧ ShowsUptime second 6 ∧
    ∃ first collected last,
      on.stdout = first :: "Calling System.gc()" :: (collected ++ [last]) ∧
        Logs collected (Collection.shenandoahConcurrent.messages "256M") := by
  intro words unlocked other on second
  obtain ⟨hstart, hsame, hlog⟩ := simulate_depends
  obtain ⟨part, hdivides, hrefused, -⟩ := hstart words .idle
  have hdecisive : unlocked.decisive = other.decisive := by decide
  have hexit : on.exitCode = 0 := by decide
  have hsecond : (on.stdout.filter isLogLine)[1]? = some second := by decide
  obtain ⟨-, huptime, hbehind⟩ := hlog unlocked .requestCollection
  obtain ⟨first, collected, last, hlines, -, hlogs, -⟩ := hbehind hexit rfl
  refine ⟨⟨part, hdivides, ?_⟩, hdecisive, rfl, (hsame _ _ hdecisive rfl _ _).2, hexit, hsecond,
    huptime 1 second hsecond, first, collected, last, hlines, hlogs⟩
  exact (hrefused.mp ⟨by decide, by decide, by decide⟩).resolve_right (by decide)

end PauseWatch.Jvm
