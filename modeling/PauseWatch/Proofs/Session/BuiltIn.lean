import PauseWatch.Proofs.Jvm.Markers
import PauseWatch.Proofs.Jvm.Settings
import PauseWatch.Proofs.Launch.Agreement
import PauseWatch.Proofs.Session.Run

/-!
# The built-in scenarios on simulated machines

Every launch is answered by the run that its words ask for. Whether a built-in scenario passes is
then decided by what the machine reads: whether it starts, whether it logs, and which collection a
request makes. All four pass exactly if the options that they share let a request start a concurrent
collection; the other three scenarios only change how that request is answered.
-/

namespace PauseWatch

/-- The output of a run: its lines, each with its end, and its exit code. -/
def Jvm.Simulation.capture (run : Simulation) : Capture where
  stdout := linesText run.stdout
  stderr := linesText run.stderr
  exitCode := some (Int32.ofNat run.exitCode)

/-- What an output meets depends neither on the process nor on the time it took. -/
theorem Capture.meets_with_iff {output : Capture} {s : Scenario} (pid : Option Nat)
    (elapsed : Nat) : Meets { output with pid, elapsed } s ↔ output.Meets s := by
  have htext : text { output with pid, elapsed } s.channel = output.text s.channel := by
    cases s.channel <;> rfl
  constructor
  · rintro ⟨hexit, hrequired, hforbidden⟩
    rw [htext] at hrequired hforbidden
    exact ⟨hexit, hrequired, hforbidden⟩
  · rintro ⟨hexit, hrequired, hforbidden⟩
    rw [← htext] at hrequired hforbidden
    exact ⟨hexit, hrequired, hforbidden⟩

namespace Scenario

open Jvm

/-- The output of a run has what a scenario asks for. -/
def AcceptsRun (s : Scenario) (run : Simulation) : Prop := run.capture.Meets s

variable {s : Scenario} {o : Options} {mode : Mode}

private theorem exitCode_capture_iff :
    (simulate o mode).capture.exitCode = some 0 ↔ o.refusal? = none := by
  rw [Simulation.capture, simulate]
  cases o.refusal? <;> simp

/-- A scenario that expects a clean exit and markers on the standard output accepts a run exactly if
the machine starts and the markers are there, or are not. -/
theorem acceptsRun_iff (hexit : s.expectedExit = some 0) (hchannel : s.channel = .stdout) :
    s.AcceptsRun (simulate o mode) ↔ o.refusal? = none ∧
      (∀ m ∈ s.patterns.required, m.toList <:+: (linesText (simulate o mode).stdout).toList) ∧
        ∀ m ∈ s.patterns.forbidden,
          ¬ m.toList <:+: (linesText (simulate o mode).stdout).toList := by
  have htext : (simulate o mode).capture.text s.channel = linesText (simulate o mode).stdout := by
    rw [hchannel]
    rfl
  rw [← exitCode_capture_iff, AcceptsRun, ← htext]
  constructor
  · exact fun h => ⟨h.exitCode_eq 0 hexit, h.required, h.forbidden⟩
  · rintro ⟨hcode, hrequired, hforbidden⟩
    refine ⟨fun code h => ?_, hrequired, hforbidden⟩
    obtain rfl := Option.some.inj (hexit.symm.trans h)
    exact hcode

/-- A request is to start a concurrent collection, and it does. -/
theorem acceptsRun_concurrent_iff (hexit : s.expectedExit = some 0) (hchannel : s.channel = .stdout)
    (hpatterns : s.patterns = concurrentOnly) :
    s.AcceptsRun (simulate o .requestCollection) ↔
      o.refusal? = none ∧ o.gcLog = true ∧ o.collection = .shenandoahConcurrent := by
  rw [acceptsRun_iff hexit hchannel, hpatterns, concurrentOnly, List.forall_mem_singleton,
    full_infix_stdout_iff]
  constructor
  · rintro ⟨hstarts, hall, _⟩
    obtain ⟨_, hlog, _, hcollection⟩ :=
      (concurrent_infix_stdout_iff (List.mem_cons_self ..)).mp (hall _ (List.mem_cons_self ..))
    exact ⟨hstarts, hlog, hcollection⟩
  · rintro ⟨hstarts, hlog, hcollection⟩
    refine ⟨hstarts, fun m hm => ?_, ?_⟩
    · exact (concurrent_infix_stdout_iff hm).mpr ⟨hstarts, hlog, rfl, hcollection⟩
    · rw [hcollection]
      simp

/-- A request is to be ignored, and it is. -/
theorem acceptsRun_ignored (hexit : s.expectedExit = some 0) (hchannel : s.channel = .stdout)
    (hpatterns : s.patterns = { forbidden := concurrentMarkers ++ [fullMarker] })
    (hstarts : o.refusal? = none) (hcollection : o.collection = .ignored) :
    s.AcceptsRun (simulate o mode) := by
  rw [acceptsRun_iff hexit hchannel, hpatterns]
  refine ⟨hstarts, fun m hm => (List.not_mem_nil hm).elim, fun m hm => ?_⟩
  rw [pause_infix_stdout_iff hm, hcollection]
  simp [Collection.messages]

/-- A request is to start a full collection, and it does. -/
theorem acceptsRun_full (hexit : s.expectedExit = some 0) (hchannel : s.channel = .stdout)
    (hpatterns : s.patterns = { required := [fullMarker], forbidden := concurrentMarkers })
    (hstarts : o.refusal? = none) (hlog : o.gcLog = true)
    (hcollection : o.collection = .shenandoahFull) :
    s.AcceptsRun (simulate o .requestCollection) := by
  rw [acceptsRun_iff hexit hchannel, hpatterns, List.forall_mem_singleton, full_infix_stdout_iff]
  refine ⟨hstarts, ⟨hstarts, hlog, rfl, Or.inl hcollection⟩, fun m hm => ?_⟩
  rw [concurrent_infix_stdout_iff hm, hcollection]
  simp

end Scenario

namespace Session

open Jvm

/-- Every launch is answered by the run that its words ask for. -/
def Answers.Simulated (answers : Answers) : Prop :=
  ∀ before spec, ∃ pid elapsed,
    answers before spec = .ok { (simulateArgs spec.args).capture with pid, elapsed }

variable {matcher : Matcher} {c : Config} {env : Environment} {answers : Answers}

/-- On simulated machines all scenarios pass exactly if each of them accepts its run. -/
theorem forall_passed_iff_acceptsRun (h : answers.Simulated) (before : List LaunchSpec)
    (scenarios : List Scenario) :
    (∀ o ∈ outcomesAfter matcher c env answers before scenarios, o.stage = .passed) ↔
      ∀ s ∈ scenarios, s.AcceptsRun (simulateArgs (c.launch env s).args) := by
  rw [forall_outcomesAfter_passed_iff]
  constructor
  · intro hall s hs
    obtain ⟨k, hk⟩ := List.mem_iff_getElem?.mp hs
    obtain ⟨output, houtput, hmeets⟩ := hall k s hk
    obtain ⟨pid, elapsed, hanswer⟩ := h (before ++ (scenarios.take k).map (c.launch env))
      (c.launch env s)
    obtain rfl := Except.ok.inj (hanswer.symm.trans houtput)
    exact (Capture.meets_with_iff pid elapsed).mp hmeets
  · intro hall k s hk
    obtain ⟨pid, elapsed, hanswer⟩ := h (before ++ (scenarios.take k).map (c.launch env))
      (c.launch env s)
    exact ⟨_, hanswer, (Capture.meets_with_iff pid elapsed).mpr
      (hall s (List.mem_of_getElem? hk))⟩

section Launched

variable (hcomplete : Complete (c.sharedOptions env)) (hentry : isOption c.entryPoint = false)
  {s : Scenario} {x : Option Setting} (hx : s.flag = x.map Setting.word)
include hcomplete hentry hx

/-- The run of a scenario that adds a setting to the shared options, or none. -/
theorem simulateArgs_launch :
    ∃ o : Options, simulateArgs (c.launch env s).args = simulate o s.mode ∧
      o.settings = settingsIn (c.sharedOptions env) ++ x.toList ∧
      o.gcLog = logAfter false (selectionsIn (c.sharedOptions env)) ∧
      o.entryPoint.isSome = true := by
  obtain ⟨hsettings, hlog, hclass, hmode⟩ := Config.read_launch_setting hcomplete hentry hx
  exact ⟨_, by rw [simulateArgs, hmode], hsettings, hlog, by rw [hclass, Option.isSome_some]⟩

variable (hmode : s.mode = .requestCollection) (hexit : s.expectedExit = some 0)
  (hchannel : s.channel = .stdout)
include hmode hexit hchannel

/-- When a scenario is satisfied that wants a concurrent collection. -/
theorem acceptsRun_launch_concurrent_iff (hpatterns : s.patterns = Scenario.concurrentOnly) :
    s.AcceptsRun (simulateArgs (c.launch env s).args) ↔
      LastSet (settingsIn (c.sharedOptions env) ++ x.toList) "UseShenandoahGC" true ∧
      OnBefore (settingsIn (c.sharedOptions env) ++ x.toList) "UnlockExperimentalVMOptions"
        "UseShenandoahGC" ∧
      logAfter false (selectionsIn (c.sharedOptions env)) = true ∧
      ¬ LastSet (settingsIn (c.sharedOptions env) ++ x.toList) "DisableExplicitGC" true ∧
      ¬ LastSet (settingsIn (c.sharedOptions env) ++ x.toList) "ExplicitGCInvokesConcurrent"
        false := by
  obtain ⟨o, hrun, hsettings, hlog, hclass⟩ := simulateArgs_launch hcomplete hentry hx
  rw [hrun, hmode, Scenario.acceptsRun_concurrent_iff hexit hchannel hpatterns, ← hsettings, ← hlog,
    Options.collection_eq_shenandoahConcurrent_iff]
  constructor
  · rintro ⟨hstarts, hgc, hrequests, huses, hanswered⟩
    obtain ⟨hunlocked, _⟩ := (Options.refusal?_eq_none_iff huses).mp hstarts
    exact ⟨huses, hunlocked, hgc, hrequests, hanswered⟩
  · rintro ⟨huses, hunlocked, hgc, hrequests, hanswered⟩
    have hstarts := (Options.refusal?_eq_none_iff huses).mpr ⟨hunlocked, hclass⟩
    exact ⟨hstarts, hgc, hrequests, huses, hanswered⟩

variable (huses : LastSet (settingsIn (c.sharedOptions env) ++ x.toList) "UseShenandoahGC" true)
  (hunlocked : OnBefore (settingsIn (c.sharedOptions env) ++ x.toList)
    "UnlockExperimentalVMOptions" "UseShenandoahGC")
include huses hunlocked

/-- A scenario that wants no collection is satisfied when requests are disabled last. -/
theorem acceptsRun_launch_ignored
    (hpatterns : s.patterns = { forbidden := Scenario.concurrentMarkers ++ [Scenario.fullMarker] })
    (hdisabled : LastSet (settingsIn (c.sharedOptions env) ++ x.toList) "DisableExplicitGC" true) :
    s.AcceptsRun (simulateArgs (c.launch env s).args) := by
  obtain ⟨o, hrun, hsettings, -, hclass⟩ := simulateArgs_launch hcomplete hentry hx
  rw [← hsettings] at huses hunlocked hdisabled
  have hstarts := (Options.refusal?_eq_none_iff huses).mpr ⟨hunlocked, hclass⟩
  rw [hrun, hmode]
  exact Scenario.acceptsRun_ignored hexit hchannel hpatterns hstarts
    (Options.collection_eq_ignored hdisabled)

/-- A scenario that wants a full collection is satisfied when Shenandoah is kept from a concurrent
one. -/
theorem acceptsRun_launch_full
    (hpatterns : s.patterns =
      { required := [Scenario.fullMarker], forbidden := Scenario.concurrentMarkers })
    (hlogs : logAfter false (selectionsIn (c.sharedOptions env)) = true)
    (hrequests : ¬ LastSet (settingsIn (c.sharedOptions env) ++ x.toList) "DisableExplicitGC" true)
    (hstops : LastSet (settingsIn (c.sharedOptions env) ++ x.toList) "ExplicitGCInvokesConcurrent"
      false) :
    s.AcceptsRun (simulateArgs (c.launch env s).args) := by
  obtain ⟨o, hrun, hsettings, hlog, hclass⟩ := simulateArgs_launch hcomplete hentry hx
  rw [← hsettings] at huses hunlocked hrequests hstops
  have hstarts := (Options.refusal?_eq_none_iff huses).mpr ⟨hunlocked, hclass⟩
  rw [hrun, hmode]
  exact Scenario.acceptsRun_full hexit hchannel hpatterns hstarts (hlog.trans hlogs)
    (Options.collection_eq_shenandoahFull_iff.mpr ⟨hrequests, huses, hstops⟩)

end Launched

/-- The four built-in scenarios are all satisfied exactly if the shared options, read without any
setting of a scenario, let a request start a concurrent collection that is logged. -/
theorem forall_builtIn_acceptsRun_iff (hcomplete : Complete (c.sharedOptions env))
    (hentry : isOption c.entryPoint = false) :
    (∀ s ∈ Scenario.builtIn, s.AcceptsRun (simulateArgs (c.launch env s).args)) ↔
      LastSet (settingsIn (c.sharedOptions env)) "UseShenandoahGC" true ∧
      OnBefore (settingsIn (c.sharedOptions env)) "UnlockExperimentalVMOptions"
        "UseShenandoahGC" ∧
      logAfter false (selectionsIn (c.sharedOptions env)) = true ∧
      ¬ LastSet (settingsIn (c.sharedOptions env)) "DisableExplicitGC" true ∧
      ¬ LastSet (settingsIn (c.sharedOptions env)) "ExplicitGCInvokesConcurrent" false := by
  have hdefault := acceptsRun_launch_concurrent_iff hcomplete hentry
    (s := Scenario.builtIn[0]) (x := none) rfl rfl rfl rfl rfl
  rw [Option.toList_none, List.append_nil] at hdefault
  simp only [Scenario.builtIn, List.forall_mem_cons, List.not_mem_nil, false_imp_iff, implies_true,
    and_true]
  refine Iff.trans ⟨And.left, fun h => ?_⟩ hdefault
  obtain ⟨huses, hunlocked, hlogs, hrequests, hanswered⟩ := hdefault.mp h
  have huses' (x : Setting) (hx : x.name ≠ "UseShenandoahGC") :
      LastSet (settingsIn (c.sharedOptions env) ++ [x]) "UseShenandoahGC" true :=
    (lastSet_append_iff hx).mpr huses
  have hrequests' (x : Setting) (hx : x.name ≠ "DisableExplicitGC") :
      ¬ LastSet (settingsIn (c.sharedOptions env) ++ [x]) "DisableExplicitGC" true :=
    fun h => hrequests ((lastSet_append_iff hx).mp h)
  refine ⟨h, ?_, ?_, ?_⟩
  · exact acceptsRun_launch_ignored hcomplete hentry (x := some ⟨"DisableExplicitGC", true⟩) rfl
      rfl rfl rfl (huses' _ (by decide)) (hunlocked.append _) rfl (lastSet_append_self _ _)
  · refine (acceptsRun_launch_concurrent_iff hcomplete hentry
      (x := some ⟨"ExplicitGCInvokesConcurrent", true⟩) rfl rfl rfl rfl rfl).mpr ?_
    refine ⟨huses' _ (by decide), hunlocked.append _, hlogs, hrequests' _ (by decide), ?_⟩
    intro hstops
    cases hstops.unique (lastSet_append_self _ _)
  · exact acceptsRun_launch_full hcomplete hentry
      (x := some ⟨"ExplicitGCInvokesConcurrent", false⟩) rfl rfl rfl rfl (huses' _ (by decide))
      (hunlocked.append _) rfl hlogs (hrequests' _ (by decide)) (lastSet_append_self _ _)

/-- On simulated machines the four built-in scenarios pass exactly if, of the settings that all of
them share, the last one of Shenandoah asks for it, experimental options are unlocked before it is
asked for, the last selection for the log switches the collector's log on, and neither does the last
setting disable requests nor keep them from being answered concurrently. What they share is
determined by the configuration and the environment. -/
theorem runAll_builtIn_passes_iff (matcher : Matcher) (c : Config) (env : Environment)
    (hsim : answers.Simulated) (t : Trace) :
    (∃! shared, c.Shares env shared) ∧
    ∀ shared, c.Shares env shared → Complete shared → isOption c.entryPoint = false →
      (((runAll matcher c env answers.executor Scenario.builtIn).run t).1.outcomes.map (·.stage) =
          List.replicate 4 .passed ↔
        LastSet (settingsIn shared) "UseShenandoahGC" true ∧
        OnBefore (settingsIn shared) "UnlockExperimentalVMOptions" "UseShenandoahGC" ∧
        (∃ selection, (selectionsIn shared).getLast? = some selection ∧
          enablesGcLog selection.toList = true) ∧
        (∀ on, LastSet (settingsIn shared) "DisableExplicitGC" on → on = false) ∧
        ∀ on, LastSet (settingsIn shared) "ExplicitGCInvokesConcurrent" on → on = true) := by
  refine ⟨c.existsUnique_shares env, fun shared hshared hcomplete hentry => ?_⟩
  obtain rfl := (c.shares_iff env).mp hshared
  have hstages : ((runAll matcher c env answers.executor Scenario.builtIn).run t).1.outcomes.map
      (·.stage) = List.replicate 4 .passed ↔
      ∀ s ∈ Scenario.builtIn, s.AcceptsRun (simulateArgs (c.launch env s).args) := by
    rw [runAll_run, List.eq_replicate_iff, List.length_map, length_outcomesAfter,
      ← forall_passed_iff_acceptsRun hsim t.launches, List.forall_mem_map]
    exact and_iff_right rfl
  rw [hstages, forall_builtIn_acceptsRun_iff hcomplete hentry, ← logAfter_false_iff]
  simp only [Bool.forall_bool, imp_false, reduceCtorEq, true_and, implies_true, and_true]

/-- All four pass although Shenandoah is turned off first and the size of the heap reads like the
marker of a full collection; it is a variable that asks for Shenandoah and for the log. -/
theorem runAll_builtIn_passes_marker_heap :
    let c : Config := {
      baseFlags := ["-XmxPause Full", "-XX:-UseShenandoahGC", "-XX:+UnlockExperimentalVMOptions"]
      vmOptsEnv := "OPTS" }
    let env : Environment :=
      ⟨[("OPTS", Text.Utf8.encode " -XX:+UseShenandoahGC\t-Xlog:safepoint,gc* ")]⟩
    let shared := c.baseFlags ++ ["-XX:+UseShenandoahGC", "-Xlog:safepoint,gc*"]
    let answers : Answers := fun _ spec => .ok (simulateArgs spec.args).capture
    c.Shares env shared ∧ Complete shared ∧ isOption c.entryPoint = false ∧ answers.Simulated ∧
      ((runAll Pattern.compile c env answers.executor Scenario.builtIn).run {}).1.outcomes.map
        (·.stage) = List.replicate 4 .passed := by
  intro c env shared answers
  have hshared : c.Shares env shared := (c.shares_iff env).mpr (by decide)
  have hcomplete : Complete shared :=
    .plain (by decide) (by decide) <| .plain (by decide) (by decide) <|
      .plain (by decide) (by decide) <| .plain (by decide) (by decide) <|
        .plain (by decide) (by decide) .nil
  have hentry : isOption c.entryPoint = false := by decide
  have hsim : answers.Simulated := fun _ _ => ⟨none, 0, rfl⟩
  have hsettings : settingsIn shared =
      [⟨"UseShenandoahGC", false⟩, ⟨"UnlockExperimentalVMOptions", true⟩,
        ⟨"UseShenandoahGC", true⟩] := by
    decide
  obtain ⟨-, hpasses⟩ := runAll_builtIn_passes_iff Pattern.compile c env hsim {}
  refine ⟨hshared, hcomplete, hentry, hsim, (hpasses shared hshared hcomplete hentry).mpr ?_⟩
  rw [hsettings]
  refine ⟨lastSet_append_self [⟨"UseShenandoahGC", false⟩, ⟨"UnlockExperimentalVMOptions", true⟩] _,
    ⟨[⟨"UseShenandoahGC", false⟩], _, rfl, by decide⟩, ⟨":safepoint,gc*", by decide, by decide⟩,
    ?_, ?_⟩
  · intro on hlast
    exact absurd hlast.mem (by simp)
  · intro on hlast
    exact absurd hlast.mem (by simp)

end Session

end PauseWatch
