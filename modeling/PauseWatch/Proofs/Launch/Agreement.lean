import PauseWatch.Config.Basic
import PauseWatch.Proofs.Jvm.Reading
import PauseWatch.Proofs.Jvm.Settings
import PauseWatch.Proofs.Launch.Building

/-!
# Launches as the machine reads them

The options of a launch are those of every launch, the words that a variable brings and the option
of the scenario, in this order. When they are complete and the entry point does not look like an
option, the machine reads from the launch exactly the settings, the class path, the entry point and
the mode that the configuration and the scenario ask for.
-/

namespace PauseWatch.Config

open Jvm

/-- The options that all scenarios share: those of the configuration, and behind them what the
variable brings that the configuration names. -/
inductive Shares (c : Config) (env : Environment) : List String → Prop where
  /-- Without a name of a variable there is nothing else. -/
  | unnamed (noName : c.vmOptsEnv = "") : Shares c env c.baseFlags
  /-- The variable that is named brings words. -/
  | named {words : List String} (name : c.vmOptsEnv ≠ "")
      (brings : env.Brings c.vmOptsEnv words) : Shares c env (c.baseFlags ++ words)

/-- The options that every scenario is launched with. -/
def sharedOptions (c : Config) (env : Environment) : List String :=
  c.baseFlags ++ (if c.vmOptsEnv = "" then [] else env.words c.vmOptsEnv)

/-- The options that a scenario is launched with. -/
def optionsFor (c : Config) (env : Environment) (s : Scenario) : List String :=
  c.sharedOptions env ++ s.flag.toList

/-- The class path as options. -/
def classpathOptions (c : Config) : List String :=
  (c.classpath.map fun path => ["-cp", path]).getD []

variable (c : Config) (env : Environment) (s : Scenario)

/-- Every scenario is launched with the options that all scenarios share. -/
theorem shares_iff {shared : List String} :
    c.Shares env shared ↔ shared = c.sharedOptions env := by
  rw [sharedOptions]
  constructor
  · rintro (noName | ⟨name, brings⟩)
    · rw [if_pos noName, List.append_nil]
    · rw [if_neg name, Environment.words_eq_iff.mpr brings]
  · rintro rfl
    split_ifs with noName
    · rw [List.append_nil]
      exact .unnamed noName
    · exact .named noName (Environment.words_eq_iff.mp rfl)

/-- The shared options are determined by the configuration and the environment. -/
theorem existsUnique_shares : ∃! shared, c.Shares env shared :=
  ⟨_, (shares_iff c env).mpr rfl, fun _ => (shares_iff c env).mp⟩

/-- A launch has its options first, then the class path, the entry point and the arguments. -/
theorem args_launch :
    (c.launch env s).args =
      (c.optionsFor env s ++ c.classpathOptions) ++ c.entryPoint :: s.mode.programArgs := by
  rw [launch, LaunchBuilder.addAll, launchSteps, optionsFor, sharedOptions, classpathOptions]
  cases c.classpath <;> by_cases hv : c.vmOptsEnv = "" <;>
    simp [LaunchBuilder.add, LaunchBuilder.build, hv]

theorem complete_classpathOptions : Complete c.classpathOptions := by
  rw [classpathOptions]
  cases c.classpath with
  | none => exact .nil
  | some path => exact .classpath path (by decide) .nil

/-- The class path of the configuration, if it has one, replaces any other. -/
theorem taking_classpathOptions (o : Options) :
    o.taking c.classpathOptions = { o with classpath := c.classpath.or o.classpath } := by
  rw [classpathOptions]
  cases c.classpath with
  | none => exact Options.taking_nil o
  | some path =>
    rw [Option.map_some, Option.getD_some, ← Options.classpath_taking path (by decide),
      Options.taking_nil, Option.some_or]

variable {c env s}

/-- The options of a launch as the machine reads them. -/
theorem read_launch (h : Complete (c.optionsFor env s)) (hentry : isOption c.entryPoint = false) :
    Options.read (c.launch env s).args =
      { Options.taking {} (c.optionsFor env s) with
        classpath := c.classpath.or (classpaths (c.optionsFor env s)).getLast?
        entryPoint := some c.entryPoint
        programArgs := s.mode.programArgs } := by
  have hgiven : (Options.taking {} (c.optionsFor env s)).classpath =
      (classpaths (c.optionsFor env s)).getLast? := Option.or_none
  rw [args_launch, Options.read_entryPoint (h.append c.complete_classpathOptions) hentry,
    Options.taking_append h, taking_classpathOptions, hgiven]

/-- Shared options and a setting of the scenario, as the machine reads them. -/
theorem read_launch_setting (h : Complete (c.sharedOptions env))
    (hentry : isOption c.entryPoint = false) {x : Option Setting}
    (hx : s.flag = x.map Setting.word) :
    let o := Options.read (c.launch env s).args
    o.settings = settingsIn (c.sharedOptions env) ++ x.toList ∧
      o.gcLog = logAfter false (selectionsIn (c.sharedOptions env)) ∧
      o.entryPoint = some c.entryPoint ∧ Mode.ofArgs o.programArgs = s.mode := by
  have hcomplete : Complete (c.optionsFor env s) := by
    rw [optionsFor, hx]
    cases x with
    | none => exact h.append .nil
    | some x => exact h.append (.setting x)
  have hsettings : settingsIn (c.optionsFor env s) =
      settingsIn (c.sharedOptions env) ++ x.toList := by
    rw [optionsFor, hx, h.settingsIn_append]
    cases x with
    | none => rfl
    | some x => rw [Option.map_some, Option.toList_some, settingsIn_setting, Option.toList_some]
  have hselections : selectionsIn (c.optionsFor env s) = selectionsIn (c.sharedOptions env) := by
    rw [optionsFor, hx, h.selectionsIn_append]
    cases x with
    | none => exact List.append_nil _
    | some x => rw [Option.map_some, Option.toList_some, selectionsIn_setting, List.append_nil]
  rw [read_launch hcomplete hentry]
  refine ⟨?_, ?_, rfl, Mode.ofArgs_programArgs _⟩
  · rw [Options.taking, hsettings, List.nil_append]
  · rw [Options.taking, hselections]

/-- What a machine has understood that was launched for a scenario with the shared options. -/
structure Understood (c : Config) (s : Scenario) (shared : List String) (o : Options) : Prop where
  /-- It runs the class that the configuration names. -/
  entryPoint_eq : o.entryPoint = some c.entryPoint
  /-- The program gets the arguments of the mode. -/
  programArgs_eq : o.programArgs = s.mode.programArgs
  /-- What the program does is the mode of the scenario. -/
  mode_eq : Mode.ofArgs o.programArgs = s.mode
  /-- The class path is the one of the configuration, or else the last one among the options. -/
  classpath_eq : o.classpath = c.classpath.or (classpaths (shared ++ s.flag.toList)).getLast?
  /-- The settings are those among the options, in order. -/
  settings_eq : o.settings = settingsIn (shared ++ s.flag.toList)
  /-- As options, the settings are the words that turn a switch on or off. -/
  words_eq : o.settings.map Setting.word =
    (plainOptions (shared ++ s.flag.toList)).filter isSwitch
  /-- A switch is on or off as the last setting of it says. -/
  set_iff : ∀ name on, o.setting? name = some on ↔
    LastSet (settingsIn (shared ++ s.flag.toList)) name on
  /-- A switch is unset exactly if no option sets it. -/
  unset_iff : ∀ name, o.setting? name = none ↔
    ∀ x ∈ settingsIn (shared ++ s.flag.toList), x.name ≠ name
  /-- The setting of a scenario counts whatever complete shared options say. -/
  flag_counts : ∀ x : Setting, s.flag = some x.word → Complete shared →
    o.setting? x.name = some x.on
  /-- Shared options that are not complete take the setting of a scenario as the class path. -/
  flag_taken : ∀ x : Setting, s.flag = some x.word → ¬ Complete shared →
    (classpaths (shared ++ s.flag.toList)).getLast? = some x.word

/-- The options that all scenarios share are determined by the configuration and the environment. A
machine understands a launch with complete options as the configuration and the scenario mean it. -/
theorem read_launch_understood (c : Config) (env : Environment) (s : Scenario) :
    (∃! shared, c.Shares env shared) ∧
    ∀ shared, c.Shares env shared → Complete (shared ++ s.flag.toList) →
      isOption c.entryPoint = false →
        c.Understood s shared (Options.read (c.launch env s).args) := by
  refine ⟨existsUnique_shares c env, fun shared hshared h hentry => ?_⟩
  obtain rfl := (shares_iff c env).mp hshared
  have hread : Options.read (c.launch env s).args = _ := read_launch h hentry
  have hsettings : (Options.read (c.launch env s).args).settings =
      settingsIn (c.optionsFor env s) := by
    rw [hread]
    rfl
  have hargs : (Options.read (c.launch env s).args).programArgs = s.mode.programArgs := by
    rw [hread]
  have hlast (name : String) (on : Bool) :
      (Options.read (c.launch env s).args).setting? name = some on ↔
        LastSet (settingsIn (c.optionsFor env s)) name on := by
    rw [Options.setting?_eq_some_iff, hsettings]
  constructor
  case entryPoint_eq => rw [hread]
  case programArgs_eq => exact hargs
  case mode_eq => rw [hargs, Mode.ofArgs_programArgs]
  case classpath_eq =>
    rw [hread]
    rfl
  case settings_eq => exact hsettings
  case words_eq =>
    rw [hsettings, map_word_settingsIn]
    rfl
  case set_iff => exact hlast
  case unset_iff =>
    intro name
    rw [Options.setting?_eq_none_iff, hsettings]
    rfl
  case flag_counts =>
    intro x hx hcomplete
    rw [hlast, optionsFor, hx, Option.toList_some, hcomplete.settingsIn_append, settingsIn_setting]
    exact lastSet_append_self _ x
  case flag_taken =>
    intro x hx hcomplete
    rw [hx, Option.toList_some] at h ⊢
    exact h.of_append_singleton.resolve_left hcomplete

/-- A class path from a variable that looks like a setting is none, the setting of the scenario
counts, and other words of the variable count as well. -/
theorem read_launch_understood_classpath :
    let c : Config := { baseFlags := ["-Xmx1m"], vmOptsEnv := "OPTS" }
    let env : Environment := ⟨[("OPTS", Text.Utf8.encode " -XX:+C -cp -XX:+A\t-XX:+B ")]⟩
    let s : Scenario := { name := "off", flag := some "-XX:-B" }
    let shared := ["-Xmx1m", "-XX:+C", "-cp", "-XX:+A", "-XX:+B"]
    c.Shares env shared ∧ Complete (shared ++ s.flag.toList) ∧ isOption c.entryPoint = false ∧
      (Options.read (c.launch env s).args).classpath = some "-XX:+A" ∧
      (Options.read (c.launch env s).args).setting? "A" = none ∧
      (Options.read (c.launch env s).args).setting? "B" = some false ∧
      (Options.read (c.launch env s).args).setting? "C" = some true := by
  intro c env s shared
  have hshared : c.Shares env shared := (shares_iff c env).mpr (by decide)
  have hcomplete : Complete (shared ++ s.flag.toList) :=
    .plain (by decide) (by decide) <| .plain (by decide) (by decide) <|
      .classpath _ (by decide) <| .plain (by decide) (by decide) <|
        .plain (by decide) (by decide) .nil
  have hentry : isOption c.entryPoint = false := by decide
  have hall := (read_launch_understood c env s).2 shared hshared hcomplete hentry
  refine ⟨hshared, hcomplete, hentry, ?_, ?_, ?_, ?_⟩
  · rw [hall.classpath_eq]
    rfl
  · rw [hall.unset_iff]
    decide
  · rw [hall.set_iff]
    exact ⟨[⟨"C", true⟩, ⟨"B", true⟩], [], rfl, fun _ hm => (List.not_mem_nil hm).elim⟩
  · rw [hall.set_iff]
    exact ⟨[], [⟨"B", true⟩, ⟨"B", false⟩], rfl, by decide⟩

end PauseWatch.Config
