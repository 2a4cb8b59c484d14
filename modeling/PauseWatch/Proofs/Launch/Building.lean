import PauseWatch.Launch.Builder
import PauseWatch.Proofs.Text.Utf8
import PauseWatch.Proofs.Text.Words

/-!
# What steps build

Every step adds options, adds program arguments, or sets the entry point or the working directory.
However the steps are mixed, the options of all steps come first, then the entry point that was set
last, then the arguments of all steps; so only the order within each kind of step counts. A variable
adds the words of its value, cut where blanks stand, if its value is text.
-/

namespace PauseWatch

/-- What a variable adds to the options. -/
inductive Environment.Brings (env : Environment) (name : String) : List String → Prop where
  /-- A value that is text brings its words. -/
  | words {text : String} {words : List (List Char)}
      (isText : env.get? name = some (Text.Utf8.encode text))
      (cuts : Text.Cuts Text.isBlank Text.ShowsItself text.toList words) :
      Brings env name (words.map String.ofList)
  /-- A variable that is unset, or no text, brings nothing. -/
  | nothing (noText : ∀ text, env.get? name ≠ some (Text.Utf8.encode text)) : Brings env name []

/-- The words of a variable are those that it brings. -/
theorem Environment.words_eq_iff {env : Environment} {name : String} {words : List String} :
    env.words name = words ↔ env.Brings name words := by
  have htext (text : String) : env.text? name = some text ↔
      env.get? name = some (Text.Utf8.encode text) := by
    rw [text?, Option.bind_eq_some_iff]
    simp only [Text.Utf8.decode?_eq_some_iff, exists_eq_right]
  rw [Environment.words]
  cases hvalue : env.text? name with
  | none =>
    have hno (text : String) : env.get? name ≠ some (Text.Utf8.encode text) := by
      rw [ne_eq, ← htext, hvalue]
      exact (Option.some_ne_none text).symm
    rw [Option.elim_none]
    constructor
    · rintro rfl
      exact .nothing hno
    · rintro (⟨isText, -⟩ | -)
      · exact absurd isText (hno _)
      · rfl
  | some text =>
    have hset := (htext text).mp hvalue
    rw [Option.elim_some, Text.words]
    constructor
    · rintro rfl
      exact .words hset (Text.wordsOf_eq_iff.mp rfl)
    · rintro (⟨isText, cuts⟩ | noText)
      · rw [← htext, hvalue, Option.some.injEq] at isText
        rw [isText, cuts.wordsOf_eq]
      · exact absurd hset (noText text)

namespace LaunchStep

/-- The options that a step adds. -/
def options (env : Environment) : LaunchStep → List String
  | .flag word => [word]
  | .flags words => words
  | .flagsFromEnv name => env.words name
  | _ => []

/-- The program arguments that a step adds. -/
def arguments : LaunchStep → List String
  | .arg word => [word]
  | .args words => words
  | _ => []

/-- The entry point that a step sets. -/
def entryPoint? : LaunchStep → Option String
  | .entryPoint word => some word
  | _ => none

/-- The working directory that a step sets. -/
def dir? : LaunchStep → Option String
  | .dir path => some path
  | _ => none

/-- Whether a step is of a kind that adds options. -/
def isOptionStep : LaunchStep → Bool
  | .flag _ | .flags _ | .flagsFromEnv _ => true
  | _ => false

/-- Whether a step is of a kind that adds program arguments. -/
def isArgumentStep : LaunchStep → Bool
  | .arg _ | .args _ => true
  | _ => false

/-- The entry point that was set last. -/
def lastEntryPoint? (steps : List LaunchStep) : Option String :=
  (steps.filterMap entryPoint?).getLast?

/-- The working directory that was set last. -/
def lastDir? (steps : List LaunchStep) : Option String := (steps.filterMap dir?).getLast?

/-- Only the steps of a kind contribute what that kind adds. -/
private theorem flatMap_filter {α : Type} {isKind : LaunchStep → Bool} {f : LaunchStep → List α}
    (h : ∀ step, isKind step = false → f step = []) (steps : List LaunchStep) :
    (steps.filter isKind).flatMap f = steps.flatMap f := by
  induction steps with
  | nil => rfl
  | cons step rest ih =>
    cases hkind : isKind step with
    | true => rw [List.filter_cons_of_pos hkind, List.flatMap_cons, List.flatMap_cons, ih]
    | false =>
      rw [List.filter_cons_of_neg (by simp [hkind]), List.flatMap_cons, h step hkind, ih,
        List.nil_append]

/-- Only the steps that add options decide the options. -/
theorem flatMap_options_filter (env : Environment) (steps : List LaunchStep) :
    (steps.filter isOptionStep).flatMap (·.options env) = steps.flatMap (·.options env) :=
  flatMap_filter (fun step h => by cases step <;> first | rfl | cases h) steps

/-- Only the steps that add arguments decide the arguments. -/
theorem flatMap_arguments_filter (steps : List LaunchStep) :
    (steps.filter isArgumentStep).flatMap arguments = steps.flatMap arguments :=
  flatMap_filter (fun step h => by cases step <;> first | rfl | cases h) steps

end LaunchStep

namespace LaunchBuilder

open LaunchStep

variable (env : Environment) (b : LaunchBuilder)

/-- A step adds its options and arguments behind those that are there, and replaces what it sets. -/
theorem add_eq (step : LaunchStep) : b.add env step =
    { program := b.program
      flags := b.flags ++ step.options env
      entryPoint := step.entryPoint?.or b.entryPoint
      args := b.args ++ step.arguments
      dir := step.dir?.or b.dir } := by
  cases step <;> simp [add, options, arguments, entryPoint?, dir?]

theorem addAll_concat (steps : List LaunchStep) (step : LaunchStep) :
    b.addAll env (steps ++ [step]) = (b.addAll env steps).add env step :=
  List.foldl_append

/-- Steps add their options and arguments in order, and of what they set the last one counts. -/
theorem addAll_eq (steps : List LaunchStep) : b.addAll env steps =
    { program := b.program
      flags := b.flags ++ steps.flatMap (·.options env)
      entryPoint := (lastEntryPoint? steps).or b.entryPoint
      args := b.args ++ steps.flatMap arguments
      dir := (lastDir? steps).or b.dir } := by
  induction steps using List.reverseRecOn with
  | nil => simp [addAll, lastEntryPoint?, lastDir?]
  | append_singleton steps step ih =>
    have hlast {α : Type} (f : LaunchStep → Option α) (before : Option α) :
        ((steps ++ [step]).filterMap f).getLast?.or before =
          (f step).or ((steps.filterMap f).getLast?.or before) := by
      rw [List.filterMap_append, List.getLast?_append, Option.or_assoc]
      cases hstep : f step <;> simp [hstep]
    rw [addAll_concat, ih, add_eq]
    simp only [lastEntryPoint?, lastDir?, hlast, List.flatMap_append, List.flatMap_singleton,
      List.append_assoc]

variable {env b}

/-- What a fresh builder makes of steps. -/
theorem build_addAll_eq (program : String) (steps : List LaunchStep) :
    (addAll env { program } steps).build =
      ⟨program, steps.flatMap (·.options env) ++ (lastEntryPoint? steps).toList ++
        steps.flatMap arguments, lastDir? steps⟩ := by
  rw [addAll_eq, build]
  simp only [List.nil_append, Option.or_none]

/-- A launch consists of the program, the options of all steps, the entry point set last and the
arguments of all steps, and has the working directory set last; a variable has brought the words of
its value if that is text. Steps that differ only in how steps of different kinds are mixed build
the same launch, and the words of a launch make one with its program and arguments. -/
theorem build_addAll (env : Environment) (program : String) (steps : List LaunchStep) :
    let built (steps : List LaunchStep) : LaunchSpec := (addAll env { program } steps).build
    (built steps).argv = program :: (steps.flatMap (·.options env) ++
      (lastEntryPoint? steps).toList ++ steps.flatMap arguments) ∧
    (built steps).dir = lastDir? steps ∧
    (∀ name words, env.words name = words ↔ env.Brings name words) ∧
    (∀ other, other.filter isOptionStep = steps.filter isOptionStep →
      other.filter isArgumentStep = steps.filter isArgumentStep →
      lastEntryPoint? other = lastEntryPoint? steps → lastDir? other = lastDir? steps →
      built other = built steps) ∧
    LaunchSpec.ofArgv? (built steps).argv = some { built steps with dir := none } := by
  intro built
  have hbuilt (steps : List LaunchStep) : built steps = _ := build_addAll_eq program steps
  refine ⟨?_, ?_, fun _ _ => Environment.words_eq_iff, ?_, LaunchSpec.ofArgv?_argv _⟩
  · rw [hbuilt]
    rfl
  · rw [hbuilt]
  · intro other hoptions harguments hentry hdir
    rw [hbuilt, hbuilt, ← flatMap_options_filter env other, hoptions, flatMap_options_filter,
      ← flatMap_arguments_filter other, harguments, flatMap_arguments_filter, hentry, hdir]

/-- Options from a variable, mixed with other steps, and an entry point and a directory that are set
again later. -/
theorem build_addAll_interleaved :
    let env : Environment := ⟨[("OPTS", Text.Utf8.encode " -Xint\t -Xlog:gc ")]⟩
    let steps : List LaunchStep := [.flag "-Xmx1m", .flagsFromEnv "OPTS", .entryPoint "Old",
      .args ["test"], .dir "/old", .entryPoint "Main", .dir "/tmp"]
    let other : List LaunchStep := [.dir "/tmp", .args ["test"], .flag "-Xmx1m", .entryPoint "Main",
      .flagsFromEnv "OPTS"]
    other.filter isOptionStep = steps.filter isOptionStep ∧
      other.filter isArgumentStep = steps.filter isArgumentStep ∧
      lastEntryPoint? other = lastEntryPoint? steps ∧ lastDir? other = lastDir? steps ∧
      (addAll env { program := "java" } other).build =
        (addAll env { program := "java" } steps).build ∧
      (addAll env { program := "java" } steps).build.argv =
        ["java", "-Xmx1m", "-Xint", "-Xlog:gc", "Main", "test"] := by
  intro env steps other
  have hoptions : other.filter isOptionStep = steps.filter isOptionStep := by decide
  have harguments : other.filter isArgumentStep = steps.filter isArgumentStep := by decide
  have hentry : lastEntryPoint? other = lastEntryPoint? steps := by decide
  have hdir : lastDir? other = lastDir? steps := by decide
  obtain ⟨hargv, -, -, hsame, -⟩ := build_addAll env "java" steps
  exact ⟨hoptions, harguments, hentry, hdir, hsame other hoptions harguments hentry hdir,
    hargv.trans (by decide)⟩

end LaunchBuilder

end PauseWatch
