import PauseWatch.Config.Basic
import PauseWatch.Proofs.Json.Records

/-!
# Formats of the library in JSON

Expectations, pattern sets, scenarios and configurations are read back from what is written for
them. An object is read the same when its entries stand in another order, when unknown entries are
added, and when entries with their default are left out; the scenarios of a configuration may be
written differently in the same way, and the markers of a scenario stand among its own entries.
-/

namespace PauseWatch

open Json

section Values

variable {α : Type}

/-- A value that may be missing is read back if it is not written as null. -/
theorem nullable?_ofOption {encode : α → Json} {read : Reader α}
    (hread : ∀ a, read (encode a) = some a) (hnull : ∀ a, encode a ≠ .null) (value : Option α) :
    nullable? read (ofOption encode value) = some value := by
  cases value with
  | none => rfl
  | some a =>
    have hsome : nullable? read (encode a) = (read (encode a)).map some := by
      unfold nullable?
      split
      · exact absurd ‹_› (hnull a)
      · rfl
    rw [ofOption, hsome, hread, Option.map_some]

/-- An array of values is read back if its items are. -/
theorem list?_map {encode : α → Json} {read : Reader α} (hread : ∀ a, read (encode a) = some a)
    (values : List α) : list? read (.arr (values.map encode)) = some values := by
  change (values.map encode).mapM read = some values
  induction values with
  | nil => rfl
  | cons a rest ih => rw [List.map_cons, List.mapM_cons, hread, ih]; rfl

theorem text?_str (text : String) : text? (.str text) = some text := rfl

@[simp] theorem list?_strs (texts : List String) : list? text? (strs texts) = some texts :=
  list?_map text?_str texts

@[simp] theorem nullable?_text (text : Option String) :
    nullable? text? (ofOption .str text) = some text :=
  nullable?_ofOption text?_str (fun _ h => Json.noConfusion h) text

/-- Every signed number of 32 bits is in the range that is read. -/
@[simp] theorem int32?_toInt (n : Int32) : int32? (.int n.toInt) = some n := by
  have hlow := n.le_toInt
  have hhigh := n.toInt_lt
  rw [int32?, intIn?, if_pos (by omega), Option.map_some, Int32.ofInt_toInt]

@[simp] theorem nullable?_int32 (n : Option Int32) :
    nullable? int32? (ofOption (fun code => .int code.toInt) n) = some n :=
  nullable?_ofOption int32?_toInt (fun _ h => Json.noConfusion h) n

/-- Every unsigned number of 64 bits is in the range that is read. -/
@[simp] theorem uint64?_toNat (n : UInt64) : uint64? (.nat n.toNat) = some n := by
  have hhigh := n.toNat_lt
  rw [Json.nat, uint64?, intIn?, if_pos (by omega), Option.map_some, Int.toNat_natCast,
    UInt64.ofNat_toNat]

@[simp] theorem Mode.ofJson?_toJson (mode : Mode) : Mode.ofJson? mode.toJson = some mode :=
  Mode.ofName?_name mode

@[simp] theorem Channel.ofJson?_toJson (channel : Channel) :
    Channel.ofJson? channel.toJson = some channel :=
  Channel.ofName?_name channel

end Values

/-- How the values of a type are written and read, and what their objects know. -/
structure Format (α : Type) where
  /-- Writes a value. -/
  toJson : α → Json
  /-- Reads a value. -/
  ofJson? : Json → Option α
  /-- What there is to know about the objects. -/
  kind : RecordKind

/-- A format gives back what was written and does not notice what its objects do not know. -/
structure Format.Faithful {α : Type} (f : Format α) : Prop where
  /-- A value is read back from what is written for it. -/
  ofJson?_toJson : ∀ a, f.ofJson? (f.toJson a) = some a
  /-- A value is written as an object with distinct keys. -/
  toJson_distinct : ∀ a, ∃ entries : Entries, f.toJson a = .obj entries ∧ entries.Distinct
  /-- An object with distinct keys is read the same, whatever it is read as, when entries are
  reordered, unknown entries are added, and entries with their default are left out. -/
  ofJson?_restated : ∀ entries entries' : Entries, entries.Distinct →
    f.kind.Restates entries entries' → f.ofJson? (.obj entries') = f.ofJson? (.obj entries)

namespace PatternSet

/-- A value of an entry of a pattern set that is read as the default. -/
def IsDefault : String → Json → Prop
  | "required", value | "forbidden", value => list? text? value = some []
  | _, _ => False

/-- Pattern sets as objects. -/
def format : Format PatternSet where
  toJson := toJson
  ofJson? := ofJson?
  kind := { known := ["required", "forbidden"], IsDefault }

/-- The entries of a pattern set are read the same after a change of the object around them. -/
theorem ofEntries?_change {kind : RecordKind} {entries entries' : Entries}
    (h : kind.Change entries entries') (hd : entries.Distinct)
    (hrequired : "required" ∈ kind.known) (hforbidden : "forbidden" ∈ kind.known)
    (hdefault : ∀ key ∈ ["required", "forbidden"], ∀ value, kind.IsDefault key value →
      list? text? value = some [])
    (hagree : ∀ key ∈ ["required", "forbidden"], ∀ value value', ¬ kind.Agree key value value') :
    ofEntries? entries' = ofEntries? entries := by
  rw [ofEntries?, ofEntries?,
    h.optional?_eq hd hrequired (hdefault _ (by simp))
      (fun value value' ha => absurd ha (hagree _ (by simp) value value')),
    h.optional?_eq hd hforbidden (hdefault _ (by simp))
      (fun value value' ha => absurd ha (hagree _ (by simp) value value'))]

theorem ofJson?_toJson (p : PatternSet) : ofJson? p.toJson = some p := by
  simp [ofJson?, toJson, toEntries, record?, ofEntries?, optional?, List.lookup_cons]

theorem format_faithful : format.Faithful where
  ofJson?_toJson := ofJson?_toJson
  toJson_distinct p := ⟨p.toEntries, rfl, by simp [Entries.Distinct, toEntries]⟩
  ofJson?_restated entries entries' hd h := by
    refine RecordKind.Restates.eq (f := fun e => ofJson? (.obj e))
      (fun hchange hdistinct => ?_) h hd
    refine ofEntries?_change hchange hdistinct (by simp [format]) (by simp [format]) ?_ ?_
    · simp [format, IsDefault]
    · simp [format]

end PatternSet

namespace Expectation

/-- Expectations as objects. -/
def format : Format Expectation where
  toJson := toJson
  ofJson? := ofJson?
  kind := { known := ["kind", "value"], IsDefault := fun _ _ => False }

theorem ofJson?_toJson (e : Expectation) : ofJson? e.toJson = some e := by
  cases e <;>
    simp [ofJson?, toJson, record?, required?, List.lookup_cons, name?, kind, value, ofKind?,
      text?_str]

theorem format_faithful : format.Faithful where
  ofJson?_toJson := ofJson?_toJson
  toJson_distinct e :=
    ⟨[("kind", .str e.kind), ("value", e.value)], rfl, by simp [Entries.Distinct]⟩
  ofJson?_restated entries entries' hd h := by
    refine RecordKind.Restates.eq (f := fun e => ofJson? (.obj e))
      (fun hchange hdistinct => ?_) h hd
    simp only [ofJson?, record?, Option.bind_eq_bind, Option.bind_some]
    rw [hchange.required?_eq hdistinct (by simp [format]) (by simp [format]) (by simp [format])]
    refine congrArg _ (funext fun kind => ?_)
    rw [hchange.required?_eq hdistinct (by simp [format]) (by simp [format]) (by simp [format])]

end Expectation

namespace Scenario

/-- A value of an entry of a scenario that is read as the default. The default mode of a scenario is
to ask for a collection. -/
def IsDefault : String → Json → Prop
  | "description", value => text? value = some ""
  | "flag", value => nullable? text? value = some none
  | "mode", value => Mode.ofJson? value = some .requestCollection
  | "required", value | "forbidden", value => list? text? value = some []
  | "stream", value => Channel.ofJson? value = some .stdout
  | "expected_exit", value => nullable? int32? value = some none
  | _, _ => False

/-- Scenarios as objects, with the entries of their pattern sets among their own. -/
def format : Format Scenario where
  toJson := toJson
  ofJson? := ofJson?
  kind :=
    { known := ["name", "description", "flag", "mode", "required", "forbidden", "stream",
        "expected_exit"]
      IsDefault }

theorem ofJson?_toJson (s : Scenario) : ofJson? s.toJson = some s := by
  simp [ofJson?, toJson, entries?, required?, optional?, List.lookup_cons, PatternSet.toEntries,
    PatternSet.ofEntries?, text?_str]

theorem ofJson?_change {entries entries' : Entries} (h : format.kind.Change entries entries')
    (hd : entries.Distinct) : ofJson? (.obj entries') = ofJson? (.obj entries) := by
  have hoptional {α : Type} (key : String) {read : Reader α} {default : α}
      (known : key ∈ format.kind.known)
      (hdefault : ∀ value, IsDefault key value → read value = some default) :
      optional? entries' key default read = optional? entries key default read :=
    h.optional?_eq hd known hdefault fun _ _ ha => ha.elim
  have hname : required? entries' "name" text? = required? entries "name" text? :=
    h.required?_eq hd (by simp [format]) (by simp [format, IsDefault]) fun _ _ => id
  have hpatterns : PatternSet.ofEntries? entries' = PatternSet.ofEntries? entries :=
    PatternSet.ofEntries?_change h hd (by simp [format]) (by simp [format])
      (by simp [format, IsDefault]) fun _ _ _ _ => id
  simp only [ofJson?, entries?, Option.bind_eq_bind, Option.bind_some]
  rw [hname, hpatterns, hoptional "description" (by simp [format]) fun _ => id,
    hoptional "flag" (by simp [format]) fun _ => id,
    hoptional "mode" (by simp [format]) fun _ => id,
    hoptional "stream" (by simp [format]) fun _ => id,
    hoptional "expected_exit" (by simp [format]) fun _ => id]

theorem format_faithful : format.Faithful where
  ofJson?_toJson := ofJson?_toJson
  toJson_distinct s := ⟨_, rfl, by simp [Entries.Distinct, PatternSet.toEntries]⟩
  ofJson?_restated entries entries' hd h :=
    RecordKind.Restates.eq (f := fun e => ofJson? (.obj e)) ofJson?_change h hd

/-- A scenario is read the same when its object is written differently. -/
theorem ofJson?_restatesValue {value value' : Json} (h : format.kind.RestatesValue value value') :
    ofJson? value' = ofJson? value := by
  cases h with
  | refl => rfl
  | record distinct restates => exact format_faithful.ofJson?_restated _ _ distinct restates

end Scenario

namespace Config

/-- A value of an entry of a configuration that is read as the default. -/
def IsDefault : String → Json → Prop
  | "java", value | "classpath", value => nullable? text? value = some none
  | "entry_point", value => text? value = some ({} : Config).entryPoint
  | "base_flags", value => list? text? value = some ({} : Config).baseFlags
  | "timeout_secs", value => uint64? value = some ({} : Config).timeoutSecs
  | "vm_opts_env", value => text? value = some ({} : Config).vmOptsEnv
  | "scenario", value => list? Scenario.ofJson? value = some []
  | _, _ => False

/-- Two arrays of scenarios that hold the same scenarios, written differently. -/
inductive Agree : String → Json → Json → Prop where
  /-- The scenarios are written differently one by one. -/
  | scenarios {items items' : List Json}
      (restates : List.Forall₂ Scenario.format.kind.RestatesValue items items') :
      Agree "scenario" (.arr items) (.arr items')

/-- Configurations as objects. -/
def format : Format Config where
  toJson := toJson
  ofJson? := ofJson?
  kind := { known := fields, IsDefault, Agree }

theorem ofJson?_toJson (c : Config) : ofJson? c.toJson = some c := by
  simp [ofJson?, toJson, record?, optional?, List.lookup_cons, text?_str,
    list?_map Scenario.ofJson?_toJson]

theorem ofJson?_change {entries entries' : Entries} (h : format.kind.Change entries entries')
    (hd : entries.Distinct) : ofJson? (.obj entries') = ofJson? (.obj entries) := by
  have hoptional {α : Type} (key : String) {read : Reader α} {default : α}
      (known : key ∈ format.kind.known) (hkey : key ≠ "scenario")
      (hdefault : ∀ value, IsDefault key value → read value = some default) :
      optional? entries' key default read = optional? entries key default read := by
    refine h.optional?_eq hd known hdefault fun value value' ha => ?_
    cases ha
    exact absurd rfl hkey
  have hscenarios : optional? entries' "scenario" [] (list? Scenario.ofJson?) =
      optional? entries "scenario" [] (list? Scenario.ofJson?) := by
    refine h.optional?_eq hd (by simp [format, fields]) (fun _ => id) fun value value' ha => ?_
    cases ha with
    | scenarios restates =>
      exact RecordKind.list?_eq_of_forall₂
        (restates.imp fun _ _ => Scenario.ofJson?_restatesValue)
  simp only [ofJson?, record?, Option.bind_eq_bind, Option.bind_some]
  rw [hscenarios, hoptional "java" (by simp [format, fields]) (by decide) fun _ => id,
    hoptional "classpath" (by simp [format, fields]) (by decide) fun _ => id,
    hoptional "entry_point" (by simp [format, fields]) (by decide) fun _ => id,
    hoptional "base_flags" (by simp [format, fields]) (by decide) fun _ => id,
    hoptional "timeout_secs" (by simp [format, fields]) (by decide) fun _ => id,
    hoptional "vm_opts_env" (by simp [format, fields]) (by decide) fun _ => id]

theorem format_faithful : format.Faithful where
  ofJson?_toJson := ofJson?_toJson
  toJson_distinct c := ⟨_, rfl, by simp [Entries.Distinct]⟩
  ofJson?_restated entries entries' hd h :=
    RecordKind.Restates.eq (f := fun e => ofJson? (.obj e)) ofJson?_change h hd

end Config

/-- Pattern sets, expectations, scenarios and configurations are all read back from what is written
for them, and none of them notices the order of entries, unknown entries, or a default that is left
out. -/
theorem formats_faithful :
    PatternSet.format.Faithful ∧ Expectation.format.Faithful ∧ Scenario.format.Faithful ∧
      Config.format.Faithful :=
  ⟨PatternSet.format_faithful, Expectation.format_faithful, Scenario.format_faithful,
    Config.format_faithful⟩

/-- A configuration without its timeout and with a remark, whose scenario is without its mode and
has its marker before its name. -/
theorem formats_faithful_restated :
    let marker := ("required", strs ["Pause Full"])
    let scenario : Entries :=
      [("name", .str "full"), ("mode", .str "request-collection"), marker]
    let scenario' : Entries := [marker, ("name", .str "full")]
    let entries : Entries := [("scenario", .arr [.obj scenario]), ("timeout_secs", .int 120)]
    let entries' : Entries := [("remark", .null), ("scenario", .arr [.obj scenario'])]
    entries.Distinct ∧ Config.format.kind.Restates entries entries' ∧
      Config.ofJson? (.obj entries') = Config.ofJson? (.obj entries) ∧
      Config.ofJson? (.obj entries') =
        some { scenarios := [{ name := "full", patterns := { required := ["Pause Full"] } }] } := by
  intro marker scenario scenario' entries entries'
  have hdistinct : entries.Distinct := by simp [entries, Entries.Distinct]
  have hmode : Scenario.format.kind.Change scenario [("name", .str "full"), marker] :=
    .leaveOut [("name", .str "full")] [marker] rfl
  have hscenario : Scenario.format.kind.Restates scenario scenario' :=
    .tail (.single hmode) (.reorder (.swap marker ("name", .str "full") []))
  have hvalue : Scenario.format.kind.RestatesValue (.obj scenario) (.obj scenario') :=
    .record (by simp [scenario, marker, Entries.Distinct]) hscenario
  have htimeout : Config.format.kind.Change entries [("scenario", .arr [.obj scenario])] :=
    .leaveOut [("scenario", .arr [.obj scenario])] [] rfl
  have hremark : Config.format.kind.Change [("scenario", .arr [.obj scenario])]
      [("remark", .null), ("scenario", .arr [.obj scenario])] :=
    .add [] [("scenario", .arr [.obj scenario])] .null (by simp [Config.format, Config.fields])
      (by simp)
  have hrevise : Config.format.kind.Change [("remark", .null), ("scenario", .arr [.obj scenario])]
      entries' :=
    .revise [("remark", .null)] [] (.scenarios (.cons hvalue .nil))
  have hrestates : Config.format.kind.Restates entries entries' :=
    .tail (.tail (.single htimeout) hremark) hrevise
  have hsame := formats_faithful.2.2.2.ofJson?_restated entries entries' hdistinct hrestates
  exact ⟨hdistinct, hrestates, hsame, rfl⟩

end PauseWatch
