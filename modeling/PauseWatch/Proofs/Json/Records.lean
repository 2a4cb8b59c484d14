import Mathlib.Data.List.Nodup
import Mathlib.Logic.Relation
import PauseWatch.Json.Reader

/-!
# Records written differently

A record is read entry by entry, so it does not matter in which order its entries stand, which
further entries stand among them, and whether an entry with the value of its default is there at
all. Here these changes of an object are given one by one, and a reader that asks for known entries
only is shown not to notice any number of them.
-/

namespace PauseWatch.Json

/-- The entries of an object. -/
abbrev Entries := List (String × Json)

/-- No key occurs twice. -/
def Entries.Distinct (entries : Entries) : Prop := (entries.map Prod.fst).Nodup

/-- What there is to know about the records of one type. -/
structure RecordKind where
  /-- The keys that the type knows. -/
  known : List String
  /-- A value of an entry that is the default of its key. -/
  IsDefault : String → Json → Prop
  /-- Two values of an entry that say the same. -/
  Agree : String → Json → Json → Prop := fun _ _ _ => False

namespace RecordKind

/-- A change of an object that a record of this kind does not notice. -/
inductive Change (kind : RecordKind) : Entries → Entries → Prop where
  /-- The entries stand in another order. -/
  | reorder {entries entries' : Entries} (perm : entries.Perm entries') :
      Change kind entries entries'
  /-- An entry that holds the default of its key is left out. -/
  | leaveOut (before after : Entries) {key : String} {value : Json}
      (isDefault : kind.IsDefault key value) :
      Change kind (before ++ (key, value) :: after) (before ++ after)
  /-- An entry with a key that the type does not know is added. -/
  | add (before after : Entries) {key : String} (value : Json) (unknown : key ∉ kind.known)
      (fresh : key ∉ (before ++ after).map Prod.fst) :
      Change kind (before ++ after) (before ++ (key, value) :: after)
  /-- The value of an entry is written differently. -/
  | revise (before after : Entries) {key : String} {value value' : Json}
      (agree : kind.Agree key value value') :
      Change kind (before ++ (key, value) :: after) (before ++ (key, value') :: after)

/-- Any number of changes, one after the other. -/
def Restates (kind : RecordKind) : Entries → Entries → Prop := Relation.ReflTransGen kind.Change

/-- A value is the same, or it is an object that is written differently. -/
inductive RestatesValue (kind : RecordKind) : Json → Json → Prop where
  /-- The value is the same. -/
  | refl (value : Json) : RestatesValue kind value value
  /-- An object with distinct keys is written differently. -/
  | record {entries entries' : Entries} (distinct : entries.Distinct)
      (restates : kind.Restates entries entries') :
      RestatesValue kind (.obj entries) (.obj entries')

end RecordKind

section Lookup

variable {entries before after : Entries} {key other : String} {value : Json}

/-- Keys are distinct exactly if any one of them is not among the others, and these are distinct. -/
theorem distinct_insert_iff : Entries.Distinct (before ++ (key, value) :: after) ↔
    key ∉ (before ++ after).map Prod.fst ∧ Entries.Distinct (before ++ after) := by
  rw [Entries.Distinct, List.map_append, List.map_cons, List.nodup_middle, List.nodup_cons,
    ← List.map_append, Entries.Distinct]

/-- Where keys are distinct, an entry is found under its key. -/
theorem lookup_eq_some_iff_mem (hd : entries.Distinct) :
    entries.lookup key = some value ↔ (key, value) ∈ entries := by
  constructor
  · intro h
    obtain ⟨before, after, rfl, _⟩ := List.lookup_eq_some_iff.mp h
    exact List.mem_append_right _ (List.mem_cons_self ..)
  · intro hm
    obtain ⟨before, after, rfl⟩ := List.append_of_mem hm
    obtain ⟨hfresh, _⟩ := distinct_insert_iff.mp hd
    refine List.lookup_eq_some_iff.mpr ⟨before, after, rfl, fun entry he => ?_⟩
    refine bne_iff_ne.mpr fun hk => hfresh (List.mem_map.mpr ⟨entry, ?_, hk.symm⟩)
    exact List.mem_append_left _ he

/-- An entry under another key is passed over. -/
theorem lookup_insert_of_ne (hne : key ≠ other) :
    (before ++ (other, value) :: after).lookup key = (before ++ after).lookup key := by
  rw [List.lookup_append, List.lookup_append, List.lookup_cons, beq_false_of_ne hne]

/-- Where keys are distinct, an entry that is left out is not found any more. -/
theorem lookup_eq_none_of_distinct (hd : Entries.Distinct (before ++ (key, value) :: after)) :
    (before ++ after).lookup key = none := by
  obtain ⟨hfresh, _⟩ := distinct_insert_iff.mp hd
  refine List.lookup_eq_none_iff.mpr fun entry he => ?_
  exact bne_iff_ne.mpr fun hk => hfresh (List.mem_map.mpr ⟨entry, he, hk.symm⟩)

end Lookup

namespace RecordKind

variable {kind : RecordKind} {entries entries' : Entries}

/-- A change keeps keys distinct. -/
theorem Change.distinct (h : kind.Change entries entries') (hd : entries.Distinct) :
    entries'.Distinct := by
  cases h with
  | reorder perm => exact (perm.map Prod.fst).nodup hd
  | leaveOut => exact (distinct_insert_iff.mp hd).2
  | add before after value unknown fresh => exact distinct_insert_iff.mpr ⟨fresh, hd⟩
  | revise => exact distinct_insert_iff.mpr (distinct_insert_iff.mp hd)

/-- What a change does to the entry under a known key: nothing, or it leaves out a default, or it
writes the value differently. -/
theorem Change.lookup (h : kind.Change entries entries') (hd : entries.Distinct) {key : String}
    (known : key ∈ kind.known) :
    entries'.lookup key = entries.lookup key ∨
    (∃ value, entries.lookup key = some value ∧ kind.IsDefault key value ∧
      entries'.lookup key = none) ∨
    ∃ value value', entries.lookup key = some value ∧ entries'.lookup key = some value' ∧
      kind.Agree key value value' := by
  have hd' := h.distinct hd
  cases h with
  | reorder perm =>
    refine Or.inl (Option.ext fun value => ?_)
    rw [lookup_eq_some_iff_mem hd, lookup_eq_some_iff_mem hd', perm.mem_iff]
  | @leaveOut before after other value isDefault =>
    by_cases he : key = other
    · subst he
      refine Or.inr (Or.inl ⟨value, ?_, isDefault, lookup_eq_none_of_distinct hd⟩)
      rw [lookup_eq_some_iff_mem hd]
      exact List.mem_append_right _ (List.mem_cons_self ..)
    · exact Or.inl (lookup_insert_of_ne he).symm
  | @add before after other value unknown fresh =>
    exact Or.inl (lookup_insert_of_ne fun he => unknown (he ▸ known))
  | @revise before after other value value' agree =>
    by_cases he : key = other
    · subst he
      refine Or.inr (Or.inr ⟨value, value', ?_, ?_, agree⟩)
      · rw [lookup_eq_some_iff_mem hd]
        exact List.mem_append_right _ (List.mem_cons_self ..)
      · rw [lookup_eq_some_iff_mem hd']
        exact List.mem_append_right _ (List.mem_cons_self ..)
    · refine Or.inl ?_
      rw [lookup_insert_of_ne he, lookup_insert_of_ne he]

section Readers

variable {α : Type} {read : Reader α} {key : String}

/-- An entry with a default is read the same after a change, if defaults are read as the default
and values that agree are read the same. -/
theorem Change.optional?_eq (h : kind.Change entries entries') (hd : entries.Distinct)
    (known : key ∈ kind.known) {default : α}
    (hdefault : ∀ value, kind.IsDefault key value → read value = some default)
    (hagree : ∀ value value', kind.Agree key value value' → read value' = read value) :
    optional? entries' key default read = optional? entries key default read := by
  rcases h.lookup hd known with he | ⟨value, hv, hdef, hnone⟩ | ⟨value, value', hv, hv', hsame⟩
  · rw [optional?, optional?, he]
  · rw [optional?, optional?, hv, hnone]
    exact (hdefault value hdef).symm
  · rw [optional?, optional?, hv, hv']
    exact hagree value value' hsame

/-- An entry without a default is read the same after a change. -/
theorem Change.required?_eq (h : kind.Change entries entries') (hd : entries.Distinct)
    (known : key ∈ kind.known) (hdefault : ∀ value, ¬ kind.IsDefault key value)
    (hagree : ∀ value value', ¬ kind.Agree key value value') :
    required? entries' key read = required? entries key read := by
  rcases h.lookup hd known with he | ⟨value, _, hdef, _⟩ | ⟨value, value', _, _, hsame⟩
  · rw [required?, required?, he]
  · exact absurd hdef (hdefault value)
  · exact absurd hsame (hagree value value')

/-- A reader that does not notice one change does not notice any number of them. -/
theorem Restates.eq {β : Type} {f : Entries → β}
    (hstep : ∀ {a b : Entries}, kind.Change a b → a.Distinct → f b = f a)
    (h : kind.Restates entries entries') (hd : entries.Distinct) : f entries' = f entries := by
  have hall : f entries' = f entries ∧ entries'.Distinct := by
    induction h with
    | refl => exact ⟨rfl, hd⟩
    | tail _ hchange ih => exact ⟨(hstep hchange ih.2).trans ih.1, hchange.distinct ih.2⟩
  exact hall.1

/-- Items that are read the same one by one are read the same as an array. -/
theorem list?_eq_of_forall₂ {items items' : List Json}
    (h : List.Forall₂ (fun item item' => read item' = read item) items items') :
    list? read (.arr items') = list? read (.arr items) := by
  change items'.mapM read = items.mapM read
  induction h with
  | nil => rfl
  | cons hitem _ ih => rw [List.mapM_cons, List.mapM_cons, hitem, ih]

end Readers

end RecordKind

end PauseWatch.Json
