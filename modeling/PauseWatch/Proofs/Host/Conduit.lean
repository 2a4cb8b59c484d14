import PauseWatch.Host.Run

/-!
# What is seen of conduits

Whatever the processes of a host do, what the outside has seen of a conduit is only added to, and
after a conduit has ended nothing changes any more. One step of a process keeps this, and so does
every run of steps and every signal.
-/

namespace PauseWatch.Host

section Entries

variable {α β : Type} [BEq α] [LawfulBEq α]

theorem lookup_replace_self (key : α) (value : β) (entries : List (α × β)) :
    (replace key value entries).lookup key = some value :=
  List.lookup_cons_self

theorem lookup_filter_of_ne {key other : α} (hne : other ≠ key) (entries : List (α × β)) :
    (entries.filter (·.1 != key)).lookup other = entries.lookup other := by
  induction entries with
  | nil => rfl
  | cons entry rest ih =>
    obtain ⟨k, value⟩ := entry
    by_cases hk : k = key
    · rw [List.filter_cons_of_neg (by simp [hk]), ih, List.lookup_cons,
        beq_false_of_ne (hk ▸ hne)]
    · rw [List.filter_cons_of_pos (by simp [hk]), List.lookup_cons, List.lookup_cons, ih]

theorem lookup_replace_of_ne {key other : α} (hne : other ≠ key) (value : β)
    (entries : List (α × β)) :
    (replace key value entries).lookup other = entries.lookup other := by
  rw [replace, List.lookup_cons, beq_false_of_ne hne, lookup_filter_of_ne hne]

theorem lookup_map_value (f : α → β → β) (key : α) (entries : List (α × β)) :
    (entries.map fun entry => (entry.1, f entry.1 entry.2)).lookup key =
      (entries.lookup key).map (f key) := by
  induction entries with
  | nil => rfl
  | cons entry rest ih =>
    obtain ⟨k, value⟩ := entry
    rw [List.map_cons, List.lookup_cons, List.lookup_cons, ih]
    by_cases hk : key = k
    · simp [hk]
    · simp [beq_false_of_ne hk]

end Entries

/-- What the outside may see of a conduit at a later time. -/
structure Conduit.Onward (c later : Conduit) : Prop where
  /-- Chunks that are not empty were added. -/
  seen : ∃ more, later.seen = more ++ c.seen ∧ ∀ chunk ∈ more, chunk ≠ []
  /-- What has ended stays as it is. -/
  ended : c.endedAt.isSome → later.seen = c.seen ∧ later.endedAt = c.endedAt

namespace Conduit.Onward

variable {c c' c'' : Conduit}

theorem of_eq (hseen : c'.seen = c.seen) (hended : c'.endedAt = c.endedAt) : c.Onward c' :=
  ⟨⟨[], hseen, fun _ h => absurd h List.not_mem_nil⟩, fun _ => ⟨hseen, hended⟩⟩

theorem refl (c : Conduit) : c.Onward c := of_eq rfl rfl

theorem trans (h : c.Onward c') (h' : c'.Onward c'') : c.Onward c'' := by
  obtain ⟨more, hseen, hmore⟩ := h.seen
  obtain ⟨more', hseen', hmore'⟩ := h'.seen
  refine ⟨⟨more' ++ more, by rw [hseen', hseen, List.append_assoc], ?_⟩, fun hended => ?_⟩
  · intro chunk hchunk
    rcases List.mem_append.mp hchunk with hchunk | hchunk
    · exact hmore' chunk hchunk
    · exact hmore chunk hchunk
  · obtain ⟨hsame, hat⟩ := h.ended hended
    obtain ⟨hsame', hat'⟩ := h'.ended (hat ▸ hended)
    exact ⟨hsame'.trans hsame, hat'.trans hat⟩

end Conduit.Onward

/-- Whether all conduits of a host are in later states on another. -/
def Onward (h later : Host) : Prop := ∀ number, (h.conduit number).Onward (later.conduit number)

namespace Onward

variable {h h' h'' : Host}

/-- A step that leaves the conduits as they are. -/
theorem of_conduits (hsame : h'.conduits = h.conduits) : h.Onward h' := by
  intro number
  rw [conduit, conduit, hsame]
  exact .refl _

theorem refl (h : Host) : h.Onward h := of_conduits rfl

theorem trans (hfirst : h.Onward h') (hsecond : h'.Onward h'') : h.Onward h'' :=
  fun number => (hfirst number).trans (hsecond number)

end Onward

variable {h : Host}

/-- A change of one conduit leads on if it leads on for that. -/
theorem onward_changeConduit {number : Nat} {f : Conduit → Conduit}
    (hf : (h.conduit number).Onward (f (h.conduit number))) :
    h.Onward (h.changeConduit number f) := by
  intro other
  by_cases hother : other = number
  · subst hother
    have hself : (h.changeConduit other f).conduit other = f (h.conduit other) := by
      rw [changeConduit, conduit, lookup_replace_self, Option.getD_some]
    exact hself ▸ hf
  · have hsame : (h.changeConduit number f).conduit other = h.conduit other := by
      rw [changeConduit, conduit, lookup_replace_of_ne hother, conduit]
    exact hsame ▸ .refl _

/-- A conduit after notice was taken of its end, if nobody can write to it any more. -/
def noted (h : Host) (number : Nat) (c : Conduit) : Conduit :=
  if c.isWatched && c.endedAt.isNone && !h.hasWriter number then { c with endedAt := some h.now }
  else c

theorem conduit_noteEnds (h : Host) (number : Nat) :
    h.noteEnds.conduit number = h.noted number (h.conduit number) := by
  have hmap : h.noteEnds.conduits =
      h.conduits.map fun entry => (entry.1, h.noted entry.1 entry.2) := by
    refine List.map_congr_left fun entry _ => ?_
    dsimp only [noted]
    split <;> rfl
  rw [conduit, hmap, lookup_map_value h.noted, conduit]
  cases h.conduits.lookup number <;> rfl

/-- To take note of the ends leads on. -/
theorem onward_noteEnds (h : Host) : h.Onward h.noteEnds := by
  intro number
  rw [conduit_noteEnds, noted]
  split
  · next hopen =>
    have hnone : (h.conduit number).endedAt = none := by
      simpa using (Bool.and_eq_true_iff.mp (Bool.and_eq_true_iff.mp hopen).1).2
    refine ⟨⟨[], rfl, fun _ hchunk => absurd hchunk List.not_mem_nil⟩, fun hended => ?_⟩
    rw [hnone] at hended
    cases hended
  · exact .refl _

theorem conduits_finish (h : Host) (pid : Nat) (ending : Ending) :
    (h.finish pid ending).conduits = h.conduits := by
  unfold finish
  split <;> rfl

theorem conduits_affect (h : Host) (s : Signal) (p : Process) :
    (h.affect s p).conduits = h.conduits := by
  rw [affect]
  split
  · rfl
  split
  · rfl
  split
  · exact conduits_finish _ _ _
  all_goals rfl

/-- Signals that are let through one after the other leave the conduits as they are. -/
theorem conduits_foldl {γ : Type} {step : Host → γ → Host}
    (hstep : ∀ h x, (step h x).conduits = h.conduits) (h : Host) (xs : List γ) :
    (xs.foldl step h).conduits = h.conduits := by
  induction xs generalizing h with
  | nil => rfl
  | cons x rest ih => rw [List.foldl_cons, ih, hstep]

theorem conduits_deliver (h : Host) (s : Signal) (pid : Nat) :
    (h.deliver s pid).conduits = h.conduits := by
  rw [deliver]
  split
  · rfl
  split
  · exact conduits_finish _ _ _
  split
  · rfl
  split
  · refine (conduits_foldl (fun h s => ?_) _ _).trans rfl
    cases h.process? pid with
    | none => rfl
    | some p => exact conduits_affect _ _ _
  split
  · rfl
  · exact conduits_affect _ _ _

theorem conduits_send (h : Host) (self : Identity) (target : Int) (number : Nat) :
    (h.send self target number).1.conduits = h.conduits := by
  rw [send]
  split
  · rfl
  dsimp only
  split
  · rfl
  split
  · rfl
  · exact conduits_foldl (fun h pid => conduits_deliver h _ pid) _ _

theorem conduits_openFile (h : Host) (p : Process) (path : String) (access : Access) :
    (h.openFile p path access).1.conduits = h.conduits := by
  rw [openFile]
  repeat' split
  all_goals rfl

theorem conduits_makeItem (h : Host) (p : Process) (path : String) (item : Item) :
    (h.makeItem p path item).1.conduits = h.conduits := by
  rw [makeItem]
  repeat' split
  all_goals rfl

theorem conduits_vacate (h : Host) (place : Place) : (h.vacate place).conduits = h.conduits := by
  rw [vacate]
  split <;> rfl

theorem conduits_removeItem (h : Host) (p : Process) (path : String) :
    (h.removeItem p path).1.conduits = h.conduits := by
  rw [removeItem]
  split
  · rfl
  split
  · rfl
  split
  · rfl
  · exact conduits_vacate _ _

theorem conduits_moveItem (h : Host) (p : Process) (source target : String) :
    (h.moveItem p source target).1.conduits = h.conduits := by
  rw [moveItem]
  repeat' split
  all_goals first | rfl | exact conduits_vacate _ _

theorem conduits_permitItem (h : Host) (p : Process) (path : String) (executable : Bool) :
    (h.permitItem p path executable).1.conduits = h.conduits := by
  rw [permitItem]
  split <;> rfl

theorem onward_readFrom (h : Host) (p : Process) (fd limit : Nat) :
    h.Onward (h.readFrom p fd limit).1 := by
  unfold readFrom
  cases p.handle? fd with
  | none => exact .refl _
  | some handle =>
    cases handle with
    | device d => cases d <;> exact .refl _
    | source number => exact onward_changeConduit (.of_eq rfl rfl)
    | sink number => exact .refl _
    | file number =>
      dsimp only
      split
      · exact .refl _
      split
      · exact .refl _
      · exact .of_conduits rfl
    | folder => exact .refl _

/-- To write to a conduit leads on: a watched one gets a chunk, unless it has ended, and the bytes
that wait in another are not seen from outside. -/
theorem onward_writeSink (h : Host) (p : Process) {fd number : Nat} (bytes : List UInt8)
    (hsink : p.handle? fd = some (.sink number)) : h.Onward (h.writeTo p fd bytes).1 := by
  unfold writeTo
  rw [hsink]
  dsimp only
  split
  · exact .refl _
  next hbytes =>
  split
  · split
    · exact .refl _
    · next hopen =>
      refine onward_changeConduit ⟨⟨[bytes], rfl, ?_⟩, fun hended => absurd hended hopen⟩
      intro chunk hchunk
      rw [List.mem_singleton.mp hchunk]
      exact hbytes
  split
  · exact .refl _
  · have honward : h.Onward (h.changeConduit number fun c =>
        { c with
          waiting := c.waiting ++ [bytes.take (conduitRoom - (h.conduit number).size)]
          size := c.size + (bytes.take (conduitRoom - (h.conduit number).size)).length }) :=
      onward_changeConduit (.of_eq rfl rfl)
    split <;> exact honward

theorem onward_writeTo (h : Host) (p : Process) (fd : Nat) (bytes : List UInt8) :
    h.Onward (h.writeTo p fd bytes).1 := by
  cases hhandle : p.handle? fd with
  | none =>
    simp only [writeTo, hhandle]
    exact .refl _
  | some handle =>
    cases handle with
    | sink number => exact onward_writeSink h p bytes hhandle
    | device d =>
      simp only [writeTo, hhandle]
      cases d <;> exact .refl _
    | source number =>
      simp only [writeTo, hhandle]
      exact .refl _
    | file number =>
      simp only [writeTo, hhandle]
      split
      · exact .refl _
      split
      · exact .refl _
      · exact .of_conduits rfl
    | folder =>
      simp only [writeTo, hhandle]
      exact .refl _

/-- A step of a process leads on. Only its reads and writes are about conduits. -/
theorem onward_answer (toolbox : Toolbox) (h : Host) (p : Process) :
    h.Onward (answer toolbox h p) := by
  unfold answer
  cases p.program with
  | exit status => exact .of_conduits (conduits_finish _ _ _)
  | read fd limit next => exact (onward_readFrom h p fd limit).trans (.of_conduits rfl)
  | write fd bytes next =>
    have hwritten := onward_writeTo h p fd bytes
    dsimp only
    generalize h.writeTo p fd bytes = result at hwritten ⊢
    obtain ⟨h', _ | left | fault⟩ := result
    · exact hwritten.trans (.of_conduits rfl)
    · exact hwritten.trans (.of_conduits rfl)
    · refine hwritten.trans (.of_conduits ?_)
      by_cases hfault : fault = .brokenPipe
      · simp only [if_pos hfault]
        exact conduits_deliver _ _ _
      · simp only [if_neg hfault]
        rfl
  | openFile path access next => exact .of_conduits (conduits_openFile _ _ _ _)
  | become path argv vars next =>
    refine .of_conduits ?_
    dsimp only
    split
    · rfl
    split <;> rfl
  | wait child yields next =>
    refine .of_conduits ?_
    dsimp only
    split
    · rfl
    split <;> rfl
  | send target number next => exact .of_conduits (conduits_send _ _ _ _)
  | enter path next =>
    refine .of_conduits ?_
    dsimp only
    split <;> rfl
  | make path item next => exact .of_conduits (conduits_makeItem _ _ _ _)
  | remove path next => exact .of_conduits (conduits_removeItem _ _ _)
  | move source target next => exact .of_conduits (conduits_moveItem _ _ _ _)
  | permit path executable next => exact .of_conduits (conduits_permitItem _ _ _ _)
  | _ => exact .of_conduits rfl

/-- However long processes go on, the conduits go on with them. -/
theorem onward_advance (toolbox : Toolbox) (limit : Option Nat) (reached : Host → Bool) (fuel : Nat)
    (h : Host) : h.Onward (h.advance toolbox limit reached fuel) := by
  induction fuel generalizing h with
  | zero => exact .refl h
  | succ fuel ih =>
    rw [advance]
    split
    · exact .refl h
    split
    · exact .of_conduits rfl
    · dsimp only
      split
      · exact .of_conduits rfl
      · next p _ _ =>
        let atStep : Host := { h with now := max h.now p.readyAt }
        have hnow : h.Onward atStep := .of_conduits rfl
        have hstep := (onward_answer toolbox atStep p).trans (onward_noteEnds _)
        exact (hnow.trans hstep).trans (ih _)

/-- Whatever is done with an overdue process, the conduits go on. -/
theorem onward_act (s : Started) (r : Runner) (h : Host) (action : Run.Action) :
    h.Onward (s.act r h action) := by
  have hsignal (signal : Signal) : h.Onward (h.sendGroup s.pid signal).noteEnds :=
    Onward.trans (.of_conduits (conduits_send _ _ _ _)) (onward_noteEnds _)
  cases action with
  | askToEnd => exact hsignal .terminate
  | kill => exact hsignal .kill
  | awaitExit => exact onward_advance _ _ _ _ _
  | reap => exact onward_advance _ _ _ _ _
  | salvage pipe => exact onward_advance _ _ _ _ _

end PauseWatch.Host
