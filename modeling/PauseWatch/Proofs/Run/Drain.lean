import Mathlib.Data.List.Infix
import Mathlib.Data.List.TakeWhile
import PauseWatch.Proofs.Text.Utf8
import PauseWatch.Run.Drain

/-!
# What draining a pipe brings

Draining goes on while reads bring bytes or are interrupted, and the first other read ends it. What
it brings is known from the bytes of the reads before, whatever chunks they came in, and so is the
text. Further reads bring further bytes, but they do not change what draining has brought.
-/

namespace PauseWatch.Run

/-- Whether draining goes on after a read. -/
def ReadResult.goesOn : ReadResult → Bool
  | .bytes chunk => !chunk.isEmpty
  | .interrupted => true
  | .failed _ => false

/-- The bytes that a read brings. -/
def ReadResult.chunk : ReadResult → List UInt8
  | .bytes chunk => chunk
  | .interrupted | .failed _ => []

/-- What draining brings if a read ends it after some bytes. -/
def ReadResult.ending? (readBefore : List UInt8) : ReadResult → Option Drained
  | .bytes [] => some (.whole readBefore)
  | .failed cause => some (.broken readBefore cause)
  | .bytes (_ :: _) | .interrupted => none

/-- The bytes that reads bring. -/
def bytesOf (reads : List ReadResult) : List UInt8 := reads.flatMap ReadResult.chunk

/-- The bytes that are read before draining ends, or so far if it goes on. -/
def bytesRead (reads : List ReadResult) : List UInt8 := bytesOf (reads.takeWhile (·.goesOn))

theorem bytesOf_append (reads more : List ReadResult) :
    bytesOf (reads ++ more) = bytesOf reads ++ bytesOf more := List.flatMap_append

variable {reads : List ReadResult}

/-- The chunks read before are kept in order, so draining brings the bytes of all reads before the
one that ends it. -/
theorem drainFrom_eq (chunks : List (List UInt8)) (reads : List ReadResult) :
    drainFrom chunks reads = (reads.dropWhile (·.goesOn)).head?.bind
      (·.ending? (chunks.reverse.flatten ++ bytesRead reads)) := by
  induction reads generalizing chunks with
  | nil => rfl
  | cons r rest ih =>
    rcases r with (_ | ⟨b, bs⟩) | _ | cause
    · simp [drainFrom, ReadResult.goesOn, ReadResult.ending?, bytesRead, bytesOf]
    · simp [drainFrom, ih, ReadResult.goesOn, bytesRead, bytesOf, ReadResult.chunk]
    · simp [drainFrom, ih, ReadResult.goesOn, bytesRead, bytesOf, ReadResult.chunk]
    · simp [drainFrom, ReadResult.goesOn, ReadResult.ending?, bytesRead, bytesOf]

theorem drain_eq (reads : List ReadResult) :
    drain (some reads) =
      (reads.dropWhile (·.goesOn)).head?.bind (·.ending? (bytesRead reads)) := by
  rw [drain, drainFrom_eq, List.reverse_nil, List.flatten_nil, List.nil_append]

/-- Draining has ended exactly if some read ends it. -/
theorem isSome_drain_iff : (drain (some reads)).isSome ↔ ∃ r ∈ reads, r.goesOn = false := by
  rw [drain_eq]
  cases hrest : reads.dropWhile (·.goesOn) with
  | nil =>
    have hall := List.dropWhile_eq_nil_iff.mp hrest
    simpa using hall
  | cons r rest =>
    have hmem : r ∈ reads := (List.dropWhile_sublist _).subset (hrest ▸ List.mem_cons_self)
    have hstop : r.goesOn = false := by
      have := List.head?_dropWhile_not (·.goesOn) reads
      rw [hrest] at this
      simpa using this
    refine iff_of_true ?_ ⟨r, hmem, hstop⟩
    rcases r with (_ | ⟨b, bs⟩) | _ | cause <;> first | rfl | cases hstop

theorem bytesRead_append_of_goesOn (h : ∀ r ∈ reads, r.goesOn = true) (rest : List ReadResult) :
    bytesRead (reads ++ rest) = bytesOf reads ++ bytesRead rest := by
  rw [bytesRead, List.takeWhile_append_of_pos h, bytesOf_append, bytesRead]

/-- A read that ends draining is one after which it does not go on. -/
theorem goesOn_of_ending? {r : ReadResult} {readBefore : List UInt8} {d : Drained}
    (hr : r.ending? readBefore = some d) : r.goesOn = false := by
  rcases r with (_ | ⟨b, bs⟩) | _ | cause <;> first | rfl | cases hr

/-- Nothing is read after a read that ends draining. -/
theorem bytesRead_append_cons {r : ReadResult} (h : ∀ r ∈ reads, r.goesOn = true)
    (hr : r.goesOn = false) (rest : List ReadResult) :
    bytesRead (reads ++ r :: rest) = bytesOf reads := by
  have hlast : bytesRead (r :: rest) = [] := by simp [bytesRead, bytesOf, hr]
  rw [bytesRead_append_of_goesOn h, hlast, List.append_nil]

/-- The first read after which draining does not go on ends it. -/
theorem drain_append_cons {r : ReadResult} {d : Drained} (h : ∀ r ∈ reads, r.goesOn = true)
    (hr : r.ending? (bytesOf reads) = some d) (rest : List ReadResult) :
    drain (some (reads ++ r :: rest)) = some d := by
  have hstop := goesOn_of_ending? hr
  rw [drain_eq, bytesRead_append_cons h hstop, List.dropWhile_append_of_pos h,
    List.dropWhile_cons_of_neg (by simp [hstop])]
  exact hr

/-- Draining has brought something exactly if one of the reads ends it and it goes on before. -/
theorem drain_eq_some_iff {d : Drained} :
    drain (some reads) = some d ↔
      ∃ before r rest, reads = before ++ r :: rest ∧ (∀ r ∈ before, r.goesOn = true) ∧
        r.ending? (bytesOf before) = some d := by
  constructor
  · intro hd
    rw [drain_eq] at hd
    obtain ⟨r, hr, hending⟩ := Option.bind_eq_some_iff.mp hd
    obtain ⟨rest, hrest⟩ := List.head?_eq_some_iff.mp hr
    refine ⟨reads.takeWhile (·.goesOn), r, rest, ?_, fun r hr => List.mem_takeWhile_imp hr, hending⟩
    rw [← hrest, List.takeWhile_append_dropWhile]
  · rintro ⟨before, r, rest, rfl, hbefore, hending⟩
    exact drain_append_cons hbefore hending rest

/-- Further reads do not change what draining has brought. -/
theorem drain_mono {more : List ReadResult} {d : Drained} (h : reads <+: more)
    (hd : drain (some reads) = some d) : drain (some more) = some d := by
  obtain ⟨tail, rfl⟩ := h
  obtain ⟨before, r, rest, rfl, hbefore, hending⟩ := drain_eq_some_iff.mp hd
  rw [List.append_assoc, List.cons_append]
  exact drain_append_cons hbefore hending _

/-- Further reads bring further bytes. -/
theorem bytesRead_mono {more : List ReadResult} (h : reads <+: more) :
    bytesRead reads <+: bytesRead more := by
  obtain ⟨rest, rfl⟩ := h
  refine List.IsPrefix.flatMap ?_ _
  rw [List.takeWhile_append]
  split
  · exact (List.takeWhile_prefix _).trans (List.prefix_append _ _)
  · exact List.prefix_rfl

/-- The text of a drained pipe is that of the bytes that were read. -/
theorem salvaged_of_drain {d : Drained} (hd : drain (some reads) = some d) :
    d.salvaged = Text.Utf8.decode (bytesRead reads) := by
  obtain ⟨before, r, rest, rfl, hbefore, hending⟩ := drain_eq_some_iff.mp hd
  rw [bytesRead_append_cons hbefore (goesOn_of_ending? hending)]
  rcases r with (_ | ⟨b, bs⟩) | _ | cause <;> cases hending <;> rfl

/-- The text of a pipe that was drained to its end. -/
theorem text_drain_whole (pipe : Pipe) (h : ∀ r ∈ reads, r.goesOn = true) :
    (drain (some (reads ++ [.bytes []]))).map (Drained.text pipe) =
      some (.ok (Text.Utf8.decode (bytesOf reads))) := by
  rw [drain_append_cons h rfl]
  rfl

/-- The failure to drain a pipe, with the text before it. -/
theorem text_drain_broken (pipe : Pipe) (h : ∀ r ∈ reads, r.goesOn = true) (cause : String) :
    (drain (some (reads ++ [.failed cause]))).map (Drained.text pipe) =
      some (.error (.unreadable pipe cause (Text.Utf8.decode (bytesOf reads)))) := by
  rw [drain_append_cons h rfl]
  rfl

/-- Draining a pipe gives the one text as which the bytes of all reads read, in whatever chunks they
come and wherever reads are interrupted, and if a read fails, the text of the bytes before it. Where
the bytes encode a text, it is that text, and without a pipe it is empty. -/
theorem text_drain (pipe : Pipe) (reads : List ReadResult) (h : ∀ r ∈ reads, r.goesOn = true) :
    (∃ text, (∀ other, Text.Utf8.ReadsAs (bytesOf reads) other ↔ other = text) ∧
      (drain (some (reads ++ [.bytes []]))).map (Drained.text pipe) = some (.ok text) ∧
      ∀ cause, (drain (some (reads ++ [.failed cause]))).map (Drained.text pipe) =
        some (.error (.unreadable pipe cause text))) ∧
    (∀ others, (∀ r ∈ others, r.goesOn = true) → bytesOf others = bytesOf reads →
      drain (some (others ++ [.bytes []])) = drain (some (reads ++ [.bytes []]))) ∧
    (∀ text, bytesOf reads = Text.Utf8.encode text →
      (drain (some (reads ++ [.bytes []]))).map (Drained.text pipe) = some (.ok text)) ∧
    (drain none).map (Drained.text pipe) = some (.ok "") := by
  refine ⟨⟨Text.Utf8.decode (bytesOf reads), fun other => ?_, text_drain_whole pipe h,
    text_drain_broken pipe h⟩, ?_, ?_, rfl⟩
  · rw [← Text.Utf8.decode_eq_iff, eq_comm]
  · intro others hothers hbytes
    rw [drain_append_cons hothers rfl, drain_append_cons h rfl, hbytes]
  · intro text htext
    rw [text_drain_whole pipe h, htext, Text.Utf8.decode_encode]

/-- A character that lies across two chunks with an interrupted read between them is kept. -/
theorem text_drain_split_character :
    let reads : List ReadResult := [.bytes [0x50, 0xC3], .interrupted, .bytes [0xBC]]
    (∀ r ∈ reads, r.goesOn = true) ∧ bytesOf reads = Text.Utf8.encode "Pü" ∧
    (drain (some (reads ++ [.bytes []]))).map (Drained.text .stdout) = some (.ok "Pü") := by
  intro reads
  have h : ∀ r ∈ reads, r.goesOn = true := by decide
  have hbytes : bytesOf reads = Text.Utf8.encode "Pü" := by decide
  exact ⟨h, hbytes, (text_drain .stdout reads h).2.2.1 "Pü" hbytes⟩

end PauseWatch.Run
