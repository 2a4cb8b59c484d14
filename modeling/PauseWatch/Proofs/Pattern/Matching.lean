import Mathlib.Data.List.TakeDrop
import PauseWatch.Pattern.Reader
import PauseWatch.Proofs.Check.Satisfaction
import PauseWatch.Proofs.Pattern.Reach

/-!
# What patterns match

`Regex.Matches` says which pieces of a text a pattern matches, without places and without a search:
a repetition is the repeated pattern so many times in a row, a condition looks at the characters on
both sides of the piece. The places that the engine computes are exactly those where such a piece
ends, so a pattern occurs in a text exactly when it matches a piece of it.
-/

namespace PauseWatch.Pattern

/-- That a pattern matches a piece of a text, between the text before it and the text after it. A
repetition whose bounds cross is taken exactly the least number of times. -/
inductive Regex.Matches : Regex → List Char → List Char → List Char → Prop
  | empty {before after : List Char} : Matches .empty before [] after
  | literal {letters before after : List Char} : Matches (.literal letters) before letters after
  | chars {set : Text.CharSet} {bytewise : Bool} {c : Char} {before after : List Char}
      (member : set.contains c = true) : Matches (.chars set bytewise) before [c] after
  | anchor {at_ : Anchor} {word : Text.CharSet} {before after : List Char}
      (holds : at_.holds word before.getLast? after.head? = true) :
      Matches (.anchor at_ word) before [] after
  | times {inner : Regex} {least count : Nat} {most : Option Nat} {lazy : Bool}
      {before piece after : List Char} (least_le : least ≤ count)
      (le_most : ∀ m ∈ most, count ≤ max least m)
      (row : Matches (.seq (List.replicate count inner)) before piece after) :
      Matches (.times inner least most lazy) before piece after
  | group {number : Nat} {inner : Regex} {before piece after : List Char}
      (body : Matches inner before piece after) : Matches (.group number inner) before piece after
  | seqNil {before after : List Char} : Matches (.seq []) before [] after
  | seqCons {part : Regex} {parts : List Regex} {before piece rest after : List Char}
      (first : Matches part before piece (rest ++ after))
      (others : Matches (.seq parts) (before ++ piece) rest after) :
      Matches (.seq (part :: parts)) before (piece ++ rest) after
  | oneOf {branch : Regex} {branches : List Regex} {before piece after : List Char}
      (mem : branch ∈ branches) (body : Matches branch before piece after) :
      Matches (.oneOf branches) before piece after

/-- That a pattern matches the piece between two places of a text. -/
def Regex.Spans (text : List Char) (r : Regex) (p q : Nat) : Prop :=
  ∃ before piece after, text = before ++ (piece ++ after) ∧ before.length = p ∧
    p + piece.length = q ∧ r.Matches before piece after

variable {text : List Char} {places : List Nat} {p q : Nat}

theorem Regex.Spans.le {r : Regex} (h : r.Spans text p q) : p ≤ q ∧ q ≤ text.length := by
  obtain ⟨before, piece, after, rfl, rfl, rfl, -⟩ := h
  simp

theorem spans_empty_iff : Regex.Spans text .empty p q ↔ p = q ∧ p ≤ text.length := by
  constructor
  · rintro ⟨before, _, after, rfl, rfl, rfl, ⟨⟩⟩
    simp
  · rintro ⟨rfl, hp⟩
    exact ⟨text.take p, [], text.drop p, by simp, by simp [hp], rfl, .empty⟩

theorem spans_literal_nil_iff : Regex.Spans text (.literal []) p q ↔ p = q ∧ p ≤ text.length := by
  constructor
  · rintro ⟨before, _, after, rfl, rfl, rfl, ⟨⟩⟩
    simp
  · rintro ⟨rfl, hp⟩
    exact ⟨text.take p, [], text.drop p, by simp, by simp [hp], rfl, .literal⟩

theorem spans_literal_cons_iff {c : Char} {letters : List Char} :
    Regex.Spans text (.literal (c :: letters)) p q ↔
      text[p]? = some c ∧ Regex.Spans text (.literal letters) (p + 1) q := by
  constructor
  · rintro ⟨before, _, after, rfl, rfl, rfl, ⟨⟩⟩
    refine ⟨by simp, before ++ [c], letters, after, by simp, by simp, ?_, .literal⟩
    rw [List.length_cons]
    omega
  · rintro ⟨hc, before, _, after, rfl, hp, rfl, ⟨⟩⟩
    obtain rfl | ⟨initial, last, rfl⟩ := List.eq_nil_or_concat before
    · simp at hp
    obtain rfl : initial.length = p := by simpa using hp
    obtain rfl : last = c := by simpa using hc
    refine ⟨initial, last :: letters, after, by simp, rfl, ?_, .literal⟩
    rw [List.length_cons]
    omega

theorem spans_chars_iff {set : Text.CharSet} {bytewise : Bool} :
    Regex.Spans text (.chars set bytewise) p q ↔
      text[p]?.any set.contains = true ∧ p + 1 = q := by
  constructor
  · rintro ⟨before, _, after, rfl, rfl, rfl, ⟨⟩⟩
    simpa
  · rintro ⟨h, rfl⟩
    cases hc : text[p]? with
    | none => simp [hc] at h
    | some c =>
      rw [hc] at h
      obtain ⟨hp, rfl⟩ := List.getElem?_eq_some_iff.mp hc
      exact ⟨text.take p, [text[p]], text.drop (p + 1), by simp, by simp [Nat.le_of_lt hp], rfl,
        .chars h⟩

theorem charBefore_eq_getLast? (hp : p ≤ text.length) :
    charBefore text.toArray p = (text.take p).getLast? := by
  cases p with
  | zero => simp [charBefore]
  | succ p => simp [charBefore, List.getLast?_take, List.getElem?_eq_getElem hp]

theorem spans_anchor_iff {at_ : Anchor} {word : Text.CharSet} :
    Regex.Spans text (.anchor at_ word) p q ↔ p = q ∧ p ≤ text.length ∧
      at_.holds word (charBefore text.toArray p) text[p]? = true := by
  constructor
  · rintro ⟨before, _, after, rfl, rfl, rfl, h⟩
    cases h with
    | anchor holds =>
      refine ⟨by simp, by simp, ?_⟩
      rw [charBefore_eq_getLast? (by simp), ← List.head?_drop]
      simpa using holds
  · rintro ⟨rfl, hp, holds⟩
    refine ⟨text.take p, [], text.drop p, by simp, by simp [hp], rfl, .anchor ?_⟩
    rwa [← charBefore_eq_getLast? hp, List.head?_drop]

theorem spans_group_iff {number : Nat} {inner : Regex} :
    Regex.Spans text (.group number inner) p q ↔ inner.Spans text p q := by
  constructor
  · rintro ⟨before, piece, after, ht, hp, hq, h⟩
    cases h with
    | group body => exact ⟨before, piece, after, ht, hp, hq, body⟩
  · rintro ⟨before, piece, after, ht, hp, hq, body⟩
    exact ⟨before, piece, after, ht, hp, hq, .group body⟩

theorem spans_seq_nil_iff : Regex.Spans text (.seq []) p q ↔ p = q ∧ p ≤ text.length := by
  constructor
  · rintro ⟨before, _, after, rfl, rfl, rfl, ⟨⟩⟩
    simp
  · rintro ⟨rfl, hp⟩
    exact ⟨text.take p, [], text.drop p, by simp, by simp [hp], rfl, .seqNil⟩

theorem spans_seq_cons_iff {part : Regex} {parts : List Regex} :
    Regex.Spans text (.seq (part :: parts)) p q ↔
      ∃ m, part.Spans text p m ∧ Regex.Spans text (.seq parts) m q := by
  constructor
  · rintro ⟨before, _, after, rfl, rfl, rfl, h⟩
    cases h with
    | @seqCons _ _ _ piece rest _ first others =>
      exact ⟨before.length + piece.length,
        ⟨before, piece, rest ++ after, by simp, rfl, rfl, first⟩,
        ⟨before ++ piece, rest, after, by simp, by simp, by simp [Nat.add_assoc], others⟩⟩
  · rintro ⟨m, ⟨before, piece, after, rfl, rfl, rfl, first⟩,
      ⟨before', rest, after', ht, hp, rfl, others⟩⟩
    obtain ⟨rfl, rfl⟩ : before ++ piece = before' ∧ after = rest ++ after' :=
      List.append_inj (by rw [← ht, List.append_assoc]) (by simpa using hp.symm)
    exact ⟨before, piece ++ rest, after', by simp, rfl, by simp [Nat.add_assoc],
      .seqCons first others⟩

theorem spans_oneOf_iff {branches : List Regex} :
    Regex.Spans text (.oneOf branches) p q ↔ ∃ branch ∈ branches, branch.Spans text p q := by
  constructor
  · rintro ⟨before, piece, after, ht, hp, hq, h⟩
    cases h with
    | oneOf mem body => exact ⟨_, mem, before, piece, after, ht, hp, hq, body⟩
  · rintro ⟨branch, mem, before, piece, after, ht, hp, hq, body⟩
    exact ⟨before, piece, after, ht, hp, hq, .oneOf mem body⟩

theorem spans_replicate_iff {inner : Regex} {count : Nat} (hp : p ≤ text.length) :
    Regex.Spans text (.seq (List.replicate count inner)) p q ↔
      Leads (inner.Spans text) count p q := by
  induction count generalizing p with
  | zero => simp [Leads, spans_seq_nil_iff, hp]
  | succ count ih =>
    rw [List.replicate_succ, spans_seq_cons_iff, Leads]
    exact exists_congr fun m => and_congr_right fun h => ih h.le.2

theorem spans_times_iff {inner : Regex} {least : Nat} {most : Option Nat} {lazy : Bool}
    (hp : p ≤ text.length) :
    Regex.Spans text (.times inner least most lazy) p q ↔
      ∃ count, least ≤ count ∧ (∀ m ∈ most, count ≤ max least m) ∧
        Leads (inner.Spans text) count p q := by
  constructor
  · rintro ⟨before, piece, after, ht, hb, hq, h⟩
    cases h with
    | times least_le le_most row =>
      exact ⟨_, least_le, le_most,
        (spans_replicate_iff hp).mp ⟨before, piece, after, ht, hb, hq, row⟩⟩
  · rintro ⟨count, least_le, le_most, h⟩
    obtain ⟨before, piece, after, ht, hb, hq, row⟩ := (spans_replicate_iff hp).mpr h
    exact ⟨before, piece, after, ht, hb, hq, .times least_le le_most row⟩

theorem mem_mergePlaces_iff {as bs : List Nat} : p ∈ mergePlaces as bs ↔ p ∈ as ∨ p ∈ bs := by
  fun_induction mergePlaces as bs <;> grind

theorem mem_map_succ_filter_iff {test : Nat → Bool} :
    q ∈ (places.filter test).map (· + 1) ↔ ∃ p ∈ places, test p = true ∧ p + 1 = q := by
  simp [and_assoc]

/-- A piece without characters ends where it begins. -/
theorem mem_iff_exists_eq (bounded : ∀ p ∈ places, p < text.length + 1) :
    q ∈ places ↔ ∃ p ∈ places, p = q ∧ p ≤ text.length := by
  constructor
  · exact fun hq => ⟨q, hq, rfl, Nat.le_of_lt_succ (bounded q hq)⟩
  · rintro ⟨p, hp, rfl, -⟩
    exact hp

theorem mem_literalEnds_iff {letters : List Char} (bounded : ∀ p ∈ places, p < text.length + 1) :
    q ∈ literalEnds text.toArray letters places ↔
      ∃ p ∈ places, Regex.Spans text (.literal letters) p q := by
  induction letters generalizing places with
  | nil =>
    simp only [literalEnds, spans_literal_nil_iff]
    exact mem_iff_exists_eq bounded
  | cons c letters ih =>
    have hbounded : ∀ m ∈ (places.filter fun p => text.toArray[p]? == some c).map (· + 1),
        m < text.length + 1 := by
      intro m hm
      obtain ⟨p, -, hc, rfl⟩ := mem_map_succ_filter_iff.mp hm
      rw [List.getElem?_toArray, beq_iff_eq] at hc
      have := (List.getElem?_eq_some_iff.mp hc).1
      omega
    rw [literalEnds, ih hbounded]
    simp only [mem_map_succ_filter_iff, spans_literal_cons_iff, List.getElem?_toArray, beq_iff_eq]
    grind

/-- A step that ends where matches end goes neither back nor out of the text. -/
theorem takes_of_mem_ends_iff {r : Regex}
    (h : ∀ {places : List Nat} {q : Nat}, (∀ p ∈ places, p < text.length + 1) →
      (q ∈ r.ends text.toArray places ↔ ∃ p ∈ places, r.Spans text p q)) :
    Takes (text.length + 1) (r.ends text.toArray) (r.Spans text) :=
  ⟨h, fun hs => hs.le.1, fun hs => Nat.lt_succ_of_le hs.le.2⟩

/-- The places where a repetition ends, from those where the repeated pattern ends. -/
theorem mem_ends_times_iff {inner : Regex} {least : Nat} {most : Option Nat} {lazy : Bool}
    (h : Takes (text.length + 1) (inner.ends text.toArray) (inner.Spans text))
    (bounded : ∀ p ∈ places, p < text.length + 1) :
    q ∈ Regex.ends text.toArray (.times inner least most lazy) places ↔
      ∃ p ∈ places, Regex.Spans text (.times inner least most lazy) p q := by
  have hstart (m : Nat) : m ∈ stepTimes (inner.ends text.toArray) least places ↔
      ∃ p ∈ places, Leads (inner.Spans text) least p m := h.mem_stepTimes_iff bounded
  have hbounded : ∀ m ∈ stepTimes (inner.ends text.toArray) least places,
      m < text.length + 1 := by
    intro m hm
    obtain ⟨p, hp, hlead⟩ := (hstart m).mp hm
    exact h.lt_of_leads (bounded p hp) hlead
  have hmore : q ∈ Regex.ends text.toArray (.times inner least most lazy) places ↔
      ∃ k ≤ most.elim (text.length + 1) fun m => min (m - least) (text.length + 1),
        ∃ m ∈ stepTimes (inner.ends text.toArray) least places,
          Leads (inner.Spans text) k m q := by
    simp only [Regex.ends, List.size_toArray]
    split
    next hzero => simp [hzero, Leads]
    next => exact h.mem_reachWithin_iff hbounded
  have hspans : ∀ p ∈ places, (Regex.Spans text (.times inner least most lazy) p q ↔
      ∃ k ≤ most.elim (text.length + 1) fun m => min (m - least) (text.length + 1),
        ∃ m, Leads (inner.Spans text) least p m ∧ Leads (inner.Spans text) k m q) := by
    intro p hp
    rw [h.exists_leads_iff most (bounded p hp),
      spans_times_iff (Nat.le_of_lt_succ (bounded p hp))]
  rw [hmore]
  simp only [hstart]
  grind

mutual

/-- The places that a pattern leads to are those where the pieces end that it matches. -/
theorem Regex.mem_ends_iff {places : List Nat} {q : Nat}
    (bounded : ∀ p ∈ places, p < text.length + 1) : (r : Regex) →
    (q ∈ r.ends text.toArray places ↔ ∃ p ∈ places, r.Spans text p q)
  | .empty => by
    simp only [Regex.ends, spans_empty_iff]
    exact mem_iff_exists_eq bounded
  | .literal letters => mem_literalEnds_iff bounded
  | .chars set bytewise => by
    simp only [Regex.ends, mem_map_succ_filter_iff, spans_chars_iff, List.getElem?_toArray]
  | .anchor at_ word => by
    simp only [Regex.ends, List.mem_filter, spans_anchor_iff, List.getElem?_toArray]
    rw [mem_iff_exists_eq bounded]
    grind
  | .times inner _ _ _ =>
    mem_ends_times_iff
      (takes_of_mem_ends_iff fun inBounds => Regex.mem_ends_iff inBounds inner) bounded
  | .group number inner => by
    simp only [Regex.ends, spans_group_iff]
    exact Regex.mem_ends_iff bounded inner
  | .seq parts => by
    rw [Regex.ends]
    exact Regex.mem_endsOfSeq_iff bounded parts
  | .oneOf branches => by
    rw [Regex.ends, Regex.mem_endsOfAny_iff bounded branches]
    simp only [spans_oneOf_iff]
    grind

theorem Regex.mem_endsOfSeq_iff {places : List Nat} {q : Nat}
    (bounded : ∀ p ∈ places, p < text.length + 1) : (parts : List Regex) →
    (q ∈ Regex.endsOfSeq text.toArray parts places ↔
      ∃ p ∈ places, Regex.Spans text (.seq parts) p q)
  | [] => by
    simp only [Regex.endsOfSeq, spans_seq_nil_iff]
    exact mem_iff_exists_eq bounded
  | part :: parts => by
    have hpart (m : Nat) : m ∈ part.ends text.toArray places ↔ ∃ p ∈ places, part.Spans text p m :=
      Regex.mem_ends_iff bounded part
    have hbounded : ∀ m ∈ part.ends text.toArray places, m < text.length + 1 := by
      intro m hm
      obtain ⟨p, -, h⟩ := (hpart m).mp hm
      exact Nat.lt_succ_of_le h.le.2
    rw [Regex.endsOfSeq, Regex.mem_endsOfSeq_iff hbounded parts]
    simp only [hpart, spans_seq_cons_iff]
    grind

theorem Regex.mem_endsOfAny_iff {places : List Nat} {q : Nat}
    (bounded : ∀ p ∈ places, p < text.length + 1) : (branches : List Regex) →
    (q ∈ Regex.endsOfAny text.toArray branches places ↔
      ∃ branch ∈ branches, ∃ p ∈ places, branch.Spans text p q)
  | [] => by simp [Regex.endsOfAny]
  | branch :: branches => by
    rw [Regex.endsOfAny, mem_mergePlaces_iff, Regex.mem_ends_iff bounded branch,
      Regex.mem_endsOfAny_iff bounded branches]
    simp only [List.mem_cons, exists_eq_or_imp]

end

/-- A pattern occurs in a text exactly when it matches a piece of it. -/
theorem Regex.occursIn_iff {r : Regex} {text : String} :
    r.occursIn text = true ↔
      ∃ before piece after, text.toList = before ++ (piece ++ after) ∧
        r.Matches before piece after := by
  have hbounded : ∀ p ∈ List.range (text.toList.length + 1), p < text.toList.length + 1 :=
    fun p hp => List.mem_range.mp hp
  rw [Regex.occursIn, List.size_toArray, Bool.not_eq_true', List.isEmpty_eq_false_iff_exists_mem]
  simp only [Regex.mem_ends_iff hbounded, List.mem_range]
  constructor
  · rintro ⟨q, p, -, before, piece, after, ht, -, -, h⟩
    exact ⟨before, piece, after, ht, h⟩
  · rintro ⟨before, piece, after, ht, h⟩
    have hlength := congrArg List.length ht
    rw [List.length_append] at hlength
    exact ⟨_, before.length, by omega, before, piece, after, ht, rfl, rfl, h⟩

/-- A plain text occurs as a pattern exactly where it occurs as a marker. -/
theorem occursIn_literal_iff {letters : List Char} {text : String} :
    (Regex.literal letters).occursIn text = true ↔ letters <:+: text.toList := by
  rw [Regex.occursIn_iff]
  constructor
  · rintro ⟨before, _, after, ht, ⟨⟩⟩
    exact ⟨before, after, by rw [ht, List.append_assoc]⟩
  · rintro ⟨before, after, ht⟩
    exact ⟨before, letters, after, by rw [← ht, List.append_assoc], .literal⟩

end PauseWatch.Pattern

namespace PauseWatch

/-- With the engine of patterns, an output satisfies the expectation of a pattern exactly when the
text is one and it matches a piece of the channel. -/
theorem Capture.satisfies_matching_iff {c : Capture} {channel : Channel} {pattern : String} :
    c.Satisfies Pattern.compile channel (.matching pattern) ↔
      ∃ r, Pattern.Regex.ofText pattern = .ok r ∧
        ∃ before piece after, (c.text channel).toList = before ++ (piece ++ after) ∧
          r.Matches before piece after := by
  rw [Capture.Satisfies, Pattern.compile]
  cases Pattern.Regex.ofText pattern with
  | error fault => simp
  | ok r => simp [Pattern.Regex.occursIn_iff]

end PauseWatch
