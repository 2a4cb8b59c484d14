import PauseWatch.Pattern.Reader
import PauseWatch.Proofs.Check.Location
import PauseWatch.Proofs.Check.Satisfaction
import PauseWatch.Proofs.Text.Occurrence

/-!
# Where a forbidden marker is found

A marker is required and forbidden by the same search, so exactly one of the two checks fails. The
failure of a forbidden marker tells where the marker stands first: in bytes, by line and by column.
On both channels together the place is that on the standard output if the marker stands there, and
otherwise that on the standard error behind all of the standard output, unless the marker reaches
over the seam.
-/

namespace PauseWatch.Capture

open Text

variable {c : Capture} {matcher : Matcher} {channel : Channel} {marker : String}

/-- The failure of a forbidden marker that stands first behind the given text. -/
def foundBehind (c : Capture) (channel : Channel) (marker before : String) : Failure :=
  { c.failure channel (.notContains marker) with location := some (.after before.toList) }

/-- The check for a forbidden marker fails exactly with the place where the marker stands first. -/
theorem check_notContains_eq_some_iff {f : Failure} :
    c.check matcher channel (.notContains marker) = some f ↔ ∃ before : String,
      FirstBehind before.toList marker.toList (c.text channel).toList ∧
        f = c.foundBehind channel marker before := by
  rw [check, checkNotContains, Option.map_eq_some_iff]
  constructor
  · rintro ⟨n, hn, rfl⟩
    obtain ⟨before, hb, rfl⟩ := find?_eq_some_iff.mp hn
    refine ⟨String.ofList before, by rwa [String.toList_ofList], ?_⟩
    rw [foundBehind, String.toList_ofList, hb.take_length]
  · rintro ⟨before, hb, rfl⟩
    refine ⟨before.toList.length, find?_eq_some_iff.mpr ⟨_, hb, rfl⟩, ?_⟩
    rw [foundBehind, hb.take_length]

/-- The place that is reported for a forbidden marker, if the marker is found. -/
def placeOf (c : Capture) (matcher : Matcher) (channel : Channel) (marker : String) :
    Option Location :=
  (c.check matcher channel (.notContains marker)).bind (·.location)

/-- The place that is reported is that behind which the marker stands first. -/
theorem placeOf_of_firstBehind {before : String}
    (h : FirstBehind before.toList marker.toList (c.text channel).toList) :
    c.placeOf matcher channel marker = some (.after before.toList) := by
  rw [placeOf, check_notContains_eq_some_iff.mpr ⟨before, h, rfl⟩]
  rfl

/-- On both channels together a marker is found exactly if it stands on one of them or reaches over
the seam. If it stands on the standard output, the place is the one there; if it stands on the
standard error only, the place is the one there, behind the standard output. -/
theorem check_combined_locates (c : Capture) (matcher : Matcher) (marker : String) :
    (c.check matcher .combined (.contains marker) = none ↔
      marker.toList <:+: c.stdout.toList ∨ marker.toList <:+: c.stderr.toList ∨
        Straddles marker.toList c.stdout.toList c.stderr.toList) ∧
    (marker.toList <:+: c.stdout.toList →
      ∃ place, c.placeOf matcher .stdout marker = some place ∧
        c.placeOf matcher .combined marker = some place) ∧
    (marker.toList <:+: c.stderr.toList → ¬ marker.toList <:+: c.stdout.toList →
      ¬ Straddles marker.toList c.stdout.toList c.stderr.toList →
      ∃ place, c.placeOf matcher .stderr marker = some place ∧
        c.placeOf matcher .combined marker = some (place.behind c.stdout)) := by
  have htext : (c.text .combined).toList = c.stdout.toList ++ c.stderr.toList :=
    String.toList_append
  refine ⟨?_, ?_, ?_⟩
  · rw [check_eq_none_iff, Satisfies, htext, List.infix_append_iff_ne_nil, Straddles]
  · intro hout
    obtain ⟨before, hb⟩ := exists_firstBehind_toList hout
    have hboth : FirstBehind before.toList marker.toList (c.text .combined).toList := by
      rw [htext]
      exact hb.append c.stderr.toList
    exact ⟨_, placeOf_of_firstBehind hb, placeOf_of_firstBehind hboth⟩
  · intro herr hout hseam
    obtain ⟨before, hb⟩ := exists_firstBehind_toList herr
    have hboth : FirstBehind (c.stdout ++ before).toList marker.toList
        (c.text .combined).toList := by
      rw [htext, String.toList_append]
      exact hb.prepend hout hseam
    refine ⟨_, placeOf_of_firstBehind hb, ?_⟩
    rw [placeOf_of_firstBehind hboth, String.toList_append, Location.after_append]

/-- A marker of the standard output keeps its place, and one of the standard error moves behind the
unfinished line of the standard output. -/
theorem check_combined_locates_unfinished_line :
    let c : Capture := { stdout := "é\nGC(0) ", stderr := "Pause Full\n" }
    c.placeOf Pattern.compile .combined "GC" = some ⟨3, 2, 1⟩ ∧
      c.placeOf Pattern.compile .combined "Pause" = some ⟨9, 2, 7⟩ := by
  intro c
  constructor
  · obtain ⟨-, hout, -⟩ := check_combined_locates c Pattern.compile "GC"
    obtain ⟨place, hplace, hboth⟩ := hout (by decide)
    rw [hboth, ← hplace]
    decide
  · obtain ⟨-, -, herr⟩ := check_combined_locates c Pattern.compile "Pause"
    have hseam : ¬ Straddles "Pause".toList c.stdout.toList c.stderr.toList := by
      intro h
      obtain ⟨x, hx, hlast⟩ := h.exists_getLast?
      have hend : c.stdout.toList.getLast? = some ' ' := by decide
      have hblank : some ' ' = some x := hend.symm.trans hlast
      obtain rfl := Option.some.inj hblank
      exact absurd hx (by decide)
    obtain ⟨place, hplace, hboth⟩ := herr (by decide) (by decide) hseam
    have hp : some place = some ⟨0, 1, 1⟩ := hplace.symm.trans (by decide)
    obtain rfl := Option.some.inj hp
    rw [hboth]
    decide

end PauseWatch.Capture
