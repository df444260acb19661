import Silbo.Proofs.Reading
import Silbo.Proofs.Sign
import Silbo.Render

/-!
Tables that were read are safe to play. A table is checked as it is read, and never again; but each
segment of a word that is compiled with it has a length, and on each of its tracks definite values
and a curve that is known by its name. So it has values at any times, unless what changes there
takes the length that the settings give and no double is near that.
-/
namespace Silbo

namespace Trajectory

variable {r : Trajectory Number} {b : Curve.Basis Float}

/-- A change over a length that is too large to divide a time by. -/
def Overflows (r : Trajectory Number) : Prop := r.curve? ≠ none ∧ r.duration.toFloat? = none

theorem progress?_isSome {d : Number} (h : d.toFloat? ≠ none) :
    ∃ part, progress? d = some part := by
  obtain ⟨x, hx⟩ := Option.ne_none_iff_exists'.1 h
  unfold progress?
  split
  · exact ⟨_, rfl⟩
  · rw [hx]
    exact ⟨_, rfl⟩

theorem progress?_eq_none {d : Number} (hd : d.Nonneg) (h : d.toFloat? = none) :
    progress? d = none := by
  unfold progress?
  rw [hd.not_nonpositive h, h]
  rfl

theorem course?_of_progress (hr : ∀ v ∈ r.waypoints, ∃ y, v = .real y)
    (hp : r.curve? ≠ none → ∃ part, progress? r.duration = some part) :
    ∃ f, r.course? b = some f := by
  cases r with
  | constant value duration =>
    obtain ⟨x, rfl⟩ := hr value (by simp [waypoints, start])
    exact ⟨_, rfl⟩
  | transition start stop duration curve =>
    obtain ⟨x, rfl⟩ := hr start (by simp [waypoints, Trajectory.start])
    obtain ⟨y, rfl⟩ := hr stop (by simp [waypoints, Trajectory.stop])
    obtain ⟨part, hpart⟩ := hp (Option.some_ne_none curve)
    rw [Trajectory.duration] at hpart
    simp [course?, hpart, change?_real]
  | contour start peak stop duration curve =>
    obtain ⟨x, rfl⟩ := hr start (by simp [waypoints, Trajectory.start])
    obtain ⟨y, rfl⟩ := hr peak (by simp [waypoints, peak?])
    obtain ⟨z, rfl⟩ := hr stop (by simp [waypoints, Trajectory.stop])
    obtain ⟨part, hpart⟩ := hp (Option.some_ne_none curve)
    rw [Trajectory.duration] at hpart
    simp [course?, hpart, change?_real]

theorem course?_isSome (hr : ∀ v ∈ r.waypoints, ∃ y, v = .real y) (h : ¬ r.Overflows) :
    ∃ f, r.course? b = some f := by
  apply course?_of_progress hr
  intro hcurve
  apply progress?_isSome
  intro hd
  exact h ⟨hcurve, hd⟩

theorem course?_eq_none (hd : r.duration.Nonneg) (h : r.Overflows) : r.course? b = none := by
  obtain ⟨hcurve, hnone⟩ := h
  cases r with
  | constant => exact absurd rfl hcurve
  | transition | contour =>
    have hpart := progress?_eq_none hd hnone
    dsimp only [duration] at hpart
    simp [course?, hpart]

theorem values_eq (r : Trajectory Number) (times : Points) :
    r.values times = match r.course? times.basis with
      | some f => .ok (times.map f)
      | none => .error .tooLarge := by
  unfold values course
  cases r.course? times.basis <;> rfl

theorem values_overflow (hd : r.duration.Nonneg) (h : r.Overflows) (times : Points) :
    r.values times = .error .tooLarge := by
  rw [values_eq, course?_eq_none hd h]

theorem values_iff (hr : ∀ v ∈ r.waypoints, ∃ y, v = .real y) (hd : r.duration.Nonneg)
    (times : Points) : (∃ ys, r.values times = .ok ys) ↔ ¬ r.Overflows := by
  constructor
  · rintro ⟨ys, hys⟩ h
    rw [values_overflow hd h] at hys
    cases hys
  · intro h
    obtain ⟨f, hf⟩ := course?_isSome (b := times.basis) hr h
    rw [values_eq, hf]
    exact ⟨_, rfl⟩

end Trajectory

theorem Traces.curve_eq {m : Model} {incoming duration : Number}
    (h : Traces m incoming duration motion r) : r.curve? = motion.bind Motion.curve? := by
  cases h <;> rfl

namespace Table
open Model Work

/-- What is known of a segment that was compiled with a table that was read. -/
structure Playable (t : Table) (config : List (String × Datum)) (s : Settings) (x : Segment) :
    Prop where
  nonneg : x.duration.Nonneg
  /-- All values are doubles: silence, or what the quantities of the table come to. -/
  definite : ∀ k : Track, ∀ v ∈ (k.course x).waypoints, ∃ y, v = .real y ∧ (y = 0 ∨ t.Plays k y)
  /-- A curve is found by its name, and the configuration names it if it is not a sine. -/
  curve : ∀ (k : Track) (c : Curve), (k.course x).curve? = some c →
    Curve.ofName? c.name = some c ∧ (c = .sine ∨ .text c.name ∈ (Datum.table config).parts)
  /-- There are values at any time and at any times in a row, unless the time overflows. -/
  values : ∀ (k : Track) (times : Points),
    ((∃ ys, (k.course x).values times = .ok ys) ↔ ¬ (k.course x).Overflows) ∧
      ((k.course x).Overflows → (k.course x).values times = .error .tooLarge)
  overflows : ∀ k : Track, (k.course x).Overflows →
    x.duration = s.segmentMilliseconds ∧ s.segmentMilliseconds.toFloat? = none

section Words

variable {t : Table} {config : List (String × Datum)} {s : Settings} {u : Utterance}
variable {x : Segment} {i : Nat}

theorem ReadFrom.lengths_nonneg (h : t.ReadFrom config)
    (hn : ∀ d ∈ (Datum.table config).parts, d.isNaN = false) : ∀ ms ∈ t.lengths, 0 ≤ ms := by
  intro ms hms
  obtain ⟨x, hx, hms⟩ := List.mem_filterMap.1 hms
  obtain ⟨fields, hfields, hread⟩ := h.written_read hx
  have hduration := (SegmentTemplate.readFields_eq_ok hread).1
  rw [hms] at hduration
  obtain ⟨n, hd, hneg, hx⟩ := SegmentTemplate.number_of_readDuration hduration
  have hnumber := hn _ (hfields (Datum.parts_subset_of_lookup hd (Datum.mem_parts _)))
  apply Number.nonneg_of_toFloat? hneg hx
  rintro y rfl
  exact hnumber

theorem ReadFrom.curve_named (h : t.ReadFrom config) (hw : template ∈ t.written) {k : Track}
    (hk : k.motion template = some motion) (hc : motion.curve? = some c) :
    c = .sine ∨ .text c.name ∈ (Datum.table config).parts := by
  obtain ⟨fields, hfields, hread⟩ := h.written_read hw
  have hmotion := (SegmentTemplate.readFields_eq_ok hread).2 k
  rw [hk] at hmotion
  obtain ⟨motionFields, hd, hmotion⟩ := Motion.table_of_read hmotion
  have htable := Datum.parts_subset_of_lookup hd
  rcases Motion.readCurve_eq_ok (Motion.readFields_curve hmotion hc) with ⟨-, rfl⟩ | hd
  · exact .inl rfl
  · have htext := Datum.parts_subset_of_lookup hd (Datum.mem_parts _)
    exact .inr (hfields (htable htext))

theorem ReadFrom.duration_nonneg (h : t.ReadFrom config)
    (hn : ∀ d ∈ (Datum.table config).parts, d.isNaN = false) (hs : s.segmentMilliseconds.Nonneg)
    (hd : x.duration = s.segmentMilliseconds ∨ ∃ ms ∈ t.lengths, x.duration = .real ms) :
    x.duration.Nonneg := by
  rcases hd with hd | ⟨ms, hms, hd⟩
  · rwa [hd]
  · rw [hd]
    exact h.lengths_nonneg hn ms hms

theorem Composed.definite (hu : t.Composed s u) (k : Track) (hi : u.templates[i]? = some template)
    (hx : u.segments[i]? = some x) :
    ∀ v ∈ (k.course x).waypoints, ∃ y, v = .real y ∧ (y = 0 ∨ t.Plays k y) := by
  intro v hv
  rcases (hu.course k hi hx).1 v hv with ⟨y, hy, he⟩ | ⟨he, _⟩
  · exact ⟨y, he, .inr hy⟩
  · exact ⟨0, he, .inl rfl⟩

/-- Each segment that a word plays by templates of the table is playable. -/
theorem ReadFrom.playable (h : t.ReadFrom config)
    (hn : ∀ d ∈ (Datum.table config).parts, d.isNaN = false) (hs : s.segmentMilliseconds.Nonneg)
    (hu : t.Composed s u) : ∀ x ∈ u.segments, t.Playable config s x := by
  intro x hx
  obtain ⟨i, hx⟩ := List.mem_iff_getElem?.1 hx
  obtain ⟨template, hi⟩ := hu.exists_template hx
  have hwritten : template ∈ t.written := hu.written _ (List.mem_of_getElem? hi)
  have hduration := hu.duration hi hx
  have hnonneg := h.duration_nonneg hn hs hduration
  have htraces := segment_traces ((segments_segment hu.segments_eq).2 i template x hi hx)
  constructor
  · exact hnonneg
  · exact fun k => hu.definite k hi hx
  · intro k c hc
    rw [(htraces k).curve_eq, Option.bind_eq_some_iff] at hc
    obtain ⟨motion, hk, hc⟩ := hc
    exact ⟨c.ofName?_name, h.curve_named hwritten hk hc⟩
  · intro k times
    have hlength : (k.course x).duration.Nonneg := by rwa [(htraces k).duration_eq]
    refine ⟨Trajectory.values_iff ?_ hlength times, fun h => Trajectory.values_overflow hlength h times⟩
    intro v hv
    exact (hu.definite k hi hx v hv).imp fun _ hy => hy.1
  · intro k hoverflows
    have hnone := hoverflows.2
    rw [(htraces k).duration_eq] at hnone
    rcases hduration with hd | ⟨ms, _, hd⟩
    · exact ⟨hd, hd ▸ hnone⟩
    · rw [hd] at hnone
      cases hnone

/-- Whatever a table that was read compiles, and whatever it compiled before, can be played. -/
theorem playable_of_read (h : read config = .ok t)
    (hn : ∀ d ∈ (Datum.table config).parts, d.isNaN = false) (hs : s.segmentMilliseconds.Nonneg)
    (history : List Request) :
    (∀ tokens position word, ((ofTable t).compileTokens s tokens position).outcome
        ((ofTable t).after history) = .ok word →
      ∀ u, word.outcome = .ok u → ∀ x ∈ u.segments, t.Playable config s x) ∧
    (∀ text position word, ((ofTable t).compileWord s text position).outcome
        ((ofTable t).after history) = .ok word →
      ∀ u, word.outcome = .ok u → ∀ x ∈ u.segments, t.Playable config s x) ∧
    ∀ strict text words, ((ofTable t).compileText s strict text).outcome
        ((ofTable t).after history) = .ok words →
      ∀ word ∈ words, ∀ u, word.outcome = .ok u → ∀ x ∈ u.segments, t.Playable config s x := by
  have hread := readFrom_of_read h
  have hsound := sound_after (ofTable t) history
  refine ⟨?_, ?_, ?_⟩
  · intro tokens position word hword u hu
    have hcomposed := (compileTokensOf_composed t s _ _ tokens _ hsound).1 word hword u hu
    exact hread.playable hn hs hcomposed
  · intro text position word hword u hu
    have hcomposed := (compileWord_composed t s text position _ hsound).1 word hword u hu
    exact hread.playable hn hs hcomposed
  · intro strict text words hwords word hmem u hu
    have hcomposed := (compileText_composed t s strict text _ hsound).1 words hwords word hmem u hu
    exact hread.playable hn hs hcomposed

end Words

section Configurations

/-- The formant of `a` rises from silence, for as long as the settings say. -/
def rising : List (String × Datum) :=
  [("constants", .table [("TOP", .number (.real 1))]), ("graphemes", .table [("a", .table
    [("elsewhere", .table [("formant", .table
      [("kind", .text "transition"), ("end", .text "TOP")])])])])]

def rise : SegmentTemplate where
  formant := some (.transition none (some (.named "TOP")) .sine)

def risingTable : Table where
  symbols := [.text "a"]
  constants := [("TOP", 1)]
  graphemes := [("a", { elsewhere := some (.single (.segment rise)) })]

def risen (milliseconds : Number) : Utterance where
  realizations := [⟨{ text := "a" }, .elsewhere (.single (.segment rise)), [rise]⟩]
  segments := [⟨milliseconds, .transition (.real 0) (.real 1) milliseconds .sine,
    .constant (.real 0) milliseconds⟩]

theorem read_rising : read rising = .ok risingTable := by with_unfolding_all rfl

theorem rising_free_of_nan : ∀ d ∈ (Datum.table rising).parts, d.isNaN = false := by
  decide +kernel

theorem compileWord_rising (s : Settings) :
    ((ofTable risingTable).compileWord s "a" 0).outcome {} =
      .ok ⟨"a", 0, .ok (risen s.segmentMilliseconds)⟩ := by
  with_unfolding_all rfl

theorem values_risen {d : Number} (hd : d.Nonneg) (h : d.toFloat? = none) :
    ∀ x ∈ (risen d).segments, ∀ times, x.formant.values times = .error .tooLarge := by
  intro x hx times
  have hformant : x.formant = .transition (.real 0) (.real 1) d .sine := by
    rw [List.mem_singleton.1 hx]
  rw [hformant]
  apply Trajectory.values_overflow
  · exact hd
  · exact ⟨Option.some_ne_none _, h⟩

/-- No double is near ten to the power of four hundred. -/
def endless : Settings where
  segmentMilliseconds := .int (10 ^ 400)

theorem endless_beyond : endless.segmentMilliseconds.toFloat? = none := by
  decide +kernel

/-- As long as time is a double there are values at any times. -/
theorem playable_of_read_rising :
    read rising = .ok risingTable ∧ (∀ d ∈ (Datum.table rising).parts, d.isNaN = false) ∧
      ({} : Settings).segmentMilliseconds.Nonneg ∧
      ((ofTable risingTable).compileTokens {} [{ text := "a" }] 0).outcome
        ((ofTable risingTable).after []) = .ok ⟨"a", 0, .ok (risen (.real 100))⟩ ∧
      ((ofTable risingTable).compileWord {} "a" 0).outcome ((ofTable risingTable).after []) =
        .ok ⟨"a", 0, .ok (risen (.real 100))⟩ ∧
      ((ofTable risingTable).compileText {} true "A").outcome ((ofTable risingTable).after []) =
        .ok [⟨"a", 0, .ok (risen (.real 100))⟩] ∧
      ∀ x ∈ (risen (.real 100)).segments, risingTable.Playable rising {} x := by
  have hs : ({} : Settings).segmentMilliseconds.Nonneg := by decide +kernel
  have htokens : ((ofTable risingTable).compileTokens {} [{ text := "a" }] 0).outcome
      ((ofTable risingTable).after []) = .ok ⟨"a", 0, .ok (risen (.real 100))⟩ := by
    with_unfolding_all rfl
  have htext : ((ofTable risingTable).compileText {} true "A").outcome
      ((ofTable risingTable).after []) = .ok [⟨"a", 0, .ok (risen (.real 100))⟩] := by
    with_unfolding_all rfl
  have hword := compileWord_rising {}
  have hplayable := (playable_of_read read_rising rising_free_of_nan hs []).2.1 "a" 0 _ hword
  exact ⟨read_rising, rising_free_of_nan, hs, htokens, hword, htext, hplayable _ rfl⟩

/-- Over a length beyond the doubles the word is compiled, but no time is a part of that. -/
theorem rising_overflows :
    read rising = .ok risingTable ∧ (∀ d ∈ (Datum.table rising).parts, d.isNaN = false) ∧
      endless.segmentMilliseconds.Nonneg ∧
      ((ofTable risingTable).compileWord endless "a" 0).outcome {} =
        .ok ⟨"a", 0, .ok (risen endless.segmentMilliseconds)⟩ ∧
      ∀ x ∈ (risen endless.segmentMilliseconds).segments, ∀ times,
        x.formant.values times = .error .tooLarge := by
  have hs : endless.segmentMilliseconds.Nonneg := by decide +kernel
  exact ⟨read_rising, rising_free_of_nan, hs, compileWord_rising endless,
    values_risen hs endless_beyond⟩

end Configurations

end Table

end Silbo
