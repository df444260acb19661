import Silbo.Proofs.Closure
import Silbo.Proofs.Provenance

/-!
The range of the built-in whistle. What its templates state are gains of zero and one, formants at
five loci and lengths above zero; so however long a word is, its segments have no other values than
these, but for the silence on the formant up to the end of the first segment that states a formant.
-/
namespace Silbo

namespace Table
open Model

/-- Whatever a table states on a track is among some values. -/
def StatesOnly (t : Table) (k : Track) (values : List Float) : Prop :=
  ∀ x ∈ t.written, ∀ motion ∈ k.motion x, ∀ q ∈ motion.quantities,
    ∃ y ∈ values, t.value? q = some y

instance (t : Table) (k : Track) (values : List Float) : Decidable (t.StatesOnly k values) :=
  List.decidableBAll _ _

variable {t : Table} {k : Track} {values : List Float}

theorem StatesOnly.mem (h : t.StatesOnly k values) (hy : t.Plays k y) : y ∈ values := by
  obtain ⟨x, hx, motion, hm, q, hq, hy⟩ := hy
  obtain ⟨z, hz, hzq⟩ := h x hx motion hm q hq
  rw [hy, Option.some.injEq] at hzq
  rwa [hzq]

/-- The values of a word on a track are those that the table states there, or it is silence up to
the end of the first segment that states one. -/
theorem StatesOnly.course (h : t.StatesOnly k values) (hu : t.Composed s u)
    (hi : u.templates[i]? = some template) (hx : u.segments[i]? = some x) :
    (∀ v ∈ (k.course x).waypoints, (∃ y ∈ values, v = .real y) ∨ v = .real 0 ∧
        ∀ t' ∈ u.templates.take i, k.motion t' = none) ∧
      ((∃ y ∈ values, (k.course x).stop = .real y) ∨ (k.course x).stop = .real 0 ∧
        ∀ t' ∈ u.templates.take (i + 1), k.motion t' = none) := by
  have hvalues : ∀ {v : Number}, (∃ y, t.Plays k y ∧ v = .real y) → ∃ y ∈ values, v = .real y := by
    rintro v ⟨y, hy, hv⟩
    exact ⟨y, h.mem hy, hv⟩
  obtain ⟨hwaypoints, hstop⟩ := hu.course k hi hx
  exact ⟨fun v hv => (hwaypoints v hv).imp_left hvalues, hstop.imp_left hvalues⟩

end Table

namespace Whistle
open Model Work

def gains : List Float := [0, 1]

def pitches : List Float := [1350, 1750, 2175, 2600, 3000]

theorem gains_stated : table.StatesOnly .amplitude gains := by decide +kernel

theorem pitches_stated : table.StatesOnly .formant pitches := by decide +kernel

theorem lengths_pos : ∀ ms ∈ table.lengths, 0 < ms := by decide +kernel

theorem pitches_ne_zero : ∀ y ∈ pitches, y ≠ 0 := by decide +kernel

theorem real_ne_zero (hy : y ∈ pitches) : Number.real y ≠ .real 0 := by
  intro h
  rw [Number.real.injEq] at h
  exact pitches_ne_zero y hy h

/-- A segment of a word after segments that have the templates of `before`. -/
structure InRange (s : Settings) (before : List SegmentTemplate) (t : SegmentTemplate)
    (x : Segment) : Prop where
  amplitude : ∀ v ∈ x.amplitude.waypoints, v = .real 0 ∨ v = .real 1
  formant : ∀ v ∈ x.formant.waypoints, v = .real 0 ∨ ∃ y ∈ pitches, v = .real y
  /-- The formant is silent up to the end of the first segment that states it. -/
  silent : .real 0 ∈ x.formant.waypoints → ∀ t' ∈ before, t'.formant = none
  silent_stop : x.formant.stop = .real 0 → ∀ t' ∈ before ++ [t], t'.formant = none
  duration : x.duration = s.segmentMilliseconds ∨
    ∃ ms ∈ table.lengths, x.duration = .real ms ∧ 0 < ms

structure Ranges (s : Settings) (u : Utterance) : Prop where
  length_eq : u.segments.length = u.templates.length
  inRange : ∀ i t x, u.templates[i]? = some t → u.segments[i]? = some x →
    InRange s (u.templates.take i) t x

theorem ranges_of_composed (hu : table.Composed s u) : Ranges s u where
  length_eq := (segments_segment hu.segments_eq).1
  inRange i t x hi hx := by
    obtain ⟨hgains, -⟩ := gains_stated.course hu hi hx
    obtain ⟨hpitches, hstop⟩ := pitches_stated.course hu hi hx
    constructor
    · intro v hv
      rcases hgains v hv with ⟨y, hy, rfl⟩ | ⟨rfl, -⟩
      · simpa [gains] using hy
      · exact .inl rfl
    · intro v hv
      exact (hpitches v hv).symm.imp_left And.left
    · intro hv
      rcases hpitches _ hv with ⟨y, hy, he⟩ | ⟨-, hnone⟩
      · exact absurd he.symm (real_ne_zero hy)
      · exact hnone
    · intro hv
      rw [List.take_add_one, hi, show (Track.formant.course x).stop = .real 0 from hv] at hstop
      rcases hstop with ⟨y, hy, he⟩ | ⟨-, hnone⟩
      · exact absurd he.symm (real_ne_zero hy)
      · exact hnone
    · rcases hu.duration hi hx with h | ⟨ms, hms, h⟩
      · exact .inl h
      · exact .inr ⟨ms, hms, h, lengths_pos ms hms⟩

/-- A word of the built-in whistle stays in range, however long it is, whatever symbols it has in
whatever order and whatever was compiled before. -/
theorem compile_ranges (history : List Request) (s : Settings) :
    (∀ (tokens : List Token) (position : Int), (∀ token ∈ tokens, token.text ∈ alphabet) →
      ∃ word u, ((ofTable table).compileTokens s tokens position).outcome
          ((ofTable table).after history) = .ok word ∧ word.outcome = .ok u ∧
        u.realizations.map (·.token) = tokens ∧ Ranges s u) ∧
      (∀ text position tokens, (ofTable table).tokenizeWord text position = .ok tokens →
        ∃ u, ((ofTable table).compileWord s text position).outcome ((ofTable table).after history) =
          .ok ⟨text, position, .ok u⟩ ∧ Ranges s u) ∧
      ∀ strict text words, ((ofTable table).compileText s strict text).outcome
          ((ofTable table).after history) = .ok words →
        ∀ word ∈ words, ∀ u, word.outcome = .ok u → Ranges s u := by
  have hsound := sound_after (ofTable table) history
  refine ⟨fun tokens position hs => ?_, fun text position tokens h => ?_,
    fun strict text words h word hw u hu => ?_⟩
  · obtain ⟨u, hu, hv⟩ := Table.compileTokensOf_voiced isClosed_table hs history s _ _
    have hcomposed := (Table.compileTokensOf_composed table s _ _ tokens _ hsound).1 _ hu u rfl
    exact ⟨_, u, hu, rfl, hv.tokens_eq, ranges_of_composed hcomposed⟩
  · obtain ⟨u, hu⟩ := compileWord_ok h history s
    have hcomposed := (Table.compileWord_composed table s text position _ hsound).1 _ hu u rfl
    exact ⟨u, hu, ranges_of_composed hcomposed⟩
  · have hcomposed := (Table.compileText_composed table s strict text _ hsound).1 _ h word hw u hu
    exact ranges_of_composed hcomposed

/-- All that is left of `kek` is the pause of its last consonant. -/
theorem compile_ranges_kek :
    (∀ token ∈ kek, token.text ∈ alphabet) ∧
      (∃ word u, ((ofTable table).compileTokens {} kek).outcome
          ((ofTable table).after [.flattenClass "C"]) = .ok word ∧ word.outcome = .ok u ∧
        u.realizations.map (·.token) = kek ∧ Ranges {} u) ∧
      (ofTable table).tokenizeWord "waja" 3 = .ok [⟨"wa", false, 3⟩, ⟨"ja", false, 5⟩] ∧
      (∃ u, ((ofTable table).compileWord {} "waja" 3).outcome
        ((ofTable table).after [.flattenClass "C"]) = .ok ⟨"waja", 3, .ok u⟩ ∧ Ranges {} u) ∧
      ∃ words, ((ofTable table).compileText {} false "kek waja").outcome
          ((ofTable table).after [.flattenClass "C"]) = .ok words ∧
        ∀ word ∈ words, ∀ u, word.outcome = .ok u → Ranges {} u := by
  have hs : ∀ token ∈ kek, token.text ∈ alphabet := by decide +kernel
  have htokens : (ofTable table).tokenizeWord "waja" 3 =
      .ok [⟨"wa", false, 3⟩, ⟨"ja", false, 5⟩] := by with_unfolding_all rfl
  obtain ⟨hsymbols, hword, htexts⟩ := compile_ranges [.flattenClass "C"] {}
  obtain ⟨_, words, _, _, hwords⟩ := textual_table.compileText_settles {} "kek waja"
  have hok := (hwords _ (sound_after (ofTable table) [.flattenClass "C"])).1
  exact ⟨hs, hsymbols kek 0 hs, htokens, hword "waja" 3 _ htokens, words, hok, htexts _ _ _ hok⟩

end Whistle

end Silbo
