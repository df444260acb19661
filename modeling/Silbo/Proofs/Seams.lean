import Silbo.Proofs.Rendering

/-!
Rendering in parts. A row of segments may be cut between any two of them: what stands behind the
cut is rendered from the phase in which the part before it ends. A segment without samples leaves
neither a sound nor a change of phase.
-/
namespace Silbo
open Signal
open Work (bind_eq_ok)

variable {rate phase : Number} {x : Segment} {xs : List Segment}

/-- Whether a segment can be sampled at a rate and has no samples there. -/
def Segment.isSoundless (rate : Number) (x : Segment) : Bool :=
  match x.sample rate with
  | .ok (formant, _) => formant.isEmpty
  | .error _ => false

section Samples

theorem sampleTimes_size (h : sampleTimes ms rate = .ok times) : times.size = count rate ms := by
  obtain ⟨n, hn, h⟩ := bind_eq_ok h
  dsimp only at h
  split at h
  · cases h
  · split at h
    · cases h
    · obtain ⟨r, -, h⟩ := bind_eq_ok h
      split at h
      · cases h
      · cases h
        rw [Array.size_ofFn, count_eq hn]

theorem Segment.sample_size (h : x.sample rate = .ok tracks) :
    tracks.1.size = count rate x.duration := by
  obtain ⟨times, htimes, h⟩ := bind_eq_ok h
  obtain ⟨formant, -, h⟩ := bind_eq_ok h
  obtain ⟨amplitude, -, h⟩ := bind_eq_ok h
  cases h
  rw [Array.size_map, sampleTimes_size htimes]

theorem Segment.isSoundless_eq (h : x.sample rate = .ok tracks) :
    x.isSoundless rate = (count rate x.duration == 0) := by
  rw [isSoundless, h, ← sample_size h]
  rfl

theorem Segment.render_soundless (h : x.isSoundless rate = true) (phase : Number) :
    x.render rate phase = .ok (#[], phase) := by
  unfold isSoundless at h
  cases hs : x.sample rate with
  | error f => simp [hs] at h
  | ok tracks =>
    obtain ⟨times, htimes, -⟩ := bind_eq_ok hs
    obtain ⟨-, r, hr⟩ := fits_of_sampleTimes htimes
    have hfloat : Signal.float rate = .ok r := by
      rw [Signal.float, hr]
      rfl
    have hempty : tracks.1 = #[] := by simpa [hs] using h
    simp only [render, hs, hfloat, hempty, bind, Except.bind, oscillate]
    simp [pure, Except.pure]

end Samples

section Rows

theorem renderSegments_cons (rate phase : Number) (x : Segment) (xs : List Segment) :
    renderSegments rate phase (x :: xs) = (do
      let (signal, middle) ← x.render rate phase
      let (later, last) ← renderSegments rate middle xs
      pure (signal ++ later, last)) := by
  have hflatten : ∀ (signal : Signal) (signals : List Signal),
      (signal :: signals).toArray.flatten = signal ++ signals.toArray.flatten := by
    intro signal signals
    apply Array.toList_inj.1
    simp
  simp only [renderSegments, renderEach, bind_assoc, pure_bind, hflatten]

theorem sample_of_renderSegments (h : renderSegments rate phase xs = .ok out) :
    ∀ x ∈ xs, ∃ tracks, x.sample rate = .ok tracks := by
  induction xs generalizing phase out with
  | nil => simp
  | cons x xs ih =>
    rw [renderSegments_cons] at h
    obtain ⟨first, hfirst, h⟩ := bind_eq_ok h
    obtain ⟨later, hlater, -⟩ := bind_eq_ok h
    obtain ⟨tracks, hsample, -⟩ := bind_eq_ok hfirst
    rw [List.forall_mem_cons]
    exact ⟨⟨tracks, hsample⟩, ih hlater⟩

theorem renderSegments_filter (rate phase : Number) (xs : List Segment) :
    renderSegments rate phase (xs.filter (!·.isSoundless rate)) =
      renderSegments rate phase xs := by
  induction xs generalizing phase with
  | nil => rfl
  | cons x xs ih =>
    cases h : x.isSoundless rate with
    | true =>
      rw [List.filter_cons_of_neg (by simp [h]), ih, renderSegments_cons, x.render_soundless h]
      show renderSegments rate phase xs = renderSegments rate phase xs >>= fun r =>
        pure (#[] ++ r.1, r.2)
      simp
    | false =>
      rw [List.filter_cons_of_pos (by simp [h]), renderSegments_cons, renderSegments_cons]
      simp only [ih]

/-- A row of segments is rendered as its first part and then, from the phase that this part ends in,
as the rest, to the same samples and the same phase; and at a rate at which the row is rendered, its
segments without samples may be left out wherever they stand. -/
theorem renderSegments_append (rate phase : Number) (xs ys : List Segment) :
    (renderSegments rate phase (xs ++ ys) = do
      let (front, middle) ← renderSegments rate phase xs
      let (back, last) ← renderSegments rate middle ys
      pure (front ++ back, last)) ∧
    ∀ out, renderSegments rate phase xs = .ok out →
      renderSegments rate phase (xs.filter (count rate ·.duration != 0)) = .ok out := by
  constructor
  · induction xs generalizing phase with
    | nil =>
      show renderSegments rate phase ys = renderSegments rate phase ys >>= fun r =>
        pure (#[] ++ r.1, r.2)
      simp
    | cons x xs ih =>
      rw [List.cons_append, renderSegments_cons, renderSegments_cons]
      simp [ih]
  · intro out h
    have hcount : xs.filter (count rate ·.duration != 0) = xs.filter (!·.isSoundless rate) := by
      apply List.filter_congr
      intro x hx
      obtain ⟨tracks, hsample⟩ := sample_of_renderSegments h x hx
      rw [x.isSoundless_eq hsample]
      rfl
    rw [hcount, renderSegments_filter, h]

/-- A segment too short for a sample, and one of two samples. -/
def brief : List Segment :=
  [⟨.real 0.5, .constant (.real 440) (.real 0.5), .constant (.real 1) (.real 0.5)⟩,
    ⟨.real 2, .transition (.real 440) (.real 880) (.real 2) .linear,
      .constant (.real 1) (.real 2)⟩]

theorem renderSegments_append_brief :
    ∃ out, renderSegments (.int 1000) (.real 1) brief = .ok out ∧
      renderSegments (.int 1000) (.real 1) brief.tail = .ok out ∧ out.1.size = 2 := by
  have hr : (Number.int 1000).IsRate 1000 := ⟨by decide, rfl, rfl⟩
  have hdefinite : ∀ x ∈ brief, x.Definite := by
    simp only [brief, List.forall_mem_cons]
    refine ⟨⟨?_, ?_⟩, ⟨?_, ?_⟩, by simp⟩ <;> intro k <;> cases k <;>
      simp [Track.course, Trajectory.waypoints, Trajectory.start, Trajectory.peak?,
        Trajectory.stop, Trajectory.duration]
  have hfits : ∀ x ∈ brief, Fits 8 (.int 1000) x.duration := by
    rw [← List.forall_mem_map, ← List.all_iff_forall_prop]
    decide +kernel
  obtain ⟨signals, q, hsignals, hsizes⟩ := renderEach_ok hr hdefinite hfits 1
  have hout : renderSegments (.int 1000) (.real 1) brief =
      .ok (signals.toArray.flatten, .real q) := by
    rw [renderSegments, hsignals]
    rfl
  have htail : brief.filter (count (.int 1000) ·.duration != 0) = brief.tail := by
    with_unfolding_all rfl
  have hleft := (renderSegments_append (.int 1000) (.real 1) brief []).2 _ hout
  rw [htail] at hleft
  refine ⟨_, hout, hleft, ?_⟩
  rw [Array.size_flatten, List.map_toArray, List.sum_toArray, hsizes]
  with_unfolding_all rfl

end Rows

end Silbo
