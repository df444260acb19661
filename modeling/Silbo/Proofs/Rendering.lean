import Silbo.Proofs.Counting
import Silbo.Proofs.Safety

/-!
How long a rendered text is, and how it is laid out. Each stage of rendering keeps the number of
samples: the tracks of a segment, the sine, the fades and the conversion. So a word has the samples
of its segments, and the words that have any segments stand in their order with one gap between
neighbours.
-/
namespace Silbo
open Signal Double
open Work (bind_eq_ok mapM_eq_ok)

/-- A segment whose tracks have definite values over its own length. -/
structure Segment.Definite (x : Segment) : Prop where
  definite : ∀ k : Track, ∀ v ∈ (k.course x).waypoints, ∃ y, v = .real y
  duration_eq : ∀ k : Track, (k.course x).duration = x.duration

variable {rate gap peak : Number} {r : Float}

section Signals

theorem phaseSums_size (increments : Signal) : (phaseSums increments).1.size = increments.size := by
  unfold phaseSums
  apply Array.foldl_induction (fun i (acc : Signal × Float) => acc.1.size = i)
  · rfl
  · intro i acc h
    rw [Array.size_push, h]

theorem modulate_ok {s t : Signal} (h : s.size = t.size) :
    ∃ signal, modulate s t = .ok signal ∧ signal.size = s.size := by
  refine ⟨_, if_pos h, ?_⟩
  rw [Array.size_map, Array.size_zip, h, Nat.min_self]

theorem oscillate_ok (hr : rate.IsRate r) {frequency amplitude : Signal}
    (h : amplitude.size = frequency.size) (p : Float) :
    ∃ signal q, oscillate frequency amplitude rate (.real p) = .ok (signal, .real q) ∧
      signal.size = frequency.size := by
  unfold oscillate
  split
  · rename_i hempty
    exact ⟨#[], p, rfl, (Array.isEmpty_iff_size_eq_zero.1 hempty).symm⟩
  · rw [hr.float_eq]
    let sums := phaseSums (frequency.map fun f => turn * f / r)
    have hsums : amplitude.size = (sums.1.map fun sum => Float.sin (p + sum)).size := by
      rw [Array.size_map, phaseSums_size, Array.size_map, h]
    obtain ⟨signal, hsignal, hsize⟩ := modulate_ok hsums
    refine ⟨signal, Decimal.flooredRemainder (p + sums.2) turn, ?_, hsize.trans h⟩
    show (modulate amplitude (sums.1.map fun sum => Float.sin (p + sum)) >>= fun signal =>
      pure (signal, _)) = _
    rw [hsignal]
    rfl

theorem shade_size (s : Signal) (first : Nat) (gains : Signal) :
    (s.shade first gains).size = s.size := Array.size_mapIdx

theorem fade_ok {attack release : Number} {s : Signal}
    (ha : ∃ n, sampleCount attack rate = .ok n) (hr : ∃ n, sampleCount release rate = .ok n) :
    ∃ faded, fade attack release rate s = .ok faded ∧ faded.size = s.size := by
  obtain ⟨a, ha⟩ := ha
  obtain ⟨b, hb⟩ := hr
  unfold fade
  rw [ha, hb]
  refine ⟨_, rfl, ?_⟩
  split <;> split <;> simp only [shade_size]

end Signals

section Segments

variable {x : Segment} {segments : List Segment}

theorem Segment.Definite.course_ok (hx : x.Definite) (hr : rate.IsRate r)
    (hn : sampleCount x.duration rate = .ok n) (k : Track) (b : Curve.Basis Float) :
    ∃ f, (k.course x).course b = .ok f := by
  have hpart : ∃ part, Trajectory.progress? (k.course x).duration = some part := by
    rw [hx.duration_eq k]
    cases hms : x.duration.isNonpositive with
    | true => exact ⟨_, if_pos hms⟩
    | false =>
      apply Trajectory.progress?_isSome
      intro hd
      rw [sampleCount_eq hr hms, float, hd] at hn
      cases hn
  obtain ⟨f, hf⟩ := Trajectory.course?_of_progress (b := b) (hx.definite k) fun _ => hpart
  refine ⟨f, ?_⟩
  rw [Trajectory.course, hf]
  rfl

theorem Segment.Definite.render_ok (hx : x.Definite) (hr : rate.IsRate r)
    (hf : Fits 8 rate x.duration) (p : Float) :
    ∃ signal q, x.render rate (.real p) = .ok (signal, .real q) ∧
      signal.size = count rate x.duration := by
  obtain ⟨n, hn, -⟩ := id hf
  obtain ⟨times, htimes, hsize⟩ := sampleTimes_ok hr hf
  obtain ⟨formant, hformant⟩ := hx.course_ok hr hn .formant .row
  obtain ⟨amplitude, hamplitude⟩ := hx.course_ok hr hn .amplitude .row
  have hformant : x.formant.course .row = .ok formant := hformant
  have hamplitude : x.amplitude.course .row = .ok amplitude := hamplitude
  have hsample : x.sample rate = .ok (times.map formant, times.map amplitude) := by
    unfold Segment.sample
    simp only [htimes, hformant, hamplitude, bind, Except.bind]
    rfl
  have hsizes : (times.map amplitude).size =
      ((times.map formant).map (clip 0 (r * highestFrequency))).size := by
    simp only [Array.size_map]
  obtain ⟨signal, q, hsignal, hlength⟩ := oscillate_ok hr hsizes p
  refine ⟨signal, q, ?_, ?_⟩
  · unfold Segment.render
    rw [hsample]
    show (Signal.float rate >>= _) = _
    rw [hr.float_eq]
    exact hsignal
  · rw [hlength, Array.size_map, Array.size_map, hsize]

theorem times_of_render (h : x.render rate phase = .ok result) :
    ∃ times, sampleTimes x.duration rate = .ok times := by
  obtain ⟨tracks, hsample, -⟩ := bind_eq_ok h
  obtain ⟨times, htimes, -⟩ := bind_eq_ok hsample
  exact ⟨times, htimes⟩

theorem times_of_renderEach (h : renderEach rate phase segments = .ok result) :
    ∀ x ∈ segments, ∃ times, sampleTimes x.duration rate = .ok times := by
  induction segments generalizing phase result with
  | nil => exact fun x hx => absurd hx List.not_mem_nil
  | cons x segments ih =>
    obtain ⟨first, hfirst, h⟩ := bind_eq_ok h
    obtain ⟨later, hlater, -⟩ := bind_eq_ok h
    rw [List.forall_mem_cons]
    exact ⟨times_of_render hfirst, ih hlater⟩

theorem renderEach_ok (hr : rate.IsRate r) (hx : ∀ x ∈ segments, x.Definite)
    (hf : ∀ x ∈ segments, Fits 8 rate x.duration) (p : Float) :
    ∃ signals q, renderEach rate (.real p) segments = .ok (signals, .real q) ∧
      signals.map Array.size = segments.map (count rate ·.duration) := by
  induction segments generalizing p with
  | nil => exact ⟨[], p, rfl, rfl⟩
  | cons x segments ih =>
    rw [List.forall_mem_cons] at hx hf
    obtain ⟨signal, q, hsignal, hsize⟩ := hx.1.render_ok hr hf.1 p
    obtain ⟨signals, q', hsignals, hsizes⟩ := ih hx.2 hf.2 q
    refine ⟨signal :: signals, q', ?_, ?_⟩
    · unfold renderEach
      simp only [hsignal, hsignals, bind, Except.bind]
      rfl
    · rw [List.map_cons, List.map_cons, hsize, hsizes]

end Segments

section Words

variable {w : Word} {words : List Word}

theorem Word.mem_segments : x ∈ w.segments ↔ ∃ u, w.outcome = .ok u ∧ x ∈ u.segments := by
  unfold Word.segments
  cases w.outcome with
  | ok u => simp
  | error e => simp

def Word.samples (rate : Number) (w : Word) : Nat := (w.segments.map (count rate ·.duration)).sum

theorem fades_ok (hr : rate.IsRate r) :
    (∃ n, sampleCount wordAttack rate = .ok n) ∧ ∃ n, sampleCount wordRelease rate = .ok n := by
  have hattack : wordAttack.toFloat? = some 3 := rfl
  have hrelease : wordRelease.toFloat? = some 5 := rfl
  constructor
  · apply sampleCount_short hr hattack
    show Within 3 (Float.Model.UnpackedFloat.finite .positive 6755399441055744 (-51) (by decide))
    exact .finite (by decide) (by decide)
  · apply sampleCount_short hr hrelease
    show Within 3 (Float.Model.UnpackedFloat.finite .positive 5629499534213120 (-50) (by decide))
    exact .finite (by decide) (by decide)

/-- Where all segments of a word can be laid out, only their joined signal can be too large. -/
theorem Word.render_cases (hr : rate.IsRate r) (hw : ∀ x ∈ w.segments, x.Definite)
    (hf : ∀ x ∈ w.segments, Fits 8 rate x.duration) :
    (8 * w.samples rate < wordLimit ∧
        ∃ buffer, w.render rate = .ok buffer ∧ buffer.size = w.samples rate) ∨
      wordLimit ≤ 8 * w.samples rate ∧ w.render rate = .error .bytesBeyondWords := by
  obtain ⟨signals, q, hsignals, hsizes⟩ := renderEach_ok hr hw hf 0
  have hsize : signals.toArray.flatten.size = w.samples rate := by
    rw [Array.size_flatten, List.map_toArray, List.sum_toArray, hsizes, samples]
  have hjoined : w.render rate = (do
      checkSize 8 signals.toArray.flatten.size
      pure (← fade wordAttack wordRelease rate signals.toArray.flatten).toSamples) := by
    unfold Word.render renderSegments
    rw [hsignals]
    rfl
  rw [hjoined, hsize]
  rcases lt_or_ge (8 * (w.samples rate : Int)) wordLimit with hlt | hge
  · obtain ⟨hattack, hrelease⟩ := fades_ok hr
    obtain ⟨faded, hfaded, hkept⟩ := fade_ok (s := signals.toArray.flatten) hattack hrelease
    refine .inl ⟨hlt, toSamples faded, ?_, ?_⟩
    · rw [checkSize_ok hlt, hfaded]
      rfl
    · rw [toSamples, Array.size_map, hkept, hsize]
  · exact .inr ⟨hge, by rw [checkSize_error hge]; rfl⟩

theorem times_of_word (h : w.render rate = .ok buffer) :
    ∀ x ∈ w.segments, ∃ times, sampleTimes x.duration rate = .ok times := by
  obtain ⟨result, hresult, -⟩ := bind_eq_ok h
  obtain ⟨each, heach, -⟩ := bind_eq_ok hresult
  exact times_of_renderEach heach

/-- The words of a text that are heard: those that were compiled to any segments. -/
def audible (words : List Word) : List Word :=
  words.filter fun w => w.error?.isNone && !w.segments.isEmpty

theorem filter_segments (words : List Word) :
    words.filter (!·.segments.isEmpty) = audible words := by
  unfold audible
  congr 1
  funext w
  unfold Word.segments Word.error?
  cases w.outcome with
  | ok u => simp
  | error e => simp

/-- The samples of the audio of a text in which some word is heard. -/
def joinedSamples (rate gap : Number) (words : List Word) : Nat :=
  ((audible words).map (·.samples rate)).sum + ((audible words).length - 1) * count rate gap

/-- The samples of the audio of a text. If no word is heard it has those of the gap. -/
def audioLength (rate gap : Number) (words : List Word) : Nat :=
  if audible words = [] then count rate gap else joinedSamples rate gap words

/-- All of a text can be laid out: the gap, every segment, the signal of every word and the audio. -/
structure Renderable (rate gap : Number) (words : List Word) : Prop where
  silence : Fits 4 rate gap
  segments : ∀ w ∈ words, ∀ x ∈ w.segments, Fits 8 rate x.duration
  signals : ∀ w ∈ words, 8 * w.samples rate < wordLimit
  joined : 4 * joinedSamples rate gap words < wordLimit

instance (rate gap : Number) (words : List Word) : Decidable (Renderable rate gap words) :=
  decidable_of_iff (Fits 4 rate gap ∧ (∀ w ∈ words, ∀ x ∈ w.segments, Fits 8 rate x.duration) ∧
      (∀ w ∈ words, 8 * w.samples rate < wordLimit) ∧ 4 * joinedSamples rate gap words < wordLimit)
    ⟨fun ⟨hg, hs, hw, hj⟩ => ⟨hg, hs, hw, hj⟩, fun h => ⟨h.silence, h.segments, h.signals, h.joined⟩⟩

end Words

section Joining

variable {parts : List Samples} {silence : Samples}

theorem joinSamples_cons_cons (silence part next : Samples) (parts : List Samples) :
    joinSamples silence (part :: next :: parts) =
      part ++ silence ++ joinSamples silence (next :: parts) := by
  apply Array.toList_inj.1
  simp [joinSamples, List.intersperse]

theorem joinSamples_singleton (silence part : Samples) : joinSamples silence [part] = part := by
  apply Array.toList_inj.1
  simp [joinSamples, List.intersperse]

theorem joinSamples_toList (silence : Samples) (parts : List Samples) :
    (joinSamples silence parts).toList =
      silence.toList.intercalate (parts.map Array.toList) := by
  induction parts with
  | nil => rfl
  | cons part parts ih =>
    cases parts with
    | nil => rw [joinSamples_singleton, List.map_cons, List.map_nil, List.intercalate_singleton]
    | cons next parts =>
      rw [joinSamples_cons_cons, Array.toList_append, Array.toList_append, ih]
      simp only [List.map_cons, List.intercalate_cons_cons]

theorem joinSamples_size (silence : Samples) (hne : parts ≠ []) :
    (joinSamples silence parts).size =
      (parts.map Array.size).sum + (parts.length - 1) * silence.size := by
  induction parts with
  | nil => exact absurd rfl hne
  | cons part parts ih =>
    cases parts with
    | nil => simp [joinSamples_singleton]
    | cons next parts =>
      rw [joinSamples_cons_cons, Array.size_append, Array.size_append, ih (List.cons_ne_nil _ _)]
      simp only [List.map_cons, List.sum_cons, List.length_cons, Nat.add_sub_cancel, Nat.add_mul]
      omega

theorem normalize_ok (hp : peak.toFloat? = some t) (s : Samples) :
    ∃ out, s.normalize peak = .ok out ∧ out.size = s.size := by
  unfold Samples.normalize
  dsimp only
  split
  · exact ⟨s, rfl, rfl⟩
  · rw [float, hp]
    exact ⟨_, rfl, Array.size_map⟩

theorem normalize_size {s out : Samples} (h : s.normalize peak = .ok out) : out.size = s.size := by
  unfold Samples.normalize at h
  dsimp only at h
  split at h
  · cases h
    rfl
  · obtain ⟨x, -, h⟩ := bind_eq_ok h
    cases h
    exact Array.size_map

end Joining

section Compiled
open Model

/-- A word that some model compiled from tokens or from a text, by itself or among others, whatever
was asked of the model before. -/
inductive Word.Compiled (w : Word) : Prop where
  | tokens (m : Model) (history : List Request) (s : Settings) (tokens : List Token)
      (position : Int) (h : (m.compileTokens s tokens position).outcome (m.after history) = .ok w)
  | word (m : Model) (history : List Request) (s : Settings) (text : String) (position : Int)
      (h : (m.compileWord s text position).outcome (m.after history) = .ok w)
  | text (m : Model) (history : List Request) (s : Settings) (strict : Bool) (text : String)
      (words : List Word)
      (h : (m.compileText s strict text).outcome (m.after history) = .ok words) (hw : w ∈ words)

theorem segments_definite {m : Model} (h : m.segments d {} templates = .ok row) :
    ∀ x ∈ row, x.Definite := by
  intro x hx
  obtain ⟨i, hi⟩ := List.mem_iff_getElem?.1 hx
  obtain ⟨hlength, hfollows⟩ := segments_follow h
  obtain ⟨hlt, -⟩ := List.getElem?_eq_some_iff.1 hi
  have ht : templates[i]? = some templates[i] := List.getElem?_eq_getElem (hlength ▸ hlt)
  have hstated {motion : Motion} {v : Number} (hv : m.States motion v) : ∃ y, v = .real y := by
    obtain ⟨-, -, y, -, hy⟩ := hv
    exact ⟨y, hy⟩
  constructor
  · intro k v hv
    rcases (course_given h k ht hi).2 v hv with ⟨motion, -, hs⟩ | ⟨-, -, motion, -, hs⟩ | ⟨he, -⟩
    · exact hstated hs
    · exact hstated hs
    · exact ⟨0, he.trans k.level_silence⟩
  · intro k
    have hx := hfollows i _ x ht hi
    cases k with
    | formant => exact hx.formant_duration
    | amplitude => exact hx.amplitude_duration

theorem compileTokensOf_definite (m : Model) (s : Settings) (text : String) (position : Int)
    (tokens : List Token) :
    Work.Ensures m.Sound (m.compileTokensOf s text position tokens) fun r =>
      ∀ word, r = .ok word → ∀ u, word.outcome = .ok u → ∀ x ∈ u.segments, x.Definite := by
  refine (compileTokensOf_ensures m s text position tokens).weaken fun r hr => ?_
  intro word hword u hu
  cases hr with
  | compiled h =>
    cases hword
    cases hu
    exact segments_definite h.segments_eq
  | failed => cases hword

theorem Word.Compiled.definite {w : Word} (h : w.Compiled) : ∀ x ∈ w.segments, x.Definite := by
  intro x hx
  obtain ⟨u, hu, hx⟩ := Word.mem_segments.1 hx
  cases h with
  | tokens m history s tokens position h =>
    exact (compileTokensOf_definite m s _ _ tokens _ (sound_after m history)).1 w h u hu x hx
  | word m history s text position h =>
    have hword := compileWord_of_tokens (compileTokensOf_definite m s) text position
    exact (hword _ (sound_after m history)).1 w h u hu x hx
  | text m history s strict text words h hw =>
    have htext := compileText_of_tokens (compileTokensOf_definite m s) strict text
    exact (htext _ (sound_after m history)).1 words h w hw u hu x hx

end Compiled

section Texts

variable {words : List Word} {w : Word} {samples : Samples}

def Rendered (rate : Number) (w : Word) (buffer : Samples) : Prop :=
  w.render rate = .ok buffer ∧ buffer.size = w.samples rate

theorem renders_cases (hr : rate.IsRate r) (hw : ∀ w ∈ words, ∀ x ∈ w.segments, x.Definite)
    (hf : ∀ w ∈ words, ∀ x ∈ w.segments, Fits 8 rate x.duration) :
    ((∀ w ∈ words, 8 * w.samples rate < wordLimit) ∧
        ∃ buffers, List.Forall₂ (Rendered rate) words buffers) ∨
      (∃ w ∈ words, wordLimit ≤ 8 * w.samples rate) ∧
        words.mapM (·.render rate) = .error .bytesBeyondWords := by
  induction words with
  | nil => exact .inl ⟨fun _ h => absurd h List.not_mem_nil, [], .nil⟩
  | cons w words ih =>
    rw [List.forall_mem_cons] at hw hf
    rcases w.render_cases hr hw.1 hf.1 with ⟨hlt, buffer, hbuffer⟩ | ⟨hge, herror⟩
    · rcases ih hw.2 hf.2 with ⟨hall, buffers, hbuffers⟩ | ⟨⟨v, hv, hge⟩, herror⟩
      · exact .inl ⟨List.forall_mem_cons.2 ⟨hlt, hall⟩, buffer :: buffers, .cons hbuffer hbuffers⟩
      · refine .inr ⟨⟨v, List.mem_cons_of_mem _ hv, hge⟩, ?_⟩
        rw [List.mapM_cons, hbuffer.1, herror]
        rfl
    · refine .inr ⟨⟨w, List.mem_cons_self, hge⟩, ?_⟩
      rw [List.mapM_cons, herror]
      rfl

theorem mapM_of_rendered {buffers : List Samples} (h : List.Forall₂ (Rendered rate) words buffers) :
    words.mapM (·.render rate) = .ok buffers :=
  mapM_eq_ok.2 (h.imp fun _ _ hb => hb.1)

theorem sizes_of_rendered {buffers : List Samples}
    (h : List.Forall₂ (Rendered rate) words buffers) :
    buffers.map Array.size = words.map (·.samples rate) := by
  rw [← List.forall₂_eq_eq_eq, List.forall₂_map_left_iff, List.forall₂_map_right_iff]
  exact h.flip.imp fun _ _ hb => hb.2

theorem size_of_rendered (gap : Number) {buffers : List Samples}
    (h : List.Forall₂ (Rendered rate) (audible words) buffers) (hne : audible words ≠ []) :
    (joinSamples (Array.replicate (count rate gap) 0) buffers).size =
      joinedSamples rate gap words := by
  have hparts : buffers ≠ [] := by
    intro hnil
    rw [hnil, List.forall₂_nil_right_iff] at h
    exact hne h
  rw [joinSamples_size _ hparts, sizes_of_rendered h, Array.size_replicate, ← h.length_eq,
    joinedSamples]

theorem renderWords_eq (hr : rate.IsRate r) (hg : Fits 4 rate gap) {buffers : List Samples}
    (h : List.Forall₂ (Rendered rate) (audible words) buffers) :
    renderWords rate gap peak words = if audible words = [] then
        .ok (Array.replicate (count rate gap) 0)
      else (do
        checkSize 4 (joinedSamples rate gap words)
        (joinSamples (Array.replicate (count rate gap) 0) buffers).normalize peak) := by
  have hsize := size_of_rendered gap h
  unfold renderWords
  rw [silence_ok hr hg, filter_segments]
  simp only [mapM_of_rendered h, bind, Except.bind]
  generalize audible words = heard at h hsize
  cases h with
  | nil => rfl
  | cons =>
    rw [← hsize (List.cons_ne_nil _ _)]
    rfl

/-- The audio of a text: nothing but the gap if no word is heard, and otherwise the buffers of the
words that are heard, in their order, with one gap between neighbours. -/
structure Layout (rate gap peak : Number) (words : List Word) (samples : Samples) : Prop where
  silent : audible words = [] → samples = Array.replicate (count rate gap) 0
  size_eq : audible words ≠ [] →
    samples.size = ((audible words).map (·.samples rate)).sum +
      ((audible words).length - 1) * count rate gap
  /-- Before they are scaled the buffers are those that the words have alone. -/
  buffers : audible words ≠ [] → ∃ (buffers : List Samples) (whole : Samples),
    List.Forall₂ (fun w b => Rendered rate w b ∧
      renderWords rate gap peak [w] = b.normalize peak) (audible words) buffers ∧
    whole.toList = (List.replicate (count rate gap) 0).intercalate (buffers.map Array.toList) ∧
    whole.normalize peak = .ok samples

theorem Layout.size_eq_audioLength (h : Layout rate gap peak words samples) :
    samples.size = audioLength rate gap words := by
  unfold audioLength
  split
  · rename_i hnil
    rw [h.silent hnil, Array.size_replicate]
  · rename_i hne
    exact h.size_eq hne

theorem mem_of_mem_audible (h : w ∈ audible words) : w ∈ words := List.mem_of_mem_filter h

theorem mem_audible (hw : w ∈ words) (hx : x ∈ w.segments) : w ∈ audible words := by
  rw [← filter_segments, List.mem_filter]
  exact ⟨hw, by simp [List.ne_nil_of_mem hx]⟩

theorem audible_singleton (h : w ∈ audible words) : audible [w] = [w] := by
  have hw := List.of_mem_filter h
  simp [audible, hw]

theorem times_of_renderWords (h : renderWords rate gap peak words = .ok samples) :
    ∀ w ∈ words, ∀ x ∈ w.segments, ∃ times, sampleTimes x.duration rate = .ok times := by
  obtain ⟨silence, -, h⟩ := bind_eq_ok h
  obtain ⟨buffers, hbuffers, -⟩ := bind_eq_ok h
  rw [filter_segments] at hbuffers
  intro w hw x hx
  obtain ⟨buffer, -, hbuffer⟩ :=
    Work.exists_of_forall₂ (mapM_eq_ok.1 hbuffers).flip (mem_audible hw hx)
  exact times_of_word hbuffer x hx

theorem fits_of_renderWords (h : renderWords rate gap peak words = .ok samples) :
    Fits 4 rate gap ∧ ∀ w ∈ words, ∀ x ∈ w.segments, Fits 8 rate x.duration := by
  obtain ⟨silence, hsilence, -⟩ := bind_eq_ok h
  refine ⟨fits_of_silence hsilence, fun w hw x hx => ?_⟩
  obtain ⟨times, htimes⟩ := times_of_renderWords h w hw x hx
  exact (fits_of_sampleTimes htimes).1

theorem samples_of_not_audible (hw : w ∈ words) (h : w ∉ audible words) : w.samples rate = 0 := by
  have hnil : w.segments = [] := by
    by_contra hne
    obtain ⟨x, hx⟩ := List.exists_mem_of_ne_nil _ hne
    exact h (mem_audible hw hx)
  rw [Word.samples, hnil]
  rfl

theorem audible_cases (hr : rate.IsRate r) (hw : ∀ w ∈ words, ∀ x ∈ w.segments, x.Definite)
    (hf : ∀ w ∈ words, ∀ x ∈ w.segments, Fits 8 rate x.duration) :
    ((∀ w ∈ words, 8 * w.samples rate < wordLimit) ∧
        ∃ buffers, List.Forall₂ (Rendered rate) (audible words) buffers) ∨
      (∃ w ∈ words, wordLimit ≤ 8 * w.samples rate) ∧
        (audible words).mapM (·.render rate) = .error .bytesBeyondWords := by
  have hsub {w : Word} (hm : w ∈ audible words) : w ∈ words := mem_of_mem_audible hm
  rcases renders_cases hr (fun w hm => hw w (hsub hm)) fun w hm => hf w (hsub hm) with
    ⟨hsignals, hbuffers⟩ | ⟨⟨w, hm, hge⟩, herror⟩
  · refine .inl ⟨fun w hmem => ?_, hbuffers⟩
    by_cases hm : w ∈ audible words
    · exact hsignals w hm
    · rw [samples_of_not_audible hmem hm]
      decide
  · exact .inr ⟨⟨w, hsub hm, hge⟩, herror⟩

theorem joinedSamples_nil (h : audible words = []) : joinedSamples rate gap words = 0 := by
  rw [joinedSamples, h]
  simp

theorem samples_le_joinedSamples (hw : w ∈ words) :
    w.samples rate ≤ joinedSamples rate gap words := by
  by_cases hm : w ∈ audible words
  · have hle : w.samples rate ≤ ((audible words).map (·.samples rate)).sum :=
      List.single_le_sum (fun _ _ => Nat.zero_le _) _ (List.mem_map_of_mem hm)
    exact hle.trans (Nat.le_add_right _ _)
  · rw [samples_of_not_audible hw hm]
    exact Nat.zero_le _

theorem joinedSamples_le_audioLength (rate gap : Number) (words : List Word) :
    joinedSamples rate gap words ≤ audioLength rate gap words := by
  unfold audioLength
  split
  · rename_i hnil
    rw [joinedSamples_nil hnil]
    exact Nat.zero_le _
  · exact Nat.le_refl _

/-- Where the gap and all segments can be laid out, the joined samples of a word or of the whole
text are too large, or there is audio. -/
theorem renderWords_cases (hr : rate.IsRate r) (hp : peak.toFloat? = some p)
    (hw : ∀ w ∈ words, ∀ x ∈ w.segments, x.Definite) (hg : Fits 4 rate gap)
    (hf : ∀ w ∈ words, ∀ x ∈ w.segments, Fits 8 rate x.duration) :
    (Renderable rate gap words ∧ ∃ samples, renderWords rate gap peak words = .ok samples) ∨
      ¬ Renderable rate gap words ∧ renderWords rate gap peak words = .error .bytesBeyondWords := by
  rcases audible_cases hr hw hf with ⟨hsignals, buffers, h⟩ | ⟨⟨w, hm, hge⟩, herror⟩
  · rw [renderWords_eq hr hg h]
    split
    · rename_i hnil
      refine .inl ⟨⟨hg, hf, hsignals, ?_⟩, _, rfl⟩
      rw [joinedSamples_nil hnil]
      decide
    · rcases lt_or_ge (4 * (joinedSamples rate gap words : Int)) wordLimit with hlt | hge
      · obtain ⟨samples, hsamples, -⟩ := normalize_ok hp (joinSamples _ buffers)
        rw [checkSize_ok hlt]
        exact .inl ⟨⟨hg, hf, hsignals, hlt⟩, samples, hsamples⟩
      · rw [checkSize_error hge]
        exact .inr ⟨fun hall => Int.not_le.2 hall.joined hge, rfl⟩
  · refine .inr ⟨fun h => Int.not_le.2 (h.signals w hm) hge, ?_⟩
    unfold renderWords
    rw [silence_ok hr hg, filter_segments, herror]
    rfl

theorem renderWords_iff (hr : rate.IsRate r) (hp : peak.toFloat? = some p)
    (hw : ∀ w ∈ words, ∀ x ∈ w.segments, x.Definite) :
    (∃ samples, renderWords rate gap peak words = .ok samples) ↔ Renderable rate gap words := by
  constructor
  · rintro ⟨samples, h⟩
    obtain ⟨hg, hf⟩ := fits_of_renderWords h
    rcases renderWords_cases hr hp hw hg hf with ⟨hall, -⟩ | ⟨-, herror⟩
    · exact hall
    · cases h.symm.trans herror
  · intro h
    rcases renderWords_cases hr hp hw h.silence h.segments with ⟨-, hok⟩ | ⟨hnot, -⟩
    · exact hok
    · exact absurd h hnot

theorem renderWords_of_audible {others : List Word} (h : audible words = audible others) :
    renderWords rate gap peak words = renderWords rate gap peak others := by
  unfold renderWords
  rw [filter_segments, filter_segments, h]

theorem audible_filter (words : List Word) :
    audible (words.filter (·.error?.isNone)) = audible words := by
  unfold audible
  rw [List.filter_filter]
  congr 1
  funext w
  cases w.error? <;> simp

theorem renderWords_singleton (hr : rate.IsRate r) (h : Renderable rate gap words)
    (hw : w ∈ audible words) {buffer : Samples} (hbuffer : Rendered rate w buffer) :
    renderWords rate gap peak [w] = buffer.normalize peak := by
  have hheard := audible_singleton hw
  have hrendered : List.Forall₂ (Rendered rate) (audible [w]) [buffer] := by
    rw [hheard]
    exact .cons hbuffer .nil
  have hjoined : joinedSamples rate gap [w] = w.samples rate := by
    rw [joinedSamples, hheard]
    simp
  have hlt := h.signals w (mem_of_mem_audible hw)
  rw [renderWords_eq hr h.silence hrendered, hjoined, checkSize_ok (by omega), hheard,
    if_neg (List.cons_ne_nil _ _), joinSamples_singleton]
  rfl

theorem layout_of_renderWords (hr : rate.IsRate r) (hp : peak.toFloat? = some p)
    (hw : ∀ w ∈ words, ∀ x ∈ w.segments, x.Definite)
    (h : renderWords rate gap peak words = .ok samples) : Layout rate gap peak words samples := by
  have hall := (renderWords_iff hr hp hw).1 ⟨samples, h⟩
  obtain ⟨buffers, hbuffers⟩ : ∃ buffers, List.Forall₂ (Rendered rate) (audible words) buffers := by
    rcases audible_cases hr hw hall.segments with ⟨-, h⟩ | ⟨⟨w, hm, hge⟩, -⟩
    · exact h
    · exact absurd (hall.signals w hm) (Int.not_lt.2 hge)
  rw [renderWords_eq hr hall.silence hbuffers, checkSize_ok hall.joined] at h
  constructor
  · intro hnil
    rw [if_pos hnil] at h
    cases h
    rfl
  · intro hne
    rw [if_neg hne] at h
    exact (normalize_size h).trans (size_of_rendered gap hbuffers hne)
  · intro hne
    rw [if_neg hne] at h
    refine ⟨buffers, _, ?_, ?_, h⟩
    · have hboth := (List.forall₂_and_left _ _).2 ⟨fun w hw => hw, hbuffers⟩
      apply hboth.imp
      rintro w buffer ⟨hm, hb⟩
      exact ⟨hb, renderWords_singleton hr hall hm hb⟩
    · rw [joinSamples_toList, Array.toList_replicate]

/-- A text is rendered exactly if the samples of the gap, of each segment, of each word and of the
whole can be laid out, and then its audio is that of the words that are heard, with gaps between
them. -/
theorem renderWords_layout (rate gap peak : Number) (r p : Float) (hr : rate.IsRate r)
    (hp : peak.toFloat? = some p) (words : List Word) (hw : ∀ w ∈ words, w.Compiled) :
    ((∃ samples, renderWords rate gap peak words = .ok samples) ↔ Renderable rate gap words) ∧
      ∀ samples, renderWords rate gap peak words = .ok samples →
        Layout rate gap peak words samples := by
  have hw : ∀ w ∈ words, ∀ x ∈ w.segments, x.Definite := fun w hm => (hw w hm).definite
  exact ⟨renderWords_iff hr hp hw, fun samples h => layout_of_renderWords hr hp hw h⟩

/-- Segments of no length, of two milliseconds and of more samples than can be laid out. -/
def spans : Table where
  symbols := [.text "o", .text "e", .text "a"]
  graphemes := [
    ("o", { elsewhere := some (.single (.segment { milliseconds := some 0 })) }),
    ("e", { elsewhere := some (.single (.segment { milliseconds := some 2 })) }),
    ("a", { elsewhere := some (.single (.segment { milliseconds := some 1e18 })) })]

/-- A word of no samples is heard, and a word that fails is not. -/
theorem renderWords_layout_spans :
    (Number.int 1000).IsRate 1000 ∧ (Number.real 0.9).toFloat? = some 0.9 ∧
      ∃ words samples, ((Model.ofTable spans).compileText {} false "o x e").outcome
          ((Model.ofTable spans).after []) = .ok words ∧
        (∀ w ∈ words, w.Compiled) ∧ Renderable (.int 1000) (.real 120) words ∧
        renderWords (.int 1000) (.real 120) (.real 0.9) words = .ok samples ∧
        Layout (.int 1000) (.real 120) (.real 0.9) words samples ∧ samples.size = 122 := by
  have hr : (Number.int 1000).IsRate 1000 := ⟨by decide, rfl, rfl⟩
  obtain ⟨words, hwords, hdecide, hsamples⟩ : ∃ words, ((Model.ofTable spans).compileText {} false
      "o x e").outcome ((Model.ofTable spans).after []) = .ok words ∧
      decide (Renderable (.int 1000) (.real 120) words) = true ∧
      (audible words).map (·.samples (.int 1000)) = [0, 2] :=
    ⟨_, by with_unfolding_all rfl, by with_unfolding_all rfl, by with_unfolding_all rfl⟩
  have hcompiled : ∀ w ∈ words, w.Compiled := fun w => .text _ _ _ _ _ _ hwords
  have hrenderable := of_decide_eq_true hdecide
  have hgap : count (.int 1000) (.real 120) = 120 := by with_unfolding_all rfl
  obtain ⟨hiff, hlayout⟩ :=
    renderWords_layout (.int 1000) (.real 120) (.real 0.9) 1000 0.9 hr rfl words hcompiled
  obtain ⟨samples, hrendered⟩ := hiff.2 hrenderable
  have hlength : (audible words).length = 2 := by
    rw [← List.length_map (·.samples (.int 1000)), hsamples]
    rfl
  have hsize := (hlayout samples hrendered).size_eq (List.ne_nil_of_length_eq_add_one hlength)
  rw [hsamples, hlength, hgap] at hsize
  exact ⟨hr, rfl, words, samples, hwords, hcompiled, hrenderable, hrendered,
    hlayout samples hrendered, hsize⟩

/-- No double is near ten to the power of four hundred. -/
def endlessRate : Number := .int (10 ^ 400)

/-- The samples of a long segment can be counted and not laid out; and beyond all doubles a rate is
of no use even to a segment of no length. -/
theorem renderWords_beyond :
    (∃ w, ((Model.ofTable spans).compileText {} true "a").outcome
        ((Model.ofTable spans).after []) = .ok [w] ∧ audible [w] = [w] ∧
      w.segments.map (sampleCount ·.duration (.int 44100)) = [.ok 44100000000000000000] ∧
      renderWords (.int 44100) (.real 120) (.real 0.9) [w] = .error .stepsBeyondWords) ∧
    ∃ w, ((Model.ofTable spans).compileText {} true "o").outcome
        ((Model.ofTable spans).after []) = .ok [w] ∧ audible [w] = [w] ∧
      w.segments.map (sampleCount ·.duration endlessRate) = [.ok 0] ∧ endlessRate.Positive ∧
      ¬ ∃ samples, renderWords endlessRate (.real 0) (.real 0.9) [w] = .ok samples := by
  have hbeyond : endlessRate.toFloat? = none := by decide +kernel
  refine ⟨⟨_, by with_unfolding_all rfl, ?_, ?_, ?_⟩, _, by with_unfolding_all rfl, ?_, ?_, ?_, ?_⟩
  · with_unfolding_all rfl
  · with_unfolding_all rfl
  · with_unfolding_all rfl
  · with_unfolding_all rfl
  · with_unfolding_all rfl
  · decide +kernel
  · rintro ⟨samples, h⟩
    obtain ⟨times, htimes⟩ := times_of_renderWords h _ List.mem_cons_self _ List.mem_cons_self
    obtain ⟨-, r, hr⟩ := fits_of_sampleTimes htimes
    rw [hbeyond] at hr
    cases hr

end Texts

end Silbo
