import Silbo.Proofs.Closure
import Silbo.Proofs.Container
import Silbo.Proofs.Keeping
import Silbo.Proofs.Rendering

/-!
The command writes all of a text or nothing. Every segment of the built-in whistle has room at a rate
that a wave header holds. So a word that has failed and is not to be skipped is the only thing that
stops the command before it asks for a file, but for samples without number; and then nothing but the
system that keeps the files, or the header, can stop it.
-/
namespace Silbo
open Double Signal

section Rates

variable {x : Float} {k : Int} {r : Int}

theorem exists_isRate (hpos : 0 < r) (hheld : 2 * r < Wave.fieldLimit) :
    ∃ x, (Number.int r).IsRate x ∧ Within 34 x.toModel.unpack := by
  have hlimit : Wave.fieldLimit = 2 ^ 32 := rfl
  -- The integer itself is below `2 ^ 31`; the rest is slack for the ways in which it is rounded.
  have hwithin : Within 34 (Float.ofScientific r.natAbs false 0).toModel.unpack :=
    within_ofScientific (k := 31) (by omega) (by decide)
  refine ⟨_, ⟨hpos, ?_, hwithin.isFinite⟩, hwithin⟩
  show Number.ofInt? r = _
  unfold Number.ofInt?
  dsimp only
  rw [hwithin.isInf, if_neg (by decide), if_neg (by omega)]

theorem fits_of_within {rate : Number} {y : Float} {bytes : Nat} (hr : rate.IsRate x)
    (hx : Within 34 x.toModel.unpack) (hy : Within 10 y.toModel.unpack) (hb : bytes ≤ 8) :
    Fits bytes rate (.real y) := by
  have hms : (Number.real y).toFloat? = some y := rfl
  obtain ⟨n, hn, hlt⟩ := sampleCount_lt (k := 37) hr hx hms hy (by omega) (by omega) (by omega)
  refine ⟨n, hn, ?_⟩
  rw [wordLimit_eq]
  have hle : bytes * n ≤ 8 * n := Nat.mul_le_mul_right n hb
  omega

end Rates

namespace Whistle
open Model

variable {rate : Number} {x : Float} {words : List Word}

theorem lengths_within : ∀ ms ∈ table.lengths, Within 10 ms.toModel.unpack := by
  decide +kernel

theorem defaults_within :
    Within 10 (100 : Float).toModel.unpack ∧ Within 10 (120 : Float).toModel.unpack := by
  decide +kernel

theorem fits (hr : rate.IsRate x) (hx : Within 34 x.toModel.unpack)
    (hw : ∀ w ∈ words, ∀ u, w.outcome = .ok u → table.Composed {} u) :
    Fits 4 rate ({} : Settings).wordGapMilliseconds ∧
      ∀ w ∈ words, ∀ y ∈ w.segments, Fits 8 rate y.duration := by
  constructor
  · exact fits_of_within hr hx defaults_within.2 (by decide)
  · intro w hmem y hy
    obtain ⟨u, hu, hy⟩ := Word.mem_segments.1 hy
    have hcomposed := hw w hmem u hu
    obtain ⟨i, hi⟩ := List.mem_iff_getElem?.1 hy
    obtain ⟨template, ht⟩ := hcomposed.exists_template hi
    rcases hcomposed.duration ht hi with hd | ⟨ms, hms, hd⟩
    · rw [hd]
      exact fits_of_within hr hx defaults_within.1 (by decide)
    · rw [hd]
      exact fits_of_within hr hx (lengths_within ms hms) (by decide)

end Whistle

theorem renderable_of_short {rate gap : Number} {words : List Word} (hg : Fits 4 rate gap)
    (hf : ∀ w ∈ words, ∀ y ∈ w.segments, Fits 8 rate y.duration)
    (hshort : 36 + 2 * audioLength rate gap words < Wave.fieldLimit) :
    Renderable rate gap words := by
  have hlimit := wordLimit_eq
  have hfield : Wave.fieldLimit = 2 ^ 32 := rfl
  have hjoined := joinedSamples_le_audioLength rate gap words
  refine ⟨hg, hf, fun w hw => ?_, by omega⟩
  have hword : w.samples rate ≤ joinedSamples rate gap words := samples_le_joinedSamples hw
  omega

namespace Command
open Model Work

variable {n : Type → Type} [Monad n] {t : Storage n} {schedule : Schedule}
variable {folder path : String} {arguments : List String} {o : CommandLine.Options}
variable {r : Int} {k : Option Int} {words : List Word} {samples : Samples}

def samplesOf (r : Int) (words : List Word) : Except Fault Samples :=
  renderWords (.int r) ({} : Settings).wordGapMilliseconds ({} : Settings).peak words

def lengthOf (r : Int) (words : List Word) : Nat :=
  audioLength (.int r) ({} : Settings).wordGapMilliseconds words

def draftOf (path : String) (r : Int) (words : List Word) : Except Fault Draft := do
  pure ⟨← samplesOf r words, .int r, path⟩

/-- The file of samples: the frames that are nearest to them, at their rate. -/
def waveOf (r : Int) (samples : Samples) : Wave := ⟨r.toNat, samples.toList.map Wave.quantize⟩

theorem ofSamples_eq_waveOf (hpos : 0 < r) (hheld : 2 * r < Wave.fieldLimit)
    (hsize : 36 + 2 * samples.size < Wave.fieldLimit) :
    Wave.ofSamples (.int r) samples = .ok (waveOf r samples) :=
  (Wave.ofSamples_eq hpos hheld samples).trans (if_pos hsize)

section Drafts

theorem buildModel_settles (t : Table) :
    Settles (ofTable t).Sound (buildModel t : Work Fault Model) (.ok (ofTable t)) :=
  fun _ hw => ⟨rfl, hw⟩

variable (hk : o.workers = some k) (hp : o.path = some path) (hr : o.sampleRate = some r)

include hk hp hr

theorem prepare_eq : prepare schedule o = buildModel Whistle.table >>= fun m =>
    m.compileTextOn ⟨k, schedule⟩ {} (!o.skipErrors) o.text >>= fun words =>
      Work.ofExcept (draftOf path r words) := by
  have hdraft (words : List Word) : (do
      let samples ← Work.ofExcept (samplesOf r words)
      pure ⟨samples, .int r, path⟩ : Work Fault Draft) = Work.ofExcept (draftOf path r words) := by
    unfold draftOf
    cases samplesOf r words <;> rfl
  simp only [← hdraft]
  unfold prepare
  rw [hk, hp, hr]
  rfl

theorem prepare_outcome {result : Except Fault (List Word)}
    (h : Settles (ofTable Whistle.table).Sound
      ((ofTable Whistle.table).compileTextOn ⟨k, schedule⟩ {} (!o.skipErrors) o.text) result) :
    (prepare schedule o).outcome {} = result >>= draftOf path r := by
  have hbuilt := buildModel_settles Whistle.table
  rw [prepare_eq hk hp hr]
  cases result with
  | ok words => exact (hbuilt.bind_ok (h.bind_ok (settles_ofExcept _)) {} sound_nil).1
  | error f => exact (hbuilt.bind_ok h.bind_error {} sound_nil).1

theorem prepare_flag (h : Settles (ofTable Whistle.table).Sound
      ((ofTable Whistle.table).compileTextOn ⟨k, schedule⟩ {} false o.text) (.ok words))
    (hnone : words.findSome? Word.error? = none) (b : Bool) :
    (prepare schedule { o with skipErrors := b }).outcome {} = (prepare schedule o).outcome {} ∧
      (prepare schedule { o with skipErrors := b }).final {} = (prepare schedule o).final {} := by
  have hsame (strict : Bool) := compileTextOn_of_none
    (h ((buildModel Whistle.table : Work Fault Model).final {}) sound_nil).1 hnone strict
  have hbuilt : (buildModel Whistle.table : Work Fault Model).outcome {} =
    .ok (ofTable Whistle.table) := rfl
  rw [prepare_eq hk hp hr, prepare_eq (o := { o with skipErrors := b }) hk hp hr]
  constructor
  · simp only [outcome_bind, hbuilt, hsame]
  · simp only [final_bind, hbuilt, hsame]

end Drafts

section Lengths

/-- The words of a text have samples at a rate that a header holds, unless there are too many. -/
theorem samplesOf_cases (hpos : 0 < r) (hheld : 2 * r < Wave.fieldLimit)
    (h : ((ofTable Whistle.table).compileText {} false text).outcome {} = .ok words) :
    (∃ samples, samplesOf r words = .ok samples ∧ samples.size = lengthOf r words) ∨
      samplesOf r words = .error .bytesBeyondWords ∧
        Wave.fieldLimit ≤ 36 + 2 * lengthOf r words := by
  obtain ⟨x, hr, hx⟩ := exists_isRate hpos hheld
  have hcomposed := (Table.compileText_composed Whistle.table {} false text {} sound_nil).1 words h
  have hpeak : ({} : Settings).peak.toFloat? = some 0.9 := rfl
  have hdefinite : ∀ w ∈ words, ∀ x ∈ w.segments, x.Definite := fun w hw =>
    (Word.Compiled.text (ofTable Whistle.table) [] {} false text words h hw).definite
  obtain ⟨hg, hf⟩ := Whistle.fits hr hx hcomposed
  rcases renderWords_cases hr hpeak hdefinite hg hf with ⟨-, samples, hok⟩ | ⟨hnot, herror⟩
  · exact .inl ⟨samples, hok, (layout_of_renderWords hr hpeak hdefinite hok).size_eq_audioLength⟩
  · refine .inr ⟨herror, Nat.le_of_not_lt fun hshort => hnot ?_⟩
    exact renderable_of_short hg hf hshort

end Lengths

section Ends

/-- The command asks a system for the file of some samples and for nothing else. How it ends depends
on nothing but whether this is refused. -/
structure Keeps (t : Storage n) (schedule : Schedule) (folder path : String)
    (arguments : List String) (r : Int) (samples : Samples) : Prop where
  length_eq : (waveOf r samples).encode.length = 44 + 2 * samples.size
  read_eq : Riff.read (waveOf r samples).encode = some
    { size := 36 + 2 * samples.size
      format := 1
      channels := 1
      rate := r.toNat
      byteRate := 2 * r.toNat
      blockAlign := 2
      bits := 16
      dataSize := 2 * samples.size
      frames := samples.toList.map fun x => (Wave.quantize x).toInt }
  execute_eq : ∃ events lost, execute t schedule folder arguments =
    (ExceptT.run do
      t.makeFolders (Path.folderOf (Path.whole folder path))
      t.create path
      t.append path (waveOf r samples).encode) >>= fun
    | .ok _ => pure (.exit 0 (some ⟨Path.whole folder path, waveOf r samples⟩), events)
    | .error refusal => pure (.fault (.refused refusal), lost)

/-- Whatever the system answers, there is a fault. -/
def Faults (ending : n (Outcome × List Event)) : Prop :=
  ∃ faults : n (Fault × List Event), ending = (fun x => (.fault x.1, x.2)) <$> faults

/-- How the command ends, in terms of the words of the text. -/
structure AllOrNothing (t : Storage n) (schedule : Schedule) (folder path : String)
    (arguments : List String) (o : CommandLine.Options) (r : Int) (words : List Word) : Prop where
  compiled : ((ofTable Whistle.table).compileText {} false o.text).outcome {} = .ok words
  /-- Failed words leave nothing behind. -/
  skipped : samplesOf r (words.filter (·.error?.isNone)) = samplesOf r words
  /-- Nothing is asked of the system, and the error of the first failed word is what is told last. -/
  nothing : ∀ e, o.skipErrors = false → words.findSome? Word.error? = some e →
    ∃ events, execute t schedule folder arguments = pure (.exit 1 none, events) ∧
      events.getLast? = some (.failed e)
  all : o.skipErrors = true ∨ words.findSome? Word.error? = none →
    36 + 2 * lengthOf r words < Wave.fieldLimit → ∃ samples, samplesOf r words = .ok samples ∧
      samples.size = lengthOf r words ∧ Keeps t schedule folder path arguments r samples
  /-- More samples than a header can count are a fault. -/
  overlong : o.skipErrors = true ∨ words.findSome? Word.error? = none →
    Wave.fieldLimit ≤ 36 + 2 * lengthOf r words → Faults (execute t schedule folder arguments)
  flag : words.findSome? Word.error? = none → ∀ others,
    CommandLine.parse others = .ok { o with skipErrors := !o.skipErrors } →
      execute t schedule folder others = execute t schedule folder arguments

theorem getLast?_shown_failed (verbosity : Nat) (e : Error) (journal : List Event) :
    (shown (threshold verbosity) (.failed e :: journal)).getLast? = some (.failed e) := by
  have hleast : (threshold verbosity).rank ≤ Severity.error.rank := by
    unfold threshold
    split <;> decide
  have hshown : decide ((threshold verbosity).rank ≤ (Event.failed e).severity.rank) = true :=
    decide_eq_true hleast
  unfold shown
  rw [List.filter_cons, if_pos hshown, List.reverse_cons, List.getLast?_concat]

variable [LawfulMonad n]

theorem Faults.pure (f : Fault) (events : List Event) :
    Faults (pure (.fault f, events) : n (Outcome × List Event)) :=
  ⟨Pure.pure (f, events), by rw [map_pure]⟩

theorem Faults.bind {request : n α} {ending : α → n (Outcome × List Event)}
    (h : ∀ a, Faults (ending a)) : Faults (request >>= ending) := by
  choose faults hfaults using h
  refine ⟨request >>= faults, ?_⟩
  rw [map_bind, funext hfaults]

variable (t) (schedule) (folder)

theorem execute_of_failed (ho : CommandLine.parse arguments = .ok o)
    (h : (prepare schedule o).outcome {} = .error (.error e)) :
    ∃ events, execute t schedule folder arguments = pure (.exit 1 none, events) ∧
      events.getLast? = some (.failed e) :=
  ⟨_, execute_of_error ho h, getLast?_shown_failed _ e _⟩

theorem keeps_of_prepare (ho : CommandLine.parse arguments = .ok o) (hpos : 0 < r)
    (hheld : 2 * r < Wave.fieldLimit) (hsize : 36 + 2 * samples.size < Wave.fieldLimit)
    (h : (prepare schedule o).outcome {} = .ok ⟨samples, .int r, path⟩) :
    Keeps t schedule folder path arguments r samples := by
  have hlimit : Wave.fieldLimit = 2 ^ 32 := rfl
  have hframes : (waveOf r samples).frames.length = samples.size := by
    rw [waveOf, List.length_map, Array.length_toList]
  have hrate : (waveOf r samples).rate = r.toNat := rfl
  constructor
  · rw [Riff.length_encode, hframes]
  · have hsize : 44 + 2 * samples.size - 8 = 36 + 2 * samples.size := by omega
    rw [Riff.read_encode (by omega) (by omega), Riff.contents, Riff.length_encode, hframes, hrate,
      hsize, waveOf, List.map_map]
    rfl
  · have hexecute : execute t schedule folder arguments = _ :=
      execute_of_ok ho h (ofSamples_eq_waveOf hpos hheld hsize)
    rw [Storage.save] at hexecute
    exact ⟨_, _, hexecute⟩

/-- Neither too many samples nor too large a file leave the command anything but a fault. -/
theorem faults_of_overlong (ho : CommandLine.parse arguments = .ok o) (hpos : 0 < r)
    (hheld : 2 * r < Wave.fieldLimit) (h : (prepare schedule o).outcome {} = draftOf path r words)
    (hsamples : (∃ samples, samplesOf r words = .ok samples ∧
        Wave.fieldLimit ≤ 36 + 2 * samples.size) ∨ samplesOf r words = .error .bytesBeyondWords) :
    Faults (execute t schedule folder arguments) := by
  rcases hsamples with ⟨samples, hok, hlong⟩ | herror
  · have hprepare : (prepare schedule o).outcome {} = .ok ⟨samples, .int r, path⟩ := by
      rw [h, draftOf, hok]
      rfl
    have hwave := Wave.ofSamples_eq hpos hheld samples
    rw [if_neg (Nat.not_lt.2 hlong)] at hwave
    rw [execute_of_overflow ho hprepare hwave]
    refine .bind fun answer => ?_
    cases answer <;> exact .pure _ _
  · have hprepare : (prepare schedule o).outcome {} = .error .bytesBeyondWords := by
      rw [h, draftOf, herror]
      rfl
    rw [execute_of_error ho hprepare]
    exact .pure _ _

end Ends

/-- With any arguments that make sense the command stops at the first failed word, or else renders
all words that have not failed and asks for one file; skipping failed words matters only if there is
one. Neither the number of workers, nor the order in which they get to the words, nor the system that
keeps the files makes a difference to that. -/
theorem execute_all_or_nothing [LawfulMonad n] (t : Storage n) (schedule : Schedule)
    (folder : String) (arguments : List String) (o : CommandLine.Options)
    (ho : CommandLine.parse arguments = .ok o) (k : Option Int) (hk : o.workers = some k)
    (path : String) (hp : o.path = some path) (r : Int) (hr : o.sampleRate = some r) (hpos : 0 < r)
    (hheld : 2 * r < Wave.fieldLimit) :
    ∃ words, AllOrNothing t schedule folder path arguments o r words := by
  obtain ⟨words, hsettles⟩ := Whistle.textual_table.compileText_settles_strict {} o.text
  obtain ⟨hlax, hstrict⟩ := hsettles ⟨k, schedule⟩
  have hcompiled := ((hsettles .serial).1 {} sound_nil).1
  have hprepare (h : o.skipErrors = true ∨ words.findSome? Word.error? = none) :
      (prepare schedule o).outcome {} = draftOf path r words := by
    have hwords : Settles (ofTable Whistle.table).Sound ((ofTable Whistle.table).compileTextOn
        ⟨k, schedule⟩ {} (!o.skipErrors) o.text) (.ok words) := by
      cases hskip : o.skipErrors with
      | true => exact hlax
      | false =>
        have hnone := h.resolve_left (by simp [hskip])
        rw [strictly, hnone] at hstrict
        exact hstrict
    exact prepare_outcome hk hp hr hwords
  have hlength := samplesOf_cases hpos hheld hcompiled
  refine ⟨words, hcompiled, ?_, ?_, ?_, ?_, ?_⟩
  · exact renderWords_of_audible (audible_filter words)
  · intro e hskip hfailed
    rw [strictly, hfailed] at hstrict
    apply execute_of_failed t schedule folder ho
    exact prepare_outcome hk hp hr (by rw [hskip]; exact hstrict)
  · intro h hshort
    obtain ⟨samples, hsamples, hsize⟩ := hlength.resolve_right fun h => Nat.not_lt.2 h.2 hshort
    refine ⟨samples, hsamples, hsize, ?_⟩
    apply keeps_of_prepare t schedule folder ho hpos hheld (hsize ▸ hshort)
    rw [hprepare h, draftOf, hsamples]
    rfl
  · intro h hlong
    apply faults_of_overlong t schedule folder ho hpos hheld (hprepare h)
    rcases hlength with ⟨samples, hsamples, hsize⟩ | ⟨herror, -⟩
    · exact .inl ⟨samples, hsamples, hsize ▸ hlong⟩
    · exact .inr herror
  · intro hnone others hothers
    obtain ⟨houtcome, hfinal⟩ := prepare_flag hk hp hr hlax hnone (!o.skipErrors)
    rw [execute_eq hothers, execute_eq ho, render_congr houtcome hfinal]

def digits : List String := ["7 8", "out.wav", "--sample-rate", "1000", "--workers", "2"]

def digitOptions (skipErrors : Bool) : CommandLine.Options :=
  ⟨"7 8", some "out.wav", some 1000, some (some 2), skipErrors, 0⟩

def digitError (digit : String) (position : Int) : Error :=
  ⟨.unknown "character" (.text digit), some digit, some position⟩

def digitWords : List Word := [⟨"7", 0, .error (digitError "7" 0)⟩, ⟨"8", 2, .error (digitError "8" 2)⟩]

theorem compileText_digits :
    ((ofTable Whistle.table).compileText {} false "7 8").outcome {} = .ok digitWords := by
  have hnormal : normalizeBy (ofTable Whistle.table).boundary "7 8" = .ok "7 8" := by
    with_unfolding_all rfl
  have hpieces : splitTextBy (ofTable Whistle.table).boundary "7 8" = .ok [(0, "7"), (2, "8")] := by
    with_unfolding_all rfl
  apply Whistle.textual_table.compileText_of_enters hnormal hpieces
  exact .cons (.failed (by with_unfolding_all rfl)) (.cons (.failed (by with_unfolding_all rfl)) .nil)

/-- Digits are no symbols, and without them there is nothing but the gap. The words are got to from
the last to the first, on a disk with the folder `home` and nothing else. -/
theorem execute_all_or_nothing_digits :
    CommandLine.parse digits = .ok (digitOptions false) ∧
      CommandLine.parse ("--skip-errors" :: digits) = .ok (digitOptions true) ∧
      (0 : Int) < 1000 ∧ 2 * (1000 : Int) < Wave.fieldLimit ∧
      (∃ events, (execute (Disk.storage ["home"]) backwards.schedule "/home" digits).run
          (.blank ["home"]) = ((.exit 1 none, events), .blank ["home"]) ∧
        events.getLast? = some (.failed (digitError "7" 0))) ∧
      ∃ events d, (execute (Disk.storage ["home"]) backwards.schedule "/home"
          ("--skip-errors" :: digits)).run (.blank ["home"]) =
          ((.exit 0 (some ⟨"/home/out.wav", 1000, List.replicate 120 0⟩), events), d) ∧
        d.node? ["home", "out.wav"] = some (.file (Wave.encode ⟨1000, List.replicate 120 0⟩)) := by
  have hstrict : CommandLine.parse digits = .ok (digitOptions false) := by with_unfolding_all rfl
  have hlax : CommandLine.parse ("--skip-errors" :: digits) = .ok (digitOptions true) := by
    with_unfolding_all rfl
  have hends {arguments : List String} {skipErrors : Bool}
      (ho : CommandLine.parse arguments = .ok (digitOptions skipErrors)) :
      AllOrNothing (Disk.storage ["home"]) backwards.schedule "/home" "out.wav" arguments
        (digitOptions skipErrors) 1000 digitWords := by
    obtain ⟨words, h⟩ := execute_all_or_nothing (Disk.storage ["home"]) backwards.schedule "/home"
      arguments _ ho (some 2) rfl "out.wav" rfl 1000 rfl (by decide) (by decide)
    cases Except.ok.inj (h.compiled.symm.trans compileText_digits)
    exact h
  have hgap : samplesOf 1000 digitWords = .ok (Array.replicate 120 0) := by with_unfolding_all rfl
  have hwave : waveOf 1000 (Array.replicate 120 0) = ⟨1000, List.replicate 120 0⟩ := by
    have hzero : Wave.quantize 0 = 0 := by decide +kernel
    rw [waveOf, Array.toList_replicate, List.map_replicate, hzero]
    rfl
  have hpath : Path.whole "/home" "out.wav" = "/home/out.wav" := by decide +kernel
  refine ⟨hstrict, hlax, by decide, by decide, ?_, ?_⟩
  · obtain ⟨events, hrun, hlast⟩ := (hends hstrict).nothing _ rfl rfl
    exact ⟨events, by rw [hrun]; rfl, hlast⟩
  · obtain ⟨samples, hsamples, -, hkeeps⟩ := (hends hlax).all (.inl rfl) (by decide +kernel)
    cases Except.ok.inj (hsamples.symm.trans hgap)
    obtain ⟨events, lost, hrun⟩ := hkeeps.execute_eq
    have hplain : Disk.Plain "out.wav" := by constructor <;> decide +kernel
    have hnames : (Path.names (Path.folderOf (Path.whole "/home" "out.wav"))).filter (!·.isEmpty) =
        ["home"] := by decide +kernel
    have hstands : Disk.Stands (.blank ["home"])
        ((Path.names (Path.folderOf (Path.whole "/home" "out.wav"))).filter (!·.isEmpty)) := by
      rw [hnames]
      constructor <;> decide +kernel
    obtain ⟨d, hsave, hfile, -⟩ := Disk.run_save_plain ["home"] hplain (by decide) hstands
      (Wave.encode ⟨1000, List.replicate 120 0⟩)
    refine ⟨events, d, ?_, hfile⟩
    rw [hrun, hwave, StateT.run_bind]
    rw [Storage.save] at hsave
    rw [hsave, hpath]
    rfl

def nullPath : List String := ["", "a\x00.wav", "--sample-rate", "1000"]

/-- In a text without words no word fails, and a header holds the samples of the gap. But no path has a
null character in it, so there is no file. -/
theorem execute_null_character :
    CommandLine.parse nullPath = .ok ⟨"", some "a\x00.wav", some 1000, some none, false, 0⟩ ∧
      ((ofTable Whistle.table).compileText {} false "").outcome {} = .ok [] ∧
      samplesOf 1000 [] = .ok (Array.replicate 120 0) ∧
      36 + 2 * 120 < Wave.fieldLimit ∧
      ∃ events, (execute (Disk.storage []) .inOrder "/" nullPath).run (.blank []) =
        ((.fault (.refused .nullCharacter), events), .blank []) := by
  have hparse : CommandLine.parse nullPath =
      .ok ⟨"", some "a\x00.wav", some 1000, some none, false, 0⟩ := by with_unfolding_all rfl
  have hcompiled : ((ofTable Whistle.table).compileText {} false "").outcome {} = .ok [] := by
    have hnormal : normalizeBy (ofTable Whistle.table).boundary "" = .ok "" := by
      with_unfolding_all rfl
    have hpieces : splitTextBy (ofTable Whistle.table).boundary "" = .ok [] := by
      with_unfolding_all rfl
    exact Whistle.textual_table.compileText_of_enters hnormal hpieces .nil
  have hgap : samplesOf 1000 [] = .ok (Array.replicate 120 0) := by with_unfolding_all rfl
  obtain ⟨words, hsettles⟩ := Whistle.textual_table.compileText_settles_strict {} ""
  cases Except.ok.inj (((hsettles .serial).1 {} sound_nil).1.symm.trans hcompiled)
  have hwords : Settles (ofTable Whistle.table).Sound
      ((ofTable Whistle.table).compileTextOn ⟨none, .inOrder⟩ {} true "") (.ok []) :=
    (hsettles ⟨none, .inOrder⟩).2
  have hprepare : (prepare .inOrder
      ⟨"", some "a\x00.wav", some 1000, some none, false, 0⟩).outcome {} =
        .ok [] >>= draftOf "a\x00.wav" 1000 := prepare_outcome rfl rfl rfl hwords
  dsimp only [bind, Except.bind] at hprepare
  rw [draftOf, hgap] at hprepare
  have hkeeps := keeps_of_prepare (Disk.storage []) .inOrder "/" hparse (by decide) (by decide)
    (by rw [Array.size_replicate]; decide) hprepare
  obtain ⟨events, lost, hrun⟩ := hkeeps.execute_eq
  have hrefused (bytes : List UInt8) : (ExceptT.run do
      (Disk.storage []).makeFolders (Path.folderOf (Path.whole "/" "a\x00.wav"))
      (Disk.storage []).create "a\x00.wav"
      (Disk.storage []).append "a\x00.wav" bytes).run (.blank []) =
        (.error .nullCharacter, .blank []) := by with_unfolding_all rfl
  refine ⟨hparse, hcompiled, hgap, by decide, lost, ?_⟩
  rw [hrun, StateT.run_bind, hrefused]
  rfl

end Command

end Silbo
