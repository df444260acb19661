import Silbo.Proofs.History
import Silbo.Proofs.Normalization
import Silbo.Proofs.Pooling
import Silbo.Proofs.Words

/-!
Words of a text fail alone. Every word of a text gets an entry, which is what the word comes to on a
new model: its output, or its error and nothing else. A strict text has the first of these errors. On
a pool of threads it is the same.
-/
namespace Silbo.Model
open Work

/-- The boundary of the model is a text that stands for itself in a template, and the symbols of
the model are texts. -/
structure Textual (m : Model) (separator : String) : Prop where
  boundary_eq : m.boundary = .text separator
  nonempty : separator ≠ ""
  literal : '\\' ∉ separator.toList
  symbols_text : ∀ d ∈ m.alphabet, ∃ s, d = .text s

/-- The entry of a word in its text, by what the word comes to on a new model. -/
inductive Enters (m : Model) (s : Settings) : Nat × String → Word → Prop where
  | compiled {position : Nat} :
      (m.compileWord s text position).outcome {} = .ok ⟨text, position, .ok u⟩ →
      Enters m s (position, text) ⟨text, position, .ok u⟩
  | failed {position : Nat} : (m.compileWord s text position).outcome {} = .error (.error e) →
      Enters m s (position, text) ⟨text, position, .error e⟩

variable {m : Model}

theorem Enters.rightUnique : Relator.RightUnique (m.Enters s) := by
  rintro _ _ _ (h | h) (h' | h')
  · cases h.symm.trans h'
    rfl
  · cases h.symm.trans h'
  · cases h.symm.trans h'
  · cases h.symm.trans h'
    rfl

section Chunks

theorem Textual.chunks_ok (hm : m.Textual separator) (text : String) :
    ∃ normal chunks, normalizeBy m.boundary text = .ok normal ∧
      splitTextBy m.boundary normal = .ok chunks ∧
      ∀ chunk ∈ chunks, ¬ separator.toList <:+: chunk.2.toList := by
  obtain ⟨normal, hn⟩ := Text.normalize_ok hm.literal text
  obtain ⟨chunks, hc, hs⟩ := splitText_ok hm.nonempty normal
  rw [hm.boundary_eq]
  refine ⟨normal, chunks, ?_, hc, hs⟩
  show (Text.normalize separator text).mapError Fault.template = _
  rw [hn]
  rfl

theorem chunks_eq {pieces : List (Nat × String)} (hn : normalizeBy m.boundary text = .ok normal)
    (hc : splitTextBy m.boundary normal = .ok pieces) : m.chunks text = .ok pieces := by
  unfold Model.chunks
  rw [hn, ← hc]
  rfl

theorem Textual.exists_alphabet (hm : m.Textual separator) :
    ∃ alphabet : List String, m.alphabet = alphabet.map .text := by
  have h := hm.symbols_text
  generalize m.alphabet = symbols at h ⊢
  induction symbols with
  | nil => exact ⟨[], rfl⟩
  | cons d rest ih =>
    obtain ⟨s, rfl⟩ := h d List.mem_cons_self
    obtain ⟨alphabet, rfl⟩ := ih fun x hx => h x (List.mem_cons_of_mem _ hx)
    exact ⟨s :: alphabet, rfl⟩

theorem Textual.tokenizeWord_cases (hm : m.Textual separator)
    (h : ¬ separator.toList <:+: word.toList) (position : Int) :
    (∃ tokens, m.tokenizeWord word position = .ok tokens) ∨
      ∃ e, m.tokenizeWord word position = .error (.error e) := by
  obtain ⟨alphabet, ha⟩ := hm.exists_alphabet
  rw [tokenizeWord_eq hm.boundary_eq ha h]
  cases tokenize separator alphabet position word with
  | ok tokens => exact .inl ⟨tokens, rfl⟩
  | error e => exact .inr ⟨e, rfl⟩

end Chunks

section Words

theorem compileTokensOf_cases (m : Model) (s : Settings) (text : String) (position : Int)
    (tokens : List Token) (w : Workspace) :
    (∃ u, (m.compileTokensOf s text position tokens).outcome w =
      .ok ⟨text, position, .ok u⟩) ∨
      ∃ e, (m.compileTokensOf s text position tokens).outcome w = .error e := by
  unfold compileTokensOf
  rw [outcome_bind]
  cases (tryCatch (m.compileFrom s none {} tokens) fun e =>
    throw (e.annotate (some text) none)).outcome w with
  | ok u => exact .inl ⟨u, rfl⟩
  | error e => exact .inr ⟨e, rfl⟩

theorem Textual.compileWord_cases (hm : m.Textual separator)
    (h : ¬ separator.toList <:+: word.toList) (s : Settings) (position : Int) (w : Workspace) :
    (∃ u, (m.compileWord s word position).outcome w = .ok ⟨word, position, .ok u⟩) ∨
      ∃ e, (m.compileWord s word position).outcome w = .error (.error e) := by
  unfold compileWord
  rcases hm.tokenizeWord_cases h position with ⟨tokens, ht⟩ | ⟨e, ht⟩
  · simp only [ht]
    rw [outcome_orFault]
    rcases compileTokensOf_cases m s word position tokens w with ⟨u, hu⟩ | ⟨e, he⟩
    · exact .inl ⟨u, by rw [hu]; rfl⟩
    · exact .inr ⟨e, by rw [he]; rfl⟩
  · simp only [ht]
    exact .inr ⟨_, rfl⟩

theorem Textual.compileChunk_settles (hm : m.Textual separator)
    (h : ¬ separator.toList <:+: chunk.2.toList) (s : Settings) :
    ∃ entry, m.Enters s chunk entry ∧
      Settles m.Sound (m.compileChunk s chunk.1 chunk.2) (.ok entry) := by
  obtain ⟨position, text⟩ := chunk
  have hs := (compileWord_steady m s text position).settles {} sound_nil
  rcases hm.compileWord_cases h s position {} with ⟨u, hu⟩ | ⟨e, he⟩
  · rw [hu] at hs
    exact ⟨_, .compiled hu, hs.tryCatch_ok⟩
  · rw [he] at hs
    exact ⟨_, .failed he, hs.tryCatch_error (settles_pure _)⟩

/-- A text has a word for each of its chunks, and ends as their review does. -/
theorem Textual.compileText_reviewed (hm : m.Textual separator) (s : Settings) (text : String) :
    ∃ normal chunks words, normalizeBy m.boundary text = .ok normal ∧
      splitTextBy m.boundary normal = .ok chunks ∧ List.Forall₂ (m.Enters s) chunks words ∧
      ∀ p strict r, Settles m.Sound (review strict words) r →
        Settles m.Sound (m.compileTextOn p s strict text) (r.map fun _ => words) := by
  obtain ⟨normal, chunks, hn, hc, hwords⟩ := hm.chunks_ok text
  have hchunks : Settles m.Sound (ofExcept (m.chunks text)) (.ok chunks) :=
    (settles_ofExcept (m.chunks text)).weaken fun _ hr => hr.trans (chunks_eq hn hc)
  have hsteady (chunk : Nat × String) := (compileChunk_agree (alike_refl m) s chunk.1 chunk.2).steady
  have heach : ∀ chunk ∈ chunks, ∃ entry, (m.Enters s chunk entry ∧
      (m.compileChunk s chunk.1 chunk.2).outcome {} = .ok entry) ∧
        Settles m.Sound (m.compileChunk s chunk.1 chunk.2) (.ok entry) := by
    intro chunk hmem
    obtain ⟨entry, hentry, hsettles⟩ := hm.compileChunk_settles (hwords chunk hmem) s
    exact ⟨entry, ⟨hentry, (hsettles {} sound_nil).1⟩, hsettles⟩
  obtain ⟨words, hboth, -⟩ := settles_mapM heach
  have hresults : chunks.mapM (fun chunk => (m.compileChunk s chunk.1 chunk.2).outcome {}) =
      .ok words := mapM_eq_ok.2 (hboth.imp fun _ _ h => h.2)
  refine ⟨normal, chunks, words, hn, hc, hboth.imp fun _ _ h => h.1, fun p strict r hreview => ?_⟩
  have hpool := p.mapM_settles fun chunk (_ : chunk ∈ chunks) =>
    (hsteady chunk).settles {} sound_nil
  rw [hresults] at hpool
  refine hchunks.bind_ok (hpool.bind_ok ?_)
  cases r with
  | ok _ => exact hreview.bind_ok (settles_pure words)
  | error f => exact hreview.bind_error

theorem Textual.compileText_settles (hm : m.Textual separator) (s : Settings) (text : String) :
    ∃ chunks words, m.chunks text = .ok chunks ∧ List.Forall₂ (m.Enters s) chunks words ∧
      Settles m.Sound (m.compileText s false text) (.ok words) := by
  obtain ⟨normal, chunks, words, hn, hc, hentries, hreviewed⟩ := hm.compileText_reviewed s text
  exact ⟨chunks, words, chunks_eq hn hc, hentries,
    hreviewed .serial false _ (review_false_settles m words)⟩

theorem Textual.compileText_of_enters (hm : m.Textual separator) {s : Settings}
    {pieces : List (Nat × String)} {entries : List Word}
    (hn : normalizeBy m.boundary text = .ok normal)
    (hc : splitTextBy m.boundary normal = .ok pieces) (he : List.Forall₂ (m.Enters s) pieces entries) :
    (m.compileText s false text).outcome {} = .ok entries := by
  obtain ⟨chunks, words, hchunks, hwords, hsettles⟩ := hm.compileText_settles s text
  cases hchunks.symm.trans (chunks_eq hn hc)
  rw [(hsettles {} sound_nil).1, Enters.rightUnique.forall₂ hwords he]

def strictly (words : List Word) : Except Fault (List Word) :=
  match words.findSome? Word.error? with
  | none => .ok words
  | some e => .error (.error e)

theorem review_strictly (m : Model) (words : List Word) :
    ∃ r, Settles m.Sound (review true words) r ∧ r.map (fun _ => words) = strictly words := by
  refine ⟨_, review_true_settles m words, ?_⟩
  unfold strictly
  cases words.findSome? Word.error? <;> rfl

/-- A strict text has its words only if none of them has failed. -/
theorem Textual.compileText_settles_strict (hm : m.Textual separator) (s : Settings)
    (text : String) :
    ∃ words, ∀ p : Pool, Settles m.Sound (m.compileTextOn p s false text) (.ok words) ∧
      Settles m.Sound (m.compileTextOn p s true text) (strictly words) := by
  obtain ⟨-, -, words, -, -, -, hreviewed⟩ := hm.compileText_reviewed s text
  obtain ⟨r, hr, hstrict⟩ := review_strictly m words
  exact ⟨words, fun p => ⟨hreviewed p false _ (review_false_settles m words),
    hstrict ▸ hreviewed p true r hr⟩⟩

theorem compileTextOn_of_none {p : Pool} {s : Settings} {text : String} {w : Workspace}
    {words : List Word} (h : (m.compileTextOn p s false text).outcome w = .ok words)
    (hnone : words.findSome? Word.error? = none) (strict : Bool) :
    (m.compileTextOn p s strict text).outcome w = .ok words ∧
      (m.compileTextOn p s strict text).final w = (m.compileTextOn p s false text).final w := by
  unfold compileTextOn at h ⊢
  cases hc : m.chunks text with
  | error f =>
    rw [hc] at h
    cases h
  | ok chunks =>
    simp only [hc, outcome_bind, final_bind, outcome_ofExcept, final_ofExcept] at h ⊢
    split at h
    · split at h
      · have hdrafts : _ = words := Except.ok.inj h
        rw [hdrafts, review_of_none hnone, review_of_none hnone]
        exact ⟨rfl, rfl⟩
      · cases h
    · cases h

end Words

section Texts

/-- A text always has its words, one entry for each piece of its normal spelling, in the order of the
text. Strict, it fails exactly if one of them has failed, with the error of the first. So it does
whatever was asked of the model before, and on any pool. -/
theorem compileText_enters (m : Model) (separator : String) (hm : m.Textual separator)
    (history : List Request) (s : Settings) (text : String) :
    ∃ normal chunks words, normalizeBy m.boundary text = .ok normal ∧
      splitTextBy m.boundary normal = .ok chunks ∧ List.Forall₂ (m.Enters s) chunks words ∧
      ∀ p : Pool, (m.compileTextOn p s false text).outcome (m.after history) = .ok words ∧
        (m.compileTextOn p s true text).outcome (m.after history) =
          match words.findSome? Word.error? with
          | none => .ok words
          | some e => .error (.error e) := by
  obtain ⟨normal, chunks, words, hn, hc, hentries, hreviewed⟩ := hm.compileText_reviewed s text
  obtain ⟨r, hr, hstrict⟩ := review_strictly m words
  refine ⟨normal, chunks, words, hn, hc, hentries, fun p => ⟨?_, ?_⟩⟩
  · have hlax := hreviewed p false _ (review_false_settles m words)
    exact (hlax _ (sound_after m history)).1
  · have hrun := hreviewed p true r hr
    rw [hstrict] at hrun
    exact (hrun _ (sound_after m history)).1

/-- The only rule for `s` asks for a class that is a member of itself. -/
def circular : Table where
  symbols := [.text "a", .text "s"]
  classes := [("V", ["V"])]
  graphemes := [("a", {}), ("s", { rules := [⟨"V", "", none⟩] })]

/-- Four threads that get to their tasks from the last to the first. -/
def backwards : Pool := ⟨some 4, fun n => (List.range n).reverse, fun _ => List.reverse_perm _⟩

/-- The words of `a as za`: a silent one, one whose class is a member of itself, and one with a
character that is no symbol. -/
def circularWords : List Word :=
  [⟨"a", 0, .ok ⟨[⟨⟨"a", false, 0⟩, .unmatched, []⟩], []⟩⟩,
    ⟨"as", 2, .error ⟨.cycle "class" ["V", "V"], some "as", some 3⟩⟩,
    ⟨"za", 5, .error ⟨.unknown "character" (.text "z"), some "za", some 5⟩⟩]

theorem compileText_enters_circular :
    (ofTable circular).Textual " " ∧
      normalizeBy (ofTable circular).boundary " A\tas za" = .ok "a as za" ∧
      splitTextBy (ofTable circular).boundary "a as za" = .ok [(0, "a"), (2, "as"), (5, "za")] ∧
      List.Forall₂ ((ofTable circular).Enters {}) [(0, "a"), (2, "as"), (5, "za")] circularWords ∧
      ((ofTable circular).compileTextOn backwards {} false " A\tas za").outcome
        ((ofTable circular).after [.resolveClass "V"]) = .ok circularWords ∧
      ((ofTable circular).compileTextOn backwards {} true " A\tas za").outcome
        ((ofTable circular).after [.resolveClass "V"]) =
          .error (.error ⟨.cycle "class" ["V", "V"], some "as", some 3⟩) := by
  have h : (ofTable circular).Textual " " := ⟨rfl, by decide, by decide, by
    intro d hd
    simp only [ofTable, circular, List.mem_cons, List.not_mem_nil, or_false] at hd
    rcases hd with rfl | rfl
    · exact ⟨"a", rfl⟩
    · exact ⟨"s", rfl⟩⟩
  have hnormal : normalizeBy (ofTable circular).boundary " A\tas za" = .ok "a as za" := by
    with_unfolding_all rfl
  have hchunks : splitTextBy (ofTable circular).boundary "a as za" =
      .ok [(0, "a"), (2, "as"), (5, "za")] := by
    with_unfolding_all rfl
  have hconcrete : List.Forall₂ ((ofTable circular).Enters {}) [(0, "a"), (2, "as"), (5, "za")]
      circularWords :=
    .cons (.compiled (by with_unfolding_all rfl)) <|
      .cons (.failed (by with_unfolding_all rfl)) <|
      .cons (.failed (by with_unfolding_all rfl)) .nil
  obtain ⟨normal, chunks, words, hn, hc, hentries, hrun⟩ :=
    compileText_enters _ " " h [.resolveClass "V"] {} " A\tas za"
  cases Except.ok.inj (hn.symm.trans hnormal)
  cases Except.ok.inj (hc.symm.trans hchunks)
  cases Enters.rightUnique.forall₂ hentries hconcrete
  exact ⟨h, hnormal, hchunks, hentries, (hrun backwards).1, (hrun backwards).2⟩

end Texts

end Silbo.Model
