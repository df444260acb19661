import Silbo.Proofs.Containment
import Silbo.Proofs.Evaluation
import Silbo.Whistle

/-!
Closed tables. If every side that a table names can be read, every pronunciation spelled out and
every constant found, then nothing is left that a word of its symbols could fail at, whatever their
order. The built-in whistle is closed.
-/
namespace Silbo

theorem exists_realization {realizations : List Realization} {k : Nat}
    (h : realizations.map (·.token) = tokens) (ht : tokens[k]? = some token) :
    ∃ r, realizations[k]? = some r ∧ r.token = token := by
  rw [← h, List.getElem?_map] at ht
  exact Option.map_eq_some_iff.1 ht

namespace Table

def knows (t : Table) : Quantity → Bool
  | .literal _ => true
  | .named name => (t.constants.lookup name).isSome

def fills (t : Table) : Motion → Bool
  | .constant value => value.any t.knows
  | .transition start stop _ => start.all t.knows && stop.any t.knows
  | .contour peak stop _ => peak.any t.knows && stop.any t.knows

def plays (t : Table) (x : SegmentTemplate) : Bool :=
  x.formant.all t.fills && x.amplitude.all t.fills

def voices (t : Table) (p : Pronunciation) : Bool := (t.templatesOf p).any (·.all t.plays)

def closesRule (t : Table) (r : ContextRule) : Bool :=
  t.reads r.left && t.reads r.right && r.pronunciation.all t.voices

def closesGrapheme (t : Table) (g : Grapheme) : Bool :=
  g.elsewhere.all t.voices && g.rules.all t.closesRule

def isClosed (t : Table) : Bool := t.graphemes.all fun p => t.closesGrapheme p.2

/-- What a symbol comes to between its neighbours: the templates of a rule that admits them, or of
the pronunciation elsewhere where none does. -/
inductive Voices (t : Table) (left : Option String) (symbol : String) (right : Option String) :
    Selection → List SegmentTemplate → Prop where
  | rule : t.graphemes.lookup symbol = some g → r ∈ g.rules → t.admits left right r = true →
      r.pronunciation = some p → t.templatesOf p = some xs →
      Voices t left symbol right (.rule i p) xs
  | elided : t.graphemes.lookup symbol = some g → r ∈ g.rules → t.admits left right r = true →
      r.pronunciation = none → Voices t left symbol right (.elided i) []
  | elsewhere : t.graphemes.lookup symbol = some g →
      (∀ r ∈ g.rules, t.admits left right r = false) → g.elsewhere = some p →
      t.templatesOf p = some xs → Voices t left symbol right (.elsewhere p) xs
  | unmatched : t.graphemes.lookup symbol = some g →
      (∀ r ∈ g.rules, t.admits left right r = false) → g.elsewhere = none →
      Voices t left symbol right .unmatched []

variable {t : Table}

section Playing

theorem quantity_ok {q : Option Quantity} (h : q.any t.knows = true) (kind field : String) :
    ∃ x, (Model.ofTable t).quantity kind field q = .ok x := by
  cases q with
  | none => cases h
  | some q =>
    cases q with
    | literal x => exact ⟨_, rfl⟩
    | named name =>
      obtain ⟨x, hx⟩ := Option.isSome_iff_exists.1 h
      unfold Model.quantity
      simp only [(Model.mirrors_ofTable t).constant? name, hx]
      exact ⟨_, rfl⟩

theorem trajectory_ok {motion : Option Motion} (h : motion.all t.fills = true)
    (incoming duration : Number) :
    ∃ x, (Model.ofTable t).trajectory motion incoming duration = .ok x := by
  unfold Model.trajectory
  split
  · exact ⟨_, rfl⟩
  · obtain ⟨value, hv⟩ := quantity_ok h "constant" "value"
    rw [hv]
    exact ⟨_, rfl⟩
  · obtain ⟨stop, hs⟩ := quantity_ok h "transition" "end"
    rw [hs]
    exact ⟨_, rfl⟩
  · rename_i start stop curve
    obtain ⟨hstart, hstop⟩ := Bool.and_eq_true_iff.1 h
    obtain ⟨x, hx⟩ := quantity_ok (q := some start) hstart "transition" "start"
    obtain ⟨y, hy⟩ := quantity_ok hstop "transition" "end"
    rw [hx, hy]
    exact ⟨_, rfl⟩
  · obtain ⟨hpeak, hstop⟩ := Bool.and_eq_true_iff.1 h
    obtain ⟨x, hx⟩ := quantity_ok hpeak "contour" "peak"
    obtain ⟨y, hy⟩ := quantity_ok hstop "contour" "end"
    rw [hx, hy]
    exact ⟨_, rfl⟩

theorem segment_ok {x : SegmentTemplate} (h : t.plays x = true) (d : Number) (ambient : Ambient) :
    ∃ segment, (Model.ofTable t).segment d ambient x = .ok segment := by
  obtain ⟨hformant, hamplitude⟩ := Bool.and_eq_true_iff.1 h
  obtain ⟨formant, hf⟩ :=
    trajectory_ok hformant ambient.formant ((x.milliseconds.map Number.real).getD d)
  obtain ⟨amplitude, ha⟩ :=
    trajectory_ok hamplitude ambient.amplitude ((x.milliseconds.map Number.real).getD d)
  unfold Model.segment
  dsimp only
  rw [hf, ha]
  exact ⟨_, rfl⟩

theorem segments_ok {xs : List SegmentTemplate} (h : ∀ x ∈ xs, t.plays x = true) (d : Number)
    (ambient : Ambient) : ∃ segments, (Model.ofTable t).segments d ambient xs = .ok segments := by
  induction xs generalizing ambient with
  | nil => exact ⟨[], rfl⟩
  | cons x rest ih =>
    rw [List.forall_mem_cons] at h
    obtain ⟨segment, hs⟩ := segment_ok h.1 d ambient
    obtain ⟨later, hl⟩ := ih h.2 segment.ambient
    refine ⟨segment :: later, ?_⟩
    rw [Model.segments, hs]
    show (Model.segments _ d segment.ambient rest >>= _) = _
    rw [hl]
    rfl

end Playing

section Closing

theorem templatesOf_of_voices {p : Pronunciation} (h : t.voices p = true) :
    ∃ xs, t.templatesOf p = some xs ∧ ∀ x ∈ xs, t.plays x = true := by
  obtain ⟨xs, hxs, hplays⟩ := (Option.any_eq_true _ _).1 h
  exact ⟨xs, hxs, List.all_eq_true.1 hplays⟩

theorem admits_of_closes {r : ContextRule} (h : t.closesRule r = true)
    (left right : Option String) :
    (Model.ofTable t).admits left right ((Model.ofTable t).rule r) =
      .ok (t.admits left right r) := by
  obtain ⟨hreads, _⟩ := Bool.and_eq_true_iff.1 h
  obtain ⟨hl, hr⟩ := Bool.and_eq_true_iff.1 hreads
  exact admits_rule hl hr left right

theorem found_of_closes {rules : List ContextRule} (hrules : ∀ r ∈ rules, t.closesRule r = true)
    (h : (Model.ofTable t).Finds left right i (rules.map (Model.ofTable t).rule)
      (.ok (some (k, r)))) :
    ∃ c ∈ rules, t.admits left right c = true ∧ c.pronunciation = r.pronunciation := by
  obtain ⟨before, rest, hsplit, -, -, hadmits⟩ := h.of_found
  obtain ⟨c, hc, rfl⟩ := List.mem_map.1 (hsplit ▸ List.mem_append_cons_self)
  rw [admits_of_closes (hrules c hc), Except.ok.injEq] at hadmits
  exact ⟨c, hc, hadmits, rfl⟩

theorem none_of_closes {rules : List ContextRule} (hrules : ∀ r ∈ rules, t.closesRule r = true)
    (h : (Model.ofTable t).Finds left right i (rules.map (Model.ofTable t).rule) (.ok none)) :
    ∀ r ∈ rules, t.admits left right r = false := by
  intro r hr
  have hadmits := h.of_none _ (List.mem_map_of_mem hr)
  rwa [admits_of_closes (hrules r hr), Except.ok.injEq] at hadmits

theorem error_of_closes {rules : List ContextRule} (hrules : ∀ r ∈ rules, t.closesRule r = true) :
    ¬ (Model.ofTable t).Finds left right i (rules.map (Model.ofTable t).rule) (.error e) := by
  intro h
  obtain ⟨before, r, rest, hsplit, -, herror⟩ := h.of_error
  obtain ⟨c, hc, rfl⟩ := List.mem_map.1 (hsplit ▸ List.mem_append_cons_self)
  rw [admits_of_closes (hrules c hc)] at herror
  cases herror

theorem chooses_voices (hg : t.closesGrapheme g = true)
    (hl : t.graphemes.lookup symbol = some g)
    (h : (Model.ofTable t).Chooses ((Model.ofTable t).entry symbol g) left right result) :
    ∃ selection, result = .ok selection ∧
      (selection.pronunciation? = none → t.Voices left symbol right selection []) ∧
      ∀ p, selection.pronunciation? = some p → ∃ xs, t.templatesOf p = some xs ∧
        (∀ x ∈ xs, t.plays x = true) ∧ t.Voices left symbol right selection xs := by
  obtain ⟨helsewhere, hrules⟩ := Bool.and_eq_true_iff.1 hg
  have hrules := List.all_eq_true.1 hrules
  cases h with
  | @rule i r p hf hp =>
    obtain ⟨c, hc, hadmits, hpronunciation⟩ := found_of_closes hrules hf
    rw [hp] at hpronunciation
    have hvoices := (Bool.and_eq_true_iff.1 (hrules c hc)).2
    rw [hpronunciation] at hvoices
    obtain ⟨xs, hxs, hplays⟩ := templatesOf_of_voices hvoices
    refine ⟨_, rfl, (fun he => by cases he), fun _ he => ?_⟩
    cases he
    exact ⟨xs, hxs, hplays, .rule hl hc hadmits hpronunciation hxs⟩
  | elided hf hp =>
    obtain ⟨c, hc, hadmits, hpronunciation⟩ := found_of_closes hrules hf
    rw [hp] at hpronunciation
    exact ⟨_, rfl, fun _ => .elided hl hc hadmits hpronunciation, fun _ he => by cases he⟩
  | @elsewhere p hf hp =>
    have hp : g.elsewhere = some p := hp
    rw [hp] at helsewhere
    obtain ⟨xs, hxs, hplays⟩ := templatesOf_of_voices helsewhere
    refine ⟨_, rfl, (fun he => by cases he), fun _ he => ?_⟩
    cases he
    exact ⟨xs, hxs, hplays, .elsewhere hl (none_of_closes hrules hf) hp hxs⟩
  | unmatched hf hp =>
    exact ⟨_, rfl, fun _ => .unmatched hl (none_of_closes hrules hf) hp, fun _ he => by cases he⟩
  | failed hf => exact absurd hf (error_of_closes hrules)

theorem realizes_voices (ht : t.isClosed = true) (hs : token.text ∈ t.graphemes.map (·.1))
    (h : (Model.ofTable t).Realizes left token right result) :
    ∃ r, result = .ok r ∧ t.Voices left token.text right r.selection r.templates ∧
      ∀ x ∈ r.templates, t.plays x = true := by
  obtain ⟨p, hp, hsymbol⟩ := List.mem_map.1 hs
  obtain ⟨g, hg⟩ := Option.isSome_iff_exists.1
    (List.lookup_isSome_iff.2 ⟨p, hp, beq_iff_eq.2 hsymbol.symm⟩)
  have hentry := (Model.mirrors_ofTable t).entryFor token.text
  rw [hg, Option.elim_some] at hentry
  have hcloses : t.closesGrapheme g = true := List.all_eq_true.1 ht _ (mem_of_lookup hg)
  have chosen {e : Entry} {selection : Except Error Selection}
      (he : (Model.ofTable t).entryFor token.text = .ok e)
      (hc : (Model.ofTable t).Chooses e left right selection) :
      (Model.ofTable t).Chooses ((Model.ofTable t).entry token.text g) left right selection := by
    rw [hentry, Except.ok.injEq] at he
    exact he ▸ hc
  cases h with
  | unknown he =>
    rw [hentry] at he
    cases he
  | unchosen he hc =>
    obtain ⟨_, hs, _⟩ := chooses_voices hcloses hg (chosen he hc)
    cases hs
  | unexpanded he hc hp hx =>
    obtain ⟨_, hs, _, hvoiced⟩ := chooses_voices hcloses hg (chosen he hc)
    cases hs
    obtain ⟨xs, hxs, _⟩ := hvoiced _ hp
    rw [segmentsOf_eq hxs] at hx
    cases hx
  | silent he hc hp =>
    obtain ⟨_, hs, hsilent, _⟩ := chooses_voices hcloses hg (chosen he hc)
    cases hs
    exact ⟨_, rfl, hsilent hp, fun _ hx => absurd hx List.not_mem_nil⟩
  | expanded he hc hp hx =>
    obtain ⟨_, hs, _, hvoiced⟩ := chooses_voices hcloses hg (chosen he hc)
    cases hs
    obtain ⟨xs, hxs, hplays, hvoices⟩ := hvoiced _ hp
    rw [segmentsOf_eq hxs, Except.ok.injEq] at hx
    subst hx
    exact ⟨_, rfl, hvoices, hplays⟩

end Closing

/-- Each token of a word comes to what its symbol comes to between its neighbours. -/
structure Voiced (t : Table) (tokens : List Token) (u : Utterance) : Prop where
  tokens_eq : u.realizations.map (·.token) = tokens
  voices : ∀ k r, u.realizations[k]? = some r →
    t.Voices (Model.leftOf tokens k) r.token.text (Model.rightOf tokens k) r.selection r.templates

theorem Voiced.token_eq {k : Nat} {r : Realization} (h : t.Voiced tokens u)
    (hr : u.realizations[k]? = some r) : tokens[k]? = some r.token := by
  rw [← h.tokens_eq, List.getElem?_map, hr]
  rfl

section Words

open Model Work

variable {tokens : List Token}

/-- Tokens that are symbols of a closed table leave a word nothing to fail at. -/
theorem compiles_voiced (ht : t.isClosed = true)
    (hs : ∀ token ∈ tokens, token.text ∈ t.graphemes.map (·.1))
    (h : (ofTable t).Compiles s text position tokens result) :
    ∃ u, result = .ok ⟨text, position, .ok u⟩ ∧ t.Voiced tokens u := by
  cases h with
  | @compiled u h =>
    have htokens : u.realizations.map (·.token) = tokens := by rw [h.tokens_eq, List.take_length]
    refine ⟨u, rfl, htokens, fun k r hr => ?_⟩
    have hmem : r.token ∈ tokens := htokens ▸ List.mem_map_of_mem (List.mem_of_getElem? hr)
    obtain ⟨r', hr', hvoices, _⟩ := realizes_voices ht (hs _ hmem) (h.realizes.2 k r hr)
    cases hr'
    exact hvoices
  | @failed i realizations row token e h hi hp =>
    obtain ⟨result, ho, hr⟩ := exists_realizes (ofTable t) hi
    obtain ⟨r, rfl, _, hplays⟩ := realizes_voices ht (hs _ (List.mem_of_getElem? hi)) hr
    cases hp with
    | unrealized hindex =>
      rw [hindex] at ho
      cases ho
    | unsegmented hindex hsegments =>
      rw [hindex] at ho
      cases ho
      obtain ⟨segments, hok⟩ := segments_ok hplays s.segmentMilliseconds (ambientAfter {} row)
      rw [hok] at hsegments
      cases hsegments

theorem compileTokensOf_voiced (ht : t.isClosed = true)
    (hs : ∀ token ∈ tokens, token.text ∈ t.graphemes.map (·.1)) (history : List Request)
    (s : Settings) (text : String) (position : Int) :
    ∃ u, ((ofTable t).compileTokensOf s text position tokens).outcome ((ofTable t).after history) =
      .ok ⟨text, position, .ok u⟩ ∧ t.Voiced tokens u :=
  compiles_voiced ht hs
    (compileTokensOf_ensures (ofTable t) s text position tokens _ (sound_after _ history)).1

end Words

end Table

namespace Whistle
open Model Work

def alphabet : List String := graphemes.map (·.1)

theorem isClosed_table : table.isClosed = true := by decide +kernel

theorem textual_table : (ofTable table).Textual " " where
  boundary_eq := rfl
  nonempty := by decide
  literal := by decide
  symbols_text := List.forall_mem_map.2 fun p _ => ⟨p.1, rfl⟩

theorem alphabet_table : (ofTable table).alphabet = alphabet.map .text := by
  rw [alphabet, List.map_map]
  rfl

theorem compileWord_ok (h : (ofTable table).tokenizeWord text position = .ok tokens)
    (history : List Request) (s : Settings) :
    ∃ u, ((ofTable table).compileWord s text position).outcome ((ofTable table).after history) =
      .ok ⟨text, position, .ok u⟩ := by
  have hs := tokenizeWord_text_mem textual_table.boundary_eq alphabet_table h
  obtain ⟨u, hu, _⟩ := Table.compileTokensOf_voiced isClosed_table hs history s text position
  refine ⟨u, ?_⟩
  unfold compileWord
  rw [h]
  show Work.outcome (Work.orFault _) _ = _
  rw [outcome_orFault, hu]
  rfl

/-- A word of the built-in whistle, whatever symbols it has in whatever order and whatever was
compiled before, is compiled; so a word of a text fails only if it cannot be cut into symbols. -/
theorem compile_ok (history : List Request) (s : Settings) :
    (∀ (tokens : List Token) (position : Int), (∀ token ∈ tokens, token.text ∈ alphabet) →
      ∃ word u, ((ofTable table).compileTokens s tokens position).outcome
          ((ofTable table).after history) = .ok word ∧ word.outcome = .ok u ∧
        u.realizations.map (·.token) = tokens) ∧
      (∀ text position tokens, (ofTable table).tokenizeWord text position = .ok tokens →
        ∃ u, ((ofTable table).compileWord s text position).outcome ((ofTable table).after history) =
          .ok ⟨text, position, .ok u⟩) ∧
      ∀ text, ∃ words, ((ofTable table).compileText s false text).outcome
          ((ofTable table).after history) = .ok words ∧
        ∀ word ∈ words, ∀ e, word.outcome = .error e →
          ∃ f, (ofTable table).tokenizeWord word.text word.position = .error f := by
  refine ⟨fun tokens position hs => ?_, fun text position tokens h => compileWord_ok h history s,
    fun text => ?_⟩
  · obtain ⟨u, hu, hv⟩ := Table.compileTokensOf_voiced isClosed_table hs history s _ _
    exact ⟨_, u, hu, rfl, hv.tokens_eq⟩
  · obtain ⟨chunks, words, _, hentries, hs⟩ := textual_table.compileText_settles s text
    refine ⟨words, (hs _ (sound_after _ history)).1, fun word hw e he => ?_⟩
    obtain ⟨chunk, -, hentry⟩ := exists_of_forall₂ hentries hw
    cases hentry with
    | compiled => cases he
    | @failed text e position hfailed =>
      cases ht : (ofTable table).tokenizeWord text position with
      | error f => exact ⟨f, rfl⟩
      | ok tokens =>
        obtain ⟨u, hu⟩ := compileWord_ok ht [] s
        rw [show (ofTable table).after [] = {} from rfl, hfailed] at hu
        cases hu

def kek : List Token := [{ text := "k" }, { text := "e" }, { text := "k" }]

/-- No rule fits the schwa of `kek`, and `waja` has symbols of two characters. -/
theorem compile_ok_kek :
    (∀ token ∈ kek, token.text ∈ alphabet) ∧
      (∃ word u, ((ofTable table).compileTokens {} kek 0).outcome
          ((ofTable table).after [.flattenClass "C"]) = .ok word ∧ word.outcome = .ok u ∧
        u.realizations.map (·.token) = kek) ∧
      (ofTable table).tokenizeWord "waja" 3 = .ok [⟨"wa", false, 3⟩, ⟨"ja", false, 5⟩] ∧
      ∃ u, ((ofTable table).compileWord {} "waja" 3).outcome
        ((ofTable table).after [.flattenClass "C"]) = .ok ⟨"waja", 3, .ok u⟩ := by
  have hs : ∀ token ∈ kek, token.text ∈ alphabet := by decide +kernel
  have htokens : (ofTable table).tokenizeWord "waja" 3 =
      .ok [⟨"wa", false, 3⟩, ⟨"ja", false, 5⟩] := by with_unfolding_all rfl
  obtain ⟨hsymbols, htexts, _⟩ := compile_ok [.flattenClass "C"] {}
  exact ⟨hs, hsymbols _ 0 hs, htokens, htexts "waja" 3 _ htokens⟩

end Whistle

end Silbo
