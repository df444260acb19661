import Silbo.Proofs.Articulation
import Silbo.Proofs.Range

/-!
How words set in. Until a template of a word states a formant, the formant is the silence that the
word began with, so nothing should be heard that sets in there. In the built-in whistle nothing is,
but for a schwa between `k` and an acute or a grave consonant: after its pause it glides at full
amplitude from wherever the formant is.
-/
namespace Silbo

def Motion.start? : Motion → Option Quantity
  | .constant value => value
  | .transition start _ _ => start
  | .contour _ _ _ => none

theorem Motion.mem_quantities_of_start? {motion : Motion} (h : motion.start? = some q) :
    q ∈ motion.quantities := by
  cases motion <;> simp_all [Motion.start?, Motion.quantities]

def Track.onset? (k : Track) (x : SegmentTemplate) : Option Quantity :=
  (k.motion x).bind Motion.start?

def Utterance.templatesBefore (u : Utterance) (k : Nat) : Nat :=
  ((u.realizations.take k).flatMap (·.templates)).length

def Utterance.MuteBefore (u : Utterance) (i : Nat) : Prop :=
  ∀ x ∈ u.templates.take i, x.formant = none

section Rows

theorem exists_of_flatMap_getElem? {f : α → List β} {xs : List α} {i : Nat}
    (h : (xs.flatMap f)[i]? = some y) :
    ∃ k x j, xs[k]? = some x ∧ (f x)[j]? = some y ∧ i = ((xs.take k).flatMap f).length + j := by
  induction xs generalizing i with
  | nil => simp at h
  | cons x xs ih =>
    rw [List.flatMap_cons] at h
    by_cases hi : i < (f x).length
    · rw [List.getElem?_append_left hi] at h
      exact ⟨0, x, i, rfl, h, by simp⟩
    · rw [List.getElem?_append_right (by omega)] at h
      obtain ⟨k, x', j, hk, hj, hi'⟩ := ih h
      refine ⟨k + 1, x', j, by simpa using hk, hj, ?_⟩
      simp only [List.take_succ_cons, List.flatMap_cons, List.length_append]
      omega

theorem flatMap_split {f : α → List β} {xs : List α} {k : Nat} (hk : xs[k]? = some x) :
    xs.flatMap f = (xs.take k).flatMap f ++ (f x ++ (xs.drop (k + 1)).flatMap f) := by
  obtain ⟨hlt, rfl⟩ := List.getElem?_eq_some_iff.1 hk
  rw [← List.flatMap_cons, ← List.drop_eq_getElem_cons hlt, ← List.flatMap_append,
    List.take_append_drop]

theorem take_flatMap {f : α → List β} {xs : List α} {k j : Nat} (hk : xs[k]? = some x)
    (hj : j ≤ (f x).length) :
    (xs.flatMap f).take (((xs.take k).flatMap f).length + j) =
      (xs.take k).flatMap f ++ (f x).take j := by
  rw [flatMap_split hk, List.take_length_add_append, List.take_append_of_le_length hj]

theorem flatMap_getElem? {f : α → List β} {xs : List α} {k j : Nat} (hk : xs[k]? = some x)
    (hj : (f x)[j]? = some y) :
    (xs.flatMap f)[((xs.take k).flatMap f).length + j]? = some y := by
  obtain ⟨hlt, -⟩ := List.getElem?_eq_some_iff.1 hj
  rw [flatMap_split hk, List.getElem?_append_right (by omega), Nat.add_sub_cancel_left,
    List.getElem?_append_left hlt, hj]

end Rows

namespace Model

variable {m : Model}

theorem traces_start (h : Traces m incoming duration motion r) :
    motion.bind Motion.start? = none ∧ r.start = incoming ∨
      ∃ q y, motion.bind Motion.start? = some q ∧ m.value? q = some y ∧ r.start = .real y := by
  cases h with
  | held => exact .inl ⟨rfl, rfl⟩
  | @constant value _ hx =>
    cases value with
    | none => cases hx
    | some q =>
      obtain ⟨y, hy, rfl⟩ := quantity_eq_ok hx
      exact .inr ⟨q, y, rfl, hy, rfl⟩
  | transition => exact .inl ⟨rfl, rfl⟩
  | started hx =>
    obtain ⟨y, hy, rfl⟩ := quantity_eq_ok hx
    exact .inr ⟨_, y, rfl, hy, rfl⟩
  | contour => exact .inl ⟨rfl, rfl⟩

end Model

namespace Table
open Model

/-- A template that keeps a silent word silent. -/
def rests (t : Table) (x : SegmentTemplate) : Bool :=
  x.formant.isNone && x.amplitude.all fun motion =>
    motion.quantities.all fun q => decide (t.value? q = some 0)

/-- A template that sets in at a formant of its own or, in a silent word, in silence. -/
def settles (t : Table) (x : SegmentTemplate) : Bool :=
  (Track.formant.onset? x).isSome ||
    (Track.amplitude.onset? x).all fun q => decide (t.value? q = some 0)

/-- A template that sets in at full amplitude at the formant that it finds. -/
def bursts (t : Table) (x : SegmentTemplate) : Bool :=
  (Track.formant.onset? x).isNone &&
    (Track.amplitude.onset? x).any fun q => decide (t.value? q = some 1)

/-- Templates of which those before the first that states a formant rest, and that one is as asked
for. -/
def leads (t : Table) (first : SegmentTemplate → Bool) : List SegmentTemplate → Bool
  | [] => true
  | x :: rest => if x.formant.isNone then t.rests x && t.leads first rest else first x

/-- Templates of which the second bursts and is the first that states a formant. -/
def erupts (t : Table) (xs : List SegmentTemplate) : Bool :=
  t.leads t.bursts xs && xs.findIdx? (·.formant.isSome) == some 1

/-- Every pronunciation of a table settles, but for those of spared rules, which erupt. -/
def Opens (t : Table) (spared : String → ContextRule → Bool) : Prop :=
  ∀ entry ∈ t.graphemes,
    (∀ p ∈ entry.2.elsewhere, (t.templatesOf p).all (t.leads t.settles) = true) ∧
      ∀ r ∈ entry.2.rules, ∀ p ∈ r.pronunciation, (t.templatesOf p).all
        (if spared entry.1 r then t.erupts else t.leads t.settles) = true

instance (t : Table) (spared : String → ContextRule → Bool) : Decidable (t.Opens spared) :=
  List.decidableBAll _ _

variable {t : Table}

theorem settles_of_rests (h : t.rests x = true) : t.settles x = true := by
  obtain ⟨-, hamplitude⟩ := Bool.and_eq_true_iff.1 h
  apply Bool.or_eq_true_iff.2
  refine .inr ((Option.all_eq_true _ _).2 fun q hq => ?_)
  obtain ⟨motion, hm, hq⟩ := Option.bind_eq_some_iff.1 hq
  have hquantities := (Option.all_eq_true _ _).1 hamplitude motion hm
  exact List.all_eq_true.1 hquantities q (Motion.mem_quantities_of_start? hq)

theorem leads_getElem? {xs : List SegmentTemplate} {j : Nat} (h : t.leads first xs = true)
    (hs : ∀ y ∈ xs.take j, y.formant = none) (hx : xs[j]? = some x) :
    t.rests x = true ∨ x.formant.isSome = true ∧ first x = true := by
  induction xs generalizing j with
  | nil => cases hx
  | cons y xs ih =>
    rw [leads] at h
    cases j with
    | zero =>
      cases hx
      split at h
      · exact .inl (Bool.and_eq_true_iff.1 h).1
      · rename_i hformant
        exact .inr ⟨Option.isSome_iff_ne_none.2 (by simpa using hformant), h⟩
    | succ j =>
      rw [List.take_succ_cons, List.forall_mem_cons] at hs
      rw [hs.1, Option.isNone_none, if_pos rfl] at h
      exact ih (Bool.and_eq_true_iff.1 h).2 hs.2 hx

theorem Voices.opens (ho : t.Opens spared) (hv : t.Voices left symbol right selection xs) :
    t.leads t.settles xs = true ∨ t.erupts xs = true ∧
      ∃ r, spared symbol r = true ∧ t.admits left right r = true := by
  cases hv with
  | elided => exact .inl rfl
  | unmatched => exact .inl rfl
  | elsewhere hl _ hp ht =>
    have h := (ho _ (mem_of_lookup hl)).1 _ hp
    rw [ht] at h
    exact .inl h
  | @rule _ r _ _ _ hl hr ha hp ht =>
    have h := (ho _ (mem_of_lookup hl)).2 _ hr _ hp
    rw [ht] at h
    cases hs : spared symbol r with
    | false =>
      rw [hs] at h
      exact .inl h
    | true =>
      rw [hs] at h
      exact .inr ⟨h, r, hs, ha⟩

theorem erupts_getElem? {xs : List SegmentTemplate} {j : Nat} (h : t.erupts xs = true)
    (hs : ∀ y ∈ xs.take j, y.formant = none) (hx : xs[j]? = some x) :
    t.rests x = true ∨ j = 1 ∧ x.formant.isSome = true ∧ t.bursts x = true := by
  obtain ⟨hleads, hfirst⟩ := Bool.and_eq_true_iff.1 h
  rcases leads_getElem? hleads hs hx with h | ⟨hformant, h⟩
  · exact .inl h
  refine .inr ⟨?_, hformant, h⟩
  have hj : xs.findIdx? (·.formant.isSome) = some j := by
    obtain ⟨hlt, hget⟩ := List.getElem?_eq_some_iff.1 hx
    rw [List.findIdx?_eq_some_iff_getElem]
    refine ⟨hlt, by rw [hget]; exact hformant, fun k hk => ?_⟩
    have hmem : xs[k] ∈ xs.take j := List.mem_take_iff_getElem.2 ⟨k, by omega, rfl⟩
    simp [hs _ hmem]
  rw [hj, beq_iff_eq, Option.some.injEq] at hfirst
  exact hfirst

section Words

variable {u : Utterance} {s : Settings} {tokens : List Token} {i : Nat}

/-- Where no formant has been stated a template of a word rests, settles or is the second of an
eruption. -/
theorem Voiced.opens (hv : t.Voiced tokens u) (ho : t.Opens spared) (hmute : u.MuteBefore i)
    (hx : u.templates[i]? = some x) :
    t.rests x = true ∨ x.formant.isSome = true ∧ (t.settles x = true ∨ t.bursts x = true ∧
      ∃ k r c, u.realizations[k]? = some r ∧ i = u.templatesBefore k + 1 ∧
        spared r.token.text c = true ∧
          t.admits (leftOf tokens k) (rightOf tokens k) c = true) := by
  obtain ⟨k, r, j, hr, hj, hi⟩ := exists_of_flatMap_getElem? hx
  have hbehind : ∀ y ∈ r.templates.take j, y.formant = none := by
    intro y hy
    apply hmute
    obtain ⟨hlt, -⟩ := List.getElem?_eq_some_iff.1 hj
    rw [hi, take_flatMap hr (Nat.le_of_lt hlt)]
    exact List.mem_append_right _ hy
  rcases (hv.voices k r hr).opens ho with h | ⟨h, c, hc, ha⟩
  · exact (leads_getElem? h hbehind hj).imp_right fun h => ⟨h.1, .inl h.2⟩
  · rcases erupts_getElem? h hbehind hj with h | ⟨rfl, hformant, h⟩
    · exact .inl h
    · exact .inr ⟨hformant, .inr ⟨h, k, r, c, hr, hi, hc, ha⟩⟩

theorem Voiced.rests (hv : t.Voiced tokens u) (ho : t.Opens spared) (hmute : u.MuteBefore i) :
    ∀ x ∈ u.templates.take i, t.rests x = true := by
  intro x hx
  have hformant := hmute x hx
  obtain ⟨n, hn, rfl⟩ := List.mem_take_iff_getElem.1 hx
  have hmem : u.templates[n]? = some u.templates[n] := List.getElem?_eq_getElem (by omega)
  have hbefore : u.MuteBefore n :=
    fun y hy => hmute y (List.take_subset_take_left _ (by omega) hy)
  refine (hv.opens ho hbefore hmem).resolve_right fun h => ?_
  rw [hformant] at h
  cases h.1

theorem Composed.start (hu : t.Composed s u) (hr : ∀ x ∈ u.templates.take i, t.rests x = true)
    (hi : u.templates[i]? = some template) (hx : u.segments[i]? = some x) (k : Track) :
    k.onset? template = none ∧ (k.course x).start = .real 0 ∨
      ∃ q y, k.onset? template = some q ∧ t.value? q = some y ∧ (k.course x).start = .real y := by
  obtain ⟨hlt, -⟩ := List.getElem?_eq_some_iff.1 hx
  have hsilent : k.level (ambientBefore {} u.segments i) = .real 0 := by
    rcases level_given hu.segments_eq k (Nat.le_of_lt hlt) with
      ⟨y, hy, motion, hm, q, hq, v, hv, he⟩ | ⟨he, -⟩
    · obtain ⟨hformant, hamplitude⟩ := Bool.and_eq_true_iff.1 (hr y hy)
      cases k with
      | formant =>
        rw [show y.formant = some motion from hm] at hformant
        cases hformant
      | amplitude =>
        have hall := (Option.all_eq_true _ _).1 hamplitude motion hm
        have hzero := of_decide_eq_true (List.all_eq_true.1 hall q hq)
        rw [value?_ofTable, hzero, Option.some.injEq] at hv
        rw [he, ← hv]
    · rw [he, k.level_silence]
  have htraces := segment_traces ((segments_segment hu.segments_eq).2 i _ x hi hx) k
  rw [hsilent] at htraces
  have hstart := traces_start htraces
  simp only [value?_ofTable] at hstart
  exact hstart

end Words

section Compilation
open Work

theorem voices_of_realizes (ht : t.isClosed = true)
    (h : (ofTable t).Realizes left token right (.ok r)) :
    t.Voices left token.text right r.selection r.templates := by
  have entered {e : Entry} (he : (ofTable t).entryFor token.text = .ok e) :
      token.text ∈ t.graphemes.map (·.1) := by
    obtain ⟨g, hg, -⟩ := entryFor_eq_ok he
    exact List.mem_map.2 ⟨_, mem_of_lookup hg, rfl⟩
  have hs : token.text ∈ t.graphemes.map (·.1) := by
    cases h with
    | silent he => exact entered he
    | expanded he => exact entered he
  obtain ⟨r', hr', hvoices, -⟩ := realizes_voices ht hs h
  cases hr'
  exact hvoices

/-- Of a closed table a word has segments only as its tokens come to them between their
neighbours. -/
theorem compileTokensOf_sounds (ht : t.isClosed = true) (s : Settings) (text : String)
    (position : Int) (tokens : List Token) :
    Ensures (ofTable t).Sound ((ofTable t).compileTokensOf s text position tokens) fun r =>
      ∀ word, r = .ok word → ∀ u, word.outcome = .ok u →
        t.Composed s u ∧ t.Voiced (u.realizations.map (·.token)) u := by
  refine (compileTokensOf_ensures (ofTable t) s text position tokens).weaken fun r hr => ?_
  intro word hword u hu
  cases hr with
  | compiled h =>
    cases hword
    cases hu
    refine ⟨⟨h.segments_eq, advances_written h⟩, rfl, fun k r hr => ?_⟩
    rw [h.tokens_eq, List.take_length]
    exact voices_of_realizes ht (h.realizes.2 k r hr)
  | failed => cases hword

end Compilation

theorem exists_of_erupts {xs : List SegmentTemplate} (h : t.erupts xs = true) :
    ∃ x y rest, xs = x :: y :: rest ∧ x.formant = none ∧ t.bursts y = true := by
  obtain ⟨-, hfirst⟩ := Bool.and_eq_true_iff.1 h
  obtain ⟨hlt, hformant, hbefore⟩ := List.findIdx?_eq_some_iff_getElem.1 (beq_iff_eq.1 hfirst)
  match xs, h, hlt, hformant, hbefore with
  | x :: y :: rest, h, _, hformant, hbefore =>
    have hx : x.formant = none := by simpa using hbefore 0 Nat.one_pos
    refine ⟨x, y, rest, rfl, hx, ?_⟩
    rcases erupts_getElem? (j := 1) h (by simpa using hx) rfl with hrests | ⟨-, -, hbursts⟩
    · rw [List.getElem_cons_succ, List.getElem_cons_zero,
        Option.isNone_iff_eq_none.1 (Bool.and_eq_true_iff.1 hrests).1] at hformant
      cases hformant
    · exact hbursts

end Table

namespace Whistle
open Model Work

/-- The rules for a schwa between `k` and an acute or a grave consonant. -/
def sweeping (symbol : String) (r : ContextRule) : Bool :=
  symbol == "e" && table.asks ["k"] r.left && table.asks (acutes ++ graves) r.right

theorem opens_table : table.Opens sweeping := by decide +kernel

theorem schwa_sweeps : ∀ c ∈ acutes ++ graves,
    (∃ r ∈ schwa.rules, table.admits (some "k") (some c) r = true) ∧
      ∀ r ∈ schwa.rules, table.admits (some "k") (some c) r = true →
        ∀ p ∈ r.pronunciation, (table.templatesOf p).all table.erupts = true := by
  decide +kernel

section Onsets

variable {u : Utterance} {s : Settings} {i : Nat}

def Glides (tokens : List Token) (k : Nat) : Prop :=
  tokens[k]?.map (·.text) = some "e" ∧ leftOf tokens k = some "k" ∧
    ∃ c ∈ acutes ++ graves, rightOf tokens k = some c

/-- The second segment of such a schwa, if no formant has been stated before it. -/
structure Sweeps (u : Utterance) (i : Nat) : Prop where
  mute : u.MuteBefore i
  glides : ∃ k, Glides (u.realizations.map (·.token)) k ∧ i = u.templatesBefore k + 1

/-- What sets in at silence on the formant is itself silent, and the segments that sweep up are the
exceptions. -/
structure Onsets (u : Utterance) : Prop where
  heard : ∀ i x, u.segments[i]? = some x → ¬ Sweeps u i →
    x.amplitude.start = .real 0 ∨ ∃ y ∈ pitches, x.formant.start = .real y
  swept : ∀ i, Sweeps u i → ∃ x, u.segments[i]? = some x ∧
    x.amplitude.start = .real 1 ∧ x.formant.start = .real 0

theorem glides_of_rule (hs : sweeping symbol r = true) (ha : table.admits left right r = true) :
    symbol = "e" ∧ left = some "k" ∧ ∃ c ∈ acutes ++ graves, right = some c :=
  Table.between_of_rule hs ha

theorem heard_of_settles (hu : table.Composed s u)
    (hr : ∀ x ∈ u.templates.take i, table.rests x = true) (hi : u.templates[i]? = some template)
    (hx : u.segments[i]? = some x) (h : table.settles template = true) :
    x.amplitude.start = .real 0 ∨ ∃ y ∈ pitches, x.formant.start = .real y := by
  rcases Bool.or_eq_true_iff.1 h with h | h
  · rcases hu.start hr hi hx .formant with ⟨hnone, -⟩ | ⟨q, y, hq, hy, hstart⟩
    · rw [hnone] at h
      cases h
    · obtain ⟨motion, hm, hq⟩ := Option.bind_eq_some_iff.1 hq
      have hw := hu.written _ (List.mem_of_getElem? hi)
      have hplays : table.Plays .formant y :=
        ⟨_, hw, motion, hm, q, Motion.mem_quantities_of_start? hq, hy⟩
      exact .inr ⟨y, pitches_stated.mem hplays, hstart⟩
  · rcases hu.start hr hi hx .amplitude with ⟨-, hstart⟩ | ⟨q, y, hq, hy, hstart⟩
    · exact .inl hstart
    · have hzero := of_decide_eq_true ((Option.all_eq_true _ _).1 h q hq)
      rw [hy, Option.some.injEq] at hzero
      exact .inl (hzero ▸ hstart)

theorem erupts_of_glides (hc : c ∈ acutes ++ graves)
    (h : table.Voices (some "k") "e" (some c) selection xs) : table.erupts xs = true := by
  obtain ⟨hadmits, herupts⟩ := schwa_sweeps c hc
  obtain ⟨r, hr, ha, p, hp, ht⟩ := voices_schwa_of_admits hadmits h
  have hall := herupts r hr ha p hp
  rw [ht] at hall
  exact hall

theorem onsets_of_voiced (hu : table.Composed s u)
    (hv : table.Voiced (u.realizations.map (·.token)) u) : Onsets u where
  heard i x hx hsweeps := by
    obtain ⟨template, hi⟩ := hu.exists_template hx
    by_cases hmute : u.MuteBefore i
    · have hrests := hv.rests opens_table hmute
      rcases hv.opens opens_table hmute hi with h | ⟨-, h | ⟨-, k, r, c, hr, hk, hc, ha⟩⟩
      · exact heard_of_settles hu hrests hi hx (Table.settles_of_rests h)
      · exact heard_of_settles hu hrests hi hx h
      · obtain ⟨hsymbol, hneighbours⟩ := glides_of_rule hc ha
        refine absurd ⟨hmute, k, ⟨?_, hneighbours⟩, hk⟩ hsweeps
        rw [hv.token_eq hr, Option.map_some, hsymbol]
    · obtain ⟨hwaypoints, -⟩ := pitches_stated.course hu hi hx
      rcases hwaypoints _ List.mem_cons_self with h | ⟨-, hnone⟩
      · exact .inr h
      · exact absurd hnone hmute
  swept i := by
    rintro ⟨hmute, k, ⟨hsymbol, hleft, c, hc, hright⟩, hk⟩
    obtain ⟨token, ht, hsymbol⟩ := Option.map_eq_some_iff.1 hsymbol
    obtain ⟨r, hr, rfl⟩ := exists_realization rfl ht
    have hvoices := hv.voices k r hr
    rw [hsymbol, hleft, hright] at hvoices
    obtain ⟨_, template, _, htemplates, -, hbursts⟩ :=
      Table.exists_of_erupts (erupts_of_glides hc hvoices)
    have hi : u.templates[i]? = some template := by
      rw [hk]
      exact flatMap_getElem? hr (by rw [htemplates]; rfl)
    obtain ⟨hlt, -⟩ := List.getElem?_eq_some_iff.1 hi
    rw [← (segments_segment hu.segments_eq).1] at hlt
    have hx : u.segments[i]? = some u.segments[i] := List.getElem?_eq_getElem hlt
    have hrests := hv.rests opens_table hmute
    obtain ⟨hformant, hamplitude⟩ := Bool.and_eq_true_iff.1 hbursts
    refine ⟨_, hx, ?_, ?_⟩
    · obtain ⟨q, hq, hone⟩ := (Option.any_eq_true _ _).1 hamplitude
      rcases hu.start hrests hi hx .amplitude with ⟨hnone, -⟩ | ⟨q', y, hq', hy, hstart⟩
      · rw [hnone] at hq
        cases hq
      · cases Option.some.inj (hq'.symm.trans hq)
        cases Option.some.inj (hy.symm.trans (of_decide_eq_true hone))
        exact hstart
    · rcases hu.start hrests hi hx .formant with ⟨-, hstart⟩ | ⟨q, _, hq, -⟩
      · exact hstart
      · rw [hq] at hformant
        cases hformant

/-- A word that begins with `k`, a schwa and an acute or a grave consonant sweeps up. -/
theorem sweeps_of_begins {k e d : Token} {rest : List Token}
    (hv : table.Voiced (k :: e :: d :: rest) u) (hk : k.text = "k") (he : e.text = "e")
    (hd : d.text ∈ acutes ++ graves) : Sweeps u 1 := by
  obtain ⟨r, hr, rfl⟩ :=
    exists_realization hv.tokens_eq (show (k :: e :: d :: rest)[0]? = _ from rfl)
  obtain ⟨r', hr', rfl⟩ :=
    exists_realization hv.tokens_eq (show (r.token :: e :: d :: rest)[1]? = _ from rfl)
  have hdropped : table.Voices none r.token.text (some r'.token.text) _ _ := hv.voices 0 r hr
  have hglides : table.Voices (some r.token.text) r'.token.text (some d.text) _ _ :=
    hv.voices 1 r' hr'
  rw [hk, he] at hdropped hglides
  obtain ⟨x, y, more, htemplates, hx, -⟩ := Table.exists_of_erupts (erupts_of_glides hd hglides)
  have hnone : r.templates = [] := by
    obtain ⟨n, hn⟩ := (elided_iff (by decide) hdropped).2 ⟨rfl, List.mem_cons_self⟩
    rw [hn] at hdropped
    generalize r.templates = xs at hdropped
    cases hdropped
    rfl
  have htake : u.realizations.take 1 = [r] := by rw [List.take_add_one, hr]; rfl
  have hbefore : u.templatesBefore 1 = 0 := by
    rw [Utterance.templatesBefore, htake, List.flatMap_singleton, hnone, List.length_nil]
  refine ⟨fun z hz => ?_, 1, ?_, by rw [hbefore]⟩
  · have hfirst := take_flatMap (f := Realization.templates) (j := 1) hr' (by simp [htemplates])
    rw [htake, List.flatMap_singleton, hnone, htemplates] at hfirst
    rw [Utterance.templates, show 1 = ([] : List SegmentTemplate).length + 1 from rfl, hfirst] at hz
    rw [List.mem_singleton.1 hz]
    exact hx
  · rw [hv.tokens_eq]
    exact ⟨by rw [← he]; rfl, by rw [← hk]; rfl, _, hd, rfl⟩

/-- However long a word is, whatever symbols it has in whatever order and whatever was compiled
before, the only segments that are heard to set in at no pitch are those that sweep up in a schwa
between `k` and an acute or a grave consonant. -/
theorem compile_onsets (history : List Request) (s : Settings) :
    (∀ (tokens : List Token) (position : Int), (∀ token ∈ tokens, token.text ∈ alphabet) →
      ∃ word u, ((ofTable table).compileTokens s tokens position).outcome
          ((ofTable table).after history) = .ok word ∧ word.outcome = .ok u ∧
        u.realizations.map (·.token) = tokens ∧ Onsets u) ∧
      (∀ text position tokens, (ofTable table).tokenizeWord text position = .ok tokens →
        ∃ u, ((ofTable table).compileWord s text position).outcome ((ofTable table).after history) =
          .ok ⟨text, position, .ok u⟩ ∧ Onsets u) ∧
      ∀ strict text words, ((ofTable table).compileText s strict text).outcome
          ((ofTable table).after history) = .ok words →
        ∀ word ∈ words, ∀ u, word.outcome = .ok u → Onsets u := by
  have hsound := sound_after (ofTable table) history
  have hsounds (text : String) (position : Int) (tokens : List Token) :=
    Table.compileTokensOf_sounds isClosed_table s text position tokens
  refine ⟨fun tokens position hs => ?_, fun text position tokens h => ?_,
    fun strict text words h word hw u hu => ?_⟩
  · obtain ⟨u, hu, hv⟩ := Table.compileTokensOf_voiced isClosed_table hs history s _ _
    obtain ⟨hcomposed, hvoiced⟩ := (hsounds _ _ _ _ hsound).1 _ hu u rfl
    exact ⟨_, u, hu, rfl, hv.tokens_eq, onsets_of_voiced hcomposed hvoiced⟩
  · obtain ⟨u, hu⟩ := compileWord_ok h history s
    obtain ⟨hcomposed, hvoiced⟩ :=
      (compileWord_of_tokens hsounds text position _ hsound).1 _ hu u rfl
    exact ⟨u, hu, onsets_of_voiced hcomposed hvoiced⟩
  · obtain ⟨hcomposed, hvoiced⟩ :=
      (compileText_of_tokens hsounds strict text _ hsound).1 _ h word hw u hu
    exact onsets_of_voiced hcomposed hvoiced

def ket : List Token := [{ text := "k" }, { text := "e" }, { text := "t" }]

/-- The `k` of `ket` is dropped, and nothing is left to glide from. -/
theorem compile_onsets_ket :
    (∀ token ∈ ket, token.text ∈ alphabet) ∧
      (∃ word u x, ((ofTable table).compileTokens {} ket).outcome
          ((ofTable table).after [.flattenClass "C"]) = .ok word ∧ word.outcome = .ok u ∧
        u.segments[1]? = some x ∧ x.amplitude.start = .real 1 ∧ x.formant.start = .real 0) ∧
      (ofTable table).tokenizeWord "waja" 3 = .ok [⟨"wa", false, 3⟩, ⟨"ja", false, 5⟩] ∧
      (∃ u, ((ofTable table).compileWord {} "waja" 3).outcome
        ((ofTable table).after [.flattenClass "C"]) = .ok ⟨"waja", 3, .ok u⟩ ∧ Onsets u) ∧
      ∃ words, ((ofTable table).compileText {} false "ket waja").outcome
          ((ofTable table).after [.flattenClass "C"]) = .ok words ∧
        ∀ word ∈ words, ∀ u, word.outcome = .ok u → Onsets u := by
  have hs : ∀ token ∈ ket, token.text ∈ alphabet := by decide +kernel
  have htokens : (ofTable table).tokenizeWord "waja" 3 =
      .ok [⟨"wa", false, 3⟩, ⟨"ja", false, 5⟩] := by with_unfolding_all rfl
  obtain ⟨hsymbols, hword, htexts⟩ := compile_onsets [.flattenClass "C"] {}
  obtain ⟨_, words, _, _, hwords⟩ := textual_table.compileText_settles {} "ket waja"
  have hok := (hwords _ (sound_after (ofTable table) [.flattenClass "C"])).1
  refine ⟨hs, ?_, htokens, hword "waja" 3 _ htokens, words, hok, htexts _ _ _ hok⟩
  obtain ⟨word, u, hcompiled, hu, htokens, honsets⟩ := hsymbols ket 0 hs
  have hsound := sound_after (ofTable table) [.flattenClass "C"]
  obtain ⟨-, hvoiced⟩ := (Table.compileTokensOf_sounds isClosed_table {} _ _ ket _ hsound).1
    word hcompiled u hu
  rw [htokens] at hvoiced
  obtain ⟨x, hx, hstarts⟩ := honsets.swept 1 (sweeps_of_begins hvoiced rfl rfl (by decide))
  exact ⟨word, u, x, hcompiled, hu, hx, hstarts⟩

end Onsets

end Whistle

end Silbo
