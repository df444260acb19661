import Silbo.Proofs.Closure
import Silbo.Proofs.Provenance

/-!
Places of articulation in the built-in whistle. A rule that names the locus of a place belongs to a
consonant of the place or asks for one on a side, but for the schwa between `b` and a mid consonant,
which sets in at the acute locus. A consonant that is dropped leaves its sound to the schwa after
it, which has a rule for every pair of consonants but two mid ones.
-/
namespace Silbo

def Quantity.names (constant : String) : Quantity → Bool
  | .literal _ => false
  | .named name => name == constant

def SegmentTemplate.names (constant : String) (x : SegmentTemplate) : Bool :=
  x.formant.any fun motion => motion.quantities.any (·.names constant)

/-- A token or one of its neighbours is among the symbols. -/
def Near (symbols : List String) (tokens : List Token) (k : Nat) : Prop :=
  ∃ x ∈ symbols, tokens[k]?.map (·.text) = some x ∨ Model.leftOf tokens k = some x ∨
    Model.rightOf tokens k = some x

namespace Table

/-- A side of a context that nothing but the given symbols fits. -/
def asks (t : Table) (among : List String) (side : String) : Bool :=
  !side.isEmpty && ((t.symbolsOf side).getD []).all among.contains

def names (t : Table) (constant : String) (p : Pronunciation) : Bool :=
  ((t.templatesOf p).getD []).any (·.names constant)

/-- A constant is named by nothing but the given symbols, rules that ask for one of them on a side,
and rules that are spared. -/
def Confines (t : Table) (constant : String) (among : List String)
    (spared : String → ContextRule → Bool) : Prop :=
  ∀ entry ∈ t.graphemes, entry.1 ∉ among →
    (∀ p ∈ entry.2.elsewhere, t.names constant p = false) ∧
      ∀ r ∈ entry.2.rules, ∀ p ∈ r.pronunciation, t.names constant p = true →
        t.asks among r.left = true ∨ t.asks among r.right = true ∨ spared entry.1 r = true

instance (t : Table) (constant : String) (among : List String)
    (spared : String → ContextRule → Bool) : Decidable (t.Confines constant among spared) :=
  List.decidableBAll _ _

variable {t : Table}

theorem mem_of_asks (ha : t.asks among side = true) (h : t.takes side neighbour = true) :
    ∃ x ∈ among, neighbour = some x := by
  obtain ⟨hne, hall⟩ := Bool.and_eq_true_iff.1 ha
  rw [Bool.not_eq_true'] at hne
  unfold takes at h
  rw [hne, if_neg Bool.false_ne_true] at h
  obtain ⟨x, rfl, hx⟩ := (Option.any_eq_true _ _).1 h
  exact ⟨x, List.contains_iff_mem.1 (List.all_eq_true.1 hall x (List.contains_iff_mem.1 hx)), rfl⟩

theorem between_of_rule {symbol s : String}
    (hs : (symbol == s && t.asks [a] r.left && t.asks among r.right) = true)
    (ha : t.admits left right r = true) :
    symbol = s ∧ left = some a ∧ ∃ c ∈ among, right = some c := by
  obtain ⟨hs, hright⟩ := Bool.and_eq_true_iff.1 hs
  obtain ⟨hsymbol, hleft⟩ := Bool.and_eq_true_iff.1 hs
  obtain ⟨hal, har⟩ := Bool.and_eq_true_iff.1 ha
  obtain ⟨x, hx, rfl⟩ := mem_of_asks hleft hal
  rw [List.mem_singleton.1 hx]
  exact ⟨beq_iff_eq.1 hsymbol, rfl, mem_of_asks hright har⟩

theorem names_eq {p : Pronunciation} (h : t.templatesOf p = some xs) :
    t.names constant p = xs.any (·.names constant) := by
  rw [names, h, Option.getD_some]

theorem Voices.near (hc : t.Confines constant among spared)
    (hv : t.Voices left symbol right selection xs) (hx : xs.any (·.names constant) = true) :
    symbol ∈ among ∨ (∃ x ∈ among, left = some x) ∨ (∃ x ∈ among, right = some x) ∨
      ∃ r, spared symbol r = true ∧ t.admits left right r = true := by
  by_cases hs : symbol ∈ among
  · exact .inl hs
  refine .inr ?_
  cases hv with
  | elided => cases hx
  | unmatched => cases hx
  | elsewhere hl _ hp ht =>
    have hnames := (hc _ (mem_of_lookup hl) hs).1 _ hp
    rw [names_eq ht, hx] at hnames
    cases hnames
  | rule hl hr ha hp ht =>
    obtain ⟨hleft, hright⟩ := Bool.and_eq_true_iff.1 ha
    rcases (hc _ (mem_of_lookup hl) hs).2 _ hr _ hp ((names_eq ht).trans hx) with h | h | h
    · exact .inl (mem_of_asks h hleft)
    · exact .inr (.inl (mem_of_asks h hright))
    · exact .inr (.inr ⟨_, h, ha⟩)

/-- A token that comes to a constant is near a symbol that the constant is confined to, or a rule
for it is spared. -/
theorem Voiced.near {k : Nat} {r : Realization} (h : t.Voiced tokens u)
    (hc : t.Confines constant among spared) (hr : u.realizations[k]? = some r)
    (hx : r.templates.any (·.names constant) = true) :
    Near among tokens k ∨ ∃ c, spared r.token.text c = true ∧
      t.admits (Model.leftOf tokens k) (Model.rightOf tokens k) c = true := by
  rcases (h.voices k r hr).near hc hx with hs | ⟨x, hm, hl⟩ | ⟨x, hm, hl⟩ | hs
  · exact .inl ⟨_, hs, .inl (by rw [h.token_eq hr]; rfl)⟩
  · exact .inl ⟨x, hm, .inr (.inl hl)⟩
  · exact .inl ⟨x, hm, .inr (.inr hl)⟩
  · exact .inr hs

end Table

namespace Whistle
open Model Work

def membersOf (name : String) : List String := (classes.lookup name).getD []

def acutes : List String := membersOf "A"

def mids : List String := membersOf "M"

def graves : List String := membersOf "G"

theorem confines_grave : table.Confines "G_LOCUS" graves fun _ _ => false := by decide +kernel

def strays (symbol : String) (r : ContextRule) : Bool :=
  symbol == "e" && table.asks ["b"] r.left && table.asks mids r.right

theorem confines_acute : table.Confines "A_LOCUS" acutes strays := by decide +kernel

theorem schwa_sounds : ∀ r ∈ schwa.rules, r.pronunciation.isSome = true ∧
    ∀ p ∈ r.pronunciation, ∀ xs ∈ table.templatesOf p, xs.isEmpty = false := by
  decide +kernel

/-- The schwa has the pronunciation of a rule, or none where no rule admits its neighbours. -/
theorem voices_schwa (h : table.Voices left "e" right selection xs) :
    (∃ r ∈ schwa.rules, table.admits left right r = true ∧ ∃ i p, r.pronunciation = some p ∧
      selection = .rule i p ∧ table.templatesOf p = some xs) ∨
      selection = .unmatched ∧ ∀ r ∈ schwa.rules, table.admits left right r = false := by
  have hschwa {g : Grapheme} (hl : table.graphemes.lookup "e" = some g) : g = schwa :=
    (Option.some.inj hl).symm
  cases h with
  | rule hl hr ha hp ht =>
    cases hschwa hl
    exact .inl ⟨_, hr, ha, _, _, hp, rfl, ht⟩
  | elided hl hr _ hp =>
    cases hschwa hl
    have hsome := (schwa_sounds _ hr).1
    rw [hp] at hsome
    cases hsome
  | elsewhere hl _ hp =>
    cases hschwa hl
    cases hp
  | unmatched hl hn =>
    cases hschwa hl
    exact .inr ⟨rfl, hn⟩

theorem voices_schwa_of_admits (ha : ∃ r ∈ schwa.rules, table.admits left right r = true)
    (h : table.Voices left "e" right selection xs) :
    ∃ r ∈ schwa.rules, table.admits left right r = true ∧
      ∃ p ∈ r.pronunciation, table.templatesOf p = some xs := by
  obtain ⟨r, hr, ha⟩ := ha
  rcases voices_schwa h with ⟨r, hr, ha, -, p, hp, -, ht⟩ | ⟨-, hnone⟩
  · exact ⟨r, hr, ha, p, hp, ht⟩
  · rw [hnone r hr] at ha
    cases ha

section Places

def Strays (tokens : List Token) (k : Nat) : Prop :=
  tokens[k]?.map (·.text) = some "e" ∧ leftOf tokens k = some "b" ∧
    ∃ c ∈ mids, rightOf tokens k = some c

theorem Strays.not_near (h : Strays tokens k) : ¬ Near acutes tokens k := by
  obtain ⟨hsymbol, hleft, c, hc, hright⟩ := h
  have hdisjoint : ∀ c ∈ mids, c ∉ acutes := by decide
  rintro ⟨x, hx, h | h | h⟩
  · rw [hsymbol, Option.some.injEq] at h
    subst h
    exact absurd hx (by decide)
  · rw [hleft, Option.some.injEq] at h
    subst h
    exact absurd hx (by decide)
  · rw [hright, Option.some.injEq] at h
    exact hdisjoint c hc (h ▸ hx)

theorem schwa_strays : ∀ c ∈ mids,
    (∃ r ∈ schwa.rules, table.admits (some "b") (some c) r = true) ∧
      ∀ r ∈ schwa.rules, table.admits (some "b") (some c) r = true →
        ∀ p ∈ r.pronunciation, table.names "A_LOCUS" p = true := by
  decide +kernel

theorem names_of_strays (hc : c ∈ mids)
    (h : table.Voices (some "b") "e" (some c) selection xs) :
    xs.any (·.names "A_LOCUS") = true := by
  obtain ⟨hadmits, hnames⟩ := schwa_strays c hc
  obtain ⟨r, hr, ha, p, hp, ht⟩ := voices_schwa_of_admits hadmits h
  exact (Table.names_eq ht).symm.trans (hnames r hr ha p hp)

theorem strays_of_rule (hs : strays symbol r = true) (ha : table.admits left right r = true) :
    symbol = "e" ∧ left = some "b" ∧ ∃ c ∈ mids, right = some c :=
  Table.between_of_rule hs ha

/-- A token comes to the acute locus away from acute consonants exactly if it is a schwa between `b`
and a mid consonant, and to the grave locus only next to a grave consonant or as one. -/
theorem near_of_names (history : List Request) (s : Settings) (tokens : List Token) (position : Int)
    (hs : ∀ token ∈ tokens, token.text ∈ alphabet) :
    ∃ word u, ((ofTable table).compileTokens s tokens position).outcome
        ((ofTable table).after history) = .ok word ∧ word.outcome = .ok u ∧
      u.realizations.map (·.token) = tokens ∧ ∀ k r, u.realizations[k]? = some r →
        (r.templates.any (·.names "A_LOCUS") = true ∧ ¬ Near acutes tokens k ↔ Strays tokens k) ∧
        (r.templates.any (·.names "G_LOCUS") = true → Near graves tokens k) := by
  obtain ⟨u, hu, hv⟩ := Table.compileTokensOf_voiced isClosed_table hs history s _ _
  refine ⟨_, u, hu, rfl, hv.tokens_eq, fun k r hr => ⟨⟨?_, ?_⟩, fun hx => ?_⟩⟩
  · rintro ⟨hx, hfar⟩
    obtain ⟨c, hc, ha⟩ := (hv.near confines_acute hr hx).resolve_left hfar
    obtain ⟨hsymbol, hneighbours⟩ := strays_of_rule hc ha
    exact ⟨by rw [hv.token_eq hr, Option.map_some, hsymbol], hneighbours⟩
  · intro h
    obtain ⟨hsymbol, hleft, c, hc, hright⟩ := id h
    have hvoices := hv.voices k r hr
    rw [hv.token_eq hr, Option.map_some, Option.some.injEq] at hsymbol
    rw [hsymbol, hleft, hright] at hvoices
    exact ⟨names_of_strays hc hvoices, h.not_near⟩
  · rcases hv.near confines_grave hr hx with h | ⟨c, hc, _⟩
    · exact h
    · cases hc

def bek : List Token := [{ text := "b" }, { text := "e" }, { text := "k" }]

theorem near_of_names_bek :
    (∀ token ∈ bek, token.text ∈ alphabet) ∧
      ∃ word u r, ((ofTable table).compileTokens {} bek).outcome
          ((ofTable table).after [.resolveClass "SV"]) = .ok word ∧ word.outcome = .ok u ∧
        u.realizations[1]? = some r ∧ r.templates.any (·.names "A_LOCUS") = true ∧
        ¬ Near acutes bek 1 := by
  have hs : ∀ token ∈ bek, token.text ∈ alphabet := by decide +kernel
  obtain ⟨word, u, hword, hu, htokens, h⟩ := near_of_names [.resolveClass "SV"] {} bek 0 hs
  obtain ⟨r, hr, _⟩ := exists_realization htokens (show bek[1]? = some { text := "e" } from rfl)
  have hstrays : Strays bek 1 := ⟨rfl, rfl, "k", by decide, rfl⟩
  exact ⟨hs, word, u, r, hword, hu, hr, (h 1 r hr).1.2 hstrays⟩

end Places

section Elision

def consonantal : List String := consonants.map (·.1)

theorem elided_by_schwas : ∀ entry ∈ table.graphemes, ∀ r ∈ entry.2.rules,
    r.pronunciation.isNone = true →
      table.asks ["e"] r.right = true ∧
        (r.left.isEmpty = true ∨ table.asks ["e"] r.left = true) := by
  decide +kernel

theorem consonant_by_schwas : ∀ entry ∈ table.graphemes, entry.1 ∈ consonantal →
    ∀ left ∈ [none, some "e"], (∃ r ∈ entry.2.rules, table.admits left (some "e") r = true) ∧
      ∀ r ∈ entry.2.rules, table.admits left (some "e") r = true →
        r.pronunciation.isNone = true := by
  decide +kernel

theorem neighbours_of_elided (h : table.Voices left symbol right (.elided i) xs) :
    right = some "e" ∧ left ∈ [none, some "e"] := by
  cases h with
  | elided hl hr ha hp =>
    obtain ⟨hright, hleft⟩ :=
      elided_by_schwas _ (mem_of_lookup hl) _ hr (Option.isNone_iff_eq_none.2 hp)
    obtain ⟨hal, har⟩ := Bool.and_eq_true_iff.1 ha
    obtain ⟨x, hx, rfl⟩ := Table.mem_of_asks hright har
    refine ⟨by rw [List.mem_singleton.1 hx], ?_⟩
    rcases hleft with hleft | hleft
    · unfold Table.takes at hal
      rw [if_pos hleft] at hal
      rw [Option.isNone_iff_eq_none.1 hal]
      exact List.mem_cons_self
    · obtain ⟨y, hy, rfl⟩ := Table.mem_of_asks hleft hal
      rw [List.mem_singleton.1 hy]
      exact List.mem_cons_of_mem _ List.mem_cons_self

theorem elided_iff (hc : c ∈ consonantal) (h : table.Voices left c right selection xs) :
    (∃ i, selection = .elided i) ↔ right = some "e" ∧ left ∈ [none, some "e"] := by
  constructor
  · rintro ⟨i, rfl⟩
    exact neighbours_of_elided h
  · rintro ⟨rfl, hl⟩
    have hrules {g : Grapheme} (hg : table.graphemes.lookup c = some g) :=
      consonant_by_schwas _ (mem_of_lookup hg) hc left hl
    cases h with
    | rule hg hr ha hp =>
      have hnone := (hrules hg).2 _ hr ha
      rw [hp] at hnone
      cases hnone
    | elided => exact ⟨_, rfl⟩
    | elsewhere hg hn =>
      obtain ⟨r, hr, ha⟩ := (hrules hg).1
      rw [hn r hr] at ha
      cases ha
    | unmatched hg hn =>
      obtain ⟨r, hr, ha⟩ := (hrules hg).1
      rw [hn r hr] at ha
      cases ha

def Muted (tokens : List Token) (k : Nat) : Prop :=
  (∃ c ∈ mids, leftOf tokens k = some c) ∧ ∃ c ∈ mids, rightOf tokens k = some c

/-- After a consonant the schwa has a rule at the end of a word and before every consonant, but for
two mid ones. -/
theorem schwa_admits : ∀ c ∈ consonantal,
    (∃ r ∈ schwa.rules, table.admits (some c) none r = true) ∧
      ∀ d ∈ consonantal, (∃ r ∈ schwa.rules, table.admits (some c) (some d) r = true) ↔
        ¬ (c ∈ mids ∧ d ∈ mids) := by
  decide +kernel

theorem exists_rule_iff {k : Nat} (hc : c ∈ consonantal) (hleft : leftOf tokens k = some c)
    (hright : rightOf tokens k = none ∨ ∃ d ∈ consonantal, rightOf tokens k = some d) :
    (∃ r ∈ schwa.rules, table.admits (leftOf tokens k) (rightOf tokens k) r = true) ↔
      ¬ Muted tokens k := by
  obtain ⟨hend, hpairs⟩ := schwa_admits c hc
  unfold Muted
  rw [hleft]
  rcases hright with hright | ⟨d, hd, hright⟩
  · simp [hright, hend]
  · rw [hright, hpairs d hd]
    simp

/-- A consonant is dropped between two schwas and at the beginning of a word before a schwa. At the
end of the word or before another consonant that schwa then has segments by one of its rules, unless
it stands between two mid consonants; there it has no rule. -/
theorem elided_schwa (history : List Request) (s : Settings) (tokens : List Token) (position : Int)
    (hs : ∀ token ∈ tokens, token.text ∈ alphabet) :
    ∃ word u, ((ofTable table).compileTokens s tokens position).outcome
        ((ofTable table).after history) = .ok word ∧ word.outcome = .ok u ∧
      u.realizations.map (·.token) = tokens ∧ ∀ k r, u.realizations[k]? = some r →
        r.token.text ∈ consonantal →
        ((∃ i, r.selection = .elided i) ↔
          rightOf tokens k = some "e" ∧ leftOf tokens k ∈ [none, some "e"]) ∧
        ((∃ i, r.selection = .elided i) →
          ∃ r', u.realizations[k + 1]? = some r' ∧ r'.token.text = "e" ∧
            (rightOf tokens (k + 1) = none ∨
                (∃ d ∈ consonantal, rightOf tokens (k + 1) = some d) →
              Muted tokens (k + 1) ∧ r'.selection = .unmatched ∨
                ¬ Muted tokens (k + 1) ∧ (∃ i p, r'.selection = .rule i p) ∧
                  r'.templates.isEmpty = false)) := by
  obtain ⟨u, hu, hv⟩ := Table.compileTokensOf_voiced isClosed_table hs history s _ _
  refine ⟨_, u, hu, rfl, hv.tokens_eq, fun k r hr hc => ?_⟩
  have helided := elided_iff hc (hv.voices k r hr)
  refine ⟨helided, fun he => ?_⟩
  obtain ⟨token, ht, hschwa⟩ := Option.map_eq_some_iff.1 (helided.1 he).1
  obtain ⟨r', hr', rfl⟩ := exists_realization hv.tokens_eq ht
  refine ⟨r', hr', hschwa, fun hright => ?_⟩
  have hleft : leftOf tokens (k + 1) = some r.token.text := by
    rw [leftOf, if_neg (Nat.succ_ne_zero k), Nat.add_sub_cancel, hv.token_eq hr, Option.map_some]
  have hrule := exists_rule_iff hc hleft hright
  have hvoices := hv.voices (k + 1) r' hr'
  rw [hschwa] at hvoices
  rcases voices_schwa hvoices with ⟨c, hc, ha, i, p, hp, hselection, ht⟩ | ⟨hselection, hnone⟩
  · exact .inr ⟨hrule.1 ⟨c, hc, ha⟩, ⟨i, p, hselection⟩, (schwa_sounds c hc).2 p hp _ ht⟩
  · refine .inl ⟨?_, hselection⟩
    by_contra hmuted
    obtain ⟨c, hc, ha⟩ := hrule.2 hmuted
    rw [hnone c hc] at ha
    cases ha

theorem elided_schwa_kek :
    (∀ token ∈ kek, token.text ∈ alphabet) ∧
      ∃ word u r r', ((ofTable table).compileTokens {} kek).outcome
          ((ofTable table).after [.resolveClass "SV"]) = .ok word ∧ word.outcome = .ok u ∧
        u.realizations[0]? = some r ∧ (∃ i, r.selection = .elided i) ∧
        u.realizations[1]? = some r' ∧ r'.selection = .unmatched := by
  have hs : ∀ token ∈ kek, token.text ∈ alphabet := by decide +kernel
  obtain ⟨word, u, hword, hu, htokens, h⟩ := elided_schwa [.resolveClass "SV"] {} kek 0 hs
  obtain ⟨r, hr, ht⟩ := exists_realization htokens (show kek[0]? = some { text := "k" } from rfl)
  obtain ⟨helided, hnext⟩ := h 0 r hr (by rw [ht]; decide)
  have he := helided.2 ⟨rfl, List.mem_cons_self⟩
  obtain ⟨r', hr', _, hschwa⟩ := hnext he
  have hmuted : Muted kek 1 := ⟨⟨"k", by decide, rfl⟩, "k", by decide, rfl⟩
  rcases hschwa (.inr ⟨"k", by decide, rfl⟩) with ⟨_, hselection⟩ | ⟨hn, _⟩
  · exact ⟨hs, word, u, r, r', hword, hu, hr, he, hr', hselection⟩
  · exact absurd hmuted hn

end Elision

end Whistle

end Silbo
