import Silbo.Proofs.Selection

/-!
How far a word is looked ahead. A token is realized between its two neighbours, and a run through
the first tokens of a word knows nothing but these and the one behind them. So two words that begin
alike run alike up to the last token before the one where they part, and if one of them fails on the
way, both do.
-/
namespace Silbo.Model
open Work

/-- The first token of a word to fail is the one with an index. -/
inductive Fails (m : Model) (s : Settings) (tokens : List Token) (i : Nat) (e : Error) : Prop where
  | intro : Advances m s tokens i realizations row →
      Produces m s tokens i (ambientAfter {} row) (.error e) → Fails m s tokens i e

/-- The first realizations of an utterance, with the segments that they alone come to. -/
structure Begins (m : Model) (s : Settings) (tokens : List Token) (k : Nat)
    (u start : Utterance) : Prop where
  tokens_eq : start.realizations.map (·.token) = tokens.take k
  realizations_eq : start.realizations = u.realizations.take k
  segments_eq : m.segments s.segmentMilliseconds {} (start.realizations.flatMap (·.templates)) =
    .ok start.segments
  segments_prefix : start.segments <+: u.segments

variable {m : Model} {s : Settings} {tokens tokens' : List Token} {i k n : Nat}

section Neighbours

theorem realizeIndex_congr (m : Model) {i j : Nat} (htoken : tokens[i]? = tokens'[j]?)
    (hleft : leftOf tokens i = leftOf tokens' j) (hright : rightOf tokens i = rightOf tokens' j) :
    m.realizeIndex tokens i = m.realizeIndex tokens' j := by
  unfold leftOf rightOf at *
  rw [realizeIndex_natCast, realizeIndex_natCast, htoken, hleft, hright]

theorem realizeIndex_steady (m : Model) (tokens : List Token) (i : Nat) :
    Steady m.Sound (m.realizeIndex tokens i) := by
  rcases realizeIndex_cases m tokens i with hi | ⟨left, token, right, -, hi⟩
  · rw [hi]
    exact steady_throw _
  · rw [hi]
    exact ((grounded_steady m).realize left token right).orFault

theorem getElem?_eq_of_take (h : tokens.take n = tokens'.take n) (hi : i < n) :
    tokens[i]? = tokens'[i]? := by
  rw [← List.getElem?_take_of_lt hi, h, List.getElem?_take_of_lt hi]

theorem realizeIndex_eq_of_take (m : Model) (h : tokens.take (k + 1) = tokens'.take (k + 1))
    (hi : i < k) : m.realizeIndex tokens i = m.realizeIndex tokens' i := by
  have hat {j : Nat} (hj : j ≤ k) : tokens[j]? = tokens'[j]? :=
    getElem?_eq_of_take h (Nat.lt_succ_of_le hj)
  refine realizeIndex_congr m (hat (Nat.le_of_lt hi)) ?_ ?_
  · unfold leftOf
    rw [hat (by omega)]
  · unfold rightOf
    rw [hat hi]

end Neighbours

section Runs

theorem Produces.congr (h : Produces m s tokens i ambient result)
    (heq : m.realizeIndex tokens i = m.realizeIndex tokens' i) :
    Produces m s tokens' i ambient result := by
  cases h with
  | produced hr hs => exact .produced (heq ▸ hr) hs
  | unrealized hr => exact .unrealized (heq ▸ hr)
  | unsegmented hr hs => exact .unsegmented (heq ▸ hr) hs

theorem Produces.deterministic (h : Produces m s tokens i ambient a)
    (h' : Produces m s tokens i ambient b) : a = b := by
  cases h with
  | produced hr hs =>
    cases h' with
    | produced hr' hs' =>
      cases hr.symm.trans hr'
      cases hs.symm.trans hs'
      rfl
    | unrealized hr' => cases hr.symm.trans hr'
    | unsegmented hr' hs' =>
      cases hr.symm.trans hr'
      cases hs.symm.trans hs'
  | unrealized hr =>
    cases h' with
    | produced hr' | unsegmented hr' => cases hr.symm.trans hr'
    | unrealized hr' =>
      cases hr.symm.trans hr'
      rfl
  | unsegmented hr hs =>
    cases h' with
    | produced hr' hs' =>
      cases hr.symm.trans hr'
      cases hs.symm.trans hs'
    | unrealized hr' => cases hr.symm.trans hr'
    | unsegmented hr' hs' =>
      cases hr.symm.trans hr'
      cases hs.symm.trans hs'
      rfl

theorem Produces.exists_token (h : Produces m s tokens i ambient result) :
    ∃ token, tokens[i]? = some token := by
  rcases realizeIndex_cases m tokens i with hi | ⟨_, token, _, ht, _⟩
  · cases h with
    | produced hr | unrealized hr | unsegmented hr =>
      rw [hi] at hr
      cases hr
  · exact ⟨token, ht⟩

theorem Advances.inv (h : Advances m s tokens (i + 1) realizations row) :
    ∃ before produced r more, realizations = before ++ [r] ∧ row = produced ++ more ∧
      Advances m s tokens i before produced ∧
      Produces m s tokens i (ambientAfter {} produced) (.ok (r, more)) := by
  cases h with
  | step h hp => exact ⟨_, _, _, _, rfl, rfl, h, hp⟩

/-- Words that begin alike run alike as long as the next token is one of those in common. -/
theorem Advances.congr (h : Advances m s tokens i realizations row)
    (heq : tokens.take (k + 1) = tokens'.take (k + 1)) (hi : i ≤ k) :
    Advances m s tokens' i realizations row := by
  induction h with
  | start => exact .start
  | step _ hp ih => exact .step (ih (by omega)) (hp.congr (realizeIndex_eq_of_take m heq hi))

theorem Advances.deterministic (h : Advances m s tokens i a row)
    (h' : Advances m s tokens i b row') : a = b ∧ row = row' := by
  induction h generalizing b row' with
  | start =>
    cases h'
    exact ⟨rfl, rfl⟩
  | step _ hp ih =>
    obtain ⟨before, produced, r, more, rfl, rfl, h', hp'⟩ := h'.inv
    obtain ⟨rfl, rfl⟩ := ih h'
    cases hp.deterministic hp'
    exact ⟨rfl, rfl⟩

theorem Advances.take (h : Advances m s tokens n realizations row) (k : Nat) :
    ∃ produced, Advances m s tokens (min k n) (realizations.take k) produced ∧
      produced <+: row := by
  induction h with
  | start => exact ⟨[], by simpa using .start, List.prefix_rfl⟩
  | @step n realizations row r more h hp ih =>
    have hlength : realizations.length = n := h.realizes.1
    by_cases hk : k ≤ n
    · obtain ⟨produced, htake, hprefix⟩ := ih
      refine ⟨produced, ?_, List.prefix_append_of_prefix hprefix⟩
      rw [List.take_append_of_le_length (by omega), Nat.min_eq_left (by omega)]
      rwa [Nat.min_eq_left hk] at htake
    · refine ⟨row ++ more, ?_, List.prefix_rfl⟩
      rw [List.take_of_length_le (by simp; omega), Nat.min_eq_right (by omega)]
      exact .step h hp

theorem Advances.begins {u : Utterance}
    (h : Advances m s tokens tokens.length u.realizations u.segments) (k : Nat) :
    ∃ start, Advances m s tokens (min k tokens.length) start.realizations start.segments ∧
      Begins m s tokens k u start := by
  obtain ⟨produced, htake, hprefix⟩ := h.take k
  refine ⟨⟨u.realizations.take k, produced⟩, htake, ?_, rfl, htake.segments_eq, hprefix⟩
  rw [htake.tokens_eq, ← List.take_eq_take_min]

end Runs

section Failures

theorem Fails.le (h : Fails m s tokens i e) (ha : Advances m s tokens n realizations row) :
    n ≤ i := by
  by_contra hn
  obtain ⟨hfirst, hfails⟩ := h
  obtain ⟨produced, htake, -⟩ := ha.take (i + 1)
  rw [Nat.min_eq_left (by omega)] at htake
  obtain ⟨_, _, _, _, -, -, hbefore, hp⟩ := htake.inv
  obtain ⟨-, rfl⟩ := hfirst.deterministic hbefore
  cases hfails.deterministic hp

theorem Fails.unique (h : Fails m s tokens i e) (h' : Fails m s tokens j e') :
    i = j ∧ e = e' := by
  obtain ⟨ha, hp⟩ := id h
  obtain ⟨ha', hp'⟩ := id h'
  obtain rfl : i = j := Nat.le_antisymm (h'.le ha) (h.le ha')
  obtain ⟨-, rfl⟩ := ha.deterministic ha'
  cases hp.deterministic hp'
  exact ⟨rfl, rfl⟩

theorem Fails.congr (h : Fails m s tokens i e)
    (heq : tokens.take (k + 1) = tokens'.take (k + 1)) (hi : i < k) : Fails m s tokens' i e := by
  obtain ⟨ha, hp⟩ := h
  exact ⟨ha.congr heq (Nat.le_of_lt hi), hp.congr (realizeIndex_eq_of_take m heq hi)⟩

theorem Fails.exists_token (h : Fails m s tokens i e) : ∃ token, tokens[i]? = some token := by
  obtain ⟨_, hp⟩ := h
  exact hp.exists_token

theorem Fails.compiles (h : Fails m s tokens i e) (ht : tokens[i]? = some token)
    (hc : Compiles m s text position tokens result) :
    result = .error (e.annotate (some text) (some token.position)) := by
  cases hc with
  | compiled ha =>
    have hlength := h.le ha
    obtain ⟨hi, _⟩ := List.getElem?_eq_some_iff.1 ht
    omega
  | failed ha ht' hp =>
    obtain ⟨rfl, rfl⟩ := h.unique ⟨ha, hp⟩
    rw [ht, Option.some.injEq] at ht'
    rw [ht']

end Failures

theorem compileTokens_compiles (m : Model) (s : Settings) (history : List Request)
    (tokens : List Token) (position : Int) :
    Compiles m s ("".intercalate (tokens.map (·.text)))
      ((tokens.head?.map (·.position)).getD position) tokens
      ((m.compileTokens s tokens position).outcome (m.after history)) :=
  (compileTokensOf_ensures m s _ _ tokens _ (sound_after m history)).1

theorem exists_fails_iff (m : Model) (s : Settings) (history : List Request)
    (tokens : List Token) (position : Int) :
    (∃ error, (m.compileTokens s tokens position).outcome (m.after history) = .error error) ↔
      ∃ i e, Fails m s tokens i e := by
  have hc := compileTokens_compiles m s history tokens position
  constructor
  · rintro ⟨error, he⟩
    rw [he] at hc
    cases hc with
    | failed ha _ hp => exact ⟨_, _, ha, hp⟩
  · rintro ⟨i, e, h⟩
    obtain ⟨token, ht⟩ := h.exists_token
    exact ⟨_, h.compiles ht hc⟩

/-- A word is compiled with one token of look-ahead. Two words with `k + 1` tokens in common share
the first `k` realizations and the segments of these if both compile, and if a token before the
last in common is the first to fail in one of them, it is in the other, with the same error at the
same position. A realization depends on its token and the neighbours of it alone. -/
theorem compileTokens_lookahead (m : Model) (s : Settings) (history history' : List Request)
    (tokens tokens' : List Token) (position position' : Int) :
    (∀ k, tokens.take (k + 1) = tokens'.take (k + 1) →
      (∀ word word', (m.compileTokens s tokens position).outcome (m.after history) = .ok word →
        (m.compileTokens s tokens' position').outcome (m.after history') = .ok word' →
          ∃ u u' start, word.outcome = .ok u ∧ word'.outcome = .ok u' ∧
            Begins m s tokens k u start ∧ Begins m s tokens' k u' start) ∧
        ∀ i < k, ∀ e, Fails m s tokens i e → Fails m s tokens' i e ∧ ∃ error error',
          (m.compileTokens s tokens position).outcome (m.after history) = .error error ∧
            (m.compileTokens s tokens' position').outcome (m.after history') = .error error' ∧
              error.cause = e.cause ∧ error'.cause = e.cause ∧
                error'.position = error.position) ∧
      ((∃ error, (m.compileTokens s tokens position).outcome (m.after history) = .error error) ↔
        ∃ i e, Fails m s tokens i e) ∧
      ∀ i j : Nat, tokens[i]? = tokens'[j]? → leftOf tokens i = leftOf tokens' j →
        rightOf tokens i = rightOf tokens' j →
          (m.realizeIndex tokens i).outcome (m.after history) =
            (m.realizeIndex tokens' j).outcome (m.after history') := by
  have hc := compileTokens_compiles m s history tokens position
  have hc' := compileTokens_compiles m s history' tokens' position'
  refine ⟨fun k heq => ⟨fun word word' hw hw' => ?_, fun i hi e h => ?_⟩,
    exists_fails_iff m s history tokens position, fun i j htoken hleft hright => ?_⟩
  · rw [hw] at hc
    rw [hw'] at hc'
    cases hc with
    | @compiled u hu =>
      cases hc' with
      | @compiled u' hu' =>
        obtain ⟨start, ha, hbegins⟩ := hu.begins k
        obtain ⟨start', ha', hbegins'⟩ := hu'.begins k
        have hlength : min k tokens.length = min k tokens'.length := by
          have hlength := congrArg List.length heq
          rw [List.length_take, List.length_take] at hlength
          omega
        rw [← hlength] at ha'
        obtain ⟨hrealizations, hsegments⟩ :=
          (ha.congr heq (Nat.min_le_left k _)).deterministic ha'
        obtain rfl : start = start' := by
          cases start
          cases start'
          cases hrealizations
          cases hsegments
          rfl
        exact ⟨u, u', start, rfl, rfl, hbegins, hbegins'⟩
  · have h' := h.congr heq hi
    obtain ⟨token, ht⟩ := h.exists_token
    have ht' : tokens'[i]? = some token := by rw [← ht, getElem?_eq_of_take heq (by omega)]
    exact ⟨h', _, _, h.compiles ht hc, h'.compiles ht' hc', rfl, rfl, rfl⟩
  · rw [realizeIndex_congr m htoken hleft hright,
      outcome_after (realizeIndex_steady m tokens' j) history,
      outcome_after (realizeIndex_steady m tokens' j) history']

/-- Behind the `x` there is a `b`, before which it is dropped, or an `a`, before which it has no rule. -/
theorem compileTokens_lookahead_gliding :
    let m := ofTable gliding
    let tokens : List Token := [{ text := "a" }, { text := "x" }, { text := "b" }]
    let tokens' : List Token := [{ text := "a" }, { text := "x" }, { text := "a" }]
    let u : Utterance := ⟨[realizedLevel 0, ⟨{ text := "x" }, .elided 0, []⟩, realizedGlide 0],
      [levelSegment, glideSegment]⟩
    let u' : Utterance := ⟨[realizedLevel 0, ⟨{ text := "x" }, .unmatched, []⟩, realizedLevel 0],
      [levelSegment, levelSegment]⟩
    let e : Error := ⟨.unknown "grapheme" (.text "y"), none, none⟩
    (tokens.take 2 = tokens'.take 2 ∧
        (m.compileTokens {} tokens 0).outcome (m.after []) = .ok ⟨"axb", 0, .ok u⟩ ∧
        (m.compileTokens {} tokens' 0).outcome (m.after [.compileTokens {} tokens 0]) =
          .ok ⟨"axa", 0, .ok u'⟩ ∧
        Begins m {} tokens 1 u ⟨[realizedLevel 0], [levelSegment]⟩ ∧
        Begins m {} tokens' 1 u' ⟨[realizedLevel 0], [levelSegment]⟩) ∧
      Fails m {} ({ text := "y" } :: tokens) 0 e ∧ Fails m {} ({ text := "y" } :: tokens') 0 e ∧
        (m.compileTokens {} ({ text := "y" } :: tokens) 0).outcome (m.after []) =
          .error ⟨e.cause, some "yaxb", some 0⟩ ∧
        (m.compileTokens {} ({ text := "y" } :: tokens') 0).outcome (m.after []) =
          .error ⟨e.cause, some "yaxa", some 0⟩ := by
  intro m tokens tokens' u u' e
  have hword : (m.compileTokens {} tokens 0).outcome (m.after []) = .ok ⟨"axb", 0, .ok u⟩ := by
    with_unfolding_all rfl
  have hword' : (m.compileTokens {} tokens' 0).outcome (m.after [.compileTokens {} tokens 0]) =
      .ok ⟨"axa", 0, .ok u'⟩ := by
    with_unfolding_all rfl
  have hfails : Fails m {} ({ text := "y" } :: tokens) 0 e :=
    ⟨.start, .unrealized (by with_unfolding_all rfl)⟩
  obtain ⟨v, v', start, hv, hv', hbegins, hbegins'⟩ :=
    ((compileTokens_lookahead m {} [] [.compileTokens {} tokens 0] tokens tokens' 0 0).1 1
      (by decide)).1 _ _ hword hword'
  cases hv
  cases hv'
  have hstart : start = ⟨[realizedLevel 0], [levelSegment]⟩ := by
    have hsegments : m.segments (.real 100) {} [level] = .ok [levelSegment] := by with_unfolding_all rfl
    have hrealizations := hbegins.realizations_eq
    have hrow := hbegins.segments_eq
    rw [hrealizations] at hrow
    cases start
    cases hrealizations
    cases hsegments.symm.trans hrow
    rfl
  obtain ⟨hfails', -⟩ :=
    ((compileTokens_lookahead m {} [] [] ({ text := "y" } :: tokens) ({ text := "y" } :: tokens')
      0 0).1 1 (by decide)).2 0 (by decide) e hfails
  have hconcrete : (m.compileTokens {} ({ text := "y" } :: tokens) 0).outcome (m.after []) =
      .error ⟨e.cause, some "yaxb", some 0⟩ := by
    with_unfolding_all rfl
  have hconcrete' : (m.compileTokens {} ({ text := "y" } :: tokens') 0).outcome (m.after []) =
      .error ⟨e.cause, some "yaxa", some 0⟩ := by
    with_unfolding_all rfl
  rw [hstart] at hbegins hbegins'
  exact ⟨⟨by decide, hword, hword', hbegins, hbegins'⟩, hfails, hfails', hconcrete, hconcrete'⟩

end Silbo.Model
