import Silbo.Proofs.History

/-!
Segments on a thread. The segments of a word are those of all its templates in a row, the first of
which follows silence: a token that has no segments leaves no trace between its neighbours. Behind
this is the run of a word, token by token, up to its end or to the first token that fails.
-/
namespace Silbo
open Work (bind_eq_ok)

/-- A motion that sets in at the value it finds: no motion at all, a transition that gives no start,
or a contour. -/
inductive Inherits : Option Motion → Prop where
  | held : Inherits none
  | transition : Inherits (some (.transition none stop curve))
  | contour : Inherits (some (.contour peak stop curve))

/-- What the segment with an index finds: what the one before it leaves behind. -/
def ambientBefore (ambient : Ambient) (segments : List Segment) : Nat → Ambient
  | 0 => ambient
  | k + 1 => (segments[k]?.map Segment.ambient).getD ambient

/-- A segment that a template has at an ambient. -/
structure Follows (defaultMilliseconds : Number) (ambient : Ambient) (t : SegmentTemplate)
    (x : Segment) : Prop where
  formant : Inherits t.formant → x.formant.start = ambient.formant
  amplitude : Inherits t.amplitude → x.amplitude.start = ambient.amplitude
  duration : x.duration = (t.milliseconds.map .real).getD defaultMilliseconds
  formant_duration : x.formant.duration = x.duration
  amplitude_duration : x.amplitude.duration = x.duration

section Rows

variable {m : Model} {ambient : Ambient}

theorem ambientAfter_cons (ambient : Ambient) (x : Segment) (segments : List Segment) :
    ambientAfter ambient (x :: segments) = ambientAfter x.ambient segments := by
  unfold ambientAfter
  rw [List.getLast?_cons]
  cases segments.getLast? <;> rfl

theorem ambientAfter_append (ambient : Ambient) (first later : List Segment) :
    ambientAfter ambient (first ++ later) = ambientAfter (ambientAfter ambient first) later := by
  induction first generalizing ambient with
  | nil => rfl
  | cons x first ih => rw [List.cons_append, ambientAfter_cons, ambientAfter_cons, ih]

theorem ambientBefore_cons {segments : List Segment} (h : k ≤ segments.length) :
    ambientBefore ambient (x :: segments) (k + 1) = ambientBefore x.ambient segments k := by
  cases k with
  | zero => rfl
  | succ k =>
    have hk : segments[k]? = some segments[k] := List.getElem?_eq_getElem h
    simp [ambientBefore, hk]

theorem segments_append (m : Model) (d : Number) (ambient : Ambient)
    (first later : List SegmentTemplate) :
    m.segments d ambient (first ++ later) =
      m.segments d ambient first >>= fun xs =>
        (m.segments d (ambientAfter ambient xs) later).map (xs ++ ·) := by
  induction first generalizing ambient with
  | nil =>
    show m.segments d ambient later = (m.segments d ambient later).map ([] ++ ·)
    cases m.segments d ambient later <;> rfl
  | cons t first ih =>
    rw [List.cons_append, Model.segments, Model.segments]
    cases m.segment d ambient t with
    | error e => rfl
    | ok x =>
      show (m.segments d x.ambient (first ++ later) >>= fun xs => pure (x :: xs)) =
        (m.segments d x.ambient first >>= fun xs => pure (x :: xs)) >>= _
      rw [ih]
      cases m.segments d x.ambient first with
      | error e => rfl
      | ok xs =>
        show ((m.segments d (ambientAfter x.ambient xs) later).map (xs ++ ·) >>= _) =
          (m.segments d (ambientAfter ambient (x :: xs)) later).map (x :: xs ++ ·)
        rw [ambientAfter_cons]
        cases m.segments d (ambientAfter x.ambient xs) later <;> rfl

/-- How a motion that sets in at a value becomes a trajectory over a duration. -/
inductive Traces (m : Model) (incoming duration : Number) :
    Option Motion → Trajectory Number → Prop where
  | held : Traces m incoming duration none (.constant incoming duration)
  | constant : m.quantity "constant" "value" value = .ok x →
      Traces m incoming duration (some (.constant value)) (.constant x duration)
  | transition : m.quantity "transition" "end" stop = .ok y →
      Traces m incoming duration (some (.transition none stop curve))
        (.transition incoming y duration curve)
  | started : m.quantity "transition" "start" (some start) = .ok x →
      m.quantity "transition" "end" stop = .ok y →
      Traces m incoming duration (some (.transition (some start) stop curve))
        (.transition x y duration curve)
  | contour : m.quantity "contour" "peak" peak = .ok x → m.quantity "contour" "end" stop = .ok y →
      Traces m incoming duration (some (.contour peak stop curve))
        (.contour incoming x y duration curve)

theorem trajectory_traces {motion : Option Motion} {incoming duration : Number}
    (h : m.trajectory motion incoming duration = .ok r) : Traces m incoming duration motion r := by
  unfold Model.trajectory at h
  split at h
  · cases h
    exact .held
  · obtain ⟨x, hx, h⟩ := bind_eq_ok h
    cases h
    exact .constant hx
  · obtain ⟨y, hy, h⟩ := bind_eq_ok h
    cases h
    exact .transition hy
  · obtain ⟨x, hx, h⟩ := bind_eq_ok h
    obtain ⟨y, hy, h⟩ := bind_eq_ok h
    cases h
    exact .started hx hy
  · obtain ⟨x, hx, h⟩ := bind_eq_ok h
    obtain ⟨y, hy, h⟩ := bind_eq_ok h
    cases h
    exact .contour hx hy

theorem Traces.start_eq {motion : Option Motion} {incoming duration : Number}
    (h : Traces m incoming duration motion r) (hm : Inherits motion) : r.start = incoming := by
  cases hm <;> cases h <;> rfl

theorem Traces.duration_eq {motion : Option Motion} {incoming duration : Number}
    (h : Traces m incoming duration motion r) : r.duration = duration := by
  cases h <;> rfl

theorem segment_follows {d : Number} {t : SegmentTemplate} (h : m.segment d ambient t = .ok x) :
    Follows d ambient t x := by
  obtain ⟨formant, hf, h⟩ := bind_eq_ok h
  obtain ⟨amplitude, ha, h⟩ := bind_eq_ok h
  cases h
  have hf := trajectory_traces hf
  have ha := trajectory_traces ha
  exact ⟨hf.start_eq, ha.start_eq, rfl, hf.duration_eq, ha.duration_eq⟩

/-- Each segment of a row is what its template comes to after the segment before. -/
theorem segments_segment {d : Number} {templates : List SegmentTemplate} {segments : List Segment}
    (h : m.segments d ambient templates = .ok segments) :
    segments.length = templates.length ∧ ∀ k t x, templates[k]? = some t → segments[k]? = some x →
      m.segment d (ambientBefore ambient segments k) t = .ok x := by
  induction templates generalizing ambient segments with
  | nil =>
    cases h
    exact ⟨rfl, fun k t x ht => by cases ht⟩
  | cons t templates ih =>
    obtain ⟨x, hx, h⟩ := bind_eq_ok h
    obtain ⟨later, hl, h⟩ := bind_eq_ok h
    cases h
    obtain ⟨hlength, hlater⟩ := ih hl
    refine ⟨by rw [List.length_cons, List.length_cons, hlength], fun k u y hu hy => ?_⟩
    cases k with
    | zero =>
      cases hu
      cases hy
      exact hx
    | succ k =>
      rw [List.getElem?_cons_succ] at hu hy
      obtain ⟨hk, _⟩ := List.getElem?_eq_some_iff.1 hy
      rw [ambientBefore_cons (Nat.le_of_lt hk)]
      exact hlater k u y hu hy

theorem segments_follow {d : Number} {templates : List SegmentTemplate} {segments : List Segment}
    (h : m.segments d ambient templates = .ok segments) :
    segments.length = templates.length ∧ ∀ k t x, templates[k]? = some t → segments[k]? = some x →
      Follows d (ambientBefore ambient segments k) t x := by
  obtain ⟨hlength, hsegment⟩ := segments_segment h
  exact ⟨hlength, fun k t x ht hx => segment_follows (hsegment k t x ht hx)⟩

end Rows

namespace Model
open Work

variable {m : Model} {s : Settings}

/-- What the token of a word with an index comes to at an ambient. -/
inductive Produces (m : Model) (s : Settings) (tokens : List Token) (i : Nat) (ambient : Ambient) :
    Except Error (Realization × List Segment) → Prop where
  | produced : (m.realizeIndex tokens i).outcome {} = .ok r →
      m.segments s.segmentMilliseconds ambient r.templates = .ok more →
      Produces m s tokens i ambient (.ok (r, more))
  | unrealized : (m.realizeIndex tokens i).outcome {} = .error (.error e) →
      Produces m s tokens i ambient (.error e)
  | unsegmented : (m.realizeIndex tokens i).outcome {} = .ok r →
      m.segments s.segmentMilliseconds ambient r.templates = .error e →
      Produces m s tokens i ambient (.error e)

/-- The run of a word through its first tokens, with their realizations and their row of segments. -/
inductive Advances (m : Model) (s : Settings) (tokens : List Token) :
    Nat → List Realization → List Segment → Prop where
  | start : Advances m s tokens 0 [] []
  | step : Advances m s tokens i realizations row →
      Produces m s tokens i (ambientAfter {} row) (.ok (r, more)) →
      Advances m s tokens (i + 1) (realizations ++ [r]) (row ++ more)

/-- What a word comes to after a run through its first tokens. -/
inductive Utters (m : Model) (s : Settings) (tokens : List Token) (realizations : List Realization)
    (row : List Segment) : Except Error Utterance → Prop where
  | ended : Advances m s tokens tokens.length (realizations ++ u.realizations) (row ++ u.segments) →
      Utters m s tokens realizations row (.ok u)
  | failed : Advances m s tokens i before produced → tokens[i]? = some token →
      Produces m s tokens i (ambientAfter {} produced) (.error e) →
      Utters m s tokens realizations row (.error (e.annotate none (some token.position)))

/-- What a word comes to that is written `text` and stands at `position`. -/
inductive Compiles (m : Model) (s : Settings) (text : String) (position : Int)
    (tokens : List Token) : Except Error Word → Prop where
  | compiled : Advances m s tokens tokens.length u.realizations u.segments →
      Compiles m s text position tokens (.ok ⟨text, position, .ok u⟩)
  | failed : Advances m s tokens i realizations row → tokens[i]? = some token →
      Produces m s tokens i (ambientAfter {} row) (.error e) →
      Compiles m s text position tokens (.error (e.annotate (some text) (some token.position)))

/-- The segments of a word are those of the templates of all its tokens in a row. -/
structure Threaded (m : Model) (s : Settings) (tokens : List Token) (u : Utterance) : Prop where
  tokens_eq : u.realizations.map (·.token) = tokens
  /-- Each token is realized as it is by itself between its neighbours. -/
  realized : ∀ (k : Nat) r, u.realizations[k]? = some r → (m.realizeIndex tokens k).outcome {} = .ok r
  segments_eq : m.segments s.segmentMilliseconds {} (u.realizations.flatMap (·.templates)) =
    .ok u.segments
  length_eq : u.segments.length = (u.realizations.flatMap (·.templates)).length
  follows : ∀ k t x, (u.realizations.flatMap (·.templates))[k]? = some t →
    u.segments[k]? = some x → Follows s.segmentMilliseconds (ambientBefore {} u.segments k) t x

section Runs

variable {tokens : List Token}

theorem Advances.segments_eq (h : Advances m s tokens i realizations row) :
    m.segments s.segmentMilliseconds {} (realizations.flatMap (·.templates)) = .ok row := by
  induction h with
  | start => rfl
  | step _ hp ih =>
    obtain ⟨_, hmore⟩ := hp
    rw [List.flatMap_append, segments_append, ih, List.flatMap_singleton]
    show (m.segments _ _ _).map _ = _
    rw [hmore]
    rfl

theorem realizeIndex_natCast (m : Model) (tokens : List Token) (i : Nat) :
    m.realizeIndex tokens i =
      match tokens[i]? with
      | none => throw .outOfRange
      | some token =>
        (m.realize (if i = 0 then none else tokens[i - 1]?.map (·.text)) token
          (tokens[i + 1]?.map (·.text))).orFault := by
  have h0 : (0 : Int) ≤ i := Int.natCast_nonneg i
  have h1 : (0 : Int) ≤ i + 1 := by omega
  have hsucc : ((i : Int) + 1).toNat = i + 1 := rfl
  have hleft : (if 0 < (i : Int) then (tokens[(if 0 ≤ (i : Int) - 1 then (i : Int) - 1
      else i - 1 + tokens.length).toNat]?).map (·.text) else none) =
      if i = 0 then none else tokens[i - 1]?.map (·.text) := by
    cases i with
    | zero => rfl
    | succ i => simp
  have hright : (if (i : Int) + 1 < tokens.length then tokens[i + 1]?.map (·.text) else none) =
      tokens[i + 1]?.map (·.text) := by
    split
    · rfl
    · rw [List.getElem?_eq_none (by omega)]
      rfl
  unfold realizeIndex
  rw [if_neg (by omega)]
  cases ht : tokens[i]? with
  | none => simp only [if_pos h0, Int.toNat_natCast, ht]
  | some token => simp only [if_pos h0, if_pos h1, Int.toNat_natCast, hsucc, ht, hright, hleft]

theorem realizeIndex_cases (m : Model) (tokens : List Token) (i : Nat) :
    m.realizeIndex tokens i = throw .outOfRange ∨
      ∃ left token right, tokens[i]? = some token ∧
        m.realizeIndex tokens i = (m.realize left token right).orFault := by
  rw [realizeIndex_natCast]
  cases tokens[i]? with
  | none => exact .inl rfl
  | some token => exact .inr ⟨_, token, _, rfl, rfl⟩

theorem realizeIndex_append (m : Model) (before : List Token) (token : Token) (rest : List Token) :
    m.realizeIndex (before ++ token :: rest) before.length =
      (m.realize (before.getLast?.map (·.text)) token (rest.head?.map (·.text))).orFault := by
  have hleft : (if before.length = 0 then none
      else (before ++ token :: rest)[before.length - 1]?.map (·.text)) =
        before.getLast?.map (·.text) := by
    rcases List.eq_nil_or_concat before with rfl | ⟨front, last, rfl⟩
    · rfl
    · simp
  have hright : (before ++ token :: rest)[before.length + 1]? = rest.head? := by
    rw [List.getElem?_append_right (by omega), List.head?_eq_getElem?]
    simp
  rw [realizeIndex_natCast, hleft, hright]
  simp

theorem realize_token (m : Model) (left : Option String) (token : Token) (right : Option String) :
    Ensures m.Sound (m.realize left token right) fun r => ∀ a, r = .ok a → a.token = token := by
  have g := grounded_steady m
  unfold realize
  obtain ⟨_, hentry⟩ := g.entryFor token.text
  refine hentry.bind (fun entry _ => ?_) fun _ _ _ h => by cases h
  obtain ⟨_, hselect⟩ := g.select entry left right
  refine hselect.bind (fun selection _ => ?_) fun _ _ _ h => by cases h
  cases selection.pronunciation? with
  | none => exact ensures_pure fun _ h => by cases h; rfl
  | some p =>
    obtain ⟨_, hexpand⟩ := g.expand p
    refine hexpand.bind (fun templates _ => ?_) fun _ _ _ h => by cases h
    exact ensures_pure fun _ h => by cases h; rfl

theorem Produces.token_eq (h : Produces m s tokens i ambient (.ok (r, more))) :
    tokens[i]? = some r.token := by
  obtain ⟨hr, _⟩ := h
  rcases realizeIndex_cases m tokens i with hi | ⟨left, token, right, ht, hi⟩
  · rw [hi] at hr
    cases hr
  · rw [hi, outcome_orFault, mapError_eq_ok] at hr
    rw [ht, (realize_token m left token right {} sound_nil).1 r hr]

theorem Advances.tokens_eq (h : Advances m s tokens i realizations row) :
    realizations.map (·.token) = tokens.take i := by
  induction h with
  | start => rfl
  | step _ hp ih =>
    rw [List.map_append, ih, List.take_add_one, hp.token_eq]
    rfl

theorem Advances.realized (h : Advances m s tokens i realizations row) :
    realizations.length = i ∧ ∀ (k : Nat) r, realizations[k]? = some r →
      (m.realizeIndex tokens k).outcome {} = .ok r := by
  induction h with
  | start => exact ⟨rfl, fun k r hr => by cases hr⟩
  | @step i realizations row r more _ hp ih =>
    obtain ⟨hlength, hrealized⟩ := ih
    obtain ⟨hr, -⟩ := hp
    refine ⟨by rw [List.length_append, hlength, List.length_singleton], fun k r' hk => ?_⟩
    rw [List.getElem?_append] at hk
    split at hk
    · exact hrealized k r' hk
    · rw [List.getElem?_singleton] at hk
      split at hk
      · cases hk
        rwa [show k = i by omega]
      · cases hk

theorem Advances.threaded {u : Utterance}
    (h : Advances m s tokens tokens.length u.realizations u.segments) : Threaded m s tokens u := by
  have hsegments := h.segments_eq
  obtain ⟨hlength, hfollows⟩ := segments_follow hsegments
  refine ⟨?_, h.realized.2, hsegments, hlength, hfollows⟩
  rw [h.tokens_eq, List.take_length]

theorem produces_ensures (s : Settings) (ambient : Ambient)
    (ht : tokens = before ++ token :: rest) :
    Ensures m.Sound (do
        let r ← m.realize (before.getLast?.map (·.text)) token (rest.head?.map (·.text))
        let more ← Work.ofExcept (m.segments s.segmentMilliseconds ambient r.templates)
        pure (r, more))
      (Produces m s tokens before.length ambient) := by
  have hreal := ((grounded_steady m).realize (before.getLast?.map (·.text)) token
    (rest.head?.map (·.text))).settles {} sound_nil
  have hindex := congrArg (outcome · {}) (realizeIndex_append m before token rest)
  simp only [← ht, outcome_orFault] at hindex
  refine Ensures.bind hreal (fun r hr => ?_) fun e he => ?_
  · rw [← hr] at hindex
    refine Ensures.bind (settles_ofExcept _) (fun more hmore => ?_) fun e he => ?_
    · exact ensures_pure (.produced hindex hmore.symm)
    · exact .unsegmented hindex he.symm
  · rw [← he] at hindex
    exact .unrealized hindex

theorem compileFrom_ensures {before rest : List Token} (ht : tokens = before ++ rest)
    (h : Advances m s tokens before.length realizations row) :
    Ensures m.Sound
      (m.compileFrom s (before.getLast?.map (·.text)) (ambientAfter {} row) rest)
      (Utters m s tokens realizations row) := by
  induction rest generalizing before realizations row with
  | nil =>
    subst ht
    refine ensures_pure (.ended ?_)
    simpa using h
  | cons token rest ih =>
    have hi : tokens[before.length]? = some token := by simp [ht]
    unfold compileFrom
    refine (produces_ensures s _ ht).rethrow_bind ?_ fun e he => .failed h hi he
    rintro ⟨r, more⟩ hp
    -- The longer run has the next token at its end and leaves the ambient that the rest starts from.
    have hnext : Advances m s tokens (before ++ [token]).length (realizations ++ [r])
        (row ++ more) := by
      rw [List.length_append]
      exact .step h hp
    have hrest := ih (by rw [ht, List.append_assoc]; rfl) hnext
    rw [List.getLast?_concat, ambientAfter_append] at hrest
    refine Ensures.bind hrest (fun u hu => ensures_pure ?_) fun e he => ?_
    · cases hu with
      | ended hu =>
        refine .ended ?_
        simpa using hu
    · cases he with
      | failed hadv hi hp => exact .failed hadv hi hp

theorem compileTokensOf_ensures (m : Model) (s : Settings) (text : String) (position : Int)
    (tokens : List Token) :
    Ensures m.Sound (m.compileTokensOf s text position tokens)
      (Compiles m s text position tokens) := by
  have hfrom : Ensures m.Sound (m.compileFrom s none {} tokens) (Utters m s tokens [] []) :=
    compileFrom_ensures (List.nil_append tokens).symm .start
  unfold compileTokensOf
  refine hfrom.rethrow_bind (fun u hu => ?_) fun e he => ?_
  · cases hu with
    | ended hu =>
      have hdone : Compiles m s text position tokens (.ok ⟨text, position, .ok u⟩) := .compiled hu
      exact (settles_report _).bind (fun _ _ => ensures_pure hdone) (fun _ he => by cases he)
  · cases he with
    | @failed i realizations row token e h hi hp =>
      have hfailed : Compiles m s text position tokens
          (.error (e.annotate (some text) (some token.position))) := .failed h hi hp
      simpa [Error.annotate, Option.or_assoc] using hfailed

theorem compileWord_ok {w : Workspace}
    (h : (m.compileWord s text position).outcome w = .ok word) :
    ∃ tokens, m.tokenizeWord text position = .ok tokens ∧
      (m.compileTokensOf s text position tokens).outcome w = .ok word := by
  unfold compileWord at h
  cases ht : m.tokenizeWord text position with
  | error f =>
    rw [ht] at h
    cases f <;> cases h
  | ok tokens =>
    rw [ht] at h
    dsimp only at h
    rw [outcome_orFault, mapError_eq_ok] at h
    exact ⟨tokens, rfl, h⟩

end Runs

/-- The segments of a word are those of the templates of all its tokens in a row. Each of them that
gives no value to begin with begins where the one before it ended, the first at zero. -/
theorem compile_threads (m : Model) (s : Settings) (history : List Request) (word : Word) :
    (∀ text position, (m.compileWord s text position).outcome (m.after history) = .ok word →
      ∃ tokens u, m.tokenizeWord text position = .ok tokens ∧ word.outcome = .ok u ∧
        Threaded m s tokens u) ∧
      ∀ tokens position, (m.compileTokens s tokens position).outcome (m.after history) = .ok word →
        ∃ u, word.outcome = .ok u ∧ Threaded m s tokens u := by
  have htokens {text : String} {position : Int} {tokens : List Token}
      (h : (m.compileTokensOf s text position tokens).outcome (m.after history) = .ok word) :
      ∃ u, word.outcome = .ok u ∧ Threaded m s tokens u := by
    have hword := (compileTokensOf_ensures m s text position tokens _ (sound_after m history)).1
    rw [h] at hword
    cases hword with
    | compiled hu => exact ⟨_, rfl, hu.threaded⟩
  refine ⟨fun text position h => ?_, fun tokens position h => htokens h⟩
  obtain ⟨tokens, ht, hword⟩ := compileWord_ok h
  obtain ⟨u, hu, hthreaded⟩ := htokens hword
  exact ⟨tokens, u, ht, hu, hthreaded⟩

def level : SegmentTemplate where
  formant := some (.constant (some (.literal 1000)))

def glide : SegmentTemplate where
  formant := some (.transition none (some (.literal 2000)) .linear)

/-- The gesture of `b` sets in where that of `a` ends, across an `x` that is dropped between them. -/
def gliding : Table where
  symbols := [.text "a", .text "b", .text "x"]
  graphemes := [("a", { elsewhere := some (.single (.segment level)) }),
    ("b", { elsewhere := some (.single (.segment glide)) }), ("x", { rules := [⟨"a", "b", none⟩] })]

def realizedLevel (position : Int) : Realization :=
  ⟨⟨"a", false, position⟩, .elsewhere (.single (.segment level)), [level]⟩

def realizedGlide (position : Int) : Realization :=
  ⟨⟨"b", false, position⟩, .elsewhere (.single (.segment glide)), [glide]⟩

def levelSegment : Segment where
  duration := .real 100
  formant := .constant (.real 1000) (.real 100)
  amplitude := .constant (.real 0) (.real 100)

def glideSegment : Segment where
  duration := .real 100
  formant := .transition (.real 1000) (.real 2000) (.real 100) .linear
  amplitude := .constant (.real 0) (.real 100)

theorem compile_threads_gliding :
    let m := ofTable gliding
    let u : Utterance := ⟨[realizedLevel 0, ⟨⟨"x", false, 1⟩, .elided 0, []⟩, realizedGlide 2],
      [levelSegment, glideSegment]⟩
    let u' : Utterance := ⟨[realizedLevel 0, realizedGlide 0], [levelSegment, glideSegment]⟩
    (m.compileWord {} "axb").outcome (m.after []) = .ok ⟨"axb", 0, .ok u⟩ ∧
      Threaded m {} [⟨"a", false, 0⟩, ⟨"x", false, 1⟩, ⟨"b", false, 2⟩] u ∧
      (m.compileTokens {} [{ text := "a" }, { text := "b" }]).outcome (m.after []) =
        .ok ⟨"ab", 0, .ok u'⟩ ∧
      Threaded m {} [{ text := "a" }, { text := "b" }] u' := by
  intro m u u'
  have hword : (m.compileWord {} "axb").outcome (m.after []) = .ok ⟨"axb", 0, .ok u⟩ := by
    with_unfolding_all rfl
  have htokens : (m.compileTokens {} [{ text := "a" }, { text := "b" }]).outcome (m.after []) =
      .ok ⟨"ab", 0, .ok u'⟩ := by
    with_unfolding_all rfl
  obtain ⟨tokens, _, ht, hu, hthreaded⟩ := (compile_threads m {} [] _).1 "axb" 0 hword
  obtain ⟨_, hu', hthreaded'⟩ := (compile_threads m {} [] _).2 _ 0 htokens
  cases hu
  cases hu'
  have hscan : m.tokenizeWord "axb" = .ok [⟨"a", false, 0⟩, ⟨"x", false, 1⟩, ⟨"b", false, 2⟩] := by
    with_unfolding_all rfl
  cases hscan.symm.trans ht
  exact ⟨hword, hthreaded, htokens, hthreaded'⟩

end Model

end Silbo
