import Silbo.Proofs.Resolution
import Silbo.Word

/-!
Requests to one model, one after the other. None of them depends on those before it, whether those
succeeded or not: the only thing that they share is what has been resolved, and that stays sound.
Two models that take each token to the same segments compile every text alike, each after its own
requests; that a text does not depend on the requests before it is the case of one model with itself.
-/
namespace Silbo.Model
open Work

/-- A property of all the work that the realization of a token is put together from. -/
structure Grounded (m : Model) (K : ∀ α : Type, Work Error α → Prop) : Prop
    extends Compositional K where
  resolveHandle : ∀ h, K _ (m.resolveHandle h)
  resolveClass : ∀ name, K _ (m.resolveClass name)
  entryFor : ∀ symbol, K _ (Work.ofExcept (m.entryFor symbol))
  segmentsOf : ∀ p, K _ (Work.ofExcept (m.segmentsOf p))

namespace Grounded

variable {m : Model} {K : ∀ α : Type, Work Error α → Prop}

theorem accepts (g : m.Grounded K) (p : Pattern) (neighbour : Option String) :
    K _ (m.accepts p neighbour) := by
  cases p with
  | boundary => exact g.pure _
  | symbol name handle => exact g.pure _
  | soundClass name handle =>
    cases handle with
    | some h => exact g.bind (g.resolveHandle h) fun _ => g.pure _
    | none => exact g.bind (g.resolveClass name) fun _ => g.pure _

theorem firstMatch (g : m.Grounded K) (left right : Option String) (index : Nat)
    (rules : List Rule) : K _ (m.firstMatch left right index rules) := by
  induction rules generalizing index with
  | nil => exact g.pure _
  | cons r rest ih =>
    unfold Model.firstMatch
    refine g.bind (g.accepts r.left left) fun fits => ?_
    cases fits with
    | false => exact ih (index + 1)
    | true =>
      refine g.bind (g.accepts r.right right) fun fits => ?_
      cases fits with
      | false => exact ih (index + 1)
      | true => exact g.pure _

theorem select (g : m.Grounded K) (e : Entry) (left right : Option String) :
    K _ (m.select e left right) := by
  unfold Model.select
  refine g.bind (g.firstMatch left right 0 e.rules) fun found => ?_
  cases found with
  | some found =>
    refine g.bind (g.report _) fun _ => ?_
    cases found.2.pronunciation <;> exact g.pure _
  | none =>
    cases e.elsewhere with
    | some p => exact g.pure _
    | none => exact g.bind (g.report _) fun _ => g.pure _

theorem expand (g : m.Grounded K) (p : Pronunciation) : K _ (m.expand p) :=
  g.bind (g.segmentsOf p) fun _ => g.bind (g.report _) fun _ => g.pure _

theorem realize (g : m.Grounded K) (left : Option String) (token : Token)
    (right : Option String) : K _ (m.realize left token right) := by
  unfold Model.realize
  refine g.bind (g.entryFor token.text) fun entry => ?_
  refine g.bind (g.select entry left right) fun selection => ?_
  cases selection.pronunciation? with
  | none => exact g.pure _
  | some p => exact g.bind (g.expand p) fun _ => g.pure _

end Grounded

section Steadiness

theorem resolveClass_steady (m : Model) (name : String) : Steady m.Sound (m.resolveClass name) := by
  unfold resolveClass
  cases m.handle? name with
  | some h => exact resolveHandle_steady m h
  | none => exact steady_throw _

theorem resolveIndex_steady (m : Model) (i : Int) : Steady m.Sound (m.resolveIndex i) := by
  unfold resolveIndex
  cases m.lexicon.nameAt? i with
  | none => exact steady_throw _
  | some name =>
    by_cases hi : 0 ≤ i
    · simp only [if_pos hi]
      exact (resolveHandle_steady m i.toNat).orFault
    · simp only [if_neg hi]
      exact steady_throw _

theorem flattenClass_steady (m : Model) (name : String) : Steady m.Sound (m.flattenClass name) :=
  (resolveClass_steady m name).bind fun _ => steady_pure _

theorem grounded_steady (m : Model) : m.Grounded fun _ x => Steady m.Sound x where
  toCompositional := compositional_steady
  resolveHandle := resolveHandle_steady m
  resolveClass := resolveClass_steady m
  entryFor _ := steady_ofExcept _
  segmentsOf _ := steady_ofExcept _

end Steadiness

section Agreement

/-- Models that cut texts into the same tokens and take each of them to the same segments. -/
structure Alike (m m' : Model) : Prop where
  boundary_eq : m'.boundary = m.boundary
  alphabet_eq : m'.alphabet = m.alphabet
  produces : ∀ (d : Number) (ambient : Ambient) (left : Option String) (token : Token)
    (right : Option String), Agree m.Sound m'.Sound Eq
      (do
        let realization ← m.realize left token right
        let segments ← Work.ofExcept (m.segments d ambient realization.templates)
        pure (realization, segments))
      (do
        let realization ← m'.realize left token right
        let segments ← Work.ofExcept (m'.segments d ambient realization.templates)
        pure (realization, segments))

theorem alike_refl (m : Model) : m.Alike m where
  boundary_eq := rfl
  alphabet_eq := rfl
  produces d ambient left token right := by
    refine Steady.agree (((grounded_steady m).realize left token right).bind fun _ => ?_)
    exact (steady_ofExcept _).bind fun _ => steady_pure _

variable {m m' : Model}

theorem compileFrom_agree (h : m.Alike m') (s : Settings) (left : Option String)
    (ambient : Ambient) (tokens : List Token) :
    Agree m.Sound m'.Sound Eq (m.compileFrom s left ambient tokens)
      (m'.compileFrom s left ambient tokens) := by
  induction tokens generalizing left ambient with
  | nil => exact agree_pure rfl
  | cons token rest ih =>
    unfold compileFrom
    have hproduced := h.produces s.segmentMilliseconds ambient left token
      (rest.head?.map (·.text))
    refine (hproduced.tryCatch fun e => agree_throw _).bind ?_
    rintro produced _ rfl
    refine (ih _ _).bind ?_
    rintro later _ rfl
    exact agree_pure rfl

theorem compileTokensOf_agree (h : m.Alike m') (s : Settings) (text : String) (position : Int)
    (tokens : List Token) :
    Agree m.Sound m'.Sound Eq (m.compileTokensOf s text position tokens)
      (m'.compileTokensOf s text position tokens) := by
  unfold compileTokensOf
  refine ((compileFrom_agree h s none {} tokens).tryCatch fun e => agree_throw _).bind ?_
  rintro utterance _ rfl
  refine (agree_report _ _).bind fun _ _ _ => ?_
  exact agree_pure rfl

theorem tokenizeWord_eq_of_alike (h : m.Alike m') (text : String) (position : Int) :
    m'.tokenizeWord text position = m.tokenizeWord text position := by
  unfold tokenizeWord
  rw [h.boundary_eq, h.alphabet_eq]

theorem compileWord_agree (h : m.Alike m') (s : Settings) (text : String) (position : Int) :
    Agree m.Sound m'.Sound Eq (m.compileWord s text position)
      (m'.compileWord s text position) := by
  unfold compileWord
  rw [tokenizeWord_eq_of_alike h]
  cases m.tokenizeWord text position with
  | ok tokens => exact (compileTokensOf_agree h s text position tokens).orFault
  | error f => cases f <;> exact agree_throw _

theorem compileChunk_agree (h : m.Alike m') (s : Settings) (position : Int) (text : String) :
    Agree m.Sound m'.Sound Eq (m.compileChunk s position text)
      (m'.compileChunk s position text) := by
  unfold compileChunk
  refine (compileWord_agree h s text position).tryCatch fun f => ?_
  cases f with
  | error e => exact agree_pure rfl
  | _ => exact agree_throw _

theorem review_false_settles (m : Model) (words : List Word) :
    Settles m.Sound (review false words) (.ok ()) := by
  induction words with
  | nil => exact settles_pure ()
  | cons w rest ih =>
    unfold review
    cases w.error? with
    | none => exact ih
    | some e => exact (settles_report _).bind_ok ih

theorem review_true_settles (m : Model) (words : List Word) :
    Settles m.Sound (review true words)
      (match words.findSome? Word.error? with
        | none => .ok ()
        | some e => .error (.error e)) := by
  induction words with
  | nil => exact settles_pure ()
  | cons w rest ih =>
    unfold review
    rw [List.findSome?_cons]
    cases w.error? with
    | none => exact ih
    | some e => exact settles_throw _

theorem review_of_none (h : words.findSome? Word.error? = none) (strict : Bool) :
    review strict words = pure () := by
  induction words with
  | nil => rfl
  | cons w rest ih =>
    rw [List.findSome?_cons] at h
    unfold review
    cases hw : w.error? with
    | none =>
      rw [hw] at h
      exact ih h
    | some e =>
      rw [hw] at h
      cases h

theorem review_agree (m m' : Model) (strict : Bool) (words : List Word) :
    Agree m.Sound m'.Sound Eq (review strict words) (review strict words) := by
  cases strict with
  | false =>
    exact ⟨_, _, review_false_settles m words, review_false_settles m' words, matches_eq.2 rfl⟩
  | true =>
    exact ⟨_, _, review_true_settles m words, review_true_settles m' words, matches_eq.2 rfl⟩

theorem compileText_eq (m : Model) (s : Settings) (strict : Bool) (text : String) :
    m.compileText s strict text = (do
      let chunks ← Work.ofExcept (m.chunks text)
      let words ← chunks.mapM fun chunk => m.compileChunk s chunk.1 chunk.2
      review strict words
      pure words) :=
  rfl

theorem compileText_agree (h : m.Alike m') (s : Settings) (strict : Bool) (text : String) :
    Agree m.Sound m'.Sound Eq (m.compileText s strict text) (m'.compileText s strict text) := by
  have hchunks : m'.chunks text = m.chunks text := by
    unfold chunks
    rw [h.boundary_eq]
  rw [compileText_eq, compileText_eq, hchunks]
  refine (agree_ofExcept (matches_eq.2 rfl)).bind ?_
  rintro chunks _ rfl
  refine (agree_mapM (fun chunk => compileChunk_agree h s _ _) chunks).bind ?_
  rintro words _ hwords
  rw [List.forall₂_eq_eq_eq] at hwords
  subst hwords
  refine (review_agree m m' strict words).bind fun _ _ _ => ?_
  exact agree_pure rfl

theorem compileTokensOf_steady (m : Model) (s : Settings) (text : String) (position : Int)
    (tokens : List Token) : Steady m.Sound (m.compileTokensOf s text position tokens) :=
  (compileTokensOf_agree (alike_refl m) s text position tokens).steady

theorem compileWord_steady (m : Model) (s : Settings) (text : String) (position : Int) :
    Steady m.Sound (m.compileWord s text position) :=
  (compileWord_agree (alike_refl m) s text position).steady

theorem review_steady (m : Model) (strict : Bool) (words : List Word) :
    Steady m.Sound (review strict words) :=
  (review_agree m m strict words).steady

theorem compileText_steady (m : Model) (s : Settings) (strict : Bool) (text : String) :
    Steady m.Sound (m.compileText s strict text) :=
  (compileText_agree (alike_refl m) s strict text).steady

end Agreement

/-- What may be asked of a model. -/
inductive Request where
  | resolveClass (name : String)
  | resolveIndex (index : Int)
  | flattenClass (name : String)
  | accepts (p : Pattern) (neighbour : Option String)
  | select (e : Entry) (left right : Option String)
  | compileTokens (s : Settings) (tokens : List Token) (position : Int)
  | compileWord (s : Settings) (text : String) (position : Int)
  | compileText (s : Settings) (strict : Bool) (text : String)

def serve (m : Model) (w : Workspace) : Request → Workspace
  | .resolveClass name => (m.resolveClass name).final w
  | .resolveIndex index => (m.resolveIndex index).final w
  | .flattenClass name => (m.flattenClass name).final w
  | .accepts p neighbour => (m.accepts p neighbour).final w
  | .select e left right => (m.select e left right).final w
  | .compileTokens s tokens position => (m.compileTokens s tokens position).final w
  | .compileWord s text position => (m.compileWord s text position).final w
  | .compileText s strict text => (m.compileText s strict text).final w

/-- The workspace after a row of requests to a new model. -/
def after (m : Model) (history : List Request) : Workspace := history.foldl m.serve {}

variable {m : Model}

theorem sound_serve (r : Request) {w : Workspace} (hw : m.Sound w.resolved) :
    m.Sound (m.serve w r).resolved := by
  have keeps {ε α : Type} {x : Work ε α} (hx : Steady m.Sound x) :
      m.Sound (x.final w).resolved := (hx.settles w hw w hw).2
  cases r with
  | resolveClass name => exact keeps (resolveClass_steady m name)
  | resolveIndex index => exact keeps (resolveIndex_steady m index)
  | flattenClass name => exact keeps (flattenClass_steady m name)
  | accepts p neighbour => exact keeps ((grounded_steady m).accepts p neighbour)
  | select e left right => exact keeps ((grounded_steady m).select e left right)
  | compileTokens s tokens position => exact keeps (compileTokensOf_steady m s _ _ tokens)
  | compileWord s text position => exact keeps (compileWord_steady m s text position)
  | compileText s strict text => exact keeps (compileText_steady m s strict text)

theorem sound_after (m : Model) (history : List Request) : m.Sound (m.after history).resolved := by
  have keeps (w : Workspace) (hw : m.Sound w.resolved) :
      m.Sound (history.foldl m.serve w).resolved := by
    induction history generalizing w with
    | nil => exact hw
    | cons r rest ih => exact ih _ (sound_serve r hw)
  exact keeps {} sound_nil

/-- Steady work comes to the same after any requests as on a new model. -/
theorem outcome_after {x : Work ε α} (hx : Steady m.Sound x) (history : List Request) :
    x.outcome (m.after history) = x.outcome {} :=
  (hx.settles {} sound_nil _ (sound_after m history)).1

/-- A class resolves after any requests as on a new model. Only classes are remembered, each of
them with the symbols in its reach, and nothing in its reach is cyclic or unknown; so a class that
is open where a resolution stops is never remembered. -/
theorem resolveClass_after (m : Model) (history : List Request) (name : String) :
    (m.resolveClass name).outcome (m.after history) = (m.resolveClass name).outcome {} ∧
      (∀ h covered, (h, covered) ∈ (m.after history).resolved →
        ¬ m.hierarchy.leaf h ∧ (m.members? h).isSome ∧
          (∀ k, k ∈ covered ↔ m.hierarchy.leaf k ∧ m.hierarchy.Reaches h k) ∧
          ∀ k, m.hierarchy.Reaches h k → m.hierarchy.Declared k ∧ ¬ m.hierarchy.Cyclic k) ∧
      ∀ h e, (m.resolveHandle h).outcome (m.after history) = .error e →
        ∃ stop, m.hierarchy.Visit [] [h] (some stop) ∧ e = m.stopError stop ∧
          ∀ later : List Request, ∀ c ∈ stop.chain, ∀ covered,
            (c, covered) ∉ (m.after later).resolved := by
  refine ⟨outcome_after (resolveClass_steady m name) history, ?_, ?_⟩
  · intro h covered hmem
    have hc : m.Covers h covered := sound_after m history h covered hmem
    obtain ⟨hn, members, hm, _⟩ := id hc
    refine ⟨hn, ?_, fun k => hc.mem_iff, hc.resolvable⟩
    rw [hm]
    rfl
  · intro h e he
    have hr := (resolveHandle_ensures m h _ (sound_after m history)).1
    rw [he] at hr
    obtain ⟨stop, hv, hs⟩ := hr
    refine ⟨stop, hv, hs, fun later c hc covered hmem => ?_⟩
    have hcovers : m.Covers c covered := sound_after m later c covered hmem
    rcases hv.stop_chain (.nil [h]) c hc with hc | hn
    · exact List.not_mem_nil hc
    · exact hn hcovers.resolvable

end Silbo.Model
