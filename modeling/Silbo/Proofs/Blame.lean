import Silbo.Proofs.Expansion
import Silbo.Proofs.Placement
import Silbo.Proofs.Threading

/-!
What errors point at. An error is thrown with a name and without a place. It gets the word and the
position of the token that it is met at, unless the scan of the word has met it before: then it
keeps the position of the character where the scan is stuck.
-/
namespace Silbo

/-- An error as it is thrown. -/
structure Fresh (e : Error) : Prop where
  named : e.name.isSome
  word_none : e.word = none
  position_none : e.position = none

def Raises (r : Except Error α) : Prop := ∀ e, r = .error e → Fresh e

/-- An error with a name that lies within a word. -/
structure Located (text : String) (position : Int) (e : Error) : Prop where
  named : e.name.isSome
  word_eq : e.word = some text
  within : ∃ p, e.position = some p ∧ position ≤ p ∧ p < position + text.length

section Raising

theorem raises_ok (a : α) : Raises (.ok a) := nofun

theorem Fresh.raises (h : Fresh e) : Raises (.error e : Except Error α) :=
  fun _ he => Except.error.inj he ▸ h

theorem Raises.bind {x : Except Error α} {f : α → Except Error β} (hx : Raises x)
    (hf : ∀ a, Raises (f a)) : Raises (x >>= f) := by
  cases x with
  | ok a => exact hf a
  | error e => exact (hx e rfl).raises

theorem Fresh.annotate_eq (h : Fresh e) (word : Option String) (position : Option Int) :
    e.annotate word position = ⟨e.cause, word, position⟩ := by
  unfold Error.annotate
  rw [h.word_none, h.position_none, Option.none_or, Option.none_or]

end Raising

namespace Work

variable {I : List (Handle × List Handle) → Prop}

theorem compositional_raises : Compositional fun _ x => Ensures I x Raises where
  pure a := ensures_pure (raises_ok a)
  report _ := ensures_report (raises_ok ())
  bind hx hf := Ensures.bind hx (fun a _ => hf a) fun e he => (he e rfl).raises

theorem ensures_ofExcept_raises {r : Except Error α} (h : Raises r) :
    Ensures I (Work.ofExcept r) Raises :=
  (settles_ofExcept r).weaken fun _ hr => hr ▸ h

end Work

namespace Model
open Work

variable {m : Model}

section Sources

theorem stopError_fresh (m : Model) (stop : Hierarchy.Stop Handle) : Fresh (m.stopError stop) := by
  unfold stopError
  split
  · refine ⟨?_, rfl, rfl⟩
    simp [classCycle, Error.name, Cause.name]
  · exact ⟨rfl, rfl, rfl⟩

theorem resolveHandle_raises (m : Model) (h : Handle) :
    Ensures m.Sound (m.resolveHandle h) Raises := by
  refine (resolveHandle_ensures m h).weaken fun r hr => ?_
  cases r with
  | ok covered => exact raises_ok covered
  | error e =>
    obtain ⟨stop, _, rfl⟩ := hr
    exact (stopError_fresh m stop).raises

theorem resolveClass_raises (m : Model) (name : String) :
    Ensures m.Sound (m.resolveClass name) Raises := by
  unfold resolveClass
  cases m.handle? name with
  | some h => exact resolveHandle_raises m h
  | none => exact ensures_throw (Fresh.raises ⟨rfl, rfl, rfl⟩)

theorem Expands.raises (h : Expands m chain p result) : Raises result := by
  induction h with
  | segment => exact raises_ok _
  | cyclic => exact Fresh.raises ⟨by simp [Error.name, Cause.name], rfl, rfl⟩
  | unknown => exact Fresh.raises ⟨rfl, rfl, rfl⟩
  | body _ _ _ ih => exact ih
  | nil => exact raises_ok _
  | cons => exact raises_ok _
  | first _ ih => exact (ih _ rfl).raises
  | later _ _ _ ih => exact (ih _ rfl).raises

theorem entryFor_raises (m : Model) (symbol : String) : Raises (m.entryFor symbol) := by
  unfold entryFor
  split
  · exact raises_ok _
  · exact Fresh.raises ⟨rfl, rfl, rfl⟩

theorem grounded_raises (m : Model) : m.Grounded fun _ x => Ensures m.Sound x Raises where
  toCompositional := compositional_raises
  resolveHandle := resolveHandle_raises m
  resolveClass := resolveClass_raises m
  entryFor symbol := ensures_ofExcept_raises (entryFor_raises m symbol)
  segmentsOf p := ensures_ofExcept_raises (segmentsOf_expands m p).raises

theorem quantity_raises (m : Model) (kind field : String) (q : Option Quantity) :
    Raises (m.quantity kind field q) := by
  unfold quantity
  split
  · exact Fresh.raises ⟨rfl, rfl, rfl⟩
  · exact raises_ok _
  · split
    · exact raises_ok _
    · exact Fresh.raises ⟨rfl, rfl, rfl⟩

theorem trajectory_raises (m : Model) (motion : Option Motion) (incoming duration : Number) :
    Raises (m.trajectory motion incoming duration) := by
  unfold trajectory
  split
  · exact raises_ok _
  · exact (quantity_raises m _ _ _).bind fun _ => raises_ok _
  · exact (quantity_raises m _ _ _).bind fun _ => raises_ok _
  · exact (quantity_raises m _ _ _).bind fun _ =>
      (quantity_raises m _ _ _).bind fun _ => raises_ok _
  · exact (quantity_raises m _ _ _).bind fun _ =>
      (quantity_raises m _ _ _).bind fun _ => raises_ok _

theorem segments_raises (m : Model) (d : Number) (ambient : Ambient)
    (templates : List SegmentTemplate) : Raises (m.segments d ambient templates) := by
  induction templates generalizing ambient with
  | nil => exact raises_ok _
  | cons t rest ih =>
    refine Raises.bind ?_ fun x => (ih x.ambient).bind fun _ => raises_ok _
    exact (trajectory_raises m _ _ _).bind fun _ =>
      (trajectory_raises m _ _ _).bind fun _ => raises_ok _

theorem Produces.fresh {s : Settings} (h : Produces m s tokens i ambient (.error e)) :
    Fresh e := by
  cases h with
  | unsegmented _ hs => exact segments_raises m _ _ _ e hs
  | unrealized hr =>
    rcases realizeIndex_cases m tokens i with hi | ⟨left, token, right, _, hi⟩
    · rw [hi] at hr
      cases hr
    · rw [hi, outcome_orFault, mapError_eq_error] at hr
      obtain ⟨_, ho, he⟩ := hr
      cases he
      exact ((grounded_raises m).realize left token right {} sound_nil).1 e ho

end Sources

/-- What an error of the word `text` points at: the first character where the scan is stuck, or else
the first token that fails. -/
inductive Blames (m : Model) (s : Settings) (text : String) (position : Int) : Error → Prop where
  | character {boundary : String} {alphabet : List String} :
      m.tokenizeWord text position = .error f →
      m.boundary = .text boundary → m.alphabet = alphabet.map .text →
      text.toList = consumed ++ c :: rest →
      Munches boundary.toList (alphabet.map String.toList) (c :: rest) position consumed tokens →
      Stuck boundary.toList (alphabet.map String.toList) (c :: rest) →
      Blames m s text position ⟨.unknown "character" (.text (String.singleton c)), some text,
        some (position + consumed.length)⟩
  | token : m.tokenizeWord text position = .ok tokens →
      Advances m s tokens i realizations row → tokens[i]? = some token →
      Produces m s tokens i (ambientAfter {} row) (.error e) →
      Blames m s text position ⟨e.cause, some text, some token.position⟩

section Words

variable {s : Settings} {text : String} {position : Int}

theorem Unbroken.blames_character (hw : m.Unbroken text)
    (h : m.tokenizeWord text position = .error (.error e)) (s : Settings) :
    m.Blames s text position (e.annotate (some text) (some position)) := by
  rcases tokenizeBy_cases m.boundary m.alphabet position text with
    hf | ⟨rfl, hnil⟩ | ⟨boundary, alphabet, hb, ha⟩
  · unfold tokenizeWord at h
    rw [hf] at h
    cases h
  · unfold tokenizeWord at h
    rw [hnil] at h
    cases h
  · obtain ⟨_, hscan, he⟩ := mapError_eq_error.1
      ((tokenizeWord_eq hb ha (hw boundary hb) position).symm.trans h)
    cases he
    rw [tokenize_word (hw boundary hb)] at hscan
    obtain ⟨consumed, c, rest, tokens, htext, hm, hstuck, rfl⟩ := exists_munches_of_scan hscan
    exact .character h hb ha htext hm hstuck

theorem Blames.located (hw : m.Unbroken text) (h : m.Blames s text position e) :
    Located text position e := by
  cases h with
  | @character _ consumed c rest _ _ _ _ _ _ htext _ _ =>
    refine ⟨rfl, rfl, _, rfl, by omega, ?_⟩
    rw [← String.length_toList, htext, List.length_append, List.length_cons]
    omega
  | @token tokens i _ _ t _ htokens _ hi hp =>
    obtain ⟨boundary, alphabet, hm⟩ := hw.munches htokens
    obtain ⟨hle, hpos, hend⟩ := hm.bounds t (List.mem_of_getElem? hi)
    rw [String.length_toList] at hend
    exact ⟨hp.fresh.named, rfl, _, rfl, hle, by omega⟩

theorem compileWord_ensures (hw : m.Unbroken text) (s : Settings) (position : Int) :
    Ensures m.Sound (m.compileWord s text position) fun
      | .ok word => word.error? = none
      | .error f => ∀ e, f = .error e → m.Blames s text position e := by
  unfold compileWord
  cases ht : m.tokenizeWord text position with
  | ok tokens =>
    refine (compileTokensOf_ensures m s text position tokens).orFault fun r hr => ?_
    cases hr with
    | compiled => exact rfl
    | failed hadv hi hp =>
      rintro e' he
      cases he
      rw [hp.fresh.annotate_eq]
      exact .token ht hadv hi hp
  | error f =>
    cases f with
    | error e =>
      refine ensures_throw fun e' he => ?_
      cases he
      exact hw.blames_character ht s
    | _ => exact ensures_throw fun e he => by cases he

end Words

section Texts

def Accounted (m : Model) (s : Settings) (word : Word) : Prop :=
  ∀ e, word.error? = some e →
    Located word.text word.position e ∧ m.Blames s word.text word.position e

theorem unbroken_of_mem_chunks {pieces : List (Nat × String)} (h : m.chunks text = .ok pieces) :
    ∀ piece ∈ pieces, m.Unbroken piece.2 := by
  intro piece hmem boundary hb
  obtain ⟨normal, _, h⟩ := bind_eq_ok h
  rw [hb] at h
  by_cases he : boundary = ""
  · subst he
    cases h
  obtain ⟨found, hf, hwords⟩ := splitText_ok he normal
  have hfound : found = pieces := Except.ok.inj (hf.symm.trans h)
  exact hwords piece (hfound ▸ hmem)

theorem compileChunk_ensures (hw : m.Unbroken text) (s : Settings) (position : Int) :
    Ensures m.Sound (m.compileChunk s position text) fun r =>
      ∀ word, r = .ok word → m.Accounted s word := by
  unfold compileChunk
  refine (compileWord_ensures hw s position).tryCatch ?_ fun f hf => ?_
  · intro word hword _ heq e he
    cases heq
    dsimp only at hword
    rw [hword] at he
    cases he
  · cases f with
    | error e =>
      refine ensures_pure fun word hword e' he => ?_
      cases hword
      cases he
      have hblames := hf e rfl
      exact ⟨hblames.located hw, hblames⟩
    | _ => exact ensures_throw fun _ he => by cases he

/-- Every error in a text names its cause and lies within its word. It points at the first character
where the scan of the word is stuck, or else at the first token that fails. -/
theorem compileText_blames (m : Model) (s : Settings) (history : List Request) (text : String)
    (words : List Word)
    (h : (m.compileText s false text).outcome (m.after history) = .ok words) :
    ∀ word ∈ words, ∀ e, word.error? = some e →
      Located word.text word.position e ∧ m.Blames s word.text word.position e := by
  have hensures : Ensures m.Sound (m.compileText s false text) fun r =>
      ∀ words, r = .ok words → ∀ word ∈ words, m.Accounted s word := by
    rw [compileText_eq]
    refine Ensures.bind (settles_ofExcept _) (fun pieces hp => ?_) fun _ _ _ he => by cases he
    have hwords := ensures_mapM (Q := m.Accounted s) fun piece hmem =>
      compileChunk_ensures (unbroken_of_mem_chunks hp.symm piece hmem) s piece.1
    refine hwords.bind (fun found hfound => ?_) fun _ _ _ he => by cases he
    refine (review_false_settles m found).bind (fun _ _ => ?_) fun _ _ _ he => by cases he
    exact ensures_pure hfound
  exact (hensures _ (sound_after m history)).1 words h

theorem compileText_blames_digraph :
    ((ofTable digraph).compileText {} false "chac achz").outcome ((ofTable digraph).after []) =
      .ok [⟨"chac", 0, .error ⟨.unknown "grapheme" (.text "c"), some "chac", some 3⟩⟩,
        ⟨"achz", 5, .error ⟨.unknown "character" (.text "z"), some "achz", some 8⟩⟩] ∧
      Located "achz" 5 ⟨.unknown "character" (.text "z"), some "achz", some 8⟩ ∧
      (ofTable digraph).Blames {} "achz" 5
        ⟨.unknown "character" (.text "z"), some "achz", some 8⟩ := by
  have hchunks : (ofTable digraph).chunks "chac achz" = .ok [(0, "chac"), (5, "achz")] := by
    with_unfolding_all rfl
  have h : ((ofTable digraph).compileText {} false "chac achz").outcome
      ((ofTable digraph).after []) =
      .ok [⟨"chac", 0, .error ⟨.unknown "grapheme" (.text "c"), some "chac", some 3⟩⟩,
        ⟨"achz", 5, .error ⟨.unknown "character" (.text "z"), some "achz", some 8⟩⟩] := by
    rw [compileText_eq]
    rw [hchunks]
    with_unfolding_all rfl
  have hblames := compileText_blames (ofTable digraph) {} [] _ _ h
  exact ⟨h, hblames _ (List.mem_cons_of_mem _ List.mem_cons_self) _ rfl⟩

end Texts

end Model

end Silbo
