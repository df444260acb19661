import Silbo.Expansion
import Silbo.Proofs.Lexicon

/-!
Expansion by its rules. `Expands` gives the outcome of a pronunciation under the macros that are
being expanded, item by item, with the first error as the outcome of the whole. Expansion has this
outcome for every pronunciation, and so has a walk over a stack of frames, which always halts.
-/
namespace Silbo.Model
open Work

/-- The table of macros has a body under a name; the body may be missing. -/
def Declares (m : Model) (name : String) (body : Option (List Item)) : Prop :=
  ∃ h, m.handle? name = some h ∧ m.macros.lookup h = some body

inductive Expands (m : Model) :
    List String → Pronunciation → Except Error (List SegmentTemplate) → Prop where
  | segment : Expands m chain (.single (.segment t)) (.ok [t])
  | cyclic : chain = before ++ name :: rest → name ∉ before →
      Expands m chain (.single (.call name))
        (.error ⟨.cycle "macro" (name :: rest ++ [name]), none, none⟩)
  | unknown : name ∉ chain → (∀ body, ¬ m.Declares name body) →
      Expands m chain (.single (.call name)) (.error ⟨.unknown "macro" (.text name), none, none⟩)
  | body : name ∉ chain → m.Declares name body →
      Expands m (chain ++ [name]) (.sequence (body.getD [])) result →
      Expands m chain (.single (.call name)) result
  | nil : Expands m chain (.sequence []) (.ok [])
  | cons : Expands m chain (.single item) (.ok first) →
      Expands m chain (.sequence rest) (.ok later) →
      Expands m chain (.sequence (item :: rest)) (.ok (first ++ later))
  | first : Expands m chain (.single item) (.error e) →
      Expands m chain (.sequence (item :: rest)) (.error e)
  | later : Expands m chain (.single item) (.ok first) →
      Expands m chain (.sequence rest) (.error e) →
      Expands m chain (.sequence (item :: rest)) (.error e)

variable {m : Model}

section Rules

theorem Declares.unique (h : m.Declares name body) (h' : m.Declares name body') :
    body = body' := by
  obtain ⟨i, hi, hb⟩ := h
  obtain ⟨j, hj, hb'⟩ := h'
  rw [hi, Option.some.injEq] at hj
  rw [← hj, hb, Option.some.injEq] at hb'
  exact hb'

theorem macroBody_of_declares (h : m.Declares name body) : m.macroBody name = .ok body := by
  obtain ⟨i, hi, hb⟩ := h
  unfold macroBody
  rw [hi, Option.bind_some, hb]

theorem macroBody_of_not_declares (h : ∀ body, ¬ m.Declares name body) :
    m.macroBody name = .error ⟨.unknown "macro" (.text name), none, none⟩ := by
  unfold macroBody
  cases hi : m.handle? name with
  | none => rfl
  | some i =>
    rw [Option.bind_some]
    cases hb : m.macros.lookup i with
    | none => rfl
    | some body => exact absurd ⟨i, hi, hb⟩ (h body)

theorem Declares.mem (h : m.Declares name body) :
    name ∈ m.macros.map fun p => m.nameOf p.1 := by
  obtain ⟨i, hi, hb⟩ := h
  exact List.mem_map.2 ⟨(i, body), mem_of_lookup hb, nameOf_of_handle? hi⟩

theorem macroCycle_append (h : name ∉ before) :
    macroCycle (before ++ name :: rest) name =
      ⟨.cycle "macro" (name :: rest ++ [name]), none, none⟩ := by
  unfold macroCycle
  rw [dropWhile_append_cons h]

theorem Expands.deterministic (h : Expands m chain p result) (h' : Expands m chain p result') :
    result = result' := by
  induction h generalizing result' with
  | segment => cases h'; rfl
  | cyclic hc hn =>
    have hmem := hc ▸ List.mem_append_right _ List.mem_cons_self
    cases h' with
    | cyclic hc' hn' =>
      rw [← macroCycle_append hn, ← hc, hc', macroCycle_append hn']
    | unknown hn' => exact absurd hmem hn'
    | body hn' => exact absurd hmem hn'
  | unknown hn hd =>
    cases h' with
    | cyclic hc' => exact absurd (hc' ▸ List.mem_append_right _ List.mem_cons_self) hn
    | unknown => rfl
    | body _ hb => exact absurd hb (hd _)
  | body hn hb _ ih =>
    cases h' with
    | cyclic hc' => exact absurd (hc' ▸ List.mem_append_right _ List.mem_cons_self) hn
    | unknown _ hd => exact absurd hb (hd _)
    | body _ hb' h' =>
      rw [← hb.unique hb'] at h'
      exact ih h'
  | nil => cases h'; rfl
  | cons _ _ ihf ihl =>
    cases h' with
    | cons hf hl =>
      have hf := ihf hf
      have hl := ihl hl
      rw [Except.ok.injEq] at hf hl
      rw [hf, hl]
    | first hf => cases ihf hf
    | later _ hl => cases ihl hl
  | first _ ih =>
    cases h' with
    | cons hf => cases ih hf
    | first hf => exact ih hf
    | later hf => cases ih hf
  | later _ _ ihf ihl =>
    cases h' with
    | cons _ hl => cases ihl hl
    | first hf => cases ihf hf
    | later _ hl => exact ihl hl

end Rules

section Recursion

theorem mapM_expands {f : Item → Except Error (List SegmentTemplate)} {items : List Item}
    (h : ∀ item ∈ items, Expands m chain (.single item) (f item)) :
    Expands m chain (.sequence items) ((items.mapM f).map List.flatten) := by
  induction items with
  | nil => exact .nil
  | cons item rest ih =>
    have hi := h item List.mem_cons_self
    have hr := ih fun x hx => h x (List.mem_cons_of_mem item hx)
    rw [List.mapM_cons]
    cases hf : f item with
    | error e =>
      rw [hf] at hi
      exact .first hi
    | ok first =>
      rw [hf] at hi
      cases hl : rest.mapM f with
      | error e =>
        rw [hl] at hr
        exact .later hi hr
      | ok later =>
        rw [hl] at hr
        exact .cons hi hr

/-- The macros on a chain are distinct, so that its length leaves enough depth to go on. -/
theorem expandItem_expands (depth : Nat)
    (hchain : Chain (fun name => ∃ body, m.Declares name body) chain)
    (hdepth : m.macros.length ≤ depth + chain.length) (item : Item) :
    Expands m chain (.single item) (m.expandItem depth chain item) := by
  unfold expandItem
  cases item with
  | segment t => exact .segment
  | call name =>
    by_cases hn : name ∈ chain
    · obtain ⟨before, rest, rfl, hb⟩ := List.eq_append_cons_of_mem hn
      simp only [if_pos (List.contains_iff_mem.2 hn), macroCycle_append hb]
      exact .cyclic rfl hb
    have hc : ¬ chain.contains name = true := by rwa [List.contains_iff_mem]
    by_cases hb : ∃ body, m.Declares name body
    · obtain ⟨body, hb⟩ := hb
      have hnext := hchain.concat hn ⟨body, hb⟩
      have hlt := hnext.length_lt fun _ ⟨_, hc⟩ => hc.mem
      rw [List.length_map] at hlt
      simp only [if_neg hc, macroBody_of_declares hb]
      match depth with
      | 0 => omega
      | depth + 1 =>
        refine .body hn hb (mapM_expands fun item _ => ?_)
        refine expandItem_expands depth hnext ?_ item
        rw [List.length_append, List.length_singleton]
        omega
    · have hb : ∀ body, ¬ m.Declares name body := fun body h => hb ⟨body, h⟩
      simp only [if_neg hc, macroBody_of_not_declares hb]
      exact .unknown hn hb

theorem segmentsOf_expands (m : Model) (p : Pronunciation) : Expands m [] p (m.segmentsOf p) := by
  have hitem (item : Item) : Expands m [] (.single item) (m.expandItem m.macros.length [] item) :=
    expandItem_expands _ .nil (Nat.le_add_right _ _) item
  unfold segmentsOf
  cases p with
  | sequence items => exact mapM_expands fun item _ => hitem item
  | single item =>
    have h := hitem item
    rw [Pronunciation.items, List.mapM_cons]
    cases hr : m.expandItem m.macros.length [] item with
    | error e =>
      rw [hr] at h
      exact h
    | ok segments =>
      rw [hr, ← List.append_nil segments] at h
      exact h

end Recursion

section Frames

/-- The items that are left of a macro, or of the pronunciation as a whole. A missing item ends
the frame. -/
structure Frame where
  name : Option String
  items : List (Option Item)

/-- The state of a walk: what it has put out, the macros it is in, as a chain and as a set, and
their frames, the innermost first. -/
structure FrameWalk where
  output : List SegmentTemplate
  chain : List String
  entered : List String
  frames : List Frame

/-- A macro without a body has a missing item in its place. -/
def frameItems : Option (List Item) → List (Option Item)
  | none => [none]
  | some items => items.map some

def FrameWalk.step (m : Model) (s : FrameWalk) :
    FrameWalk ⊕ Except Error (List SegmentTemplate) :=
  match s.frames with
  | [] => .inr (.ok s.output)
  | ⟨name, some (.segment t) :: items⟩ :: rest =>
    .inl { s with output := s.output ++ [t], frames := ⟨name, items⟩ :: rest }
  | ⟨name, some (.call called) :: items⟩ :: rest =>
    if s.entered.contains called then .inr (.error (macroCycle s.chain called))
    else
      match m.macroBody called with
      | .error e => .inr (.error e)
      | .ok body =>
        .inl { s with
          chain := s.chain ++ [called]
          entered := s.entered.insert called
          frames := ⟨some called, frameItems body⟩ :: ⟨name, items⟩ :: rest }
  | ⟨none, _⟩ :: rest => .inl { s with frames := rest }
  | ⟨some name, _⟩ :: rest =>
    .inl { s with
      chain := s.chain.dropLast
      entered := s.entered.erase name
      frames := rest }

def FrameWalk.start (p : Pronunciation) : FrameWalk := ⟨[], [], [], [⟨none, p.items.map some⟩]⟩

def FrameWalk.Steps (m : Model) : FrameWalk → FrameWalk → Prop :=
  Relation.ReflTransGen fun s s' => s.step m = .inl s'

def FrameWalk.Halts (m : Model) (s : FrameWalk) (result : Except Error (List SegmentTemplate)) :
    Prop :=
  ∃ s', s.Steps m s' ∧ s'.step m = .inr result

/-- The walk goes on to what a result leads to, or ends with its error. -/
def FrameWalk.Yields (m : Model) (s : FrameWalk) (next : List SegmentTemplate → FrameWalk) :
    Except Error (List SegmentTemplate) → Prop
  | .ok segments => s.Steps m (next segments)
  | .error e => s.Halts m (.error e)

namespace FrameWalk

theorem Halts.of_steps (h : Steps m s s') (h' : Halts m s' result) : Halts m s result := by
  obtain ⟨last, hs, hr⟩ := h'
  exact ⟨last, h.trans hs, hr⟩

theorem Yields.of_steps (h : Steps m s s') (h' : Yields m s' next result) :
    Yields m s next result := by
  cases result with
  | ok segments => exact h.trans h'
  | error e => exact Halts.of_steps h h'

theorem Halts.deterministic (h : Halts m s result) (h' : Halts m s result') :
    result = result' := by
  obtain ⟨last, hs, hr⟩ := h
  induction hs using Relation.ReflTransGen.head_induction_on with
  | refl =>
    obtain ⟨last', hs', hr'⟩ := h'
    obtain rfl | ⟨s', hs', _⟩ := Relation.ReflTransGen.cases_head hs'
    · rw [hr, Sum.inr.injEq] at hr'
      exact hr'
    · rw [hr] at hs'
      cases hs'
  | head hstep _ ih =>
    refine ih ?_
    obtain ⟨last', hs', hr'⟩ := h'
    obtain rfl | ⟨s', hs', hrest⟩ := Relation.ReflTransGen.cases_head hs'
    · rw [hstep] at hr'
      cases hr'
    · rw [hstep, Sum.inl.injEq] at hs'
      exact ⟨last', hs' ▸ hrest, hr'⟩

end FrameWalk

theorem frameItems_eq (body : Option (List Item)) :
    ∃ trailer, frameItems body = (body.getD []).map some ++ trailer ∧
      (trailer = [] ∨ trailer = [none]) := by
  cases body with
  | none => exact ⟨[none], rfl, .inr rfl⟩
  | some items => exact ⟨[], (List.append_nil _).symm, .inl rfl⟩

/-- The walk expands a pronunciation in front of what is left of a frame. The chain and the set hold
the same names, and they are what they were when the frames of the pronunciation are gone. -/
theorem Expands.walk (h : Expands m chain p result) (output : List SegmentTemplate)
    (entered : List String) (he : ∀ x, x ∈ entered ↔ x ∈ chain) (name : Option String)
    (left : List (Option Item)) (frames : List Frame) :
    FrameWalk.Yields m ⟨output, chain, entered, ⟨name, p.items.map some ++ left⟩ :: frames⟩
      (fun segments => ⟨output ++ segments, chain, entered, ⟨name, left⟩ :: frames⟩) result := by
  induction h generalizing output entered name left frames with
  | segment => exact Relation.ReflTransGen.single rfl
  | @cyclic chain before called rest hc hn =>
    refine ⟨_, Relation.ReflTransGen.refl, ?_⟩
    have hmem : called ∈ entered := (he called).2 (hc ▸ List.mem_append_right _ List.mem_cons_self)
    unfold FrameWalk.step
    simp only [Pronunciation.items, List.map_cons, List.cons_append]
    rw [if_pos (List.contains_iff_mem.2 hmem), hc, macroCycle_append hn]
    rfl
  | @unknown chain called hn hd =>
    refine ⟨_, Relation.ReflTransGen.refl, ?_⟩
    have hmem : ¬ entered.contains called = true := by rwa [List.contains_iff_mem, he]
    unfold FrameWalk.step
    simp only [Pronunciation.items, List.map_cons, List.cons_append]
    rw [if_neg hmem, macroBody_of_not_declares hd]
  | @body chain called body result hn hb _ ih =>
    have hne : called ∉ entered := by rwa [he]
    have hmem : ¬ entered.contains called = true := by rwa [List.contains_iff_mem]
    obtain ⟨trailer, hbody, htrailer⟩ := frameItems_eq body
    have enter : FrameWalk.Steps m
        ⟨output, chain, entered, ⟨name, some (.call called) :: left⟩ :: frames⟩
        ⟨output, chain ++ [called], entered.insert called,
          ⟨some called, (body.getD []).map some ++ trailer⟩ :: ⟨name, left⟩ :: frames⟩ := by
      refine Relation.ReflTransGen.single ?_
      unfold FrameWalk.step
      simp only [if_neg hmem, macroBody_of_declares hb, hbody]
    have inner := ih output (entered.insert called) (by simp [he, or_comm]) (some called) trailer
      (⟨name, left⟩ :: frames)
    have leave (segments : List SegmentTemplate) : FrameWalk.Steps m
        ⟨output ++ segments, chain ++ [called], entered.insert called,
          ⟨some called, trailer⟩ :: ⟨name, left⟩ :: frames⟩
        ⟨output ++ segments, chain, entered, ⟨name, left⟩ :: frames⟩ := by
      refine Relation.ReflTransGen.single ?_
      rw [List.insert_of_not_mem hne]
      rcases htrailer with rfl | rfl <;> simp [FrameWalk.step]
    -- The frame of the macro is entered, walked through and left; an error ends the walk inside.
    refine FrameWalk.Yields.of_steps enter ?_
    cases result with
    | ok segments => exact inner.trans (leave segments)
    | error e => exact inner
  | nil =>
    simp only [FrameWalk.Yields, List.append_nil]
    exact Relation.ReflTransGen.refl
  | @cons chain item first rest later _ _ ihf ihl =>
    have hf := ihf output entered he name (rest.map some ++ left) frames
    have hl := ihl (output ++ first) entered he name left frames
    rw [FrameWalk.Yields, List.append_assoc] at hl
    exact hf.trans hl
  | first _ ih => exact ih output entered he name _ frames
  | @later chain item first rest e _ _ ihf ihl =>
    have hf := ihf output entered he name (rest.map some ++ left) frames
    exact FrameWalk.Halts.of_steps hf (ihl (output ++ first) entered he name left frames)

theorem Expands.halts (h : Expands m [] p result) :
    FrameWalk.Halts m (.start p) result := by
  have hw := h.walk [] [] (fun _ => Iff.rfl) none [] []
  rw [List.append_nil] at hw
  cases result with
  | error e => exact hw
  | ok segments =>
    rw [FrameWalk.Yields, List.nil_append] at hw
    refine FrameWalk.Halts.of_steps hw ?_
    exact ⟨⟨segments, [], [], []⟩, Relation.ReflTransGen.single rfl, rfl⟩

end Frames

/-- The outcome of an expansion is the one that the rules give, whatever is resolved, and the walk
over frames comes to an end with the same outcome. -/
theorem expand_iff_expands (m : Model) (p : Pronunciation) (w : Workspace)
    (result : Except Error (List SegmentTemplate)) :
    ((m.expand p).outcome w = result ↔ Expands m [] p result) ∧
      (FrameWalk.Halts m (.start p) result ↔ Expands m [] p result) := by
  have hexpand : (m.expand p).outcome w = m.segmentsOf p := by
    unfold expand
    rw [outcome_bind, outcome_ofExcept]
    cases m.segmentsOf p <;> rfl
  have h := segmentsOf_expands m p
  rw [hexpand]
  constructor
  · exact ⟨fun he => he ▸ h, h.deterministic⟩
  · exact ⟨fun hh => hh.deterministic h.halts ▸ h, Expands.halts⟩

end Silbo.Model
