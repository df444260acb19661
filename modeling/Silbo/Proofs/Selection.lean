import Silbo.Proofs.Reachability
import Silbo.Proofs.Threading

/-!
The pronunciation that is chosen: that of the first rule that fits. Whether a rule fits does not
depend on what is resolved, and a side that is a name fits the symbols that the name resolves to.
-/
namespace Silbo.Model
open Work

def fits (m : Model) (p : Pattern) (neighbour : Option String) : Except Error Bool :=
  (m.accepts p neighbour).outcome {}

/-- Whether a rule fits; its right side counts only where the left one fits. -/
def admits (m : Model) (left right : Option String) (r : Rule) : Except Error Bool :=
  m.fits r.left left >>= fun fits => if fits then m.fits r.right right else .ok false

/-- The first of the rules, counted from an index, that fits. -/
inductive Finds (m : Model) (left right : Option String) :
    Nat → List Rule → Except Error (Option (Nat × Rule)) → Prop where
  | absent : Finds m left right i [] (.ok none)
  | found : m.admits left right r = .ok true →
      Finds m left right i (r :: rest) (.ok (some (i, r)))
  | failed : m.admits left right r = .error e → Finds m left right i (r :: rest) (.error e)
  | later : m.admits left right r = .ok false → Finds m left right (i + 1) rest result →
      Finds m left right i (r :: rest) result

inductive Chooses (m : Model) (e : Entry) (left right : Option String) :
    Except Error Selection → Prop where
  | rule : Finds m left right 0 e.rules (.ok (some (i, r))) → r.pronunciation = some p →
      Chooses m e left right (.ok (.rule i p))
  | elided : Finds m left right 0 e.rules (.ok (some (i, r))) → r.pronunciation = none →
      Chooses m e left right (.ok (.elided i))
  | elsewhere : Finds m left right 0 e.rules (.ok none) → e.elsewhere = some p →
      Chooses m e left right (.ok (.elsewhere p))
  | unmatched : Finds m left right 0 e.rules (.ok none) → e.elsewhere = none →
      Chooses m e left right (.ok .unmatched)
  | failed : Finds m left right 0 e.rules (.error error) → Chooses m e left right (.error error)

/-- What a token comes to between its neighbours. -/
inductive Realizes (m : Model) (left : Option String) (token : Token) (right : Option String) :
    Except Error Realization → Prop where
  | silent : m.entryFor token.text = .ok e → Chooses m e left right (.ok selection) →
      selection.pronunciation? = none → Realizes m left token right (.ok ⟨token, selection, []⟩)
  | expanded : m.entryFor token.text = .ok e → Chooses m e left right (.ok selection) →
      selection.pronunciation? = some p → m.segmentsOf p = .ok templates →
      Realizes m left token right (.ok ⟨token, selection, templates⟩)
  | unknown : m.entryFor token.text = .error error → Realizes m left token right (.error error)
  | unchosen : m.entryFor token.text = .ok e → Chooses m e left right (.error error) →
      Realizes m left token right (.error error)
  | unexpanded : m.entryFor token.text = .ok e → Chooses m e left right (.ok selection) →
      selection.pronunciation? = some p → m.segmentsOf p = .error error →
      Realizes m left token right (.error error)

variable {m : Model} {left right : Option String}

section Choosing

theorem accepts_settles (m : Model) (p : Pattern) (neighbour : Option String) :
    Settles m.Sound (m.accepts p neighbour) (m.fits p neighbour) :=
  ((grounded_steady m).accepts p neighbour).settles {} sound_nil

theorem firstMatch_ensures (m : Model) (left right : Option String) (i : Nat) (rules : List Rule) :
    Ensures m.Sound (m.firstMatch left right i rules) (m.Finds left right i rules) := by
  induction rules generalizing i with
  | nil => exact ensures_pure .absent
  | cons r rest ih =>
    have later (h : m.admits left right r = .ok false) :
        Ensures m.Sound (m.firstMatch left right (i + 1) rest) (m.Finds left right i (r :: rest)) :=
      (ih (i + 1)).weaken fun _ => .later h
    unfold firstMatch
    refine Ensures.bind (accepts_settles m r.left left) (fun fitsLeft hl => ?_) fun e he => ?_
    · cases fitsLeft with
      | false => exact later (by rw [admits, ← hl]; rfl)
      | true =>
        have hright : m.admits left right r = m.fits r.right right := by rw [admits, ← hl]; rfl
        refine Ensures.bind (accepts_settles m r.right right) (fun fitsRight hr => ?_)
          fun e he => ?_
        · cases fitsRight with
          | false => exact later (hright.trans hr.symm)
          | true => exact ensures_pure (.found (hright.trans hr.symm))
        · exact .failed (hright.trans he.symm)
    · exact .failed (by rw [admits, ← he]; rfl)

theorem select_ensures (m : Model) (e : Entry) (left right : Option String) :
    Ensures m.Sound (m.select e left right) (m.Chooses e left right) := by
  unfold select
  refine (firstMatch_ensures m left right 0 e.rules).bind (fun found hfound => ?_) fun _ => .failed
  cases found with
  | some found =>
    refine Ensures.bind (settles_report _) (fun _ _ => ?_) (fun _ he => by cases he)
    cases hp : found.2.pronunciation with
    | some p => exact ensures_pure (.rule hfound hp)
    | none => exact ensures_pure (.elided hfound hp)
  | none =>
    cases hp : e.elsewhere with
    | some p => exact ensures_pure (.elsewhere hfound hp)
    | none =>
      refine Ensures.bind (settles_report _) (fun _ _ => ?_) (fun _ he => by cases he)
      exact ensures_pure (.unmatched hfound hp)

theorem expand_settles (m : Model) (p : Pronunciation) :
    Settles m.Sound (m.expand p) (m.segmentsOf p) := by
  have h := settles_ofExcept (I := m.Sound) (m.segmentsOf p)
  unfold expand
  cases hp : m.segmentsOf p with
  | ok templates =>
    rw [hp] at h
    exact h.bind_ok ((settles_report _).bind_ok (settles_pure templates))
  | error e =>
    rw [hp] at h
    exact h.bind_error

theorem realize_ensures (m : Model) (left : Option String) (token : Token) (right : Option String) :
    Ensures m.Sound (m.realize left token right) (m.Realizes left token right) := by
  unfold realize
  refine Ensures.bind (settles_ofExcept _) (fun e he => ?_) fun _ he => .unknown he.symm
  refine (select_ensures m e left right).bind (fun selection hs => ?_) fun _ => .unchosen he.symm
  cases hp : selection.pronunciation? with
  | none => exact ensures_pure (.silent he.symm hs hp)
  | some p =>
    refine Ensures.bind (expand_settles m p) (fun templates ht => ?_) fun _ ht => ?_
    · exact ensures_pure (.expanded he.symm hs hp ht.symm)
    · exact .unexpanded he.symm hs hp ht.symm

theorem Finds.of_found (h : Finds m left right i rules (.ok (some (k, r)))) :
    ∃ before rest, rules = before ++ r :: rest ∧ k = i + before.length ∧
      (∀ q ∈ before, m.admits left right q = .ok false) ∧ m.admits left right r = .ok true := by
  generalize hresult : (.ok (some (k, r)) : Except Error (Option (Nat × Rule))) = result at h
  induction h with
  | absent => cases hresult
  | @found _ _ rest hr =>
    cases hresult
    exact ⟨[], rest, rfl, rfl, fun q hq => absurd hq List.not_mem_nil, hr⟩
  | failed => cases hresult
  | @later q _ _ _ hq _ ih =>
    obtain ⟨before, rest, rfl, rfl, hbefore, hr⟩ := ih hresult
    refine ⟨q :: before, rest, rfl, ?_, List.forall_mem_cons.2 ⟨hq, hbefore⟩, hr⟩
    rw [List.length_cons]
    omega

theorem Finds.of_none (h : Finds m left right i rules (.ok none)) :
    ∀ r ∈ rules, m.admits left right r = .ok false := by
  generalize hresult : (.ok none : Except Error (Option (Nat × Rule))) = result at h
  induction h with
  | absent => exact fun r hr => absurd hr List.not_mem_nil
  | found => cases hresult
  | failed => cases hresult
  | later hr _ ih => exact List.forall_mem_cons.2 ⟨hr, ih hresult⟩

theorem Finds.of_error (h : Finds m left right i rules (.error e)) :
    ∃ before r rest, rules = before ++ r :: rest ∧
      (∀ q ∈ before, m.admits left right q = .ok false) ∧ m.admits left right r = .error e := by
  generalize hresult : (.error e : Except Error (Option (Nat × Rule))) = result at h
  induction h with
  | absent => cases hresult
  | found => cases hresult
  | @failed r _ _ rest hr =>
    cases hresult
    exact ⟨[], r, rest, rfl, fun q hq => absurd hq List.not_mem_nil, hr⟩
  | @later q _ _ _ hq _ ih =>
    obtain ⟨before, r, rest, rfl, hbefore, hr⟩ := ih hresult
    exact ⟨q :: before, r, rest, rfl, List.forall_mem_cons.2 ⟨hq, hbefore⟩, hr⟩

end Choosing

section Runs

variable {s : Settings} {tokens : List Token}

/-- The symbol right before a token, if the token is not the first. -/
def leftOf (tokens : List Token) (k : Nat) : Option String :=
  if k = 0 then none else tokens[k - 1]?.map (·.text)

def rightOf (tokens : List Token) (k : Nat) : Option String := tokens[k + 1]?.map (·.text)

theorem exists_realizes (m : Model) {k : Nat} (h : tokens[k]? = some token) :
    ∃ r, (m.realizeIndex tokens k).outcome {} = r.mapError Fault.error ∧
      m.Realizes (leftOf tokens k) token (rightOf tokens k) r := by
  refine ⟨_, ?_, (realize_ensures m (leftOf tokens k) token (rightOf tokens k) {} sound_nil).1⟩
  rw [realizeIndex_natCast, h]
  exact outcome_orFault _ _

theorem Advances.realizes (h : Advances m s tokens i realizations row) :
    realizations.length = i ∧ ∀ k r, realizations[k]? = some r →
      m.Realizes (leftOf tokens k) r.token (rightOf tokens k) (.ok r) := by
  obtain ⟨hlength, hrealized⟩ := h.realized
  refine ⟨hlength, fun k r hk => ?_⟩
  have htoken : tokens[k]? = some r.token := by
    have hmap : (realizations.map (·.token))[k]? = some r.token := by rw [List.getElem?_map, hk]; rfl
    obtain ⟨hlt, -⟩ := List.getElem?_eq_some_iff.1 hk
    rwa [h.tokens_eq, List.getElem?_take_of_lt (hlength ▸ hlt)] at hmap
  obtain ⟨result, hresult, hrealizes⟩ := exists_realizes m htoken
  rw [hrealized k r hk, eq_comm, mapError_eq_ok] at hresult
  rwa [hresult] at hrealizes

end Runs

section Names

variable {t : Table}

def namesOf (m : Model) (side : String) : Except Error (List String) :=
  ((m.resolveClass side).outcome {}).map fun covered => covered.map m.nameOf

/-- The class that a side of a context asks for: the one that has its handle, or the one that has its
name where it has no handle. -/
inductive Asks (m : Model) : Pattern → String → Prop where
  | numbered : m.handle? name = some h → Asks m (.soundClass written (some h)) name
  | named : Asks m (.soundClass name none) name

theorem fits_asked (h : m.Asks p name) (neighbour : Option String) :
    m.fits p neighbour = ((m.resolveClass name).outcome {}).map fun covered =>
      neighbour.any fun x => (m.handle? x).any covered.contains := by
  have haccepts : m.accepts p neighbour =
      m.resolveClass name >>= fun covered =>
        pure (neighbour.any fun x => (m.handle? x).any covered.contains) := by
    cases h with
    | numbered hname =>
      unfold accepts resolveClass
      rw [hname]
    | named => rfl
  rw [fits, haccepts, outcome_bind]
  cases (m.resolveClass name).outcome {} <;> rfl

theorem handle?_of_ok (h : (m.resolveClass name).outcome {} = .ok covered) :
    ∃ i, m.handle? name = some i := by
  cases hi : m.handle? name with
  | some i => exact ⟨i, rfl⟩
  | none =>
    unfold resolveClass at h
    rw [hi] at h
    cases h

theorem resolveClass_symbol (h : m.handle? name = some i) (hs : m.isSymbolHandle i = true) :
    (m.resolveClass name).outcome {} = .ok [i] := by
  unfold resolveClass
  rw [h]
  show ((m.resolveHandle i).outcome {}) = _
  unfold resolveHandle
  rw [outcome_bind]
  show (if m.isSymbolHandle i = true then _ else _ : Work Error (List Handle)).outcome _ = _
  rw [if_pos hs]
  rfl

theorem contains_nameOf (h : (ofTable t).handle? side = some i)
    (hr : (ofTable t).Resolves i (.ok covered)) (x : String) :
    (covered.map (ofTable t).nameOf).contains x = ((ofTable t).handle? x).any covered.contains := by
  rw [Bool.eq_iff_iff, List.contains_iff_mem, List.mem_map, Option.any_eq_true]
  constructor
  · rintro ⟨k, hk, rfl⟩
    obtain ⟨y, hy, _⟩ := (similar_ofTable t).reaches h (hr.mem_iff.1 hk).2
    rw [nameOf_of_handle? hy]
    exact ⟨k, hy, List.contains_iff_mem.2 hk⟩
  · rintro ⟨k, hx, hk⟩
    exact ⟨k, List.contains_iff_mem.1 hk, nameOf_of_handle? hx⟩

theorem fits_names (h : (ofTable t).Asks p name) (neighbour : Option String) :
    (ofTable t).fits p neighbour =
      ((ofTable t).namesOf name).map fun names => neighbour.any names.contains := by
  rw [fits_asked h]
  unfold namesOf
  cases ho : ((ofTable t).resolveClass name).outcome {} with
  | error e => rfl
  | ok covered =>
    obtain ⟨i, hi⟩ := handle?_of_ok ho
    have hr := resolveClass_resolves hi
    rw [ho] at hr
    have hnames : (covered.map (ofTable t).nameOf).contains =
        fun x => ((ofTable t).handle? x).any covered.contains :=
      funext (contains_nameOf hi hr)
    simp only [Except.map, hnames]

theorem fits_pattern (hside : side ≠ "") (neighbour : Option String) :
    (ofTable t).fits ((ofTable t).pattern side) neighbour =
      ((ofTable t).namesOf side).map fun names => neighbour.any names.contains := by
  unfold pattern
  rw [if_neg (by rwa [String.isEmpty_iff])]
  cases h : (ofTable t).handle? side with
  | none => exact fits_names .named neighbour
  | some i =>
    by_cases hs : (ofTable t).isSymbolHandle i = true
    · simp only [if_pos hs]
      unfold namesOf
      rw [resolveClass_symbol h hs]
      show Except.ok (neighbour == some side) =
        Except.ok (neighbour.any [(ofTable t).nameOf i].contains)
      rw [nameOf_of_handle? h]
      cases neighbour with
      | none => rfl
      | some x =>
        rw [Option.any_some, List.contains_cons, List.contains_nil, Bool.or_false]
        rfl
    · simp only [if_neg hs]
      exact fits_names (.numbered h) neighbour

end Names

end Silbo.Model
