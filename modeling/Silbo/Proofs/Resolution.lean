import Silbo.Proofs.Chain
import Silbo.Proofs.Hierarchy
import Silbo.Proofs.Workspace
import Silbo.SoundClass

/-!
What a class resolves to. The classes of a model are a hierarchy whose leaves are the symbols, and
collecting the symbols of a class is a visit of it: what is remembered is left out of the visit,
which changes neither the symbols that are found nor where the visit stops.
-/
namespace Silbo.Model
open Hierarchy Work

def hierarchy (m : Model) : Hierarchy Handle :=
  ⟨fun h => m.isSymbolHandle h = true, m.members?⟩

/-- Going through a row of members with the symbols found before and after. -/
inductive Gathers (m : Model) : List Handle → List Handle → List Handle → Prop where
  | done : Gathers m [] found found
  | symbol : m.hierarchy.leaf h → Gathers m rest (found.insert h) result →
      Gathers m (h :: rest) found result
  | soundClass : ¬ m.hierarchy.leaf h → m.members? h = some members →
      Gathers m members [] covered → Gathers m rest (addSymbols covered found) result →
      Gathers m (h :: rest) found result

/-- The symbols of a class, in the order in which they are found. -/
def Covers (m : Model) (h : Handle) (symbols : List Handle) : Prop :=
  ¬ m.hierarchy.leaf h ∧ ∃ members, m.members? h = some members ∧ Gathers m members [] symbols

/-- The error of a visit that stops: a cycle if the member is open, an unknown class otherwise. -/
def stopError (m : Model) (stop : Stop Handle) : Error :=
  if stop.chain.contains stop.member then m.classCycle stop.chain stop.member
  else m.unknownClass stop.member

/-- What comes of going through a row of members under the open classes of `chain`. -/
def Answers (m : Model) (chain row found : List Handle) : Except Error (List Handle) → Prop
  | .ok result => Gathers m row found result ∧ m.hierarchy.Visit chain row none
  | .error e => ∃ stop, m.hierarchy.Visit chain row (some stop) ∧ e = m.stopError stop

def Resolves (m : Model) (h : Handle) : Except Error (List Handle) → Prop
  | .ok symbols => m.hierarchy.leaf h ∧ symbols = [h] ∨ m.Covers h symbols
  | .error e => ∃ stop, m.hierarchy.Visit [] [h] (some stop) ∧ e = m.stopError stop

/-- Only classes are remembered, each with its symbols. -/
def Sound (m : Model) (resolved : List (Handle × List Handle)) : Prop :=
  ∀ h symbols, (h, symbols) ∈ resolved → m.Covers h symbols

variable {m : Model}

section Symbols

theorem mem_addSymbols {symbols found : List Handle} :
    k ∈ addSymbols symbols found ↔ k ∈ symbols ∨ k ∈ found := by
  unfold addSymbols
  induction symbols generalizing found with
  | nil => simp
  | cons h rest ih =>
    rw [List.foldl_cons, ih, List.mem_insert_iff, List.mem_cons, or_assoc, or_left_comm]

theorem nodup_addSymbols {symbols found : List Handle} (h : found.Nodup) :
    (addSymbols symbols found).Nodup := by
  unfold addSymbols
  induction symbols generalizing found with
  | nil => exact h
  | cons k rest ih => exact ih h.insert

theorem Gathers.deterministic (h : Gathers m row found result)
    (h' : Gathers m row found result') : result = result' := by
  induction h generalizing result' with
  | done => cases h'; rfl
  | symbol hl _ ih =>
    cases h' with
    | symbol _ h => exact ih h
    | soundClass hn => exact absurd hl hn
  | soundClass hn hm _ _ ihm ihr =>
    cases h' with
    | symbol hl => exact absurd hl hn
    | soundClass _ hs hg h =>
      rw [hm, Option.some.injEq] at hs
      subst hs
      rw [← ihm hg] at h
      exact ihr h

theorem Gathers.cons (hk : Gathers m [k] found found') (h : Gathers m rest found' result) :
    Gathers m (k :: rest) found result := by
  cases hk with
  | symbol hl hd => cases hd; exact .symbol hl h
  | soundClass hn hm hg hd => cases hd; exact .soundClass hn hm hg h

theorem Gathers.nodup (h : Gathers m row found result) (hf : found.Nodup) : result.Nodup := by
  induction h with
  | done => exact hf
  | symbol _ _ ih => exact ih hf.insert
  | soundClass _ _ _ _ _ ih => exact ih (nodup_addSymbols hf)

theorem Gathers.mem_iff (h : Gathers m row found result) :
    k ∈ result ↔ k ∈ found ∨ m.hierarchy.leaf k ∧ ∃ x ∈ row, m.hierarchy.Reaches x k := by
  induction h with
  | done => simp
  | @symbol x rest found result hl _ ih =>
    have hx : m.hierarchy.leaf k ∧ m.hierarchy.Reaches x k ↔ k = x := by
      rw [reaches_leaf_iff hl]
      exact ⟨fun h => h.2, fun h => ⟨h ▸ hl, h⟩⟩
    rw [ih, List.mem_insert_iff, ← hx]
    simp only [List.mem_cons, exists_eq_or_imp]
    rw [and_or_left, or_assoc, or_left_comm]
  | @soundClass x members covered rest found result hn hm _ _ ihm ihr =>
    have hx : m.hierarchy.leaf k ∧ m.hierarchy.Reaches x k ↔ k ∈ covered := by
      rw [ihm, reaches_iff_members hn hm]
      constructor
      · rintro ⟨hl, rfl | h⟩
        · exact absurd hl hn
        · exact .inr ⟨hl, h⟩
      · rintro (h | ⟨hl, h⟩)
        · exact absurd h List.not_mem_nil
        · exact ⟨hl, .inr h⟩
    rw [ihr, mem_addSymbols, ← hx]
    simp only [List.mem_cons, exists_eq_or_imp]
    rw [and_or_left, or_assoc, or_left_comm]

theorem Gathers.resolvable (h : Gathers m row found result) :
    ∀ x ∈ row, m.hierarchy.Resolvable x := by
  induction h with
  | done => simp
  | symbol hl _ ih => exact List.forall_mem_cons.2 ⟨resolvable_of_leaf hl, ih⟩
  | soundClass hn hm _ _ ihm ihr =>
    exact List.forall_mem_cons.2 ⟨(resolvable_iff_members hn hm).2 ihm, ihr⟩

theorem Gathers.visit (h : Gathers m row found result)
    (hc : ∀ c ∈ chain, ∀ x ∈ row, ¬ m.hierarchy.Reaches x c) :
    m.hierarchy.Visit chain row none := by
  induction h generalizing chain with
  | done => exact .done
  | symbol hl _ ih => exact .leaf hl (ih fun c hm x hx => hc c hm x (List.mem_cons_of_mem _ hx))
  | @soundClass k members _ rest _ _ hn hm hg _ ihm ihr =>
    have hk : k ∉ chain := fun hk => hc k hk k List.mem_cons_self Relation.ReflTransGen.refl
    refine .passed hn hk hm (ihm ?_)
      (ihr fun c hm x hx => hc c hm x (List.mem_cons_of_mem _ hx))
    intro c hcm x hx hxc
    have hkx : m.hierarchy.Lists k x := (lists_iff hn hm).2 hx
    rcases List.mem_append.1 hcm with hcm | hcm
    · exact hc c hcm k List.mem_cons_self (Relation.ReflTransGen.head hkx hxc)
    · rw [List.mem_singleton.1 hcm] at hxc
      exact ((resolvable_iff_members hn hm).2 hg.resolvable).not_cyclic
        (Relation.TransGen.head' hkx hxc)

theorem Covers.mem_iff (h : m.Covers x covered) :
    k ∈ covered ↔ m.hierarchy.leaf k ∧ m.hierarchy.Reaches x k := by
  obtain ⟨hn, members, hm, hg⟩ := h
  rw [hg.mem_iff, reaches_iff_members hn hm]
  constructor
  · rintro (h | ⟨hl, h⟩)
    · exact absurd h List.not_mem_nil
    · exact ⟨hl, .inr h⟩
  · rintro ⟨hl, rfl | h⟩
    · exact absurd hl hn
    · exact .inr ⟨hl, h⟩

theorem Covers.resolvable (h : m.Covers x covered) : m.hierarchy.Resolvable x := by
  obtain ⟨hn, members, hm, hg⟩ := h
  exact (resolvable_iff_members hn hm).2 hg.resolvable

theorem Covers.deterministic (h : m.Covers x covered) (h' : m.Covers x covered') :
    covered = covered' := by
  obtain ⟨_, members, hm, hg⟩ := h
  obtain ⟨_, others, ho, hg'⟩ := h'
  rw [hm, Option.some.injEq] at ho
  subst ho
  exact hg.deterministic hg'

theorem Covers.gathers (h : m.Covers k covered) :
    Gathers m [k] found (addSymbols covered found) := by
  obtain ⟨hn, members, hm, hg⟩ := h
  exact .soundClass hn hm hg .done

end Symbols

section Collecting

theorem sound_nil : m.Sound [] := fun _ _ h => absurd h List.not_mem_nil

theorem Sound.cons (h : m.Sound resolved) (hk : m.Covers k covered) :
    m.Sound ((k, covered) :: resolved) := by
  intro x others hx
  rcases List.mem_cons.1 hx with hx | hx
  · cases hx
    exact hk
  · exact h x others hx

theorem Sound.lookup (h : m.Sound resolved) (hk : resolved.lookup k = some covered) :
    m.Covers k covered :=
  h k covered (mem_of_lookup hk)

theorem Answers.cons (hk : m.Answers chain [k] found (.ok found'))
    (h : m.Answers chain rest found' r) : m.Answers chain (k :: rest) found r := by
  cases r with
  | ok result => exact ⟨hk.1.cons h.1, hk.2.cons h.2⟩
  | error e =>
    obtain ⟨stop, hv, he⟩ := h
    exact ⟨stop, hk.2.cons hv, he⟩

theorem Answers.cons_of_error (hk : m.Answers chain [k] found (.error e)) :
    m.Answers chain (k :: rest) found (.error e) := by
  obtain ⟨stop, hv, he⟩ := hk
  exact ⟨stop, hv.cons_of_stop, he⟩

theorem Covers.answers (h : m.Covers k covered) (hl : m.hierarchy.Leads chain [k]) :
    m.Answers chain [k] found (.ok (addSymbols covered found)) := by
  have hg : Gathers m [k] found (addSymbols covered found) := h.gathers
  refine ⟨hg, hg.visit ?_⟩
  intro c hc x hx
  rw [List.mem_singleton.1 hx]
  exact hl.not_reaches List.mem_cons_self h.resolvable hc

theorem remembered_bind {f : Option (List Handle) → Work Error α} {Q : Except Error α → Prop}
    (hs : ∀ covered, m.Covers k covered → Ensures m.Sound (f (some covered)) Q)
    (hn : Ensures m.Sound (f none) Q) : Ensures m.Sound (remembered? k >>= f) Q := by
  intro w hw
  cases hk : w.resolved.lookup k with
  | none =>
    have := hn w hw
    rwa [← hk] at this
  | some covered =>
    have := hs covered (hw.lookup hk) w hw
    rwa [← hk] at this

theorem addMember_ensures {descend : Handle → Work Error (List Handle)}
    (hl : m.hierarchy.Leads chain [k])
    (hd : ∀ members, ¬ m.hierarchy.leaf k → k ∉ chain → m.members? k = some members →
      Ensures m.Sound (descend k) (m.Answers (chain ++ [k]) members [])) :
    Ensures m.Sound (m.addMember descend chain found k) (m.Answers chain [k] found) := by
  unfold addMember
  by_cases hs : m.isSymbolHandle k = true
  · rw [if_pos hs]
    exact ensures_pure ⟨.symbol hs .done, .leaf hs .done⟩
  rw [if_neg hs]
  refine remembered_bind (fun covered hc => ensures_pure (hc.answers hl)) ?_
  by_cases hm : k ∈ chain
  · rw [if_pos (List.contains_iff_mem.2 hm)]
    refine ensures_throw ⟨⟨chain, k⟩, .cyclic hs hm, ?_⟩
    rw [stopError, if_pos (List.contains_iff_mem.2 hm)]
  rw [if_neg (by rwa [List.contains_iff_mem])]
  cases hk : m.members? k with
  | none =>
    refine ensures_throw ⟨⟨chain, k⟩, .undeclared hs hm hk, ?_⟩
    rw [stopError, if_neg (by rwa [List.contains_iff_mem])]
  | some members =>
    refine (hd members hs hm hk).bind ?_ ?_
    · exact fun covered ⟨hg, hv⟩ =>
        ensures_pure ⟨.soundClass hs hk hg .done, .passed hs hm hk hv .done⟩
    · exact fun e ⟨stop, hv, he⟩ => ⟨stop, .stopped hs hm hk hv, he⟩

theorem foldlM_ensures {add : List Handle → Handle → Work Error (List Handle)}
    {row : List Handle}
    (ha : ∀ found, ∀ k ∈ row, Ensures m.Sound (add found k) (m.Answers chain [k] found)) :
    Ensures m.Sound (row.foldlM add found) (m.Answers chain row found) := by
  induction row generalizing found with
  | nil => exact ensures_pure ⟨.done, .done⟩
  | cons k rest ih =>
    rw [List.foldlM_cons]
    refine (ha found k List.mem_cons_self).bind ?_ fun e he => he.cons_of_error
    intro found' hk
    exact (ih fun found x hx => ha found x (List.mem_cons_of_mem k hx)).weaken fun r hr =>
      hk.cons hr

theorem mem_classes_of_members? (h : (m.members? k).isSome) : k ∈ m.classes.map (·.1) := by
  obtain ⟨members, hm⟩ := Option.isSome_iff_exists.1 h
  exact List.mem_map.2 ⟨(k, members), mem_of_lookup hm, rfl⟩

/-- The classes on a chain are distinct, so that its length leaves enough depth to go on. -/
theorem collect_ensures (depth : Nat) (hn : ¬ m.hierarchy.leaf h)
    (hm : m.members? h = some members) (hc : Chain (fun c => (m.members? c).isSome) (chain ++ [h]))
    (hdepth : m.classes.length ≤ depth + chain.length) (hl : m.hierarchy.Leads chain [h]) :
    Ensures m.Sound (m.collect depth chain h) (m.Answers (chain ++ [h]) members []) := by
  induction depth generalizing chain h members with
  | zero =>
    -- A chain that leaves no depth would have more classes on it than there are.
    have hlt := hc.length_lt fun c => mem_classes_of_members?
    rw [List.length_map] at hlt
    omega
  | succ depth ih =>
    have hlead : m.hierarchy.Leads (chain ++ [h]) members := hl.enter hn hm
    have hrow : Ensures m.Sound
        (members.foldlM (m.addMember (m.collect depth (chain ++ [h])) (chain ++ [h])) [])
        (m.Answers (chain ++ [h]) members []) := by
      refine foldlM_ensures fun found k hk => ?_
      have hlk : m.hierarchy.Leads (chain ++ [h]) [k] := by
        intro c hc x hx
        rw [List.mem_singleton.1 hx]
        exact hlead c hc k hk
      refine addMember_ensures hlk fun others hnk hk hmk => ih hnk hmk ?_ ?_ hlk
      · exact hc.concat hk (by rw [hmk]; rfl)
      · rw [List.length_append, List.length_singleton]
        omega
    unfold collect
    simp only [hm, Option.getD_some]
    refine hrow.bind ?_ fun e he => he
    rintro covered ⟨hg, hv⟩
    refine Ensures.bind (P := (· = .ok ())) (ensures_remember ?_ rfl) ?_ (by rintro e he; cases he)
    · exact fun resolved hr => hr.cons ⟨hn, members, hm, hg⟩
    · exact fun _ _ => ensures_pure ⟨hg, hv⟩

/-- Handles are resolved as the hierarchy says, and what is remembered stays sound. -/
theorem resolveHandle_ensures (m : Model) (h : Handle) :
    Ensures m.Sound (m.resolveHandle h) (m.Resolves h) := by
  unfold resolveHandle
  refine remembered_bind (fun covered hc => ensures_pure (.inr hc)) ?_
  by_cases hs : m.isSymbolHandle h = true
  · rw [if_pos hs]
    exact ensures_pure (.inl ⟨hs, rfl⟩)
  rw [if_neg hs]
  cases hm : m.members? h with
  | none => exact ensures_throw ⟨⟨[], h⟩, .undeclared hs List.not_mem_nil hm, rfl⟩
  | some members =>
    have hchain : Chain (fun c => (m.members? c).isSome) ([] ++ [h]) :=
      Chain.nil.concat List.not_mem_nil (by rw [hm]; rfl)
    have hcollect : Ensures m.Sound (m.collect m.classes.length [] h) (m.Answers [h] members []) :=
      collect_ensures _ hs hm hchain (Nat.le_add_right _ _) (.nil [h])
    refine hcollect.bind ?_ ?_
    · rintro covered ⟨hg, _⟩
      refine Ensures.bind (P := (· = .ok ())) (ensures_report rfl) ?_ (by rintro e he; cases he)
      exact fun _ _ => ensures_pure (.inr ⟨hs, members, hm, hg⟩)
    · rintro e ⟨stop, hv, he⟩
      exact ⟨stop, .stopped hs List.not_mem_nil hm hv, he⟩

end Collecting

section Resolving

theorem Resolves.visit (h : m.Resolves x (.ok covered)) : m.hierarchy.Visit [] [x] none := by
  rcases h with ⟨hl, rfl⟩ | h
  · exact .leaf hl .done
  · have hg : Gathers m [x] [] (addSymbols covered []) := h.gathers
    exact hg.visit fun c hc => absurd hc List.not_mem_nil

theorem Resolves.deterministic (h : m.Resolves x r) (h' : m.Resolves x r') : r = r' := by
  cases r with
  | ok covered =>
    cases r' with
    | ok others =>
      rcases h with ⟨hl, rfl⟩ | h
      · rcases h' with ⟨_, rfl⟩ | h'
        · rfl
        · exact absurd hl h'.1
      · rcases h' with ⟨hl, rfl⟩ | h'
        · exact absurd hl h.1
        · rw [h.deterministic h']
    | error e =>
      obtain ⟨stop, hv, _⟩ := h'
      cases h.visit.deterministic hv
  | error e =>
    obtain ⟨stop, hv, rfl⟩ := h
    cases r' with
    | ok others => cases hv.deterministic h'.visit
    | error e =>
      obtain ⟨stop', hv', rfl⟩ := h'
      cases hv.deterministic hv'
      rfl

theorem Resolves.mem_iff (h : m.Resolves x (.ok covered)) :
    k ∈ covered ↔ m.hierarchy.leaf k ∧ m.hierarchy.Reaches x k := by
  rcases h with ⟨hl, rfl⟩ | h
  · rw [List.mem_singleton, reaches_leaf_iff hl]
    exact ⟨fun h => ⟨h ▸ hl, h⟩, fun h => h.2⟩
  · exact h.mem_iff

theorem Resolves.nodup (h : m.Resolves x (.ok covered)) : covered.Nodup := by
  rcases h with ⟨_, rfl⟩ | ⟨_, _, _, hg⟩
  · exact List.nodup_singleton x
  · exact hg.nodup List.nodup_nil

theorem Resolves.resolvable (h : m.Resolves x (.ok covered)) : m.hierarchy.Resolvable x :=
  h.visit.resolvable x List.mem_cons_self

theorem Resolves.not_resolvable (h : m.Resolves x (.error e)) : ¬ m.hierarchy.Resolvable x := by
  obtain ⟨stop, hv, _⟩ := h
  exact hv.not_resolvable

theorem stopError_cause (m : Model) (stop : Stop Handle) :
    (∃ chain, (m.stopError stop).cause = .cycle "class" chain) ∨
      ∃ name, (m.stopError stop).cause = .unknown "class" (.text name) := by
  unfold stopError
  split
  · exact .inl ⟨_, rfl⟩
  · exact .inr ⟨_, rfl⟩

/-- There are as many levels as there are classes, so that none is met when no level is left. -/
theorem resolveHandle_depth (m : Model) (h : Handle) :
    Ensures m.Sound (m.resolveHandle h) (· ≠ .error outOfDepth) := by
  refine (resolveHandle_ensures m h).weaken fun r hr => ?_
  rintro rfl
  obtain ⟨stop, -, he⟩ := hr
  have hcause : (m.stopError stop).cause = outOfDepth.cause := congrArg Error.cause he.symm
  rcases stopError_cause m stop with ⟨chain, hc⟩ | ⟨name, hc⟩
  · cases hc.symm.trans hcause
  · cases hc.symm.trans hcause

theorem resolveHandle_resolves (m : Model) (h : Handle) :
    m.Resolves h ((m.resolveHandle h).outcome {}) :=
  (resolveHandle_ensures m h {} sound_nil).1

theorem resolveHandle_steady (m : Model) (h : Handle) : Steady m.Sound (m.resolveHandle h) :=
  ⟨_, (resolveHandle_ensures m h).settles (fun _ _ => Resolves.deterministic) {} sound_nil⟩

end Resolving

end Silbo.Model
