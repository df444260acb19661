import Silbo.Proofs.Selection

/-!
What a name resolves to, said by names alone: the symbols in its reach, each of them once, or the
error of the visit that stops. The handles of a model are not mentioned, so that tables can be
compared whose models number their names differently.
-/
namespace Silbo

/-- What is reported of a visit that stops among entries of a kind: a cycle if the member that cannot
be opened is open already, an unknown entry otherwise. -/
def Hierarchy.Stop.failure (kind : String) (stop : Hierarchy.Stop String) : Error :=
  if stop.chain.contains stop.member then
    ⟨.cycle kind (stop.chain.dropWhile (· != stop.member) ++ [stop.member]), none, none⟩
  else ⟨.unknown kind (.text stop.member), none, none⟩

theorem Hierarchy.Stop.failure_of_open (h : x ∉ before) (rest : List String) (kind : String) :
    (⟨before ++ x :: rest, x⟩ : Hierarchy.Stop String).failure kind =
      ⟨.cycle kind (x :: rest ++ [x]), none, none⟩ := by
  have hmem : x ∈ before ++ x :: rest := List.mem_append_right _ List.mem_cons_self
  rw [failure, if_pos (List.contains_iff_mem.2 hmem), dropWhile_append_cons h]

theorem Hierarchy.Stop.failure_of_not_open {chain : List String} (h : x ∉ chain) (kind : String) :
    (⟨chain, x⟩ : Hierarchy.Stop String).failure kind = ⟨.unknown kind (.text x), none, none⟩ := by
  rw [failure, if_neg (mt List.contains_iff_mem.1 h)]

def SameNames (names others : List String) : Prop :=
  names.Nodup ∧ others.Nodup ∧ ∀ x, x ∈ names ↔ x ∈ others

theorem SameNames.contains_eq (h : SameNames names others) : names.contains = others.contains := by
  funext x
  rw [Bool.eq_iff_iff, List.contains_iff_mem, List.contains_iff_mem, h.2.2]

def inOrder (names : List String) : List String := names.mergeSort fun a b => decide (a ≤ b)

theorem pairwise_inOrder (names : List String) : (inOrder names).Pairwise fun a b => a ≤ b := by
  have h := @List.pairwise_mergeSort _ (fun a b => decide (a ≤ b))
    (fun a b c hab hbc => by
      simp only [decide_eq_true_eq] at hab hbc ⊢
      exact String.le_trans hab hbc)
    (fun a b => by simpa using String.le_total a b) names
  exact h.imp fun hab => of_decide_eq_true hab

theorem inOrder_of_pairwise (h : names.Pairwise fun a b => a ≤ b) : inOrder names = names :=
  List.mergeSort_of_pairwise (h.imp fun hab => decide_eq_true hab)

theorem SameNames.inOrder_eq (h : SameNames names others) : inOrder names = inOrder others := by
  have hperm : names.Perm others := (List.perm_ext_iff_of_nodup h.1 h.2.1).2 h.2.2
  have hsorted : (inOrder names).Perm (inOrder others) :=
    (List.mergeSort_perm names _).trans (hperm.trans (List.mergeSort_perm others _).symm)
  exact hsorted.eq_of_pairwise (fun a b _ _ => String.le_antisymm) (pairwise_inOrder names)
    (pairwise_inOrder others)

theorem sameNames_inOrder (h : names.Nodup) : SameNames (inOrder names) names := by
  have hperm : (inOrder names).Perm names := List.mergeSort_perm names _
  exact ⟨hperm.nodup_iff.2 h, h, fun x => hperm.mem_iff⟩

namespace Table
open Hierarchy

/-- What a name comes to in the classes of a table. -/
def Denotes (t : Table) (name : String) : Except Error (List String) → Prop
  | .ok names => t.hierarchy.Resolvable name ∧ names.Nodup ∧
      ∀ x, x ∈ names ↔ t.hierarchy.leaf x ∧ t.hierarchy.Reaches name x
  | .error e => ∃ stop, t.hierarchy.Visit [] [name] (some stop) ∧ e = stop.failure "class"

variable {t t' : Table}

theorem Denotes.matches {r r' : Except Error (List String)} (h : t.Denotes name r)
    (h' : t.Denotes name r') : Work.Matches SameNames r r' := by
  cases r with
  | ok names =>
    cases r' with
    | ok others =>
      refine .ok ⟨h.2.1, h'.2.1, fun x => ?_⟩
      rw [h.2.2, h'.2.2]
    | error e =>
      obtain ⟨stop, hv, _⟩ := h'
      exact absurd h.1 hv.not_resolvable
  | error e =>
    obtain ⟨stop, hv, rfl⟩ := h
    cases r' with
    | ok others => exact absurd h'.1 hv.not_resolvable
    | error e =>
      obtain ⟨stop', hv', rfl⟩ := h'
      cases hv.deterministic hv'
      exact .error

/-- A name denotes the same in a table whose classes are the same as far as the name reaches. -/
theorem Denotes.transfer {P : String → Prop} {r : Except Error (List String)}
    (s : t.hierarchy.Similar t'.hierarchy fun x y => x = y ∧ P x) (hname : P name)
    (h : t.Denotes name r) : t'.Denotes name r := by
  cases r with
  | ok names =>
    obtain ⟨hr, hn, hmem⟩ := h
    refine ⟨s.resolvable ⟨rfl, hname⟩ hr, hn, fun x => ?_⟩
    rw [hmem]
    constructor
    · rintro ⟨hl, hx⟩
      obtain ⟨_, ⟨rfl, hp⟩, hx'⟩ := s.reaches ⟨rfl, hname⟩ hx
      exact ⟨(s.leaf_iff ⟨rfl, hp⟩).1 hl, hx'⟩
    · rintro ⟨hl, hx⟩
      obtain ⟨_, ⟨rfl, hp⟩, hx'⟩ := s.symm.reaches ⟨rfl, hname⟩ hx
      exact ⟨(s.leaf_iff ⟨rfl, hp⟩).2 hl, hx'⟩
  | error e =>
    obtain ⟨stop, hv, rfl⟩ := h
    obtain ⟨_, hv', hs⟩ := s.visit hv .nil (.cons ⟨rfl, hname⟩ .nil)
    cases hs with
    | @some _ stop' hs =>
      have hchain : stop.chain = stop'.chain := by
        rw [← List.forall₂_eq_eq_eq]
        exact hs.1.imp fun _ _ => And.left
      refine ⟨stop', hv', ?_⟩
      unfold Stop.failure
      rw [hchain, hs.2.1]

section Handles

variable {chain : List Handle} {names : List String}

theorem map_nameOf_dropWhile
    (h : List.Forall₂ (fun i x => (Model.ofTable t).handle? x = some i) chain names)
    (hi : (Model.ofTable t).handle? name = some i) :
    (chain.dropWhile (· != i)).map (Model.ofTable t).nameOf = names.dropWhile (· != name) := by
  induction h with
  | nil => rfl
  | @cons j x rest others hj hrest ih =>
    by_cases hx : x = name
    · subst hx
      rw [hj, Option.some.injEq] at hi
      subst hi
      have hmap : rest.map (Model.ofTable t).nameOf = others := by
        rw [← List.forall₂_eq_eq_eq, List.forall₂_map_left_iff]
        exact hrest.imp fun _ _ => Model.nameOf_of_handle?
      simp [hmap, Model.nameOf_of_handle? hj]
    · have hne : j ≠ i := by
        rintro rfl
        exact hx (Lexicon.handle?_injective hj hi)
      simp [hx, hne, ih]

theorem stopError_eq {stop : Stop Handle} {stop' : Stop String}
    (hc : List.Forall₂ (fun i x => (Model.ofTable t).handle? x = some i) stop.chain stop'.chain)
    (hm : (Model.ofTable t).handle? stop'.member = some stop.member) :
    (Model.ofTable t).stopError stop = stop'.failure "class" := by
  have hmem := (Model.similar_ofTable t).mem_iff hc hm
  unfold Model.stopError Stop.failure
  by_cases hopen : stop.member ∈ stop.chain
  · have hopen' := hmem.1 hopen
    rw [if_pos (List.contains_iff_mem.2 hopen), if_pos (List.contains_iff_mem.2 hopen')]
    unfold Model.classCycle
    rw [List.map_append, map_nameOf_dropWhile hc hm, List.map_singleton,
      Model.nameOf_of_handle? hm]
  · have hopen' := mt hmem.2 hopen
    rw [if_neg (mt List.contains_iff_mem.1 hopen), if_neg (mt List.contains_iff_mem.1 hopen')]
    unfold Model.unknownClass
    rw [Model.nameOf_of_handle? hm]

/-- The names that a model resolves a name to are those that its table has for it. -/
theorem denotes_namesOf (t : Table) (name : String) :
    t.Denotes name ((Model.ofTable t).namesOf name) := by
  unfold Model.namesOf
  cases hi : (Model.ofTable t).handle? name with
  | none =>
    have hn := Model.not_declared_of_handle? hi
    rw [Declared, not_or] at hn
    have hm : t.hierarchy.members? name = none := by simpa using hn.2
    unfold Model.resolveClass
    rw [hi]
    exact ⟨⟨[], name⟩, .undeclared hn.1 List.not_mem_nil hm, rfl⟩
  | some i =>
    have hr := Model.resolveClass_resolves hi
    cases ho : ((Model.ofTable t).resolveClass name).outcome {} with
    | ok covered =>
      rw [ho] at hr
      refine ⟨((Model.similar_ofTable t).resolvable_iff hi).1 hr.resolvable, hr.nodup_names hi,
        fun x => ?_⟩
      rw [List.mem_map, ← Model.exists_leaf_iff hi]
      exact exists_congr fun k => and_congr_left' hr.mem_iff
    | error e =>
      rw [ho] at hr
      obtain ⟨stop, hv, rfl⟩ := hr
      obtain ⟨_, hv', hs⟩ := (Model.similar_ofTable t).visit hv .nil (.cons hi .nil)
      cases hs with
      | @some _ stop' hs => exact ⟨stop', hv', stopError_eq hs.1 hs.2⟩

end Handles

end Table

namespace Model

variable {t : Table}

theorem exists_handle?_of_ok (h : ((ofTable t).resolveClass name).outcome {} = .ok covered) :
    ∀ k ∈ covered, ∃ x, (ofTable t).handle? x = some k := by
  intro k hk
  obtain ⟨i, hi⟩ := handle?_of_ok h
  have hr := resolveClass_resolves hi
  rw [h] at hr
  obtain ⟨x, hx, _⟩ := (similar_ofTable t).reaches hi (hr.mem_iff.1 hk).2
  exact ⟨x, hx⟩

theorem mem_iff_of_names (h : ((ofTable t).resolveClass name).outcome {} = .ok covered)
    (h' : ((ofTable t).resolveClass name').outcome {} = .ok covered')
    (hn : ∀ x, x ∈ covered.map (ofTable t).nameOf ↔ x ∈ covered'.map (ofTable t).nameOf)
    (k : Handle) : k ∈ covered ↔ k ∈ covered' := by
  have one_way {rows rows' : List Handle} (hrows : ∀ k ∈ rows, ∃ x, (ofTable t).handle? x = some k)
      (hrows' : ∀ k ∈ rows', ∃ x, (ofTable t).handle? x = some k)
      (hn : ∀ x, x ∈ rows.map (ofTable t).nameOf → x ∈ rows'.map (ofTable t).nameOf)
      (hk : k ∈ rows) : k ∈ rows' := by
    obtain ⟨x, hx⟩ := hrows k hk
    obtain ⟨l, hl, hlk⟩ := List.mem_map.1 (hn _ (List.mem_map_of_mem hk))
    obtain ⟨y, hy⟩ := hrows' l hl
    rw [nameOf_of_handle? hx, nameOf_of_handle? hy] at hlk
    subst hlk
    rw [hx, Option.some.injEq] at hy
    rwa [hy]
  have hc := exists_handle?_of_ok h
  have hc' := exists_handle?_of_ok h'
  exact ⟨one_way hc hc' fun x => (hn x).1, one_way hc' hc fun x => (hn x).2⟩

theorem map_plain_sorted (h : ∀ k ∈ covered, ∃ x, (ofTable t).handle? x = some k) :
    ((ofTable t).sorted covered).map Datum.plain = inOrder (covered.map (ofTable t).nameOf) := by
  have hnames : (covered.filterMap (ofTable t).lexicon.name?).map Datum.plain =
      covered.map (ofTable t).nameOf := by
    induction covered with
    | nil => rfl
    | cons k covered ih =>
      obtain ⟨⟨x, hx⟩, hrest⟩ := List.forall_mem_cons.1 h
      have hname := Lexicon.name?_of_handle? hx
      rw [List.filterMap_cons, hname, List.map_cons, List.map_cons, ih hrest, nameOf_of_handle? hx]
      rfl
  unfold sorted inOrder
  rw [← hnames]
  exact List.map_mergeSort fun a _ b _ => rfl

theorem flattenClass_eq (t : Table) (name : String) :
    ((ofTable t).flattenClass name).outcome {} = ((ofTable t).namesOf name).map inOrder := by
  unfold flattenClass namesOf
  rw [Work.outcome_bind]
  cases ho : ((ofTable t).resolveClass name).outcome {} with
  | error e => rfl
  | ok covered =>
    show Except.ok _ = Except.ok _
    rw [map_plain_sorted (exists_handle?_of_ok ho)]

end Model

end Silbo
