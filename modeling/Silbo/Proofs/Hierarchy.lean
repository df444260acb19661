import Mathlib.Data.List.Forall2
import Mathlib.Logic.Relation

/-!
Hierarchies: entries that list members, down to leaves. A depth-first visit goes through the
members in order. It stops at the first entry that is on its own chain or that lists nothing, and
it does not stop at all exactly if everything in reach is declared and nothing in reach is cyclic.
-/
namespace Silbo

/-- A leaf stays a leaf where members are listed for it. -/
structure Hierarchy (α : Type) where
  leaf : α → Prop
  members? : α → Option (List α)

namespace Hierarchy

variable {α : Type} (g : Hierarchy α)

/-- `y` is a member of `x`. Leaves have no members. -/
def Lists (x y : α) : Prop := ¬ g.leaf x ∧ ∃ members, g.members? x = some members ∧ y ∈ members

def Reaches : α → α → Prop := Relation.ReflTransGen g.Lists

def Cyclic (x : α) : Prop := Relation.TransGen g.Lists x x

def Declared (x : α) : Prop := g.leaf x ∨ (g.members? x).isSome

def Resolvable (x : α) : Prop := ∀ y, g.Reaches x y → g.Declared y ∧ ¬ g.Cyclic y

/-- Where a visit stops: the entries that are open, outermost first, and the member that cannot
be opened. -/
structure Stop (α : Type) where
  chain : List α
  member : α

/-- The visit of a row of entries under the open entries of `chain`, with its stop if it has one. -/
inductive Visit (g : Hierarchy α) : List α → List α → Option (Stop α) → Prop where
  | done : Visit g chain [] none
  | leaf : g.leaf x → Visit g chain rest stop → Visit g chain (x :: rest) stop
  | cyclic : ¬ g.leaf x → x ∈ chain → Visit g chain (x :: rest) (some ⟨chain, x⟩)
  | undeclared : ¬ g.leaf x → x ∉ chain → g.members? x = none →
      Visit g chain (x :: rest) (some ⟨chain, x⟩)
  | passed : ¬ g.leaf x → x ∉ chain → g.members? x = some members →
      Visit g (chain ++ [x]) members none → Visit g chain rest stop → Visit g chain (x :: rest) stop
  | stopped : ¬ g.leaf x → x ∉ chain → g.members? x = some members →
      Visit g (chain ++ [x]) members (some stop) → Visit g chain (x :: rest) (some stop)

/-- Every open entry leads to every entry of the row. -/
def Leads (chain row : List α) : Prop := ∀ c ∈ chain, ∀ x ∈ row, Relation.TransGen g.Lists c x

variable {g}

section Reach

theorem lists_iff (hx : ¬ g.leaf x) (hm : g.members? x = some members) :
    g.Lists x y ↔ y ∈ members := by
  constructor
  · rintro ⟨_, others, ho, hy⟩
    rw [hm, Option.some.injEq] at ho
    exact ho ▸ hy
  · exact fun hy => ⟨hx, members, hm, hy⟩

theorem reaches_leaf_iff (hx : g.leaf x) : g.Reaches x y ↔ y = x := by
  constructor
  · intro h
    obtain rfl | ⟨_, hl, _⟩ := Relation.ReflTransGen.cases_head h
    · rfl
    · exact absurd hx hl.1
  · rintro rfl
    exact Relation.ReflTransGen.refl

theorem reaches_iff_members (hx : ¬ g.leaf x) (hm : g.members? x = some members) :
    g.Reaches x y ↔ y = x ∨ ∃ z ∈ members, g.Reaches z y := by
  constructor
  · intro h
    obtain rfl | ⟨z, hz, hzy⟩ := Relation.ReflTransGen.cases_head h
    · exact .inl rfl
    · exact .inr ⟨z, (lists_iff hx hm).1 hz, hzy⟩
  · rintro (rfl | ⟨z, hz, hzy⟩)
    · exact Relation.ReflTransGen.refl
    · exact Relation.ReflTransGen.head ((lists_iff hx hm).2 hz) hzy

theorem Resolvable.of_reaches (h : g.Resolvable x) (hy : g.Reaches x y) : g.Resolvable y :=
  fun z hz => h z (hy.trans hz)

theorem Resolvable.not_cyclic (h : g.Resolvable x) : ¬ g.Cyclic x :=
  (h x Relation.ReflTransGen.refl).2

theorem resolvable_of_leaf (hx : g.leaf x) : g.Resolvable x := by
  intro y hy
  rw [reaches_leaf_iff hx] at hy
  subst hy
  refine ⟨.inl hx, fun hc => ?_⟩
  obtain ⟨_, hl, _⟩ := Relation.TransGen.head'_iff.1 hc
  exact hl.1 hx

/-- A group is resolvable if its members are: a cycle through it would run through one of them. -/
theorem resolvable_iff_members (hx : ¬ g.leaf x) (hm : g.members? x = some members) :
    g.Resolvable x ↔ ∀ y ∈ members, g.Resolvable y := by
  constructor
  · exact fun h y hy => h.of_reaches (Relation.ReflTransGen.single ((lists_iff hx hm).2 hy))
  · intro h y hy
    obtain rfl | ⟨z, hz, hzy⟩ := (reaches_iff_members hx hm).1 hy
    · refine ⟨.inr (by rw [hm]; rfl), fun hc => ?_⟩
      obtain ⟨z, hl, hzy⟩ := Relation.TransGen.head'_iff.1 hc
      have hz : z ∈ members := (lists_iff hx hm).1 hl
      exact (h z hz y hzy).2 hc
    · exact h z hz y hzy

theorem Resolvable.mono {g' : Hierarchy α} (h : g.Resolvable x)
    (hl : ∀ x y, g'.Lists x y → g.Lists x y) (hd : ∀ x, g.Declared x → g'.Declared x) :
    g'.Resolvable x := by
  intro y hy
  obtain ⟨hdeclared, hcyclic⟩ := h y (Relation.ReflTransGen.mono hl x y hy)
  exact ⟨hd y hdeclared, fun hc => hcyclic (Relation.TransGen.mono hl y y hc)⟩

end Reach

section Stops

theorem Leads.nil (row : List α) : g.Leads [] row := fun _ hc => absurd hc List.not_mem_nil

theorem Leads.tail (h : g.Leads chain (x :: rest)) : g.Leads chain rest :=
  fun c hc y hy => h c hc y (List.mem_cons_of_mem x hy)

theorem Leads.enter (h : g.Leads chain (x :: rest)) (hx : ¬ g.leaf x)
    (hm : g.members? x = some members) : g.Leads (chain ++ [x]) members := by
  intro c hc y hy
  have hl : g.Lists x y := (lists_iff hx hm).2 hy
  rcases List.mem_append.1 hc with hc | hc
  · exact (h c hc x List.mem_cons_self).tail hl
  · rw [List.mem_singleton.1 hc]
    exact Relation.TransGen.single hl

theorem Leads.not_reaches (h : g.Leads chain row) (hx : x ∈ row) (hr : g.Resolvable x)
    (hc : c ∈ chain) : ¬ g.Reaches x c :=
  fun hxc => (hr c hxc).2 ((h c hc x hx).trans_left hxc)

theorem Visit.deterministic (h : g.Visit chain row stop) (h' : g.Visit chain row stop') :
    stop = stop' := by
  induction h generalizing stop' with
  | done => cases h'; rfl
  | leaf hx _ ih =>
    cases h' with
    | leaf _ h => exact ih h
    | cyclic hn => exact absurd hx hn
    | undeclared hn => exact absurd hx hn
    | passed hn => exact absurd hx hn
    | stopped hn => exact absurd hx hn
  | cyclic hx hc =>
    cases h' with
    | leaf hl => exact absurd hl hx
    | cyclic => rfl
    | undeclared => rfl
    | passed _ hn => exact absurd hc hn
    | stopped _ hn => exact absurd hc hn
  | undeclared hx hc hm =>
    cases h' with
    | leaf hl => exact absurd hl hx
    | cyclic _ hn => exact absurd hn hc
    | undeclared => rfl
    | passed _ _ hs => simp [hm] at hs
    | stopped _ _ hs => simp [hm] at hs
  | passed hx hc hm _ _ ihm ihr =>
    cases h' with
    | leaf hl => exact absurd hl hx
    | cyclic _ hn => exact absurd hn hc
    | undeclared _ _ hn => simp [hm] at hn
    | passed _ _ hs _ h =>
      exact ihr h
    | stopped _ _ hs h =>
      rw [hm, Option.some.injEq] at hs
      subst hs
      cases ihm h
  | stopped hx hc hm _ ih =>
    cases h' with
    | leaf hl => exact absurd hl hx
    | cyclic _ hn => exact absurd hn hc
    | undeclared _ _ hn => simp [hm] at hn
    | passed _ _ hs h _ =>
      rw [hm, Option.some.injEq] at hs
      subst hs
      cases ih h
    | stopped _ _ hs h =>
      rw [hm, Option.some.injEq] at hs
      subst hs
      exact ih h

theorem Visit.cons (hx : g.Visit chain [x] none) (h : g.Visit chain rest stop) :
    g.Visit chain (x :: rest) stop := by
  cases hx with
  | leaf hl => exact .leaf hl h
  | passed hn hc hm hv => exact .passed hn hc hm hv h

theorem Visit.cons_of_stop (hx : g.Visit chain [x] (some stop)) :
    g.Visit chain (x :: rest) (some stop) := by
  cases hx with
  | leaf _ h => cases h
  | cyclic hn hc => exact .cyclic hn hc
  | undeclared hn hc hm => exact .undeclared hn hc hm
  | passed _ _ _ _ h => cases h
  | stopped hn hc hm hv => exact .stopped hn hc hm hv

theorem Visit.resolvable (h : g.Visit chain row none) : ∀ x ∈ row, g.Resolvable x := by
  generalize hs : (none : Option (Stop α)) = stop at h
  induction h with
  | done => simp
  | leaf hx _ ih => exact List.forall_mem_cons.2 ⟨resolvable_of_leaf hx, ih hs⟩
  | cyclic => cases hs
  | undeclared => cases hs
  | passed hx _ hm _ _ ihm ihr =>
    exact List.forall_mem_cons.2 ⟨(resolvable_iff_members hx hm).2 (ihm rfl), ihr hs⟩
  | stopped => cases hs

theorem Visit.exists_not_resolvable (h : g.Visit chain row (some stop)) (hl : g.Leads chain row) :
    ∃ x ∈ row, ¬ g.Resolvable x := by
  generalize hs : some stop = result at h
  induction h with
  | done => cases hs
  | leaf _ _ ih =>
    obtain ⟨y, hy, hn⟩ := ih hl.tail hs
    exact ⟨y, List.mem_cons_of_mem _ hy, hn⟩
  | cyclic hx hc =>
    exact ⟨_, List.mem_cons_self, fun hr => hr.not_cyclic (hl _ hc _ List.mem_cons_self)⟩
  | @undeclared x _ _ hx hc hm =>
    refine ⟨x, List.mem_cons_self, fun hr => ?_⟩
    rcases (hr x Relation.ReflTransGen.refl).1 with hd | hd
    · exact hx hd
    · simp [hm] at hd
  | passed _ _ _ _ _ _ ihr =>
    obtain ⟨y, hy, hn⟩ := ihr hl.tail hs
    exact ⟨y, List.mem_cons_of_mem _ hy, hn⟩
  | stopped hx _ hm _ ih =>
    obtain ⟨y, hy, hn⟩ := ih (hl.enter hx hm) hs
    exact ⟨_, List.mem_cons_self, fun hr => hn ((resolvable_iff_members hx hm).1 hr y hy)⟩

theorem Visit.not_resolvable (h : g.Visit [] [x] (some stop)) : ¬ g.Resolvable x := by
  obtain ⟨y, hy, hn⟩ := h.exists_not_resolvable (.nil [x])
  rwa [List.mem_singleton.1 hy] at hn

/-- Among the entries that are open where a visit stops, those it has opened are not resolvable. -/
theorem Visit.stop_chain (h : g.Visit chain row (some stop)) (hl : g.Leads chain row) :
    ∀ c ∈ stop.chain, c ∈ chain ∨ ¬ g.Resolvable c := by
  generalize hs : some stop = result at h
  induction h with
  | done => cases hs
  | leaf _ _ ih => exact ih hl.tail hs
  | cyclic => cases hs; exact fun c hc => .inl hc
  | undeclared => cases hs; exact fun c hc => .inl hc
  | passed _ _ _ _ _ _ ihr => exact ihr hl.tail hs
  | stopped hx _ hm h ih =>
    cases hs
    intro c hc
    rcases ih (hl.enter hx hm) rfl c hc with hc | hn
    · rcases List.mem_append.1 hc with hc | hc
      · exact .inl hc
      · obtain ⟨y, hy, hn⟩ := h.exists_not_resolvable (hl.enter hx hm)
        rw [List.mem_singleton.1 hc]
        exact .inr fun hr => hn ((resolvable_iff_members hx hm).1 hr y hy)
    · exact .inr hn

end Stops

section Similarity

variable {β : Type}

/-- Two hierarchies that differ in the names of their entries only. -/
structure Similar (g : Hierarchy α) (g' : Hierarchy β) (R : α → β → Prop) : Prop where
  left_unique : R x y → R z y → x = z
  right_unique : R x y → R x z → y = z
  leaf_iff : R x y → (g.leaf x ↔ g'.leaf y)
  none_iff : R x y → (g.members? x = none ↔ g'.members? y = none)
  forall₂ : R x y → g.members? x = some members → g'.members? y = some others →
    List.Forall₂ R members others

variable {g' : Hierarchy β} {R : α → β → Prop}

theorem Similar.symm (s : g.Similar g' R) : g'.Similar g (fun y x => R x y) where
  left_unique h h' := s.right_unique h h'
  right_unique h h' := s.left_unique h h'
  leaf_iff h := (s.leaf_iff h).symm
  none_iff h := (s.none_iff h).symm
  forall₂ h hm ho := (s.forall₂ h ho hm).flip

theorem Similar.lists (s : g.Similar g' R) (h : R x y) (hl : g.Lists x z) :
    ∃ w, R z w ∧ g'.Lists y w := by
  obtain ⟨hx, members, hm, hz⟩ := hl
  cases ho : g'.members? y with
  | none =>
    rw [(s.none_iff h).2 ho] at hm
    cases hm
  | some others =>
    have hf := s.forall₂ h hm ho
    obtain ⟨i, hi, rfl⟩ := List.getElem_of_mem hz
    have hj : i < others.length := hf.length_eq ▸ hi
    exact ⟨others[i], hf.get hi hj, fun hy => hx ((s.leaf_iff h).2 hy), others, ho,
      List.getElem_mem hj⟩

theorem Similar.reaches (s : g.Similar g' R) (h : R x y) (hr : g.Reaches x z) :
    ∃ w, R z w ∧ g'.Reaches y w := by
  induction hr with
  | refl => exact ⟨y, h, Relation.ReflTransGen.refl⟩
  | tail _ hl ih =>
    obtain ⟨w, hw, hyw⟩ := ih
    obtain ⟨v, hv, hwv⟩ := s.lists hw hl
    exact ⟨v, hv, hyw.tail hwv⟩

theorem Similar.cyclic (s : g.Similar g' R) (h : R x y) (hc : g.Cyclic x) : g'.Cyclic y := by
  obtain ⟨z, hz, hzx⟩ := Relation.TransGen.head'_iff.1 hc
  obtain ⟨w, hw, hyw⟩ := s.lists h hz
  obtain ⟨v, hv, hwv⟩ := s.reaches hw hzx
  rw [s.right_unique hv h] at hwv
  exact Relation.TransGen.head' hyw hwv

theorem Similar.declared (s : g.Similar g' R) (h : R x y) (hd : g.Declared x) : g'.Declared y := by
  refine hd.imp (s.leaf_iff h).1 fun hm => ?_
  rw [Option.isSome_iff_ne_none] at hm ⊢
  exact fun hn => hm ((s.none_iff h).2 hn)

theorem Similar.resolvable (s : g.Similar g' R) (h : R x y) (hx : g.Resolvable x) :
    g'.Resolvable y := by
  intro w hw
  obtain ⟨z, hz, hxz⟩ := s.symm.reaches h hw
  exact ⟨s.declared hz (hx z hxz).1, fun hc => (hx z hxz).2 (s.symm.cyclic hz hc)⟩

theorem Similar.resolvable_iff (s : g.Similar g' R) (h : R x y) :
    g.Resolvable x ↔ g'.Resolvable y :=
  ⟨s.resolvable h, s.symm.resolvable h⟩

theorem Similar.mem_iff (s : g.Similar g' R) (hc : List.Forall₂ R chain chain') (h : R x y) :
    x ∈ chain ↔ y ∈ chain' := by
  induction hc with
  | nil => simp
  | @cons a b _ _ hab _ ih =>
    have heads : x = a ↔ y = b := by
      constructor
      · rintro rfl
        exact s.right_unique h hab
      · rintro rfl
        exact s.left_unique h hab
    rw [List.mem_cons, List.mem_cons, ih, heads]

/-- Visits of hierarchies that differ in names only stop at the same place, if they stop. -/
theorem Similar.visit (s : g.Similar g' R) (h : g.Visit chain row stop)
    (hc : List.Forall₂ R chain chain') (hr : List.Forall₂ R row row') :
    ∃ stop', g'.Visit chain' row' stop' ∧
      Option.Rel (fun a b => List.Forall₂ R a.chain b.chain ∧ R a.member b.member) stop stop' := by
  induction h generalizing chain' row' with
  | done =>
    cases hr
    exact ⟨none, .done, .none⟩
  | leaf hx _ ih =>
    cases hr with
    | cons h hrest =>
      obtain ⟨stop', hv, hs⟩ := ih hc hrest
      exact ⟨stop', .leaf ((s.leaf_iff h).1 hx) hv, hs⟩
  | cyclic hx hmem =>
    cases hr with
    | cons h _ =>
      have hn := mt (s.leaf_iff h).2 hx
      exact ⟨_, .cyclic hn ((s.mem_iff hc h).1 hmem), .some ⟨hc, h⟩⟩
  | undeclared hx hmem hm =>
    cases hr with
    | cons h _ =>
      have hn := mt (s.leaf_iff h).2 hx
      have hopen := mt (s.mem_iff hc h).2 hmem
      exact ⟨_, .undeclared hn hopen ((s.none_iff h).1 hm), .some ⟨hc, h⟩⟩
  | passed hx hmem hm _ _ ihm ihr =>
    cases hr with
    | @cons _ y _ _ h hrest =>
      obtain ⟨others, ho⟩ := Option.ne_none_iff_exists'.1 (mt (s.none_iff h).2 (by simp [hm]))
      have hinside := List.rel_append hc (List.Forall₂.cons h .nil)
      obtain ⟨_, hv, hs⟩ := ihm hinside (s.forall₂ h hm ho)
      cases hs
      obtain ⟨stop', hv', hs⟩ := ihr hc hrest
      have hn := mt (s.leaf_iff h).2 hx
      exact ⟨stop', .passed hn (mt (s.mem_iff hc h).2 hmem) ho hv hv', hs⟩
  | stopped hx hmem hm _ ih =>
    cases hr with
    | @cons _ y _ _ h hrest =>
      obtain ⟨others, ho⟩ := Option.ne_none_iff_exists'.1 (mt (s.none_iff h).2 (by simp [hm]))
      have hinside := List.rel_append hc (List.Forall₂.cons h .nil)
      obtain ⟨_, hv, hs⟩ := ih hinside (s.forall₂ h hm ho)
      cases hs with
      | some hs =>
        have hn := mt (s.leaf_iff h).2 hx
        exact ⟨_, .stopped hn (mt (s.mem_iff hc h).2 hmem) ho hv, .some hs⟩

end Similarity

end Hierarchy

end Silbo
