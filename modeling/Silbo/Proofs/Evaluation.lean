import Silbo.Proofs.Expansion
import Silbo.Proofs.Naming
import Silbo.Proofs.Numbering

/-!
What a table says, read off by names. Where going down to a depth comes to the symbols of every name
and to the templates of every pronunciation, no chain of them is longer than that, and the model of
the table comes to the same: its rules fit these symbols, and it expands to these templates.
-/
namespace Silbo

theorem mapM_eq_some {f : α → Option β} {as : List α} {bs : List β} :
    as.mapM f = some bs ↔ List.Forall₂ (fun a b => f a = some b) as bs := by
  constructor
  · intro h
    induction as generalizing bs with
    | nil =>
      cases h
      exact .nil
    | cons a as ih =>
      rw [List.mapM_cons] at h
      obtain ⟨b, hb, h⟩ := Option.bind_eq_some_iff.1 h
      obtain ⟨rest, hrest, h⟩ := Option.bind_eq_some_iff.1 h
      cases h
      exact .cons hb (ih hrest)
  · intro h
    induction h with
    | nil => rfl
    | cons hb _ ih =>
      rw [List.mapM_cons, hb, ih]
      rfl

namespace Table

def symbolsWithin (t : Table) : (depth : Nat) → (name : String) → Option (List String)
  | 0, _ => none
  | depth + 1, name =>
    if t.symbols.contains (.text name) then some [name]
    else
      (t.classes.lookup name).bind fun members =>
        (members.mapM (t.symbolsWithin depth)).map List.flatten

/-- No class is deeper than there are classes. -/
def symbolsOf (t : Table) (name : String) : Option (List String) :=
  t.symbolsWithin (t.classes.length + 1) name

def templatesWithin (t : Table) : (depth : Nat) → Item → Option (List SegmentTemplate)
  | _, .segment template => some [template]
  | 0, .call _ => none
  | depth + 1, .call name =>
    (t.macros.lookup name).bind fun body =>
      ((body.getD []).mapM (t.templatesWithin depth)).map List.flatten

def templatesOf (t : Table) (p : Pronunciation) : Option (List SegmentTemplate) :=
  (p.items.mapM (t.templatesWithin t.macros.length)).map List.flatten

def takes (t : Table) (side : String) (neighbour : Option String) : Bool :=
  if side.isEmpty then neighbour.isNone else neighbour.any ((t.symbolsOf side).getD []).contains

def admits (t : Table) (left right : Option String) (r : ContextRule) : Bool :=
  t.takes r.left left && t.takes r.right right

variable {t : Table}

section Classes

def Comprises (t : Table) (name : String) (symbols : List String) : Prop :=
  t.hierarchy.Resolvable name ∧
    ∀ x, x ∈ symbols ↔ t.hierarchy.leaf x ∧ t.hierarchy.Reaches name x

theorem comprises_members {members : List String} {parts : List (List String)}
    (hn : ¬ t.hierarchy.leaf name) (hm : t.classes.lookup name = some members)
    (h : List.Forall₂ t.Comprises members parts) : t.Comprises name parts.flatten := by
  have hparts : (∀ y ∈ members, t.hierarchy.Resolvable y) ∧ ∀ x, x ∈ parts.flatten ↔
      t.hierarchy.leaf x ∧ ∃ y ∈ members, t.hierarchy.Reaches y x := by
    clear hm
    induction h with
    | nil => simp
    | cons hy _ ih =>
      refine ⟨List.forall_mem_cons.2 ⟨hy.1, ih.1⟩, fun x => ?_⟩
      rw [List.flatten_cons, List.mem_append, hy.2, ih.2, ← and_or_left, List.exists_mem_cons_iff]
  refine ⟨(Hierarchy.resolvable_iff_members hn hm).2 hparts.1, fun x => ?_⟩
  rw [hparts.2, Hierarchy.reaches_iff_members hn hm]
  refine and_congr_right fun hl => ⟨.inr, fun h => h.resolve_left ?_⟩
  rintro rfl
  exact hn hl

theorem symbolsWithin_comprises (h : t.symbolsWithin depth name = some xs) :
    t.Comprises name xs := by
  induction depth generalizing name xs with
  | zero => cases h
  | succ depth ih =>
    unfold symbolsWithin at h
    by_cases hs : .text name ∈ t.symbols
    · have hleaf : t.hierarchy.leaf name := hs
      rw [if_pos (Datum.contains_text.2 hs)] at h
      cases h
      refine ⟨Hierarchy.resolvable_of_leaf hleaf, fun x => ?_⟩
      rw [List.mem_singleton, Hierarchy.reaches_leaf_iff hleaf]
      exact ⟨fun hx => ⟨hx ▸ hleaf, hx⟩, fun hx => hx.2⟩
    · rw [if_neg fun hc => hs (Datum.contains_text.1 hc)] at h
      obtain ⟨members, hm, h⟩ := Option.bind_eq_some_iff.1 h
      obtain ⟨parts, hparts, rfl⟩ := Option.map_eq_some_iff.1 h
      exact comprises_members hs hm ((mapM_eq_some.1 hparts).imp fun _ _ => ih)

theorem Comprises.namesOf (h : t.Comprises name xs) :
    ∃ names, (Model.ofTable t).namesOf name = .ok names ∧ ∀ x, x ∈ names ↔ x ∈ xs := by
  have hdenotes := denotes_namesOf t name
  cases hn : (Model.ofTable t).namesOf name with
  | ok names =>
    rw [hn] at hdenotes
    refine ⟨names, rfl, fun x => ?_⟩
    rw [hdenotes.2.2, h.2]
  | error e =>
    rw [hn] at hdenotes
    obtain ⟨stop, hv, _⟩ := hdenotes
    exact absurd h.1 hv.not_resolvable

/-- A side is read off if it is the edge of a word or a name whose symbols are. -/
def reads (t : Table) (side : String) : Bool := side.isEmpty || (t.symbolsOf side).isSome

theorem fits_eq_takes (h : t.reads side = true) (neighbour : Option String) :
    (Model.ofTable t).fits ((Model.ofTable t).pattern side) neighbour =
      .ok (t.takes side neighbour) := by
  unfold takes
  by_cases he : side = ""
  · subst he
    rfl
  · have hne : ¬ side.isEmpty = true := by rwa [String.isEmpty_iff]
    obtain ⟨xs, hxs⟩ : ∃ xs, t.symbolsOf side = some xs := by
      simpa [reads, he, Option.isSome_iff_exists] using h
    obtain ⟨names, hn, hmem⟩ := (symbolsWithin_comprises hxs).namesOf
    have hcontains : names.contains = xs.contains := by
      funext x
      rw [Bool.eq_iff_iff, List.contains_iff_mem, List.contains_iff_mem, hmem]
    rw [if_neg hne, Model.fits_pattern he, hn, hxs, Option.getD_some, ← hcontains]
    rfl

theorem admits_rule {r : ContextRule} (hl : t.reads r.left = true) (hr : t.reads r.right = true)
    (left right : Option String) :
    (Model.ofTable t).admits left right ((Model.ofTable t).rule r) =
      .ok (t.admits left right r) := by
  unfold Model.admits
  show (Model.ofTable t).fits ((Model.ofTable t).pattern r.left) left >>= _ = _
  rw [fits_eq_takes hl]
  unfold admits
  cases t.takes r.left left with
  | false => rfl
  | true => exact fits_eq_takes hr right

end Classes

section Macros

theorem declares_iff : (Model.ofTable t).Declares name body ↔ t.macros.lookup name = some body := by
  rw [← macros_lookup, Option.bind_eq_some_iff]
  rfl

theorem templatesWithin_succ {item : Item} (h : t.templatesWithin depth item = some xs) :
    t.templatesWithin (depth + 1) item = some xs := by
  induction depth generalizing item xs with
  | zero =>
    cases item with
    | segment template => exact h
    | call name => cases h
  | succ depth ih =>
    cases item with
    | segment template => exact h
    | call name =>
      obtain ⟨body, hb, h⟩ := Option.bind_eq_some_iff.1 h
      obtain ⟨parts, hparts, rfl⟩ := Option.map_eq_some_iff.1 h
      have hparts := mapM_eq_some.2 ((mapM_eq_some.1 hparts).imp fun _ _ => ih)
      rw [templatesWithin, hb, Option.bind_some, hparts]
      rfl

theorem expands_sequence {m : Model} {items : List Item} {parts : List (List SegmentTemplate)}
    (h : List.Forall₂ (fun item xs => m.Expands chain (.single item) (.ok xs)) items parts) :
    m.Expands chain (.sequence items) (.ok parts.flatten) := by
  induction h with
  | nil => exact .nil
  | cons hx _ ih => exact .cons hx ih

/-- Open macros come to nothing within the depth that is left, so that none of them is met again. -/
theorem templatesWithin_expands {item : Item} (h : t.templatesWithin depth item = some xs)
    (hc : ∀ name ∈ chain, t.templatesWithin depth (.call name) = none) :
    (Model.ofTable t).Expands chain (.single item) (.ok xs) := by
  induction depth generalizing chain item xs with
  | zero =>
    cases item with
    | segment template =>
      cases h
      exact .segment
    | call name => cases h
  | succ depth ih =>
    cases item with
    | segment template =>
      cases h
      exact .segment
    | call name =>
      have hchain : ∀ c ∈ chain, t.templatesWithin depth (.call c) = none := by
        intro c hmem
        rw [Option.eq_none_iff_forall_ne_some]
        intro ys hys
        have hnone := hc c hmem
        rw [templatesWithin_succ hys] at hnone
        cases hnone
      -- A macro that comes to something within less is not the last one that the depth allows.
      cases hn : t.templatesWithin depth (.call name) with
      | some ys =>
        rw [templatesWithin_succ hn, Option.some.injEq] at h
        exact ih (h ▸ hn) hchain
      | none =>
        have hopen : name ∉ chain := by
          intro hmem
          rw [hc name hmem] at h
          cases h
        obtain ⟨body, hb, h⟩ := Option.bind_eq_some_iff.1 h
        obtain ⟨parts, hparts, rfl⟩ := Option.map_eq_some_iff.1 h
        have hinside : ∀ c ∈ chain ++ [name], t.templatesWithin depth (.call c) = none := by
          intro c hmem
          rcases List.mem_append.1 hmem with hmem | hmem
          · exact hchain c hmem
          · rwa [List.mem_singleton.1 hmem]
        refine .body hopen (declares_iff.2 hb) (expands_sequence ?_)
        exact (mapM_eq_some.1 hparts).imp fun _ _ hx => ih hx hinside

theorem segmentsOf_eq {p : Pronunciation} (h : t.templatesOf p = some xs) :
    (Model.ofTable t).segmentsOf p = .ok xs := by
  obtain ⟨parts, hparts, rfl⟩ := Option.map_eq_some_iff.1 h
  have hitems := (mapM_eq_some.1 hparts).imp fun _ _ hx =>
    templatesWithin_expands hx fun _ hc => absurd hc List.not_mem_nil
  refine (Model.segmentsOf_expands _ p).deterministic ?_
  cases p with
  | sequence items => exact expands_sequence hitems
  | single item =>
    cases hitems with
    | cons hx hnil =>
      cases hnil
      rwa [List.flatten_cons, List.flatten_nil, List.append_nil]

end Macros

end Table

end Silbo
