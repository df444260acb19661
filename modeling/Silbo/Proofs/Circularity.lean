import Mathlib.Data.List.Chain
import Silbo.Proofs.Calls

/-!
Cycles that are reported. Where a visit stops, the open entries lead from a root to the member that
cannot be opened, each of them listing the next and none of them opened twice. A cycle is cut out of
them at that member: it is a cycle of the hierarchy, without detours, and in reach of the roots.
-/
namespace Silbo

namespace Hierarchy

variable {α : Type} {g : Hierarchy α} {roots chain row : List α}

/-- Going down from the roots to a row of entries: the open entries are distinct and declared, and
each of them lists the next, the last one all of the row. -/
structure Descends (g : Hierarchy α) (roots chain row : List α) : Prop where
  opened : Chain (fun c => ¬ g.leaf c ∧ (g.members? c).isSome) chain
  linked : ∀ x ∈ row, (chain ++ [x]).IsChain g.Lists
  reached : ∀ x ∈ chain ++ row, ∃ root ∈ roots, g.Reaches root x

/-- Distinct entries from `c` through the `rest` and back to `c`, each of which lists the next. -/
structure Circle (g : Hierarchy α) (roots : List α) (c : α) (rest : List α) : Prop where
  nodup : (c :: rest).Nodup
  declared : ∀ x ∈ c :: rest, ¬ g.leaf x ∧ (g.members? x).isSome
  linked : (c :: rest ++ [c]).IsChain g.Lists
  reached : ∃ root ∈ roots, g.Reaches root c

theorem descends_roots (g : Hierarchy α) (roots : List α) : g.Descends roots [] roots where
  opened := .nil
  linked x _ := List.isChain_singleton x
  reached x hx := ⟨x, hx, Relation.ReflTransGen.refl⟩

theorem Descends.subset (h : g.Descends roots chain row) (hs : row' ⊆ row) :
    g.Descends roots chain row' where
  opened := h.opened
  linked x hx := h.linked x (hs hx)
  reached x hx := h.reached x (List.append_subset.2
    ⟨List.subset_append_left _ _, List.subset_append_of_subset_right _ hs⟩ hx)

theorem Descends.enter (h : g.Descends roots chain (x :: rest)) (hx : ¬ g.leaf x) (hn : x ∉ chain)
    (hm : g.members? x = some members) : g.Descends roots (chain ++ [x]) members where
  opened := h.opened.concat hn ⟨hx, by rw [hm]; rfl⟩
  linked y hy := by
    rw [List.append_assoc, List.singleton_append, List.isChain_append_cons_cons]
    exact ⟨h.linked x List.mem_cons_self, (lists_iff hx hm).2 hy, List.isChain_singleton y⟩
  reached y hy := by
    have hroot := h.reached x (List.mem_append_right _ List.mem_cons_self)
    rw [List.append_assoc, List.singleton_append, List.mem_append, List.mem_cons] at hy
    rcases hy with hy | rfl | hy
    · exact h.reached y (List.mem_append_left _ hy)
    · exact hroot
    · obtain ⟨root, hmem, hr⟩ := hroot
      exact ⟨root, hmem, hr.tail ((lists_iff hx hm).2 hy)⟩

theorem Visit.descends (h : g.Visit chain row (some stop)) (hd : g.Descends roots chain row) :
    g.Descends roots stop.chain [stop.member] := by
  have head {chain row : List α} {x : α} (hd : g.Descends roots chain (x :: row)) :
      g.Descends roots chain [x] := hd.subset (by simp)
  generalize hs : some stop = result at h
  induction h with
  | done => cases hs
  | leaf _ _ ih => exact ih (hd.subset (List.subset_cons_self _ _)) hs
  | cyclic =>
    cases hs
    exact head hd
  | undeclared =>
    cases hs
    exact head hd
  | passed _ _ _ _ _ _ ihr => exact ihr (hd.subset (List.subset_cons_self _ _)) hs
  | stopped hx hn hm _ ih => exact ih (hd.enter hx hn hm) hs

theorem Descends.circle (h : g.Descends roots (before ++ c :: rest) [c]) :
    g.Circle roots c rest where
  nodup := h.opened.nodup.of_append_right
  declared x hx := h.opened.holds x (List.mem_append_right _ hx)
  linked := by
    have hlinked := h.linked c List.mem_cons_self
    rw [List.append_assoc] at hlinked
    exact hlinked.right_of_append
  reached := h.reached c (List.mem_append_right _ List.mem_cons_self)

theorem Visit.circle_of_failure {g : Hierarchy String} {roots : List String}
    (h : g.Visit [] roots (some stop)) (hc : (stop.failure kind).cause = .cycle kind' cycle) :
    kind' = kind ∧ ∃ c rest, cycle = c :: rest ++ [c] ∧ g.Circle roots c rest := by
  have hd := h.descends (g.descends_roots roots)
  obtain ⟨chain, x⟩ := stop
  by_cases hopen : x ∈ chain
  · obtain ⟨before, rest, rfl, hn⟩ := List.eq_append_cons_of_mem hopen
    rw [Stop.failure_of_open hn] at hc
    cases hc
    exact ⟨rfl, x, rest, rfl, hd.circle⟩
  · rw [Stop.failure_of_not_open hopen] at hc
    cases hc

end Hierarchy

namespace Model
open Work Hierarchy

theorem name_of_cycle {e : Error} (h : e.cause = .cycle kind (c :: rest ++ [c])) :
    e.name = some (.text c) := by
  rw [Error.name, h, Cause.name, List.getLast?_concat]
  rfl

/-- A cycle that is reported, of classes or of macros, goes from an entry in reach of what was
asked for through distinct others back to that entry, each of them listing the next. -/
theorem circle_of_cycle (t : Table) (history : List Request) :
    (∀ name e kind cycle,
      ((ofTable t).resolveClass name).outcome ((ofTable t).after history) = .error e →
        e.cause = .cycle kind cycle → kind = "class" ∧ ∃ c rest, cycle = c :: rest ++ [c] ∧
          t.hierarchy.Circle [name] c rest ∧ e.name = some (.text c)) ∧
      ∀ p e kind cycle,
        ((ofTable t).expand p).outcome ((ofTable t).after history) = .error e →
          e.cause = .cycle kind cycle → kind = "macro" ∧ ∃ c rest, cycle = c :: rest ++ [c] ∧
            t.calls.Circle p.calls c rest ∧ e.name = some (.text c) := by
  constructor
  · intro name e kind cycle he hc
    rw [outcome_after (resolveClass_steady (ofTable t) name) history] at he
    have hdenotes := t.denotes_namesOf name
    rw [namesOf, he] at hdenotes
    obtain ⟨stop, hv, hstop⟩ := hdenotes
    rw [hstop] at hc
    obtain ⟨hkind, c, rest, rfl, hcircle⟩ := hv.circle_of_failure hc
    exact ⟨hkind, c, rest, rfl, hcircle, name_of_cycle (hstop ▸ hc)⟩
  · intro p e kind cycle he hc
    rw [(expand_settles (ofTable t) p _ (sound_after (ofTable t) history)).1] at he
    have hvisits := t.visits_of_expands (segmentsOf_expands (ofTable t) p)
    rw [he] at hvisits
    obtain ⟨stop, hv, hstop⟩ := hvisits
    rw [hstop] at hc
    obtain ⟨hkind, c, rest, rfl, hcircle⟩ := hv.circle_of_failure hc
    exact ⟨hkind, c, rest, rfl, hcircle, name_of_cycle (hstop ▸ hc)⟩

/-- Classes and macros that lead into a cycle without being on it. -/
def whirling : Table where
  symbols := [.text "a"]
  classes := [("A", ["V", "B"]), ("B", ["a", "C"]), ("C", ["V", "B"]), ("V", ["a"])]
  macros := [("spin", some [.call "pause", .call "turn"]), ("turn", some [.call "pause", .call "turn"]),
    ("pause", some [.segment {}])]
  graphemes := [("a", {})]

theorem circle_of_cycle_whirling :
    ((ofTable whirling).resolveClass "A").outcome
        ((ofTable whirling).after [.resolveClass "A", .resolveClass "V"]) =
      .error ⟨.cycle "class" ["B", "C", "B"], none, none⟩ ∧
      whirling.hierarchy.Circle ["A"] "B" ["C"] ∧
      ((ofTable whirling).expand (.single (.call "spin"))).outcome
          ((ofTable whirling).after [.resolveClass "A", .resolveClass "V"]) =
        .error ⟨.cycle "macro" ["turn", "turn"], none, none⟩ ∧
      whirling.calls.Circle ["spin"] "turn" [] := by
  have hclass : ((ofTable whirling).resolveClass "A").outcome
      ((ofTable whirling).after [.resolveClass "A", .resolveClass "V"]) =
      .error ⟨.cycle "class" ["B", "C", "B"], none, none⟩ := by with_unfolding_all rfl
  have hmacro : ((ofTable whirling).expand (.single (.call "spin"))).outcome
      ((ofTable whirling).after [.resolveClass "A", .resolveClass "V"]) =
      .error ⟨.cycle "macro" ["turn", "turn"], none, none⟩ := by with_unfolding_all rfl
  have hcircles := circle_of_cycle whirling [.resolveClass "A", .resolveClass "V"]
  obtain ⟨_, c, rest, hcycle, hcircle, _⟩ := hcircles.1 "A" _ _ _ hclass rfl
  obtain ⟨_, c', rest', hcycle', hcircle', _⟩ := hcircles.2 _ _ _ _ hmacro rfl
  obtain ⟨rfl, hrest⟩ := List.cons.inj hcycle
  obtain ⟨rfl, hrest'⟩ := List.cons.inj hcycle'
  have hrest : ["C"] ++ ["B"] = rest ++ ["B"] := hrest
  have hrest' : [] ++ ["turn"] = rest' ++ ["turn"] := hrest'
  rw [← List.append_cancel_right hrest] at hcircle
  rw [← List.append_cancel_right hrest'] at hcircle'
  exact ⟨hclass, hcircle, hmacro, hcircle'⟩

end Model

end Silbo
