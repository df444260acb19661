import Silbo.Proofs.Evaluation

/-!
Macros that call each other. The macros of a table are a hierarchy without leaves, and an expansion
visits what its pronunciation calls. It ends on every table, and in segments exactly if every macro
in reach is declared and none of them can reach itself; how often a macro is called does not count.
-/
namespace Silbo

def Item.callee? : Item → Option String
  | .call name => some name
  | .segment _ => none

def Pronunciation.calls (p : Pronunciation) : List String := p.items.filterMap Item.callee?

namespace Table
open Hierarchy

/-- The macros by name, with what their bodies call. A macro without a body calls nothing. -/
def calls (t : Table) : Hierarchy String :=
  ⟨fun _ => False, fun name =>
    (t.macros.lookup name).map fun body => (Pronunciation.sequence (body.getD [])).calls⟩

/-- A table with the same macros, whose bodies call no others: each of them in any order and any
number of times. -/
def Repeats (t t' : Table) : Prop :=
  ∀ name, Option.Rel (fun row row' => row' ⊆ row) (t.calls.members? name) (t'.calls.members? name)

/-- How a visit of a row of calls ends where the pronunciation with these calls has an outcome. -/
def Visits (t : Table) (chain row : List String) : Except Error (List SegmentTemplate) → Prop
  | .ok _ => t.calls.Visit chain row none
  | .error e => ∃ stop, t.calls.Visit chain row (some stop) ∧ e = stop.failure "macro"

variable {t t' : Table}

theorem members?_calls (h : (Model.ofTable t).Declares name body) :
    t.calls.members? name = some (Pronunciation.sequence (body.getD [])).calls := by
  show (t.macros.lookup name).map _ = _
  rw [declares_iff.1 h, Option.map_some]

theorem members?_calls_eq_none (h : ∀ body, ¬ (Model.ofTable t).Declares name body) :
    t.calls.members? name = none := by
  show (t.macros.lookup name).map _ = none
  cases hl : t.macros.lookup name with
  | none => rfl
  | some body => exact absurd (declares_iff.2 hl) (h body)

theorem visit_cons {g : Hierarchy String} (hx : g.Visit chain (Pronunciation.single item).calls none)
    (h : g.Visit chain (Pronunciation.sequence rest).calls stop) :
    g.Visit chain (Pronunciation.sequence (item :: rest)).calls stop := by
  cases item with
  | segment _ => exact h
  | call name => exact Visit.cons hx h

theorem visit_cons_of_stop {g : Hierarchy String}
    (hx : g.Visit chain (Pronunciation.single item).calls (some stop)) :
    g.Visit chain (Pronunciation.sequence (item :: rest)).calls (some stop) := by
  cases item with
  | segment _ => cases hx
  | call name => exact Visit.cons_of_stop hx

/-- The expansion of a pronunciation goes through the macros that it calls, in their order, and an
error is that of the macro where this visit stops. -/
theorem visits_of_expands (h : (Model.ofTable t).Expands chain p result) :
    t.Visits chain p.calls result := by
  induction h with
  | segment => exact Visit.done
  | @cyclic _ before name rest hc hn =>
    subst hc
    have hmem : name ∈ before ++ name :: rest := List.mem_append_right _ List.mem_cons_self
    exact ⟨_, .cyclic not_false hmem, (Stop.failure_of_open hn rest "macro").symm⟩
  | unknown hn hd =>
    exact ⟨_, .undeclared not_false hn (members?_calls_eq_none hd),
      (Stop.failure_of_not_open hn "macro").symm⟩
  | @body chain name body result hn hb _ ih =>
    have hm := members?_calls hb
    cases result with
    | ok templates => exact Visit.passed not_false hn hm ih .done
    | error e =>
      obtain ⟨stop, hv, he⟩ := ih
      exact ⟨stop, .stopped not_false hn hm hv, he⟩
  | nil => exact Visit.done
  | cons _ _ ihf ihl => exact visit_cons ihf ihl
  | first _ ih =>
    obtain ⟨stop, hv, he⟩ := ih
    exact ⟨stop, visit_cons_of_stop hv, he⟩
  | later _ _ ihf ihl =>
    obtain ⟨stop, hv, he⟩ := ihl
    exact ⟨stop, visit_cons ihf hv, he⟩

/-- A pronunciation has segments exactly if all that it calls is resolvable among the macros. -/
theorem segmentsOf_ok_iff (t : Table) (p : Pronunciation) :
    (∃ templates, (Model.ofTable t).segmentsOf p = .ok templates) ↔
      ∀ name ∈ p.calls, t.calls.Resolvable name := by
  have h := visits_of_expands (Model.segmentsOf_expands (Model.ofTable t) p)
  constructor
  · rintro ⟨templates, hok⟩
    rw [hok] at h
    exact Visit.resolvable h
  · intro hr
    cases hs : (Model.ofTable t).segmentsOf p with
    | ok templates => exact ⟨templates, rfl⟩
    | error e =>
      rw [hs] at h
      obtain ⟨stop, hv, _⟩ := h
      obtain ⟨name, hmem, hn⟩ := hv.exists_not_resolvable (.nil p.calls)
      exact absurd (hr name hmem) hn

theorem Repeats.lists (h : t.Repeats t') (hl : t'.calls.Lists x y) : t.calls.Lists x y := by
  obtain ⟨_, row', hrow', hy⟩ := hl
  have hx := h x
  rw [hrow'] at hx
  cases hrow : t.calls.members? x with
  | none =>
    rw [hrow] at hx
    cases hx
  | some row =>
    rw [hrow] at hx
    cases hx with
    | some hsub => exact ⟨not_false, row, hrow, hsub hy⟩

theorem Repeats.declared (h : t.Repeats t') (hd : t.calls.Declared x) : t'.calls.Declared x := by
  have hx := h x
  refine hd.imp_right fun hm => ?_
  obtain ⟨row, hrow⟩ := Option.isSome_iff_exists.1 hm
  rw [hrow] at hx
  cases hrow' : t'.calls.members? x with
  | some row' => rfl
  | none =>
    rw [hrow'] at hx
    cases hx

end Table

namespace Model
open Work

/-- An expansion ends on every table, however its macros call each other. It has segments exactly
if every macro in reach of the pronunciation is declared and none of them can reach itself, so that
to call a macro once more, at whichever depth, never fails. -/
theorem expand_ok_iff_resolvable (t : Table) (history : List Request) (p : Pronunciation) :
    (∃ result, ((ofTable t).expand p).outcome ((ofTable t).after history) = result ∧
      FrameWalk.Halts (ofTable t) (.start p) result) ∧
      ((∃ templates, ((ofTable t).expand p).outcome ((ofTable t).after history) = .ok templates) ↔
        ∀ root ∈ p.calls, ∀ name, t.calls.Reaches root name →
          (t.macros.lookup name).isSome ∧ ¬ t.calls.Cyclic name) ∧
      ∀ t' p' history', t.Repeats t' → p'.calls ⊆ p.calls →
        (∃ templates, ((ofTable t).expand p).outcome ((ofTable t).after history) = .ok templates) →
          ∃ templates, ((ofTable t').expand p').outcome ((ofTable t').after history') =
            .ok templates := by
  have hexpand (t : Table) (history : List Request) (p : Pronunciation) :
      ((ofTable t).expand p).outcome ((ofTable t).after history) = (ofTable t).segmentsOf p :=
    (expand_settles (ofTable t) p _ (sound_after (ofTable t) history)).1
  simp only [hexpand]
  refine ⟨⟨_, rfl, (segmentsOf_expands _ p).halts⟩, ?_, fun t' p' _ ht hp hok => ?_⟩
  · rw [t.segmentsOf_ok_iff]
    refine forall₂_congr fun root _ => forall₂_congr fun name _ => and_congr_left' ?_
    rw [Hierarchy.Declared, ← Option.isSome_map (x := t.macros.lookup name)]
    exact or_iff_right not_false
  · rw [t'.segmentsOf_ok_iff]
    intro name hname
    have hr : t.calls.Resolvable name := (t.segmentsOf_ok_iff p).1 hok name (hp hname)
    exact hr.mono (fun _ _ => ht.lists) fun _ => ht.declared

end Model

end Silbo
