import Mathlib.Data.List.Forall2
import Mathlib.Data.List.Induction
import Silbo.Pool
import Silbo.Proofs.Workspace

/-!
Pools of threads. Where the outcome of each task does not depend on what is resolved before it, the
order in which the tasks are carried out does not show: they come to what they come to one by one.
-/
namespace Silbo

section Orders

variable {results : List β}

theorem filterMap_range_getElem? (l : List α) :
    (List.range l.length).filterMap (l[·]?) = l := by
  induction l using List.reverseRecOn with
  | nil => rfl
  | append_singleton l a ih =>
    have hfront : (List.range l.length).filterMap ((l ++ [a])[·]?) = l := by
      refine (List.filterMap_congr fun i hi => ?_).trans ih
      exact List.getElem?_append_left (List.mem_range.1 hi)
    rw [List.length_append, List.length_singleton, List.range_succ, List.filterMap_append, hfront]
    simp

theorem pairwise_zipIdx (results : List β) : results.zipIdx.Pairwise fun x y => x.2 < y.2 := by
  have hrange := List.pairwise_lt_range (n := results.length)
  rwa [List.range_eq_range', ← List.zipIdx_map_snd 0 results, List.pairwise_map] at hrange

theorem mergeSort_of_perm {done : List (β × Nat)} (h : done.Perm results.zipIdx) :
    done.mergeSort (fun x y => decide (x.2 ≤ y.2)) = results.zipIdx := by
  have htrans : ∀ x y z : β × Nat, decide (x.2 ≤ y.2) = true → decide (y.2 ≤ z.2) = true →
      decide (x.2 ≤ z.2) = true := by
    intro x y z hxy hyz
    exact decide_eq_true (Nat.le_trans (of_decide_eq_true hxy) (of_decide_eq_true hyz))
  have htotal : ∀ x y : β × Nat, (decide (x.2 ≤ y.2) || decide (y.2 ≤ x.2)) = true := by
    intro x y
    simp only [Bool.or_eq_true, decide_eq_true_eq]
    exact Nat.le_total x.2 y.2
  have hperm := (List.mergeSort_perm done fun x y => decide (x.2 ≤ y.2)).trans h
  refine List.Perm.eq_of_pairwise ?_ (List.pairwise_mergeSort htrans htotal done)
    ((pairwise_zipIdx results).imp fun hlt => decide_eq_true (Nat.le_of_lt hlt)) hperm
  rintro ⟨x, i⟩ ⟨y, j⟩ hx hy hij hji
  have hindex : i = j := Nat.le_antisymm (of_decide_eq_true hij) (of_decide_eq_true hji)
  have hx := List.mk_mem_zipIdx_iff_getElem?.1 (hperm.mem_iff.1 hx)
  have hy := List.mk_mem_zipIdx_iff_getElem?.1 hy
  rw [hindex, hy, Option.some.injEq] at hx
  rw [hx, hindex]

end Orders

section Tasks

variable {I : List (Handle × List Handle) → Prop} {f : α → Work ε β} {r : α → Except ε β}
variable {tasks : List α}

namespace Work

theorem settles_capture {x : Work ε α} {q : Except ε α} (h : Settles I x q) :
    Settles I (capture x) (.ok q) := by
  unfold capture
  rw [map_eq_pure_bind]
  cases q with
  | ok a => exact (h.bind_ok (settles_pure (Except.ok a))).tryCatch_ok
  | error e => exact h.bind_error.tryCatch_error (settles_pure (Except.error e))

theorem settles_mapM_map {g : α → β} (h : ∀ a ∈ tasks, Settles I (f a) (.ok (g a))) :
    Settles I (tasks.mapM f) (.ok (tasks.map g)) := by
  obtain ⟨bs, hbs, hs⟩ := settles_mapM (R := fun a b => g a = b) fun a ha => ⟨_, rfl, h a ha⟩
  rw [← List.forall₂_map_left_iff, List.forall₂_eq_eq_eq] at hbs
  rwa [hbs]

theorem settles_mapM_mapM (h : ∀ a ∈ tasks, Settles I (f a) (r a)) :
    Settles I (tasks.mapM f) (tasks.mapM r) := by
  induction tasks with
  | nil => exact settles_pure []
  | cons a tasks ih =>
    rw [List.forall_mem_cons] at h
    rw [List.mapM_cons, List.mapM_cons]
    have ha := h.1
    have hrest := ih h.2
    cases hr : r a with
    | error e =>
      rw [hr] at ha
      exact ha.bind_error
    | ok b =>
      rw [hr] at ha
      refine ha.bind_ok ?_
      cases hrs : tasks.mapM r with
      | error e =>
        rw [hrs] at hrest
        exact hrest.bind_error
      | ok bs =>
        rw [hrs] at hrest
        exact hrest.bind_ok (settles_pure (b :: bs))

theorem settles_scatter {order : List Nat} (ho : order.Perm (List.range tasks.length))
    (h : ∀ a ∈ tasks, Settles I (f a) (r a)) :
    Settles I (scatter order f tasks) (tasks.mapM r) := by
  have hall : (order.filterMap (tasks.zipIdx[·]?)).Perm tasks.zipIdx := by
    have hrange := filterMap_range_getElem? tasks.zipIdx
    rw [List.length_zipIdx] at hrange
    exact (ho.filterMap _).trans (.of_eq hrange)
  have hdone : Settles I ((order.filterMap (tasks.zipIdx[·]?)).mapM fun task => do
      pure (← capture (f task.1), task.2)) (.ok ((order.filterMap (tasks.zipIdx[·]?)).map fun task =>
        (r task.1, task.2))) := by
    refine settles_mapM_map fun task htask => ?_
    have hmem := List.fst_mem_of_mem_zipIdx (hall.mem_iff.1 htask)
    exact (settles_capture (h task.1 hmem)).bind_ok (settles_pure (r task.1, task.2))
  have hsorted : ((order.filterMap (tasks.zipIdx[·]?)).map fun task =>
      (r task.1, task.2)).Perm (tasks.map r).zipIdx := by
    rw [List.zipIdx_map]
    exact hall.map _
  refine hdone.bind_ok ?_
  rw [mergeSort_of_perm hsorted]
  have hresults : (tasks.map r).zipIdx.mapM (·.1) = tasks.mapM r := by
    have hfst := List.mapM_map (g := id (α := Except ε β)) (f := Prod.fst) (l := (tasks.map r).zipIdx)
    rw [List.zipIdx_map_fst, List.mapM_map] at hfst
    exact hfst.symm
  rw [hresults]
  exact settles_ofExcept _

end Work

/-- On any pool tasks come to what they come to one by one. -/
theorem Pool.mapM_settles (p : Pool) (h : ∀ a ∈ tasks, Work.Settles I (f a) (r a)) :
    Work.Settles I (p.mapM f tasks) (tasks.mapM r) := by
  unfold Pool.mapM
  split
  · exact Work.settles_scatter (p.schedule.perm tasks.length) h
  · exact Work.settles_mapM_mapM h

end Tasks

end Silbo
