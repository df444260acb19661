import Mathlib.Data.List.Nodup
import Mathlib.Data.List.Perm.Subperm

/-!
Chains of entries of a finite table. Distinct entries are at most as many as the table has, which
bounds how deep a walk goes that never opens an entry twice.
-/
namespace Silbo

theorem mem_of_lookup [BEq α] [LawfulBEq α] {table : List (α × β)} {key : α} {value : β}
    (h : table.lookup key = some value) : (key, value) ∈ table := by
  obtain ⟨before, later, ht, _⟩ := List.lookup_eq_some_iff.1 h
  rw [ht]
  exact List.mem_append_right before List.mem_cons_self

theorem dropWhile_append_cons [BEq α] [LawfulBEq α] {before rest : List α} {x : α}
    (h : x ∉ before) : (before ++ x :: rest).dropWhile (· != x) = x :: rest := by
  rw [List.dropWhile_append_of_pos]
  · simp
  · intro y hy
    simp only [bne_iff_ne, ne_eq]
    exact fun he => h (he ▸ hy)

/-- Distinct entries of a kind, such as the classes that are open. -/
structure Chain (p : α → Prop) (chain : List α) : Prop where
  nodup : chain.Nodup
  holds : ∀ c ∈ chain, p c

namespace Chain

variable {p : α → Prop} {chain : List α}

theorem nil : Chain p [] := ⟨List.nodup_nil, fun _ hc => absurd hc List.not_mem_nil⟩

theorem concat (h : Chain p chain) (hx : x ∉ chain) (hp : p x) : Chain p (chain ++ [x]) := by
  constructor
  · rw [← List.concat_eq_append]
    exact List.Nodup.concat hx h.nodup
  · intro c hc
    rcases List.mem_append.1 hc with hc | hc
    · exact h.holds c hc
    · rw [List.mem_singleton.1 hc]
      exact hp

theorem length_lt (h : Chain p (chain ++ [x])) {keys : List α} (hk : ∀ c, p c → c ∈ keys) :
    chain.length < keys.length := by
  have hle := (List.subperm_of_subset h.nodup fun c hc => hk c (h.holds c hc)).length_le
  rw [List.length_append, List.length_singleton] at hle
  omega

end Chain

end Silbo
