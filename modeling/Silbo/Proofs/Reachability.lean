import Silbo.Proofs.History
import Silbo.Proofs.Lexicon

/-!
Resolving a class is reachability in the class table. A name resolves exactly if every name in its
reach is a symbol or a declared class and none of them is on a cycle, and it then resolves to the
symbols in its reach.
-/
namespace Silbo.Model
open Hierarchy Work

variable {t : Table}

theorem not_declared_of_handle? (h : (ofTable t).handle? name = none) :
    ¬ t.hierarchy.Declared name := by
  have hn : .text name ∉ t.mentioned := by
    intro hm
    rw [Table.handle?_of_mentioned hm] at h
    cases h
  rintro (hs | hc)
  · exact hn (Table.symbol_mem_mentioned hs)
  · obtain ⟨members, hm⟩ := Option.isSome_iff_exists.1 hc
    exact hn (Table.class_mem_mentioned (mem_of_lookup hm) List.mem_cons_self)

theorem exists_leaf_iff (h : (ofTable t).handle? name = some i) :
    (∃ k, ((ofTable t).hierarchy.leaf k ∧ (ofTable t).hierarchy.Reaches i k) ∧
      (ofTable t).nameOf k = x) ↔ t.hierarchy.leaf x ∧ t.hierarchy.Reaches name x := by
  have similar := similar_ofTable t
  constructor
  · rintro ⟨k, ⟨hl, hr⟩, hx⟩
    obtain ⟨y, hy, hny⟩ := similar.reaches h hr
    rw [nameOf_of_handle? hy] at hx
    subst hx
    exact ⟨(similar.leaf_iff hy).1 hl, hny⟩
  · rintro ⟨hl, hr⟩
    obtain ⟨k, hk, hik⟩ := similar.symm.reaches h hr
    exact ⟨k, ⟨(similar.leaf_iff hk).2 hl, hik⟩, nameOf_of_handle? hk⟩

theorem Resolves.nodup_names (h : (ofTable t).handle? name = some i)
    (hr : (ofTable t).Resolves i (.ok covered)) : (covered.map (ofTable t).nameOf).Nodup := by
  refine hr.nodup.map_on fun k hk l hl hkl => ?_
  obtain ⟨x, hx, _⟩ := (similar_ofTable t).reaches h (hr.mem_iff.1 hk).2
  obtain ⟨y, hy, _⟩ := (similar_ofTable t).reaches h (hr.mem_iff.1 hl).2
  rw [nameOf_of_handle? hx, nameOf_of_handle? hy] at hkl
  subst hkl
  exact (similar_ofTable t).left_unique hx hy

theorem resolveClass_resolves {m : Model} (h : m.handle? name = some i) :
    m.Resolves i ((m.resolveClass name).outcome {}) := by
  unfold resolveClass
  rw [h]
  exact resolveHandle_resolves m i

/-- After any requests to a model, a name resolves exactly if everything in its reach is declared
and nothing in its reach is cyclic, and then to the symbols in its reach. -/
theorem resolveClass_iff_resolvable (t : Table) (history : List Request) (name : String) :
    ((∃ covered, ((ofTable t).resolveClass name).outcome ((ofTable t).after history) =
        .ok covered) ↔ t.hierarchy.Resolvable name) ∧
      (∀ covered, ((ofTable t).resolveClass name).outcome ((ofTable t).after history) =
        .ok covered → (covered.map (ofTable t).nameOf).Nodup ∧
          ∀ x, x ∈ covered.map (ofTable t).nameOf ↔
            t.hierarchy.leaf x ∧ t.hierarchy.Reaches name x) ∧
      ∀ e, ((ofTable t).resolveClass name).outcome ((ofTable t).after history) = .error e →
        (∃ chain, e.cause = .cycle "class" chain) ∨
          ∃ x, e.cause = .unknown "class" (.text x) := by
  rw [outcome_after (resolveClass_steady (ofTable t) name) history]
  cases hi : (ofTable t).handle? name with
  | none =>
    have hr : ((ofTable t).resolveClass name).outcome {} =
        .error ⟨.unknown "class" (.text name), none, none⟩ := by
      unfold resolveClass
      rw [hi]
      rfl
    rw [hr]
    refine ⟨⟨?_, ?_⟩, ?_, ?_⟩
    · rintro ⟨covered, h⟩
      cases h
    · exact fun h => absurd (h name Relation.ReflTransGen.refl).1 (not_declared_of_handle? hi)
    · intro covered h
      cases h
    · intro e h
      cases h
      exact .inr ⟨name, rfl⟩
  | some i =>
    have hr := resolveClass_resolves hi
    rw [← (similar_ofTable t).resolvable_iff hi]
    cases ho : ((ofTable t).resolveClass name).outcome {} with
    | ok covered =>
      rw [ho] at hr
      refine ⟨⟨fun _ => hr.resolvable, fun _ => ⟨covered, rfl⟩⟩, ?_, ?_⟩
      · intro others h
        cases h
        refine ⟨hr.nodup_names hi, fun x => ?_⟩
        rw [List.mem_map, ← exists_leaf_iff hi]
        exact exists_congr fun k => and_congr_left' hr.mem_iff
      · intro e h
        cases h
    | error e =>
      rw [ho] at hr
      refine ⟨⟨?_, fun h => absurd h hr.not_resolvable⟩, ?_, ?_⟩
      · rintro ⟨covered, h⟩
        cases h
      · intro covered h
        cases h
      · intro e h
        cases h
        obtain ⟨stop, _, rfl⟩ := hr
        exact stopError_cause _ stop

end Silbo.Model
