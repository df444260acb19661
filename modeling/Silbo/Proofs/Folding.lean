import Silbo.Proofs.LowerCase
import Silbo.Proofs.Spelling

/-!
Normalizing what is normal. Lower-casing comes after composition and may leave letters that compose
once more, so that a normal text need not be in normal form. Composed a second time it stays
lower-case, and there is nothing left to do.
-/
namespace Silbo
open Text

variable {text : List Char}

theorem folded_of_settled (hs : ∀ c ∈ text, Settled c) : folded text = normalForm text :=
  lower_small fun c hc => (settled_normalForm hs c hc).small

theorem normalForm_word (hs : ∀ c ∈ text, Settled c) (h : ∀ c ∈ text, isBlank c = false) :
    ∀ c ∈ normalForm text, isBlank c = false := by
  refine normalForm_forall (fun _ _ _ _ _ hc => (compose?_not_blank hc).2.2) fun c hc d hd => ?_
  exact (hs c hc).not_blank_of_mem (h c hc) hd

theorem partsAt_normalForm (hs : ∀ c ∈ text, Settled c) :
    partsAt isBlank (normalForm text) = (partsAt isBlank text).map normalForm := by
  have hword : ∀ w : List Char, (∀ c ∈ w, Settled c) → (∀ c ∈ w, isBlank c = false) →
      partsAt isBlank (normalForm w) = (partsAt isBlank w).map normalForm := by
    intro w hs h
    rw [partsAt_of_forall h, partsAt_of_forall (normalForm_word hs h)]
    by_cases he : w = [] <;> simp [he, normalForm_eq_nil]
  induction text using split_induction (p := isBlank) with
  | last w h => exact hword w hs h
  | next w b rest h hb ih =>
    rw [List.forall_mem_append, List.forall_mem_cons] at hs
    rw [(hs.2.1.inert hb).normalForm_append_cons, partsAt_append_cons hb, partsAt_append_cons hb,
      List.map_append, hword w hs.1 h, ih hs.2.2]

theorem normalForm_eq_self_iff (hs : ∀ c ∈ text, Settled c) :
    normalForm text = text ↔ ∀ w ∈ partsAt isBlank text, normalForm w = w := by
  constructor
  · intro h
    have hparts := partsAt_normalForm hs
    rw [h, ← List.map_id (partsAt isBlank text), List.map_map, List.map_eq_map_iff] at hparts
    exact fun w hw => (hparts w hw).symm
  · intro h
    have hword : ∀ w : List Char, (∀ c ∈ w, isBlank c = false) →
        (∀ v ∈ partsAt isBlank w, normalForm v = v) → normalForm w = w := by
      intro w hw h
      by_cases he : w = []
      · rw [he, normalForm_eq_nil.2 rfl]
      · exact h w (by simp [partsAt_eq_singleton he hw])
    induction text using split_induction (p := isBlank) with
    | last w hw => exact hword w hw h
    | next w b rest hw hb ih =>
      rw [partsAt_append_cons hb, List.forall_mem_append] at h
      rw [List.forall_mem_append, List.forall_mem_cons] at hs
      rw [(hs.2.1.inert hb).normalForm_append_cons, hword w hw h.1, ih hs.2.2 h.2]

theorem endsWord_space : endsWord ' ' = isBlank := by
  funext c
  unfold endsWord
  by_cases hc : c = ' '
  · subst hc
    decide
  · simp [hc]

theorem Canonical.eq_of_words (ha : Canonical ' ' a) (hb : Canonical ' ' b)
    (h : partsAt isBlank a = partsAt isBlank b) : a = b := by
  rw [← ha.intercalate_eq, ← hb.intercalate_eq, ha.partsAt_eq, hb.partsAt_eq, endsWord_space, h]

theorem Canonical.settled (hn : Canonical ' ' normal)
    (hw : partsAt isBlank normal = partsAt isBlank text) (hs : ∀ c ∈ text, Settled c) :
    ∀ c ∈ normal, Settled c := by
  intro c hc
  by_cases hb : isBlank c = true
  · rw [hn.blank c hc hb]
    exact settled_of_plain (by decide +kernel) (by decide +kernel)
  · have hpart := (mem_partsAt_iff normal).2 ⟨hc, by simpa using hb⟩
    rw [hw] at hpart
    exact hs c ((mem_partsAt_iff text).1 hpart).1

/-- One round with the default boundary: the words of the text, composed and lower-cased, with one
space between them. -/
theorem normalize_space (text : String) :
    ∃ normal, normalize " " text = .ok normal ∧ Canonical ' ' normal.toList ∧
      partsAt isBlank normal.toList = partsAt isBlank (folded text.toList) ∧
      ∀ c ∈ normal.toList, Settled c := by
  obtain ⟨normal, hn, hcanon, hwords⟩ := normalizeChars_singleton (b := ' ') (by decide) text.toList
  rw [endsWord_space] at hwords
  refine ⟨String.ofList normal, ?_, ?_⟩
  · show (normalizeChars [' '] text.toList).map String.ofList = _
    rw [hn]
    rfl
  · rw [String.toList_ofList]
    exact ⟨hcanon, hwords, hcanon.settled hwords (settled_folded _)⟩

/-- A normal text is lower-case. It stays as it is in a second round exactly if lower-casing left
the composed text in normal form. After two rounds it is lower-case and in normal form at once, and
no further round changes it. -/
theorem normalize_again (text : String) :
    ∃ normal again, normalize " " text = .ok normal ∧ normalize " " normal = .ok again ∧
      lower normal.toList = normal.toList ∧
      (again = normal ↔ normalForm (folded text.toList) = folded text.toList) ∧
      lower again.toList = again.toList ∧ normalForm again.toList = again.toList ∧
      normalize " " again = .ok again := by
  obtain ⟨normal, hn, hncanon, hnwords, hns⟩ := normalize_space text
  obtain ⟨again, ha, hacanon, hawords, has⟩ := normalize_space normal
  obtain ⟨third, ht, htcanon, htwords, -⟩ := normalize_space again
  rw [folded_of_settled hns, partsAt_normalForm hns] at hawords
  have hcomposed : normalForm again.toList = again.toList := by
    rw [normalForm_eq_self_iff has, hawords]
    intro w hw
    obtain ⟨v, -, rfl⟩ := List.mem_map.1 hw
    exact normalForm_normalForm v
  have hthird : third = again := by
    rw [folded_of_settled has, hcomposed] at htwords
    exact String.toList_inj.1 (htcanon.eq_of_words hacanon htwords)
  rw [hthird] at ht
  have hsame : again = normal ↔ normalForm (folded text.toList) = folded text.toList := by
    rw [normalForm_eq_self_iff (settled_folded _), ← hnwords, ← normalForm_eq_self_iff hns]
    constructor
    · rintro rfl
      exact hcomposed
    · intro h
      rw [← partsAt_normalForm hns, h] at hawords
      exact String.toList_inj.1 (hacanon.eq_of_words hncanon hawords)
  exact ⟨normal, again, hn, ha, lower_small fun c hc => (hns c hc).small, hsame,
    lower_small fun c hc => (has c hc).small, hcomposed, ht⟩

/-- A capital H with a line below has no character of its own, the small one has. -/
theorem normalize_again_line_below :
    normalize " " "H\u0331" = .ok "h\u0331" ∧ normalize " " "h\u0331" = .ok "\u1e96" ∧
      ¬ ∀ text normal, normalize " " text = .ok normal → normalize " " normal = .ok normal := by
  have hfirst : normalize " " "H\u0331" = .ok "h\u0331" := by decide +kernel
  have hsecond : normalize " " "h\u0331" = .ok "\u1e96" := by decide +kernel
  refine ⟨hfirst, hsecond, fun h => ?_⟩
  have hsame := h _ _ hfirst
  rw [hsecond] at hsame
  exact absurd hsame (by decide)

end Silbo
