import Silbo.Proofs.Spelling

/-!
Words and boundaries in turn. A text that is made up of words and boundaries, none of which is
mistaken for a part of another, keeps its words when it is cut at the boundaries, when boundaries
that follow each other are joined, and when what the boundary has is cut from its ends.
-/
namespace Silbo
open Text

section Words

/-- Between boundaries the word is what lies between them: none begins within it, and what may
repeat of the one before it does not go on in it. -/
structure Stands (b w : List Char) : Prop where
  ne_nil : w ≠ []
  clear : ∀ x, x <:+ w → x ≠ [] → ¬ b <+: x ++ b
  head : w.head? ≠ b.getLast?

instance (b w : List Char) : Decidable (Stands b w) :=
  decidable_of_iff
    (w ≠ [] ∧ (∀ x ∈ w.tails, x ≠ [] → ¬ b <+: x ++ b) ∧ w.head? ≠ b.getLast?)
    ⟨fun h => ⟨h.1, fun x hx => h.2.1 x ((List.mem_tails x w).2 hx), h.2.2⟩,
      fun h => ⟨h.ne_nil, fun x hx => h.clear x ((List.mem_tails x w).1 hx), h.head⟩⟩

/-- A text is words and boundaries in turn, beginning with a boundary or not. Boundaries may follow
each other only where that is allowed. -/
inductive Interleaves (b : List Char) (adjoining : Prop) :
    Bool → List Char → List (List Char) → Prop where
  | ended : Interleaves b adjoining false [] []
  | boundary : adjoining ∨ front = false → Interleaves b adjoining front rest words →
      Interleaves b adjoining true (b ++ rest) words
  | word : Stands b w → front = true ∨ rest = [] → Interleaves b adjoining front rest words →
      Interleaves b adjoining false (w ++ rest) (w :: words)

variable {b w text rest : List Char}

theorem Interleaves.begins (h : Interleaves b adjoining true text words) : b <+: text := by
  cases h
  exact List.prefix_append _ _

theorem Interleaves.behind (h : Interleaves b adjoining front rest words)
    (hf : front = true ∨ rest = []) : rest = [] ∨ b <+: rest := by
  rcases hf with rfl | hf
  · exact .inr h.begins
  · exact .inl hf

theorem Stands.not_begun (hw : Stands b w) (hrest : rest = [] ∨ b <+: rest) :
    ∀ x, x <:+ w → x ≠ [] → ¬ b <+: x ++ rest := by
  intro x hx hne hb
  refine hw.clear x hx hne ?_
  rcases hrest with rfl | ⟨later, rfl⟩
  · rw [List.append_nil] at hb
    exact hb.trans (List.prefix_append _ _)
  · rw [← List.append_assoc] at hb
    exact List.prefix_of_prefix_length_le hb (List.prefix_append _ _) (by simp)

end Words

section Cutting

variable {b w text rest : List Char}

theorem cut_ne_nil (b text : List Char) : cut b text ≠ [] := by
  unfold cut
  split
  · exact List.cons_ne_nil _ _
  · split
    · exact List.cons_ne_nil _ _
    · split <;> exact List.cons_ne_nil _ _

theorem cut_append (hb : b ≠ []) (rest : List Char) : cut b (b ++ rest) = [] :: cut b rest := by
  cases b with
  | nil => exact absurd rfl hb
  | cons c tail =>
    have hpre : (c :: tail).isPrefixOf (c :: (tail ++ rest)) = true :=
      List.isPrefixOf_iff_prefix.2 (List.prefix_append (c :: tail) rest)
    rw [List.cons_append, cut, hpre]
    simp

theorem cut_word (h : ∀ x, x <:+ w → x ≠ [] → ¬ b <+: x ++ rest) :
    cut b (w ++ rest) = (cut b rest).modifyHead (w ++ ·) := by
  induction w with
  | nil => rw [List.nil_append]; cases cut b rest <;> rfl
  | cons c w ih =>
    have hpre : b.isPrefixOf (c :: (w ++ rest)) = false := by
      rw [← Bool.not_eq_true, List.isPrefixOf_iff_prefix]
      exact h (c :: w) List.suffix_rfl (List.cons_ne_nil c w)
    have hrest := ih fun x hx => h x (hx.trans (List.suffix_cons c w))
    obtain ⟨piece, pieces, hcut⟩ := List.exists_cons_of_ne_nil (cut_ne_nil b rest)
    rw [List.cons_append, cut, hpre, hrest, hcut]
    simp

theorem Interleaves.cut_eq (hb : b ≠ []) (h : Interleaves b adjoining front text words) :
    (cut b text).filter (!·.isEmpty) = words := by
  induction h with
  | ended => simp [cut]
  | boundary _ _ ih =>
    rw [cut_append hb, List.filter_cons_of_neg (by simp), ih]
  | @word w front rest words hw hf hrest ih =>
    have hbehind := hrest.behind hf
    obtain ⟨pieces, hcut⟩ : ∃ pieces, cut b rest = [] :: pieces := by
      rcases hbehind with rfl | ⟨later, rfl⟩
      · exact ⟨[], by simp [cut]⟩
      · exact ⟨_, cut_append hb later⟩
    have hne : w.isEmpty = false := List.isEmpty_eq_false_iff.2 hw.ne_nil
    rw [hcut, List.filter_cons_of_neg (by simp)] at ih
    rw [cut_word (hw.not_begun hbehind), hcut, List.modifyHead_cons, List.append_nil,
      List.filter_cons_of_pos (by simp [hne]), ih]

end Cutting

section Repeats

variable {lead w text rest : List Char} {last : Char}

theorem repeatedLength_append (lead : List Char) (last : Char) (rest : List Char) :
    repeatedLength lead last (lead ++ [last] ++ rest) =
      (lead ++ [last]).length + (rest.takeWhile (· == last)).length := by
  have hlead : lead.isPrefixOf (lead ++ [last] ++ rest) = true := by
    rw [List.isPrefixOf_iff_prefix, List.append_assoc]
    exact List.prefix_append _ _
  rw [repeatedLength, if_pos hlead, List.append_assoc, List.drop_left]
  simp
  omega

theorem repeatedLength_eq_zero (h : ¬ lead ++ [last] <+: text) :
    repeatedLength lead last text = 0 := by
  unfold repeatedLength
  split
  · next hlead =>
    obtain ⟨rest, rfl⟩ := List.isPrefixOf_iff_prefix.1 hlead
    rw [List.drop_left]
    cases rest with
    | nil => rfl
    | cons c rest =>
      have hc : ¬ c = last := by
        rintro rfl
        exact h ⟨rest, by simp⟩
      simp [hc]
  · rfl

theorem replaceRepeats_word {put : List Char → List Char}
    (h : ∀ x, x <:+ w → x ≠ [] → ¬ lead ++ [last] <+: x ++ rest) :
    replaceRepeats lead last put (w ++ rest) = w ++ replaceRepeats lead last put rest := by
  induction w with
  | nil => rfl
  | cons c w ih =>
    have hzero := repeatedLength_eq_zero (h (c :: w) List.suffix_rfl (List.cons_ne_nil c w))
    rw [List.cons_append] at hzero
    rw [List.cons_append, replaceRepeats, hzero]
    exact congrArg (c :: ·) (ih fun x hx => h x (hx.trans (List.suffix_cons c w)))

theorem replaceRepeats_boundary (put : List Char → List Char) (rest : List Char) :
    replaceRepeats lead last put (lead ++ [last] ++ rest) =
      put (lead ++ [last] ++ rest.takeWhile (· == last)) ++
        replaceRepeats lead last put (rest.dropWhile (· == last)) := by
  have hlength := repeatedLength_append lead last rest
  obtain ⟨c, tail, hb⟩ := List.exists_cons_of_ne_nil (List.append_ne_nil_of_right_ne_nil lead
    (List.cons_ne_nil last []))
  have hsplit : tail ++ rest =
      (tail ++ rest.takeWhile (· == last)) ++ rest.dropWhile (· == last) := by
    rw [List.append_assoc, List.takeWhile_append_dropWhile]
  have hn : tail.length + (rest.takeWhile (· == last)).length =
      (tail ++ rest.takeWhile (· == last)).length := List.length_append.symm
  rw [hb, List.cons_append, List.length_cons, Nat.add_right_comm] at hlength
  rw [hb, List.cons_append, List.cons_append, replaceRepeats, hlength]
  dsimp only
  rw [hn, hsplit, List.take_left, List.drop_left]

/-- A boundary that does not begin with the character that repeats, or consists of it. -/
def Rejoins (b : List Char) : Prop := b.head? ≠ b.getLast? ∨ ∀ c ∈ b, some c = b.getLast?

instance (b : List Char) : Decidable (Rejoins b) :=
  @instDecidableOr _ _ _ (List.decidableBAll _ _)

theorem Interleaves.dropWhile_last (hb : b.getLast? = some last) (ha : adjoining → Rejoins b)
    (h : Interleaves b adjoining front text words) (hf : adjoining ∨ front = false) :
    ∃ front', Interleaves b adjoining front' (text.dropWhile (· == last)) words ∧
      (adjoining ∨ front' = false) := by
  have hkept {c : Char} {l : List Char} (hc : c ≠ last) :
      (c :: l).dropWhile (· == last) = c :: l := List.dropWhile_cons_of_neg (by simpa using hc)
  induction h with
  | ended => exact ⟨false, .ended, .inr rfl⟩
  | @boundary front rest words hfront hrest ih =>
    have hjoin : adjoining := hf.resolve_right nofun
    rcases ha hjoin with hhead | hall
    · refine ⟨true, ?_, .inl hjoin⟩
      obtain ⟨c, tail, rfl⟩ := List.exists_cons_of_ne_nil (l := b) (by rintro rfl; cases hb)
      have hc : c ≠ last := by
        rintro rfl
        exact hhead hb.symm
      rw [List.cons_append, hkept hc]
      exact .boundary hfront hrest
    · have hpos : ∀ c ∈ b, (c == last) = true := by
        intro c hc
        have hsome := (hall c hc).trans hb
        simpa using hsome
      rw [List.dropWhile_append_of_pos hpos]
      exact ih (.inl hjoin)
  | @word w front rest words hw hfront hrest ih =>
    refine ⟨false, ?_, .inr rfl⟩
    obtain ⟨c, tail, rfl⟩ := List.exists_cons_of_ne_nil hw.ne_nil
    have hc : c ≠ last := by
      rintro rfl
      exact hw.head hb.symm
    rw [List.cons_append, hkept hc]
    exact .word hw hfront hrest

theorem Interleaves.replaceRepeats (ha : adjoining → Rejoins (lead ++ [last]))
    (h : Interleaves (lead ++ [last]) adjoining front text words) :
    Interleaves (lead ++ [last]) adjoining front
      (replaceRepeats lead last (fun _ => lead ++ [last]) text) words := by
  induction hn : text.length using Nat.strong_induction_on generalizing front text words with
  | _ n ih =>
    subst hn
    cases h with
    | ended =>
      rw [Text.replaceRepeats]
      exact .ended
    | @boundary _ rest _ hf hrest =>
      have hlast : (lead ++ [last]).getLast? = some last := List.getLast?_concat
      obtain ⟨front', h', hf'⟩ := hrest.dropWhile_last hlast ha hf
      have hle := (List.dropWhile_suffix (l := rest) (· == last)).length_le
      rw [replaceRepeats_boundary]
      have hlt : (rest.dropWhile (· == last)).length < (lead ++ [last] ++ rest).length := by
        simp only [List.length_append, List.length_singleton]
        omega
      exact .boundary hf' (ih _ hlt h' rfl)
    | @word w _ rest _ hw hf hrest =>
      have hpos := List.length_pos_iff.2 hw.ne_nil
      rw [replaceRepeats_word (hw.not_begun (hrest.behind hf))]
      refine .word hw (hf.imp_right ?_) (ih _ (by rw [List.length_append]; omega) hrest rfl)
      rintro rfl
      rw [Text.replaceRepeats]

theorem Interleaves.joinBoundaries (ha : adjoining → Rejoins b)
    (h : Interleaves b adjoining front text words) :
    Interleaves b adjoining front (joinBoundaries b (fun _ => b) text) words := by
  rcases List.eq_nil_or_concat b with rfl | ⟨lead, last, rfl⟩
  · exact h
  · rw [List.concat_eq_append] at *
    rw [Text.joinBoundaries, List.getLast?_concat, List.dropLast_concat]
    dsimp only
    split
    · exact h
    · exact h.replaceRepeats ha

end Repeats

section Ends

variable {b text : List Char}

theorem Interleaves.dropWhile (h : Interleaves b adjoining front text words)
    (hfirst : ∀ w ∈ words.head?, ∀ c ∈ w.head?, c ∉ b) :
    ∃ front', Interleaves b adjoining front' (text.dropWhile b.contains) words := by
  induction h with
  | ended => exact ⟨false, .ended⟩
  | boundary _ _ ih =>
    rw [List.dropWhile_append_of_pos (by simp)]
    exact ih hfirst
  | @word w front rest words hw hf hrest _ =>
    refine ⟨false, ?_⟩
    obtain ⟨c, tail, rfl⟩ := List.exists_cons_of_ne_nil hw.ne_nil
    have hc := hfirst _ rfl c rfl
    rw [List.cons_append, List.dropWhile_cons_of_neg (by simpa using hc)]
    exact .word hw hf hrest

theorem rdropWhile_append (p : Char → Bool) (as later : List Char) :
    (as ++ later).rdropWhile p =
      if later.rdropWhile p = [] then as.rdropWhile p else as ++ later.rdropWhile p := by
  simp only [List.rdropWhile, List.reverse_append, List.dropWhile_append, List.reverse_eq_nil_iff,
    List.isEmpty_iff]
  split <;> simp

theorem Interleaves.eq_nil (h : Interleaves b adjoining front [] words) : words = [] := by
  generalize ht : ([] : List Char) = text at h
  induction h with
  | ended => rfl
  | boundary _ _ ih => exact ih (List.append_eq_nil_iff.1 ht.symm).2.symm
  | word hw => exact absurd (List.append_eq_nil_iff.1 ht.symm).1 hw.ne_nil

theorem Interleaves.rdropWhile (h : Interleaves b adjoining front text words)
    (hlast : ∀ w ∈ words.getLast?, ∀ c ∈ w.getLast?, c ∉ b) :
    ∃ front', Interleaves b adjoining front' (text.rdropWhile b.contains) words ∧
      (front = false → front' = false) ∧
      (front = true → front' = true ∨ text.rdropWhile b.contains = []) := by
  induction h with
  | ended => exact ⟨false, .ended, fun _ => rfl, nofun⟩
  | @boundary front rest words hf hrest ih =>
    obtain ⟨front', h', hfalse, -⟩ := ih hlast
    have hall : b.rdropWhile b.contains = [] := List.rdropWhile_eq_nil_iff.2 (by simp)
    rw [rdropWhile_append, hall]
    split
    · next he =>
      rw [he] at h'
      exact ⟨front', h', nofun, fun _ => .inr rfl⟩
    · exact ⟨true, .boundary (hf.imp_right hfalse) h', nofun, fun _ => .inl rfl⟩
  | @word w front rest words hw hf hrest ih =>
    obtain ⟨front', h', -, htrue⟩ := ih fun v hv => hlast v (by
      rw [List.getLast?_cons, show words.getLast? = some v from hv]
      rfl)
    rw [rdropWhile_append]
    split
    · next he =>
      rw [he] at h'
      cases h'.eq_nil
      have hkept : w.rdropWhile b.contains = w := by
        rw [List.rdropWhile_eq_self_iff]
        intro hne
        have hc := hlast w rfl _ (List.getLast?_eq_some_getLast hne)
        simpa using hc
      have hend : Interleaves b adjoining false (w ++ []) [w] := .word hw (.inr rfl) .ended
      rw [List.append_nil] at hend
      rw [hkept]
      exact ⟨false, hend, fun _ => rfl, nofun⟩
    · refine ⟨false, .word hw ?_ h', fun _ => rfl, nofun⟩
      rcases hf with hf | rfl
      · exact htrue hf
      · exact .inr rfl

end Ends

end Silbo
