import Silbo.Proofs.Decomposition

/-!
Laws of the normal form. Spelled out and put in order again, a composed text is the one that it was
composed from, so that the normal form is taken once and for all. Between characters that take no
part in it, it is taken piece by piece.
-/
namespace Silbo.Text

section Order

variable {c d e : Char} {text rest : List Char}

def leadingMarks (text : List Char) : List Char := text.takeWhile (combiningClass · ≠ 0)

theorem mem_leadingMarks_cons :
    e ∈ leadingMarks (c :: rest) ↔ combiningClass c ≠ 0 ∧ (e = c ∨ e ∈ leadingMarks rest) := by
  unfold leadingMarks
  by_cases hc : combiningClass c = 0 <;> simp [hc]

/-- No mark stands before one of a lower class on the same letter. -/
def Ordered : List Char → Prop
  | [] => True
  | c :: rest => (∀ d ∈ leadingMarks rest, combiningClass c ≤ combiningClass d) ∧ Ordered rest

theorem insertMark_of_le (h : ∀ d ∈ leadingMarks text, combiningClass c ≤ combiningClass d) :
    insertMark c text = c :: text := by
  cases text with
  | nil => rfl
  | cons d rest =>
    rw [insertMark, if_neg]
    rintro ⟨hd, hlt⟩
    have hle := h d (mem_leadingMarks_cons.2 ⟨hd, .inl rfl⟩)
    omega

theorem insertMark_starter (h : combiningClass c = 0) (text : List Char) :
    insertMark c text = c :: text := insertMark_of_le fun _ _ => h ▸ Nat.zero_le _

theorem mem_insertMark : e ∈ insertMark c text ↔ e = c ∨ e ∈ text := by
  induction text with
  | nil => simp [insertMark]
  | cons d rest ih =>
    rw [insertMark]
    split
    · rw [List.mem_cons, ih, List.mem_cons, or_left_comm]
    · rw [List.mem_cons]

theorem mem_leadingMarks_insertMark (h : e ∈ leadingMarks (insertMark c text)) :
    e = c ∨ e ∈ leadingMarks text := by
  induction text with
  | nil => exact (mem_leadingMarks_cons.1 h).2
  | cons d rest ih =>
    rw [insertMark] at h
    split at h
    · obtain ⟨hd, rfl | h⟩ := mem_leadingMarks_cons.1 h
      · exact .inr (mem_leadingMarks_cons.2 ⟨hd, .inl rfl⟩)
      · exact (ih h).imp_right fun h => mem_leadingMarks_cons.2 ⟨hd, .inr h⟩
    · exact (mem_leadingMarks_cons.1 h).2

theorem Ordered.insertMark (h : Ordered text) (c : Char) : Ordered (insertMark c text) := by
  induction text with
  | nil => exact ⟨by simp [leadingMarks], trivial⟩
  | cons d rest ih =>
    rw [Text.insertMark]
    split
    · next hlt =>
      refine ⟨fun e he => ?_, ih h.2⟩
      rcases mem_leadingMarks_insertMark he with rfl | he
      · exact Nat.le_of_lt hlt.2
      · exact h.1 e he
    · next hle =>
      refine ⟨fun e he => ?_, h⟩
      obtain ⟨hd, rfl | he⟩ := mem_leadingMarks_cons.1 he
      · omega
      · exact Nat.le_trans (by omega) (h.1 e he)

theorem ordered_orderMarks (text : List Char) : Ordered (orderMarks text) := by
  induction text with
  | nil => trivial
  | cons c rest ih => exact ih.insertMark c

theorem Ordered.orderMarks_eq (h : Ordered text) : orderMarks text = text := by
  induction text with
  | nil => rfl
  | cons c rest ih => rw [orderMarks, ih h.2, insertMark_of_le h.1]

theorem mem_orderMarks : c ∈ orderMarks text ↔ c ∈ text := by
  induction text with
  | nil => rfl
  | cons d rest ih => rw [orderMarks, mem_insertMark, ih, List.mem_cons]

theorem insertMark_comm (hc : combiningClass c ≠ 0) (h : combiningClass c < combiningClass d)
    (text : List Char) :
    insertMark d (insertMark c text) = insertMark c (insertMark d text) := by
  induction text with
  | nil =>
    have hdc : ¬ (combiningClass d ≠ 0 ∧ combiningClass d < combiningClass c) := by omega
    simp [insertMark, hc, h, hdc]
  | cons e rest ih =>
    by_cases hec : combiningClass e ≠ 0 ∧ combiningClass e < combiningClass c
    · have hed : combiningClass e ≠ 0 ∧ combiningClass e < combiningClass d := by omega
      simp only [insertMark, if_pos hec, if_pos hed, ih]
    · have hdc : ¬ (combiningClass d ≠ 0 ∧ combiningClass d < combiningClass c) := by omega
      by_cases hed : combiningClass e ≠ 0 ∧ combiningClass e < combiningClass d
      · simp only [insertMark, if_neg hec, if_pos hed, if_pos (And.intro hc h)]
      · simp only [insertMark, if_neg hec, if_neg hed, if_pos (And.intro hc h), if_neg hdc]

theorem orderMarks_append_congr (before : List Char) {later later' : List Char}
    (h : orderMarks later = orderMarks later') :
    orderMarks (before ++ later) = orderMarks (before ++ later') := by
  induction before with
  | nil => exact h
  | cons c before ih => rw [List.cons_append, List.cons_append, orderMarks, orderMarks, ih]

theorem orderMarks_cons_run {run : List Char}
    (h : ∀ d ∈ run, combiningClass d ≠ 0 ∧ combiningClass d < combiningClass c)
    (rest : List Char) : orderMarks (c :: (run ++ rest)) = orderMarks (run ++ c :: rest) := by
  induction run with
  | nil => rfl
  | cons d run ih =>
    rw [List.forall_mem_cons] at h
    rw [List.cons_append, List.cons_append, orderMarks, orderMarks, insertMark_comm h.1.1 h.1.2,
      ← orderMarks, ih h.2, ← orderMarks]

theorem insertMark_append_cons (hb : combiningClass b = 0) (before later : List Char) :
    insertMark c (before ++ b :: later) = insertMark c before ++ b :: later := by
  induction before with
  | nil => simp [insertMark, hb]
  | cons d before ih =>
    rw [List.cons_append, insertMark, insertMark]
    split
    · rw [ih, List.cons_append]
    · rfl

theorem orderMarks_append_cons (hb : combiningClass b = 0) (before later : List Char) :
    orderMarks (before ++ b :: later) = orderMarks before ++ b :: orderMarks later := by
  induction before with
  | nil => exact insertMark_starter hb _
  | cons c before ih => rw [List.cons_append, orderMarks, ih, insertMark_append_cons hb, ← orderMarks]

end Order

section Composing

variable {base c : Char} {held rest text : List Char}

/-- A character composes with the base if none of the marks held is in the way. Else it is the next
base or one more mark to hold. -/
theorem composeOnto_cons (base : Char) (held : List Char) (c : Char) (rest : List Char) :
    (∃ composed, (∀ d ∈ held.head?, combiningClass d < combiningClass c) ∧
      compose? base c = some composed ∧
      composeOnto base held (c :: rest) = composeOnto composed held rest) ∨
    (combiningClass c = 0 ∧
      composeOnto base held (c :: rest) = base :: held.reverse ++ composeOnto c [] rest) ∨
    (combiningClass c ≠ 0 ∧
      composeOnto base held (c :: rest) = composeOnto base (c :: held) rest) := by
  rw [composeOnto]
  split
  · next composed hc =>
    split at hc
    · cases hc
    · next hfree =>
      refine .inl ⟨composed, fun d hd => ?_, hc, rfl⟩
      simpa [Option.mem_def.1 hd] using hfree
  · split
    · next hz => exact .inr (.inl ⟨hz, rfl⟩)
    · next hz => exact .inr (.inr ⟨hz, rfl⟩)

/-- Marks that are held back while the rest of a text is read: they are in order, and none of those
to come on the same letter is of a lower class. -/
structure Held (held rest : List Char) : Prop where
  mark : ∀ d ∈ held, combiningClass d ≠ 0
  last : ∀ d ∈ held, ∀ e ∈ held.head?, combiningClass d ≤ combiningClass e
  below : ∀ d ∈ held, ∀ e ∈ leadingMarks rest, combiningClass d ≤ combiningClass e

theorem held_nil (rest : List Char) : Held [] rest where
  mark := by simp
  last := by simp
  below := by simp

theorem Held.push (h : Held held (c :: rest)) (hc : combiningClass c ≠ 0)
    (ho : Ordered (c :: rest)) : Held (c :: held) rest where
  mark := List.forall_mem_cons.2 ⟨hc, h.mark⟩
  last d hd e he := by
    obtain rfl : c = e := Option.some.inj he
    rcases List.mem_cons.1 hd with rfl | hd
    · exact Nat.le_refl _
    · exact h.below d hd c (mem_leadingMarks_cons.2 ⟨hc, .inl rfl⟩)
  below d hd e he := by
    rcases List.mem_cons.1 hd with rfl | hd
    · exact ho.1 e he
    · exact h.below d hd e (mem_leadingMarks_cons.2 ⟨hc, .inr he⟩)

theorem Held.lt (h : Held held rest) (hc : ∀ d ∈ held.head?, combiningClass d < combiningClass c) :
    ∀ d ∈ held, combiningClass d < combiningClass c := by
  intro d hd
  cases held with
  | nil => cases hd
  | cons e held => exact Nat.lt_of_le_of_lt (h.last d hd e rfl) (hc e rfl)

theorem Held.tail (h : Held held (c :: rest)) (hc : ∀ d ∈ held, combiningClass d < combiningClass c) :
    Held held rest where
  mark := h.mark
  last := h.last
  below d hd e he := by
    have hlt := hc d hd
    exact h.below d hd e (mem_leadingMarks_cons.2 ⟨by omega, .inr he⟩)

theorem flatMap_decompose (h : ∀ c ∈ text, decompose c = [c]) : text.flatMap decompose = text := by
  rw [List.flatMap_congr h, List.flatMap_singleton']

/-- Composition is undone by spelling out and ordering. The induction is on what is still to be
read; a mark that composes is moved over the ones held, all of which are of lower classes. -/
theorem composeOnto_spelled (hh : Held held rest) (ho : Ordered rest)
    (hheld : ∀ c ∈ held, decompose c = [c]) (hrest : ∀ c ∈ rest, decompose c = [c]) :
    orderMarks ((composeOnto base held rest).flatMap decompose) =
      orderMarks (decompose base ++ (held.reverse ++ rest)) := by
  have hback : held.reverse.flatMap decompose = held.reverse :=
    flatMap_decompose fun c hc => hheld c (List.mem_reverse.1 hc)
  induction rest generalizing base held with
  | nil => rw [composeOnto, List.flatMap_cons, hback, List.append_nil]
  | cons c rest ih =>
    obtain ⟨hc, hlater⟩ := List.forall_mem_cons.1 hrest
    rcases composeOnto_cons base held c rest with ⟨composed, hfree, hcomp, he⟩ | ⟨-, he⟩ | ⟨hz, he⟩
    · have hlt := hh.lt hfree
      have hrun : ∀ d ∈ held.reverse,
          combiningClass d ≠ 0 ∧ combiningClass d < combiningClass c := fun d hd =>
        ⟨hh.mark d (List.mem_reverse.1 hd), hlt d (List.mem_reverse.1 hd)⟩
      rw [he, ih (hh.tail hlt) ho.2 hheld hlater hback, (decompose_compose? hcomp).2,
        List.append_assoc]
      exact orderMarks_append_congr _ (orderMarks_cons_run hrun rest)
    · have hnext : orderMarks ((composeOnto c [] rest).flatMap decompose) =
          orderMarks (decompose c ++ rest) := ih (held_nil rest) ho.2 (by simp) hlater rfl
      rw [hc] at hnext
      rw [he, List.flatMap_append, List.flatMap_cons, hback, List.append_assoc]
      exact orderMarks_append_congr _ (orderMarks_append_congr _ hnext)
    · have hpush : ∀ d ∈ c :: held, decompose d = [d] := List.forall_mem_cons.2 ⟨hc, hheld⟩
      have hback' := flatMap_decompose fun d hd => hpush d (List.mem_reverse.1 hd)
      rw [he, ih (hh.push hz ho) ho.2 hpush hlater hback', List.reverse_cons, List.append_assoc,
        List.singleton_append]

theorem composeAll_spelled (ho : Ordered text) (hp : ∀ c ∈ text, decompose c = [c]) :
    orderMarks ((composeAll text).flatMap decompose) = text := by
  induction text with
  | nil => rfl
  | cons c rest ih =>
    rw [List.forall_mem_cons] at hp
    rw [composeAll]
    split
    · rw [composeOnto_spelled (held_nil rest) ho.2 (by simp) hp.2, hp.1]
      exact ho.orderMarks_eq
    · rw [List.flatMap_cons, hp.1, List.singleton_append, orderMarks, ih ho.2 hp.2,
        insertMark_of_le ho.1]

theorem spelled_normalForm (text : List Char) :
    orderMarks ((normalForm text).flatMap decompose) = orderMarks (text.flatMap decompose) := by
  refine composeAll_spelled (ordered_orderMarks _) fun d hd => ?_
  obtain ⟨c, -, hd⟩ := List.mem_flatMap.1 (mem_orderMarks.1 hd)
  exact decompose_plain hd

theorem normalForm_normalForm (text : List Char) :
    normalForm (normalForm text) = normalForm text := by
  rw [normalForm, spelled_normalForm, ← normalForm]

theorem normalForm_eq_nil : normalForm text = [] ↔ text = [] := by
  constructor
  · intro h
    have hs := spelled_normalForm text
    rw [h] at hs
    rw [List.eq_nil_iff_forall_not_mem]
    intro c hc
    obtain ⟨d, hd⟩ := List.exists_mem_of_ne_nil _ (decompose_ne_nil c)
    have hmem := mem_orderMarks.2 (List.mem_flatMap.2 ⟨c, hc, hd⟩)
    rw [← hs] at hmem
    cases hmem
  · rintro rfl
    rfl

end Composing

section Members

variable {P : Char → Prop} {text : List Char}

theorem composeOnto_forall (hcompose : ∀ a b c, P a → P b → compose? a b = some c → P c)
    {base : Char} {held rest : List Char} (hbase : P base) (hheld : ∀ c ∈ held, P c)
    (hrest : ∀ c ∈ rest, P c) : ∀ c ∈ composeOnto base held rest, P c := by
  induction rest generalizing base held with
  | nil => exact List.forall_mem_cons.2 ⟨hbase, by simpa using hheld⟩
  | cons c rest ih =>
    obtain ⟨hc, hlater⟩ := List.forall_mem_cons.1 hrest
    rcases composeOnto_cons base held c rest with ⟨composed, -, hcomp, he⟩ | ⟨-, he⟩ | ⟨-, he⟩
    · rw [he]
      exact ih (hcompose base c composed hbase hc hcomp) hheld hlater
    · rw [he, List.forall_mem_append]
      exact ⟨List.forall_mem_cons.2 ⟨hbase, by simpa using hheld⟩, ih hc (by simp) hlater⟩
    · rw [he]
      exact ih hbase (List.forall_mem_cons.2 ⟨hc, hheld⟩) hlater

theorem composeAll_forall (hcompose : ∀ a b c, P a → P b → compose? a b = some c → P c)
    (h : ∀ c ∈ text, P c) : ∀ c ∈ composeAll text, P c := by
  induction text with
  | nil => simp [composeAll]
  | cons c rest ih =>
    obtain ⟨hc, hrest⟩ := List.forall_mem_cons.1 h
    rw [composeAll]
    split
    · exact composeOnto_forall hcompose hc (by simp) hrest
    · exact List.forall_mem_cons.2 ⟨hc, ih hrest⟩

/-- What holds of all that a text is spelled with, and of a composite if it holds of its parts,
holds of all characters of the normal form. -/
theorem normalForm_forall (hcompose : ∀ a b c, P a → P b → compose? a b = some c → P c)
    (h : ∀ c ∈ text, ∀ d ∈ decompose c, P d) : ∀ c ∈ normalForm text, P c := by
  refine composeAll_forall hcompose fun d hd => ?_
  obtain ⟨c, hc, hd⟩ := List.mem_flatMap.1 (mem_orderMarks.1 hd)
  exact h c hc d hd

end Members

section Pieces

/-- A character that takes no part in the normal form. -/
structure Inert (b : Char) : Prop where
  plain : decompose b = [b]
  starter : combiningClass b = 0
  first : ∀ c, compose? b c = none
  second : ∀ c, compose? c b = none

variable {b base : Char}

theorem Inert.composeOnto_left (hb : Inert b) (held rest : List Char) :
    composeOnto b held rest = b :: held.reverse ++ composeAll rest := by
  induction rest generalizing held with
  | nil => rw [composeOnto, composeAll, List.append_nil]
  | cons c rest ih =>
    rw [composeAll]
    rcases composeOnto_cons b held c rest with ⟨_, -, hc, -⟩ | ⟨hz, he⟩ | ⟨hz, he⟩
    · rw [hb.first] at hc
      cases hc
    · rw [he, if_pos hz]
    · rw [he, if_neg hz, ih]
      simp

theorem Inert.composeOnto_append_cons (hb : Inert b) (base : Char)
    (held before later : List Char) :
    composeOnto base held (before ++ b :: later) =
      composeOnto base held before ++ b :: composeAll later := by
  induction before generalizing base held with
  | nil =>
    rcases composeOnto_cons base held b later with ⟨_, -, hc, -⟩ | ⟨-, he⟩ | ⟨hz, -⟩
    · rw [hb.second] at hc
      cases hc
    · rw [List.nil_append, he, hb.composeOnto_left, composeOnto]
      simp
    · exact absurd hb.starter hz
  | cons c before ih =>
    rw [List.cons_append, composeOnto, composeOnto]
    split
    · rw [ih]
    · split
      · rw [ih]
        simp
      · rw [ih]

theorem Inert.composeAll_append_cons (hb : Inert b) (before later : List Char) :
    composeAll (before ++ b :: later) = composeAll before ++ b :: composeAll later := by
  induction before with
  | nil =>
    show composeAll (b :: later) = b :: composeAll later
    rw [composeAll, if_pos hb.starter, hb.composeOnto_left]
    rfl
  | cons c before ih =>
    rw [List.cons_append, composeAll, composeAll]
    split
    · exact hb.composeOnto_append_cons c [] before later
    · rw [ih, List.cons_append]

theorem Inert.normalForm_append_cons (hb : Inert b) (before later : List Char) :
    normalForm (before ++ b :: later) = normalForm before ++ b :: normalForm later := by
  unfold normalForm
  rw [List.flatMap_append, List.flatMap_cons, hb.plain, List.singleton_append,
    orderMarks_append_cons hb.starter, hb.composeAll_append_cons]

end Pieces

end Silbo.Text
