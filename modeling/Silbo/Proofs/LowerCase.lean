import Silbo.Proofs.NormalForm
import Silbo.Text.Normalized

/-!
Lower-casing and the normal form. A composite with a capital in it is a capital, so that what a
lower-cased text is spelled with is lower-case, and so is all that this composes to. No blank
composes, and none is left that has another spelling; the normal form is taken between them.
-/
namespace Silbo.Text

section Case

variable {c e : Char}

def CaseRun.codes (r : CaseRun) : List Nat :=
  List.range' r.first ((r.last - r.first) / r.step + 1) r.step

def CaseRun.images (r : CaseRun) : List Nat :=
  List.range' r.image ((r.last - r.first) / r.step + 1) r.step

theorem CaseRun.imageOf?_some {r : CaseRun} (h : r.imageOf? n = some m) :
    n ∈ r.codes ∧ m ∈ r.images := by
  unfold imageOf? at h
  split at h
  · next hn =>
    obtain rfl := Option.some.inj h
    have hk : n - r.first = r.step * ((n - r.first) / r.step) := by
      have := Nat.div_add_mod (n - r.first) r.step
      omega
    have hlt : (n - r.first) / r.step < (r.last - r.first) / r.step + 1 :=
      Nat.lt_succ_of_le (Nat.div_le_div_right (by omega))
    exact ⟨List.mem_range'.2 ⟨_, hlt, by omega⟩, List.mem_range'.2 ⟨_, hlt, by omega⟩⟩
  · cases h

theorem CaseRun.imageOf?_ne_none {r : CaseRun} (hr : r.first ≤ r.last) (h : n ∈ r.codes) :
    r.imageOf? n ≠ none := by
  obtain ⟨i, hi, rfl⟩ := List.mem_range'.1 h
  have hle : r.step * i ≤ r.last - r.first :=
    Nat.le_trans (Nat.mul_le_mul_left _ (Nat.le_of_lt_succ hi)) (Nat.mul_div_le _ _)
  have hmod : (r.first + r.step * i - r.first) % r.step = 0 := by
    rw [Nat.add_sub_cancel_left, Nat.mul_mod_right]
  unfold imageOf?
  rw [if_pos ⟨by omega, by omega, hmod⟩]
  exact Option.some_ne_none _

theorem caseRuns_first_le : ∀ r ∈ caseRuns, r.first ≤ r.last := by decide +kernel

/-- The code points that lower-casing changes, but for the dotted capital I. -/
def capitals : List (List Nat) := caseRuns.map CaseRun.codes

/-- Whether lower-casing leaves a code point as it is wherever it stands. -/
def isSmall (n : Nat) : Bool := !Nat.beq n 0x130 && !covered capitals n

/-- All that lower-casing puts in the place of something else. -/
def smallImages : List (List Nat) := [0x69, 0x307, 0x3C2, 0x3C3] :: caseRuns.map CaseRun.images

theorem isSmall_iff :
    isSmall n = true ↔ n ≠ 0x130 ∧ caseRuns.findSome? (·.imageOf? n) = none := by
  rw [isSmall, Bool.and_eq_true, Bool.not_eq_true', Bool.not_eq_true', ← Bool.not_eq_true,
    ← Bool.not_eq_true, Nat.beq_eq, covered_iff, List.findSome?_eq_none_iff]
  refine and_congr_right fun _ => ⟨fun h r hr => ?_, ?_⟩
  · cases hi : r.imageOf? n with
    | none => rfl
    | some m => exact absurd ⟨_, List.mem_map_of_mem hr, (CaseRun.imageOf?_some hi).1⟩ h
  · rintro h ⟨row, hrow, hn⟩
    obtain ⟨r, hr, rfl⟩ := List.mem_map.1 hrow
    exact CaseRun.imageOf?_ne_none (caseRuns_first_le r hr) hn (h r hr)

theorem lowerChar_small (h : isSmall c.toNat = true) : lowerChar c = [c] := by
  rw [isSmall_iff] at h
  rw [lowerChar, if_neg h.1, h.2]

theorem mem_lowerChar (h : e ∈ lowerChar c) :
    isSmall c.toNat = true ∧ e = c ∨ ∃ m, covered smallImages m = true ∧ e = Char.ofNat m := by
  unfold lowerChar at h
  split at h
  · right
    rcases List.mem_cons.1 h with rfl | h
    · exact ⟨0x69, covered_iff.2 ⟨_, List.mem_cons_self, by simp⟩, rfl⟩
    · exact ⟨0x307, covered_iff.2 ⟨_, List.mem_cons_self, by simp⟩, List.mem_singleton.1 h⟩
  · next hdot =>
    split at h
    · next m hm =>
      obtain ⟨r, hr, hi⟩ := List.exists_of_findSome?_eq_some hm
      have hrow : r.images ∈ smallImages := List.mem_cons_of_mem _ (List.mem_map_of_mem hr)
      exact .inr
        ⟨m, covered_iff.2 ⟨_, hrow, (CaseRun.imageOf?_some hi).2⟩, List.mem_singleton.1 h⟩
    · next hnone => exact .inl ⟨isSmall_iff.2 ⟨hdot, hnone⟩, List.mem_singleton.1 h⟩

end Case

section Tables

theorem smallImages_small :
    (smallImages.all fun row => row.all fun m =>
      isChar m && !isSyllable m && isSmall m && !isBlank (Char.ofNat m)) = true := by
  decide +kernel

theorem smallImages_spelled :
    (table.all fun b => b.rows.all fun row => !covered smallImages row.1 ||
      row.2.all fun n => isSmall n && !isBlank (Char.ofNat n)) = true := by
  decide +kernel

theorem composites_small :
    (composites.all fun row => row.2.all fun e =>
      isChar e.2 && isSmall e.2 == (isSmall e.1 && isSmall row.1)) = true := by
  decide +kernel

theorem composites_not_blank :
    (composites.all fun row => !isBlank (Char.ofNat row.1) && row.2.all fun e =>
      !isBlank (Char.ofNat e.1) && !isBlank (Char.ofNat e.2)) = true := by
  decide +kernel

theorem marks_not_blank :
    (combiningClasses.all fun row =>
      (List.range' row.1 (row.2.1 + 1 - row.1)).all fun n => !isBlank (Char.ofNat n)) = true := by
  decide +kernel

theorem capitals_not_hangul :
    (capitals.all fun row => row.all fun n =>
      !isSyllable n && (Nat.blt n 0x1100 || Nat.ble 0x11C3 n)) = true := by
  decide +kernel

end Tables

section Lower

variable {c e : Char} {text : List Char}

theorem lowerAfter_small (h : ∀ c ∈ text, isSmall c.toNat = true) (before : List Char) :
    lowerAfter before text = text := by
  induction text generalizing before with
  | nil => rfl
  | cons c rest ih =>
    obtain ⟨hc, hrest⟩ := List.forall_mem_cons.1 h
    have hsigma : c.toNat ≠ 0x3A3 := by
      intro he
      rw [he] at hc
      exact absurd hc (by decide +kernel)
    rw [lowerAfter, if_neg hsigma, lowerChar_small hc, ih hrest, List.singleton_append]

theorem lower_small (h : ∀ c ∈ text, isSmall c.toNat = true) : lower text = text :=
  lowerAfter_small h []

theorem mem_lowerAfter {before : List Char} (h : e ∈ lowerAfter before text) :
    (isSmall e.toNat = true ∧ e ∈ text) ∨ ∃ m, covered smallImages m = true ∧ e = Char.ofNat m := by
  induction text generalizing before with
  | nil => cases h
  | cons c rest ih =>
    rw [lowerAfter, List.mem_append] at h
    rcases h with h | h
    · split at h
      · refine .inr ⟨_, covered_iff.2 ⟨_, List.mem_cons_self, ?_⟩, List.mem_singleton.1 h⟩
        split <;> simp
      · rcases mem_lowerChar h with ⟨hc, rfl⟩ | hm
        · exact .inl ⟨hc, List.mem_cons_self⟩
        · exact .inr hm
    · exact (ih h).imp_left fun h => ⟨h.1, List.mem_cons_of_mem c h.2⟩

end Lower

section Settled

variable {a b c d : Char} {text : List Char}

/-- A small letter that is spelled with small letters, and with no blank unless it is one. -/
structure Settled (c : Char) : Prop where
  small : isSmall c.toNat = true
  parts : ∀ d ∈ decompose c, isSmall d.toNat = true
  whole : (isBlank c = true ∨ ∃ d ∈ decompose c, isBlank d = true) → decompose c = [c]

theorem settled_of_plain (hp : decompose c = [c]) (hs : isSmall c.toNat = true) : Settled c where
  small := hs
  parts := by simpa [hp] using hs
  whole _ := hp

theorem settled_of_parts (hs : isSmall c.toNat = true) (hb : isBlank c = false)
    (hp : ∀ d ∈ decompose c, isSmall d.toNat = true ∧ isBlank d = false) : Settled c where
  small := hs
  parts d hd := (hp d hd).1
  whole := by
    rintro (hc | ⟨d, hd, hc⟩)
    · rw [hb] at hc
      cases hc
    · rw [(hp d hd).2] at hc
      cases hc

theorem Settled.not_blank_of_mem (h : Settled c) (hb : isBlank c = false) (hd : d ∈ decompose c) :
    isBlank d = false := by
  by_contra hc
  rw [h.whole (.inr ⟨d, hd, by simpa using hc⟩), List.mem_singleton] at hd
  exact hc (hd ▸ hb)

theorem Settled.spelled (h : Settled c) (hd : d ∈ decompose c) : Settled d :=
  settled_of_plain (decompose_plain hd) (h.parts d hd)

theorem isSmall_hangul (h : isSyllable n = true ∨ IsJamo n) : isSmall n = true := by
  have hrows : covered capitals n = false := by
    rw [← Bool.not_eq_true, covered_iff]
    rintro ⟨row, hr, hn⟩
    have hout := List.all_eq_true.1 (List.all_eq_true.1 capitals_not_hangul row hr) n hn
    simp only [Bool.and_eq_true, Bool.not_eq_true', Bool.or_eq_true, Nat.blt_eq, Nat.ble_eq] at hout
    rcases h with h | h
    · rw [h] at hout
      cases hout.1
    · unfold IsJamo at h
      omega
  rw [isSyllable_iff, IsJamo] at h
  have hdot : Nat.beq n 0x130 = false := by
    rw [← Bool.not_eq_true, Nat.beq_eq]
    omega
  rw [isSmall, hdot, hrows]
  rfl

theorem isBlank_hangul (h : isSyllable c.toNat = true ∨ IsJamo c.toNat) : isBlank c = false := by
  rw [isSyllable_iff, IsJamo] at h
  rw [← Bool.not_eq_true]
  simp only [isBlank, Bool.or_eq_true, Bool.and_eq_true, decide_eq_true_eq, beq_iff_eq]
  omega

theorem compose?_small (h : compose? a b = some c) :
    isSmall c.toNat = (isSmall a.toNat && isSmall b.toNat) := by
  obtain ⟨n, rfl, ⟨row, hr, hb, he⟩ | hn⟩ := compose?_some h
  · have hall := List.all_eq_true.1 (List.all_eq_true.1 composites_small row hr) _ he
    rw [Bool.and_eq_true, beq_iff_eq, hb] at hall
    rw [toNat_ofNat_of_isChar hall.1, hall.2]
  · obtain ⟨hs, hb, hparts⟩ := composeSyllable?_some hn
    rw [toNat_ofNat_of_isSyllable hs, isSmall_hangul (.inl hs), isSmall_hangul (.inr hb),
      isSmall_hangul (hparts.symm.imp And.left And.left)]
    rfl

theorem compose?_not_blank (h : compose? a b = some c) :
    isBlank a = false ∧ isBlank b = false ∧ isBlank c = false := by
  obtain ⟨n, rfl, ⟨row, hr, hb, he⟩ | hn⟩ := compose?_some h
  · have hall := List.all_eq_true.1 composites_not_blank row hr
    rw [Bool.and_eq_true, List.all_eq_true, hb] at hall
    have hentry := hall.2 _ he
    simp only [Char.ofNat_toNat, Bool.and_eq_true, Bool.not_eq_true'] at hall hentry
    exact ⟨hentry.1, hall.1, hentry.2⟩
  · obtain ⟨hs, hb, hparts⟩ := composeSyllable?_some hn
    refine ⟨isBlank_hangul (hparts.symm.imp And.left And.left), isBlank_hangul (.inr hb),
      isBlank_hangul (.inl ?_)⟩
    rwa [toNat_ofNat_of_isSyllable hs]

theorem Settled.compose (ha : Settled a) (hb : Settled b) (h : compose? a b = some c) :
    Settled c := by
  obtain ⟨hna, hnb, hnc⟩ := compose?_not_blank h
  refine settled_of_parts (by rw [compose?_small h, ha.small, hb.small]; rfl) hnc fun d hd => ?_
  rw [(decompose_compose? h).2, List.mem_append, List.mem_singleton] at hd
  rcases hd with hd | rfl
  · exact ⟨ha.parts d hd, ha.not_blank_of_mem hna hd⟩
  · exact ⟨hb.small, hnb⟩

theorem settled_normalForm (h : ∀ c ∈ text, Settled c) : ∀ c ∈ normalForm text, Settled c :=
  normalForm_forall (fun _ _ _ ha hb => ha.compose hb) fun c hc _ hd => (h c hc).spelled hd

theorem settled_smallImage (h : covered smallImages m = true) : Settled (Char.ofNat m) := by
  obtain ⟨row, hr, hm⟩ := covered_iff.1 h
  have hall := List.all_eq_true.1 (List.all_eq_true.1 smallImages_small row hr) m hm
  simp only [Bool.and_eq_true, Bool.not_eq_true'] at hall
  obtain ⟨⟨⟨hchar, hsyllable⟩, hsmall⟩, hblank⟩ := hall
  have hto := toNat_ofNat_of_isChar hchar
  refine settled_of_parts (by rwa [hto]) hblank fun d hd => ?_
  rw [decompose_eq, hto] at hd
  obtain ⟨n, hn, rfl⟩ := List.mem_map.1 hd
  have hpart : isSmall n = true ∧ isBlank (Char.ofNat n) = false := by
    cases hs : spelling? m with
    | none =>
      rw [hs, Option.getD_none, List.mem_singleton] at hn
      rw [hn]
      exact ⟨hsmall, hblank⟩
    | some s =>
      rw [hs, Option.getD_some] at hn
      rcases spelling?_some hs with ⟨hm, -⟩ | ⟨b, hb, hrow⟩
      · rw [hm] at hsyllable
        cases hsyllable
      · have hparts := List.all_eq_true.1 (List.all_eq_true.1 smallImages_spelled b hb) _ hrow
        rw [h, Bool.not_true, Bool.false_or, List.all_eq_true] at hparts
        simpa using hparts n hn
  refine ⟨?_, hpart.2⟩
  rw [toNat_ofNat]
  split
  · exact hpart.1
  · decide +kernel

/-- What is composed and then lower-cased is settled: a small letter in a composed text has small
parts only, since a composite with a capital in it is a capital. -/
theorem settled_folded (text : List Char) : ∀ c ∈ folded text, Settled c := by
  intro c hc
  have hcomposed : ∀ c ∈ normalForm text, isSmall c.toNat = true → Settled c := by
    refine normalForm_forall (fun a b c ha hb h hc => ?_) fun c _ d hd =>
      settled_of_plain (decompose_plain hd)
    rw [compose?_small h, Bool.and_eq_true] at hc
    exact (ha hc.1).compose (hb hc.2) h
  rcases mem_lowerAfter hc with ⟨hs, hm⟩ | ⟨m, hm, rfl⟩
  · exact hcomposed c hm hs
  · exact settled_smallImage hm

theorem combiningClass_blank (h : isBlank b = true) : combiningClass b = 0 := by
  unfold combiningClass
  split
  · rfl
  · cases hk : combiningClasses.findSome? _ with
    | none => rfl
    | some k =>
      obtain ⟨⟨first, last, _⟩, hr, hrow⟩ := List.exists_of_findSome?_eq_some hk
      dsimp only at hrow
      split at hrow
      · next hin =>
        have hall := List.all_eq_true.1 marks_not_blank _ hr
        have hn := List.all_eq_true.1 hall b.toNat (List.mem_range'_1.2 ⟨hin.1, by dsimp only; omega⟩)
        rw [Char.ofNat_toNat, h] at hn
        cases hn
      · cases hrow

theorem Settled.inert (h : Settled b) (hb : isBlank b = true) : Inert b where
  plain := h.whole (.inl hb)
  starter := combiningClass_blank hb
  first c := by
    cases hc : compose? b c with
    | none => rfl
    | some _ => exact absurd hb (by simp [(compose?_not_blank hc).1])
  second c := by
    cases hc : compose? c b with
    | none => rfl
    | some _ => exact absurd hb (by simp [(compose?_not_blank hc).2.1])

end Settled

end Silbo.Text
