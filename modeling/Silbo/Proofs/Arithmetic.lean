import Silbo.Proofs.Magnitude
import Silbo.Proofs.Nearest

/-!
Arithmetic on doubles, exactly. The double of an integer, the product and the quotient of doubles are
the exact results rounded to 53 bits, where these are neither too small nor too large to have all their
bits.
-/
namespace Silbo

namespace Double
open Float.Model (Format UnpackedFloat totalExponent)
open Float.Model.UnpackedFloat

section Bits

/-- What the two bits behind a significand say of the number that it was cut from. -/
inductive Cut (x : ℚ) : ExtendedMantissa → Prop where
  | exact {m : ℕ} : x = m → Cut x ⟨m, false, false⟩
  | low {m : ℕ} : m < x → x < m + 1 / 2 → Cut x ⟨m, false, true⟩
  | half {m : ℕ} : x = m + 1 / 2 → Cut x ⟨m, true, false⟩
  | high {m : ℕ} : m + 1 / 2 < x → x < m + 1 → Cut x ⟨m, true, true⟩

variable {x : ℚ} {em : ExtendedMantissa}

theorem Cut.bounds (h : Cut x em) : (em.mantissa : ℚ) ≤ x ∧ x < em.mantissa + 1 := by
  cases h with
  | exact h => constructor <;> linarith
  | low hlow hhigh => constructor <;> linarith
  | half h => constructor <;> linarith
  | high hlow hhigh => constructor <;> linarith

theorem Cut.shiftRightOne (h : Cut x em) : Cut (x / 2) em.shiftRightOne := by
  obtain ⟨m, round, sticky⟩ := em
  have hm : ((2 * (m / 2) + m % 2 : ℕ) : ℚ) = m := by exact_mod_cast Nat.div_add_mod m 2
  rw [Nat.cast_add, Nat.cast_mul, Nat.cast_ofNat] at hm
  rcases Nat.mod_two_eq_zero_or_one m with hbit | hbit
  · simp only [ExtendedMantissa.shiftRightOne, hbit]
    rw [hbit, Nat.cast_zero] at hm
    cases h with
    | exact h => exact .exact (by linarith)
    | low hlow hhigh => exact .low (by linarith) (by linarith)
    | half h => exact .low (by linarith) (by linarith)
    | high hlow hhigh => exact .low (by linarith) (by linarith)
  · simp only [ExtendedMantissa.shiftRightOne, hbit]
    rw [hbit, Nat.cast_one] at hm
    cases h with
    | exact h => exact .half (by linarith)
    | low hlow hhigh => exact .high (by linarith) (by linarith)
    | half h => exact .high (by linarith) (by linarith)
    | high hlow hhigh => exact .high (by linarith) (by linarith)

theorem Cut.shiftRight (h : Cut x em) (n : ℕ) : Cut (x / 2 ^ n) (em >>> n) := by
  induction n with
  | zero =>
    rw [pow_zero, div_one]
    exact h
  | succ n ih =>
    rw [pow_succ, ← div_div]
    exact ih.shiftRightOne

theorem Cut.isNearest (h : Cut x em) : IsNearest x em.roundedMantissa := by
  cases h with
  | @exact m h =>
    show IsNearest x (m : ℕ)
    apply isNearest_of_lt <;> push_cast <;> linarith
  | @low m hlow hhigh =>
    show IsNearest x (m : ℕ)
    apply isNearest_of_lt <;> push_cast <;> linarith
  | @high m hlow hhigh =>
    show IsNearest x (m + 1 : ℕ)
    apply isNearest_of_lt <;> push_cast <;> linarith
  | @half m h =>
    show IsNearest x (m + m % 2 : ℕ)
    have heven : Even ((m + m % 2 : ℕ) : ℤ) := by
      rw [Int.even_coe_nat, Nat.even_iff]
      omega
    refine ⟨?_, fun _ => heven⟩
    rcases Nat.mod_two_eq_zero_or_one m with hbit | hbit
    · rw [hbit, h, abs_le]
      constructor <;> push_cast <;> linarith
    · rw [hbit, h, abs_le]
      constructor <;> push_cast <;> linarith

end Bits

section Rounding

/-- The double that is a number above zero. -/
inductive Equals (x : ℚ) : UnpackedFloat → Prop where
  | finite {m : ℕ} {e : ℤ} {h : 0 < m} : x = m * 2 ^ e → Equals x (.finite .positive m e h)

/-- The same, with all 53 bits and an exponent that can be stored. -/
inductive Full (x : ℚ) : UnpackedFloat → Prop where
  | finite {m : ℕ} {e : ℤ} {h : 0 < m} : x = m * 2 ^ e → 2 ^ 52 ≤ m → m < 2 ^ 53 →
      -1074 ≤ e → e ≤ 971 → Full x (.finite .positive m e h)

theorem Full.equals {x : ℚ} {f : UnpackedFloat} (h : Full x f) : Equals x f := by
  cases h with
  | finite hx => exact .finite hx

/-- Where numbers have all 53 bits, whatever they are rounded to. -/
def Normal (x : ℚ) : Prop := -1022 ≤ Int.log 2 x ∧ Int.log 2 x ≤ 1022

variable {x : ℚ} {mantissa : ℕ} {exponent : ℤ} {accuracy : Accuracy}

theorem log_eq {k : ℤ} (hlow : (2 : ℚ) ^ k ≤ x) (hhigh : x < 2 ^ (k + 1)) : Int.log 2 x = k := by
  have hpos : 0 < x := (place_pos k).trans_le hlow
  have hle : k ≤ Int.log 2 x := (Int.zpow_le_iff_le_log one_lt_two hpos).1 (by exact_mod_cast hlow)
  have hlt : Int.log 2 x < k + 1 :=
    (Int.lt_zpow_iff_log_lt one_lt_two hpos).1 (by exact_mod_cast hhigh)
  omega

theorem Cut.log_eq (h : Cut (x / 2 ^ exponent) (.ofMantissaAndAccuracy mantissa accuracy))
    (hpos : 0 < mantissa) : Int.log 2 x = mantissa.log2 + exponent := by
  have hplace := place_pos exponent
  obtain ⟨hlow, hhigh⟩ := h.bounds
  rw [mantissa_ofMantissaAndAccuracy] at hlow hhigh
  have hself : ((2 ^ mantissa.log2 : ℕ) : ℚ) ≤ mantissa := by
    exact_mod_cast Nat.log2_self_le hpos.ne'
  have hnext : ((mantissa + 1 : ℕ) : ℚ) ≤ (2 ^ (mantissa.log2 + 1) : ℕ) := by
    exact_mod_cast Nat.lt_log2_self
  push_cast at hself hnext
  apply Double.log_eq
  · rw [zpow_add₀ two_ne_zero, zpow_natCast]
    exact (le_div_iff₀ hplace).1 (hself.trans hlow)
  · rw [add_right_comm, zpow_add₀ two_ne_zero]
    exact (div_lt_iff₀ hplace).1 (hhigh.trans_le (by exact_mod_cast hnext))

theorem Cut.shiftToTargetExponent
    (h : Cut (x / 2 ^ exponent) (.ofMantissaAndAccuracy mantissa accuracy))
    (hbits : 2 ^ 52 ≤ mantissa) (hx : Normal x) :
    Cut (x / 2 ^ (Int.log 2 x - 52))
        (shiftToTargetExponent .binary64 mantissa exponent accuracy).1 ∧
      2 ^ 52 ≤ (shiftToTargetExponent .binary64 mantissa exponent accuracy).1.mantissa ∧
      (shiftToTargetExponent .binary64 mantissa exponent accuracy).1.mantissa < 2 ^ 53 ∧
      (shiftToTargetExponent .binary64 mantissa exponent accuracy).2 = Int.log 2 x - 52 := by
  have hpos : 0 < mantissa := Nat.lt_of_lt_of_le (by decide) hbits
  have hlog := h.log_eq hpos
  have hlog2 : 52 ≤ mantissa.log2 := (Nat.le_log2 hpos.ne').2 hbits
  obtain ⟨hlow, -⟩ := hx
  have hshift : shiftOf mantissa exponent = mantissa.log2 - 52 := by
    simp only [shiftOf, totalExponent]
    omega
  have hplace : (2 : ℚ) ^ (Int.log 2 x - 52) = 2 ^ exponent * 2 ^ shiftOf mantissa exponent := by
    rw [← zpow_natCast, ← zpow_add₀ two_ne_zero]
    congr 1
    omega
  rw [shiftToTargetExponent_mantissa, shiftToTargetExponent_exponent]
  refine ⟨?_, ?_, shifted_lt _ _, by omega⟩
  · rw [hplace, ← div_div, UnpackedFloat.shiftToTargetExponent, targetExponent_eq]
    exact h.shiftRight _
  · rw [hshift, Nat.le_div_iff_mul_le (Nat.two_pow_pos _), ← Nat.pow_add,
      Nat.add_sub_cancel' hlog2]
    exact Nat.log2_self_le hpos.ne'

theorem carried_full {n : ℕ} {u : ℤ} (hlow : 2 ^ 52 ≤ n) (hhigh : n ≤ 2 ^ 53) (hu : -1074 ≤ u)
    (hu' : u ≤ 970) (hpos : 0 < n / 2 ^ shiftOf n u) :
    Full (n * 2 ^ u) (.finite .positive (n / 2 ^ shiftOf n u) (u + shiftOf n u) hpos) := by
  have hn : n ≠ 0 := by omega
  rcases hhigh.lt_or_eq with hlt | rfl
  · have hlog : n.log2 = 52 := (Nat.log2_eq_iff hn).2 ⟨hlow, hlt⟩
    have hshift : shiftOf n u = 0 := by
      simp only [shiftOf, totalExponent]
      omega
    have hsame : n / 2 ^ shiftOf n u = n := by rw [hshift, Nat.pow_zero, Nat.div_one]
    refine .finite ?_ (by omega) (by omega) (by omega) (by omega)
    rw [hsame, hshift, Nat.cast_zero, add_zero]
  · have hshift : shiftOf (2 ^ 53) u = 1 := by
      simp only [shiftOf, totalExponent, Nat.log2_two_pow]
      omega
    have hsame : 2 ^ 53 / 2 ^ shiftOf (2 ^ 53) u = 2 ^ 52 := by
      rw [hshift]
      decide
    refine .finite ?_ (by omega) (by omega) (by omega) (by omega)
    rw [hsame, hshift, Nat.cast_one, zpow_add_one₀ two_ne_zero]
    push_cast
    ring

/-- What has 53 bits or more, and perhaps more than them behind, is rounded to the nearest. -/
theorem roundWithAccuracy_full
    (h : Cut (x / 2 ^ exponent) (.ofMantissaAndAccuracy mantissa accuracy))
    (hbits : 2 ^ 52 ≤ mantissa) (hx : Normal x) :
    Full (nearest x) (roundWithAccuracy .binary64 .positive mantissa exponent accuracy) := by
  obtain ⟨hcut, hlow, hhigh, hexponent⟩ := h.shiftToTargetExponent hbits hx
  obtain ⟨hmin, hmax⟩ := hx
  unfold roundWithAccuracy
  generalize UnpackedFloat.shiftToTargetExponent .binary64 mantissa exponent accuracy = first at *
  obtain ⟨hround, hround'⟩ := roundedMantissa_bounds first.1
  have hnearest : nearest x = (first.1.roundedMantissa : ℚ) * 2 ^ first.2 := by
    rw [nearest, hcut.isNearest.roundEven_eq, hexponent, Int.cast_natCast]
  have hpos : 0 < first.1.roundedMantissa / 2 ^ shiftOf first.1.roundedMantissa first.2 := by
    apply shifted_pos (by omega)
    rw [totalExponent]
    omega
  simp only [shiftToTargetExponent_mantissa, shiftToTargetExponent_exponent]
  rw [dif_neg hpos.ne', hnearest]
  exact carried_full (by omega) (by omega) (by omega) (by omega) hpos

end Rounding

section Operations

variable {a b : ℚ} {f g : UnpackedFloat} {n : ℕ}

theorem cut_exact {x : ℚ} {m : ℕ} (h : x = m) : Cut x (.ofMantissaAndAccuracy m .exact) :=
  .exact h

theorem cut_quotient (m : ℕ) {d : ℕ} (hd : 0 < d) :
    Cut (m / d) (.ofMantissaAndAccuracy (m / d) (accuracyOfFraction (m % d) d)) := by
  have hd' : (0 : ℚ) < d := by exact_mod_cast hd
  have hm : ((d * (m / d) + m % d : ℕ) : ℚ) = m := by exact_mod_cast Nat.div_add_mod m d
  have hlt : ((m % d : ℕ) : ℚ) < d := by exact_mod_cast Nat.mod_lt m hd
  rw [Nat.cast_add, Nat.cast_mul] at hm
  unfold accuracyOfFraction
  generalize m / d = q, m % d = r at *
  have hx : (m : ℚ) / d = q + r / d := by
    rw [← hm]
    field_simp
  have hpart : (r : ℚ) / d < 1 := (div_lt_one hd').2 hlt
  rw [hx]
  split
  · rename_i hzero
    exact .exact (by rw [hzero, Nat.cast_zero, zero_div, add_zero])
  · rename_i hne
    have hpos : (0 : ℚ) < r / d := div_pos (by exact_mod_cast Nat.pos_of_ne_zero hne) hd'
    have hhalf : (2 * r : ℚ) / d = 2 * (r / d) := mul_div_assoc _ _ _
    cases hcompare : compare (2 * r) d with
    | lt =>
      have h : ((2 * r : ℕ) : ℚ) < d := by exact_mod_cast Nat.compare_eq_lt.1 hcompare
      rw [Nat.cast_mul, Nat.cast_ofNat, ← div_lt_one hd', hhalf] at h
      exact .low (by linarith) (by linarith)
    | eq =>
      have h : ((2 * r : ℕ) : ℚ) = d := by exact_mod_cast Nat.compare_eq_eq.1 hcompare
      rw [Nat.cast_mul, Nat.cast_ofNat, ← div_eq_one_iff_eq hd'.ne', hhalf] at h
      exact .half (by linarith)
    | gt =>
      have h : (d : ℚ) < (2 * r : ℕ) := by exact_mod_cast Nat.compare_eq_gt.1 hcompare
      rw [Nat.cast_mul, Nat.cast_ofNat, ← one_lt_div hd', hhalf] at h
      exact .high (by linarith) (by linarith)

theorem Equals.pos (h : Equals a f) : 0 < a := by
  obtain @⟨m, e, hm, rfl⟩ := h
  exact mul_pos (by exact_mod_cast hm) (place_pos e)

theorem log_mantissa {m : ℕ} (hm : 0 < m) (e : ℤ) : Int.log 2 (m * 2 ^ e : ℚ) = m.log2 + e := by
  have hcut : Cut ((m * 2 ^ e : ℚ) / 2 ^ e) (.ofMantissaAndAccuracy m .exact) :=
    cut_exact (mul_div_cancel_right₀ _ (place_pos e).ne')
  exact hcut.log_eq hm

theorem log_div (ha : 0 < a) (hb : 0 < b) : Int.log 2 a - Int.log 2 b - 1 ≤ Int.log 2 (a / b) := by
  have hlow : ((2 : ℕ) : ℚ) ^ Int.log 2 a ≤ a := Int.zpow_log_le_self one_lt_two ha
  have hhigh : b < ((2 : ℕ) : ℚ) ^ (Int.log 2 b + 1) := Int.lt_zpow_succ_log_self one_lt_two b
  rw [← Int.zpow_le_iff_le_log one_lt_two (div_pos ha hb), le_div_iff₀ hb]
  calc ((2 : ℕ) : ℚ) ^ (Int.log 2 a - Int.log 2 b - 1) * b
      ≤ ((2 : ℕ) : ℚ) ^ (Int.log 2 a - Int.log 2 b - 1) * ((2 : ℕ) : ℚ) ^ (Int.log 2 b + 1) :=
        mul_le_mul_of_nonneg_left hhigh.le (zpow_nonneg (Nat.cast_nonneg 2) _)
    _ = ((2 : ℕ) : ℚ) ^ Int.log 2 a := by
        rw [← zpow_add₀ (by norm_num)]
        congr 1
        ring
    _ ≤ a := hlow

theorem Equals.mul (hf : Equals a f) (hg : Full b g) (hab : Normal (a * b)) :
    Full (nearest (a * b)) (mul .binary64 f g) := by
  obtain @⟨m, e, hm, hf⟩ := hf
  obtain @⟨m', e', hm', hg, hbits, -, -, -⟩ := hg
  apply roundWithAccuracy_full (cut_exact _) (hbits.trans (Nat.le_mul_of_pos_left m' hm)) hab
  rw [hf, hg, zpow_add₀ two_ne_zero]
  field_simp
  push_cast
  ring

theorem Equals.div (hf : Equals a f) (hg : Equals b g) (hab : Normal (a / b)) :
    Full (nearest (a / b)) (div .binary64 f g) := by
  have hlog := log_div hf.pos hg.pos
  have hself : ((2 : ℕ) : ℚ) ^ Int.log 2 (a / b) ≤ a / b :=
    Int.zpow_log_le_self one_lt_two (div_pos hf.pos hg.pos)
  obtain @⟨m, e, hm, rfl⟩ := hf
  obtain @⟨m', e', hm', rfl⟩ := hg
  rw [log_mantissa hm, log_mantissa hm'] at hlog
  unfold UnpackedFloat.div
  dsimp only [divCore]
  rw [targetExponent_eq]
  generalize ht : min (e - e') (max (totalExponent m e - totalExponent m' e' - 53) (-1074)) = t
  -- Enough places are taken for a quotient of 53 bits.
  have hplaces : t ≤ Int.log 2 (m * 2 ^ e / (m' * 2 ^ e') : ℚ) - 52 := by
    have hmin := hab.1
    simp only [totalExponent] at ht
    omega
  have hquotient : (m * 2 ^ e / (m' * 2 ^ e') : ℚ) / 2 ^ t =
      (m <<< (e - e' - t).toNat : ℕ) / m' := by
    have hshift : (2 : ℚ) ^ e = 2 ^ (e - e' - t).toNat * 2 ^ t * 2 ^ e' := by
      rw [← zpow_natCast, ← zpow_add₀ two_ne_zero, ← zpow_add₀ two_ne_zero]
      congr 1
      omega
    rw [Nat.shiftLeft_eq, hshift]
    push_cast
    field_simp
  apply roundWithAccuracy_full _ _ hab
  · rw [hquotient]
    exact cut_quotient _ hm'
  · rw [Nat.le_div_iff_mul_le hm']
    have hbits : ((2 ^ 52 : ℕ) : ℚ) ≤ (m <<< (e - e' - t).toNat : ℕ) / m' := by
      rw [← hquotient, le_div_iff₀ (place_pos t)]
      refine le_trans ?_ hself
      rw [Nat.cast_pow, Nat.cast_ofNat, ← zpow_natCast, ← zpow_add₀ two_ne_zero]
      exact zpow_le_zpow_right₀ one_le_two (by omega)
    rw [le_div_iff₀ (by exact_mod_cast hm')] at hbits
    exact_mod_cast hbits

theorem normal_of_bounds (hlow : 1 / 2048 ≤ a) (hhigh : a < 2 ^ 60) : Normal a := by
  have hpos : 0 < a := lt_of_lt_of_le (by norm_num) hlow
  have hmin : -11 ≤ Int.log 2 a := (Int.zpow_le_iff_le_log one_lt_two hpos).1 (by norm_num; linarith)
  have hmax : Int.log 2 a < 60 := (Int.lt_zpow_iff_log_lt one_lt_two hpos).1 (by exact_mod_cast hhigh)
  constructor <;> omega

theorem normal_natCast (hpos : 0 < n) (hn : n < 2 ^ 53) : Normal n := by
  have hlog : n.log2 < 53 := (Nat.log2_lt hpos.ne').2 hn
  rw [Normal, Int.log_natCast, ← Nat.log2_eq_log_two]
  omega

theorem nearest_natCast (hpos : 0 < n) (hn : n < 2 ^ 53) : nearest n = n := by
  have hlog : n.log2 < 53 := (Nat.log2_lt hpos.ne').2 hn
  have hplace : (2 : ℚ) ^ (Int.log 2 (n : ℚ) - 52) * 2 ^ (52 - n.log2) = 1 := by
    rw [Int.log_natCast, ← Nat.log2_eq_log_two, ← zpow_natCast, ← zpow_add₀ two_ne_zero]
    rw [show ((n.log2 : ℤ) - 52 + (52 - n.log2 : ℕ)) = 0 by omega, zpow_zero]
  apply nearest_of_intCast (n := n * 2 ^ (52 - n.log2))
  rw [div_eq_iff (place_pos _).ne']
  push_cast
  linear_combination (-(n : ℚ)) * hplace

theorem full_ofNat (hpos : 0 < n) (hn : n < 2 ^ 53) : Full n (ofNat .binary64 n) := by
  have hlog : n.log2 < 53 := (Nat.log2_lt hpos.ne').2 hn
  have hshift : (0 - Format.binary64.targetExponent (totalExponent n 0)).toNat = 52 - n.log2 := by
    rw [targetExponent_eq, totalExponent]
    omega
  have hcut : Cut ((n : ℚ) / 2 ^ (0 - (52 - n.log2 : ℕ) : ℤ))
      (.ofMantissaAndAccuracy (n <<< (52 - n.log2)) .exact) := by
    apply cut_exact
    rw [Nat.shiftLeft_eq, zero_sub, zpow_neg, zpow_natCast, div_inv_eq_mul]
    push_cast
    rfl
  have hbits : 2 ^ 52 ≤ n <<< (52 - n.log2) := by
    rw [Nat.shiftLeft_eq]
    calc 2 ^ 52 = 2 ^ n.log2 * 2 ^ (52 - n.log2) := by
          rw [← Nat.pow_add, Nat.add_sub_cancel' (by omega)]
      _ ≤ n * 2 ^ (52 - n.log2) := Nat.mul_le_mul_right _ (Nat.log2_self_le hpos.ne')
  have hround := roundWithAccuracy_full hcut hbits (normal_natCast hpos hn)
  rwa [nearest_natCast hpos hn, ← hshift, ← ofNat_rounds hpos] at hround

theorem Full.unpack_pack (h : Full a f) : unpack .binary64 (pack .binary64 f) = f := by
  obtain @⟨m, e, hm, -, hlow, hhigh, hmin, hmax⟩ := h
  have hwidth : 2 ^ Format.binary64.exponentBits = 2048 := rfl
  have hlog : m.log2 = 52 := (Nat.log2_eq_iff hm.ne').2 ⟨hlow, hhigh⟩
  unfold pack
  dsimp only [Format.exponentBias]
  rw [if_neg (by omega), if_pos (by rw [hlog]; rfl)]
  generalize hbiased : (e + (2 ^ (11 - 1) - 1 : ℕ) + (52 : ℕ)).toNat = biased
  have hsign : Sign.ofBitVec (unpackSign (packComponents .binary64 .positive
      (BitVec.ofNat 11 biased) (BitVec.ofNat 52 m))) = .positive := by
    rw [unpackSign_packComponents, Sign.ofBitVec_toBitVec]
  have hlast : BitVec.ofNat 11 biased ≠ -1#11 := ofNat_ne_neg_one (by omega)
  have hfirst : BitVec.ofNat 11 biased ≠ 0#11 := ofNat_ne_zero (by omega) (by omega)
  unfold unpack
  simp only [unpackMantissa_packComponents, unpackExponent_packComponents, hsign, if_neg hlast,
    if_neg hfirst, Format.exponentBias]
  have hmantissa : (1#1 ++ BitVec.ofNat 52 m).toNat = m := by
    have h := toNat_leading (packComponents .binary64 .positive
      (BitVec.ofNat 11 biased) (BitVec.ofNat 52 m))
    rw [unpackMantissa_packComponents, BitVec.toNat_ofNat] at h
    rw [h]
    show m % 2 ^ 52 + 0x10000000000000 = m
    omega
  have hexponent : ((BitVec.ofNat 11 biased).toNat : ℤ) -
      ((2 ^ (11 - 1) - 1 : ℕ) + (52 : ℕ)) = e := by
    rw [BitVec.toNat_ofNat]
    omega
  congr

end Operations

section Doubles

variable {a b : ℚ} {f : UnpackedFloat} {x y : Float} {n : ℕ}

theorem full_mul (hx : Equals a x.toModel.unpack) (hy : Full b y.toModel.unpack)
    (hab : Normal (a * b)) : Full (nearest (a * b)) (x * y).toModel.unpack := by
  have h := hx.mul hy hab
  show Full _ (unpack .binary64 (pack .binary64
    (UnpackedFloat.mul .binary64 x.toModel.unpack y.toModel.unpack)))
  rwa [h.unpack_pack]

theorem full_div (hx : Equals a x.toModel.unpack) (hy : Equals b y.toModel.unpack)
    (hab : Normal (a / b)) : Full (nearest (a / b)) (x / y).toModel.unpack := by
  have h := hx.div hy hab
  show Full _ (unpack .binary64 (pack .binary64
    (UnpackedFloat.div .binary64 x.toModel.unpack y.toModel.unpack)))
  rwa [h.unpack_pack]

theorem full_ofScientific (hpos : 0 < n) (hn : n < 2 ^ 53) :
    Full n (Float.ofScientific n false 0).toModel.unpack := by
  have hword := full_ofNat hpos hn
  have hone : Full 1 (.finite .positive (2 ^ 52) (-52) (by decide)) :=
    .finite (by norm_num) (by decide) (by decide) (by decide) (by decide)
  have hproduct := hword.equals.mul hone (by simpa using normal_natCast hpos hn)
  rw [mul_one, nearest_natCast hpos hn] at hproduct
  rw [unpack_ofScientific hn, hword.unpack_pack, hproduct.unpack_pack]
  exact hproduct

theorem Equals.not_nonpositive (h : Equals a x.toModel.unpack) : ¬ x ≤ 0 := by
  rw [le_iff, unpack_zero]
  generalize x.toModel.unpack = f at h
  cases h with
  | finite => exact Bool.false_ne_true

theorem eq_zero_of_isInteger {sign : Sign} {n : ℤ}
    (h : (exactly (.zero sign)).isInteger n = true) : n = 0 := by
  have h : (0 == n * (1 <<< 1074 : ℕ)) = true := by cases sign <;> exact h
  rcases Int.mul_eq_zero.1 (beq_iff_eq.1 h).symm with h | h
  · exact h
  · exact absurd (Nat.shiftLeft_eq_zero_iff.1 (Int.natCast_eq_zero.1 h)) one_ne_zero

theorem isInteger_finite {sign : Sign} {m : ℕ} {e : ℤ} {hm : 0 < m} {n : ℤ} :
    (exactly (.finite sign m e hm)).isInteger n = true ↔ (n : ℚ) = sign.apply (m : ℤ) * 2 ^ e := by
  have hshift (k : ℕ) : sign.apply ((m <<< k : ℕ) : ℤ) = sign.apply (m : ℤ) * 2 ^ k := by
    rw [Nat.shiftLeft_eq, Nat.cast_mul, Nat.cast_pow, Nat.cast_ofNat]
    cases sign with
    | positive => rfl
    | negative => exact (neg_mul _ _).symm
  have hdef : (exactly (.finite sign m e hm)).isInteger n =
      if 0 ≤ e then sign.apply ((m <<< e.toNat : ℕ) : ℤ) == n
      else sign.apply (m : ℤ) == n * (1 <<< (-e).toNat : ℕ) := by cases sign <;> rfl
  rw [hdef]
  split
  · rename_i he
    obtain ⟨k, rfl⟩ := Int.eq_ofNat_of_zero_le he
    rw [beq_iff_eq, Int.toNat_natCast, hshift, zpow_natCast, eq_comm]
    exact_mod_cast Iff.rfl
  · rename_i he
    obtain ⟨k, rfl⟩ := Int.exists_eq_neg_ofNat (not_le.1 he).le
    have hpos : (2 : ℚ) ^ k ≠ 0 := by positivity
    rw [beq_iff_eq, neg_neg, Int.toNat_natCast, Nat.one_shiftLeft, zpow_neg, zpow_natCast,
      ← div_eq_mul_inv, eq_div_iff hpos, eq_comm]
    exact_mod_cast Iff.rfl

theorem equals_of_isInteger (hpos : 0 < n) (h : (exactly f).isInteger n = true) : Equals n f := by
  cases f with
  | notANumber => cases h
  | infinity => cases h
  | zero sign => exact absurd (eq_zero_of_isInteger h) (by omega)
  | finite sign m e hm =>
    rw [isInteger_finite] at h
    cases sign with
    | positive => exact .finite h
    | negative =>
      have hvalue : (0 : ℚ) < m * 2 ^ e := mul_pos (by exact_mod_cast hm) (place_pos e)
      have hneg : ((n : ℤ) : ℚ) = -(m * 2 ^ e) := by
        rw [h, ← neg_mul]
        exact_mod_cast rfl
      have hn : (0 : ℚ) < (n : ℤ) := by exact_mod_cast hpos
      linarith

theorem nonpositive_of_isInteger (h : (exactly x.toModel.unpack).isInteger 0 = true) : x ≤ 0 := by
  rw [le_iff, unpack_zero]
  generalize x.toModel.unpack = f at h
  cases f with
  | notANumber => cases h
  | infinity => cases h
  | zero sign => rfl
  | finite sign m e hm =>
    cases sign with
    | negative => rfl
    | positive =>
      have hvalue : (0 : ℚ) < m * 2 ^ e := mul_pos (by exact_mod_cast hm) (place_pos e)
      exact absurd (isInteger_finite.1 h) hvalue.ne

end Doubles

end Double

end Silbo
