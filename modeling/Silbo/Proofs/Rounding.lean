import Silbo.Proofs.Sign

/-!
What rounding leaves of a value: at most 53 bits, and at most twice the value. So a product or a
quotient of doubles below powers of two is below a power of two, and a product that is not too
small is not rounded to zero.
-/
namespace Silbo

namespace Double
open Float.Model (Format UnpackedFloat totalExponent)
open Float.Model.UnpackedFloat

/-- Zero, or above it and below `2 ^ k`. -/
inductive Within (k : Int) : UnpackedFloat → Prop where
  | zero : Within k (.zero .positive)
  | finite : mantissa < 2 ^ 53 → exponent + 53 ≤ k → Within k (.finite .positive mantissa exponent h)

instance (k : Int) : ∀ f : UnpackedFloat, Decidable (Within k f)
  | .zero .positive => isTrue .zero
  | .finite .positive mantissa exponent _ =>
    decidable_of_iff (mantissa < 2 ^ 53 ∧ exponent + 53 ≤ k)
      ⟨fun h => .finite h.1 h.2, fun h => by cases h; exact ⟨‹_›, ‹_›⟩⟩
  | .zero .negative => isFalse nofun
  | .finite .negative .. => isFalse nofun
  | .infinity _ => isFalse nofun
  | .notANumber => isFalse nofun

inductive Above : UnpackedFloat → Prop where
  | infinity : Above (.infinity .positive)
  | finite : mantissa < 2 ^ 53 → -1074 ≤ exponent → Above (.finite .positive mantissa exponent h)

section Rounding

variable {mantissa : Nat} {exponent : Int} {accuracy : Accuracy} {k : Int}

theorem mantissa_shiftRight (em : ExtendedMantissa) (n : Nat) :
    (em >>> n).mantissa = em.mantissa / 2 ^ n := by
  induction n with
  | zero => simp [HShiftRight.hShiftRight, Nat.repeat]
  | succ n ih =>
    show (em >>> n).mantissa / 2 = _
    rw [ih, Nat.div_div_eq_div_mul, Nat.pow_succ]

theorem mantissa_ofMantissaAndAccuracy (mantissa : Nat) (accuracy : Accuracy) :
    (ExtendedMantissa.ofMantissaAndAccuracy mantissa accuracy).mantissa = mantissa := by
  cases accuracy with
  | exact => rfl
  | inexact o => cases o <;> rfl

theorem roundedMantissa_bounds (em : ExtendedMantissa) :
    em.mantissa ≤ em.roundedMantissa ∧ em.roundedMantissa ≤ em.mantissa + 1 := by
  obtain ⟨m, round, sticky⟩ := em
  cases round <;> cases sticky <;>
    simp [ExtendedMantissa.roundedMantissa, ExtendedMantissa.accuracy, Accuracy.roundToNearestEven]
  omega

theorem targetExponent_eq (total : Int) :
    Format.binary64.targetExponent total = max (total - 53) (-1074) := by
  simp [Format.targetExponent, Format.mantissaBits, Format.minExponent]

/-- How far a significand is shifted so that it has 53 bits, or as far as the least exponent. -/
def shiftOf (mantissa : Nat) (exponent : Int) : Nat :=
  (max (totalExponent mantissa exponent - 53) (-1074) - exponent).toNat

theorem shiftToTargetExponent_mantissa :
    (shiftToTargetExponent .binary64 mantissa exponent accuracy).1.mantissa =
      mantissa / 2 ^ shiftOf mantissa exponent := by
  rw [shiftToTargetExponent, targetExponent_eq, shiftToExponent, mantissa_shiftRight,
    mantissa_ofMantissaAndAccuracy, shiftOf]

theorem shiftToTargetExponent_exponent :
    (shiftToTargetExponent .binary64 mantissa exponent accuracy).2 =
      exponent + shiftOf mantissa exponent := by
  rw [shiftToTargetExponent, targetExponent_eq, shiftToExponent, shiftOf]

theorem shifted_lt (mantissa : Nat) (exponent : Int) :
    mantissa / 2 ^ shiftOf mantissa exponent < 2 ^ 53 := by
  rw [Nat.div_lt_iff_lt_mul (Nat.two_pow_pos _), ← Nat.pow_add]
  have hle : mantissa.log2 + 1 ≤ 53 + shiftOf mantissa exponent := by
    simp only [shiftOf, totalExponent]
    omega
  exact Nat.lt_of_lt_of_le Nat.lt_log2_self (Nat.pow_le_pow_right (by decide) hle)

theorem shifted_pos (hpos : 0 < mantissa) (hmin : -1073 ≤ totalExponent mantissa exponent) :
    0 < mantissa / 2 ^ shiftOf mantissa exponent := by
  apply Nat.div_pos _ (Nat.two_pow_pos _)
  have hle : shiftOf mantissa exponent ≤ mantissa.log2 := by
    simp only [shiftOf, totalExponent] at *
    omega
  exact Nat.le_trans (Nat.pow_le_pow_right (by decide) hle)
    (Nat.log2_self_le (Nat.ne_of_gt hpos))

/-- What rounding leaves: 53 bits, at an exponent that is hardly larger, and not nothing. -/
theorem roundWithAccuracy_eq (sign : Sign) (mantissa : Nat) (exponent : Int) (accuracy : Accuracy) :
    ∃ m e, m < 2 ^ 53 ∧ -1074 ≤ e ∧
      e ≤ max (max exponent (totalExponent mantissa exponent - 53)) (-1074) + 1 ∧
      (0 < mantissa → -1073 ≤ totalExponent mantissa exponent → 0 < m) ∧
      roundWithAccuracy .binary64 sign mantissa exponent accuracy =
        if h : m = 0 then .zero sign else .finite sign m e (Nat.pos_of_ne_zero h) := by
  let first := shiftToTargetExponent .binary64 mantissa exponent accuracy
  let r := first.1.roundedMantissa
  have hexponent : first.2 = exponent + shiftOf mantissa exponent := shiftToTargetExponent_exponent
  have hfirst : first.1.mantissa = mantissa / 2 ^ shiftOf mantissa exponent :=
    shiftToTargetExponent_mantissa
  obtain ⟨hlow, hhigh⟩ := roundedMantissa_bounds first.1
  have hr : r ≤ 2 ^ 53 := by
    have hlt := shifted_lt mantissa exponent
    show first.1.roundedMantissa ≤ _
    omega
  have hlog : r.log2 ≤ 53 := by
    rcases Nat.eq_zero_or_pos r with h | h
    · simp [h]
    · rw [← Nat.lt_succ_iff, Nat.log2_lt (Nat.ne_of_gt h)]
      exact Nat.lt_of_le_of_lt hr (by decide)
  -- The second shift is by one place at most.
  have hshift : shiftOf r first.2 ≤ 1 := by
    rw [shiftOf, hexponent]
    simp only [shiftOf, totalExponent]
    omega
  refine ⟨r / 2 ^ shiftOf r first.2, first.2 + shiftOf r first.2, shifted_lt _ _, ?_, ?_, ?_, ?_⟩
  · rw [hexponent]
    simp only [shiftOf, totalExponent]
    omega
  · rw [hexponent] at *
    simp only [shiftOf, totalExponent] at *
    omega
  · intro hpos hmin
    have hkept : 0 < r := by
      have hp := shifted_pos hpos hmin
      show 0 < first.1.roundedMantissa
      omega
    apply shifted_pos hkept
    rw [hexponent]
    simp only [shiftOf, totalExponent] at *
    omega
  · show (if h : (shiftToTargetExponent .binary64 r first.2 .exact).1.mantissa = 0 then
        UnpackedFloat.zero sign
      else UnpackedFloat.finite sign (shiftToTargetExponent .binary64 r first.2 .exact).1.mantissa
        (shiftToTargetExponent .binary64 r first.2 .exact).2 (Nat.pos_of_ne_zero h)) = _
    simp only [shiftToTargetExponent_mantissa, shiftToTargetExponent_exponent]

end Rounding

section Packing

variable {f : UnpackedFloat} {k : Int}

theorem unpack_bounds {b : BitVec Format.binary64.numBits} {sign : Sign} {m : Nat} {e : Int}
    {h : 0 < m} (hb : unpack .binary64 b = .finite sign m e h) :
    m < 2 ^ 53 ∧ -1074 ≤ e ∧ e ≤ 971 := by
  unfold unpack at hb
  dsimp only [Format.exponentBias] at hb
  have hexponent : (unpackExponent b).toNat < 2048 := (unpackExponent b).isLt
  split at hb
  · split at hb <;> cases hb
  · rename_i hne
    have hlt : (unpackExponent b).toNat ≠ 2047 := by
      intro he
      exact hne (BitVec.eq_of_toNat_eq he)
    split at hb
    · split at hb
      · cases hb
      · cases hb
        have he : (unpackExponent b).toNat = 0 := by
          rw [‹unpackExponent b = 0#_›]
          rfl
        refine ⟨Nat.lt_of_lt_of_le (unpackMantissa b).isLt (by decide), ?_, ?_⟩ <;> omega
    · rename_i hne0
      have hpos : (unpackExponent b).toNat ≠ 0 := by
        intro he
        exact hne0 (BitVec.eq_of_toNat_eq he)
      cases hb
      refine ⟨BitVec.isLt _, ?_, ?_⟩ <;> omega

theorem within_packComponents (hlow : -1021 ≤ k) (hhigh : k ≤ 1024)
    (e : BitVec Format.binary64.exponentBits)
    (m : BitVec Format.binary64.mantissaBitsWithoutImplicit) (he : e.toNat ≤ k + 1022) :
    Within k (unpack .binary64 (packComponents .binary64 .positive e m)) := by
  have hsign : Sign.ofBitVec (unpackSign (packComponents .binary64 .positive e m)) =
      .positive := by
    rw [unpackSign_packComponents, Sign.ofBitVec_toBitVec]
  have hne : e ≠ -1#_ := by
    intro h
    have htoNat : e.toNat = 2047 := by
      rw [h]
      rfl
    omega
  unfold unpack
  simp only [unpackMantissa_packComponents, unpackExponent_packComponents, hsign, if_neg hne,
    Format.exponentBias]
  split
  · split
    · exact .zero
    · apply Within.finite (Nat.lt_of_lt_of_le m.isLt (by decide))
      have hzero : e.toNat = 0 := by
        rw [‹e = 0#_›]
        rfl
      omega
  · apply Within.finite (BitVec.isLt _)
    omega

theorem Within.unpack_pack (h : Within k f) (hlow : -1021 ≤ k) (hhigh : k ≤ 1024) :
    Within k (unpack .binary64 (pack .binary64 f)) := by
  cases h with
  | zero =>
    apply within_packComponents hlow hhigh
    show ((0 : Nat) : Int) ≤ _
    omega
  | @finite m e _ hm he =>
    have hwidth : 2 ^ Format.binary64.exponentBits = 2048 := rfl
    unfold pack
    dsimp only [Format.exponentBias]
    rw [if_neg (by omega)]
    split
    · apply within_packComponents hlow hhigh
      rw [BitVec.toNat_ofNat, Nat.mod_eq_of_lt (by omega)]
      omega
    · apply within_packComponents hlow hhigh
      show ((0 : Nat) : Int) ≤ _
      omega

theorem unpack_eq_zero {b : BitVec Format.binary64.numBits} {sign : Sign}
    (hb : unpack .binary64 b = .zero sign) : unpackExponent b = 0#_ ∧ unpackMantissa b = 0#_ := by
  unfold unpack at hb
  dsimp only at hb
  split at hb
  · split at hb <;> cases hb
  · split at hb
    · split at hb
      · exact ⟨‹_›, ‹_›⟩
      · cases hb
    · cases hb

theorem above_packComponents (e : BitVec Format.binary64.exponentBits)
    (m : BitVec Format.binary64.mantissaBitsWithoutImplicit) (hlast : e = -1#_ → m = 0#_)
    (hfirst : e = 0#_ → m ≠ 0#_) :
    Above (unpack .binary64 (packComponents .binary64 .positive e m)) := by
  have hunsigned := unsigned_packComponents hlast
  generalize hf : unpack .binary64 (packComponents .binary64 .positive e m) = f at hunsigned
  cases hunsigned with
  | infinity => exact .infinity
  | zero =>
    have hzero := unpack_eq_zero hf
    rw [unpackExponent_packComponents, unpackMantissa_packComponents] at hzero
    exact absurd hzero.2 (hfirst hzero.1)
  | finite =>
    obtain ⟨hm, he, -⟩ := unpack_bounds hf
    exact .finite hm he

theorem ofNat_ne_zero {width n : Nat} (hpos : 0 < n) (h : n < 2 ^ width) :
    BitVec.ofNat width n ≠ 0#_ := by
  intro he
  have htoNat := congrArg BitVec.toNat he
  rw [BitVec.toNat_ofNat, Nat.mod_eq_of_lt h, BitVec.toNat_ofNat, Nat.zero_mod] at htoNat
  omega

theorem Above.unpack_pack (h : Above f) : Above (unpack .binary64 (pack .binary64 f)) := by
  cases h with
  | infinity =>
    apply above_packComponents
    · exact fun _ => rfl
    · intro h
      cases h
  | @finite m e hpos hm he =>
    have hwidth : 2 ^ Format.binary64.exponentBits = 2048 := rfl
    unfold pack
    dsimp only [Format.exponentBias]
    split
    · apply above_packComponents
      · exact fun _ => rfl
      · intro h
        cases h
    · split
      · apply above_packComponents
        · exact fun he => absurd he (ofNat_ne_neg_one (by omega))
        · exact fun he => absurd he (ofNat_ne_zero (by omega) (by omega))
      · apply above_packComponents
        · intro h
          cases h
        · rename_i hbits
          intro _
          -- Without the leading bit all of the significand is stored.
          apply ofNat_ne_zero hpos
          have hlog : m.log2 < 53 := (Nat.log2_lt (Nat.ne_of_gt hpos)).2 hm
          apply (Nat.log2_lt (Nat.ne_of_gt hpos)).1
          have hbits : m.log2 + 1 ≠ 53 := hbits
          show m.log2 < 52
          omega

end Packing

section Operations

variable {f g : UnpackedFloat} {a b k : Int} {mantissa : Nat} {exponent : Int}

theorem within_roundWithAccuracy (htotal : totalExponent mantissa exponent ≤ k)
    (hexponent : exponent + 53 ≤ k) (hlow : -1021 ≤ k) (accuracy : Accuracy) :
    Within (k + 1) (roundWithAccuracy .binary64 .positive mantissa exponent accuracy) := by
  obtain ⟨m, e, hm, -, he, -, hround⟩ := roundWithAccuracy_eq .positive mantissa exponent accuracy
  rw [hround]
  split
  · exact .zero
  · apply Within.finite hm
    omega

theorem above_roundWithAccuracy (hpos : 0 < mantissa)
    (htotal : -1073 ≤ totalExponent mantissa exponent) (accuracy : Accuracy) :
    Above (roundWithAccuracy .binary64 .positive mantissa exponent accuracy) := by
  obtain ⟨m, e, hm, he, -, hkept, hround⟩ :=
    roundWithAccuracy_eq .positive mantissa exponent accuracy
  rw [hround, dif_neg (Nat.ne_of_gt (hkept hpos htotal))]
  exact .finite hm he

theorem log2_lt_of_lt {n m : Nat} (h : n < 2 ^ (m + 1)) : n.log2 ≤ m := by
  rcases Nat.eq_zero_or_pos n with rfl | hpos
  · simp
  · rw [← Nat.lt_succ_iff]
    exact (Nat.log2_lt (Nat.ne_of_gt hpos)).2 h

theorem log2_shiftLeft {n : Nat} (hpos : 0 < n) (s : Nat) : (n <<< s).log2 = n.log2 + s := by
  rw [Nat.shiftLeft_eq, Nat.log2_eq_iff (Nat.ne_of_gt (Nat.mul_pos hpos (Nat.two_pow_pos s)))]
  constructor
  · rw [Nat.pow_add]
    exact Nat.mul_le_mul_right _ (Nat.log2_self_le (Nat.ne_of_gt hpos))
  · rw [Nat.add_right_comm, Nat.pow_add]
    exact Nat.mul_lt_mul_of_pos_right Nat.lt_log2_self (Nat.two_pow_pos s)

theorem Within.mul (hf : Within a f) (hg : Within b g) (hab : a + b ≤ k) (hlow : -1021 ≤ k) :
    Within (k + 1) (mul .binary64 f g) := by
  cases hf with
  | zero => cases hg <;> exact .zero
  | @finite m e _ hm he =>
    cases hg with
    | zero => exact .zero
    | @finite m' e' _ hm' he' =>
      have hproduct : (m * m').log2 ≤ 105 := by
        apply log2_lt_of_lt
        calc m * m' < 2 ^ 53 * 2 ^ 53 := Nat.mul_lt_mul_of_lt_of_le hm hm'.le (by decide)
          _ = 2 ^ 106 := by decide
      apply within_roundWithAccuracy _ _ hlow
      · rw [totalExponent]
        omega
      · omega

theorem above_mul {mantissa' : Nat} {exponent' : Int} (hm : 0 < mantissa) (hm' : 0 < mantissa')
    (htotal : -1073 ≤ totalExponent (mantissa * mantissa') (exponent + exponent')) :
    Above (mul .binary64 (.finite .positive mantissa exponent hm)
      (.finite .positive mantissa' exponent' hm')) :=
  above_roundWithAccuracy (Nat.mul_pos hm hm') htotal _

theorem Above.mul_one (hf : Above f) :
    Above (mul .binary64 f (.finite .positive (2 ^ 52) (-52) (by decide))) := by
  cases hf with
  | infinity => exact .infinity
  | @finite m e hpos hm he =>
    apply above_mul hpos
    rw [totalExponent, ← Nat.shiftLeft_eq, log2_shiftLeft hpos]
    omega

theorem Within.div (hf : Within a f) (hpos : 0 < mantissa) (hlow : 2 ^ 52 ≤ mantissa)
    (hhigh : mantissa < 2 ^ 53) (hk : a - exponent - 52 ≤ k) (hmin : -1021 ≤ k) :
    Within (k + 1) (div .binary64 f (.finite .positive mantissa exponent hpos)) := by
  cases hf with
  | zero => exact .zero
  | @finite m e hm0 hm he =>
    have hlog : mantissa.log2 = 52 := (Nat.log2_eq_iff (Nat.ne_of_gt hpos)).2 ⟨hlow, hhigh⟩
    have hlog' : m.log2 ≤ 52 := log2_lt_of_lt hm
    unfold UnpackedFloat.div
    dsimp only [divCore]
    rw [targetExponent_eq]
    apply within_roundWithAccuracy _ _ hmin
    · generalize ht : min (e - exponent)
        (max (totalExponent m e - totalExponent mantissa exponent - 53) (-1074)) = t
      have hle : t ≤ e - exponent := by omega
      have hquotient : (m <<< (e - exponent - t).toNat / mantissa).log2 ≤
          (e - exponent - t).toNat := by
        apply log2_lt_of_lt
        rw [Nat.div_lt_iff_lt_mul hpos, Nat.shiftLeft_eq]
        calc m * 2 ^ (e - exponent - t).toNat
            < 2 ^ 53 * 2 ^ (e - exponent - t).toNat :=
              Nat.mul_lt_mul_of_pos_right hm (Nat.two_pow_pos _)
          _ = 2 ^ ((e - exponent - t).toNat + 1) * 2 ^ 52 := by ring
          _ ≤ 2 ^ ((e - exponent - t).toNat + 1) * mantissa := Nat.mul_le_mul_left _ hlow
      rw [totalExponent]
      omega
    · simp only [totalExponent]
      omega

theorem Unsigned.div (hf : Unsigned f) (hpos : 0 < mantissa) :
    Unsigned (div .binary64 f (.finite .positive mantissa exponent hpos)) := by
  cases hf with
  | infinity => exact .infinity
  | zero => exact .zero
  | finite => exact unsigned_roundWithAccuracy _ _ _ _

theorem Unsigned.finite_mul (hf : Unsigned f) (hpos : 0 < mantissa) :
    Unsigned (UnpackedFloat.mul .binary64 (.finite .positive mantissa exponent hpos) f) := by
  cases hf with
  | infinity => exact .infinity
  | zero => exact .zero
  | finite => exact unsigned_roundWithAccuracy _ _ _ _

theorem ofNat_rounds {n : Nat} (hpos : 0 < n) :
    ofNat .binary64 n = roundWithAccuracy .binary64 .positive
      (n <<< (0 - Format.binary64.targetExponent (totalExponent n 0)).toNat)
      (0 - (0 - Format.binary64.targetExponent (totalExponent n 0)).toNat) .exact := by
  have hcompare : compare (n : Int) 0 = .gt := by
    rw [Int.compare_eq_gt]
    omega
  show UnpackedFloat.normalize _ _ _ _ = _
  unfold UnpackedFloat.normalize
  rw [hcompare]
  rfl

theorem ofNat_eq {n : Nat} (hpos : 0 < n) :
    ∃ m e, 0 < m ∧ totalExponent m e = n.log2 + 1 ∧ e ≤ n.log2 - 52 ∧
      ofNat .binary64 n = roundWithAccuracy .binary64 .positive m e .exact := by
  refine ⟨_, _, ?_, ?_, ?_, ofNat_rounds hpos⟩
  · rw [Nat.shiftLeft_eq]
    exact Nat.mul_pos hpos (Nat.two_pow_pos _)
  · rw [totalExponent, log2_shiftLeft hpos]
    omega
  · rw [targetExponent_eq, totalExponent]
    omega

theorem within_ofNat {n k : Nat} (h : n < 2 ^ k) : Within (k + 1) (ofNat .binary64 n) := by
  rcases Nat.eq_zero_or_pos n with rfl | hpos
  · exact .zero
  · obtain ⟨m, e, -, htotal, he, hround⟩ := ofNat_eq hpos
    have hlog : n.log2 < k := (Nat.log2_lt (Nat.ne_of_gt hpos)).2 h
    rw [hround]
    apply within_roundWithAccuracy <;> omega

theorem above_ofNat {n : Nat} (hpos : 0 < n) : Above (ofNat .binary64 n) := by
  obtain ⟨m, e, hm, htotal, -, hround⟩ := ofNat_eq hpos
  rw [hround]
  apply above_roundWithAccuracy hm
  omega

end Operations

end Double

end Silbo
