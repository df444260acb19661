import Silbo.Proofs.Rounding

/-!
How large a double is. Its exact value is the one that is unpacked; the double near a positive
integer is positive, and near the integer; and the integer part of a double that is not negative is
not negative, and below the power of two that the double is below.
-/
namespace Silbo

namespace Double
open Float.Model (Format UnpackedFloat totalExponent)
open Float.Model.UnpackedFloat

section Values
open Decimal (Binary64)

def exactly : UnpackedFloat → Binary64
  | .notANumber => .notANumber
  | .infinity sign => .infinite (sign == .negative)
  | .zero sign => .finite (sign == .negative) 0 (-1074)
  | .finite sign m e _ => .finite (sign == .negative) m e

section Fields

variable (b : BitVec Format.binary64.numBits)

theorem unpackSign_eq :
    (Sign.ofBitVec (unpackSign b) == .negative) = (b.toNat >>> 63 % 2 == 1) := by
  have htoNat : (unpackSign b).toNat = b.toNat >>> 63 % 2 := by
    simp [unpackSign, BitVec.extractLsb_toNat]
  rw [← htoNat]
  generalize unpackSign b = sign
  revert sign
  decide

theorem toNat_unpackExponent : (unpackExponent b).toNat = b.toNat >>> 52 % 2048 := by
  simp [unpackExponent, BitVec.extractLsb_toNat]

theorem toNat_unpackMantissa : (unpackMantissa b).toNat = b.toNat % Binary64.leadingBit := by
  simp [unpackMantissa, BitVec.extractLsb_toNat, Binary64.leadingBit]

theorem toNat_leading :
    (1#1 ++ unpackMantissa b).toNat = (unpackMantissa b).toNat + Binary64.leadingBit := by
  rw [BitVec.toNat_append, ← Nat.shiftLeft_add_eq_or_of_lt (BitVec.isLt _), Nat.add_comm]
  rfl

end Fields

theorem ofLayout_double (bits : Nat) :
    Binary64.ofLayout 11 52 bits =
      if bits >>> 52 % 2048 = 2047 then
        if bits % Binary64.leadingBit = 0 then .infinite (bits >>> 63 % 2 == 1) else .notANumber
      else if bits >>> 52 % 2048 = 0 then
        .finite (bits >>> 63 % 2 == 1) (bits % Binary64.leadingBit) (-1074)
      else .finite (bits >>> 63 % 2 == 1) (bits % Binary64.leadingBit + Binary64.leadingBit)
        ((bits >>> 52 % 2048 : Nat) - 1075) :=
  rfl

theorem ofFloat_eq (x : Float) : Binary64.ofFloat x = exactly x.toModel.unpack := by
  show Binary64.ofLayout 11 52 x.toModel.toBits.toNat =
    exactly (unpack .binary64 x.toModel.toBits.toBitVec)
  rw [← UInt64.toNat_toBitVec]
  generalize x.toModel.toBits.toBitVec = b
  rw [ofLayout_double]
  unfold unpack
  dsimp only
  rw [← unpackSign_eq b, ← toNat_unpackExponent b, ← toNat_unpackMantissa b]
  have hlast : (@unpackExponent .binary64 b).toNat = 2047 ↔
      @unpackExponent .binary64 b = -1#_ := BitVec.toNat_inj (y := -1#11)
  have hfirst : (@unpackExponent .binary64 b).toNat = 0 ↔
      @unpackExponent .binary64 b = 0#_ := BitVec.toNat_inj (y := 0#11)
  have hzero : (@unpackMantissa .binary64 b).toNat = 0 ↔
      @unpackMantissa .binary64 b = 0#_ := BitVec.toNat_inj (y := 0#52)
  simp only [hlast, hfirst, hzero]
  split
  · split <;> rfl
  · split
    · split
      · rename_i h
        rw [hzero.2 h]
        rfl
      · rename_i h _
        have hbias : ((@unpackExponent .binary64 b).toNat : Int) -
            (Format.binary64.exponentBias + (52 : Nat)) + 1 = -1074 := by
          rw [hfirst.2 h]
          rfl
        exact congrArg (Binary64.finite _ _) hbias.symm
    · show _ = Binary64.finite _ (1#1 ++ @unpackMantissa .binary64 b).toNat _
      rw [toNat_leading b]
      congr 1

theorem Within.truncate? {f : UnpackedFloat} {k : Nat} (h : Within k f) :
    ∃ n : Nat, (exactly f).truncate? = some (n : Int) ∧ n < 2 ^ k := by
  cases h with
  | zero => exact ⟨0, rfl, Nat.two_pow_pos k⟩
  | @finite m e _ hm he =>
    refine ⟨if 0 ≤ e then m <<< e.toNat else m >>> (-e).toNat, rfl, ?_⟩
    split
    · calc m <<< e.toNat = m * 2 ^ e.toNat := Nat.shiftLeft_eq _ _
        _ < 2 ^ 53 * 2 ^ e.toNat := Nat.mul_lt_mul_of_pos_right hm (Nat.two_pow_pos _)
        _ = 2 ^ (53 + e.toNat) := (Nat.pow_add _ _ _).symm
        _ ≤ 2 ^ k := Nat.pow_le_pow_right (by decide) (by omega)
    · rw [Nat.shiftRight_eq_div_pow, Nat.div_lt_iff_lt_mul (Nat.two_pow_pos _), ← Nat.pow_add]
      exact Nat.lt_of_lt_of_le hm (Nat.pow_le_pow_right (by decide) (by omega))

theorem Unsigned.truncate?_nonneg {f : UnpackedFloat} {n : Int} (h : Unsigned f)
    (hn : (exactly f).truncate? = some n) : 0 ≤ n := by
  cases h with
  | infinity => cases hn
  | zero =>
    cases hn
    exact Int.le_refl 0
  | finite =>
    cases hn
    exact Int.natCast_nonneg _

end Values

section Doubles

variable {x : Float} {n k : Nat}

theorem Above.unsigned {f : UnpackedFloat} (h : Above f) : Unsigned f := by
  cases h with
  | infinity => exact .infinity
  | finite => exact .finite

theorem above_or_nan_or_le (x : Float) :
    Above x.toModel.unpack ∨ x.toModel.unpack = .notANumber ∧ ¬ 0 < x ∨ x ≤ 0 ∧ ¬ 0 < x := by
  rw [lt_iff, le_iff, unpack_zero]
  cases hx : x.toModel.unpack with
  | notANumber => exact .inr (.inl ⟨rfl, Bool.false_ne_true⟩)
  | zero sign => exact .inr (.inr ⟨rfl, Bool.false_ne_true⟩)
  | infinity sign =>
    cases sign with
    | positive => exact .inl .infinity
    | negative => exact .inr (.inr ⟨rfl, Bool.false_ne_true⟩)
  | finite sign =>
    obtain ⟨hm, he, -⟩ := unpack_bounds hx
    cases sign with
    | positive => exact .inl (.finite hm he)
    | negative => exact .inr (.inr ⟨rfl, Bool.false_ne_true⟩)

theorem above_of_pos (h : 0 < x) : Above x.toModel.unpack := by
  rcases above_or_nan_or_le x with habove | ⟨-, hnot⟩ | ⟨-, hnot⟩
  · exact habove
  · exact absurd h hnot
  · exact absurd h hnot

theorem above_or_nan_of_not_le (h : ¬ x ≤ 0) :
    Above x.toModel.unpack ∨ x.toModel.unpack = .notANumber := by
  rcases above_or_nan_or_le x with habove | ⟨hnan, -⟩ | ⟨hle, -⟩
  · exact .inl habove
  · exact .inr hnan
  · exact absurd hle h

theorem Above.ne_zero (h : Above x.toModel.unpack) : (x == 0) = false := by
  show UnpackedFloat.beq x.toModel.unpack (0 : Float).toModel.unpack = false
  rw [unpack_zero]
  generalize x.toModel.unpack = f at h
  cases h <;> rfl

theorem Above.within (h : Above x.toModel.unpack) (hx : x.isFinite = true) :
    Within 1024 x.toModel.unpack := by
  have hx : x.toModel.unpack.isFinite = true := hx
  generalize hf : x.toModel.unpack = f at h hx
  cases h with
  | infinity => cases hx
  | finite =>
    obtain ⟨hm, -, he⟩ := unpack_bounds hf
    exact .finite hm (by omega)

theorem Within.isFinite (h : Within k x.toModel.unpack) : x.isFinite = true := by
  show x.toModel.unpack.isFinite = true
  generalize x.toModel.unpack = f at h
  cases h <;> rfl

theorem Within.isInf (h : Within k x.toModel.unpack) : x.isInf = false := by
  show x.toModel.unpack.isInf = false
  generalize x.toModel.unpack = f at h
  cases h <;> rfl

theorem unpack_ofScientific (hn : n < 2 ^ 53) :
    (Float.ofScientific n false 0).toModel.unpack =
      unpack .binary64 (pack .binary64 (UnpackedFloat.mul .binary64
        (unpack .binary64 (pack .binary64 (ofNat .binary64 n)))
        (.finite .positive (2 ^ 52) (-52) (by decide)))) := by
  have hone : (Float.exactlyRepresentablePowersOfTen[0]).toModel.unpack =
      .finite .positive (2 ^ 52) (-52) (by decide) := rfl
  have hword : n.toUInt64.toNat = n := by
    rw [Nat.toUInt64_eq, UInt64.toNat_ofNat', Nat.mod_eq_of_lt (by omega)]
  unfold Float.ofScientific
  rw [dif_pos ⟨hn, by decide⟩]
  show unpack .binary64 (pack .binary64 (UnpackedFloat.mul .binary64
    (unpack .binary64 (pack .binary64 (ofNat .binary64 n.toUInt64.toNat))) _)) = _
  rw [hone, hword]

theorem above_ofScientific (hn : 0 < n) : Above (Float.ofScientific n false 0).toModel.unpack := by
  rcases Nat.lt_or_ge n (2 ^ 53) with hsmall | hlarge
  · rw [unpack_ofScientific hsmall]
    exact (above_ofNat hn).unpack_pack.mul_one.unpack_pack
  · unfold Float.ofScientific
    rw [dif_neg (by omega)]
    apply Above.unpack_pack
    show Above (ofScientific .binary64 n 0)
    have hwidth : (2 ^ Format.binary64.exponentBits : Int) = 2048 := rfl
    unfold ofScientific
    rw [dif_neg (Nat.ne_of_gt hn), if_neg (by omega), if_neg (by omega),
      if_pos (Int.le_refl 0)]
    apply above_mul
    rw [totalExponent, Int.toNat_zero, Nat.pow_zero, Nat.mul_one, log2_shiftLeft hn]
    omega

theorem within_ofScientific (hn : n < 2 ^ k) (hk : k ≤ 53) :
    Within (k + 3) (Float.ofScientific n false 0).toModel.unpack := by
  have hone : Within 1 (.finite .positive (2 ^ 52) (-52) (by decide)) :=
    .finite (by decide) (by decide)
  rw [unpack_ofScientific (Nat.lt_of_lt_of_le hn (Nat.pow_le_pow_right (by decide) hk))]
  have hword := (within_ofNat hn).unpack_pack (by omega) (by omega)
  have hproduct := hword.mul hone (k := k + 2) (by omega) (by omega)
  exact hproduct.unpack_pack (by omega) (by omega)

end Doubles

end Double

end Silbo
