import Mathlib
import Silbo.Number

/-!
The sign of numbers. A double that is a number and not below zero is zero or above, and so is the
double nearest to a natural number, up to infinity.
-/
namespace Silbo

namespace Double
open Float.Model (Format UnpackedFloat)
open Float.Model.UnpackedFloat

/-- Positive or a positive zero, with infinity; a NaN is neither. -/
inductive Unsigned : UnpackedFloat → Prop where
  | infinity : Unsigned (.infinity .positive)
  | zero : Unsigned (.zero .positive)
  | finite : Unsigned (.finite .positive mantissa exponent h)

section Packing

variable {spec : Format} {f : UnpackedFloat}

theorem ofNat_ne_neg_one {width n : Nat} (h : n + 1 < 2 ^ width) : BitVec.ofNat width n ≠ -1#_ := by
  intro he
  have htoNat := congrArg BitVec.toNat he
  rw [BitVec.toNat_ofNat, Nat.mod_eq_of_lt (Nat.lt_of_succ_lt h), BitVec.neg_one_eq_allOnes,
    BitVec.toNat_allOnes] at htoNat
  omega

theorem unsigned_packComponents {e : BitVec spec.exponentBits}
    {m : BitVec spec.mantissaBitsWithoutImplicit} (h : e = -1#_ → m = 0#_) :
    Unsigned (unpack spec (packComponents spec .positive e m)) := by
  have hsign : Sign.ofBitVec (unpackSign (packComponents spec .positive e m)) = .positive := by
    rw [unpackSign_packComponents, Sign.ofBitVec_toBitVec]
  unfold unpack
  simp only [unpackMantissa_packComponents, unpackExponent_packComponents, hsign]
  split
  · rw [if_pos (h ‹_›)]
    exact .infinity
  · split
    · split
      · exact .zero
      · exact .finite
    · exact .finite

theorem Unsigned.unpack_pack (h : Unsigned f) : Unsigned (unpack spec (pack spec f)) := by
  cases h with
  | infinity => exact unsigned_packComponents fun _ => rfl
  | zero => exact unsigned_packComponents fun _ => rfl
  | @finite mantissa exponent =>
    unfold pack
    dsimp only
    split
    · exact unsigned_packComponents fun _ => rfl
    · split
      · exact unsigned_packComponents fun he => absurd he (ofNat_ne_neg_one (by omega))
      · have hwidth : 0 + 1 < 2 ^ spec.exponentBits := Nat.one_lt_two_pow (Nat.ne_of_gt spec.he)
        exact unsigned_packComponents fun he => absurd he (ofNat_ne_neg_one hwidth)

end Packing

section Rounding

variable {spec : Format} {f : UnpackedFloat}

theorem unsigned_roundWithAccuracy (spec : Format) (mantissa : Nat) (exponent : Int)
    (accuracy : Accuracy) :
    Unsigned (roundWithAccuracy spec .positive mantissa exponent accuracy) := by
  unfold roundWithAccuracy
  dsimp only
  split
  · exact .zero
  · exact .finite

theorem unsigned_ofNat (spec : Format) (n : Nat) : Unsigned (ofNat spec n) := by
  unfold ofNat ofInt UnpackedFloat.normalize
  split
  · rename_i hlt
    rw [Int.compare_eq_lt] at hlt
    omega
  · exact .zero
  · exact unsigned_roundWithAccuracy _ _ _ _

theorem Unsigned.mul (h : Unsigned f) (mantissa : Nat) (exponent : Int) (hm : 0 < mantissa) :
    Unsigned (mul spec f (.finite .positive mantissa exponent hm)) := by
  cases h with
  | infinity => exact .infinity
  | zero => exact .zero
  | finite => exact unsigned_roundWithAccuracy _ _ _ _

theorem unsigned_ofScientific (spec : Format) (n : Nat) : Unsigned (ofScientific spec n 0) := by
  unfold ofScientific
  split
  · exact .zero
  · split
    · exact .infinity
    · split
      · exact .zero
      · rw [if_pos (Int.le_refl 0)]
        exact Unsigned.mul .finite _ _ _

end Rounding

section Doubles

variable {x : Float}

theorem le_iff {y : Float} :
    x ≤ y ↔ UnpackedFloat.le x.toModel.unpack y.toModel.unpack = true := by
  show decide _ = true ↔ _
  rw [decide_eq_true_iff]
  rfl

theorem lt_iff {y : Float} :
    x < y ↔ UnpackedFloat.lt x.toModel.unpack y.toModel.unpack = true := by
  show decide _ = true ↔ _
  rw [decide_eq_true_iff]
  rfl

theorem unpack_zero : (0 : Float).toModel.unpack = .zero .positive := by
  rfl

theorem nonneg_of_unsigned (h : Unsigned x.toModel.unpack) : 0 ≤ x := by
  rw [le_iff, unpack_zero]
  generalize x.toModel.unpack = f at h
  cases h <;> rfl

theorem zero_le_of_not_lt (h : ¬ x < 0) (hn : x.isNaN = false) : 0 ≤ x := by
  have hn : x.toModel.unpack.isNaN = false := hn
  rw [lt_iff, unpack_zero] at h
  rw [le_iff, unpack_zero]
  cases hx : x.toModel.unpack with
  | notANumber =>
    rw [hx] at hn
    cases hn
  | zero sign => rfl
  | infinity sign =>
    rw [hx] at h
    cases sign with
    | positive => rfl
    | negative => exact absurd rfl h
  | finite sign =>
    rw [hx] at h
    cases sign with
    | positive => rfl
    | negative => exact absurd rfl h

theorem zero_le_ofScientific (n : Nat) : 0 ≤ Float.ofScientific n false 0 := by
  apply nonneg_of_unsigned
  unfold Float.ofScientific
  split
  · -- Small numbers are converted as words and multiplied by one.
    have hword : Unsigned n.toUInt64.toFloat.toModel.unpack := (unsigned_ofNat _ _).unpack_pack
    have hone : (Float.exactlyRepresentablePowersOfTen[0]).toModel.unpack =
        .finite .positive (2 ^ 52) (-52) (by decide) := rfl
    apply Unsigned.unpack_pack
    rw [hone]
    exact hword.mul _ _ _
  · exact (unsigned_ofScientific _ n).unpack_pack

end Doubles

end Double

namespace Number

/-- Zero or above; a NaN is not. -/
def Nonneg : Number → Prop
  | int n => 0 ≤ n
  | real x => 0 ≤ x

instance : ∀ n : Number, Decidable n.Nonneg
  | int n => Int.decLe 0 n
  | real x => Float.decLe 0 x

theorem nonneg_of_toFloat? {n : Number} (h : n.isNegative = false) (hx : n.toFloat? = some x)
    (hn : ∀ y, n = .real y → y.isNaN = false) : 0 ≤ x := by
  cases n with
  | real y =>
    cases hx
    apply Double.zero_le_of_not_lt
    · simpa [isNegative] using h
    · exact hn _ rfl
  | int n =>
    have hpos : ¬ n < 0 := by simpa [isNegative] using h
    have hx : ofInt? n = some x := hx
    unfold ofInt? at hx
    dsimp only at hx
    split at hx
    · cases hx
    · cases hx
      exact Double.zero_le_ofScientific _

/-- Of the numbers from zero on, those without a double near them are above zero. -/
theorem Nonneg.not_nonpositive {n : Number} (h : n.Nonneg) (hn : n.toFloat? = none) :
    n.isNonpositive = false := by
  cases n with
  | real x => cases hn
  | int n =>
    apply decide_eq_false
    intro hle
    cases Int.le_antisymm hle h
    exact absurd hn (by decide +kernel)

end Number

end Silbo
