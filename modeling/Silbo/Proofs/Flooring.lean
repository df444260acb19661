import Silbo.Proofs.Arithmetic
import Silbo.Proofs.Counting

/-!
How exact the number of samples is. For whole milliseconds and a whole rate it is the integer part of
the exact product of rate and seconds rounded twice, as a quotient and as a product. That is the integer
part of the product itself, but for two cases: a product that is whole can be rounded below itself, and
a product a thousandth below a whole one can be rounded up to it.
-/
namespace Silbo
open Double

namespace Number

variable {v : Number} {n : ℕ}

theorem exists_equals (h : v.same (.int n) = true) (hpos : 0 < n) (hn : n < 2 ^ 53) :
    ∃ x, v.toFloat? = some x ∧ Equals n x.toModel.unpack ∧ v.isNonpositive = false := by
  cases v with
  | int k =>
    obtain rfl : k = n := beq_iff_eq.1 h
    have hfull := full_ofScientific hpos hn
    refine ⟨Float.ofScientific n false 0, ?_, hfull.equals, decide_eq_false (by omega)⟩
    have hinf : (Float.ofScientific n false 0).isInf = false := by
      show (Float.ofScientific n false 0).toModel.unpack.isInf = false
      generalize (Float.ofScientific n false 0).toModel.unpack = f at hfull
      cases hfull
      rfl
    rw [toFloat?, ofInt?, Int.natAbs_natCast]
    simp only [hinf]
    rw [if_neg Bool.false_ne_true, if_neg (by omega)]
  | real x =>
    have hx : (Decimal.Binary64.ofFloat x).isInteger n = true := h
    rw [ofFloat_eq] at hx
    have hequals := equals_of_isInteger hpos hx
    exact ⟨x, rfl, hequals, decide_eq_false hequals.not_nonpositive⟩

theorem isNonpositive_of_same (h : v.same (.int 0) = true) : v.isNonpositive = true := by
  cases v with
  | int k =>
    obtain rfl : k = 0 := beq_iff_eq.1 h
    rfl
  | real x =>
    have hx : (Decimal.Binary64.ofFloat x).isInteger 0 = true := h
    rw [ofFloat_eq] at hx
    exact decide_eq_true (nonpositive_of_isInteger hx)

end Number

namespace Signal

/-- The rate times the seconds, which are rounded, before the product is rounded. -/
def product (m r : ℕ) : ℚ := r * nearest (m / 1000)

/-- A whole number of samples lies more than half a place above the product. -/
structure FallsShort (m r : ℕ) : Prop where
  whole : 1000 ∣ r * m
  lost : product m r + halfPlace (product m r) < (r * m : ℕ) / 1000

/-- The next whole number of samples, a thousandth away, is not half a place above the product. -/
structure Overshoots (m r : ℕ) : Prop where
  last : r * m % 1000 = 999
  gained : (r * m + 1 : ℕ) / 1000 ≤ product m r + halfPlace (product m r)

instance (m r : ℕ) : Decidable (FallsShort m r) :=
  decidable_of_iff (1000 ∣ r * m ∧
    product m r + halfPlace (product m r) < (r * m : ℕ) / 1000)
    ⟨fun h => ⟨h.1, h.2⟩, fun h => ⟨h.whole, h.lost⟩⟩

instance (m r : ℕ) : Decidable (Overshoots m r) :=
  decidable_of_iff (r * m % 1000 = 999 ∧
    ((r * m + 1 : ℕ) : ℚ) / 1000 ≤ product m r + halfPlace (product m r))
    ⟨fun h => ⟨h.1, h.2⟩, fun h => ⟨h.last, h.gained⟩⟩

section Counting

variable {ms rate : Number} {a : ℚ} {x : Float} {m r : ℕ}

theorem whole_of_equals (h : Equals a x.toModel.unpack) : whole x = .ok ⌊a⌋ := by
  rw [whole_eq_ok]
  generalize x.toModel.unpack = f at h
  obtain @⟨m, e, hm, rfl⟩ := h
  show some (((if 0 ≤ e then m <<< e.toNat else m >>> (-e).toNat : ℕ)) : ℤ) = _
  split
  · rename_i he
    obtain ⟨k, rfl⟩ := Int.eq_ofNat_of_zero_le he
    have hvalue : (m : ℚ) * 2 ^ k = (m * 2 ^ k : ℕ) := by push_cast; rfl
    rw [Int.toNat_natCast, Nat.shiftLeft_eq, zpow_natCast, hvalue, Int.floor_natCast]
  · rename_i he
    obtain ⟨k, rfl⟩ := Int.exists_eq_neg_ofNat (not_le.1 he).le
    have hvalue : (m : ℚ) / 2 ^ k = m / (2 ^ k : ℕ) := by push_cast; rfl
    rw [neg_neg, Int.toNat_natCast, Nat.shiftRight_eq_div_pow, zpow_neg, zpow_natCast,
      ← div_eq_mul_inv, hvalue, Rat.floor_natCast_div_natCast]
    rfl

theorem equals_thousand : Equals 1000 (1000 : Float).toModel.unpack := by
  rw [unpack_thousand]
  apply Equals.finite
  norm_num

theorem abs_product_sub_le (hm : 0 < m) (r : ℕ) :
    |product m r - (r * m : ℕ) / 1000| ≤ (r * m : ℕ) / 1000 / 2 ^ 53 := by
  have hpos : (0 : ℚ) < m / 1000 := by positivity
  have hnear := (abs_nearest_sub_le (m / 1000 : ℚ)).trans (halfPlace_le hpos)
  calc |product m r - (r * m : ℕ) / 1000|
      = r * |nearest (m / 1000) - m / 1000| := by
        rw [product, Nat.cast_mul, mul_div_assoc, ← mul_sub, abs_mul, Nat.abs_cast]
    _ ≤ r * (m / 1000 / 2 ^ 53) := mul_le_mul_of_nonneg_left hnear (Nat.cast_nonneg r)
    _ = (r * m : ℕ) / 1000 / 2 ^ 53 := by
        push_cast
        ring

theorem product_bounds (hm : 0 < m) (hr : 0 < r) (h : r * m < 2 ^ 53) :
    1 / 2048 ≤ product m r ∧ product m r < 2 ^ 44 := by
  obtain ⟨hlow, hhigh⟩ := abs_le.1 (abs_product_sub_le hm r)
  have hone : (1 : ℚ) ≤ (r * m : ℕ) := by exact_mod_cast Nat.mul_pos hr hm
  have hlt : ((r * m : ℕ) : ℚ) < 2 ^ 53 := by exact_mod_cast h
  constructor <;> linarith

theorem log_product (hm : 0 < m) (hr : 0 < r) (h : r * m < 2 ^ 53) :
    Int.log 2 (product m r) < 52 := by
  obtain ⟨hlow, hhigh⟩ := product_bounds hm hr h
  have hlog : Int.log 2 (product m r) < 44 :=
    (Int.lt_zpow_iff_log_lt one_lt_two (by linarith)).1 (by exact_mod_cast hhigh)
  omega

/-- The number of samples, with both roundings told. -/
theorem sampleCount_nearest (hms : ms.same (.int m) = true) (hrate : rate.same (.int r) = true)
    (hr : 0 < r) (h : r * m < 2 ^ 53) :
    sampleCount ms rate = .ok ⌊nearest (product m r)⌋ := by
  rcases Nat.eq_zero_or_pos m with rfl | hm
  · rw [sampleCount_nonpositive (Number.isNonpositive_of_same hms), product, Nat.cast_zero,
      zero_div, nearest_zero, mul_zero, nearest_zero, Int.floor_zero]
  · have hm' : m < 2 ^ 53 := (Nat.le_mul_of_pos_left m hr).trans_lt h
    have hr' : r < 2 ^ 53 := (Nat.le_mul_of_pos_right r hm).trans_lt h
    obtain ⟨x, hx, hxm, hpos⟩ := Number.exists_equals hms hm hm'
    obtain ⟨y, hy, hyr, -⟩ := Number.exists_equals hrate hr hr'
    have hone : (1 : ℚ) ≤ m := by exact_mod_cast hm
    have hlt : (m : ℚ) < 2 ^ 53 := by exact_mod_cast hm'
    obtain ⟨hlow, hhigh⟩ := product_bounds hm hr h
    have hseconds := full_div hxm equals_thousand (normal_of_bounds (by linarith) (by linarith))
    have hnormal : Normal (product m r) := normal_of_bounds hlow (by linarith)
    have hproduct : Full (nearest (product m r)) (y * (x / 1000)).toModel.unpack :=
      full_mul hyr hseconds hnormal
    have hfloat : float ms = .ok x := by
      rw [float, hx]
      rfl
    have hfloat' : float rate = .ok y := by
      rw [float, hy]
      rfl
    unfold sampleCount
    rw [if_neg (by simp [hpos]), hfloat, hfloat']
    exact whole_of_equals hproduct.equals

/-- What is counted as reached, once both roundings are done. -/
def Reaches (m r t : ℕ) : Prop := (t : ℚ) ≤ product m r + halfPlace (product m r)

theorem le_floor_nearest_iff (hm : 0 < m) (hr : 0 < r) (h : r * m < 2 ^ 53) (t : ℕ) :
    (t : ℤ) ≤ ⌊nearest (product m r)⌋ ↔ Reaches m r t := by
  rw [Int.le_floor, le_nearest_iff (log_product hm hr h), Int.cast_natCast, Reaches]

theorem product_error (hm : 0 < m) (hr : 0 < r) (h : r * m < 2 ^ 53) :
    |1000 * product m r - (r * m : ℕ)| ≤ (r * m : ℕ) / 2 ^ 53 ∧
      0 < halfPlace (product m r) ∧ halfPlace (product m r) ≤ product m r / 2 ^ 53 ∧
      ((r * m : ℕ) : ℚ) ≤ 2 ^ 53 - 1 := by
  obtain ⟨hlow, hhigh⟩ := abs_le.1 (abs_product_sub_le hm r)
  have hpos : 0 < product m r := lt_of_lt_of_le (by norm_num) (product_bounds hm hr h).1
  have hmax : ((r * m + 1 : ℕ) : ℚ) ≤ (2 ^ 53 : ℕ) := by exact_mod_cast h
  push_cast at hmax
  refine ⟨abs_le.2 ⟨?_, ?_⟩, halfPlace_pos _, halfPlace_le hpos, ?_⟩
  · linarith
  · linarith
  · push_cast
    linarith

theorem reaches_of_lt {t : ℕ} (hm : 0 < m) (hr : 0 < r) (h : r * m < 2 ^ 53)
    (ht : 1000 * t < r * m) : Reaches m r t := by
  obtain ⟨hnear, hpos, -, hmax⟩ := product_error hm hr h
  have hnext : ((1000 * t + 1 : ℕ) : ℚ) ≤ (r * m : ℕ) := by exact_mod_cast ht
  have hlow := (abs_le.1 hnear).1
  rw [Reaches]
  generalize ((r * m : ℕ) : ℚ) = N at *
  push_cast at hnext
  linarith

theorem Reaches.le {t : ℕ} (ht : Reaches m r t) (hm : 0 < m) (hr : 0 < r) (h : r * m < 2 ^ 53) :
    1000 * t ≤ r * m + 1 := by
  obtain ⟨hnear, -, hhalf, hmax⟩ := product_error hm hr h
  have hhigh := (abs_le.1 hnear).2
  have hlt : ((1000 * t : ℕ) : ℚ) < (r * m + 2 : ℕ) := by
    rw [Reaches] at ht
    rw [Nat.cast_add (r * m)]
    generalize ((r * m : ℕ) : ℚ) = N at *
    push_cast
    linarith
  exact Nat.lt_succ_iff.1 (by exact_mod_cast hlt)

theorem Reaches.large {t : ℕ} (ht : Reaches m r t) (hm : 0 < m) (hr : 0 < r) (h : r * m < 2 ^ 53)
    (hlt : r * m < 1000 * t) : 1000 * 2 ^ 42 ≤ r * m := by
  obtain ⟨hnear, -, -, -⟩ := product_error hm hr h
  have hhigh := (abs_le.1 hnear).2
  by_contra hsmall
  have hN : ((r * m : ℕ) : ℚ) < 1000 * 2 ^ 42 := by exact_mod_cast not_le.1 hsmall
  have hnext : ((r * m + 1 : ℕ) : ℚ) ≤ (1000 * t : ℕ) := by exact_mod_cast hlt
  have htop : (t : ℚ) ≤ 2 ^ 42 := by
    have hle : t ≤ 2 ^ 42 := by
      have hmost := ht.le hm hr h
      omega
    exact_mod_cast hle
  have hpos : 0 < product m r := lt_of_lt_of_le (by norm_num) (product_bounds hm hr h).1
  rw [Reaches] at ht
  rw [Nat.cast_add (r * m)] at hnext
  generalize ((r * m : ℕ) : ℚ) = N at *
  push_cast at hnext
  -- Below `2 ^ 42` half a place is too little, with the error of the seconds, for a thousandth.
  have hbelow : product m r < 2 ^ (42 : ℤ) := by
    norm_num
    linarith
  have hlog : Int.log 2 (product m r) < 42 :=
    (Int.lt_zpow_iff_log_lt one_lt_two hpos).1 (by exact_mod_cast hbelow)
  have hhalf : halfPlace (product m r) ≤ 2 ^ (-12 : ℤ) :=
    zpow_le_zpow_right₀ one_le_two (by omega)
  norm_num at hhalf
  linarith

theorem fallsShort_iff (hm : 0 < m) (hr : 0 < r) (h : r * m < 2 ^ 53) :
    FallsShort m r ↔ ¬ Reaches m r (r * m / 1000) := by
  have hvalue (hdvd : 1000 ∣ r * m) : ((r * m : ℕ) : ℚ) / 1000 = (r * m / 1000 : ℕ) := by
    rw [Nat.cast_div hdvd (by norm_num), Nat.cast_ofNat]
  constructor
  · intro hshort hreach
    have hlost := hshort.lost
    rw [hvalue hshort.whole] at hlost
    exact absurd hreach (not_le.2 hlost)
  · intro hnot
    have hdvd : 1000 ∣ r * m := by
      by_contra hdvd
      exact hnot (reaches_of_lt hm hr h (by omega))
    exact ⟨hdvd, by rw [hvalue hdvd]; exact not_le.1 hnot⟩

theorem overshoots_iff (hm : 0 < m) (hr : 0 < r) (h : r * m < 2 ^ 53) :
    Overshoots m r ↔ Reaches m r (r * m / 1000 + 1) := by
  have hvalue (hlast : r * m % 1000 = 999) :
      ((r * m + 1 : ℕ) : ℚ) / 1000 = (r * m / 1000 + 1 : ℕ) := by
    rw [div_eq_iff (by norm_num)]
    exact_mod_cast (by omega : r * m + 1 = (r * m / 1000 + 1) * 1000)
  constructor
  · intro hover
    have hgained := hover.gained
    rwa [hvalue hover.last] at hgained
  · intro hreach
    have hmost := hreach.le hm hr h
    have hlast : r * m % 1000 = 999 := by omega
    exact ⟨hlast, by rwa [hvalue hlast]⟩

theorem not_fallsShort_zero (r : ℕ) : ¬ FallsShort 0 r := by
  intro hshort
  have hlost := hshort.lost
  rw [product, Nat.cast_zero, zero_div, nearest_zero, mul_zero, Nat.mul_zero, Nat.cast_zero,
    zero_div, zero_add] at hlost
  exact absurd (halfPlace_pos 0) hlost.not_gt

theorem not_overshoots_zero (r : ℕ) : ¬ Overshoots 0 r := by
  intro hover
  have hlast := hover.last
  omega

/-- The number of samples is the integer part of the exact product, but where a whole product is
lost or a large one a thousandth below is taken for whole; then it is beside it. -/
theorem sampleCount_floor (hms : ms.same (.int m) = true) (hrate : rate.same (.int r) = true)
    (hr : 0 < r) (h : r * m < 2 ^ 53) :
    ∃ n : ℕ, sampleCount ms rate = .ok n ∧
      (n = r * m / 1000 ↔ ¬ FallsShort m r ∧ ¬ Overshoots m r) ∧
      (n + 1 = r * m / 1000 ↔ FallsShort m r) ∧
      (n = r * m / 1000 + 1 ↔ Overshoots m r) ∧
      (Overshoots m r → 1000 * 2 ^ 42 ≤ r * m) := by
  rcases Nat.eq_zero_or_pos m with rfl | hm
  · have hshort := not_fallsShort_zero r
    have hover := not_overshoots_zero r
    refine ⟨0, sampleCount_nonpositive (Number.isNonpositive_of_same hms), ?_⟩
    simp [hshort, hover]
  · have hcount := sampleCount_nearest hms hrate hr h
    have hreach := le_floor_nearest_iff hm hr h
    have hzero : (0 : ℤ) ≤ ⌊nearest (product m r)⌋ :=
      (hreach 0).2 (reaches_of_lt hm hr h (Nat.mul_pos hr hm))
    obtain ⟨n, hn⟩ := Int.eq_ofNat_of_zero_le hzero
    rw [hn] at hcount
    simp only [hn, Nat.cast_le] at hreach
    -- It is one of three numbers, and which one is told by what is reached.
    have hbelow : r * m / 1000 ≤ n + 1 := by
      by_contra hlt
      have hleast := (hreach (r * m / 1000 - 1)).2 (reaches_of_lt hm hr h (by omega))
      omega
    have habove : n ≤ r * m / 1000 + 1 := by
      by_contra hlt
      have hmost := ((hreach (r * m / 1000 + 2)).1 (by omega)).le hm hr h
      omega
    have hshort : FallsShort m r ↔ ¬ r * m / 1000 ≤ n := by
      rw [fallsShort_iff hm hr h, hreach]
    have hover : Overshoots m r ↔ r * m / 1000 + 1 ≤ n := by
      rw [overshoots_iff hm hr h, hreach]
    refine ⟨n, hcount, ?_, ?_, ?_, ?_⟩
    · rw [hshort, hover]
      omega
    · rw [hshort]
      omega
    · rw [hover]
      omega
    · intro h'
      exact ((overshoots_iff hm hr h).1 h').large hm hr h (by omega)

/-- Of 350 milliseconds at 44100 samples a second the last sample is lost. -/
theorem sampleCount_floor_lost :
    (Number.int 350).same (.int (350 : ℕ)) = true ∧
      (Number.int 44100).same (.int (44100 : ℕ)) = true ∧ 0 < 44100 ∧ 44100 * 350 < 2 ^ 53 ∧
      FallsShort 350 44100 ∧ 44100 * 350 / 1000 = 15435 ∧
      sampleCount (.int 350) (.int 44100) = .ok 15434 := by
  have hms : (Number.int 350).same (.int (350 : ℕ)) = true := by decide
  have hrate : (Number.int 44100).same (.int (44100 : ℕ)) = true := by decide
  have hshort : FallsShort 350 44100 := by decide +kernel
  obtain ⟨n, hn, -, hless, -⟩ := sampleCount_floor hms hrate (by decide) (by decide)
  have hlast := hless.2 hshort
  obtain rfl : n = 15434 := by omega
  exact ⟨hms, hrate, by decide, by decide, hshort, by decide, hn⟩

example : Overshoots 97921 86171930519 := by decide +kernel

end Counting

end Signal

end Silbo
