import Mathlib.Algebra.Order.Round
import Mathlib.Data.Int.Log
import Mathlib.Data.Rat.Floor
import Mathlib.Tactic.FieldSimp
import Mathlib.Tactic.LinearCombination
import Mathlib.Tactic.NormNum
import Mathlib.Tactic.Positivity

/-!
Rounding to 53 bits among the rational numbers, a half going to the even neighbour: how far it goes, and
which integers it reaches.
-/
namespace Silbo

namespace Double

section Nearest

def roundEven (x : ℚ) : ℤ := if Int.fract x = 1 / 2 then 2 * round (x / 2) else round x

def nearest (x : ℚ) : ℚ := roundEven (x / 2 ^ (Int.log 2 x - 52)) * 2 ^ (Int.log 2 x - 52)

def halfPlace (x : ℚ) : ℚ := 2 ^ (Int.log 2 x - 53)

structure IsNearest (x : ℚ) (n : ℤ) : Prop where
  near : |x - n| ≤ 1 / 2
  even : |x - n| = 1 / 2 → Even n

variable {x : ℚ} {m n t : ℤ}

theorem isNearest_roundEven (x : ℚ) : IsNearest x (roundEven x) := by
  have hx : (⌊x⌋ : ℚ) + Int.fract x = x := Int.floor_add_fract x
  unfold roundEven
  split
  · rename_i hfract
    have hhalf := abs_le.1 (abs_sub_round (x / 2))
    generalize round (x / 2) = k at hhalf ⊢
    rw [hfract] at hx
    -- The half lies beside an even number on the one side only.
    have hlow : -1 ≤ ⌊x⌋ - 2 * k := by
      have h : (-2 : ℚ) < ⌊x⌋ - 2 * k := by linarith
      exact_mod_cast h
    have hhigh : ⌊x⌋ - 2 * k ≤ 0 := by
      have h : (⌊x⌋ - 2 * k : ℚ) < 1 := by linarith
      exact Int.lt_add_one_iff.1 (by exact_mod_cast h)
    have hlow' : (-1 : ℚ) ≤ ⌊x⌋ - 2 * k := by exact_mod_cast hlow
    have hhigh' : (⌊x⌋ - 2 * k : ℚ) ≤ 0 := by exact_mod_cast hhigh
    refine ⟨?_, fun _ => even_two_mul k⟩
    push_cast
    rw [abs_le]
    constructor <;> linarith
  · rename_i hfract
    refine ⟨abs_sub_round x, fun hhalf => absurd ?_ hfract⟩
    generalize round x = k at hhalf
    rcases eq_or_eq_neg_of_abs_eq hhalf with h | h
    · rw [Int.fract_eq_iff]
      exact ⟨by norm_num, by norm_num, k, by linarith⟩
    · rw [Int.fract_eq_iff]
      refine ⟨by norm_num, by norm_num, k - 1, ?_⟩
      push_cast
      linarith

theorem IsNearest.le_iff (h : IsNearest x n) (ht : Even t) : t ≤ n ↔ (t : ℚ) ≤ x + 1 / 2 := by
  obtain ⟨hlow, hhigh⟩ := abs_le.1 h.near
  constructor
  · intro hle
    have hle' : (t : ℚ) ≤ n := by exact_mod_cast hle
    linarith
  · intro hle
    by_contra hlt
    have hnext : ((n + 1 : ℤ) : ℚ) ≤ t := by exact_mod_cast not_le.1 hlt
    push_cast at hnext
    have hx : x - n = 1 / 2 := by linarith
    have heq : t = n + 1 := by
      have heq' : (t : ℚ) = n + 1 := by linarith
      exact_mod_cast heq'
    have hn := h.even (by rw [hx, abs_of_pos (by norm_num)])
    rw [heq, Int.even_add_one] at ht
    exact ht hn

theorem IsNearest.le (hm : IsNearest x m) (hn : IsNearest x n) : n ≤ m := by
  by_contra hlt
  obtain ⟨-, hhigh⟩ := abs_le.1 hm.near
  obtain ⟨hlow, -⟩ := abs_le.1 hn.near
  have hnext : ((m + 1 : ℤ) : ℚ) ≤ n := by exact_mod_cast not_le.1 hlt
  push_cast at hnext
  have hx : x - n = -(1 / 2) := by linarith
  have heven := hn.even (by rw [hx, abs_neg, abs_of_pos (by norm_num)])
  exact hlt ((hm.le_iff heven).2 (by linarith))

theorem IsNearest.roundEven_eq (h : IsNearest x n) : roundEven x = n :=
  le_antisymm (h.le (isNearest_roundEven x)) ((isNearest_roundEven x).le h)

theorem isNearest_of_lt (hlow : n - 1 / 2 < x) (hhigh : x < n + 1 / 2) : IsNearest x n := by
  have hlt : |x - n| < 1 / 2 := abs_lt.2 ⟨by linarith, by linarith⟩
  exact ⟨hlt.le, fun h => absurd h hlt.ne⟩

theorem isNearest_intCast (n : ℤ) : IsNearest n n :=
  isNearest_of_lt (by linarith) (by linarith)

theorem place_pos (k : ℤ) : (0 : ℚ) < 2 ^ k := zpow_pos two_pos k

theorem halfPlace_pos (x : ℚ) : 0 < halfPlace x := place_pos _

theorem place_eq (x : ℚ) : (2 : ℚ) ^ (Int.log 2 x - 52) = 2 * halfPlace x := by
  rw [halfPlace, ← zpow_one_add₀ two_ne_zero]
  congr 1
  ring

theorem abs_nearest_sub_le (x : ℚ) : |nearest x - x| ≤ halfPlace x := by
  have hpos := halfPlace_pos x
  have hplace := place_eq x
  have hnear := (isNearest_roundEven (x / 2 ^ (Int.log 2 x - 52))).near
  unfold nearest
  rw [hplace] at hnear ⊢
  generalize roundEven (x / (2 * halfPlace x)) = n at hnear ⊢
  have hx : x = x / (2 * halfPlace x) * (2 * halfPlace x) := by field_simp
  calc |n * (2 * halfPlace x) - x|
      = |x / (2 * halfPlace x) - n| * (2 * halfPlace x) := by
        rw [abs_sub_comm]
        nth_rewrite 1 [hx]
        rw [← sub_mul, abs_mul, abs_of_pos (mul_pos two_pos hpos)]
    _ ≤ 1 / 2 * (2 * halfPlace x) := mul_le_mul_of_nonneg_right hnear (by positivity)
    _ = halfPlace x := by ring

theorem halfPlace_le (hx : 0 < x) : halfPlace x ≤ x / 2 ^ 53 := by
  have hlog : (2 : ℚ) ^ Int.log 2 x ≤ x := by exact_mod_cast Int.zpow_log_le_self one_lt_two hx
  rw [halfPlace, zpow_sub₀ two_ne_zero]
  exact div_le_div_of_nonneg_right hlog (by norm_num)

theorem le_nearest_iff (h : Int.log 2 x < 52) (t : ℤ) : t ≤ nearest x ↔ t ≤ x + halfPlace x := by
  obtain ⟨k, hk⟩ : ∃ k : ℕ, Int.log 2 x - 52 = -((k + 1 : ℕ) : ℤ) :=
    ⟨(51 - Int.log 2 x).toNat, by omega⟩
  have hplace := place_eq x
  have hscale : (2 : ℚ) ^ (Int.log 2 x - 52) * 2 ^ (k + 1) = 1 := by
    rw [hk, zpow_neg, zpow_natCast, inv_mul_cancel₀ (by positivity)]
  have hpos := place_pos (Int.log 2 x - 52)
  have heven : Even (t * 2 ^ (k + 1)) := by
    rw [pow_succ, ← mul_assoc]
    exact even_two.mul_left _
  have hreach := (isNearest_roundEven (x / 2 ^ (Int.log 2 x - 52))).le_iff heven
  unfold nearest
  generalize (2 : ℚ) ^ (Int.log 2 x - 52) = place at *
  generalize roundEven (x / place) = n at *
  have ht : (t : ℚ) = ((t * 2 ^ (k + 1) : ℤ) : ℚ) * place := by
    push_cast
    linear_combination (-(t : ℚ)) * hscale
  have hhalf : (x / place + 1 / 2) * place = x + halfPlace x := by
    rw [add_mul, div_mul_cancel₀ x hpos.ne', hplace]
    ring
  rw [ht, mul_le_mul_iff_left₀ hpos, Int.cast_le, hreach, ← hhalf, mul_le_mul_iff_left₀ hpos]

theorem nearest_of_intCast (h : x / 2 ^ (Int.log 2 x - 52) = n) : nearest x = x := by
  have hpos := place_pos (Int.log 2 x - 52)
  unfold nearest
  rw [h, (isNearest_intCast n).roundEven_eq, ← h, div_mul_cancel₀ x hpos.ne']

theorem nearest_zero : nearest 0 = 0 := by
  apply nearest_of_intCast (n := 0)
  rw [zero_div, Int.cast_zero]

end Nearest

end Double

end Silbo
