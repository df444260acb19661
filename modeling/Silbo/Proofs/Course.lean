import Mathlib.Algebra.Order.Field.Basic
import Mathlib.Algebra.Order.Ring.Rat
import Mathlib.Order.Interval.Set.UnorderedInterval
import Mathlib.Tactic.FieldSimp
import Mathlib.Tactic.Linarith
import Mathlib.Tactic.NormNum
import Mathlib.Tactic.Positivity
import Mathlib.Tactic.Ring
import Silbo.Trajectory

/-!
Trajectories as functions of time over an ordered field, for the curves made of sums and products.
A transition rests at its start, goes to its end without turning back and rests there. A contour is
two transitions of half its time, one after the other.
-/
namespace Silbo
open Set

section Clip

variable {K : Type} [LinearOrder K] {low high x : K}

theorem clip_eq (h : low ≤ high) (x : K) : clip low high x = max low (min high x) := by
  unfold clip
  split
  · rename_i hlow
    rw [max_eq_left (min_le_of_right_le hlow.le)]
  · rename_i hlow
    rw [not_lt] at hlow
    split
    · rename_i hhigh
      rw [min_eq_left hhigh.le, max_eq_right h]
    · rename_i hhigh
      rw [min_eq_right (not_lt.1 hhigh), max_eq_right hlow]

theorem monotone_clip (h : low ≤ high) : Monotone (clip low high) := by
  intro x y hxy
  rw [clip_eq h, clip_eq h]
  exact max_le_max_left _ (min_le_min_left _ hxy)

theorem clip_mem (h : low ≤ high) (x : K) : clip low high x ∈ Icc low high := by
  rw [clip_eq h]
  exact ⟨le_max_left _ _, max_le h (min_le_left _ _)⟩

theorem clip_of_le (h : low ≤ high) (hx : x ≤ low) : clip low high x = low := by
  rw [clip_eq h, min_eq_right (hx.trans h), max_eq_left hx]

theorem clip_of_ge (h : low ≤ high) (hx : high ≤ x) : clip low high x = high := by
  rw [clip_eq h, min_eq_left hx, max_eq_right h]

theorem clip_of_mem (hx : x ∈ Icc low high) : clip low high x = x := by
  rw [clip_eq (hx.1.trans hx.2), min_eq_right hx.2, max_eq_right hx.1]

theorem clip_clip {g : K → K} (hg : Monotone g) (h : low ≤ high) (hlow : g low ≤ low)
    (hhigh : high ≤ g high) (x : K) : clip low high (g (clip low high x)) = clip low high (g x) := by
  rcases le_total x low with hx | hx
  · rw [clip_of_le h hx, clip_of_le h hlow, clip_of_le h ((hg hx).trans hlow)]
  · rcases le_total x high with hx' | hx'
    · rw [clip_of_mem ⟨hx, hx'⟩]
    · rw [clip_of_ge h hx', clip_of_ge h hhigh, clip_of_ge h (hhigh.trans (hg hx'))]

end Clip

variable {K : Type} [Field K] [LinearOrder K] [IsStrictOrderedRing K]

namespace Curve

/-- A curve of sums and products alone. -/
def IsPolynomial : Curve → Prop
  | convex | concave | linear => True
  | sine | arcsine => False

instance : DecidablePred IsPolynomial
  | convex | concave | linear => isTrue trivial
  | sine | arcsine => isFalse id

/-- Goes from zero to one while its argument does, and never back. -/
structure Eases (s : K → K) : Prop where
  zero : s 0 = 0
  one : s 1 = 1
  monotoneOn : MonotoneOn s (Icc 0 1)

theorem Eases.mem {s : K → K} (h : Eases s) {x : K} (hx : x ∈ Icc 0 1) : s x ∈ Icc 0 1 := by
  constructor
  · rw [← h.zero]
    exact h.monotoneOn (left_mem_Icc.2 zero_le_one) hx hx.1
  · rw [← h.one]
    exact h.monotoneOn hx (right_mem_Icc.2 zero_le_one) hx.2

theorem IsPolynomial.eases {c : Curve} (h : c.IsPolynomial) (raisedCosine : K → K) :
    Eases (c.shape (.ofRaisedCosine raisedCosine)) := by
  cases c with
  | sine => exact h.elim
  | arcsine => exact h.elim
  | linear => exact ⟨rfl, rfl, fun _ _ _ _ hxy => hxy⟩
  | concave =>
    refine ⟨mul_zero 0, mul_one 1, fun x hx y _ hxy => ?_⟩
    exact mul_le_mul hxy hxy hx.1 (hx.1.trans hxy)
  | convex =>
    refine ⟨?_, ?_, fun x _ y hy hxy => ?_⟩
    · show 1 - (1 - 0) * (1 - 0) = (0 : K)
      ring
    · show 1 - (1 - 1) * (1 - 1) = (1 : K)
      ring
    · have hrest : 0 ≤ 1 - y := sub_nonneg.2 hy.2
      have hle : 1 - y ≤ 1 - x := sub_le_sub_left hxy 1
      exact sub_le_sub_left (mul_le_mul hle hle hrest (hrest.trans hle)) 1

end Curve

namespace Trajectory
open Curve (Eases)

section Progress

variable {t u d : K}

omit [IsStrictOrderedRing K] in
theorem progress_of_pos (hd : 0 < d) : progress t d = clip 0 1 (t / d) :=
  if_neg (not_le.2 hd)

omit [IsStrictOrderedRing K] in
theorem progress_of_nonpos (hd : d ≤ 0) : progress t d = 1 :=
  if_pos hd

theorem progress_of_le_zero (hd : 0 < d) (ht : t ≤ 0) : progress t d = 0 := by
  rw [progress_of_pos hd]
  exact clip_of_le zero_le_one (div_nonpos_of_nonpos_of_nonneg ht hd.le)

theorem progress_of_le (hd : 0 < d) (ht : d ≤ t) : progress t d = 1 := by
  rw [progress_of_pos hd]
  exact clip_of_ge zero_le_one ((one_le_div hd).2 ht)

theorem progress_mem (t d : K) : progress t d ∈ Icc 0 1 := by
  rcases le_or_gt d 0 with hd | hd
  · rw [progress_of_nonpos hd]
    exact right_mem_Icc.2 zero_le_one
  · rw [progress_of_pos hd]
    exact clip_mem zero_le_one _

theorem progress_mono (hd : 0 < d) (h : t ≤ u) : progress t d ≤ progress u d := by
  rw [progress_of_pos hd, progress_of_pos hd]
  exact monotone_clip zero_le_one (div_le_div_of_nonneg_right h hd.le)

theorem progress_le_half (hd : 0 < d) : progress t d ≤ 1 / 2 ↔ t ≤ d / 2 := by
  have hhalf : (1 : K) / 2 < 1 := one_half_lt_one
  have hle : t / d ≤ 1 / 2 ↔ t ≤ d / 2 := by
    rw [div_le_iff₀ hd, one_div_mul_eq_div]
  rw [progress_of_pos hd, clip_eq zero_le_one, max_le_iff, min_le_iff, ← hle]
  simp only [not_le.2 hhalf, false_or, and_iff_right_iff_imp]
  exact fun _ => by positivity

theorem clip_double (hd : 0 < d) : clip 0 1 (2 * progress t d) = progress t (d / 2) := by
  have hmono : Monotone fun x : K => 2 * x := fun _ _ h => mul_le_mul_of_nonneg_left h zero_le_two
  have htime : 2 * (t / d) = t / (d / 2) := by field_simp
  rw [progress_of_pos hd, progress_of_pos (half_pos hd), ← htime]
  exact clip_clip hmono zero_le_one (by norm_num) (by norm_num) _

theorem clip_double_sub (hd : 0 < d) :
    clip 0 1 (2 * progress t d - 1) = progress (t - d / 2) (d / 2) := by
  have hmono : Monotone fun x : K => 2 * x - 1 := fun _ _ h =>
    sub_le_sub_right (mul_le_mul_of_nonneg_left h zero_le_two) 1
  have htime : 2 * (t / d) - 1 = (t - d / 2) / (d / 2) := by field_simp
  rw [progress_of_pos hd, progress_of_pos (half_pos hd), ← htime]
  exact clip_clip hmono zero_le_one (by norm_num) (by norm_num) _

end Progress

/-- At the times given: rests at `start` up to the time `first`, goes to `stop` without turning
back or leaving what lies between, and rests there from the time `last` on. -/
structure Runs (f : K → K) (times : Set K) (start stop first last : K) : Prop where
  before : ∀ t ∈ times, t ≤ first → f t = start
  after : ∀ t ∈ times, last ≤ t → f t = stop
  rises : start ≤ stop → MonotoneOn f times
  falls : stop ≤ start → AntitoneOn f times
  within : ∀ t ∈ times, f t ∈ uIcc start stop

/-- Runs from one value to the next in the first half of the time and to the last one in the
second half, so that the middle belongs to both. -/
structure Arches (f : K → K) (start peak stop duration : K) : Prop where
  before : ∀ t ≤ 0, f t = start
  middle : f (duration / 2) = peak
  after : ∀ t, duration ≤ t → f t = stop
  first : Runs f (Iic (duration / 2)) start peak 0 (duration / 2)
  second : Runs f (Ici (duration / 2)) peak stop (duration / 2) duration
  within : ∀ t, f t ∈ Icc (min start (min peak stop)) (max start (max peak stop))

section Change

variable {s f g : K → K} {times : Set K} {start stop first last t d : K}

theorem change_mem {e : K} (he : e ∈ Icc 0 1) : start + (stop - start) * e ∈ uIcc start stop := by
  rcases le_total start stop with h | h
  · rw [uIcc_of_le h]
    have hgap : 0 ≤ stop - start := sub_nonneg.2 h
    constructor
    · exact le_add_of_nonneg_right (mul_nonneg hgap he.1)
    · linarith [mul_le_of_le_one_right hgap he.2]
  · rw [uIcc_of_ge h]
    have hgap : 0 ≤ start - stop := sub_nonneg.2 h
    constructor
    · linarith [mul_le_of_le_one_right hgap he.2]
    · linarith [mul_nonneg hgap he.1]

theorem runs_of_eases (hs : Eases s) (hd : 0 < d) (start stop : K) :
    Runs (fun t => start + (stop - start) * s (progress t d)) univ start stop 0 d where
  before t _ ht := by
    rw [progress_of_le_zero hd ht, hs.zero, mul_zero, add_zero]
  after t _ ht := by
    rw [progress_of_le hd ht, hs.one, mul_one, add_sub_cancel]
  rises h t _ u _ htu := by
    have hle := hs.monotoneOn (progress_mem t d) (progress_mem u d) (progress_mono hd htu)
    exact add_le_add_right (mul_le_mul_of_nonneg_left hle (sub_nonneg.2 h)) start
  falls h t _ u _ htu := by
    have hle := hs.monotoneOn (progress_mem t d) (progress_mem u d) (progress_mono hd htu)
    exact add_le_add_right (mul_le_mul_of_nonpos_left hle (sub_nonpos.2 h)) start
  within t _ := change_mem (hs.mem (progress_mem t d))

theorem Runs.later (h : Runs f univ start stop first last) (delay : K) :
    Runs (fun t => f (t - delay)) univ start stop (first + delay) (last + delay) where
  before _ _ ht := h.before _ (mem_univ _) (sub_le_iff_le_add.2 ht)
  after _ _ ht := h.after _ (mem_univ _) (le_sub_iff_add_le.2 ht)
  rises hle _ _ _ _ htu := h.rises hle (mem_univ _) (mem_univ _) (sub_le_sub_right htu delay)
  falls hle _ _ _ _ htu := h.falls hle (mem_univ _) (mem_univ _) (sub_le_sub_right htu delay)
  within _ _ := h.within _ (mem_univ _)

omit [Field K] [IsStrictOrderedRing K] in
theorem Runs.congr (h : Runs f univ start stop first last) (hfg : EqOn g f times) :
    Runs g times start stop first last where
  before t ht hle := (hfg ht).trans (h.before t (mem_univ _) hle)
  after t ht hle := (hfg ht).trans (h.after t (mem_univ _) hle)
  rises hle := ((h.rises hle).mono (subset_univ _)).congr hfg.symm
  falls hle := ((h.falls hle).mono (subset_univ _)).congr hfg.symm
  within t ht := by
    rw [hfg ht]
    exact h.within t (mem_univ _)

theorem Runs.arches {peak : K} (hd : 0 < d) (h : Runs f (Iic (d / 2)) start peak 0 (d / 2))
    (h' : Runs f (Ici (d / 2)) peak stop (d / 2) d) : Arches f start peak stop d where
  before t ht := h.before t (ht.trans (half_pos hd).le) ht
  middle := h.after _ self_mem_Iic le_rfl
  after t ht := h'.after t ((half_lt_self hd).le.trans ht) ht
  first := h
  second := h'
  within t := by
    rcases le_total t (d / 2) with ht | ht
    · obtain ⟨hlow, hhigh⟩ := h.within t ht
      exact ⟨(le_inf (min_le_left _ _) (min_le_of_right_le (min_le_left _ _))).trans hlow,
        hhigh.trans (sup_le (le_max_left _ _) (le_max_of_le_right (le_max_left _ _)))⟩
    · obtain ⟨hlow, hhigh⟩ := h'.within t ht
      exact ⟨(min_le_right _ _).trans hlow, hhigh.trans (le_max_right _ _)⟩

end Change

section Contour

variable {raisedCosine : K → K} {c : Curve} {start peak stop t d : K}

theorem eval_contour_first (hd : 0 < d) (ht : t ≤ d / 2) :
    eval (.ofRaisedCosine raisedCosine) (.contour start peak stop d c) t =
      start + (peak - start) *
        c.shape (.ofRaisedCosine raisedCosine) (clip 0 1 (2 * progress t d)) :=
  if_pos ((progress_le_half hd).2 ht)

theorem eval_contour_second (hc : c.IsPolynomial) (hd : 0 < d) (ht : d / 2 ≤ t) :
    eval (.ofRaisedCosine raisedCosine) (.contour start peak stop d c) t =
      peak + (stop - peak) *
        c.shape (.ofRaisedCosine raisedCosine) (clip 0 1 (2 * progress t d - 1)) := by
  have heases := hc.eases raisedCosine
  rcases ht.lt_or_eq with hlt | rfl
  · exact if_neg (mt (progress_le_half hd).1 (not_le.2 hlt))
  · rw [eval_contour_first hd le_rfl, clip_double hd, clip_double_sub hd, sub_self,
      progress_of_le (half_pos hd) le_rfl, progress_of_le_zero (half_pos hd) le_rfl,
      heases.one, heases.zero]
    ring

theorem arches_contour (hc : c.IsPolynomial) (hd : 0 < d) (start peak stop : K) :
    Arches (eval (.ofRaisedCosine raisedCosine) (.contour start peak stop d c))
      start peak stop d := by
  have heases := hc.eases raisedCosine
  have hfirst := runs_of_eases heases (half_pos hd) start peak
  have hsecond := (runs_of_eases heases (half_pos hd) peak stop).later (d / 2)
  rw [zero_add, add_halves] at hsecond
  apply Runs.arches hd
  · apply hfirst.congr
    intro t ht
    rw [eval_contour_first hd ht, clip_double hd]
  · apply hsecond.congr
    intro t ht
    rw [eval_contour_second hc hd ht, clip_double_sub hd]

theorem eval_of_nonpos (hc : c.IsPolynomial) (hd : d ≤ 0) (start peak stop t : K) :
    eval (.ofRaisedCosine raisedCosine) (.transition start stop d c) t = stop ∧
      eval (.ofRaisedCosine raisedCosine) (.contour start peak stop d c) t = stop := by
  have hone : c.shape (.ofRaisedCosine raisedCosine) 1 = 1 := (hc.eases raisedCosine).one
  have hlast : ¬ (1 : K) ≤ 1 / 2 := not_le.2 one_half_lt_one
  have hclip : clip 0 1 (2 * 1 - 1) = (1 : K) := clip_of_ge zero_le_one (by norm_num)
  constructor
  · rw [eval, progress_of_nonpos hd, hone]
    ring
  · rw [eval, progress_of_nonpos hd, inHalves, if_neg hlast, hclip, hone]
    ring

/-- Where trajectories go, and that they get there: rest, change and rest again for a positive
duration, and nothing but the end for any other. -/
theorem eval_runs (hc : c.IsPolynomial) (raisedCosine : K → K) (start peak stop d : K) :
    (0 < d →
      Runs (eval (.ofRaisedCosine raisedCosine) (.transition start stop d c)) univ
        start stop 0 d ∧
      Arches (eval (.ofRaisedCosine raisedCosine) (.contour start peak stop d c))
        start peak stop d ∧
      (∀ t ≤ d / 2,
        eval (.ofRaisedCosine raisedCosine) (.contour start peak stop d c) t =
          start + (peak - start) *
            c.shape (.ofRaisedCosine raisedCosine) (clip 0 1 (2 * progress t d))) ∧
      ∀ t, d / 2 ≤ t →
        eval (.ofRaisedCosine raisedCosine) (.contour start peak stop d c) t =
          peak + (stop - peak) *
            c.shape (.ofRaisedCosine raisedCosine) (clip 0 1 (2 * progress t d - 1))) ∧
    (d ≤ 0 → ∀ t,
      eval (.ofRaisedCosine raisedCosine) (.transition start stop d c) t = stop ∧
      eval (.ofRaisedCosine raisedCosine) (.contour start peak stop d c) t = stop) := by
  constructor
  · intro hd
    refine ⟨runs_of_eases (hc.eases raisedCosine) hd start stop, arches_contour hc hd _ _ _, ?_, ?_⟩
    · exact fun t ht => eval_contour_first hd ht
    · exact fun t ht => eval_contour_second hc hd ht
  · exact fun hd t => eval_of_nonpos hc hd start peak stop t

/-- A dip that eases out of its start and back to it. -/
theorem eval_runs_dip :
    Curve.IsPolynomial .convex ∧ (0 : ℚ) < 300 ∧ (0 : ℚ) ≤ 0 ∧
      Arches (eval (.ofRaisedCosine id) (.contour 1 0 1 300 .convex)) (1 : ℚ) 0 1 300 ∧
      eval (.ofRaisedCosine id) (.contour 1 (0 : ℚ) 1 300 .convex) 150 = 0 ∧
      eval (.ofRaisedCosine id) (.contour 1 (0 : ℚ) 1 0 .convex) 150 = 1 := by
  have hpos : (0 : ℚ) < 300 := by norm_num
  have harches := ((eval_runs (c := .convex) trivial id 1 (0 : ℚ) 1 300).1 hpos).2.1
  have hlast := (eval_runs (c := .convex) trivial id 1 (0 : ℚ) 1 0).2 le_rfl 150
  have hmiddle := harches.middle
  rw [show (300 : ℚ) / 2 = 150 by norm_num] at hmiddle
  exact ⟨trivial, hpos, le_rfl, harches, hmiddle, hlast.2⟩

end Contour

end Trajectory

end Silbo
