import Silbo.Proofs.Magnitude
import Silbo.Proofs.Workspace
import Silbo.Signal

/-!
Counting samples. At a positive rate no span has a negative number of samples; a short span has one
at any rate near a finite double, but a long one may have none, as no integer is near infinity. The
times of a span can be laid out, and its silence, where their bytes have a signed word of 64 bits.
-/
namespace Silbo
open Double Float.Model Float.Model.UnpackedFloat

def Number.Positive : Number → Prop
  | .int n => 0 < n
  | .real x => 0 < x

instance : ∀ n : Number, Decidable n.Positive
  | .int n => Int.decLt 0 n
  | .real x => Float.decLt 0 x

/-- A rate above zero, and the finite double near it. -/
structure Number.IsRate (rate : Number) (r : Float) : Prop where
  positive : rate.Positive
  toFloat?_eq : rate.toFloat? = some r
  isFinite : r.isFinite = true

namespace Signal

/-- The number of samples of a span, and none where that is too large to be counted. -/
def count (rate milliseconds : Number) : Nat :=
  match sampleCount milliseconds rate with
  | .ok n => n.toNat
  | .error _ => 0

/-- A span has a number of samples, and with some bytes for each they have fewer than `2 ^ 63`. -/
def Fits (bytes : Nat) (rate milliseconds : Number) : Prop :=
  ∃ n, sampleCount milliseconds rate = .ok n ∧ bytes * n < wordLimit

instance (bytes : Nat) (rate milliseconds : Number) : Decidable (Fits bytes rate milliseconds) :=
  match h : sampleCount milliseconds rate with
  | .ok n => decidable_of_iff (bytes * n < wordLimit) (by simp [Fits, h])
  | .error _ => isFalse (by simp [Fits, h])

end Signal

section Rates

theorem Number.above_of_toFloat? {n : Number} (h : n.Positive) (hx : n.toFloat? = some x) :
    Above x.toModel.unpack := by
  cases n with
  | real y =>
    cases hx
    exact above_of_pos h
  | int n =>
    have hpos : 0 < n := h
    have hx : Number.ofInt? n = some x := hx
    unfold Number.ofInt? at hx
    dsimp only at hx
    split at hx
    · cases hx
    · cases hx
      rw [if_neg (by omega)]
      apply above_ofScientific
      omega

variable {rate : Number} {r : Float}

theorem Number.IsRate.above (h : rate.IsRate r) : Above r.toModel.unpack :=
  above_of_toFloat? h.positive h.toFloat?_eq

theorem Number.IsRate.within (h : rate.IsRate r) : Within 1024 r.toModel.unpack :=
  h.above.within h.isFinite

theorem Number.IsRate.float_eq (h : rate.IsRate r) : Signal.float rate = .ok r := by
  rw [Signal.float, h.toFloat?_eq]
  rfl

end Rates

namespace Signal

variable {rate ms : Number} {r x y : Float} {n : Int} {bytes : Nat}

theorem whole_eq_ok : whole x = .ok n ↔ (exactly x.toModel.unpack).truncate? = some n := by
  rw [whole, ofFloat_eq]
  cases (exactly x.toModel.unpack).truncate? <;> simp

theorem whole_of_within {k : Nat} (h : Within k x.toModel.unpack) :
    ∃ n : Nat, whole x = .ok (n : Int) ∧ n < 2 ^ k := by
  obtain ⟨n, hn, hlt⟩ := h.truncate?
  exact ⟨n, whole_eq_ok.2 hn, hlt⟩

theorem sampleCount_eq (h : rate.IsRate r) (hms : ms.isNonpositive = false) :
    sampleCount ms rate = (float ms).bind fun y => whole (r * (y / 1000)) := by
  unfold sampleCount
  rw [if_neg (by simp [hms]), h.float_eq]
  cases float ms <;> rfl

theorem sampleCount_nonpositive (hms : ms.isNonpositive = true) :
    sampleCount ms rate = .ok 0 := by
  unfold sampleCount
  rw [if_pos hms]
  rfl

theorem above_or_nan (hms : ms.isNonpositive = false) (hy : ms.toFloat? = some y) :
    Above y.toModel.unpack ∨ y.toModel.unpack = .notANumber := by
  cases ms with
  | int n =>
    left
    apply Number.above_of_toFloat? _ hy
    show 0 < n
    simpa [Number.isNonpositive] using hms
  | real z =>
    cases hy
    apply above_or_nan_of_not_le
    simpa [Number.isNonpositive] using hms

theorem unpack_thousand : (1000 : Float).toModel.unpack =
    .finite .positive 8796093022208000 (-43) (by decide) := rfl

theorem unpack_seconds (y : Float) : (y / 1000).toModel.unpack =
    unpack .binary64 (pack .binary64 (UnpackedFloat.div .binary64 y.toModel.unpack
      (.finite .positive 8796093022208000 (-43) (by decide)))) := by
  rw [← unpack_thousand]
  rfl

theorem unpack_nan : unpack .binary64 (pack .binary64 .notANumber) = .notANumber := rfl

theorem nan_mul (hx : x.toModel.unpack = .notANumber) (r : Float) :
    (r * x).toModel.unpack = .notANumber := by
  have hmul : UnpackedFloat.mul .binary64 r.toModel.unpack x.toModel.unpack = .notANumber := by
    rw [hx]
    cases r.toModel.unpack <;> rfl
  show unpack .binary64 (pack .binary64
    (UnpackedFloat.mul .binary64 r.toModel.unpack x.toModel.unpack)) = _
  rw [hmul, unpack_nan]

theorem nan_seconds (hy : y.toModel.unpack = .notANumber) :
    (y / 1000).toModel.unpack = .notANumber := by
  rw [unpack_seconds, hy]
  exact unpack_nan

theorem unsigned_product (h : rate.IsRate r) (hx : Unsigned x.toModel.unpack) :
    Unsigned (r * x).toModel.unpack := by
  show Unsigned (unpack .binary64 (pack .binary64
    (UnpackedFloat.mul .binary64 r.toModel.unpack x.toModel.unpack)))
  have hr := h.within
  have habove := h.above
  apply Unsigned.unpack_pack
  generalize r.toModel.unpack = f at hr habove
  cases habove with
  | infinity => cases hr
  | finite => exact hx.finite_mul _

theorem sampleCount_nonneg (h : rate.IsRate r) (hn : sampleCount ms rate = .ok n) : 0 ≤ n := by
  cases hms : ms.isNonpositive with
  | true =>
    rw [sampleCount_nonpositive hms] at hn
    cases hn
    exact Int.le_refl 0
  | false =>
    rw [sampleCount_eq h hms] at hn
    cases hy : ms.toFloat? with
    | none =>
      rw [float, hy] at hn
      cases hn
    | some y =>
      rw [float, hy] at hn
      have hn : whole (r * (y / 1000)) = .ok n := hn
      rw [whole_eq_ok] at hn
      rcases above_or_nan hms hy with hy | hy
      · apply (unsigned_product h _).truncate?_nonneg hn
        rw [unpack_seconds]
        exact (hy.unsigned.div _).unpack_pack
      · rw [nan_mul (nan_seconds hy) r] at hn
        cases hn

/-- A length below `2 ^ a` milliseconds has fewer samples than its bound and the one of the rate
allow. -/
theorem sampleCount_lt {a b : Int} {k : Nat} (h : rate.IsRate r) (hr : Within b r.toModel.unpack)
    (hy : ms.toFloat? = some y) (hw : Within a y.toModel.unpack) (hk : a + b - 7 ≤ k)
    (ha : -1012 ≤ a ∧ a ≤ 1024) (hk' : k ≤ 1024):
    ∃ n : Nat, sampleCount ms rate = .ok (n : Int) ∧ n < 2 ^ k := by
  cases hms : ms.isNonpositive with
  | true => exact ⟨0, sampleCount_nonpositive hms, Nat.two_pow_pos k⟩
  | false =>
    have hseconds : Within (a - 8) (y / 1000).toModel.unpack := by
      rw [unpack_seconds]
      have hquotient : Within (a - 9 + 1) (UnpackedFloat.div .binary64 y.toModel.unpack
          (.finite .positive 8796093022208000 (-43) (by decide))) :=
        hw.div _ (by decide) (by decide) (by omega) (by omega)
      rw [show a - 9 + 1 = a - 8 by omega] at hquotient
      exact hquotient.unpack_pack (by omega) (by omega)
    have hproduct : Within k (r * (y / 1000)).toModel.unpack := by
      have hmul := hr.mul hseconds (k := k - 1) (by omega) (by omega)
      rw [Int.sub_add_cancel] at hmul
      exact hmul.unpack_pack (by omega) (by omega)
    obtain ⟨n, hn, hlt⟩ := whole_of_within hproduct
    refine ⟨n, ?_, hlt⟩
    rw [sampleCount_eq h hms, float, hy]
    exact hn

theorem count_eq (hn : sampleCount ms rate = .ok n) : count rate ms = n.toNat := by
  rw [count, hn]

theorem wordLimit_eq : wordLimit = 2 ^ 63 := rfl

theorem checkSize_ok {bytes n : Nat} (h : bytes * n < wordLimit) : checkSize bytes n = .ok () :=
  if_neg (Int.not_le.2 h)

theorem checkSize_error {bytes n : Nat} (h : wordLimit ≤ bytes * n) :
    checkSize bytes n = .error .bytesBeyondWords := if_pos h

theorem sampleTimes_ok (h : rate.IsRate r) (hf : Fits 8 rate ms) :
    ∃ times, sampleTimes ms rate = .ok times ∧ times.size = count rate ms := by
  obtain ⟨n, hn, hlt⟩ := hf
  have hnonneg := sampleCount_nonneg h hn
  have hlimit := wordLimit_eq
  refine ⟨Array.ofFn fun (i : Fin n.toNat) => i.val.toFloat * (1000 / r), ?_, ?_⟩
  · unfold sampleTimes
    rw [hn, h.float_eq]
    simp only [bind, Except.bind]
    rw [if_neg (by omega), if_neg (by omega), if_neg (by simp [h.above.ne_zero])]
    rfl
  · rw [Array.size_ofFn, count_eq hn]

theorem fits_of_sampleTimes (ht : sampleTimes ms rate = .ok times) :
    Fits 8 rate ms ∧ ∃ r, rate.toFloat? = some r := by
  obtain ⟨n, hn, ht⟩ := Work.bind_eq_ok ht
  dsimp only at ht
  split at ht
  · cases ht
  · split at ht
    · cases ht
    · obtain ⟨r, hr, -⟩ := Work.bind_eq_ok ht
      refine ⟨⟨n, hn, by omega⟩, r, ?_⟩
      cases hx : rate.toFloat? with
      | none =>
        rw [float, hx] at hr
        cases hr
      | some x =>
        rw [float, hx] at hr
        cases hr
        rfl

theorem silence_ok (h : rate.IsRate r) (hf : Fits 4 rate ms) :
    silence ms rate = .ok (Array.replicate (count rate ms) 0) := by
  obtain ⟨n, hn, hlt⟩ := hf
  have hnonneg := sampleCount_nonneg h hn
  have hlimit := wordLimit_eq
  unfold silence
  rw [count_eq hn, hn]
  simp only [bind, Except.bind]
  rw [if_neg (by omega), if_neg (by omega), if_neg (by omega)]
  rfl

theorem fits_of_silence (ht : silence ms rate = .ok samples) : Fits 4 rate ms := by
  obtain ⟨n, hn, ht⟩ := Work.bind_eq_ok ht
  dsimp only at ht
  split at ht
  · cases ht
  · split at ht
    · cases ht
    · split at ht
      · cases ht
      · exact ⟨n, hn, by omega⟩

theorem sampleCount_short (h : rate.IsRate r) (hy : ms.toFloat? = some y)
    (hw : Within 3 y.toModel.unpack) : ∃ n, sampleCount ms rate = .ok n := by
  obtain ⟨n, hn, -⟩ := sampleCount_lt h h.within hy hw (k := 1020) (by omega) (by omega) (by omega)
  exact ⟨n, hn⟩

end Signal

end Silbo
