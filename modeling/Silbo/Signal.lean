import Silbo.Curve
import Silbo.Decimal.Binary64
import Silbo.Fault

/-! Sampled signals: counting samples, silence, fades and loudness. -/
namespace Silbo

abbrev Signal := Array Float

/-- Samples in single precision, as they are played. -/
abbrev Samples := Array Float32

namespace Signal

def float (n : Number) : Except Fault Float := Fault.orTooLarge n.toFloat?

def whole (x : Float) : Except Fault Int :=
  match (Decimal.Binary64.ofFloat x).truncate? with
  | some n => .ok n
  | none => .error (if x.isNaN then .notANumber else .tooLarge)

/-- The number of samples in a span of time: none in a span that is not positive, otherwise the
integer part of the rate times the seconds. -/
def sampleCount (milliseconds rate : Number) : Except Fault Int := do
  if milliseconds.isNonpositive then pure 0
  else
    let seconds := (← float milliseconds) / 1000
    whole ((← float rate) * seconds)

def wordLimit : Int := 0x8000000000000000

/-- The bytes of an array are counted in a signed word. -/
def checkSize (bytes n : Nat) : Except Fault Unit :=
  if wordLimit ≤ bytes * n then .error .bytesBeyondWords else .ok ()

/-- The times of the samples of a span, in milliseconds. Each takes eight bytes. -/
def sampleTimes (milliseconds rate : Number) : Except Fault Signal := do
  let n ← sampleCount milliseconds rate
  if n < -wordLimit ∨ wordLimit ≤ n then throw .stepsBeyondWords
  if wordLimit ≤ 8 * n then throw .bytesBeyondWords
  let rate ← float rate
  if rate == 0 then throw .zeroRate
  let step := 1000 / rate
  pure (Array.ofFn fun (i : Fin n.toNat) => i.val.toFloat * step)

/-- The samples of a silent span. Each takes four bytes. -/
def silence (milliseconds rate : Number) : Except Fault Samples := do
  let n ← sampleCount milliseconds rate
  if n < -wordLimit ∨ wordLimit ≤ n then throw .lengthBeyondWords
  if n < 0 then throw .negativeLength
  if wordLimit ≤ 4 * n then throw .bytesBeyondWords
  pure (Array.replicate n.toNat 0)

def toSamples (s : Signal) : Samples := s.map Float.toFloat32

/-- The ramp of `n` values from `start` to `stop`, both included. -/
def ramp (start stop : Float) (n : Nat) : Signal :=
  let step := (stop - start) / (n - 1).toFloat
  Array.ofFn fun (i : Fin n) =>
    if n = 1 then start else if i.val + 1 = n then stop else i.val.toFloat * step + start

/-- Multiplies the samples from index `first` on by the eased values of a ramp. -/
def shade (s : Signal) (first : Nat) (gains : Signal) : Signal :=
  s.mapIdx fun i x =>
    if first ≤ i then
      match gains[i - first]? with
      | some g => x * Curve.sine.ease .row g
      | none => x
    else x

/-- Fades a signal in and out. A fade as long as the signal or longer is left out. -/
def fade (attack release rate : Number) (s : Signal) : Except Fault Signal := do
  let a ← sampleCount attack rate
  let r ← sampleCount release rate
  let n := s.size
  let s := if 0 < a ∧ a < n then s.shade 0 (ramp 0 1 a.toNat) else s
  pure (if 0 < r ∧ r < n then s.shade (n - r.toNat) (ramp 1 0 r.toNat) else s)

end Signal

namespace Samples

/-- Samples of given values. Integers that are all signed words of 64 bits, or all unsigned words
beyond those, are rounded once; other numbers are rounded to doubles first. -/
def ofNumbers (values : List Number) : Except Fault Samples := do
  let integers := values.filterMap fun | .int n => some n | .real _ => none
  if integers.length == values.length &&
      (integers.all (fun n => -Signal.wordLimit ≤ n && n < Signal.wordLimit) ||
        integers.all fun n => Signal.wordLimit ≤ n && n < 2 * Signal.wordLimit) then
    pure (integers.toArray.map Float32.ofInt)
  else return (← values.mapM Signal.float).toArray.map Float.toFloat32

/-- The largest magnitude; a NaN anywhere makes it a NaN. -/
def peak (s : Samples) : Float32 :=
  s.foldl (fun m x =>
    if m.isNaN then m else if x.isNaN then x else if m < x.abs then x.abs else m) 0

def silentPeak : Float := 1e-12

/-- A target loudness lies between zero and one; a NaN counts as one. -/
def clampTarget (t : Float) : Float :=
  let t := if t < 1 then t else 1
  if 0 < t then t else 0

/-- Scales samples so that the loudest one meets the target. Silence stays as it is. -/
def normalize (target : Number) (s : Samples) : Except Fault Samples := do
  let peak := s.peak.toFloat
  if s.isEmpty || peak ≤ silentPeak then pure s
  else
    let gain := (clampTarget (← Signal.float target) / peak).toFloat32
    pure (s.map (· * gain))

end Samples

end Silbo
