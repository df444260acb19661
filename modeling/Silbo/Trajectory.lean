import Silbo.Curve
import Silbo.Number

/-!
Values over the time of a segment. `eval` is the value over any numbers. A segment is played in
doubles: `course?` is the same function of time there, with differences of integers taken exactly.
-/
namespace Silbo

inductive Trajectory (α : Type) where
  | constant (value duration : α)
  | transition (start stop duration : α) (curve : Curve)
  | contour (start peak stop duration : α) (curve : Curve)
  deriving DecidableEq, Repr

namespace Trajectory

def start : Trajectory α → α
  | constant value _ => value
  | transition start _ _ _ => start
  | contour start _ _ _ _ => start

def stop : Trajectory α → α
  | constant value _ => value
  | transition _ stop _ _ => stop
  | contour _ _ stop _ _ => stop

def duration : Trajectory α → α
  | constant _ duration => duration
  | transition _ _ duration _ => duration
  | contour _ _ _ duration _ => duration

def peak? : Trajectory α → Option α
  | contour _ peak _ _ _ => some peak
  | _ => none

def curve? : Trajectory α → Option Curve
  | constant _ _ => none
  | transition _ _ _ curve => some curve
  | contour _ _ _ _ curve => some curve

def kindName : Trajectory α → String
  | constant .. => "constant"
  | transition .. => "transition"
  | contour .. => "contour"

section Evaluation

variable [Add α] [Sub α] [Mul α] [Div α] [LT α] [LE α] [DecidableLT α] [DecidableLE α]
  [OfNat α 0] [OfNat α 1] [OfNat α 2]

/-- The part of the duration that is over at time `t`; all of it if there is none to begin with. -/
def progress (t duration : α) : α :=
  if duration ≤ 0 then 1 else clip 0 1 (t / duration)

/-- Two eased changes in a row, of which the second begins when half of the time is over. -/
def inHalves (shape first second : α → α) (x : α) : α :=
  if x ≤ 1 / 2 then first (shape (clip 0 1 (2 * x)))
  else second (shape (clip 0 1 (2 * x - 1)))

def eval (b : Curve.Basis α) : Trajectory α → α → α
  | constant value _, _ => value
  | transition start stop duration curve, t =>
    start + (stop - start) * curve.shape b (progress t duration)
  | contour start peak stop duration curve, t =>
    inHalves (curve.shape b) (fun e => start + (peak - start) * e)
      (fun e => peak + (stop - peak) * e) (progress t duration)

end Evaluation

def change? (start stop : Number) : Option (Float → Float) := do
  let base ← start.toFloat?
  let gap ← (← stop.sub? start).toFloat?
  return fun e => base + gap * e

theorem change?_real (x y : Float) :
    change? (.real x) (.real y) = some fun e => x + (y - x) * e := rfl

def progress? (duration : Number) : Option (Float → Float) :=
  if duration.isNonpositive then some fun _ => 1
  else do
    let duration ← duration.toFloat?
    return fun t => clip 0 1 (t / duration)

theorem progress?_real (duration : Float) :
    progress? (.real duration) = some (progress · duration) := by
  by_cases h : duration ≤ 0 <;>
    simp [progress?, progress, Number.isNonpositive, Number.toFloat?, h]

/-- The value by the time in milliseconds, where all numbers that it needs are near doubles. -/
def course? (b : Curve.Basis Float) : Trajectory Number → Option (Float → Float)
  | constant value _ => do
    let x ← value.toFloat?
    return fun _ => x
  | transition start stop duration curve => do
    let part ← progress? duration
    let change ← change? start stop
    return fun t => change (curve.shape b (part t))
  | contour start peak stop duration curve => do
    let part ← progress? duration
    let first ← change? start peak
    let second ← change? peak stop
    return fun t => inHalves (curve.shape b) first second (part t)

def map (f : α → β) : Trajectory α → Trajectory β
  | constant value duration => constant (f value) (f duration)
  | transition start stop duration curve => transition (f start) (f stop) (f duration) curve
  | contour start peak stop duration curve =>
    contour (f start) (f peak) (f stop) (f duration) curve

theorem course?_map_real (b : Curve.Basis Float) (r : Trajectory Float) :
    (r.map Number.real).course? b = some (r.eval b) := by
  cases r with
  | constant => rfl
  | transition => simp [map, course?, change?_real, progress?_real, eval, funext_iff]
  | contour => simp [map, course?, change?_real, progress?_real, eval, funext_iff]

end Trajectory

end Silbo
