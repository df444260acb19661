import Silbo.Signal

/-! The oscillator: a sine whose phase is the sum of the frequencies so far. -/
namespace Silbo

def turn : Float := 2 * pi

/-- The sums of the first one, two and more increments, beginning with none. -/
def phaseSums (increments : Signal) : Signal × Float :=
  increments.foldl (fun (sums, total) x => (sums.push total, total + x)) (#[], 0)

/-- Multiplies two signals sample by sample. A signal of a single sample goes with one of any
length. -/
def modulate (s t : Signal) : Except Fault Signal :=
  if s.size = t.size then .ok ((s.zip t).map fun (x, y) => x * y)
  else
    match s, t with
    | #[x], t => .ok (t.map (x * ·))
    | s, #[y] => .ok (s.map (· * y))
    | s, t => .error (.unequalLengths s.size t.size)

/-- A sine with a frequency and an amplitude for every sample, and the phase after the last
frequency, brought back into the first turn. Without frequencies there is no sound, and the phase
stays what it is. -/
def oscillate (frequency amplitude : Signal) (rate phase : Number) :
    Except Fault (Signal × Number) := do
  if frequency.isEmpty then pure (#[], phase)
  else
    let rate ← Signal.float rate
    let phase ← Signal.float phase
    let (sums, total) := phaseSums (frequency.map fun f => turn * f / rate)
    let signal ← modulate amplitude (sums.map fun sum => Float.sin (phase + sum))
    pure (signal, .real (Decimal.flooredRemainder (phase + total) turn))

end Silbo
