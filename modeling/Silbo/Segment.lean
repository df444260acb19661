import Silbo.Model
import Silbo.Trajectory

/-!
Segments with definite trajectories. A segment begins where the one before it ended, unless its
template says otherwise.
-/
namespace Silbo

/-- The formant frequency and the amplitude that a segment leaves behind. -/
structure Ambient where
  formant : Number := .real 0
  amplitude : Number := .real 0

/-- A segment: its length in milliseconds, its formant frequency in Hertz and its gain. -/
structure Segment where
  duration : Number
  formant : Trajectory Number
  amplitude : Trajectory Number

def Segment.ambient (s : Segment) : Ambient := ⟨s.formant.stop, s.amplitude.stop⟩

namespace Model

private def flawed (flaw : Flaw) : Except Error α := .error ⟨.malformed flaw, none, none⟩

def quantity (m : Model) (kind field : String) : Option Quantity → Except Error Number
  | none => flawed (.missing kind field)
  | some (.literal x) => .ok (.real x)
  | some (.named name) =>
    match m.constant? name with
    | some x => .ok (.real x)
    | none => flawed (.unknownConstant name)

/-- The trajectory of a motion that sets in at `incoming`. Without a motion the value is held. -/
def trajectory (m : Model) (motion : Option Motion) (incoming duration : Number) :
    Except Error (Trajectory Number) :=
  match motion with
  | none => .ok (.constant incoming duration)
  | some (.constant value) => do
    pure (.constant (← m.quantity "constant" "value" value) duration)
  | some (.transition none stop curve) => do
    pure (.transition incoming (← m.quantity "transition" "end" stop) duration curve)
  | some (.transition (some start) stop curve) => do
    let start ← m.quantity "transition" "start" (some start)
    pure (.transition start (← m.quantity "transition" "end" stop) duration curve)
  | some (.contour peak stop curve) => do
    let peak ← m.quantity "contour" "peak" peak
    pure (.contour incoming peak (← m.quantity "contour" "end" stop) duration curve)

def segment (m : Model) (defaultMilliseconds : Number) (ambient : Ambient) (t : SegmentTemplate) :
    Except Error Segment := do
  let duration := (t.milliseconds.map .real).getD defaultMilliseconds
  let formant ← m.trajectory t.formant ambient.formant duration
  let amplitude ← m.trajectory t.amplitude ambient.amplitude duration
  pure ⟨duration, formant, amplitude⟩

/-- The segments of a row of templates, each beginning where the one before ended. -/
def segments (m : Model) (defaultMilliseconds : Number) (ambient : Ambient) :
    List SegmentTemplate → Except Error (List Segment)
  | [] => .ok []
  | t :: rest => do
    let s ← m.segment defaultMilliseconds ambient t
    pure (s :: (← m.segments defaultMilliseconds s.ambient rest))

end Model

def ambientAfter (ambient : Ambient) (segments : List Segment) : Ambient :=
  (segments.getLast?.map Segment.ambient).getD ambient

end Silbo
