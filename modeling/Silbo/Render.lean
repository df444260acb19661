import Silbo.Oscillator
import Silbo.Word

/-!
Rendering: segments as one sine without breaks, and words with silence between them.
-/
namespace Silbo

def Trajectory.course (b : Curve.Basis Float) (r : Trajectory Number) :
    Except Fault (Float → Float) :=
  Fault.orTooLarge (r.course? b)

def Trajectory.values (r : Trajectory Number) (times : Points) : Except Fault Points := do
  pure (times.map (← r.course times.basis))

def Segment.sample (s : Segment) (rate : Number) : Except Fault (Signal × Signal) := do
  let times ← Signal.sampleTimes s.duration rate
  pure (times.map (← s.formant.course .row), times.map (← s.amplitude.course .row))

/-- The part of the sample rate up to which the sine follows the formant. -/
def highestFrequency : Float := 0.48

/-- Adds a segment to a signal. A segment of no samples leaves the phase as it is. -/
def Segment.render (s : Segment) (rate phase : Number) : Except Fault (Signal × Number) := do
  let (formant, amplitude) ← s.sample rate
  let highest := (← Signal.float rate) * highestFrequency
  oscillate (formant.map (clip 0 highest)) amplitude rate phase

/-- The signals of a row of segments, and the phase after the last one. -/
def renderEach (rate phase : Number) :
    List Segment → Except Fault (List Signal × Number)
  | [] => .ok ([], phase)
  | s :: rest => do
    let (signal, phase) ← s.render rate phase
    let (later, phase) ← renderEach rate phase rest
    pure (signal :: later, phase)

/-- The signal of a row of segments, however long it is: its size is checked where it is to be held. -/
def renderSegments (rate phase : Number) (segments : List Segment) :
    Except Fault (Signal × Number) := do
  let (signals, phase) ← renderEach rate phase segments
  pure (signals.toArray.flatten, phase)

def wordAttack : Number := .real 3

def wordRelease : Number := .real 5

/-- The signals of the segments are joined before they are faded, if the joined one can be held. -/
def Word.render (w : Word) (rate : Number) : Except Fault Samples := do
  let (signal, _) ← renderSegments rate (.real 0) w.segments
  Signal.checkSize 8 signal.size
  pure (← Signal.fade wordAttack wordRelease rate signal).toSamples

def joinSamples (gap : Samples) (parts : List Samples) : Samples :=
  (parts.intersperse gap).toArray.flatten

/-- Renders the words that have segments, with silence between them. Without any such word there
is the silence of one gap. -/
def renderWords (rate gap peak : Number) (words : List Word) : Except Fault Samples := do
  let gap ← Signal.silence gap rate
  let parts ← (words.filter (!·.segments.isEmpty)).mapM (·.render rate)
  if parts.isEmpty then pure gap
  else
    let joined := joinSamples gap parts
    Signal.checkSize 4 joined.size
    joined.normalize peak

def Model.synthesize (m : Model) (s : Settings) (strict : Bool) (text : String)
    (p : Pool := .serial) : Work Fault Samples := do
  let words ← m.compileTextOn p s strict text
  Work.ofExcept (renderWords s.sampleRate s.wordGapMilliseconds s.peak words)

end Silbo
