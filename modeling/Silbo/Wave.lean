import Silbo.Render
import Silbo.Task

/-! Wave files: samples of sixteen bits in one channel. -/
namespace Silbo

structure Wave where
  rate : Nat
  frames : List Int16
  deriving DecidableEq, Repr

namespace Wave

/-- The largest value of a frame, which stands for a sample of one. -/
def fullScale : Float32 := 32767

/-- The nearest frame of a sample, those beyond full scale being cut off. A NaN makes a zero. -/
def quantize (x : Float32) : Int16 :=
  match (Decimal.Binary64.ofSingle (clip (-1) 1 x * fullScale)).roundEven? with
  | some n => Int16.ofInt n
  | none => 0

def bytes16 (n : Nat) : List UInt8 := [UInt8.ofNat n, UInt8.ofNat (n / 256)]

def bytes32 (n : Nat) : List UInt8 := bytes16 n ++ bytes16 (n / 65536)

private def tag (name : String) : List UInt8 := name.toList.map fun c => UInt8.ofNat c.toNat

/-- The description of the samples: uncompressed, one channel, rate, bytes per second, bytes per
frame and bits per sample. -/
def format (rate : Nat) : List UInt8 :=
  bytes16 1 ++ bytes16 1 ++ bytes32 rate ++ bytes32 (2 * rate) ++ bytes16 2 ++ bytes16 16

def frameBytes (frames : List Int16) : List UInt8 :=
  frames.flatMap fun x => bytes16 x.toUInt16.toNat

def header (rate size : Nat) : List UInt8 :=
  tag "RIFF" ++ bytes32 (36 + size) ++ tag "WAVE" ++
    (tag "fmt " ++ bytes32 16 ++ format rate) ++ (tag "data" ++ bytes32 size)

def encode (w : Wave) : List UInt8 :=
  header w.rate (2 * w.frames.length) ++ frameBytes w.frames

def fieldLimit : Nat := 0x100000000

/-- The samples as a wave file. The rate counts by its integer part, and the sizes have to fit the
fields of the header. -/
def ofSamples (rate : Number) (s : Samples) : Except Fault Wave := do
  let rate : Int := match rate with
    | .int n => n
    | .real x => ((Decimal.Binary64.ofFloat x).truncate?).getD 0
  if rate ≤ 0 then throw .noSampleRate
  if fieldLimit ≤ 2 * rate ∨ fieldLimit ≤ 36 + 2 * s.size then throw .headerOverflow
  pure ⟨rate.toNat, s.toList.map quantize⟩

end Wave

structure Recording where
  path : String
  wave : Wave
  deriving DecidableEq, Repr

namespace Recording

/-- Reports what is written where. The path is one as seen from the folder. -/
def finish (folder path : String) (wave : Wave) : Work Fault Recording := do
  Work.report (.written wave.frames.length wave.rate path)
  pure ⟨Path.whole folder path, wave⟩

end Recording

/-- Makes the wave file of samples and reports what is written where. -/
def writeWave (rate : Number) (folder path : String) (s : Samples) : Work Fault Recording := do
  Recording.finish folder path (← Work.ofExcept (Wave.ofSamples rate s))

/-- What is in a file whose header cannot be made: a header that does not fit its fields is begun
when the samples are to be written, and again when the file is closed. -/
def Wave.begun : Fault → List UInt8
  | .headerOverflow => tag "RIFF" ++ tag "RIFF"
  | _ => []

/-- Puts the wave file of samples where a path leads to. Whether there is such a file to be had shows
first, and then whether there is one to be made. -/
def saveWave [Monad n] (t : Storage n) (rate : Number) (folder path : String) (s : Samples) :
    Task n Recording :=
  match Wave.ofSamples rate s with
  | .ok wave => do
    Task.ask (t.save folder path wave.encode)
    Task.ofWork (Recording.finish folder path wave)
  | .error f => do
    Task.ask (t.save folder path (Wave.begun f))
    throw f

/-- Puts the sound of a text where a path leads to, on a disk with nothing but the folder. -/
def Model.synthesizeWave (m : Model) (s : Settings) (strict : Bool) (text folder path : String)
    (p : Pool := .serial) : Work Fault Recording := do
  let samples ← m.synthesize s strict text p
  let place := Disk.placeOf folder
  (saveWave (Disk.storage place) s.sampleRate folder path samples).onDisk (.blank place)

end Silbo
