import Silbo.Number

/-! What is not part of a rule table: the rate and the loudness of the sound, and default lengths. -/
namespace Silbo

structure Settings where
  sampleRate : Number := .int 44100
  /-- The length of a segment whose template gives none. -/
  segmentMilliseconds : Number := .real 100
  wordGapMilliseconds : Number := .real 120
  /-- The loudest sample of a rendered text. -/
  peak : Number := .real 0.9

end Silbo
