import Silbo.Table

/-!
The macros of the built-in whistle: steady tones, releases into the three vowel heights, and the
onsets and codas of the consonants.
-/
namespace Silbo.Whistle

/-- The second formants, in Hertz, of acute consonants, of high, mid and low vowels and of grave
consonants. -/
def loci : List (String × Float) :=
  [("A_LOCUS", 3000), ("H_LOCUS", 2600), ("M_LOCUS", 2175), ("L_LOCUS", 1750), ("G_LOCUS", 1350)]

def level (x : Float) : Quantity := .literal x

def locus (name : String) : Quantity := .named (name ++ "_LOCUS")

def hold (value : Quantity) : Motion := .constant (some value)

/-- Moves on to `stop` from where the last segment ended. -/
def glide (curve : Curve) (stop : Quantity) : Motion := .transition none (some stop) curve

def glideFrom (curve : Curve) (start stop : Quantity) : Motion :=
  .transition (some start) (some stop) curve

def on : Motion := hold (level 1)

def fadeIn : Motion := glideFrom .sine (level 0) (level 1)

def fadeOut : Motion := glideFrom .sine (level 1) (level 0)

/-- Falls silent by the middle and comes back. -/
def swell : Motion := .contour (some (level 0)) (some (level 1)) .sine

def decay : Motion := glide .sine (level 0)

def lasting (milliseconds : Float) (formant amplitude : Option Motion) : Item :=
  .segment ⟨some milliseconds, formant, amplitude⟩

def tone (formant amplitude : Option Motion) : Item := .segment ⟨none, formant, amplitude⟩

def pause : Item := .call "break"

def heights : List String := ["H", "M", "L"]

/-- The releases of a manner of articulation into the vowel heights. -/
def releases (manner : String) (curve : Curve) (amplitude : Motion) (milliseconds : Float)
    (lead : List Item) : List (String × List Item) :=
  heights.map fun height =>
    (manner ++ "2" ++ height,
      lead ++ [lasting milliseconds (some (glide curve (locus height))) (some amplitude)])

def onsets (consonant : String) (lead : List String) (manner : String) :
    List (String × List Item) :=
  [("i", "H"), ("e", "M"), ("u", "L")].map fun (vowel, height) =>
    (consonant ++ vowel, (lead ++ [manner ++ "2" ++ height]).map .call)

def coda (consonant : String) (milliseconds : Float) (formant amplitude : Option Motion)
    (trail : List Item) : String × List Item :=
  ("v" ++ consonant, lasting milliseconds formant amplitude :: trail)

def tones : List (String × List Item) :=
  [("break", [lasting 50 none (some (hold (level 0)))]),
    ("A", [tone (some (hold (locus "A"))) (some on)]),
    ("G", [tone (some (hold (locus "G"))) (some on)]),
    ("HIGH", [tone (some (hold (locus "H"))) none]),
    ("LOW", [tone (some (hold (locus "L"))) none]),
    ("M1", [lasting 200 (some (glide .sine (locus "M"))) (some on)]),
    ("M2", [lasting 100 (some (glide .sine (locus "M"))) (some on)])]

def acute : List (String × List Item) :=
  onsets "t" ["A"] "I" ++ [coda "t" 200 (some (glide .convex (locus "A"))) none []] ++
    onsets "d" ["A"] "K" ++ [coda "d" 250 (some (glide .sine (locus "A"))) (some decay) []] ++
    onsets "n" ["A"] "D" ++ [coda "n" 200 (some (glide .convex (locus "A"))) (some decay) [pause]]

def mid : List (String × List Item) :=
  [("kv", [pause, lasting 100 none none]), coda "k" 100 none none [pause]] ++
    onsets "g" [] "K" ++ [coda "g" 250 none (some decay) []] ++
    onsets "q" ["break"] "D" ++ [coda "q" 200 none (some decay) [pause]]

/-- The macros of the grave consonants. Before a mid vowel `b` sets in at the acute locus. -/
def grave : List (String × List Item) :=
  onsets "p" ["G"] "I" ++ [coda "p" 200 (some (glide .convex (locus "G"))) none []] ++
    [("bi", [.call "G", .call "K2H"]), ("be", [.call "A", .call "K2M"]),
      ("bu", [.call "G", .call "K2L"])] ++
    [coda "b" 250 (some (glide .sine (locus "G"))) (some decay) []] ++
    onsets "m" ["G"] "D" ++ [coda "m" 200 (some (glide .convex (locus "G"))) (some decay) [pause]]

def gestures : List (String × List Item) :=
  tones ++ releases "I" .convex on 200 [pause] ++ releases "K" .sine fadeIn 250 [] ++
    releases "D" .sine fadeIn 200 [pause] ++ acute ++ mid ++ grave

end Silbo.Whistle
