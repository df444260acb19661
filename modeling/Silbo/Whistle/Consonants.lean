import Silbo.Whistle.Vowels

/-!
The consonants of the built-in whistle. Between two schwas, or at the beginning of a word before a
schwa, a consonant is dropped: the schwa carries its transitions.
-/
namespace Silbo.Whistle

/-- Where a consonant has releases of its own beside those between vowels. -/
structure Releases where
  vowelFinal : Bool
  schwaFinal : Bool
  wordInitial : Bool

def onsetContexts (left : String) (onsets : List (String × String)) : List ContextRule :=
  onsets.map fun (right, name) => borrow left right name

/-- A consonant with its macros before high and before low vowels. -/
def consonant (symbol high low : String) (onsets : List (String × String)) (r : Releases) :
    Grapheme :=
  let close := "v" ++ symbol
  ⟨none,
    [context "SV" "HV" [.call close, .call high], context "SV" "LV" [.call close, .call low]] ++
      (if r.vowelFinal then [context "SV" "" [.call close, pause]] else []) ++
      onsetContexts "e" onsets ++
      (if r.schwaFinal then [borrow "e" "" "break"] else []) ++
      (if r.wordInitial then onsetContexts "" onsets else []) ++
      [borrow "SV" "e" close, drop "e" "e", drop "" "e"]⟩

def coloured (symbol : String) (r : Releases) : Grapheme :=
  consonant symbol (symbol ++ "i") (symbol ++ "u")
    [("HV", symbol ++ "i"), ("LV", symbol ++ "u")] r

/-- An interrupted consonant is released wherever it stands. -/
def interrupted : Releases := ⟨true, true, true⟩

/-- A continuous consonant has no release at the end of a word. -/
def continuous : Releases := ⟨false, false, true⟩

/-- A delayed consonant has no release at the beginning of a word. -/
def delayed : Releases := ⟨true, true, false⟩

def consonants : List (String × Grapheme) :=
  [("t", coloured "t" interrupted), ("d", coloured "d" continuous), ("n", coloured "n" delayed),
    ("k", consonant "k" "kv" "kv" [("SV", "kv")] interrupted), ("g", coloured "g" continuous),
    ("q", coloured "q" delayed), ("p", coloured "p" interrupted), ("b", coloured "b" continuous),
    ("m", coloured "m" delayed)]

end Silbo.Whistle
