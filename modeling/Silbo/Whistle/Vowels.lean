import Silbo.Whistle.Gestures

/-!
The vowels of the built-in whistle. Full vowels hold or cross their heights; the schwa `e` takes
its colour from the consonants around it and carries the glide between them.
-/
namespace Silbo.Whistle

def context (left right : String) (items : List Item) : ContextRule :=
  ⟨left, right, some (.sequence items)⟩

def borrow (left right name : String) : ContextRule := ⟨left, right, some (.single (.call name))⟩

def drop (left right : String) : ContextRule := ⟨left, right, none⟩

def elsewhere (items : List Item) (rules : List ContextRule) : Grapheme :=
  ⟨some (.sequence items), rules⟩

def steadyVowel (height : String) : Grapheme :=
  let body := [.call height, lasting 166 none (some on)]
  elsewhere body [context "C" "" (body ++ [.call "vk"])]

def midGlideVowel (height : String) : Grapheme :=
  let body := [Item.call height, .call "M1"]
  elsewhere body [context "C" "" (body ++ [.call "vk"])]

/-- A vowel that crosses to another height; before a consonant of the class `blocking` nothing is
added to it. -/
def crossingVowel (height target blocking : String) : Grapheme :=
  let body := fun milliseconds =>
    [.call height, lasting milliseconds (some (glide .sine (locus target))) (some on)]
  elsewhere (body 100 ++ [.call "M2"])
    [context "C" blocking (body 200), context "C" "" (body 200 ++ [.call "vk"])]

/-- Between consonants of one place the schwa is the plain macro of the first. -/
def schwaAtOnePlace : List ContextRule :=
  (["t", "d", "n"].map fun c => borrow c "A" (c ++ "i")) ++
    (["p", "b", "m"].map fun c => borrow c "G" (c ++ "u")) ++
    (["t", "d", "n", "p", "b", "m"].map fun c => borrow c "M" (c ++ "e"))

def schwaAtEnd : List ContextRule :=
  [("t", "ti"), ("d", "di"), ("n", "ni"), ("k", "kv"), ("g", "ge"), ("q", "qe"), ("p", "pu"),
    ("b", "bu"), ("m", "mu")].map fun (c, name) => context c "" [.call name, .call "vk"]

def fall (curve : Curve) (milliseconds : Float) (amplitude : Motion) : Item :=
  lasting milliseconds (some (glideFrom curve (locus "A") (locus "G"))) (some amplitude)

def rise (curve : Curve) (milliseconds : Float) (amplitude : Motion) : Item :=
  lasting milliseconds (some (glideFrom curve (locus "G") (locus "A"))) (some amplitude)

def schwaAcrossPlaces : List ContextRule :=
  [context "t" "p" [pause, fall .arcsine 200 on, pause],
    context "p" "t" [pause, rise .arcsine 200 on, pause],
    context "d" "p" [fall .convex 250 fadeIn, pause],
    context "p" "d" [pause, rise .arcsine 200 on, pause],
    context "n" "p" [pause, fall .convex 200 fadeIn, pause],
    context "p" "n" [pause, rise .concave 200 fadeOut, pause],
    context "t" "b" [pause, fall .concave 250 fadeOut],
    context "b" "t" [rise .concave 250 fadeIn, pause],
    context "d" "b" [fall .sine 300 swell],
    context "b" "d" [rise .sine 300 swell],
    context "n" "b" [pause, fall .sine 250 fadeIn],
    context "b" "n" [rise .sine 250 swell, pause],
    context "t" "m" [pause, fall .concave 200 fadeOut, pause],
    context "m" "t" [pause, rise .concave 200 fadeIn, pause],
    context "d" "m" [fall .sine 250 swell, pause],
    context "m" "d" [pause, rise .sine 250 swell],
    context "n" "m" [pause, fall .sine 200 swell, pause],
    context "m" "n" [pause, rise .sine 200 swell, pause]]

/-- Contexts of the schwa from a mid consonant to one of an acute and one of a grave consonant of
the same manner. -/
def schwaFromMid (left acute grave : String) (before after : List Item) (curves : Curve × Curve)
    (milliseconds : Float) (amplitude : Motion) : List ContextRule :=
  let body := fun curve place =>
    before ++ [lasting milliseconds (some (glide curve (locus place))) (some amplitude)] ++ after
  [context left acute (body curves.1 "A"), context left grave (body curves.2 "G")]

def schwaAfterMid : List ContextRule :=
  schwaFromMid "k" "t" "p" [pause] [pause] (.concave, .convex) 200 on ++
    schwaFromMid "k" "d" "b" [pause] [] (.sine, .sine) 250 fadeOut ++
    schwaFromMid "k" "n" "m" [pause] [pause] (.sine, .sine) 200 fadeOut ++
    schwaFromMid "g" "t" "p" [] [pause] (.sine, .sine) 250 fadeIn ++
    schwaFromMid "g" "d" "b" [] [] (.sine, .sine) 300 swell ++
    schwaFromMid "g" "n" "m" [] [pause] (.sine, .sine) 250 swell ++
    schwaFromMid "q" "t" "p" [pause] [pause] (.sine, .sine) 200 fadeIn ++
    schwaFromMid "q" "d" "b" [pause] [] (.sine, .sine) 250 swell ++
    schwaFromMid "q" "n" "m" [pause] [pause] (.sine, .sine) 200 swell

/-- The schwa is silent at the beginning of a word and next to another vowel. -/
def schwa : Grapheme :=
  ⟨none, schwaAtOnePlace ++ schwaAtEnd ++ schwaAcrossPlaces ++ schwaAfterMid⟩

def vowels : List (String × Grapheme) :=
  [("i", steadyVowel "HIGH"), ("ja", midGlideVowel "HIGH"), ("ju", crossingVowel "HIGH" "L" "A"),
    ("u", steadyVowel "LOW"), ("wa", midGlideVowel "LOW"), ("wi", crossingVowel "LOW" "H" "G"),
    ("e", schwa)]

end Silbo.Whistle
