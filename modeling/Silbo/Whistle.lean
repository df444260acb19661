import Silbo.Whistle.Consonants

/-!
The built-in whistle. Six full vowels hold or cross three heights,

    i   high             u   low
    ja  high to mid      wa  low to mid
    ju  high to low      wi  low to high

and nine consonants have a place (rows: acute, mid, grave) and a manner (columns: interrupted,
continuous, delayed):

         I  K  D
      A  t  d  n
      M  k  g  q
      G  p  b  m
-/
namespace Silbo.Whistle

def classes : List (String × List String) :=
  [("A", ["t", "d", "n"]), ("M", ["k", "g", "q"]), ("G", ["p", "b", "m"]),
    ("I", ["t", "k", "p"]), ("K", ["d", "g", "b"]), ("D", ["n", "q", "m"]),
    ("C", ["I", "K", "D"]), ("HV", ["i", "ja", "ju"]), ("LV", ["u", "wa", "wi"]),
    ("SV", ["HV", "LV"])]

def graphemes : List (String × Grapheme) := vowels ++ consonants

def table : Table :=
  { symbols := graphemes.map (.text ·.1)
    classes, constants := loci
    macros := gestures.map fun (name, body) => (name, some body)
    graphemes }

end Silbo.Whistle
