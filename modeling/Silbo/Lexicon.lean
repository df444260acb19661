import Silbo.Datum

/-! Names and their handles: a name is numbered when it first occurs. -/
namespace Silbo

abbrev Handle := Nat

/-- Names are texts for the most part, but symbols may be other plain values. -/
structure Lexicon where
  names : List Datum

namespace Lexicon

/-- Numbers names in the order of their first occurrences. -/
def ofNames (names : List Datum) : Lexicon := ⟨names.eraseDups⟩

def handle? (l : Lexicon) (name : Datum) : Option Handle := l.names.idxOf? name

def name? (l : Lexicon) (h : Handle) : Option Datum := l.names[h]?

/-- The name with an index; a negative one counts from the end. -/
def nameAt? (l : Lexicon) (i : Int) : Option Datum :=
  if 0 ≤ i then l.name? i.toNat
  else if -(l.names.length : Int) ≤ i then l.name? (i + l.names.length).toNat
  else none

end Lexicon

end Silbo
