import Silbo.Text.Decomposition.Latin
import Silbo.Text.Decomposition.Symbols
import Silbo.Text.Decomposition.Enclosed
import Silbo.Text.Decomposition.Presentation
import Silbo.Text.Decomposition.Supplement

/-! The plain spelling of a character: letters apart from their marks, no ligatures, no styles. -/
namespace Silbo.Text

def spellingIn (shifts : List Shift) (blocks : List Block) (n : Nat) : Option (List Nat) :=
  (shifts.findSome? (·.spelling? n)).or (blocks.findSome? (·.spelling? n))

/-- A Hangul syllable is spelled by the consonants and the vowel that its number encodes. -/
def syllableSpelling (n : Nat) : List Nat :=
  let s := n - 0xAC00
  let head := [0x1100 + s / 588, 0x1161 + s % 588 / 28]
  if s % 28 = 0 then head else head ++ [0x11A7 + s % 28]

/-- The full spelling of a code point, if it has one beside itself. -/
def spelling? (n : Nat) : Option (List Nat) :=
  if n < 0xA0 then none
  else if 0xAC00 ≤ n ∧ n < 0xD7A4 then some (syllableSpelling n)
  else if n < 0x2000 then spellingIn latinShifts latinBlocks n
  else if n < 0x3000 then spellingIn symbolsShifts symbolsBlocks n
  else if n < 0x3400 then spellingIn enclosedShifts enclosedBlocks n
  else if n < 0x10000 then spellingIn presentationShifts presentationBlocks n
  else spellingIn supplementShifts supplementBlocks n

def decompose (c : Char) : List Char :=
  match spelling? c.toNat with
  | some spelling => spelling.map Char.ofNat
  | none => [c]

end Silbo.Text
