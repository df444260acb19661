/-! Stretches of characters that stand for longer or plainer spellings. -/
namespace Silbo.Text

structure Block where
  first : Nat
  spellings : List (List Nat)

/-- Consecutive characters that stand for consecutive plain ones. -/
structure Shift where
  first : Nat
  last : Nat
  image : Nat

def Block.spelling? (b : Block) (n : Nat) : Option (List Nat) :=
  if b.first ≤ n then b.spellings[n - b.first]? else none

def Shift.spelling? (s : Shift) (n : Nat) : Option (List Nat) :=
  if s.first ≤ n ∧ n ≤ s.last then some [s.image + (n - s.first)] else none

end Silbo.Text
