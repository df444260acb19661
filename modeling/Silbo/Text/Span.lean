/-! Sets of characters given by the ranges of their code points. -/
namespace Silbo.Text

abbrev Spans := List (Nat × Nat)

def Spans.holds (spans : Spans) (c : Char) : Bool :=
  spans.any fun (first, last) => first ≤ c.toNat && c.toNat ≤ last

end Silbo.Text
