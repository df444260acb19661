import Silbo.Decimal.Binary64

/-!
Numbers as a configuration or a caller writes them: exact integers of any size, or doubles. An
operation on two integers is exact; any other is one on doubles, which an integer beyond the
largest double has no part in.
-/
namespace Silbo

inductive Number where
  | int (n : Int)
  | real (x : Float)
  deriving Inhabited

namespace Number

/-- The double nearest to an integer, a half going to the even neighbour; an integer beyond the
largest double has none. -/
def ofInt? (n : Int) : Option Float :=
  let magnitude := Float.ofScientific n.natAbs false 0
  if magnitude.isInf then none else some (if n < 0 then -magnitude else magnitude)

def toFloat? : Number → Option Float
  | int n => ofInt? n
  | real x => some x

def isNegative : Number → Bool
  | int n => n < 0
  | real x => x < 0

/-- Not positive; false of a NaN, which has no sign. -/
def isNonpositive : Number → Bool
  | int n => n ≤ 0
  | real x => x ≤ 0

def same : Number → Number → Bool
  | int m, int n => m == n
  | real x, real y => x == y
  | int n, real x | real x, int n => (Decimal.Binary64.ofFloat x).isInteger n

/-- Takes an operation on integers and the one on doubles that stands for it. -/
def combine? (exact : Int → Int → Int) (rounded : Float → Float → Float) :
    Number → Number → Option Number
  | int m, int n => some (int (exact m n))
  | a, b => return real (rounded (← a.toFloat?) (← b.toFloat?))

def add? : Number → Number → Option Number := combine? (· + ·) (· + ·)

def sub? : Number → Number → Option Number := combine? (· - ·) (· - ·)

def mul? : Number → Number → Option Number := combine? (· * ·) (· * ·)

end Number

end Silbo
