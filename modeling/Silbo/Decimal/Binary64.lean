/-! The exact value behind a double, and the integers and remainders read off it. -/
namespace Silbo.Decimal

/-- A double as sign, significand and power of two, or one of the values that are no number. -/
inductive Binary64 where
  | finite (negative : Bool) (significand : Nat) (exponent : Int)
  | infinite (negative : Bool)
  | notANumber
  deriving DecidableEq, Repr

namespace Binary64

def leadingBit : Nat := 0x10000000000000

/-- Takes bits apart: a sign, then an exponent and a fraction of some widths. -/
def ofLayout (exponentBits fractionBits bits : Nat) : Binary64 :=
  let negative := bits >>> (exponentBits + fractionBits) % 2 == 1
  let biased := bits >>> fractionBits % (1 <<< exponentBits)
  let fraction := bits % (1 <<< fractionBits)
  -- The exponent of the last bit of a significand, were the biased exponent zero.
  let bias : Nat := (1 <<< (exponentBits - 1)) - 1 + fractionBits
  if biased = (1 <<< exponentBits) - 1 then
    if fraction = 0 then infinite negative else notANumber
  else if biased = 0 then finite negative fraction (1 - bias)
  else finite negative (fraction + (1 <<< fractionBits)) (biased - bias)

def ofFloat (x : Float) : Binary64 := ofLayout 11 52 x.toBits.toNat

/-- A number in single precision is a double as well. -/
def ofSingle (x : Float32) : Binary64 := ofLayout 8 23 x.toBits.toNat

private def signed (negative : Bool) (magnitude : Nat) : Int :=
  if negative then -(magnitude : Int) else magnitude

def truncate? : Binary64 → Option Int
  | finite negative m q =>
    some (signed negative (if 0 ≤ q then m <<< q.toNat else m >>> (-q).toNat))
  | _ => none

def isInteger : Binary64 → Int → Bool
  | finite negative m q, n =>
    if 0 ≤ q then signed negative (m <<< q.toNat) == n
    else signed negative m == n * (1 <<< (-q).toNat : Nat)
  | _, _ => false

/-- The nearest integer, a half going to the even neighbour. -/
def roundEven? : Binary64 → Option Int
  | finite negative m q =>
    if 0 ≤ q then some (signed negative (m <<< q.toNat))
    else
      let unit := 1 <<< (-q).toNat
      let whole := m / unit
      let twice := 2 * (m % unit)
      let up := unit < twice || (twice == unit && whole % 2 == 1)
      some (signed negative (if up then whole + 1 else whole))
  | _ => none

end Binary64

def scaled (negative : Bool) (m : Nat) (q : Int) : Float :=
  let magnitude :=
    if 0 ≤ q then Float.ofScientific (m <<< q.toNat) false 0
    else Float.ofScientific (m * Nat.pow 5 (-q).toNat) true (-q).toNat
  if negative then -magnitude else magnitude

/-- The exact remainder of a division that rounds its quotient toward zero. The remainder of two
doubles is itself a double, so nothing is rounded. -/
def truncatedRemainder (x y : Float) : Float :=
  match Binary64.ofFloat x, Binary64.ofFloat y with
  | .finite negative m p, .finite _ n q =>
    if n = 0 then 0.0 / 0.0
    else
      let low := min p q
      scaled negative (m <<< (p - low).toNat % n <<< (q - low).toNat) low
  | .finite _ _ _, .infinite _ => x
  | _, _ => 0.0 / 0.0

/-- The remainder of a division that rounds its quotient down: it has the sign of the divisor. -/
def flooredRemainder (x y : Float) : Float :=
  let r := truncatedRemainder x y
  if r == 0.0 then (if y < 0.0 then -0.0 else 0.0)
  else if (y < 0.0) != (r < 0.0) then r + y
  else r

end Silbo.Decimal
