import Silbo.Decimal.Shortest

/-! How a double is written in a message. -/
namespace Silbo.Decimal

/-- Layout of a written number: the powers of ten that are written without an exponent, and the
least number of digits of an exponent. -/
structure Layout where
  leastPositional : Int
  pastPositional : Int
  exponentWidth : Nat

/-- Numbers in messages are positional from a ten-thousandth up to ten to the sixteenth; an
exponent has a sign and two digits at least. -/
def messageLayout : Layout := ⟨-4, 16, 2⟩

private def zeros (n : Nat) : String := String.ofList (List.replicate n '0')

private def trimZeros (digits : List Char) : List Char :=
  (digits.reverse.dropWhile (· == '0')).reverse

/-- Writes `0.d₁d₂… * 10 ^ (lead + 1)`, with a point in it or an exponent behind it. -/
def Layout.write (l : Layout) (digits : List Char) (lead : Int) : String :=
  if l.leastPositional ≤ lead ∧ lead < l.pastPositional then
    if lead < 0 then "0." ++ zeros (-lead - 1).toNat ++ String.ofList digits
    else
      let whole := lead.toNat + 1
      let fraction := digits.drop whole
      String.ofList (digits.take whole) ++ zeros (whole - digits.length) ++ "." ++
        (if fraction.isEmpty then "0" else String.ofList fraction)
  else
    let head := String.ofList (digits.take 1)
    let tail := digits.drop 1
    let exponent := toString lead.natAbs
    head ++ (if tail.isEmpty then "" else "." ++ String.ofList tail) ++
      (if lead < 0 then "e-" else "e+") ++ zeros (l.exponentWidth - exponent.length) ++ exponent

def Layout.format (l : Layout) (x : Float) : String :=
  match Binary64.ofFloat x with
  | .notANumber => "nan"
  | .infinite negative => if negative then "-inf" else "inf"
  | .finite negative m q =>
    (if negative then "-" else "") ++
      (if m = 0 then "0.0"
       else
        let d := shortest m q
        let digits := Nat.toDigits 10 d.digits
        l.write (trimZeros digits) (d.exponent + (digits.length : Int) - 1))

end Silbo.Decimal
