import Silbo.Decimal.Binary64

/-! The shortest decimal that reads back as a given double. -/
namespace Silbo.Decimal

structure Scientific where
  digits : Nat
  exponent : Int
  deriving DecidableEq, Repr

/-- A positive value as a quotient, with the ends of the interval of values that round to it. -/
structure Interval where
  low : Nat
  value : Nat
  high : Nat
  denominator : Nat
  closed : Bool

/-- The values that round to `m * 2 ^ q`. The gap below a power of two is half as wide. -/
def Interval.ofBinary (m : Nat) (q : Int) : Interval :=
  let up := (q - 2).toNat
  let below := if m = Binary64.leadingBit ∧ -1074 < q then 1 else 2
  { low := (4 * m - below) <<< up, value := 4 * m <<< up, high := (4 * m + 2) <<< up
    denominator := 1 <<< (2 - q).toNat, closed := m % 2 == 0 }

/-- Numerator and denominator of `n * 10 ^ k` over the interval's own denominator. -/
def Interval.scale (i : Interval) (n : Nat) (k : Int) : Nat × Nat :=
  (n * Nat.pow 10 k.toNat * i.denominator, Nat.pow 10 (-k).toNat)

def Interval.holds (i : Interval) (n : Nat) (k : Int) : Bool :=
  let (num, den) := i.scale n k
  if i.closed then i.low * den ≤ num && num ≤ i.high * den
  else i.low * den < num && num < i.high * den

/-- The distance of `n * 10 ^ k` from the value, over a denominator that depends on `k` alone. -/
def Interval.distance (i : Interval) (n : Nat) (k : Int) : Nat :=
  let (num, den) := i.scale n k
  (num - i.value * den) + (i.value * den - num)

/-- The number of decimal digits of a natural number, one for zero. -/
def width (n : Nat) : Nat := (Nat.toDigits 10 n).length

def leadBelowOne (value denominator : Nat) : Nat → Int
  | 0 => -324
  | fuel + 1 =>
    let place := 325 - (fuel + 1)
    if denominator ≤ value * Nat.pow 10 place then -place else leadBelowOne value denominator fuel

def Interval.lead (i : Interval) : Int :=
  if i.denominator ≤ i.value then (width (i.value / i.denominator) : Int) - 1
  else leadBelowOne i.value i.denominator 324

/-- The point of the grid of `10 ^ k` that rounds to the value, the nearer one if two do and the
even one if both are equally near. -/
def Interval.onGrid (i : Interval) (k : Int) : Option Nat :=
  let n := i.value * Nat.pow 10 (-k).toNat / (i.denominator * Nat.pow 10 k.toNat)
  match i.holds n k, i.holds (n + 1) k with
  | true, true =>
    let below := i.distance n k
    let above := i.distance (n + 1) k
    if below < above then some n
    else if above < below then some (n + 1)
    else some (if n % 2 = 0 then n else n + 1)
  | true, false => some n
  | false, true => some (n + 1)
  | false, false => none

/-- The first of the grids, from one digit on, with a point that rounds to the value. -/
def Interval.search (i : Interval) (lead : Int) : Nat → Scientific
  | 0 =>
    ⟨i.value * Nat.pow 10 (16 - lead).toNat / (i.denominator * Nat.pow 10 (lead - 16).toNat),
      lead - 16⟩
  | fuel + 1 =>
    let k := lead - (17 - (fuel + 1) : Int)
    match i.onGrid k with
    | some n => ⟨n, k⟩
    | none => i.search lead fuel

/-- The shortest decimal that rounds to the positive number `m * 2 ^ q`, and of those the
nearest. -/
def shortest (m : Nat) (q : Int) : Scientific :=
  let i := Interval.ofBinary m q
  i.search i.lead 17

end Silbo.Decimal
