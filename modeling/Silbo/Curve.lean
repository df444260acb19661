/-! Easing curves: how a value goes from zero to one while its argument does. -/
namespace Silbo

inductive Curve where
  | sine
  | convex
  | concave
  | arcsine
  | linear
  deriving DecidableEq, Repr, Inhabited

namespace Curve

def name : Curve → String
  | sine => "sine"
  | convex => "convex"
  | concave => "concave"
  | arcsine => "arcsine"
  | linear => "linear"

def all : List Curve := [sine, convex, concave, arcsine, linear]

def ofName? (name : String) : Option Curve := all.find? (·.name == name)

/-- The functions that curves are made of, beside sums and products. With these as a parameter
curves make sense over any numbers. -/
structure Basis (α : Type) where
  raisedCosine : α → α
  square : α → α

/-- A square that is a product. -/
def Basis.ofRaisedCosine [Mul α] (raisedCosine : α → α) : Basis α :=
  ⟨raisedCosine, fun x => x * x⟩

section Shape

variable [Sub α] [Mul α] [OfNat α 1]

def shape (b : Basis α) : Curve → α → α
  | sine, x => b.raisedCosine x
  | convex, x => 1 - b.square (1 - x)
  | concave, x => x * x
  | arcsine, x => b.raisedCosine (b.raisedCosine x)
  | linear, x => x

end Shape

end Curve

/-- The nearest value in an interval; a NaN stays what it is. -/
def clip [LT α] [DecidableLT α] (low high x : α) : α :=
  if x < low then low else if high < x then high else x

def pi : Float := 3.141592653589793

/-- Half a turn of a cosine, from zero up to one. -/
def raisedCosine (x : Float) : Float := 0.5 - 0.5 * Float.cos (pi * x)

/-- Doubles in a row are squared by multiplication. -/
def Curve.Basis.row : Basis Float := .ofRaisedCosine Silbo.raisedCosine

/-- A double by itself is squared by the power function, whose last bit may be another one. -/
def Curve.Basis.single : Basis Float := { row with square := fun x => x.pow 2 }

/-- Where curves are evaluated: at a number by itself or at all numbers of a row. -/
inductive Points where
  | single (x : Float)
  | row (xs : List Float)

namespace Points

def basis : Points → Curve.Basis Float
  | single _ => .single
  | row _ => .row

def map (f : Float → Float) : Points → Points
  | single x => single (f x)
  | row xs => row (xs.map f)

end Points

/-- A curve at any argument, those outside its range counting as the nearer end. -/
def Curve.ease (b : Basis Float) (c : Curve) (x : Float) : Float := c.shape b (clip 0 1 x)

end Silbo
