import Silbo.Curve

/-! Segment templates and pronunciations, as a rule table declares them. -/
namespace Silbo

inductive Quantity where
  | literal (x : Float)
  | named (constant : String)

/-- The course of a value over a segment, before its constants are looked up. -/
inductive Motion where
  | constant (value : Option Quantity)
  /-- From `start`, or from the value that the last segment left. -/
  | transition (start stop : Option Quantity) (curve : Curve)
  /-- From the value that the last segment left to `peak`, and on to `stop`. -/
  | contour (peak stop : Option Quantity) (curve : Curve)

def Motion.kindName : Motion → String
  | constant _ => "constant"
  | transition .. => "transition"
  | contour .. => "contour"

/-- A template without a duration lasts as long as the settings say; a value without a motion
stays as the last segment left it. -/
structure SegmentTemplate where
  milliseconds : Option Float := none
  formant : Option Motion := none
  amplitude : Option Motion := none

inductive Item where
  | call (name : String)
  | segment (template : SegmentTemplate)

inductive Pronunciation where
  | single (item : Item)
  | sequence (items : List Item)

def Pronunciation.items : Pronunciation → List Item
  | single item => [item]
  | sequence items => items

end Silbo
