import Silbo.Fault
import Silbo.Template

/-! Reading segment templates and pronunciations from a configuration. -/
namespace Silbo

def sortedNames (names : List String) : List String :=
  names.eraseDups.mergeSort fun a b => decide (a ≤ b)

def unexpected (allowed : List String) (names : List String) : List String :=
  sortedNames (names.filter (!allowed.contains ·))

private def malformed (flaw : Flaw) : Except Fault α :=
  .error (.error ⟨.malformed flaw, none, none⟩)

namespace Quantity

/-- Reads the field of a motion; a number has to have a double near it. -/
def read? (field : String) (value : Option Datum) : Except Fault (Option Quantity) :=
  match value with
  | none | some .null => .ok none
  | some (.number n) =>
    match n.toFloat? with
    | some x => .ok (some (.literal x))
    | none => .error .tooLarge
  | some (.text name) => .ok (some (.named name))
  | some _ => malformed (.notQuantity field)

end Quantity

namespace Motion

def fieldsOf? : String → Option (List String)
  | "constant" => some ["kind", "value"]
  | "transition" => some ["kind", "curve", "start", "end"]
  | "contour" => some ["kind", "curve", "peak", "end"]
  | _ => none

/-- A motion has a sine curve unless it names another. -/
def readCurve (value : Option Datum) : Except Fault Curve :=
  match value with
  | none => .ok .sine
  | some d =>
    match d with
    | .text name =>
      match Curve.ofName? name with
      | some curve => .ok curve
      | none => malformed (.unknownCurve name)
    | _ => malformed (.unknownCurve d.plain)

def readKind (value : Datum) : Except Fault (String × List String) :=
  match value with
  | .text kind =>
    match fieldsOf? kind with
    | some fields => .ok (kind, fields)
    | none => malformed (.unknownMotion kind)
  | .list _ | .table _ => .error .wrongType
  | _ => malformed (.unknownMotion value.plain)

def readFields (fields : List (String × Datum)) : Except Fault Motion := do
  let (kind, allowed) ← readKind ((fields.lookup "kind").getD .null)
  let extra := unexpected allowed (fields.map (·.1))
  if !extra.isEmpty then malformed (.unexpectedMotionFields kind extra)
  else if kind == "constant" then
    pure (.constant (← Quantity.read? "value" (fields.lookup "value")))
  else
    let curve ← readCurve (fields.lookup "curve")
    if kind == "transition" then
      let stop ← Quantity.read? "end" (fields.lookup "end")
      let start ← Quantity.read? "start" (fields.lookup "start")
      pure (.transition start stop curve)
    else
      let peak ← Quantity.read? "peak" (fields.lookup "peak")
      let stop ← Quantity.read? "end" (fields.lookup "end")
      pure (.contour peak stop curve)

def read? (value : Option Datum) : Except Fault (Option Motion) :=
  match value with
  | none | some .null => .ok none
  | some (.table fields) => (readFields fields).map some
  | some d => malformed (.motionNotTable d.kindName)

end Motion

namespace SegmentTemplate

def fieldNames : List String := ["formant", "amplitude", "milliseconds"]

def readDuration (value : Option Datum) : Except Fault (Option Float) :=
  match value with
  | none | some .null => .ok none
  | some d =>
    match d with
    | .number n =>
      if n.isNegative then malformed (.badDuration d)
      else
        match n.toFloat? with
        | some x => .ok (some x)
        | none => .error .tooLarge
    | _ => malformed (.badDuration d)

def readFields (fields : List (String × Datum)) : Except Fault SegmentTemplate := do
  let extra := unexpected fieldNames (fields.map (·.1))
  if !extra.isEmpty then malformed (.unexpectedSegmentFields extra)
  else
    let milliseconds ← readDuration (fields.lookup "milliseconds")
    let formant ← Motion.read? (fields.lookup "formant")
    let amplitude ← Motion.read? (fields.lookup "amplitude")
    pure ⟨milliseconds, formant, amplitude⟩

/-- Refuses what is no table by the names it holds: a list holds its members, a text its
characters. -/
def refuse (names : List String) : Except Fault SegmentTemplate :=
  let extra := unexpected fieldNames names
  if extra.isEmpty then .error .notTable else malformed (.unexpectedSegmentFields extra)

def read (value : Datum) : Except Fault SegmentTemplate :=
  match value with
  | .table fields => readFields fields
  | .text s => refuse (s.toList.map String.singleton)
  | .list items =>
    match items.mapM (fun | .text s => some s | _ => none) with
    | some names => refuse names
    | none => .error .wrongType
  | _ => .error .wrongType

end SegmentTemplate

namespace Item

def read (value : Datum) : Except Fault Item :=
  match value with
  | .text name => .ok (.call name)
  | .table fields => (SegmentTemplate.readFields fields).map .segment
  | d => .error (.itemNotPronounceable d)

end Item

namespace Pronunciation

/-- Null stands for no pronunciation at all. -/
def read? (value : Datum) : Except Fault (Option Pronunciation) :=
  match value with
  | .null => .ok none
  | .list items => (items.mapM Item.read).map fun items => some (.sequence items)
  | d => (Item.read d).map fun item => some (.single item)

end Pronunciation

end Silbo
