import Silbo.Datum
import Silbo.Table

/-! The configuration that a rule table is read from. -/
namespace Silbo

private def present (fields : List (String × Option Datum)) : Datum :=
  .table (fields.filterMap fun (name, value) => value.map fun d => (name, d))

def Quantity.toDatum : Quantity → Datum
  | literal x => .number (.real x)
  | named constant => .text constant

def Motion.toDatum (m : Motion) : Datum :=
  let kind := ("kind", some (Datum.text m.kindName))
  match m with
  | constant value => present [kind, ("value", value.map Quantity.toDatum)]
  | transition start stop curve =>
    present [kind, ("curve", some (.text curve.name)), ("end", stop.map Quantity.toDatum),
      ("start", start.map Quantity.toDatum)]
  | contour peak stop curve =>
    present [kind, ("curve", some (.text curve.name)), ("peak", peak.map Quantity.toDatum),
      ("end", stop.map Quantity.toDatum)]

def SegmentTemplate.toDatum (t : SegmentTemplate) : Datum :=
  present [("milliseconds", t.milliseconds.map fun x => .number (.real x)),
    ("formant", t.formant.map Motion.toDatum), ("amplitude", t.amplitude.map Motion.toDatum)]

def Item.toDatum : Item → Datum
  | call name => .text name
  | segment template => template.toDatum

def Pronunciation.toDatum : Pronunciation → Datum
  | single item => item.toDatum
  | sequence items => .list (items.map Item.toDatum)

def ContextRule.toDatum (r : ContextRule) : Datum :=
  present [("context", some (.list [.text r.left, .text r.right])),
    ("pronunciation", r.pronunciation.map Pronunciation.toDatum)]

def Grapheme.toDatum (g : Grapheme) : Datum :=
  present [("elsewhere", g.elsewhere.map Pronunciation.toDatum),
    ("contexts", some (.list (g.rules.map ContextRule.toDatum)))]

namespace Table

def bodyDatum : Option (List Item) → Datum
  | none => .null
  | some items => .list (items.map Item.toDatum)

/-- The fields of the configuration. Symbols are left out when they are the names of the
graphemes. -/
def toConfig (t : Table) : List (String × Datum) :=
  [("wordBoundary", t.boundary)] ++
    (if t.symbols == t.graphemes.map (.text ·.1) then [] else [("symbols", .list t.symbols)]) ++
    [("classes", .table (t.classes.map fun (name, members) =>
        (name, .list (members.map .text)))),
      ("constants", .table (t.constants.map fun (name, x) => (name, .number (.real x)))),
      ("macros", .table (t.macros.map fun (name, body) => (name, bodyDatum body))),
      ("graphemes", .table (t.graphemes.map fun (name, g) => (name, g.toDatum)))]

end Table

end Silbo
