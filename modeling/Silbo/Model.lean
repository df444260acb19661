import Silbo.Error
import Silbo.Lexicon
import Silbo.Table

/-!
Models: rule tables whose names are numbered once, so that entries refer to each other by handle.
-/
namespace Silbo

/-- What a context asks of a neighbour: that there is none, that it is a symbol, or that it belongs
to a class. A class that occurs nowhere in the model has no handle. -/
inductive Pattern where
  | boundary
  | symbol (name : String) (handle : Handle)
  | soundClass (name : String) (handle : Option Handle)
  deriving DecidableEq, Repr

namespace Pattern

def kindName : Pattern → String
  | boundary => "boundary"
  | symbol .. => "symbol"
  | soundClass .. => "class"

def name : Pattern → String
  | boundary => ""
  | symbol name _ => name
  | soundClass name _ => name

def handle? : Pattern → Option Handle
  | boundary => none
  | symbol _ handle => some handle
  | soundClass _ handle => handle

def isBoundary : Pattern → Bool
  | boundary => true
  | _ => false

def text (p : Pattern) : String := if p.isBoundary then "#" else p.name

end Pattern

structure Rule where
  left : Pattern
  right : Pattern
  pronunciation : Option Pronunciation

structure Entry where
  symbol : String
  elsewhere : Option Pronunciation
  rules : List Rule

/-- The boundary and the symbols are texts where text is to be cut into words and tokens. -/
structure Model where
  boundary : Datum
  /-- The symbols as declared. -/
  alphabet : List Datum
  lexicon : Lexicon
  symbols : List Handle
  classes : List (Handle × List Handle)
  constants : List (Handle × Float)
  macros : List (Handle × Option (List Item))
  entries : List (Handle × Entry)

def ContextRule.sides (r : ContextRule) : List String := [r.left, r.right].filter (!·.isEmpty)

namespace Table

def mentioned (t : Table) : List Datum :=
  t.symbols ++
    ((t.classes.flatMap fun (name, members) => name :: members) ++
      t.constants.map (·.1) ++ t.macros.map (·.1) ++
      t.graphemes.flatMap fun (name, g) => name :: g.rules.flatMap ContextRule.sides).map .text

end Table

namespace Model

def handle? (m : Model) (name : String) : Option Handle := m.lexicon.handle? (.text name)

def isSymbolHandle (m : Model) (h : Handle) : Bool := m.symbols.contains h

def members? (m : Model) (h : Handle) : Option (List Handle) := m.classes.lookup h

def nameOf (m : Model) (h : Handle) : String := ((m.lexicon.name? h).map Datum.plain).getD ""

def isSymbol (m : Model) (name : String) : Bool := (m.handle? name).any m.isSymbolHandle

def isClass (m : Model) (name : String) : Bool :=
  (m.handle? name).any fun h => (m.members? h).isSome

def constant? (m : Model) (name : String) : Option Float :=
  (m.handle? name).bind fun h => m.constants.lookup h

def namedConstants (m : Model) : List (String × Float) :=
  m.constants.map fun (h, x) => (m.nameOf h, x)

def macroBody (m : Model) (name : String) : Except Error (Option (List Item)) :=
  match (m.handle? name).bind (fun h => m.macros.lookup h) with
  | some body => .ok body
  | none => .error ⟨.unknown "macro" (.text name), none, none⟩

def entryFor (m : Model) (symbol : String) : Except Error Entry :=
  match (m.handle? symbol).bind (fun h => m.entries.lookup h) with
  | some entry => .ok entry
  | none => .error ⟨.unknown "grapheme" (.text symbol), none, none⟩

/-- Reads a side of a context. A name that is no symbol is taken for a class, declared or not. -/
def pattern (m : Model) (name : String) : Pattern :=
  if name.isEmpty then .boundary
  else
    match m.handle? name with
    | some h => if m.isSymbolHandle h then .symbol name h else .soundClass name (some h)
    | none => .soundClass name none

def rule (m : Model) (r : ContextRule) : Rule :=
  ⟨m.pattern r.left, m.pattern r.right, r.pronunciation⟩

def entry (m : Model) (symbol : String) (g : Grapheme) : Entry :=
  ⟨symbol, g.elsewhere, g.rules.map m.rule⟩

/-- Numbers the names of a table and files its entries under their handles. -/
def ofTable (t : Table) : Model :=
  let lexicon := Lexicon.ofNames t.mentioned
  let handle := fun name => (lexicon.handle? name).getD 0
  let handleOf := fun name => handle (.text name)
  let bare : Model :=
    { boundary := t.boundary, alphabet := t.symbols, lexicon
      symbols := t.symbols.map handle
      classes := t.classes.map fun (name, members) => (handleOf name, members.map handleOf)
      constants := t.constants.map fun (name, x) => (handleOf name, x)
      macros := t.macros.map fun (name, body) => (handleOf name, body)
      entries := [] }
  { bare with entries := t.graphemes.map fun (name, g) => (handleOf name, bare.entry name g) }

end Model

end Silbo
