import Silbo.SoundClass

/-! Choosing the pronunciation of a symbol by its neighbours. -/
namespace Silbo

inductive Selection where
  | rule (index : Nat) (pronunciation : Pronunciation)
  | elided (index : Nat)
  | elsewhere (pronunciation : Pronunciation)
  | unmatched

namespace Selection

def kindName : Selection → String
  | rule .. => "rule"
  | elided _ => "elided"
  | elsewhere _ => "elsewhere"
  | unmatched => "unmatched"

def index? : Selection → Option Nat
  | rule index _ => some index
  | elided index => some index
  | _ => none

def pronunciation? : Selection → Option Pronunciation
  | rule _ p => some p
  | elsewhere p => some p
  | _ => none

end Selection

namespace Model

/-- Whether a neighbour fits a side of a context; at the edge of a word there is none. The class is
resolved in any case. -/
def accepts (m : Model) (p : Pattern) (neighbour : Option String) : Work Error Bool :=
  match p with
  | .boundary => pure neighbour.isNone
  | .symbol name _ => pure (neighbour == some name)
  | .soundClass name handle => do
    let members ← match handle with
      | some h => m.resolveHandle h
      | none => m.resolveClass name
    pure (neighbour.any fun name => (m.handle? name).any members.contains)

/-- The first of the rules, counted from `index`, that fits on both sides; the right side is
looked at only where the left one fits. -/
def firstMatch (m : Model) (left right : Option String) (index : Nat) :
    List Rule → Work Error (Option (Nat × Rule))
  | [] => pure none
  | r :: rest => do
    if ← m.accepts r.left left then
      if ← m.accepts r.right right then return some (index, r)
    m.firstMatch left right (index + 1) rest

def select (m : Model) (e : Entry) (left right : Option String) : Work Error Selection := do
  match ← m.firstMatch left right 0 e.rules with
  | some (index, r) =>
    Work.report (.ruleChosen e.symbol index r.left r.right r.pronunciation.isNone)
    match r.pronunciation with
    | some p => pure (.rule index p)
    | none => pure (.elided index)
  | none =>
    match e.elsewhere with
    | some p => pure (.elsewhere p)
    | none =>
      Work.report (.silent e.symbol left right)
      pure .unmatched

end Model

end Silbo
