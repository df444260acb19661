import Silbo.Workspace

/-!
Expansion of pronunciations: macros are replaced by their bodies, left to right and depth first,
until only segments are left.
-/
namespace Silbo.Model

/-- The cycle that a macro closes on the macros it is expanded in. -/
def macroCycle (chain : List String) (name : String) : Error :=
  ⟨.cycle "macro" (chain.dropWhile (· != name) ++ [name]), none, none⟩

/-- The segments of an item under the macros of `chain`. No chain is longer than there are macros,
which is what `depth` counts down from. -/
def expandItem (m : Model) :
    (depth : Nat) → (chain : List String) → Item → Except Error (List SegmentTemplate)
  | _, _, .segment template => .ok [template]
  | depth, chain, .call name =>
    if chain.contains name then .error (macroCycle chain name)
    else
      match m.macroBody name with
      | .error e => .error e
      | .ok body =>
        match depth with
        | 0 => .error (macroCycle chain name)
        | depth + 1 =>
          ((body.getD []).mapM fun item => m.expandItem depth (chain ++ [name]) item).map
            List.flatten

def segmentsOf (m : Model) (p : Pronunciation) : Except Error (List SegmentTemplate) :=
  (p.items.mapM (m.expandItem m.macros.length [])).map List.flatten

def expand (m : Model) (p : Pronunciation) : Work Error (List SegmentTemplate) := do
  let segments ← Work.ofExcept (m.segmentsOf p)
  Work.report (.expanded segments.length)
  pure segments

end Silbo.Model
