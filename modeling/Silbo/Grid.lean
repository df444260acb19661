import Silbo.Fault

/-!
Numbers in nested lists, read as one row. All lists of one level have to be of one length, so that
numbers stand on the last level alone, and there is a limit to the levels.
-/
namespace Silbo

/-- The lengths that lists have at each level, from the outermost on, and whether that is all there
is to say. -/
structure Extent where
  lengths : List Nat
  isWhole : Bool
  deriving DecidableEq, Repr

def commonPrefix : List Nat → List Nat → List Nat
  | m :: rest, n :: others => if m = n then m :: commonPrefix rest others else []
  | _, _ => []

def Extent.meet (a b : Extent) : Extent :=
  ⟨commonPrefix a.lengths b.lengths, a.isWhole && b.isWhole && a.lengths == b.lengths⟩

namespace Datum

mutual

/-- The extent of a value at some levels. What a list below these holds is left open. -/
def extent : Datum → Nat → Extent
  | list items, levels + 1 =>
    let e := extentOfItems items levels
    { e with lengths := items.length :: e.lengths }
  | list _, 0 => ⟨[], false⟩
  | _, _ => ⟨[], true⟩

def extentOfItems : List Datum → Nat → Extent
  | [], _ => ⟨[], true⟩
  | d :: rest, levels =>
    if rest.isEmpty then d.extent levels else (d.extent levels).meet (extentOfItems rest levels)

end

mutual

def leaves : Datum → List Datum
  | list items => leavesOfItems items
  | d => [d]

def leavesOfItems : List Datum → List Datum
  | [] => []
  | d :: rest => d.leaves ++ leavesOfItems rest

end

def levelLimit : Nat := 64

def numbers (d : Datum) : Except Fault (List Number) :=
  let e := d.extent levelLimit
  if e.isWhole then d.leaves.mapM fun d => d.number?.elim (.error .wrongType) .ok
  else if e.lengths.length = levelLimit then .error (.tooManyLevels levelLimit)
  else .error (.irregular e.lengths)

end Datum

end Silbo
