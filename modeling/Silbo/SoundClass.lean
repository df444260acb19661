import Silbo.Workspace

/-!
Sound classes: the symbols that a class covers, through classes of classes. A class that is
finished is remembered; one that is met again on the way from the class asked for is a cycle.
-/
namespace Silbo.Model

/-- Adds symbols to those found, each of them once. -/
def addSymbols (symbols found : List Handle) : List Handle :=
  symbols.foldl (fun found h => found.insert h) found

/-- The cycle that a member closes: the chain from its first occurrence, and the member again. -/
def classCycle (m : Model) (chain : List Handle) (h : Handle) : Error :=
  ⟨.cycle "class" ((chain.dropWhile (· != h) ++ [h]).map m.nameOf), none, none⟩

def unknownClass (m : Model) (h : Handle) : Error :=
  ⟨.unknown "class" (.text (m.nameOf h)), none, none⟩

/-- Adds the symbols of a member to those found, under the classes of `chain`. The symbols of a class
that is not remembered come from `descend`. -/
def addMember (m : Model) (descend : Handle → Work Error (List Handle))
    (chain found : List Handle) (k : Handle) : Work Error (List Handle) := do
  if m.isSymbolHandle k then pure (found.insert k)
  else
    match ← Work.remembered? k with
    | some symbols => pure (addSymbols symbols found)
    | none =>
      if chain.contains k then throw (m.classCycle chain k)
      else if (m.members? k).isNone then throw (m.unknownClass k)
      else return addSymbols (← descend k) found

def outOfDepth : Error := ⟨.described "Classes are nested too deeply" none, none, none⟩

/-- Collects the symbols of a class under the classes of `chain`. No chain is longer than there
are classes, which is what `depth` counts down from. -/
def collect (m : Model) : (depth : Nat) → (chain : List Handle) → Handle → Work Error (List Handle)
  | 0, _, _ => throw outOfDepth
  | depth + 1, chain, h => do
    let chain := chain ++ [h]
    let symbols ← ((m.members? h).getD []).foldlM (m.addMember (m.collect depth chain) chain) []
    Work.remember h symbols
    pure symbols

/-- The symbols behind a handle: a symbol stands for itself, also where a class has its name. -/
def resolveHandle (m : Model) (h : Handle) : Work Error (List Handle) := do
  match ← Work.remembered? h with
  | some symbols => pure symbols
  | none =>
    if m.isSymbolHandle h then pure [h]
    else if (m.members? h).isNone then throw (m.unknownClass h)
    else
      let symbols ← m.collect m.classes.length [] h
      Work.report (.classResolved (m.nameOf h))
      pure symbols

def resolveClass (m : Model) (name : String) : Work Error (List Handle) :=
  match m.handle? name with
  | some h => m.resolveHandle h
  | none => throw ⟨.unknown "class" (.text name), none, none⟩

/-- The symbols behind an index into the names. A negative index is no handle, but it names what
is missing, counting from the end. -/
def resolveIndex (m : Model) (i : Int) : Work Fault (List Handle) :=
  match m.lexicon.nameAt? i with
  | none => throw .outOfRange
  | some name =>
    if 0 ≤ i then (m.resolveHandle i.toNat).orFault
    else throw (.error ⟨.unknown "class" name, none, none⟩)

def sorted (m : Model) (handles : List Handle) : List Datum :=
  (handles.filterMap m.lexicon.name?).mergeSort fun a b => decide (a.plain ≤ b.plain)

def flattenClass (m : Model) (name : String) : Work Error (List String) := do
  return (m.sorted (← m.resolveClass name)).map Datum.plain

end Silbo.Model
