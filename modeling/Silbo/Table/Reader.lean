import Silbo.Table
import Silbo.Template.Reader

/-! Reading a rule table from a configuration. -/
namespace Silbo.Table

/-- The fields of a table in a configuration; one that is left out is empty. -/
def fieldsOf (value : Option Datum) : Except Fault (List (String × Datum)) :=
  match value with
  | none => .ok []
  | some (.table fields) => .ok fields
  | some _ => .error .notTable

def membersOf (value : Datum) : Except Fault (List Datum) :=
  value.members?.elim (.error .wrongType) .ok

/-- The declared symbols, or the names of the graphemes if none are declared. -/
def readSymbols (declared graphemes : Option Datum) : Except Fault (List Datum) :=
  match declared with
  | some d =>
    if d.isVoid then (fieldsOf graphemes).map fun fields => fields.map fun (name, _) => .text name
    else membersOf d
  | none => (fieldsOf graphemes).map fun fields => fields.map fun (name, _) => .text name

def readClass (members : Datum) : Except Fault (List String) :=
  (membersOf members).map fun members => members.map Datum.plain

def readConstant (name : String) (value : Datum) : Except Fault Float :=
  match value with
  | .number n =>
    match n.toFloat? with
    | some x => .ok x
    | none => .error .tooLarge
  | d => .error (.constantNotNumber name d)

def readBody (value : Datum) : Except Fault (Option (List Item)) :=
  (Pronunciation.read? value).map fun p => p.map (·.items)

def readContext (value : Datum) : Except Fault (String × String) :=
  match value with
  | .list [left, right] => .ok (left.plain, right.plain)
  | d => .error (.contextNotPair d)

def readRule (value : Datum) : Except Fault ContextRule :=
  match value with
  | .table fields => do
    let (left, right) ← readContext ((fields.lookup "context").getD .null)
    pure ⟨left, right, ← Pronunciation.read? ((fields.lookup "pronunciation").getD .null)⟩
  | _ => .error .notTable

def readGrapheme (value : Datum) : Except Fault Grapheme :=
  match value with
  | .table fields => do
    let rules ← (← membersOf ((fields.lookup "contexts").getD (.list []))).mapM readRule
    pure ⟨← Pronunciation.read? ((fields.lookup "elsewhere").getD .null), rules⟩
  | _ => .error .notTable

def readEntries (value : Option Datum) (read : String → Datum → Except Fault α) :
    Except Fault (List (String × α)) := do
  (← fieldsOf value).mapM fun (name, d) => do pure (name, ← read name d)

/-- Reads a configuration. No symbol may be the word boundary, and in the end no symbol a list or
a table. -/
def read (config : List (String × Datum)) : Except Fault Table := do
  let boundary := (config.lookup "wordBoundary").getD (.text " ")
  let symbols ← readSymbols (config.lookup "symbols") (config.lookup "graphemes")
  if symbols.any (· == boundary) then throw (.boundaryIsSymbol boundary)
  let classes ← readEntries (config.lookup "classes") fun _ d => readClass d
  let constants ← readEntries (config.lookup "constants") readConstant
  let macros ← readEntries (config.lookup "macros") fun _ d => readBody d
  let graphemes ← readEntries (config.lookup "graphemes") fun _ d => readGrapheme d
  if !symbols.all Datum.isPlain then throw .wrongType
  pure ⟨boundary, symbols, classes, constants, macros, graphemes⟩

end Silbo.Table
