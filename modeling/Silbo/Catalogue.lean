import Silbo.Text.LowerCase
import Silbo.Table.Reader
import Silbo.Whistle
import Silbo.Workspace

/-! The models that come with the library, and building models. -/
namespace Silbo

def builtInTables : List (String × Table) := [("whistle", Whistle.table)]

def modelNames : List String := builtInTables.map (·.1)

def buildModel (t : Table) : Work ε Model := do
  Work.report (.modelBuilt t.symbols.length t.classes.length t.macros.length)
  pure (Model.ofTable t)

def readModel (config : List (String × Datum)) : Work Fault Model := do
  buildModel (← Work.ofExcept (Table.read config))

/-- A built-in model by its name, in any case and with blanks around it. -/
def loadModel (name : String) : Work Fault Model :=
  let known := String.ofList (Text.lower (Text.trim Text.isBlank name.toList))
  match builtInTables.lookup known with
  | some t => buildModel t
  | none => throw (.unknownModel name modelNames)

end Silbo
