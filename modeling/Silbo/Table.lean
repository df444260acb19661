import Silbo.Datum
import Silbo.Template

/-! Rule tables by name: what a model is built from. -/
namespace Silbo

/-- One case of a symbol's pronunciation: the names on both sides, the empty name standing for the
edge of the word. A case without a pronunciation drops the symbol. -/
structure ContextRule where
  left : String
  right : String
  pronunciation : Option Pronunciation

/-- How a symbol is pronounced: in the first context that fits, or elsewhere. -/
structure Grapheme where
  elsewhere : Option Pronunciation := none
  rules : List ContextRule := []

/-- A macro may be declared without a body; it stands for nothing then. -/
structure Table where
  boundary : Datum := .text " "
  symbols : List Datum
  classes : List (String × List String) := []
  constants : List (String × Float) := []
  macros : List (String × Option (List Item)) := []
  graphemes : List (String × Grapheme)

end Silbo
