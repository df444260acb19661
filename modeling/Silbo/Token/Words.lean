import Silbo.Fault
import Silbo.Text.Normalized
import Silbo.Token

/-! Words, found among the tokens of a text or in the text itself. -/
namespace Silbo

/-- Cuts a list at the members of a kind and leaves those out. -/
def splitWhere (p : α → Bool) : List α → List (List α)
  | [] => [[]]
  | a :: rest =>
    if p a then [] :: splitWhere p rest
    else
      match splitWhere p rest with
      | part :: parts => (a :: part) :: parts
      | [] => [[a]]

def wordsOf (tokens : List Token) : List (List Token) :=
  (splitWhere (·.isBoundary) tokens).filter (!·.isEmpty)

/-- Cuts a text at each separator, from the left. An empty separator is found nowhere. -/
def cut (separator : List Char) : List Char → List (List Char)
  | [] => [[]]
  | c :: rest =>
    if !separator.isEmpty && separator.isPrefixOf (c :: rest) then
      [] :: cut separator (rest.drop (separator.length - 1))
    else
      match cut separator rest with
      | piece :: pieces => (c :: piece) :: pieces
      | [] => [[c]]
termination_by text => text.length
decreasing_by all_goals simp only [List.length_cons, List.length_drop]; omega

/-- Gives each piece its offset, `gap` characters lying between two, and drops the empty ones. -/
def placed (gap offset : Nat) : List (List Char) → List (Nat × List Char)
  | [] => []
  | piece :: pieces =>
    let later := placed gap (offset + piece.length + gap) pieces
    if piece.isEmpty then later else (offset, piece) :: later

def splitText (separator text : String) : Except Fault (List (Nat × String)) :=
  if separator.isEmpty then .error .emptySeparator
  else
    .ok ((placed separator.length 0 (cut separator.toList text.toList)).map fun (offset, word) =>
      (offset, String.ofList word))

/-- A text, where nothing else will do. -/
def textOf : Datum → Except Fault String
  | .text s => .ok s
  | _ => .error .wrongType

/-- Cuts a text into tokens by symbols and a boundary of any kind. All symbols have to be texts,
and the boundary has to be one unless there is nothing to cut. -/
def tokenizeBy (boundary : Datum) (symbols : List Datum) (offset : Int) (text : String) :
    Except Fault (List Token) := do
  let alphabet ← symbols.mapM textOf
  if text.isEmpty then pure []
  else (tokenize (← textOf boundary) alphabet offset text).mapError Fault.error

/-- Cuts a text at a boundary of any kind. Null stands for white space, but a text with words has
no offsets then. -/
def splitTextBy (boundary : Datum) (text : String) : Except Fault (List (Nat × String)) :=
  match boundary with
  | .text separator => splitText separator text
  | .null => if text.toList.all Text.isBlank then .ok [] else .error .wrongType
  | _ => .error .wrongType

def normalizeBy (boundary : Datum) (text : String) : Except Fault String := do
  (Text.normalize (← textOf boundary) text).mapError Fault.template

def textToWords (boundary : Datum) (symbols : List Datum) (text : String) :
    Except Fault (List (List Token)) := do
  let tokens ← tokenizeBy boundary symbols 0 (← normalizeBy boundary text)
  pure (wordsOf tokens)

end Silbo
