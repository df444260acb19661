import Silbo.Error
import Silbo.Storage
import Silbo.Text.Replacement

/-! All the ways in which a request can fail, beside errors of compilation. -/
namespace Silbo

inductive Fault where
  | error (e : Error)
  | boundaryIsSymbol (boundary : Datum)
  | constantNotNumber (name : String) (value : Datum)
  | contextNotPair (value : Datum)
  | itemNotPronounceable (value : Datum)
  | unknownModel (name : String) (available : List String)
  | unknownEasing (curve : String) (available : List String)
  | severalWords (text : String)
  | emptySeparator
  | template (e : Text.TemplateError)
  /-- A whole number is wanted and there is no number at all. -/
  | notANumber
  | negativeLength
  | lengthBeyondWords
  | stepsBeyondWords
  | bytesBeyondWords
  /-- A sample rate that comes to no positive whole number. -/
  | noSampleRate
  | wrongType
  | notTable
  | outOfRange
  | noSuchKey
  /-- Two rows of numbers that are combined one by one and differ in length. -/
  | unequalLengths (first second : Nat)
  /-- Nested lists that have one length at each of some levels, but not at all of them. -/
  | irregular (lengths : List Nat)
  | tooManyLevels (limit : Nat)
  | zeroRate
  | tooLarge
  | noShape
  /-- A number that the fields of a wave header cannot hold. -/
  | headerOverflow
  /-- The system that keeps the files does not do what is asked of it. -/
  | refused (r : Refusal)

namespace Fault

/-- Lengths between parentheses; a single one has a comma behind it. -/
def shapeText (lengths : List Nat) : String :=
  "(" ++ ", ".intercalate (lengths.map toString) ++ (if lengths.length == 1 then ",)" else ")")

def message? : Fault → Option String
  | error e => some e.message
  | boundaryIsSymbol boundary =>
    some ("Word boundary " ++ boundary.quoted ++ " collides with a symbol")
  | constantNotNumber name value =>
    some ("Constant '" ++ name ++ "' must be numeric, got " ++ value.quoted)
  | contextNotPair value =>
    some ("A context must be a (left, right) pair, got " ++ value.quoted)
  | itemNotPronounceable value =>
    some ("Pronunciation items must be macro names or segments, got " ++ value.quoted)
  | unknownModel name available =>
    some ("Unknown acoustic model '" ++ name ++ "'. Available: " ++ ", ".intercalate available)
  | unknownEasing curve available =>
    some ("Unknown easing curve '" ++ curve ++ "'. Available: " ++ ", ".intercalate available)
  | severalWords text => some ("Expected a single word, got " ++ Text.quoted text)
  | emptySeparator => some "empty separator"
  | template e =>
    match e.problem with
    | .namedGroup => none
    | _ => some e.message
  | notANumber => some "cannot convert float NaN to integer"
  | negativeLength => some "negative dimensions are not allowed"
  | lengthBeyondWords => some "Maximum allowed dimension exceeded"
  | stepsBeyondWords => some "Maximum allowed size exceeded"
  | bytesBeyondWords =>
    some ("array is too big; `arr.size * arr.dtype.itemsize` is larger than the maximum " ++
      "possible size.")
  | noSampleRate => some "sampling rate not specified"
  | refused r => some r.message
  | unequalLengths first second =>
    some ("operands could not be broadcast together with shapes " ++ shapeText [first] ++ " " ++
      shapeText [second] ++ " ")
  | irregular lengths =>
    some ("setting an array element with a sequence. The requested array has an inhomogeneous " ++
      "shape after " ++ toString lengths.length ++ " dimensions. The detected shape was " ++
      shapeText lengths ++ " + inhomogeneous part.")
  | tooManyLevels limit =>
    some ("setting an array element with a sequence. The requested array would exceed the " ++
      "maximum number of dimension of " ++ toString limit ++ ".")
  | _ => none

def orTooLarge (value : Option α) : Except Fault α := value.elim (.error .tooLarge) .ok

end Fault

end Silbo
