import Silbo.Datum

/-!
Failures to compile a word, and flaws of the tables behind them. An error says what went wrong;
the word and the position are added on its way out, and the first ones given stay.
-/
namespace Silbo

/-- What is wrong with a segment template or with a motion in it. -/
inductive Flaw where
  | notQuantity (field : String)
  | motionNotTable (kindName : String)
  | unknownMotion (kind : String)
  | unexpectedMotionFields (kind : String) (fields : List String)
  | unknownCurve (curve : String)
  | unexpectedSegmentFields (fields : List String)
  | badDuration (value : Datum)
  | missing (kind field : String)
  | unknownConstant (name : String)
  | described (text : String) (name : Option String)

inductive Cause where
  | unknown (kind : String) (name : Datum)
  /-- Entries of a table that refer to each other in a circle; the last is the first again. -/
  | cycle (kind : String) (chain : List String)
  | malformed (flaw : Flaw)
  | described (text : String) (name : Option String)

namespace Flaw

def text : Flaw → String
  | notQuantity field => "Field '" ++ field ++ "' must be a number or constant name"
  | motionNotTable kindName => "Trajectory must be a mapping, got " ++ kindName
  | unknownMotion kind => "Unknown trajectory kind '" ++ kind ++ "'"
  | unexpectedMotionFields kind fields =>
    "Unexpected fields for " ++ kind ++ " trajectory: " ++ ", ".intercalate fields
  | unknownCurve curve => "Unknown easing curve '" ++ curve ++ "'"
  | unexpectedSegmentFields fields => "Unexpected segment fields: " ++ ", ".intercalate fields
  | badDuration value => "Segment duration must be a non-negative number, got " ++ value.quoted
  | missing kind field => kind ++ " trajectory is missing '" ++ field ++ "'"
  | unknownConstant name => "Unknown constant '" ++ name ++ "'"
  | described text _ => text

def name : Flaw → Option String
  | notQuantity field => some field
  | motionNotTable _ => none
  | unknownMotion kind => some kind
  | unexpectedMotionFields kind _ => some kind
  | unknownCurve curve => some curve
  | unexpectedSegmentFields _ => none
  | badDuration _ => none
  | missing _ field => some field
  | unknownConstant name => some name
  | described _ name => name

end Flaw

namespace Cause

def text : Cause → String
  | unknown kind name => "Unknown " ++ kind ++ " '" ++ name.plain ++ "'"
  | cycle kind chain =>
    "Reference cycle in " ++ kind ++ " table: " ++ " -> ".intercalate chain
  | malformed flaw => flaw.text
  | described text _ => text

def name : Cause → Option Datum
  | unknown _ .null => none
  | unknown _ name => some name
  | cycle _ chain => chain.getLast?.map .text
  | malformed flaw => flaw.name.map .text
  | described _ name => name.map .text

end Cause

structure Error where
  cause : Cause
  word : Option String := none
  position : Option Int := none

namespace Error

def name (e : Error) : Option Datum := e.cause.name

/-- Adds a word and a position where the error has none yet. -/
def annotate (e : Error) (word : Option String) (position : Option Int) : Error :=
  { e with word := e.word.or word, position := e.position.or position }

def details (e : Error) : List String :=
  (e.word.map fun w => "word=" ++ Text.quoted w).toList ++
    (e.position.map fun p => "position=" ++ toString p).toList ++
    (e.name.map fun n => "name=" ++ n.quoted).toList

def message (e : Error) : String :=
  if e.details.isEmpty then e.cause.text
  else e.cause.text ++ " (" ++ ", ".intercalate e.details ++ ")"

end Error

end Silbo
