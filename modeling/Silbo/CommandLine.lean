import Silbo.Text.Numeral

/-!
The command line: two operands, the text and the output path, and options that may stand anywhere
before a lone `--`. Long options may be cut short where that leaves one of them; short ones may be
joined. A value that is itself a lone `--` is blank, which shows only when the value is needed.
-/
namespace Silbo.CommandLine

/-- What a command is told; a blank value is `none`. -/
structure Options where
  text : String
  path : Option String
  sampleRate : Option Int
  /-- There may be no number of workers at all. -/
  workers : Option (Option Int)
  skipErrors : Bool
  verbosity : Nat
  deriving DecidableEq, Repr

/-- Why there is nothing to run: help is asked for, or the arguments make no sense. -/
inductive Usage where
  | help
  | misuse
  deriving DecidableEq, Repr

inductive Switch where
  | help
  | sampleRate
  | workers
  | skipErrors
  | verbose
  deriving DecidableEq, Repr

namespace Switch

def longNames : List (String × Switch) :=
  [("help", help), ("sample-rate", sampleRate), ("workers", workers), ("skip-errors", skipErrors),
    ("verbose", verbose)]

def ofShort? : Char → Option Switch
  | 'h' => some help
  | 'v' => some verbose
  | _ => none

def takesNumber : Switch → Bool
  | sampleRate | workers => true
  | _ => false

end Switch

/-- What an argument is, before it is known what it belongs to. -/
inductive Argument where
  | operand (text : String)
  /-- A lone `--`: everything after it is an operand. -/
  | separator (operands : List String)
  | long (switch : Switch) (value : Option (List Char))
  | short (letters : List Char)
  | unknown
  deriving DecidableEq, Repr

def splitAssignment (text : List Char) : List Char × Option (List Char) :=
  match text.dropWhile (· != '=') with
  | [] => (text, none)
  | _ :: value => (text.takeWhile (· != '='), some value)

private def isDigitText (text : List Char) : Bool :=
  text.all fun c => (Text.digitValue? c).isSome

/-- Whether what follows a hyphen makes it a negative number; a line end may close it. -/
def isNumeric (text : List Char) : Bool :=
  let text := if text.getLast? == some '\n' then text.dropLast else text
  match text.dropWhile (· != '.') with
  | [] => !text.isEmpty && isDigitText text
  | _ :: fraction =>
    isDigitText (text.takeWhile (· != '.')) && !fraction.isEmpty && isDigitText fraction

def unmatched (argument : String) (afterHyphen : List Char) : Argument :=
  if isNumeric afterHyphen || argument.contains ' ' then .operand argument else .unknown

def classifyLong (argument : String) (rest : List Char) : Except Usage Argument :=
  let (name, value) := splitAssignment rest
  match Switch.longNames.filter fun (long, _) => name.isPrefixOf long.toList with
  | [] => .ok (unmatched argument ('-' :: rest))
  | [(_, switch)] => .ok (.long switch value)
  | _ => .error .misuse

/-- Finds the short options of an argument. An equals sign may stand between the first letter and
the others. -/
def classifyShort (argument : String) (c : Char) (rest : List Char) : Argument :=
  match Switch.ofShort? c, rest with
  | none, _ => unmatched argument (c :: rest)
  | some _, '=' :: next :: more => .short (c :: next :: more)
  | some _, _ => .short (c :: rest)

def classify (argument : String) : Except Usage Argument :=
  match argument.toList with
  | '-' :: '-' :: rest => classifyLong argument rest
  | '-' :: c :: rest => .ok (classifyShort argument c rest)
  | _ => .ok (.operand argument)

/-- All arguments are told apart before any of them takes effect. -/
def classifyAll : List String → Except Usage (List Argument)
  | [] => .ok []
  | argument :: rest =>
    if argument == "--" then .ok [.separator rest]
    else do
      let kind ← classify argument
      pure (kind :: (← classifyAll rest))

structure Reading where
  operands : List (Option String) := []
  sampleRate : Option Int := some 44100
  workers : Option (Option Int) := some none
  skipErrors : Bool := false
  verbosity : Nat := 0
  /-- Something was given that has no place. -/
  surplus : Bool := false

namespace Reading

def isFull (r : Reading) : Bool := r.operands.length == 2

def operand (r : Reading) (text : Option String) : Reading :=
  if r.isFull then { r with surplus := true } else { r with operands := r.operands ++ [text] }

/-- Takes the operands behind a lone `--`. It goes with the operand directly before it, or else
with the next one; if there is none it has no place. A second `--` makes a path only if the first
one goes with it. -/
def separated (r : Reading) (afterOperand : Bool) (texts : List String) : Reading :=
  let withText := r.operands.isEmpty || afterOperand
  texts.foldl (fun r text =>
      r.operand (if withText && r.operands.length == 1 && text == "--" then none else some text))
    { r with surplus := r.surplus || (r.isFull && !afterOperand) }

def throwSwitch (r : Reading) : Switch → Except Usage Reading
  | .help => .error .help
  | .skipErrors => .ok { r with skipErrors := true }
  | .verbose => .ok { r with verbosity := r.verbosity + 1 }
  | _ => .error .misuse

def setNumber (r : Reading) (switch : Switch) (value : Option Int) : Except Usage Reading :=
  match switch with
  | .sampleRate => .ok { r with sampleRate := value }
  | .workers => .ok { r with workers := value.map some }
  | _ => .error .misuse

end Reading

def readNumber (text : List Char) : Except Usage Int :=
  (Text.readInteger text).elim (.error .misuse) .ok

def readLetters (letters : List Char) : Except Usage (List Switch) :=
  (letters.mapM Switch.ofShort?).elim (.error .misuse) .ok

/-- Goes through the arguments. `afterOperand` tells that the last one was taken as an operand. -/
def readArguments (r : Reading) (afterOperand : Bool) : List Argument → Except Usage Reading
  | [] => .ok r
  | .operand text :: rest => readArguments (r.operand text) (!r.isFull) rest
  | .separator texts :: rest => readArguments (r.separated afterOperand texts) false rest
  | .unknown :: rest => readArguments { r with surplus := true } false rest
  | .short letters :: rest => do
    readArguments (← (← readLetters letters).foldlM Reading.throwSwitch r) false rest
  | .long switch value :: rest =>
    if switch.takesNumber then
      match value with
      | some text => do
        let number ← if text == ['-', '-'] then pure none else (readNumber text).map some
        readArguments (← r.setNumber switch number) false rest
      | none =>
        match rest with
        | .operand text :: rest => do
          readArguments (← r.setNumber switch (some (← readNumber text.toList))) false rest
        | _ => .error .misuse
    else if value.isSome then .error .misuse
    else do readArguments (← r.throwSwitch switch) false rest

def parse (arguments : List String) : Except Usage Options := do
  let r ← readArguments {} false (← classifyAll arguments)
  match r.operands with
  | [some text, path] =>
    if r.surplus then throw .misuse
    else pure ⟨text, path, r.sampleRate, r.workers, r.skipErrors, r.verbosity⟩
  | _ => throw .misuse

end Silbo.CommandLine
