import Silbo.Expansion
import Silbo.Pool
import Silbo.Segment
import Silbo.Selection
import Silbo.Settings
import Silbo.Token.Words

/-!
Compilation of words and texts. Every word starts from silence and shares nothing with its
neighbours; a word that fails has no segments at all, and the other words of the text go on.
-/
namespace Silbo

structure Realization where
  token : Token
  selection : Selection
  templates : List SegmentTemplate

structure Utterance where
  realizations : List Realization
  segments : List Segment

structure Word where
  text : String
  position : Int
  outcome : Except Error Utterance

namespace Word

def segments (w : Word) : List Segment :=
  match w.outcome with
  | .ok u => u.segments
  | .error _ => []

/-- The length in milliseconds, summed from the left. -/
def duration (w : Word) : Except Fault Float := do
  let add (sum : Number) (s : Segment) := Fault.orTooLarge (sum.add? s.duration)
  Fault.orTooLarge (← w.segments.foldlM add (.int 0)).toFloat?

def error? (w : Word) : Option Error :=
  match w.outcome with
  | .ok _ => none
  | .error e => some e

end Word

namespace Model

def realize (m : Model) (left : Option String) (token : Token) (right : Option String) :
    Work Error Realization := do
  let entry ← Work.ofExcept (m.entryFor token.text)
  let selection ← m.select entry left right
  match selection.pronunciation? with
  | none => pure ⟨token, selection, []⟩
  | some p => pure ⟨token, selection, ← m.expand p⟩

/-- The pronunciation of the token with an index, negative ones counting from the end. The token
before it is its left neighbour unless the index is zero or negative, the one at the next index
its right neighbour. -/
def realizeIndex (m : Model) (tokens : List Token) (i : Int) : Work Fault Realization :=
  let get? := fun (i : Int) =>
    tokens[(if 0 ≤ i then i else i + tokens.length).toNat]?
  if i < -(tokens.length : Int) then throw .outOfRange
  else
    match get? i with
    | none => throw .outOfRange
    | some token =>
      let left := if 0 < i then (get? (i - 1)).map (·.text) else none
      let right := if i + 1 < tokens.length then (get? (i + 1)).map (·.text) else none
      (m.realize left token right).orFault

/-- Compiles the tokens that follow `left`; an error gets the position of its token. -/
def compileFrom (m : Model) (s : Settings) (left : Option String) (ambient : Ambient) :
    List Token → Work Error Utterance
  | [] => pure ⟨[], []⟩
  | token :: rest => do
    let (realization, segments) ← tryCatch (do
      let realization ← m.realize left token (rest.head?.map (·.text))
      let segments ← Work.ofExcept
        (m.segments s.segmentMilliseconds ambient realization.templates)
      pure (realization, segments)) fun e => throw (e.annotate none (some token.position))
    let later ← m.compileFrom s (some token.text) (ambientAfter ambient segments) rest
    pure ⟨realization :: later.realizations, segments ++ later.segments⟩

/-- Compiles the tokens of a word that is written `text` and stands at `position`. -/
def compileTokensOf (m : Model) (s : Settings) (text : String) (position : Int)
    (tokens : List Token) : Work Error Word := do
  let utterance ← tryCatch (m.compileFrom s none {} tokens) fun e =>
    throw (e.annotate (some text) none)
  Work.report (.compiled text utterance.segments.length)
  pure ⟨text, position, .ok utterance⟩

/-- Compiles a word given as tokens. It stands where its first token does, or at `position` if it
has none. -/
def compileTokens (m : Model) (s : Settings) (tokens : List Token) (position : Int := 0) :
    Work Error Word :=
  m.compileTokensOf s ("".intercalate (tokens.map (·.text)))
    ((tokens.head?.map (·.position)).getD position) tokens

def tokenizeWord (m : Model) (text : String) (position : Int := 0) :
    Except Fault (List Token) := do
  let tokens ← tokenizeBy m.boundary m.alphabet position text
  if tokens.any (·.isBoundary) then throw (.severalWords text)
  pure tokens

/-- Compiles a word given as text. An error has the word and a position. -/
def compileWord (m : Model) (s : Settings) (text : String) (position : Int := 0) :
    Work Fault Word :=
  match m.tokenizeWord text position with
  | .ok tokens => (m.compileTokensOf s text position tokens).orFault
  | .error (.error e) => throw (.error (e.annotate (some text) (some position)))
  | .error f => throw f

/-- Compiles a word; a word that fails is kept with its error. -/
def compileChunk (m : Model) (s : Settings) (position : Int) (text : String) : Work Fault Word :=
  tryCatch (m.compileWord s text position) fun
    | .error e => pure ⟨text, position, .error e⟩
    | f => throw f

def chunks (m : Model) (text : String) : Except Fault (List (Nat × String)) := do
  splitTextBy m.boundary (← normalizeBy m.boundary text)

/-- Lets a failed word pass with a report, or the first one fail the text. -/
def review (strict : Bool) : List Word → Work Fault Unit
  | [] => pure ()
  | w :: rest => do
    match w.error? with
    | none => review strict rest
    | some e =>
      if strict then throw (.error e)
      else
        Work.report (.skipped w.text e)
        review strict rest

/-- Compiles all words of a text, each of them as one task. The first error in the text is its error
if `strict`. -/
def compileTextOn (m : Model) (p : Pool) (s : Settings) (strict : Bool) (text : String) :
    Work Fault (List Word) := do
  let chunks ← Work.ofExcept (m.chunks text)
  let words ← p.mapM (fun (position, word) => m.compileChunk s position word) chunks
  review strict words
  pure words

def compileText (m : Model) : Settings → Bool → String → Work Fault (List Word) :=
  m.compileTextOn .serial

end Model

end Silbo
