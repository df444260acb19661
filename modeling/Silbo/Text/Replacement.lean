import Silbo.Text.Identifier
import Silbo.Text.Numeral
import Silbo.Text.Quoted

/-!
Replacement templates: text to be put in the place of a match, in which a backslash begins an
escape or a reference to the match. Templates are read as a whole before anything is replaced.
-/
namespace Silbo.Text

/-- A part of a replacement: text as it stands, or the replaced text itself. -/
inductive ReplacementPart where
  | literal (text : List Char)
  | whole
  deriving DecidableEq, Repr

inductive TemplateProblem where
  | danglingBackslash
  | badEscape (c : Char)
  | missingBracket
  | missingName
  | unclosedName
  | badName (name : String)
  /-- A name, where a match has numbered groups only. -/
  | namedGroup
  | absentGroup (number : Nat)
  | octalTooLarge (digits : List Char)
  deriving DecidableEq, Repr

/-- What is wrong with a template, and at which of its characters. -/
structure TemplateError where
  problem : TemplateProblem
  position : Nat
  template : List Char
  deriving DecidableEq, Repr

def TemplateProblem.text : TemplateProblem → String
  | danglingBackslash => "bad escape (end of pattern)"
  | badEscape c => "bad escape \\" ++ String.singleton c
  | missingBracket => "missing <"
  | missingName => "missing group name"
  | unclosedName => "missing >, unterminated name"
  | badName name => "bad character in group name " ++ quoted name
  | namedGroup => "unknown group name"
  | absentGroup number => "invalid group reference " ++ toString number
  | octalTooLarge digits =>
    "octal escape value \\" ++ String.ofList digits ++ " outside of range 0-0o377"

/-- A template of several lines has the line and the column added. -/
def TemplateError.message (e : TemplateError) : String :=
  let before := e.template.take e.position
  let place := e.problem.text ++ " at position " ++ toString e.position
  if e.template.contains '\n' then
    place ++ " (line " ++ toString (before.count '\n' + 1) ++ ", column " ++
      toString ((before.reverse.takeWhile (· != '\n')).length + 1) ++ ")"
  else place

/-- A template is read in units: a character, or a backslash with the character after it. -/
inductive TemplateUnit where
  | plain (c : Char)
  | escaped (c : Char)
  | dangling
  deriving DecidableEq, Repr

def TemplateUnit.text : TemplateUnit → List Char
  | plain c => [c]
  | escaped c => ['\\', c]
  | dangling => ['\\']

def templateUnits : List Char → List TemplateUnit
  | [] => []
  | ['\\'] => [.dangling]
  | '\\' :: c :: rest => .escaped c :: templateUnits rest
  | c :: rest => .plain c :: templateUnits rest

/-- The units still to be read, with the number of characters before them. -/
structure TemplateRest where
  units : List TemplateUnit
  position : Nat

abbrev TemplateReader := Except (TemplateProblem × Nat)

/-- Takes the next unit. A dangling backslash is met as soon as it comes next. -/
def TemplateRest.next? (r : TemplateRest) : TemplateReader (Option (TemplateUnit × TemplateRest)) :=
  match r.units with
  | [] => pure none
  | [.dangling] => throw (.danglingBackslash, r.position)
  | [u, .dangling] => throw (.danglingBackslash, r.position + u.text.length)
  | u :: rest => pure (some (u, ⟨rest, r.position + u.text.length⟩))

private def octalValue (digits : List Char) : Nat :=
  digits.foldl (fun n c => 8 * n + (c.toNat - '0'.toNat)) 0

private def isOctal (c : Char) : Bool := '0' ≤ c && c ≤ '7'

/-- Takes the next unit if it is a plain character of the given kind. -/
def TemplateRest.takeIf (r : TemplateRest) (kind : Char → Bool) :
    TemplateReader (Option Char × TemplateRest) :=
  match r.units with
  | .plain c :: _ => do
    if kind c then
      match ← r.next? with
      | some (_, rest) => pure (some c, rest)
      | none => pure (none, r)
    else pure (none, r)
  | _ => pure (none, r)

def TemplateRest.takeName (r : TemplateRest) (name : List Char) :
    Nat → TemplateReader (List Char × TemplateRest)
  | 0 => throw (.unclosedName, r.position - name.length)
  | fuel + 1 => do
    match ← r.next? with
    | none =>
      if name.isEmpty then throw (.missingName, r.position)
      else throw (.unclosedName, r.position - name.length)
    | some (.plain '>', rest) =>
      if name.isEmpty then throw (.missingName, r.position) else pure (name, rest)
    | some (u, rest) => rest.takeName (name ++ u.text) fuel

/-- What a group name stands for. Only the whole match can be referred to. -/
def groupPart (name : List Char) (position : Nat) : TemplateReader ReplacementPart :=
  if isIdentifier name then throw (.namedGroup, position)
  else
    match readInteger name with
    | some (.ofNat 0) => pure .whole
    | some (.ofNat n) => throw (.absentGroup n, position)
    | _ => throw (.badName (String.ofList name), position)

def escapeValue? : Char → Option Char
  | 'a' => some (Char.ofNat 7)
  | 'b' => some (Char.ofNat 8)
  | 'f' => some (Char.ofNat 12)
  | 'n' => some '\n'
  | 'r' => some '\r'
  | 't' => some '\t'
  | 'v' => some (Char.ofNat 11)
  | '\\' => some '\\'
  | _ => none

/-- Reads what follows the digit of an escape: a number of a group, or three octal digits. -/
def TemplateRest.takeNumber (start : Nat) (first : Char) (r : TemplateRest) :
    TemplateReader (ReplacementPart × TemplateRest) := do
  let (second, r) ← r.takeIf Char.isDigit
  match second with
  | none => throw (.absentGroup (first.toNat - '0'.toNat), start + 1)
  | some second =>
    let number := 10 * (first.toNat - '0'.toNat) + (second.toNat - '0'.toNat)
    if isOctal first && isOctal second then
      let (third, r) ← r.takeIf isOctal
      match third with
      | none => throw (.absentGroup number, start + 1)
      | some third =>
        let value := octalValue [first, second, third]
        if 0o377 < value then throw (.octalTooLarge [first, second, third], start)
        else pure (.literal [Char.ofNat value], r)
    else throw (.absentGroup number, start + 1)

/-- Reads the escape that begins at `start` with the character `c`, of which `r` is the rest. -/
def TemplateRest.takeEscape (start : Nat) (c : Char) (r : TemplateRest) :
    TemplateReader (ReplacementPart × TemplateRest) := do
  if c = 'g' then
    let (bracket, r) ← r.takeIf (· == '<')
    if bracket.isNone then throw (.missingBracket, r.position)
    let (name, rest) ← r.takeName [] (r.units.length + 1)
    pure (← groupPart name r.position, rest)
  else if c = '0' then
    let (second, r) ← r.takeIf isOctal
    let (third, r) ← if second.isSome then r.takeIf isOctal else pure (none, r)
    pure (.literal [Char.ofNat (octalValue (second.toList ++ third.toList) % 256)], r)
  else if c.isDigit then r.takeNumber start c
  else
    match escapeValue? c with
    | some value => pure (.literal [value], r)
    | none =>
      if c.isAlpha then throw (.badEscape c, start) else pure (.literal ['\\', c], r)

def TemplateRest.parts (r : TemplateRest) : Nat → TemplateReader (List ReplacementPart)
  | 0 => pure []
  | fuel + 1 => do
    match ← r.next? with
    | none => pure []
    | some (.escaped c, rest) =>
      let (part, rest) ← rest.takeEscape r.position c
      pure (part :: (← rest.parts fuel))
    | some (u, rest) => pure (.literal u.text :: (← rest.parts fuel))

def readTemplate (template : List Char) : Except TemplateError (List ReplacementPart) :=
  let units := templateUnits template
  match (TemplateRest.mk units 0).parts (units.length + 1) with
  | .ok parts => .ok parts
  | .error (problem, position) => .error ⟨problem, position, template⟩

def fill (parts : List ReplacementPart) (found : List Char) : List Char :=
  parts.flatMap fun
    | .literal text => text
    | .whole => found

end Silbo.Text
