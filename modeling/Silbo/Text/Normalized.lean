import Silbo.Text.LowerCase
import Silbo.Text.NormalForm
import Silbo.Text.Replacement

/-!
Text in the one spelling that is read for symbols: composed, lower-case, with every run of white
space put as one word boundary. The boundary serves as a replacement template, its last character
as the one that may repeat, and its characters as what is cut from both ends.
-/
namespace Silbo.Text

/-- Replaces each longest run of characters of a kind. `run` is the run so far, last one first. -/
def replaceRuns (kind : Char → Bool) (put : List Char → List Char) (run : List Char) :
    List Char → List Char
  | [] => if run.isEmpty then [] else put run.reverse
  | c :: rest =>
    if kind c then replaceRuns kind put (c :: run) rest
    else (if run.isEmpty then [] else put run.reverse) ++ c :: replaceRuns kind put [] rest

/-- The number of characters that `lead` followed by one or more of `last` takes at the front. -/
def repeatedLength (lead : List Char) (last : Char) (text : List Char) : Nat :=
  if lead.isPrefixOf text then
    match ((text.drop lead.length).takeWhile (· == last)).length with
    | 0 => 0
    | n + 1 => lead.length + (n + 1)
  else 0

/-- Replaces each occurrence of `lead` with one or more of `last` behind it. -/
def replaceRepeats (lead : List Char) (last : Char) (put : List Char → List Char) :
    List Char → List Char
  | [] => []
  | c :: rest =>
    match repeatedLength lead last (c :: rest) with
    | 0 => c :: replaceRepeats lead last put rest
    | n + 1 => put (c :: rest.take n) ++ replaceRepeats lead last put (rest.drop n)
termination_by text => text.length
decreasing_by all_goals simp only [List.length_cons, List.length_drop]; omega

/-- Joins adjacent boundaries into one; a boundary of white space alone is single already. -/
def joinBoundaries (boundary : List Char) (put : List Char → List Char) (text : List Char) :
    List Char :=
  match boundary.getLast? with
  | none => text
  | some last =>
    if boundary.all isBlank then text else replaceRepeats boundary.dropLast last put text

def folded (text : List Char) : List Char := lower (normalForm text)

def normalizeChars (boundary text : List Char) : Except TemplateError (List Char) := do
  let put := fill (← readTemplate boundary)
  let spaced := replaceRuns isBlank put [] (folded text)
  pure (trim boundary.contains (joinBoundaries boundary put spaced))

def normalize (boundary text : String) : Except TemplateError String :=
  (normalizeChars boundary.toList text.toList).map String.ofList

end Silbo.Text
