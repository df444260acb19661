import Silbo.Text.CombiningClass
import Silbo.Text.Composition
import Silbo.Text.Decomposition

/-!
The composed compatibility normal form: every character is spelled out, the marks on a letter are
put in the order of their classes, and what composes is composed again.
-/
namespace Silbo.Text

/-- Puts a character before the marks of a higher class that a text begins with. -/
def insertMark (c : Char) : List Char → List Char
  | [] => [c]
  | d :: rest =>
    if combiningClass d ≠ 0 ∧ combiningClass d < combiningClass c then d :: insertMark c rest
    else c :: d :: rest

/-- Sorts every run of marks by class and keeps the order within a class. -/
def orderMarks : List Char → List Char
  | [] => []
  | c :: rest => insertMark c (orderMarks rest)

/-- Composes onto `base` whatever follows and is not blocked. The marks in `held`, last one first,
stay apart; one of them blocks a character whose class is not above its own. -/
def composeOnto (base : Char) (held : List Char) : List Char → List Char
  | [] => base :: held.reverse
  | c :: rest =>
    let blocked := held.head?.any fun d => combiningClass c ≤ combiningClass d
    match if blocked then none else compose? base c with
    | some composed => composeOnto composed held rest
    | none =>
      if combiningClass c = 0 then base :: held.reverse ++ composeOnto c [] rest
      else composeOnto base (c :: held) rest

/-- Marks before the first letter compose with nothing. -/
def composeAll : List Char → List Char
  | [] => []
  | c :: rest => if combiningClass c = 0 then composeOnto c [] rest else c :: composeAll rest

def normalForm (text : List Char) : List Char :=
  composeAll (orderMarks (text.flatMap decompose))

end Silbo.Text
