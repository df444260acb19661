import Silbo.Error

/-!
Tokens, and cutting a text into them. The scan takes a word boundary where one begins and the
longest symbol elsewhere; then of several boundaries in a row the first stays, and of those at an
end of the text none.
-/
namespace Silbo

/-- A symbol or a word boundary, with the offset of its first character. -/
structure Token where
  text : String
  isBoundary : Bool := false
  position : Int := 0
  deriving DecidableEq, Repr, Inhabited

/-- The longest symbol that a text begins with. The empty symbol is never taken. -/
def longestSymbol (alphabet : List (List Char)) (text : List Char) : Option (List Char) :=
  alphabet.foldl (fun best s =>
    if s.isPrefixOf text && (best.getD []).length < s.length then some s else best) none

/-- Every boundary and every symbol of a text, up to the first character that begins neither. -/
def scan (boundary : List Char) (alphabet : List (List Char)) (position : Int) :
    List Char → Except Error (List Token)
  | [] => .ok []
  | c :: rest =>
    if !boundary.isEmpty && boundary.isPrefixOf (c :: rest) then do
      let tokens ← scan boundary alphabet (position + boundary.length)
        (rest.drop (boundary.length - 1))
      pure (⟨String.ofList boundary, true, position⟩ :: tokens)
    else
      match longestSymbol alphabet (c :: rest) with
      | some s => do
        let tokens ← scan boundary alphabet (position + s.length) (rest.drop (s.length - 1))
        pure (⟨String.ofList s, false, position⟩ :: tokens)
      | none =>
        .error ⟨.unknown "character" (.text (String.singleton c)), none, some position⟩
termination_by text => text.length
decreasing_by all_goals simp only [List.length_cons, List.length_drop]; omega

/-- Puts the boundary that is held back before the next symbol, if one comes. -/
def squeezeAfter (held : Option Token) : List Token → List Token
  | [] => []
  | t :: rest =>
    if t.isBoundary then squeezeAfter (held.or (some t)) rest
    else held.toList ++ t :: squeezeAfter none rest

/-- Keeps one boundary between two symbols and none outside. -/
def squeeze (tokens : List Token) : List Token :=
  squeezeAfter none (tokens.dropWhile (·.isBoundary))

/-- Cuts a text into tokens. Their positions count from `offset`. -/
def tokenize (boundary : String) (alphabet : List String) (offset : Int) (text : String) :
    Except Error (List Token) :=
  (scan boundary.toList (alphabet.map String.toList) offset text.toList).map squeeze

end Silbo
