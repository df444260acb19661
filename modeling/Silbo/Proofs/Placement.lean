import Silbo.Proofs.History
import Silbo.Proofs.Words

/-!
Where the tokens of a word stand. The tokens of a text without the boundary are written one after
the other from its position on, so that a word is compiled from its tokens just as from its text.
-/
namespace Silbo

theorem exists_of_mapM_error {f : α → Except ε β} {as : List α} (h : as.mapM f = .error e) :
    ∃ a ∈ as, f a = .error e := by
  induction as with
  | nil => cases h
  | cons a as ih =>
    rw [List.mapM_cons] at h
    cases ha : f a with
    | error e' =>
      rw [ha] at h
      cases h
      exact ⟨a, List.mem_cons_self, ha⟩
    | ok b =>
      cases hr : as.mapM f with
      | error e' =>
        rw [ha, hr] at h
        cases h
        obtain ⟨c, hc, he⟩ := ih hr
        exact ⟨c, List.mem_cons_of_mem a hc, he⟩
      | ok bs =>
        rw [ha, hr] at h
        cases h

theorem textOf_error (h : textOf d = .error f) : f = .wrongType := by
  cases d <;> cases h <;> rfl

theorem tokenizeBy_cases (boundary : Datum) (symbols : List Datum) (offset : Int) (text : String) :
    tokenizeBy boundary symbols offset text = .error .wrongType ∨
      text = "" ∧ tokenizeBy boundary symbols offset text = .ok [] ∨
      ∃ (b : String) (alphabet : List String),
        boundary = .text b ∧ symbols = alphabet.map .text := by
  unfold tokenizeBy
  cases hs : symbols.mapM textOf with
  | error f =>
    obtain ⟨d, _, hd⟩ := exists_of_mapM_error hs
    rw [textOf_error hd]
    exact .inl rfl
  | ok alphabet =>
    by_cases he : text = ""
    · subst he
      exact .inr (.inl ⟨rfl, rfl⟩)
    cases boundary with
    | text b => exact .inr (.inr ⟨b, alphabet, rfl, mapM_textOf.1 hs⟩)
    | _ =>
      left
      show (if text.isEmpty = true then _ else _) = _
      rw [if_neg (by rwa [String.isEmpty_iff])]
      rfl

namespace Model
open Work

/-- The boundary, if it is a text, is nowhere in a text. -/
def Unbroken (m : Model) (text : String) : Prop :=
  ∀ boundary, m.boundary = .text boundary → ¬ boundary.toList <:+: text.toList

variable {m : Model}

theorem Unbroken.munches (hw : m.Unbroken word) (h : m.tokenizeWord word position = .ok tokens) :
    ∃ boundary alphabet, Munches boundary alphabet [] position word.toList tokens := by
  rcases tokenizeBy_cases m.boundary m.alphabet position word with
    hf | ⟨rfl, hnil⟩ | ⟨boundary, alphabet, hb, ha⟩
  · unfold tokenizeWord at h
    rw [hf] at h
    cases h
  · unfold tokenizeWord at h
    rw [hnil] at h
    cases h
    exact ⟨[], [], .done⟩
  · rw [tokenizeWord_eq hb ha (hw boundary hb), mapError_eq_ok,
      tokenize_word (hw boundary hb)] at h
    exact ⟨_, _, munches_of_scan h⟩

/-- A word comes to the same by its text and by its tokens: they spell it, and the first of them
stands where it does. -/
theorem compileWord_eq_compileTokens (m : Model) (s : Settings) (word : String) (position : Int)
    (history history' : List Request) (hw : m.Unbroken word)
    (h : m.tokenizeWord word position = .ok tokens) :
    (m.compileWord s word position).outcome (m.after history) =
      ((m.compileTokens s tokens position).outcome (m.after history')).mapError Fault.error ∧
      "".intercalate (tokens.map (·.text)) = word ∧
      ∀ first, tokens.head? = some first → first.position = position := by
  obtain ⟨boundary, alphabet, hm⟩ := hw.munches h
  have htext : "".intercalate (tokens.map (·.text)) = word := by
    rw [hm.intercalate_text, String.ofList_toList]
  have hfirst : ∀ first, tokens.head? = some first → first.position = position :=
    fun first => hm.position_head?
  have hposition : (tokens.head?.map (·.position)).getD position = position := by
    cases hh : tokens.head? with
    | none => rfl
    | some first => exact hfirst first hh
  have hsteady := compileTokensOf_steady m s word position tokens
  refine ⟨?_, htext, hfirst⟩
  unfold compileWord compileTokens
  rw [h, htext, hposition, ← outcome_orFault, outcome_after hsteady.orFault,
    outcome_after hsteady.orFault]

/-- The symbol `ch` begins with `c`, for which there is no entry. -/
def digraph : Table where
  symbols := [.text "c", .text "ch", .text "a"]
  graphemes := [("ch", {}), ("a", {})]

theorem compileWord_eq_compileTokens_digraph :
    (ofTable digraph).Unbroken "chac" ∧
      (ofTable digraph).tokenizeWord "chac" 3 =
        .ok [⟨"ch", false, 3⟩, ⟨"a", false, 5⟩, ⟨"c", false, 6⟩] ∧
      ((ofTable digraph).compileWord {} "chac" 3).outcome ((ofTable digraph).after []) =
        (((ofTable digraph).compileTokens {}
          [⟨"ch", false, 3⟩, ⟨"a", false, 5⟩, ⟨"c", false, 6⟩] 3).outcome
            ((ofTable digraph).after [])).mapError Fault.error ∧
      (⟨"ch", false, 3⟩ : Token).position = 3 := by
  have hw : (ofTable digraph).Unbroken "chac" := by
    intro boundary hb
    cases hb
    decide
  have htokens : (ofTable digraph).tokenizeWord "chac" 3 =
      .ok [⟨"ch", false, 3⟩, ⟨"a", false, 5⟩, ⟨"c", false, 6⟩] := by with_unfolding_all rfl
  obtain ⟨hsame, _, hfirst⟩ := compileWord_eq_compileTokens _ {} "chac" 3 [] [] hw htokens
  exact ⟨hw, htokens, hsame, hfirst ⟨"ch", false, 3⟩ rfl⟩

end Model

end Silbo
