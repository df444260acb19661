import Silbo.Proofs.Closure

/-!
Spelling undone. If no symbol begins another and none shares a character with the boundary, words
can be spelled out and joined by the boundary, and a scan finds each symbol again where it was
written.
-/
namespace Silbo

/-- Symbols of which none begins another, and a boundary that has no character of theirs. -/
structure Decodable (boundary : String) (alphabet : List String) : Prop where
  boundary_ne : boundary ≠ ""
  symbol_ne : ∀ s ∈ alphabet, s ≠ ""
  prefixFree : ∀ s ∈ alphabet, ∀ t ∈ alphabet, s.toList <+: t.toList → s = t
  apart : ∀ s ∈ alphabet, ∀ c ∈ s.toList, c ∉ boundary.toList

def spell (word : List String) : String := "".intercalate word

def written (position : Int) : List String → List Token
  | [] => []
  | s :: word => ⟨s, false, position⟩ :: written (position + s.length) word

def writtenWords (gap : Nat) (position : Int) : List (List String) → List (List Token)
  | [] => []
  | word :: words =>
    written position word :: writtenWords gap (position + (spell word).length + gap) words

def letters (word : List String) : List Char := word.flatMap String.toList

variable {boundary : String} {alphabet word : List String} {words : List (List String)}
variable {rest later : List Char} {position : Int} {tokens : List Token}

section Symbols

theorem Decodable.takes (h : Decodable boundary alphabet) (hs : s ∈ alphabet) (rest : List Char) :
    Takes boundary.toList (alphabet.map String.toList) (s.toList ++ rest) s.toList false := by
  have hne : s.toList ≠ [] := by
    rw [ne_eq, String.toList_eq_nil_iff]
    exact h.symbol_ne s hs
  apply Takes.symbol
  · rintro ⟨hb, hbegins⟩
    obtain ⟨b, bs, hboundary⟩ := List.exists_cons_of_ne_nil hb
    obtain ⟨c, cs, hsymbol⟩ := List.exists_cons_of_ne_nil hne
    rw [hboundary, hsymbol, List.cons_append, List.cons_prefix_cons] at hbegins
    apply h.apart s hs c
    · simp [hsymbol]
    · simp [hboundary, hbegins.1]
  · refine ⟨List.mem_map_of_mem hs, hne, List.prefix_append _ _, ?_⟩
    intro other hother hbegins
    obtain ⟨t, ht, rfl⟩ := List.mem_map.1 hother
    rcases List.prefix_or_prefix_of_prefix hbegins (List.prefix_append s.toList rest) with hp | hp
    · exact hp.length_le
    · rw [h.prefixFree s hs t ht hp]

theorem Decodable.munches_symbol (h : Decodable boundary alphabet) (hs : s ∈ alphabet)
    (hl : Munches boundary.toList (alphabet.map String.toList) rest (position + s.length) later
      tokens) :
    Munches boundary.toList (alphabet.map String.toList) rest position (s.toList ++ later)
      (⟨s, false, position⟩ :: tokens) := by
  rw [← String.length_toList] at hl
  have htakes := h.takes hs (later ++ rest)
  rw [← List.append_assoc] at htakes
  have hmunches := Munches.take htakes hl
  rwa [String.ofList_toList] at hmunches

end Symbols

section Words

theorem toList_spell (word : List String) : (spell word).toList = letters word := by
  rw [spell, intercalate_empty, String.toList_ofList, letters]

theorem length_spell (word : List String) : (spell word).length = (letters word).length := by
  rw [← toList_spell, String.length_toList]

theorem letters_cons (s : String) (word : List String) :
    letters (s :: word) = s.toList ++ letters word := by
  simp [letters]

theorem Decodable.munches_written (h : Decodable boundary alphabet) (hw : ∀ s ∈ word, s ∈ alphabet)
    (hl : Munches boundary.toList (alphabet.map String.toList) rest
      (position + (letters word).length) later tokens) :
    Munches boundary.toList (alphabet.map String.toList) rest position (letters word ++ later)
      (written position word ++ tokens) := by
  induction word generalizing position with
  | nil => simpa [letters, written] using hl
  | cons s word ih =>
    rw [List.forall_mem_cons] at hw
    rw [letters_cons, List.append_assoc]
    apply h.munches_symbol hw.1
    apply ih hw.2
    rw [letters_cons, List.length_append, String.length_toList, Int.natCast_add,
      ← Int.add_assoc] at hl
    exact hl

theorem written_symbols (position : Int) (word : List String) :
    ∀ t ∈ written position word, t.isBoundary = false := by
  induction word generalizing position with
  | nil => simp [written]
  | cons s word ih =>
    rw [written, List.forall_mem_cons]
    exact ⟨rfl, ih _⟩

theorem wordsOf_written (hne : word ≠ []) (position : Int) :
    wordsOf (written position word) = [written position word] := by
  apply wordsOf_symbols
  · cases word with
    | nil => exact absurd rfl hne
    | cons => exact List.cons_ne_nil _ _
  · exact written_symbols position word

theorem Decodable.exists_munches (h : Decodable boundary alphabet)
    (hw : ∀ word ∈ words, word ≠ [] ∧ ∀ s ∈ word, s ∈ alphabet) (position : Int) :
    ∃ tokens, Munches boundary.toList (alphabet.map String.toList) [] position
        (boundary.toList.intercalate (words.map letters)) tokens ∧
      wordsOf tokens = writtenWords boundary.length position words := by
  induction words generalizing position with
  | nil => exact ⟨[], .done, by simp [wordsOf_eq, writtenWords]⟩
  | cons word words ih =>
    rw [List.forall_mem_cons] at hw
    obtain ⟨⟨hne, hmem⟩, hw⟩ := hw
    cases words with
    | nil =>
      have hmunches : Munches boundary.toList (alphabet.map String.toList) [] position
          (letters word ++ []) (written position word ++ []) := h.munches_written hmem .done
      refine ⟨written position word, ?_, ?_⟩
      · simpa [List.intercalate_singleton] using hmunches
      · rw [wordsOf_written hne]
        rfl
    | cons next words =>
      obtain ⟨tokens, hlater, hwords⟩ := ih hw
        (position + (letters word).length + boundary.length)
      have hne' : boundary.toList ≠ [] := by
        rw [ne_eq, String.toList_eq_nil_iff]
        exact h.boundary_ne
      -- Where the word ends, the boundary begins and goes before every symbol.
      have hgap : Munches boundary.toList (alphabet.map String.toList) []
          (position + (letters word).length)
          (boundary.toList ++ boundary.toList.intercalate ((next :: words).map letters))
          (⟨String.ofList boundary.toList, true, position + (letters word).length⟩ ::
            tokens) := by
        apply Munches.take (Takes.boundary ⟨hne', _⟩)
        · rwa [String.length_toList]
        · simp only [List.append_assoc, List.prefix_append]
      have hmunches := h.munches_written hmem hgap
      refine ⟨written position word ++
          ⟨String.ofList boundary.toList, true, position + (letters word).length⟩ :: tokens, ?_, ?_⟩
      · simpa only [List.map_cons, List.intercalate_cons_cons, List.append_assoc] using hmunches
      · rw [wordsOf_append_boundary rfl, wordsOf_written hne, hwords, ← length_spell]
        rfl

end Words

section Texts

theorem written_texts (position : Int) (word : List String) :
    (written position word).map Token.text = word := by
  induction word generalizing position with
  | nil => rfl
  | cons s word ih => rw [written, List.map_cons, ih]

theorem writtenWords_texts (gap : Nat) (position : Int) (words : List (List String)) :
    (writtenWords gap position words).map (·.map Token.text) = words := by
  induction words generalizing position with
  | nil => rfl
  | cons word words ih => rw [writtenWords, List.map_cons, ih, written_texts]

/-- Decided over the characters of the symbols, not over all the characters that there are. -/
theorem apart_of_all
    (h : (alphabet.all fun s => s.toList.all fun c => decide (c ∉ boundary.toList)) = true) :
    ∀ s ∈ alphabet, ∀ c ∈ s.toList, c ∉ boundary.toList := by
  simpa only [List.all_eq_true, decide_eq_true_eq] using h

theorem decodable_whistle : Decodable " " Whistle.alphabet where
  boundary_ne := by decide
  symbol_ne := by decide +kernel
  prefixFree := by decide +kernel
  apart := apart_of_all (by decide +kernel)

/-- Cutting a text undoes spelling it. The words come back symbol by symbol, each where it was
written, from any symbols that no boundary and no other symbol can be taken for; those of the
built-in whistle are such. -/
theorem wordsOf_tokenize_spelled :
    Decodable " " Whistle.alphabet ∧
      ∀ (boundary : String) (alphabet : List String), Decodable boundary alphabet →
        ∀ words : List (List String), (∀ word ∈ words, word ≠ [] ∧ ∀ s ∈ word, s ∈ alphabet) →
          ∀ offset : Int, ∃ tokens,
            tokenize boundary alphabet offset (boundary.intercalate (words.map spell)) =
              .ok tokens ∧
            wordsOf tokens = writtenWords boundary.length offset words ∧
            (wordsOf tokens).map (·.map Token.text) = words := by
  refine ⟨decodable_whistle, fun boundary alphabet h words hw offset => ?_⟩
  obtain ⟨tokens, hmunches, hwords⟩ := h.exists_munches hw offset
  have htext : (boundary.intercalate (words.map spell)).toList =
      boundary.toList.intercalate (words.map letters) := by
    rw [String.toList_intercalate, List.map_map]
    simp only [Function.comp_def, toList_spell]
  refine ⟨squeeze tokens, ?_, ?_, ?_⟩
  · rw [tokenize, htext, hmunches.scan_eq]
    rfl
  · rw [wordsOf_squeeze, hwords]
  · rw [wordsOf_squeeze, hwords, writtenWords_texts]

/-- A symbol begins inside another, and the boundary has two characters. -/
theorem wordsOf_tokenize_spelled_slashes :
    Decodable "//" ["ab", "b", "ca"] ∧
      "//".intercalate ([["ab", "b"], ["ca"]].map spell) = "abb//ca" ∧
      ∃ tokens, tokenize "//" ["ab", "b", "ca"] 3 "abb//ca" = .ok tokens ∧
        wordsOf tokens = [[⟨"ab", false, 3⟩, ⟨"b", false, 5⟩], [⟨"ca", false, 8⟩]] := by
  have h : Decodable "//" ["ab", "b", "ca"] :=
    ⟨by decide, by decide, by decide +kernel, apart_of_all (by decide +kernel)⟩
  have htext : "//".intercalate ([["ab", "b"], ["ca"]].map spell) = "abb//ca" := by decide +kernel
  obtain ⟨tokens, hok, hwords, _⟩ := wordsOf_tokenize_spelled.2 "//" ["ab", "b", "ca"] h
    [["ab", "b"], ["ca"]] (by decide) 3
  rw [htext] at hok
  refine ⟨h, htext, tokens, hok, ?_⟩
  rw [hwords]
  decide +kernel

end Texts

end Silbo
