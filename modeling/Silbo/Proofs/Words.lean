import Silbo.Proofs.Scanning
import Silbo.Word

/-!
The words of a text. To cut a text into tokens and the tokens into words comes to the same as to cut
the text into words and each word into tokens, with the same positions and the same first error, if
no symbol shares a character with the boundary.
-/
namespace Silbo

section Groups

variable {tokens : List Token}

theorem splitWhere_eq_splitOnP (p : α → Bool) (as : List α) : splitWhere p as = as.splitOnP p := by
  induction as with
  | nil => rw [splitWhere, List.splitOnP_nil]
  | cons a rest ih =>
    obtain ⟨part, parts, h⟩ := List.exists_cons_of_ne_nil (List.splitOnP_ne_nil p rest)
    rw [List.splitOnP_cons_eq_if_modifyHead, splitWhere, ih, h]
    rfl

theorem wordsOf_eq (tokens : List Token) : wordsOf tokens = partsAt (·.isBoundary) tokens := by
  rw [wordsOf, splitWhere_eq_splitOnP, partsAt]

theorem wordsOf_append_boundary (hb : t.isBoundary = true) (before later : List Token) :
    wordsOf (before ++ t :: later) = wordsOf before ++ wordsOf later := by
  simp only [wordsOf_eq]
  exact partsAt_append_cons hb before later

theorem wordsOf_boundary (hb : t.isBoundary = true) (tokens : List Token) :
    wordsOf (t :: tokens) = wordsOf tokens :=
  wordsOf_append_boundary hb [] tokens

theorem wordsOf_symbols (hne : tokens ≠ []) (h : ∀ t ∈ tokens, t.isBoundary = false) :
    wordsOf tokens = [tokens] := by
  rw [wordsOf_eq, partsAt_eq_singleton hne h]

theorem wordsOf_squeezeAfter {held : Option Token} (hh : ∀ t ∈ held, t.isBoundary = true)
    (before tokens : List Token) :
    wordsOf (before ++ squeezeAfter held tokens) = wordsOf (before ++ held.toList ++ tokens) := by
  induction tokens generalizing held before with
  | nil =>
    cases held with
    | none => simp [squeezeAfter]
    | some b =>
      have hb := wordsOf_append_boundary (hh b rfl) before []
      simpa [squeezeAfter, wordsOf, splitWhere] using hb.symm
  | cons t rest ih =>
    rw [squeezeAfter]
    by_cases ht : t.isBoundary
    · rw [if_pos ht]
      cases held with
      | none =>
        rw [Option.none_or, ih (by simpa using ht)]
        simp
      | some b =>
        rw [Option.some_or, ih hh]
        have hb := hh b rfl
        simp [wordsOf_append_boundary hb, wordsOf_boundary ht]
    · rw [if_neg ht]
      have hnone : ∀ b ∈ (none : Option Token), b.isBoundary = true := by simp
      simpa using ih hnone (before ++ held.toList ++ [t])

theorem wordsOf_dropWhile (tokens : List Token) :
    wordsOf (tokens.dropWhile (·.isBoundary)) = wordsOf tokens := by
  rw [wordsOf_eq, wordsOf_eq, partsAt_dropWhile fun _ h => h]

theorem wordsOf_squeeze (tokens : List Token) : wordsOf (squeeze tokens) = wordsOf tokens := by
  have hnone : ∀ b ∈ (none : Option Token), b.isBoundary = true := by simp
  have h := wordsOf_squeezeAfter hnone [] (tokens.dropWhile (·.isBoundary))
  simpa [squeeze, wordsOf_dropWhile] using h

theorem squeeze_symbols (h : ∀ t ∈ tokens, t.isBoundary = false) : squeeze tokens = tokens := by
  have hafter (rest : List Token) (hr : ∀ t ∈ rest, t.isBoundary = false) :
      squeezeAfter none rest = rest := by
    induction rest with
    | nil => rfl
    | cons t rest ih =>
      rw [List.forall_mem_cons] at hr
      rw [squeezeAfter, hr.1, if_neg Bool.false_ne_true, ih hr.2]
      rfl
  cases tokens with
  | nil => rfl
  | cons t rest =>
    rw [squeeze, List.dropWhile_cons_of_neg (by simp [h t])]
    exact hafter _ h

theorem mem_of_mem_squeezeAfter {held : Option Token} {tokens : List Token}
    (h : token ∈ squeezeAfter held tokens) : token ∈ held.toList ++ tokens := by
  induction tokens generalizing held with
  | nil => cases h
  | cons t rest ih =>
    rw [squeezeAfter] at h
    split at h
    · have hmem := ih h
      cases held with
      | none => exact hmem
      | some b => exact ((List.sublist_cons_self t rest).cons_cons b).mem hmem
    · rcases List.mem_append.1 h with h | h
      · exact List.mem_append_left _ h
      · rcases List.mem_cons.1 h with rfl | h
        · exact List.mem_append_right _ List.mem_cons_self
        · exact List.mem_append_right _ (List.mem_cons_of_mem _ (ih h))

theorem mem_of_mem_squeeze {tokens : List Token} (h : token ∈ squeeze tokens) : token ∈ tokens :=
  (List.dropWhile_sublist _).mem (mem_of_mem_squeezeAfter h)

end Groups

section Pieces

variable {boundary text : List Char} {alphabet : List (List Char)}

theorem placed_cons_nil (gap offset : Nat) (pieces : List (List Char)) :
    placed gap offset ([] :: pieces) = placed gap (offset + gap) pieces := by
  simp [placed]

theorem placed_cons (h : piece ≠ []) (gap offset : Nat) (pieces : List (List Char)) :
    placed gap offset (piece :: pieces) =
      (offset, piece) :: placed gap (offset + piece.length + gap) pieces := by
  simp [placed, h]

theorem scan_piece (hb : boundary ≠ []) (hd : ∀ s ∈ alphabet, ∀ c ∈ s, c ∉ boundary)
    (hf : ∀ x, x <:+ piece → x ≠ [] → ¬ boundary <+: x ++ (boundary ++ rest)) (position : Int) :
    scan boundary alphabet position (piece ++ (boundary ++ rest)) =
      scan boundary alphabet position piece >>= fun tokens =>
        (scan boundary alphabet (position + piece.length + boundary.length) rest).map fun later =>
          tokens ++ ⟨String.ofList boundary, true, position + piece.length⟩ :: later := by
  have hs : ∀ s ∈ alphabet, ∀ text, s <+: text ++ (boundary ++ rest) → s <+: text :=
    fun s hmem text => begins_of_begins_append (hd s hmem) hb
  obtain ⟨consumed, left, tokens, rfl, hm, hstuck⟩ :=
    exists_munches boundary alphabet position piece
  have hm' := hm.extend hs hf
  cases left with
  | nil =>
    have htake : Takes boundary alphabet (boundary ++ rest) boundary true :=
      .boundary ⟨hb, List.prefix_append _ _⟩
    rw [List.append_nil, hm.scan_eq]
    rw [List.nil_append] at hm'
    rw [hm'.scan_append, scan_takes htake]
    cases scan boundary alphabet (position + consumed.length + boundary.length) rest <;> rfl
  | cons c left =>
    have hstuck' := hstuck.extend hs (hf _ (List.suffix_append _ _) (List.cons_ne_nil c left))
    rw [hm.scan_eq_error hstuck, List.append_assoc]
    exact hm'.scan_eq_error hstuck'

/-- The words of a scan are those of the pieces, each scanned where it stands. -/
theorem Cuts.scan_words (hb : boundary ≠ []) (hd : ∀ s ∈ alphabet, ∀ c ∈ s, c ∉ boundary)
    (h : Cuts boundary text pieces) (offset : Nat) :
    (scan boundary alphabet offset text).map wordsOf =
      (placed boundary.length offset pieces).mapM fun chunk =>
        (scan boundary alphabet chunk.1 chunk.2).map squeeze := by
  induction h generalizing offset with
  | @last text hl =>
    by_cases ht : text = []
    · subst ht
      rw [placed_cons_nil, scan]
      rfl
    rw [placed_cons ht, placed, List.mapM_cons, List.mapM_nil]
    cases hscan : scan boundary alphabet offset text with
    | error e => rfl
    | ok tokens =>
      have hne := (munches_of_scan hscan).ne_nil ht
      have hsymbols := scan_symbols hl hscan
      rw [Except.map, Except.map, wordsOf_symbols hne hsymbols, squeeze_symbols hsymbols]
      rfl
  | @next piece rest pieces hf _ ih =>
    have ih := ih (offset + piece.length + boundary.length)
    rw [Int.natCast_add, Int.natCast_add] at ih
    rw [scan_piece hb hd hf]
    by_cases hp : piece = []
    · subst hp
      rw [List.length_nil, Nat.add_zero] at ih
      rw [placed_cons_nil, ← ih, scan]
      cases scan boundary alphabet _ rest with
      | error e => rfl
      | ok later => exact congrArg Except.ok (wordsOf_boundary rfl later)
    rw [placed_cons hp, List.mapM_cons, ← ih]
    cases hscan : scan boundary alphabet offset piece with
    | error e => rfl
    | ok tokens =>
      have hne := (munches_of_scan hscan).ne_nil hp
      have hsymbols := scan_symbols (not_infix_of_first hb hf) hscan
      rw [Except.map, squeeze_symbols hsymbols]
      cases scan boundary alphabet _ rest with
      | error e => rfl
      | ok later =>
        refine congrArg Except.ok ?_
        rw [wordsOf_append_boundary rfl, wordsOf_symbols hne hsymbols]
        rfl

end Pieces

section Texts

variable {boundary : String} {alphabet : List String}

theorem tokenize_word {text : String} (hb : ¬ boundary.toList <:+: text.toList) (offset : Int) :
    tokenize boundary alphabet offset text =
      scan boundary.toList (alphabet.map String.toList) offset text.toList := by
  unfold tokenize
  cases h : scan boundary.toList (alphabet.map String.toList) offset text.toList with
  | error e => rfl
  | ok tokens => rw [Except.map, squeeze_symbols (scan_symbols hb h)]

theorem splitText_tokenize (hb : boundary ≠ "")
    (hd : ∀ s ∈ alphabet, ∀ c ∈ s.toList, c ∉ boundary.toList) (text : String) :
    ∃ chunks, splitText boundary text = .ok chunks ∧
      (tokenize boundary alphabet 0 text).map wordsOf =
        chunks.mapM fun chunk => tokenize boundary alphabet chunk.1 chunk.2 := by
  have hne : boundary.toList ≠ [] := by rwa [ne_eq, String.toList_eq_nil_iff]
  have hscan := (cut_cuts hne text.toList).scan_words hne (List.forall_mem_map.2 hd) 0
  rw [String.length_toList] at hscan
  unfold splitText
  rw [if_neg (by rwa [String.isEmpty_iff])]
  refine ⟨_, rfl, ?_⟩
  have htokenize (chunk : Nat × List Char) :
      tokenize boundary alphabet chunk.1 (String.ofList chunk.2) =
        (scan boundary.toList (alphabet.map String.toList) chunk.1 chunk.2).map squeeze := by
    rw [tokenize, String.toList_ofList]
  simp only [List.mapM_map, Function.comp_def, htokenize]
  rw [← hscan, tokenize]
  cases scan boundary.toList (alphabet.map String.toList) 0 text.toList with
  | error e => rfl
  | ok tokens => exact congrArg Except.ok (wordsOf_squeeze tokens)

theorem tokenize_error (h : tokenize boundary alphabet offset text = .error e) :
    ∃ c position, e = ⟨.unknown "character" (.text (String.singleton c)), none, some position⟩ := by
  unfold tokenize at h
  cases hscan : scan boundary.toList (alphabet.map String.toList) offset text.toList with
  | error e =>
    rw [hscan] at h
    cases h
    obtain ⟨consumed, c, rest, tokens, _, _, _, rfl⟩ := exists_munches_of_scan hscan
    exact ⟨c, _, rfl⟩
  | ok tokens =>
    rw [hscan] at h
    cases h

theorem tokenize_text_mem (h : tokenize boundary alphabet offset text = .ok tokens) :
    ∀ token ∈ tokens, token.isBoundary = true ∨ token.text ∈ alphabet := by
  unfold tokenize at h
  cases hscan : scan boundary.toList (alphabet.map String.toList) offset text.toList with
  | error e =>
    rw [hscan] at h
    cases h
  | ok scanned =>
    rw [hscan] at h
    cases h
    intro token ht
    refine ((munches_of_scan hscan).text_mem token (mem_of_mem_squeeze ht)).imp_right fun hmem => ?_
    obtain ⟨s, hs, he⟩ := List.mem_map.1 hmem
    rwa [← String.toList_inj.1 he]

theorem mapM_mapError {f : α → Except ε β} {g : α → Except ε' β} {k : ε → ε'} {as : List α}
    (h : ∀ a ∈ as, g a = (f a).mapError k) : as.mapM g = (as.mapM f).mapError k := by
  induction as with
  | nil => rfl
  | cons a as ih =>
    rw [List.forall_mem_cons] at h
    rw [List.mapM_cons, List.mapM_cons, h.1, ih h.2]
    cases f a with
    | error e => rfl
    | ok b => cases as.mapM f <;> rfl

end Texts

namespace Model

variable {m : Model} {boundary : String} {alphabet : List String}

theorem tokenizeWord_eq (hb : m.boundary = .text boundary) (ha : m.alphabet = alphabet.map .text)
    (hw : ¬ boundary.toList <:+: word.toList) (position : Int) :
    m.tokenizeWord word position =
      (tokenize boundary alphabet position word).mapError Fault.error := by
  unfold tokenizeWord
  rw [hb, ha, tokenizeBy_text]
  cases h : tokenize boundary alphabet position word with
  | error e => rfl
  | ok tokens =>
    have hany : ¬ tokens.any (·.isBoundary) = true := by
      rw [tokenize_word hw] at h
      simpa using scan_symbols hw h
    show (if tokens.any (·.isBoundary) = true then _ else _) = _
    rw [if_neg hany]
    rfl

theorem tokenizeWord_text_mem (hb : m.boundary = .text boundary) (ha : m.alphabet = alphabet.map .text)
    (h : m.tokenizeWord word position = .ok tokens) : ∀ token ∈ tokens, token.text ∈ alphabet := by
  unfold tokenizeWord at h
  rw [hb, ha, tokenizeBy_text] at h
  cases htokens : tokenize boundary alphabet position word with
  | error e =>
    rw [htokens] at h
    cases h
  | ok found =>
    rw [htokens] at h
    change (if found.any (·.isBoundary) = true then _ else _) = _ at h
    by_cases hany : found.any (·.isBoundary) = true
    · rw [if_pos hany] at h
      cases h
    · rw [if_neg hany] at h
      cases h
      intro token ht
      refine (tokenize_text_mem htokens token ht).resolve_left fun hboundary => hany ?_
      exact List.any_eq_true.2 ⟨token, ht, hboundary⟩

/-- The words that a text is cut into are the words among its tokens, or the first word that cannot
be cut into tokens is what fails the text. So a text has the same tokens where its words are compiled
one by one. -/
theorem wordsOf_tokenize (boundary : String) (hb : boundary ≠ "") (alphabet : List String)
    (hd : ∀ s ∈ alphabet, ∀ c ∈ s.toList, c ∉ boundary.toList) (text : String) :
    (∃ chunks, splitText boundary text = .ok chunks ∧
      (tokenize boundary alphabet 0 text).map wordsOf =
        chunks.mapM fun chunk => tokenize boundary alphabet chunk.1 chunk.2) ∧
      (∀ e, tokenize boundary alphabet 0 text = .error e →
        ∃ c position, e = ⟨.unknown "character" (.text (String.singleton c)), none, some position⟩) ∧
      ∀ m : Model, m.boundary = .text boundary → m.alphabet = alphabet.map .text →
        textToWords m.boundary m.alphabet text = m.chunks text >>= fun chunks =>
          chunks.mapM fun chunk => m.tokenizeWord chunk.2 chunk.1 := by
  refine ⟨splitText_tokenize hb hd text, fun e h => tokenize_error h, fun m hm ha => ?_⟩
  unfold textToWords chunks
  cases hn : normalizeBy m.boundary text with
  | error f => rfl
  | ok normal =>
    obtain ⟨chunks, hc, hwords⟩ := splitText_tokenize hb hd normal
    obtain ⟨_, hc', hs⟩ := splitText_ok hb normal
    rw [hc, Except.ok.injEq] at hc'
    subst hc'
    rw [hm, ha]
    show (tokenizeBy (.text boundary) (alphabet.map .text) 0 normal >>= fun tokens =>
      pure (wordsOf tokens)) = (splitText boundary normal >>= fun chunks =>
        chunks.mapM fun chunk => m.tokenizeWord chunk.2 chunk.1)
    rw [tokenizeBy_text, hc]
    show _ = chunks.mapM _
    rw [mapM_mapError fun chunk hmem => tokenizeWord_eq hm ha (hs chunk hmem) chunk.1, ← hwords]
    cases tokenize boundary alphabet 0 normal <;> rfl

/-- A boundary of two characters, and symbols of one and of two. -/
def slashes : Table where
  boundary := .text "//"
  symbols := [.text "t", .text "i", .text "ti"]
  graphemes := []

theorem wordsOf_tokenize_slashes :
    "//" ≠ "" ∧ (∀ s ∈ ["t", "i", "ti"], ∀ c ∈ s.toList, c ∉ "//".toList) ∧
      (tokenize "//" ["t", "i", "ti"] 0 "ti////it").map wordsOf =
        .ok [[⟨"ti", false, 0⟩], [⟨"i", false, 6⟩, ⟨"t", false, 7⟩]] ∧
      tokenize "//" ["t", "i", "ti"] 0 "ti//x" =
        .error ⟨.unknown "character" (.text "x"), none, some 4⟩ ∧
      (∃ c position, (⟨.unknown "character" (.text "x"), none, some 4⟩ : Error) =
        ⟨.unknown "character" (.text (String.singleton c)), none, some position⟩) ∧
      textToWords (ofTable slashes).boundary (ofTable slashes).alphabet "ti////it" =
        (ofTable slashes).chunks "ti////it" >>= fun chunks =>
          chunks.mapM fun chunk => (ofTable slashes).tokenizeWord chunk.2 chunk.1 := by
  have hd : ∀ s ∈ ["t", "i", "ti"], ∀ c ∈ s.toList, c ∉ "//".toList := by simp
  have hb : "//" ≠ "" := by decide
  obtain ⟨⟨chunks, hc, hwords⟩, _, hmodel⟩ := wordsOf_tokenize "//" hb _ hd "ti////it"
  have hsplit : splitText "//" "ti////it" = .ok [(0, "ti"), (6, "it")] := by with_unfolding_all rfl
  have herror : tokenize "//" ["t", "i", "ti"] 0 "ti//x" =
      .error ⟨.unknown "character" (.text "x"), none, some 4⟩ := by with_unfolding_all rfl
  rw [hsplit, Except.ok.injEq] at hc
  subst hc
  exact ⟨hb, hd, hwords.trans (by with_unfolding_all rfl), herror,
    (wordsOf_tokenize "//" hb _ hd "ti//x").2.1 _ herror, hmodel (ofTable slashes) rfl rfl⟩

end Model

end Silbo
