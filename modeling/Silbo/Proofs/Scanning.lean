import Silbo.Proofs.Splitting

/-!
The scan of a text by its rules. `Munches` leads through a part of a text over tokens that are the
boundary where it begins and the longest symbol elsewhere. The scan goes on until nothing begins,
and the tokens on its way are written one after the other.
-/
namespace Silbo

/-- A symbol that a text begins with, while no longer one does. -/
structure Longest (alphabet : List (List Char)) (text s : List Char) : Prop where
  mem : s ∈ alphabet
  ne_nil : s ≠ []
  begins : s <+: text
  length_le : ∀ other ∈ alphabet, other <+: text → other.length ≤ s.length

/-- The boundary begins a text. An empty boundary begins none. -/
def Bounded (boundary text : List Char) : Prop := boundary ≠ [] ∧ boundary <+: text

/-- What the scan takes from the front of a text, with whether it is a boundary. -/
inductive Takes (boundary : List Char) (alphabet : List (List Char)) (text : List Char) :
    List Char → Bool → Prop where
  | boundary : Bounded boundary text → Takes boundary alphabet text boundary true
  | symbol : ¬ Bounded boundary text → Longest alphabet text s → Takes boundary alphabet text s false

/-- Neither the boundary nor a symbol begins a text. -/
structure Stuck (boundary : List Char) (alphabet : List (List Char)) (text : List Char) : Prop where
  not_bounded : ¬ Bounded boundary text
  nil_of_begins : ∀ s ∈ alphabet, s <+: text → s = []

/-- The scan of `consumed ++ rest` from a position on takes these tokens from `consumed`. -/
inductive Munches (boundary : List Char) (alphabet : List (List Char)) (rest : List Char) :
    Int → List Char → List Token → Prop where
  | done : Munches boundary alphabet rest position [] []
  | take : Takes boundary alphabet (s ++ consumed ++ rest) s isBoundary →
      Munches boundary alphabet rest (position + s.length) consumed tokens →
      Munches boundary alphabet rest position (s ++ consumed)
        (⟨String.ofList s, isBoundary, position⟩ :: tokens)

variable {boundary text s : List Char} {alphabet : List (List Char)}

section Steps

theorem Longest.unique (h : Longest alphabet text s) (h' : Longest alphabet text s') : s = s' := by
  have hle := h'.length_le s h.mem h.begins
  have hle' := h.length_le s' h'.mem h'.begins
  have hs : s <+: s' := List.prefix_of_prefix_length_le h.begins h'.begins hle
  exact hs.eq_of_length_le hle'

theorem longestSymbol_longest (alphabet : List (List Char)) (text : List Char) :
    (∀ s ∈ alphabet, s <+: text → s.length ≤ ((longestSymbol alphabet text).getD []).length) ∧
      ∀ s, longestSymbol alphabet text = some s → s ∈ alphabet ∧ s ≠ [] ∧ s <+: text := by
  induction alphabet using List.reverseRecOn with
  | nil => simp [longestSymbol]
  | append_singleton before last ih =>
    obtain ⟨hle, hfound⟩ := ih
    unfold longestSymbol at hle hfound ⊢
    rw [List.foldl_append, List.foldl_cons, List.foldl_nil]
    generalize before.foldl _ none = best at hle hfound ⊢
    by_cases h : last <+: text ∧ (best.getD []).length < last.length
    · rw [if_pos (by simpa using h)]
      constructor
      · intro s hs hb
        rcases List.mem_append.1 hs with hs | hs
        · exact (hle s hs hb).trans h.2.le
        · rw [List.mem_singleton.1 hs, Option.getD_some]
      · intro s hs
        cases hs
        exact ⟨by simp, List.ne_nil_of_length_pos (Nat.zero_lt_of_lt h.2), h.1⟩
    · rw [if_neg (by simpa using h)]
      constructor
      · intro s hs hb
        rcases List.mem_append.1 hs with hs | hs
        · exact hle s hs hb
        · rw [List.mem_singleton] at hs
          subst hs
          exact Nat.le_of_not_lt fun hlt => h ⟨hb, hlt⟩
      · intro s hs
        obtain ⟨hmem, hs⟩ := hfound s hs
        exact ⟨List.mem_append_left _ hmem, hs⟩

theorem Longest.longestSymbol_eq (h : Longest alphabet text s) :
    longestSymbol alphabet text = some s := by
  obtain ⟨hle, hfound⟩ := longestSymbol_longest alphabet text
  cases hbest : longestSymbol alphabet text with
  | none =>
    have hnil := hle s h.mem h.begins
    rw [hbest, Option.getD_none, List.length_nil, Nat.le_zero, List.length_eq_zero_iff] at hnil
    exact absurd hnil h.ne_nil
  | some best =>
    rw [hbest, Option.getD_some] at hle
    obtain ⟨hmem, hne, hb⟩ := hfound best hbest
    rw [Longest.unique ⟨hmem, hne, hb, hle⟩ h]

theorem Stuck.longestSymbol_eq (h : Stuck boundary alphabet text) :
    longestSymbol alphabet text = none := by
  cases hbest : longestSymbol alphabet text with
  | none => rfl
  | some best =>
    obtain ⟨hmem, hne, hb⟩ := (longestSymbol_longest alphabet text).2 best hbest
    exact absurd (h.nil_of_begins best hmem hb) hne

theorem Takes.ne_nil (h : Takes boundary alphabet text s isBoundary) : s ≠ [] := by
  cases h with
  | boundary hb => exact hb.1
  | symbol _ hs => exact hs.ne_nil

theorem Takes.begins (h : Takes boundary alphabet text s isBoundary) : s <+: text := by
  cases h with
  | boundary hb => exact hb.2
  | symbol _ hs => exact hs.begins

theorem takes_or_stuck (boundary : List Char) (alphabet : List (List Char)) (text : List Char) :
    (∃ s isBoundary, Takes boundary alphabet text s isBoundary) ∨ Stuck boundary alphabet text := by
  by_cases hb : Bounded boundary text
  · exact .inl ⟨_, _, .boundary hb⟩
  obtain ⟨hle, hfound⟩ := longestSymbol_longest alphabet text
  cases hbest : longestSymbol alphabet text with
  | none =>
    rw [hbest] at hle
    refine .inr ⟨hb, fun s hs hbegins => ?_⟩
    simpa using hle s hs hbegins
  | some s =>
    rw [hbest, Option.getD_some] at hle
    obtain ⟨hmem, hne, hbegins⟩ := hfound s hbest
    exact .inl ⟨s, false, .symbol hb ⟨hmem, hne, hbegins, hle⟩⟩

theorem bounded_iff : (!boundary.isEmpty && boundary.isPrefixOf text) = true ↔
    Bounded boundary text := by
  simp [Bounded]

theorem scan_takes (h : Takes boundary alphabet (s ++ rest) s isBoundary) (position : Int) :
    scan boundary alphabet position (s ++ rest) =
      (scan boundary alphabet (position + s.length) rest).map
        (⟨String.ofList s, isBoundary, position⟩ :: ·) := by
  obtain ⟨c, tail, rfl⟩ := List.exists_cons_of_ne_nil h.ne_nil
  rw [List.cons_append] at h ⊢
  rw [scan]
  cases h with
  | boundary hb =>
    rw [if_pos (bounded_iff.2 hb)]
    simp only [List.length_cons, Nat.add_sub_cancel, List.drop_left]
    cases scan (c :: tail) alphabet (position + ↑(tail.length + 1)) rest <;> rfl
  | symbol hb hs =>
    rw [if_neg (mt bounded_iff.1 hb), hs.longestSymbol_eq]
    simp only [List.length_cons, Nat.add_sub_cancel, List.drop_left]
    cases scan boundary alphabet (position + ↑(tail.length + 1)) rest <;> rfl

theorem scan_stuck (h : Stuck boundary alphabet (c :: rest)) (position : Int) :
    scan boundary alphabet position (c :: rest) =
      .error ⟨.unknown "character" (.text (String.singleton c)), none, some position⟩ := by
  rw [scan, if_neg (mt bounded_iff.1 h.not_bounded), h.longestSymbol_eq]

end Steps

variable {rest consumed : List Char} {position : Int} {tokens : List Token}

section Runs

theorem Munches.scan_append (h : Munches boundary alphabet rest position consumed tokens) :
    scan boundary alphabet position (consumed ++ rest) =
      (scan boundary alphabet (position + consumed.length) rest).map (tokens ++ ·) := by
  induction h with
  | @done position =>
    rw [List.nil_append, List.length_nil, Int.natCast_zero, Int.add_zero]
    cases scan boundary alphabet position rest <;> rfl
  | @take s consumed isBoundary position tokens ht _ ih =>
    rw [List.append_assoc] at ht ⊢
    rw [scan_takes ht, ih, List.length_append, Int.natCast_add, Int.add_assoc]
    cases scan boundary alphabet _ rest <;> rfl

theorem exists_munches (boundary : List Char) (alphabet : List (List Char)) (position : Int)
    (text : List Char) :
    ∃ consumed rest tokens, text = consumed ++ rest ∧
      Munches boundary alphabet rest position consumed tokens ∧ Stuck boundary alphabet rest := by
  rcases takes_or_stuck boundary alphabet text with ⟨s, isBoundary, ht⟩ | hstuck
  · obtain ⟨later, rfl⟩ := ht.begins
    have hlt : later.length < (s ++ later).length := by
      simp [List.length_pos_iff.2 ht.ne_nil]
    obtain ⟨consumed, rest, tokens, rfl, hm, hstuck⟩ :=
      exists_munches boundary alphabet (position + s.length) later
    rw [← List.append_assoc] at ht ⊢
    exact ⟨s ++ consumed, rest, _, rfl, .take ht hm, hstuck⟩
  · exact ⟨[], text, [], rfl, .done, hstuck⟩
termination_by text.length

theorem Munches.scan_eq (h : Munches boundary alphabet [] position text tokens) :
    scan boundary alphabet position text = .ok tokens := by
  have hscan := h.scan_append
  rw [List.append_nil, scan] at hscan
  simpa [Except.map] using hscan

theorem Munches.scan_eq_error (h : Munches boundary alphabet (c :: rest) position consumed tokens)
    (hstuck : Stuck boundary alphabet (c :: rest)) :
    scan boundary alphabet position (consumed ++ c :: rest) =
      .error ⟨.unknown "character" (.text (String.singleton c)), none,
        some (position + consumed.length)⟩ := by
  rw [h.scan_append, scan_stuck hstuck]
  rfl

theorem munches_of_scan (h : scan boundary alphabet position text = .ok tokens) :
    Munches boundary alphabet [] position text tokens := by
  obtain ⟨consumed, rest, found, rfl, hm, hstuck⟩ :=
    exists_munches boundary alphabet position text
  cases rest with
  | nil =>
    rw [List.append_nil] at h ⊢
    rw [hm.scan_eq, Except.ok.injEq] at h
    exact h ▸ hm
  | cons c rest =>
    rw [hm.scan_eq_error hstuck] at h
    cases h

theorem exists_munches_of_scan (h : scan boundary alphabet position text = .error e) :
    ∃ consumed c rest tokens, text = consumed ++ c :: rest ∧
      Munches boundary alphabet (c :: rest) position consumed tokens ∧
      Stuck boundary alphabet (c :: rest) ∧
      e = ⟨.unknown "character" (.text (String.singleton c)), none,
        some (position + consumed.length)⟩ := by
  obtain ⟨consumed, rest, tokens, rfl, hm, hstuck⟩ :=
    exists_munches boundary alphabet position text
  cases rest with
  | nil =>
    rw [List.append_nil, hm.scan_eq] at h
    cases h
  | cons c rest =>
    rw [hm.scan_eq_error hstuck, Except.error.injEq] at h
    exact ⟨consumed, c, rest, tokens, rfl, hm, hstuck, h.symm⟩

theorem Munches.text_mem (h : Munches boundary alphabet rest position text tokens) :
    ∀ token ∈ tokens, token.isBoundary = true ∨ token.text.toList ∈ alphabet := by
  induction h with
  | done => exact fun _ ht => absurd ht List.not_mem_nil
  | take ht _ ih =>
    refine List.forall_mem_cons.2 ⟨?_, ih⟩
    cases ht with
    | boundary => exact .inl rfl
    | symbol _ hs => exact .inr (by rw [String.toList_ofList]; exact hs.mem)

end Runs

section Spelling

theorem intercalate_empty (texts : List String) :
    "".intercalate texts = String.ofList (texts.flatMap String.toList) := by
  rw [← String.toList_inj, String.toList_intercalate, String.toList_ofList, String.toList_ofList]
  induction texts with
  | nil => rfl
  | cons first rest ih =>
    rw [List.flatMap_cons, ← ih]
    cases rest <;> simp

theorem Munches.intercalate_text (h : Munches boundary alphabet rest position consumed tokens) :
    "".intercalate (tokens.map (·.text)) = String.ofList consumed := by
  rw [intercalate_empty, List.flatMap_map]
  congr 1
  induction h with
  | done => rfl
  | take _ _ ih => rw [List.flatMap_cons, ih, String.toList_ofList]

theorem Munches.ne_nil (h : Munches boundary alphabet rest position consumed tokens)
    (hne : consumed ≠ []) : tokens ≠ [] := by
  cases h with
  | done => exact absurd rfl hne
  | take => exact List.cons_ne_nil _ _

theorem Munches.position_head? (h : Munches boundary alphabet rest position consumed tokens)
    (ht : tokens.head? = some t) : t.position = position := by
  cases h with
  | done => cases ht
  | take => cases ht; rfl

theorem Munches.bounds (h : Munches boundary alphabet rest position consumed tokens) :
    ∀ t ∈ tokens, position ≤ t.position ∧ 0 < t.text.length ∧
      t.position + t.text.length ≤ position + consumed.length := by
  induction h with
  | done => simp
  | @take s consumed isBoundary position tokens ht _ ih =>
    rw [List.forall_mem_cons, List.length_append, String.length_ofList]
    refine ⟨⟨Int.le_refl position, List.length_pos_iff.2 ht.ne_nil, ?_⟩, fun t hmem => ?_⟩
    · dsimp only
      omega
    · have ht := ih t hmem
      omega

end Spelling

section Extension

variable {tail : List Char}

theorem begins_of_begins_append (hs : ∀ c ∈ s, c ∉ boundary) (hb : boundary ≠ [])
    (h : s <+: text ++ (boundary ++ rest)) : s <+: text := by
  induction text generalizing s with
  | nil =>
    obtain ⟨d, tail, rfl⟩ := List.exists_cons_of_ne_nil hb
    cases s with
    | nil => exact List.nil_prefix
    | cons c s =>
      rw [List.nil_append, List.cons_append, List.cons_prefix_cons] at h
      exact absurd (h.1 ▸ List.mem_cons_self) (hs c List.mem_cons_self)
  | cons a text ih =>
    cases s with
    | nil => exact List.nil_prefix
    | cons c s =>
      rw [List.cons_append, List.cons_prefix_cons] at h
      rw [List.cons_prefix_cons]
      exact ⟨h.1, ih (fun c hc => hs c (List.mem_cons_of_mem _ hc)) h.2⟩

/-- What follows a text does not change its scan if neither a symbol nor the boundary that begins in
the text reaches into it. -/
theorem Munches.extend (h : Munches boundary alphabet rest position consumed tokens)
    (hs : ∀ s ∈ alphabet, ∀ text, s <+: text ++ tail → s <+: text)
    (hb : ∀ text, text <:+ consumed ++ rest → text ≠ [] → ¬ boundary <+: text ++ tail) :
    Munches boundary alphabet (rest ++ tail) position consumed tokens := by
  induction h with
  | done => exact .done
  | @take s consumed isBoundary position tokens ht _ ih =>
    have hne : s ++ consumed ++ rest ≠ [] := by simp [ht.ne_nil]
    have hnb := hb _ List.suffix_rfl hne
    have hlater := ih fun text htext => hb text (htext.trans (by
      rw [List.append_assoc]
      exact List.suffix_append _ _))
    refine .take ?_ hlater
    rw [← List.append_assoc]
    cases ht with
    | boundary hbound => exact absurd (hbound.2.trans (List.prefix_append _ _)) hnb
    | symbol _ hlong =>
      refine .symbol (fun hbound => hnb hbound.2) ?_
      refine ⟨hlong.mem, hlong.ne_nil, hlong.begins.trans (List.prefix_append _ _), ?_⟩
      exact fun other hmem h => hlong.length_le other hmem (hs other hmem _ h)

theorem Stuck.extend (h : Stuck boundary alphabet text)
    (hs : ∀ s ∈ alphabet, ∀ text, s <+: text ++ tail → s <+: text)
    (hb : ¬ boundary <+: text ++ tail) : Stuck boundary alphabet (text ++ tail) where
  not_bounded hbounded := hb hbounded.2
  nil_of_begins s hmem hbegins := h.nil_of_begins s hmem (hs s hmem text hbegins)

end Extension

end Silbo
