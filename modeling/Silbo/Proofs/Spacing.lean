import Silbo.Proofs.Tiling

/-!
Words at their offsets. Cutting a text loses nothing but whole separators: each word stands in the
text where its offset says, and the stretches before the first word, between two words and behind
the last one are separators in a row.
-/
namespace Silbo

/-- Words in a row, each with its offset and with separators behind it; only the last word may have
none. No separator begins within a word. -/
inductive Rowed (separator : List Char) : Nat → List Char → List (Nat × List Char) → Prop where
  | done : Rowed separator offset [] []
  | word : w ≠ [] →
      (∀ x, x <:+ w → x ≠ [] → ¬ separator <+: x ++ (copies separator n ++ later)) →
      (chunks ≠ [] → 0 < n) →
      Rowed separator (offset + w.length + (copies separator n).length) later chunks →
      Rowed separator offset (w ++ (copies separator n ++ later)) ((offset, w) :: chunks)

/-- Words of a text with their offsets, and nothing but whole separators outside of them. -/
structure Spaced (separator text : List Char) (chunks : List (Nat × List Char)) : Prop where
  ne_nil : ∀ chunk ∈ chunks, chunk.2 ≠ []
  avoids : ∀ chunk ∈ chunks, ¬ separator <:+: chunk.2
  slice : ∀ chunk ∈ chunks, text.extract chunk.1 (chunk.1 + chunk.2.length) = chunk.2
  /-- A separator does not even begin in a word to end behind it. -/
  clear : ∀ chunk ∈ chunks, ∀ i, chunk.1 ≤ i → i < chunk.1 + chunk.2.length →
    ¬ separator <+: text.drop i
  apart : chunks.Pairwise fun a b => a.1 + a.2.length < b.1
  before : ∃ n, text.take ((chunks.head?.map (·.1)).getD text.length) = copies separator n
  between : chunks.IsChain fun a b =>
    ∃ n, text.extract (a.1 + a.2.length) b.1 = copies separator (n + 1)
  behind : ∃ n, text.drop ((chunks.getLast?.map fun a => a.1 + a.2.length).getD 0) =
    copies separator n

variable {separator text before later : List Char} {offset : Nat}
variable {chunks : List (Nat × List Char)}

section Rows

theorem extract_middle (hf : front.length = start) (middle rest : List α) :
    (front ++ (middle ++ rest)).extract start (start + middle.length) = middle := by
  rw [List.extract_eq_take_drop, Nat.add_sub_cancel_left, List.drop_left' hf, List.take_left]

theorem Cuts.rowed (h : Cuts separator text pieces) (offset : Nat) :
    ∃ n later, text = copies separator n ++ later ∧
      Rowed separator (offset + (copies separator n).length) later
        (placed separator.length offset pieces) := by
  induction h generalizing offset with
  | @last text hl =>
    by_cases ht : text = []
    · subst ht
      rw [placed_cons_nil]
      exact ⟨0, [], rfl, .done⟩
    · rw [placed_cons ht]
      refine ⟨0, text, rfl, ?_⟩
      have hrow : Rowed separator offset (text ++ (copies separator 0 ++ [])) [(offset, text)] := by
        refine .word ht (fun x hx _ hp => hl ?_) (fun h => absurd rfl h) .done
        rw [copies_zero, List.append_nil, List.append_nil] at hp
        exact hp.isInfix.trans hx.isInfix
      simpa [placed] using hrow
  | @next piece rest pieces hf _ ih =>
    obtain ⟨n, later, rfl, hrow⟩ := ih (offset + piece.length + separator.length)
    have hcopies : separator ++ (copies separator n ++ later) =
        copies separator (n + 1) ++ later := by rw [copies_succ, List.append_assoc]
    have hlength : (copies separator (n + 1)).length =
        separator.length + (copies separator n).length := by rw [copies_succ, List.length_append]
    rw [hcopies] at hf ⊢
    by_cases hp : piece = []
    · subst hp
      rw [placed_cons_nil]
      refine ⟨n + 1, later, rfl, ?_⟩
      rwa [hlength, ← Nat.add_assoc]
    · rw [placed_cons hp]
      refine ⟨0, _, rfl, .word hp hf (fun _ => Nat.succ_pos n) ?_⟩
      rwa [hlength, ← Nat.add_assoc]

theorem length_front (separator : List Char) (hb : before.length = offset) (w : List Char)
    (n : Nat) :
    (before ++ (w ++ copies separator n)).length =
      offset + w.length + (copies separator n).length := by
  simp [hb, Nat.add_assoc]

theorem Rowed.stands (h : Rowed separator offset text chunks) (hb : before.length = offset) :
    ∀ chunk ∈ chunks, chunk.2 ≠ [] ∧ offset ≤ chunk.1 ∧
      ∃ front rest, before ++ text = front ++ (chunk.2 ++ rest) ∧ front.length = chunk.1 ∧
        ∀ x, x <:+ chunk.2 → x ≠ [] → ¬ separator <+: x ++ rest := by
  induction h generalizing before with
  | done => simp
  | @word w n later chunks offset hw hclear _ _ ih =>
    rw [List.forall_mem_cons]
    refine ⟨⟨hw, Nat.le_refl _, before, _, rfl, hb, hclear⟩, fun chunk hmem => ?_⟩
    have hlength := length_front separator hb w n
    obtain ⟨hne, hle, front, rest, heq, hfront⟩ := ih hlength chunk hmem
    refine ⟨hne, by omega, front, rest, ?_, hfront⟩
    rw [← heq]
    simp

theorem Rowed.apart (hs : separator ≠ []) (h : Rowed separator offset text chunks) :
    chunks.Pairwise fun a b => a.1 + a.2.length < b.1 := by
  induction h with
  | done => exact .nil
  | @word w n later chunks offset _ _ hgap hrow ih =>
    refine List.pairwise_cons.2 ⟨fun chunk hmem => ?_, ih⟩
    have hpos : 0 < (copies separator n).length := by
      rw [copies_length]
      exact Nat.mul_pos (hgap (List.ne_nil_of_mem hmem)) (List.length_pos_iff.2 hs)
    have hle := (hrow.stands (List.length_replicate (a := ' ')) chunk hmem).2.1
    dsimp only
    omega

theorem Rowed.head_eq (h : Rowed separator offset text chunks) :
    (chunks.head?.map (·.1)).getD (offset + text.length) = offset := by
  cases h <;> rfl

theorem Rowed.between (h : Rowed separator offset text chunks) (hb : before.length = offset) :
    chunks.IsChain fun a b =>
      ∃ n, (before ++ text).extract (a.1 + a.2.length) b.1 = copies separator (n + 1) := by
  induction h generalizing before with
  | done => exact .nil
  | @word w n later chunks offset _ _ hgap hrow ih =>
    have hlength := length_front separator hb w n
    have hchain := ih hlength
    rw [List.append_assoc, List.append_assoc] at hchain
    cases hrow with
    | done => exact .singleton _
    | word =>
      refine .cons_cons ⟨n - 1, ?_⟩ hchain
      rw [Nat.sub_add_cancel (hgap (List.cons_ne_nil _ _)), ← List.append_assoc before w]
      exact extract_middle (by simp [hb]) _ _

theorem Rowed.behind (h : Rowed separator offset text chunks) (hb : before.length = offset) :
    ∃ n, (before ++ text).drop
      ((chunks.getLast?.map fun a => a.1 + a.2.length).getD offset) = copies separator n := by
  induction h generalizing before with
  | done => exact ⟨0, by simp [← hb]⟩
  | @word w n later chunks offset _ _ _ hrow ih =>
    have hlength := length_front separator hb w n
    obtain ⟨k, hk⟩ := ih hlength
    rw [List.append_assoc, List.append_assoc] at hk
    cases hrow with
    | done =>
      refine ⟨n, ?_⟩
      rw [List.append_nil, ← List.append_assoc]
      exact List.drop_left' (by simp [hb])
    | word => exact ⟨k, by rw [List.getLast?_cons_cons]; exact hk⟩

end Rows

section Texts

theorem drop_middle (hle : front.length ≤ i) (hlt : i < front.length + w.length) (rest : List α) :
    ∃ x, x <:+ w ∧ x ≠ [] ∧ (front ++ (w ++ rest)).drop i = x ++ rest := by
  obtain ⟨k, rfl⟩ := Nat.exists_eq_add_of_le hle
  have hk : k < w.length := by omega
  refine ⟨w.drop k, List.drop_suffix k w, by simpa using hk, ?_⟩
  rw [← List.drop_drop, List.drop_left, List.drop_append_of_le_length hk.le]

theorem Cuts.spaced (hs : separator ≠ []) (h : Cuts separator text pieces) :
    Spaced separator text (placed separator.length 0 pieces) := by
  obtain ⟨n, later, rfl, hrow⟩ := h.rowed 0
  rw [Nat.zero_add] at hrow
  have hstands := hrow.stands rfl
  have hhead := hrow.head_eq
  refine ⟨fun chunk hmem => (hstands chunk hmem).1, fun chunk hmem => ?_, fun chunk hmem => ?_,
    fun chunk hmem i hle hlt => ?_, hrow.apart hs, ⟨n, ?_⟩, hrow.between rfl, ?_⟩
  · obtain ⟨_, _, front, rest, _, _, hclear⟩ := hstands chunk hmem
    exact not_infix_of_first hs hclear
  · obtain ⟨_, _, front, rest, heq, hfront, _⟩ := hstands chunk hmem
    rw [heq]
    exact extract_middle hfront chunk.2 rest
  · obtain ⟨_, _, front, rest, heq, hfront, hclear⟩ := hstands chunk hmem
    rw [← hfront] at hle hlt
    obtain ⟨x, hx, hne, hdrop⟩ := drop_middle hle hlt rest
    rw [heq, hdrop]
    exact hclear x hx hne
  · rw [List.length_append, hhead]
    exact List.take_left
  · by_cases hne : placed separator.length 0 pieces = []
    · rw [hne] at hrow ⊢
      cases hrow with
      | done => exact ⟨n, List.append_nil _⟩
    · have hlast := List.getLast?_eq_some_getLast hne
      have hbehind := hrow.behind rfl
      rw [hlast] at hbehind ⊢
      exact hbehind

/-- Splitting a text gives its words where they stand, with nothing but whole separators before,
between and behind them. -/
theorem splitText_spaced (separator : String) (hs : separator ≠ "") (text : String) :
    ∃ chunks, splitText separator text = .ok chunks ∧
      Spaced separator.toList text.toList (chunks.map fun chunk => (chunk.1, chunk.2.toList)) := by
  have hne : separator.toList ≠ [] := by rwa [ne_eq, String.toList_eq_nil_iff]
  have hspaced := (cut_cuts hne text.toList).spaced hne
  unfold splitText
  rw [if_neg (by rwa [String.isEmpty_iff])]
  refine ⟨_, rfl, ?_⟩
  rw [List.map_map]
  have hlists : (fun chunk => (chunk.1, chunk.2.toList)) ∘
      (fun chunk : Nat × List Char => (chunk.1, String.ofList chunk.2)) = id :=
    funext fun chunk => by rw [Function.comp_apply, String.toList_ofList, id]
  rwa [hlists, List.map_id]

/-- Separators that could begin at two places, at the front and in the text. -/
theorem splitText_spaced_overlapping :
    "aa" ≠ "" ∧ splitText "aa" "aaabaaaaac" = .ok [(2, "ab"), (8, "ac")] ∧
      Spaced "aa".toList "aaabaaaaac".toList [(2, "ab".toList), (8, "ac".toList)] := by
  have hs : "aa" ≠ "" := by decide
  have hsplit : splitText "aa" "aaabaaaaac" = .ok [(2, "ab"), (8, "ac")] := by
    with_unfolding_all rfl
  obtain ⟨chunks, hc, hspaced⟩ := splitText_spaced "aa" hs "aaabaaaaac"
  rw [hsplit, Except.ok.injEq] at hc
  subst hc
  exact ⟨hs, hsplit, hspaced⟩

end Texts

end Silbo
