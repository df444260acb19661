import Mathlib.Data.List.Infix
import Mathlib.Data.List.TakeWhile
import Silbo.Token.Words

/-!
Cutting at separators. A text is cut at each place where the separator begins, so that none of its
pieces holds the separator; a text without the boundary is cut into tokens that are all symbols.
-/
namespace Silbo

section Parts

variable {p q : α → Bool} {before run as : List α}

/-- The parts of a list between the members of a kind, less the empty ones. -/
def partsAt (p : α → Bool) (as : List α) : List (List α) := (as.splitOnP p).filter (!·.isEmpty)

@[simp] theorem partsAt_nil (p : α → Bool) : partsAt p [] = [] := by simp [partsAt]

theorem partsAt_append_cons (hc : p c = true) (before later : List α) :
    partsAt p (before ++ c :: later) = partsAt p before ++ partsAt p later := by
  unfold partsAt
  rw [List.splitOnP_append_cons before later hc, List.filter_append]

theorem partsAt_cons (hc : p c = true) (as : List α) : partsAt p (c :: as) = partsAt p as :=
  partsAt_append_cons hc [] as

theorem partsAt_eq_singleton (hne : as ≠ []) (h : ∀ a ∈ as, p a = false) : partsAt p as = [as] := by
  simp [partsAt, List.splitOnP_eq_singleton h, hne]

theorem partsAt_run_append (h : ∀ a ∈ run, p a = true) (as : List α) :
    partsAt p (run ++ as) = partsAt p as := by
  induction run with
  | nil => rfl
  | cons c run ih =>
    rw [List.forall_mem_cons] at h
    rw [List.cons_append, partsAt_cons h.1, ih h.2]

theorem partsAt_append_run (h : ∀ a ∈ run, p a = true) (before : List α) :
    partsAt p (before ++ run) = partsAt p before := by
  cases run with
  | nil => rw [List.append_nil]
  | cons c run =>
    rw [List.forall_mem_cons] at h
    have hrun : partsAt p run = partsAt p [] := by simpa using partsAt_run_append h.2 []
    rw [partsAt_append_cons h.1, hrun, partsAt_nil, List.append_nil]

theorem partsAt_append_run_append (hne : run ≠ []) (h : ∀ a ∈ run, p a = true)
    (before later : List α) :
    partsAt p (before ++ run ++ later) = partsAt p before ++ partsAt p later := by
  cases run with
  | nil => exact absurd rfl hne
  | cons c run =>
    rw [List.forall_mem_cons] at h
    rw [List.append_assoc, List.cons_append, partsAt_append_cons h.1, partsAt_run_append h.2]

theorem partsAt_dropWhile (h : ∀ a, q a = true → p a = true) (as : List α) :
    partsAt p (as.dropWhile q) = partsAt p as := by
  induction as with
  | nil => rfl
  | cons a as ih =>
    by_cases ha : q a = true
    · rw [List.dropWhile_cons_of_pos ha, ih, partsAt_cons (h a ha)]
    · rw [List.dropWhile_cons_of_neg ha]

theorem partsAt_congr (h : ∀ a ∈ as, p a = q a) : partsAt p as = partsAt q as := by
  have hs : as.splitOnP p = as.splitOnP q := by
    induction as with
    | nil => rfl
    | cons a as ih =>
      rw [List.forall_mem_cons] at h
      rw [List.splitOnP_cons_eq_if_modifyHead, List.splitOnP_cons_eq_if_modifyHead, h.1, ih h.2]
  unfold partsAt
  rw [hs]

theorem partsAt_of_forall (h : ∀ a ∈ as, p a = false) :
    partsAt p as = if as = [] then [] else [as] := by
  split
  · next he => rw [he, partsAt_nil]
  · next he => exact partsAt_eq_singleton he h

theorem split_induction {motive : List α → Prop}
    (last : ∀ as, (∀ a ∈ as, p a = false) → motive as)
    (next : ∀ as b rest, (∀ a ∈ as, p a = false) → p b = true → motive rest →
      motive (as ++ b :: rest)) (as : List α) : motive as := by
  have hfront : ∀ a ∈ as.takeWhile (!p ·), p a = false := fun a ha => by
    simpa using List.mem_takeWhile_imp ha
  have has := List.takeWhile_append_dropWhile (p := (!p ·)) (l := as)
  cases hd : as.dropWhile (!p ·) with
  | nil =>
    rw [hd, List.append_nil] at has
    rw [← has]
    exact last _ hfront
  | cons b rest =>
    have hb : p b = true := by
      have hhead := List.head?_dropWhile_not (!p ·) as
      simpa [hd] using hhead
    have hlt : rest.length < as.length := by
      rw [← has, hd, List.length_append, List.length_cons]
      omega
    rw [← has, hd]
    exact next _ b rest hfront hb (split_induction last next rest)
termination_by as.length

theorem mem_partsAt_iff {a : α} (as : List α) :
    (∃ part ∈ partsAt p as, a ∈ part) ↔ a ∈ as ∧ p a = false := by
  have hpart : ∀ as : List α, (∀ a ∈ as, p a = false) →
      ((∃ part ∈ partsAt p as, a ∈ part) ↔ a ∈ as) := by
    intro as h
    rw [partsAt_of_forall h]
    by_cases he : as = [] <;> simp [he]
  induction as using split_induction (p := p) with
  | last as h => rw [hpart as h]; exact ⟨fun ha => ⟨ha, h a ha⟩, And.left⟩
  | next as b rest h hb ih =>
    simp only [partsAt_append_cons hb, List.mem_append, or_and_right, exists_or, hpart as h, ih,
      List.mem_cons]
    constructor
    · rintro (ha | ha)
      · exact .inl ⟨ha, h a ha⟩
      · exact .inr (.inr ha)
    · rintro (ha | ⟨rfl, hp⟩ | ha)
      · exact .inl ha.1
      · rw [hb] at hp
        cases hp
      · exact .inr ha

end Parts

section Pieces

variable {separator : List Char}

/-- The pieces of a text between the separators that begin in it, taken from the left. -/
inductive Cuts (separator : List Char) : List Char → List (List Char) → Prop where
  | last : ¬ separator <:+: text → Cuts separator text [text]
  | next : (∀ x, x <:+ piece → x ≠ [] → ¬ separator <+: x ++ (separator ++ rest)) →
      Cuts separator rest pieces → Cuts separator (piece ++ (separator ++ rest)) (piece :: pieces)

theorem cut_cuts (hs : separator ≠ []) (text : List Char) :
    Cuts separator text (cut separator text) := by
  fun_induction cut separator text with
  | case1 => exact .last (by rwa [List.infix_nil])
  | case2 c rest hc ih =>
    rw [Bool.and_eq_true, List.isPrefixOf_iff_prefix] at hc
    obtain ⟨later, hl⟩ := hc.2
    have hrest : rest.drop (separator.length - 1) = later := by
      cases separator with
      | nil => exact absurd rfl hs
      | cons d tail =>
        rw [List.cons_append, List.cons.injEq] at hl
        simp [← hl.2]
    rw [hrest] at ih ⊢
    rw [← hl]
    exact .next (fun x hx hne => absurd (List.suffix_nil.1 hx) hne) ih
  | case3 c rest hc first later hcut ih =>
    have hwhole : ¬ separator <+: c :: rest := by simpa [hs] using hc
    rw [hcut] at ih
    cases ih with
    | last hl =>
      refine .last ?_
      rw [List.infix_cons_iff, not_or]
      exact ⟨hwhole, hl⟩
    | next hl hrest =>
      rw [← List.cons_append]
      refine .next (fun x hx hne => ?_) hrest
      rcases List.suffix_cons_iff.1 hx with rfl | hx
      · exact hwhole
      · exact hl x hx hne
  | case4 c rest hc hcut ih =>
    rw [hcut] at ih
    cases ih

/-- A separator within a piece would have been met before the one that ends the piece. -/
theorem not_infix_of_first (hs : separator ≠ [])
    (h : ∀ x, x <:+ piece → x ≠ [] → ¬ separator <+: x ++ tail) : ¬ separator <:+: piece := by
  rintro ⟨before, later, rfl⟩
  refine h (separator ++ later) ⟨before, by simp⟩ (by simp [hs]) ?_
  rw [List.append_assoc]
  exact List.prefix_append _ _

theorem Cuts.avoids (hs : separator ≠ []) (h : Cuts separator text pieces) :
    ∀ piece ∈ pieces, ¬ separator <:+: piece := by
  induction h with
  | last hl => simpa using hl
  | next hl _ ih =>
    rw [List.forall_mem_cons]
    exact ⟨not_infix_of_first hs hl, ih⟩

theorem mem_of_mem_placed {gap offset : Nat} {pieces : List (List Char)}
    (h : chunk ∈ placed gap offset pieces) : chunk.2 ∈ pieces := by
  induction pieces generalizing offset with
  | nil => cases h
  | cons piece pieces ih =>
    unfold placed at h
    by_cases hp : piece.isEmpty
    · rw [if_pos hp] at h
      exact List.mem_cons_of_mem _ (ih h)
    · rw [if_neg hp] at h
      rcases List.mem_cons.1 h with rfl | h
      · exact List.mem_cons_self
      · exact List.mem_cons_of_mem _ (ih h)

/-- A text splits at any separator that is not empty, into words that do not hold it. -/
theorem splitText_ok {separator : String} (hs : separator ≠ "") (text : String) :
    ∃ chunks, splitText separator text = .ok chunks ∧
      ∀ chunk ∈ chunks, ¬ separator.toList <:+: chunk.2.toList := by
  unfold splitText
  have he : ¬ separator.isEmpty = true := by rwa [String.isEmpty_iff]
  rw [if_neg he]
  refine ⟨_, rfl, ?_⟩
  intro chunk h
  obtain ⟨place, hp, rfl⟩ := List.mem_map.1 h
  have hne : separator.toList ≠ [] := by rwa [ne_eq, String.toList_eq_nil_iff]
  rw [String.toList_ofList]
  exact (cut_cuts hne _).avoids hne _ (mem_of_mem_placed hp)

end Pieces

section Tokens

variable {boundary : List Char}

theorem scan_symbols {alphabet : List (List Char)} {position : Int} {text : List Char}
    {tokens : List Token} (hb : ¬ boundary <:+: text)
    (h : scan boundary alphabet position text = .ok tokens) :
    ∀ t ∈ tokens, t.isBoundary = false := by
  fun_induction scan boundary alphabet position text generalizing tokens with
  | case1 =>
    cases h
    simp
  | case2 position c rest hc ih =>
    rw [Bool.and_eq_true, List.isPrefixOf_iff_prefix] at hc
    exact absurd hc.2.isInfix hb
  | case3 position c rest hc s hs ih =>
    have hsuffix : rest.drop (s.length - 1) <:+ c :: rest :=
      (List.drop_suffix _ rest).trans (List.suffix_cons c rest)
    cases hr : scan boundary alphabet (position + s.length) (rest.drop (s.length - 1)) with
    | error e =>
      rw [hr] at h
      cases h
    | ok later =>
      rw [hr] at h
      cases h
      intro t ht
      rcases List.mem_cons.1 ht with rfl | ht
      · rfl
      · exact ih (fun hi => hb (hi.trans hsuffix.isInfix)) hr t ht
  | case4 position c rest hc hs => cases h

theorem mapM_textOf {symbols : List Datum} {alphabet : List String} :
    symbols.mapM textOf = .ok alphabet ↔ symbols = alphabet.map .text := by
  constructor
  · intro h
    induction symbols generalizing alphabet with
    | nil => cases h; rfl
    | cons d rest ih =>
      rw [List.mapM_cons] at h
      cases d with
      | text s =>
        cases hr : rest.mapM textOf with
        | error f =>
          rw [hr] at h
          cases h
        | ok later =>
          rw [hr] at h
          cases h
          rw [ih hr, List.map_cons]
      | _ => cases h
  · rintro rfl
    induction alphabet with
    | nil => rfl
    | cons s rest ih =>
      rw [List.map_cons, List.mapM_cons, ih]
      rfl

theorem tokenizeBy_text (boundary : String) (alphabet : List String) (offset : Int)
    (text : String) :
    tokenizeBy (.text boundary) (alphabet.map .text) offset text =
      (tokenize boundary alphabet offset text).mapError Fault.error := by
  unfold tokenizeBy
  rw [mapM_textOf.2 rfl]
  by_cases he : text = ""
  · subst he
    rw [tokenize, String.toList_empty, scan]
    rfl
  · have hne : ¬ text.isEmpty = true := by rwa [String.isEmpty_iff]
    show (if text.isEmpty = true then _ else _) = _
    rw [if_neg hne]
    rfl

end Tokens

end Silbo
