import Silbo.Proofs.Interleaving

/-!
Boundaries of any length. As text, a boundary should end words where it stands and nowhere else. It
serves in four ways, however: as a template that is put for white space, as a pattern whose last
character may repeat, as a set of characters that are cut from both ends, and as a separator. All
four take it literally if, with boundaries for its white space, the text is words and boundaries in
turn.
-/
namespace Silbo
open Text

section Spacing

variable {b part rest text : List Char}

/-- The words of a text for which white space and the boundary as it stands are what ends a word. -/
def literalWords (b text : List Char) : List (List Char) :=
  (partsAt isBlank text).flatMap fun part => (cut b part).filter (!·.isEmpty)

theorem literalWords_append_cons (hc : isBlank c = true) (before later : List Char) :
    literalWords b (before ++ c :: later) = literalWords b before ++ literalWords b later := by
  rw [literalWords, partsAt_append_cons hc, List.flatMap_append]
  rfl

theorem literalWords_part (hne : part ≠ []) (h : ∀ c ∈ part, isBlank c = false) :
    literalWords b part = (cut b part).filter (!·.isEmpty) := by
  rw [literalWords, partsAt_eq_singleton hne h, List.flatMap_singleton]

theorem replaceRuns_part (put : List Char → List Char) (h : ∀ c ∈ part, isBlank c = false) :
    replaceRuns isBlank put [] (part ++ rest) = part ++ replaceRuns isBlank put [] rest := by
  induction part with
  | nil => rfl
  | cons c part ih =>
    rw [List.forall_mem_cons] at h
    rw [List.cons_append, replaceRuns, h.1, ih h.2]
    rfl

theorem Cuts.interleaves (h : Cuts b part pieces)
    (hw : ∀ w ∈ pieces.filter (!·.isEmpty), Stands b w) (ha : adjoining ∨ [] ∉ pieces)
    (hrest : Interleaves b adjoining front rest words) (hf : front = true ∨ rest = []) :
    ∃ front', Interleaves b adjoining front' (part ++ rest)
        (pieces.filter (!·.isEmpty) ++ words) ∧ ([] ∉ pieces → front' = false) := by
  induction h with
  | @last text _ =>
    by_cases hne : text = []
    · subst hne
      exact ⟨front, hrest, fun h => absurd List.mem_cons_self h⟩
    · have hfilter : [text].filter (!·.isEmpty) = [text] := by simp [hne]
      rw [hfilter] at hw ⊢
      exact ⟨false, .word (hw text List.mem_cons_self) hf hrest, fun _ => rfl⟩
  | @next piece later pieces _ _ ih =>
    have hlater : ∀ w ∈ pieces.filter (!·.isEmpty), Stands b w := by
      intro w hmem
      rw [List.mem_filter] at hmem
      exact hw w (List.mem_filter.2 ⟨List.mem_cons_of_mem _ hmem.1, hmem.2⟩)
    obtain ⟨front', h', hfalse⟩ := ih hlater (ha.imp_right fun h => (not_or.1 (by simpa using h)).2)
    have hjoin : adjoining ∨ front' = false :=
      ha.imp_right fun h => hfalse fun hmem => h (List.mem_cons_of_mem _ hmem)
    have hboundary := Interleaves.boundary hjoin h'
    rw [List.append_assoc, List.append_assoc]
    by_cases hne : piece = []
    · subst hne
      exact ⟨true, hboundary, fun h => absurd List.mem_cons_self h⟩
    · have hfilter : (piece :: pieces).filter (!·.isEmpty) =
          piece :: pieces.filter (!·.isEmpty) := by simp [hne]
      rw [hfilter] at hw ⊢
      exact ⟨false, .word (hw piece List.mem_cons_self) (.inl rfl) hboundary, fun _ => rfl⟩

theorem interleaves_part (hb : b ≠ []) (hpart : ∀ c ∈ part, isBlank c = false)
    (hw : ∀ w ∈ literalWords b part, Stands b w)
    (ha : adjoining ∨ ∀ p ∈ partsAt isBlank part, [] ∉ cut b p)
    (hrest : Interleaves b adjoining front rest words) (hf : front = true ∨ rest = []) :
    ∃ front', Interleaves b adjoining front' (part ++ rest) (literalWords b part ++ words) ∧
      if part = [] then front' = front else adjoining ∨ front' = false := by
  by_cases hne : part = []
  · subst hne
    exact ⟨front, hrest, by rw [if_pos rfl]⟩
  · rw [partsAt_eq_singleton hne hpart, List.forall_mem_singleton] at ha
    rw [literalWords_part hne hpart] at hw ⊢
    obtain ⟨front', h', hfalse⟩ := (cut_cuts hb part).interleaves hw ha hrest hf
    exact ⟨front', h', by rw [if_neg hne]; exact ha.imp_right hfalse⟩

theorem interleaves_spaced (hb : b ≠ []) (hw : ∀ w ∈ literalWords b text, Stands b w)
    (ha : adjoining ∨ ∀ part ∈ partsAt isBlank text, [] ∉ cut b part) :
    ∃ front, Interleaves b adjoining front (replaceRuns isBlank (fun _ => b) [] text)
        (literalWords b text) ∧
      ((∀ c ∈ text.head?, isBlank c = false) → adjoining ∨ front = false) := by
  induction hn : text.length using Nat.strong_induction_on generalizing text with
  | _ n ih =>
    subst hn
    have hpart : ∀ c ∈ text.takeWhile (!isBlank ·), isBlank c = false := fun c hc => by
      simpa using List.mem_takeWhile_imp hc
    have htext := List.takeWhile_append_dropWhile (p := (!isBlank ·)) (l := text)
    have hhead := List.head?_dropWhile_not (!isBlank ·) text
    generalize text.takeWhile (!isBlank ·) = part at hpart htext
    generalize text.dropWhile (!isBlank ·) = rest at htext hhead
    subst htext
    cases rest with
    | nil =>
      rw [List.append_nil] at hw ha
      obtain ⟨front, h, hfront⟩ := interleaves_part hb hpart hw ha .ended (.inr rfl)
      rw [List.append_nil] at h
      rw [replaceRuns_part _ hpart, List.append_nil]
      refine ⟨front, by simpa [replaceRuns] using h, fun _ => ?_⟩
      split at hfront
      · exact .inr hfront
      · exact hfront
    | cons c rest =>
      have hc : isBlank c = true := by simpa using hhead
      have hparts : partsAt isBlank (rest.dropWhile isBlank) = partsAt isBlank rest :=
        partsAt_dropWhile (fun _ h => h) rest
      have hwords : literalWords b (rest.dropWhile isBlank) = literalWords b rest := by
        rw [literalWords, hparts, literalWords]
      have hlt : (rest.dropWhile isBlank).length < (part ++ c :: rest).length := by
        have hle := (List.dropWhile_suffix (l := rest) isBlank).length_le
        rw [List.length_append, List.length_cons]
        omega
      rw [literalWords_append_cons hc, List.forall_mem_append, ← hwords] at hw
      rw [partsAt_append_cons hc, ← hparts] at ha
      obtain ⟨front, h, hfront⟩ := ih _ hlt hw.2
        (ha.imp_right fun h p hp => h p (List.mem_append_right _ hp)) rfl
      have hboundary := Interleaves.boundary (hfront fun d hd => by
        have hlater := List.head?_dropWhile_not isBlank rest
        rw [show (rest.dropWhile isBlank).head? = some d from hd] at hlater
        exact hlater) h
      obtain ⟨front', h', hfront'⟩ := interleaves_part hb hpart hw.1
        (ha.imp_right fun h p hp => h p (List.mem_append_left _ hp)) hboundary (.inl rfl)
      have hrun : replaceRuns isBlank (fun _ => b) [] (c :: rest) =
          b ++ replaceRuns isBlank (fun _ => b) [] (rest.dropWhile isBlank) := by
        rw [replaceRuns, if_pos hc, replaceRuns_run (List.cons_ne_nil c [])]
      rw [replaceRuns_part _ hpart, hrun, literalWords_append_cons hc, ← hwords]
      refine ⟨front', h', fun hhead => ?_⟩
      split at hfront'
      · next he =>
        subst he
        rw [hhead c rfl] at hc
        cases hc
      · exact hfront'

end Spacing

section Literal

variable {b part text : List Char}

/-- What a boundary needs to be taken literally in a text. As a template it has to stand for itself,
and no word may be mistaken for a part of it: next to it, or at an end of the text. -/
structure Suits (b text : List Char) : Prop where
  template : ∃ parts, readTemplate b = .ok parts ∧ ∀ found, fill parts found = b
  stands : ∀ w ∈ literalWords b text, Stands b w
  first : ∀ w ∈ (literalWords b text).head?, ∀ c ∈ w.head?, c ∉ b
  last : ∀ w ∈ (literalWords b text).getLast?, ∀ c ∈ w.getLast?, c ∉ b
  joins : Rejoins b ∨ ∀ part ∈ partsAt isBlank text, [] ∉ cut b part

/-- The words of the normal text are those that white space and the boundary as it stands leave of
the text. -/
def Literal (boundary text : String) : Prop :=
  ∃ normal chunks, Text.normalize boundary text = .ok normal ∧ splitText boundary normal = .ok chunks ∧
    chunks.map (·.2) = (literalWords boundary.toList (folded text.toList)).map String.ofList

theorem normalizeChars_ok {parts : List ReplacementPart} (h : readTemplate b = .ok parts)
    (text : List Char) :
    normalizeChars b text = .ok (trim b.contains (joinBoundaries b (fill parts)
      (replaceRuns isBlank (fill parts) [] (folded text)))) := by
  rw [normalizeChars, h]
  rfl

theorem normalize_ok_iff (boundary text : String) :
    (∃ normal, Text.normalize boundary text = .ok normal) ↔
      ∃ parts, readTemplate boundary.toList = .ok parts := by
  unfold Text.normalize normalizeChars
  cases readTemplate boundary.toList with
  | error e => exact ⟨nofun, nofun⟩
  | ok parts => exact ⟨fun _ => ⟨parts, rfl⟩, fun _ => ⟨_, rfl⟩⟩

theorem splitText_eq {boundary : String} (hb : boundary.toList ≠ []) (text : String) :
    ∃ chunks, splitText boundary text = .ok chunks ∧ chunks.map (·.2) =
      ((cut boundary.toList text.toList).filter (!·.isEmpty)).map String.ofList := by
  have hempty : ¬ boundary.isEmpty = true := by
    rwa [String.isEmpty_iff, ← String.toList_eq_nil_iff]
  unfold splitText
  rw [if_neg hempty]
  refine ⟨_, rfl, ?_⟩
  rw [← map_snd_placed boundary.length 0, List.map_map, List.map_map]
  rfl

theorem Suits.literal {boundary text : String} (hb : boundary.toList ≠ [])
    (h : Suits boundary.toList (folded text.toList)) : Literal boundary text := by
  obtain ⟨parts, hparts, hput⟩ := h.template
  obtain ⟨front, hspaced, -⟩ := interleaves_spaced hb h.stands h.joins
  obtain ⟨front, hfront⟩ := (hspaced.joinBoundaries id).dropWhile h.first
  obtain ⟨front, hends, -⟩ := hfront.rdropWhile h.last
  have hnormal := normalizeChars_ok hparts text.toList
  rw [show fill parts = fun _ => boundary.toList from funext hput, trim_eq] at hnormal
  obtain ⟨chunks, hchunks, hwords⟩ := splitText_eq hb (String.ofList _)
  refine ⟨String.ofList _, chunks, ?_, hchunks, ?_⟩
  · rw [Text.normalize, hnormal]
    rfl
  · rw [hwords, String.toList_ofList, hends.cut_eq hb]

section Apart

theorem cut_eq_singleton (h : ∀ x, x <:+ text → x ≠ [] → ¬ b <+: x) : cut b text = [text] := by
  have hcut : cut b (text ++ []) = _ := cut_word (by simpa using h)
  simpa [cut] using hcut

theorem Cuts.mem {c : Char} (h : Cuts b text pieces) (hp : piece ∈ pieces) (hc : c ∈ piece) :
    c ∈ text := by
  induction h with
  | last => rwa [← List.mem_singleton.1 hp]
  | next _ _ ih =>
    rcases List.mem_cons.1 hp with rfl | hp
    · exact List.mem_append_left _ hc
    · exact List.mem_append_right _ (List.mem_append_right _ (ih hp))

theorem mem_literalWords (hb : b ≠ []) (h : w ∈ literalWords b text) :
    w ≠ [] ∧ ∀ c ∈ w, c ∈ text ∧ isBlank c = false := by
  obtain ⟨part, hpart, hw⟩ := List.mem_flatMap.1 h
  rw [List.mem_filter] at hw
  refine ⟨by simpa using hw.2, fun c hc => ?_⟩
  exact (mem_partsAt_iff text).1 ⟨part, hpart, (cut_cuts hb part).mem hw.1 hc⟩

theorem suits_of_apart (hb : b ≠ []) (hplain : '\\' ∉ b)
    (h : ∀ c ∈ text, isBlank c = false → c ∉ b) : Suits b text := by
  have hbegun {x y : List Char} (hx : ∀ c ∈ x, c ∉ b) (hne : x ≠ []) : ¬ b <+: x ++ y := by
    obtain ⟨c, x, rfl⟩ := List.exists_cons_of_ne_nil hne
    obtain ⟨d, tail, rfl⟩ := List.exists_cons_of_ne_nil hb
    intro hpre
    rw [List.cons_append, List.cons_prefix_cons] at hpre
    exact hx c List.mem_cons_self (hpre.1 ▸ List.mem_cons_self)
  have hword {w : List Char} (hw : w ∈ literalWords b text) : ∀ c ∈ w, c ∉ b := fun c hc =>
    have hmem := (mem_literalWords hb hw).2 c hc
    h c hmem.1 hmem.2
  constructor
  · exact readTemplate_plain hplain
  · intro w hw
    refine ⟨(mem_literalWords hb hw).1, fun x hx => hbegun fun c hc => ?_, fun he => ?_⟩
    · exact hword hw c (hx.subset hc)
    · obtain ⟨c, w, rfl⟩ := List.exists_cons_of_ne_nil (mem_literalWords hb hw).1
      exact hword hw c List.mem_cons_self (List.mem_of_getLast? he.symm)
  · exact fun w hw c hc => hword (List.mem_of_mem_head? hw) c (List.mem_of_mem_head? hc)
  · exact fun w hw c hc => hword (List.mem_of_getLast? hw) c (List.mem_of_getLast? hc)
  · refine .inr fun part hpart hmem => ?_
    have hapart : ∀ c ∈ part, c ∉ b := fun c hc =>
      have hmem := (mem_partsAt_iff text).1 ⟨part, hpart, hc⟩
      h c hmem.1 hmem.2
    rw [cut_eq_singleton fun x hx hne => by
      simpa using hbegun (y := []) (fun c hc => hapart c (hx.subset hc)) hne] at hmem
    have hne := (List.mem_filter.1 hpart).2
    rw [← List.mem_singleton.1 hmem] at hne
    cases hne

end Apart

theorem not_literal_singleton {boundary : String} {c : Char} (hlong : 2 ≤ boundary.toList.length)
    (hc : c ∈ boundary.toList) (hblank : isBlank c = false) (hfold : folded [c] = [c]) :
    ¬ Literal boundary (String.singleton c) := by
  rintro ⟨normal, chunks, hnormal, hchunks, hwords⟩
  have hb : boundary.toList ≠ [] := by
    intro h
    rw [h] at hlong
    cases hlong
  have hshort {x : List Char} (hx : x <:+ [c]) : ¬ boundary.toList <+: x := by
    intro hpre
    have hle := hpre.length_le.trans hx.length_le
    rw [List.length_singleton] at hle
    omega
  have hpart : ∀ d ∈ [c], isBlank d = false := by simpa using hblank
  have hspaced (put : List Char → List Char) : replaceRuns isBlank put [] [c] = [c] := by
    simp [replaceRuns, hblank]
  have hjoined (put : List Char → List Char) :
      joinBoundaries boundary.toList put [c] = [c] := by
    obtain ⟨lead, last, he⟩ := (List.eq_nil_or_concat _).resolve_left hb
    rw [he, List.concat_eq_append] at hshort
    rw [he, List.concat_eq_append, Text.joinBoundaries, List.getLast?_concat, List.dropLast_concat]
    dsimp only
    split
    · rfl
    · have hword : replaceRepeats lead last put ([c] ++ []) = _ :=
        replaceRepeats_word fun x hx _ => by
          rw [List.append_nil]
          exact hshort hx
      simpa [replaceRepeats] using hword
  have htrimmed : trim boundary.toList.contains [c] = [] := by
    rw [trim_eq, List.dropWhile_cons_of_pos (by simpa using hc)]
    rfl
  obtain ⟨parts, hparts⟩ := (normalize_ok_iff _ _).1 ⟨normal, hnormal⟩
  rw [Text.normalize, String.toList_singleton, normalizeChars_ok hparts, hfold, hspaced, hjoined,
    htrimmed] at hnormal
  cases hnormal
  obtain ⟨chunks', hchunks', hwords'⟩ := splitText_eq hb (String.ofList [])
  rw [hchunks, Except.ok.injEq] at hchunks'
  subst hchunks'
  rw [hwords', String.toList_ofList, String.toList_singleton, hfold,
    literalWords_part (List.cons_ne_nil c []) hpart,
    cut_eq_singleton fun x hx _ => hshort hx] at hwords
  simp [cut] at hwords

/-- Which boundaries are taken literally. -/
theorem normalize_literal (boundary : String)
    (hb : 2 ≤ boundary.toList.length ∨ '\\' ∈ boundary.toList) :
    (∀ text, (∃ normal, Text.normalize boundary text = .ok normal) ↔
      ∃ parts, readTemplate boundary.toList = .ok parts) ∧
    (∀ text, Suits boundary.toList (folded text.toList) → Literal boundary text) ∧
    ((∀ c ∈ boundary.toList, isBlank c = true ∨ ∀ text, c ∉ folded text) →
      ∀ text, Literal boundary text) ∧
    ∀ c ∈ boundary.toList, isBlank c = false → folded [c] = [c] →
      ¬ Literal boundary (String.singleton c) := by
  have hne : boundary.toList ≠ [] := by
    intro h
    simp [h] at hb
  refine ⟨normalize_ok_iff boundary, fun text => Suits.literal hne, fun h text => ?_, ?_⟩
  · have hplain : '\\' ∉ boundary.toList := by
      intro hmem
      rcases h _ hmem with hblank | hnone
      · exact absurd hblank (by decide)
      · exact hnone ['\\'] (by decide +kernel)
    refine (suits_of_apart hne hplain fun c hc hblank hmem => ?_).literal hne
    rcases h c hmem with hb | hnone
    · rw [hblank] at hb
      cases hb
    · exact hnone _ hc
  · intro c hc hblank hfold hliteral
    by_cases hlong : 2 ≤ boundary.toList.length
    · exact not_literal_singleton hlong hc hblank hfold hliteral
    · -- A single backslash is no template at all.
      obtain ⟨d, hd⟩ : ∃ d, boundary.toList = [d] :=
        List.length_eq_one_iff.1 (by have := List.length_pos_iff.2 hne; omega)
      have hback : d = '\\' := by simpa [hd, eq_comm] using hb.resolve_left hlong
      obtain ⟨normal, -, hnormal, -⟩ := hliteral
      obtain ⟨parts, hparts⟩ := (normalize_ok_iff _ _).1 ⟨normal, hnormal⟩
      rw [hd, hback] at hparts
      cases hparts

/-- Of two dashes one is lost where it stands alone, and nothing where they stand between words. -/
theorem normalize_literal_dashes :
    2 ≤ "--".toList.length ∧
      (∃ normal chunks, Text.normalize "--" " Ti -- i--T" = .ok normal ∧
        splitText "--" normal = .ok chunks ∧ chunks.map (·.2) = ["ti", "i", "t"]) ∧
      isBlank '-' = false ∧ folded ['-'] = ['-'] ∧ ¬ Literal "--" "-" := by
  have hfold : folded ['-'] = ['-'] := by decide +kernel
  have hwords : literalWords "--".toList (folded " Ti -- i--T".toList) =
      [['t', 'i'], ['i'], ['t']] := by decide +kernel
  obtain ⟨-, hsuits, -, hlost⟩ := normalize_literal "--" (.inl (by decide))
  obtain ⟨normal, chunks, hnormal, hchunks, hmap⟩ := hsuits " Ti -- i--T"
    { template := readTemplate_plain (by decide)
      stands := by rw [hwords]; decide +kernel
      first := by rw [hwords]; simp
      last := by rw [hwords]; simp
      joins := .inl (by decide) }
  rw [hwords] at hmap
  exact ⟨by decide, ⟨normal, chunks, hnormal, hchunks, hmap⟩, by decide, hfold,
    hlost '-' (by decide) (by decide) hfold⟩

end Literal

end Silbo
