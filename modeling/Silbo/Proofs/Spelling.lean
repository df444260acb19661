import Mathlib.Data.List.DropRight
import Silbo.Proofs.Normalization
import Silbo.Proofs.Splitting
import Silbo.Word

/-!
Spelling with a boundary of one character. The normal spelling of a text is its words, in order and
with one boundary between neighbours, where white space and the boundary alike end a word of the
text. No step of normalization changes these words; what the steps leave is a text that the boundary
neither begins nor ends and in which it is never doubled, and such a text is its words joined.
-/
namespace Silbo

section Runs

variable {kind q : Char → Bool} {put : List Char → List Char} {b : Char}

theorem replaceRuns_run (hne : run ≠ []) (text : List Char) :
    Text.replaceRuns kind put run text =
      put (run.reverse ++ text.takeWhile kind) ++
        Text.replaceRuns kind put [] (text.dropWhile kind) := by
  induction text generalizing run with
  | nil => simp [Text.replaceRuns, hne]
  | cons c rest ih =>
    by_cases hc : kind c = true
    · rw [Text.replaceRuns, if_pos hc, ih (List.cons_ne_nil c run)]
      simp [hc]
    · simp [Text.replaceRuns, hc, hne]

/-- Where only what separates words is replaced, and by a separator, the words stay. The text before
the run is there for the induction. -/
theorem partsAt_replaceRuns (hput : ∀ run, put run = [b]) (hb : q b = true)
    (hq : ∀ c, kind c = true → q c = true) (hrun : ∀ c ∈ run, q c = true)
    (before text : List Char) :
    partsAt q (before ++ Text.replaceRuns kind put run text) =
      partsAt q (before ++ run.reverse ++ text) := by
  have hone : ∀ c ∈ [b], q c = true := by simpa using hb
  have hrev : ∀ c ∈ run.reverse, q c = true := fun c hc => hrun c (List.mem_reverse.1 hc)
  induction text generalizing run before with
  | nil =>
    rw [Text.replaceRuns, List.append_nil, partsAt_append_run hrev]
    by_cases he : run = []
    · simp [he]
    · simp [he, hput, partsAt_append_run hone]
  | cons c rest ih =>
    rw [Text.replaceRuns]
    by_cases hc : kind c = true
    · have hcons : ∀ d ∈ c :: run, q d = true := List.forall_mem_cons.2 ⟨hq c hc, hrun⟩
      rw [if_pos hc, ih hcons before fun d hd => hcons d (List.mem_reverse.1 hd)]
      simp
    · rw [if_neg hc]
      have hnil : ∀ d ∈ ([] : List Char), q d = true := by simp
      by_cases he : run = []
      · subst he
        simpa using ih hnil (before ++ [c]) hnil
      · have hrest : partsAt q (c :: Text.replaceRuns kind put [] rest) = partsAt q (c :: rest) :=
          ih hnil [c] hnil
        have hne : run.reverse ≠ [] := by simpa using he
        rw [partsAt_append_run_append hne hrev, ← hrest, List.isEmpty_eq_false_iff.2 he,
          if_neg Bool.false_ne_true, hput, ← List.append_assoc,
          partsAt_append_run_append (List.cons_ne_nil b []) hone]

theorem mem_of_mem_replaceRuns (hput : ∀ run, put run = [b])
    (h : c ∈ Text.replaceRuns kind put run text) : c = b ∨ c ∈ text ∧ kind c = false := by
  induction text generalizing run with
  | nil =>
    rw [Text.replaceRuns, hput] at h
    split at h
    · cases h
    · exact .inl (List.mem_singleton.1 h)
  | cons d rest ih =>
    rw [Text.replaceRuns, hput] at h
    split at h
    · exact (ih h).imp_right fun h => ⟨List.mem_cons_of_mem d h.1, h.2⟩
    · next hd =>
      rcases List.mem_append.1 h with h | h
      · split at h
        · cases h
        · exact .inl (List.mem_singleton.1 h)
      · rcases List.mem_cons.1 h with rfl | h
        · exact .inr ⟨List.mem_cons_self, by simpa using hd⟩
        · exact (ih h).imp_right fun h => ⟨List.mem_cons_of_mem d h.1, h.2⟩

theorem not_doubled_cons (h : ¬ [b, b] <:+: text) (hc : c = b → text.head? ≠ some b) :
    ¬ [b, b] <:+: c :: text := by
  rw [List.infix_cons_iff, not_or, List.cons_prefix_cons, List.singleton_prefix_iff_head?_eq_some]
  exact ⟨fun hp => hc hp.1.symm hp.2, h⟩

theorem not_doubled_replaceRuns (hput : ∀ run, put run = [b]) (hb : kind b = true)
    (run text : List Char) : ¬ [b, b] <:+: Text.replaceRuns kind put run text := by
  have hone : ¬ [b, b] <:+: [b] := fun h => absurd h.length_le (by simp)
  induction text generalizing run with
  | nil =>
    rw [Text.replaceRuns, hput]
    split
    · simp
    · exact hone
  | cons c rest ih =>
    rw [Text.replaceRuns, hput]
    split
    · exact ih (c :: run)
    · next hc =>
      have hne : c ≠ b := by
        rintro rfl
        exact hc hb
      have hrest : ¬ [b, b] <:+: c :: Text.replaceRuns kind put [] rest :=
        not_doubled_cons (ih []) fun h => absurd h hne
      split
      · exact hrest
      · exact not_doubled_cons hrest fun _ => by simpa using hne

theorem repeatedLength_nil (b : Char) (text : List Char) :
    Text.repeatedLength [] b text = (text.takeWhile (· == b)).length := by
  rw [Text.repeatedLength, List.length_nil, List.drop_zero]
  cases (text.takeWhile (· == b)).length <;> simp

theorem replaceRepeats_nil (hput : ∀ run, put run = [b]) (text : List Char) :
    Text.replaceRepeats [] b put text = Text.replaceRuns (· == b) put [] text := by
  fun_induction Text.replaceRepeats [] b put text with
  | case1 => rfl
  | case2 c rest h ih =>
    rw [repeatedLength_nil] at h
    have hc : ¬ (c == b) = true := by
      intro hc
      simp [hc] at h
    simp [Text.replaceRuns, hc, ih]
  | case3 c rest n h ih =>
    rw [repeatedLength_nil] at h
    have hc : (c == b) = true := by
      by_contra hc
      simp [hc] at h
    have hn : n = (rest.takeWhile (· == b)).length := by simpa [hc] using h.symm
    have hdrop : rest.drop n = rest.dropWhile (· == b) :=
      calc
        rest.drop n = (rest.takeWhile (· == b) ++ rest.dropWhile (· == b)).drop
            (rest.takeWhile (· == b)).length := by rw [List.takeWhile_append_dropWhile, hn]
        _ = rest.dropWhile (· == b) := List.drop_left
    rw [ih, hdrop, Text.replaceRuns, if_pos hc, replaceRuns_run (List.cons_ne_nil c []), hput, hput]

end Runs

section Ends

variable {p q : Char → Bool}

theorem trim_eq (p : Char → Bool) (text : List Char) :
    Text.trim p text = (text.dropWhile p).rdropWhile p := rfl

theorem partsAt_trim (h : ∀ c, p c = true → q c = true) (text : List Char) :
    partsAt q (Text.trim p text) = partsAt q text := by
  have hend : ∀ c ∈ (text.dropWhile p).rtakeWhile p, q c = true :=
    fun c hc => h c (List.mem_rtakeWhile_imp hc)
  rw [trim_eq, ← partsAt_append_run hend, List.rdropWhile_append_rtakeWhile, partsAt_dropWhile h]

theorem trim_infix (p : Char → Bool) (text : List Char) : Text.trim p text <:+: text :=
  (List.rdropWhile_prefix p _).isInfix.trans (List.dropWhile_suffix p).isInfix

theorem head?_trim (hp : p c = true) (text : List Char) : (Text.trim p text).head? ≠ some c := by
  intro h
  obtain ⟨later, hl⟩ := List.rdropWhile_prefix p (text.dropWhile p)
  have hhead := List.head?_dropWhile_not p text
  rw [← hl, ← trim_eq, List.head?_append, h] at hhead
  simp [hp] at hhead

theorem getLast?_trim (hp : p c = true) (text : List Char) :
    (Text.trim p text).getLast? ≠ some c := by
  intro h
  have hne : (text.dropWhile p).rdropWhile p ≠ [] := by
    intro he
    rw [trim_eq, he] at h
    cases h
  rw [trim_eq, List.getLast?_eq_some_getLast hne, Option.some.injEq] at h
  exact List.rdropWhile_last_not p _ hne (h ▸ hp)

end Ends

section Tight

variable {b : Char} {text : List Char}

theorem head?_splitOn (hne : text ≠ []) (h : text.head? ≠ some b) :
    (text.splitOn b).head? ≠ some [] := by
  cases text with
  | nil => exact absurd rfl hne
  | cons c rest =>
    have hc : ¬ c = b := by simpa using h
    rw [List.splitOn_cons_eq_if_modifyHead]
    obtain ⟨part, parts, hs⟩ := List.exists_cons_of_ne_nil (List.splitOn_ne_nil b rest)
    simp [hc, hs]

theorem nil_not_mem_tail_splitOn (hd : ¬ [b, b] <:+: text) (hl : text.getLast? ≠ some b) :
    [] ∉ (text.splitOn b).tail := by
  induction text with
  | nil => simp
  | cons c rest ih =>
    rw [List.infix_cons_iff, not_or, List.cons_prefix_cons,
      List.singleton_prefix_iff_head?_eq_some, not_and] at hd
    have hrest : rest.getLast? ≠ some b := by
      intro h
      simp [List.getLast?_cons, h] at hl
    rw [List.splitOn_cons_eq_if_modifyHead]
    by_cases hc : c = b
    · subst hc
      have hne : rest ≠ [] := by
        rintro rfl
        exact hl rfl
      obtain ⟨part, parts, hs⟩ := List.exists_cons_of_ne_nil (List.splitOn_ne_nil c rest)
      have hhead := head?_splitOn hne (hd.1 rfl)
      have htail := ih hd.2 hrest
      rw [hs] at hhead htail ⊢
      simp only [beq_self_eq_true, if_true, List.tail_cons, List.mem_cons, not_or]
      exact ⟨fun h => hhead (by rw [← h]; rfl), htail⟩
    · simpa [hc] using ih hd.2 hrest

theorem intercalate_partsAt (hh : text.head? ≠ some b) (hl : text.getLast? ≠ some b)
    (hd : ¬ [b, b] <:+: text) : [b].intercalate (partsAt (· == b) text) = text := by
  by_cases hne : text = []
  · simp [hne]
  · obtain ⟨part, parts, hs⟩ := List.exists_cons_of_ne_nil (List.splitOn_ne_nil b text)
    have hhead := head?_splitOn hne hh
    have htail := nil_not_mem_tail_splitOn hd hl
    rw [hs] at hhead htail
    have hall : partsAt (· == b) text = text.splitOn b := by
      rw [partsAt, ← List.splitOn_eq_splitOnP, List.filter_eq_self, hs]
      intro w hw
      rcases List.mem_cons.1 hw with rfl | hw
      · simpa using hhead
      · simpa using ne_of_mem_of_not_mem hw htail
    rw [hall, List.intercalate_splitOn]

end Tight

section Chunks

theorem cut_singleton (b : Char) (text : List Char) : cut [b] text = text.splitOn b := by
  induction text with
  | nil => simp [cut]
  | cons c rest ih =>
    rw [List.splitOn_cons_eq_if_modifyHead, cut]
    obtain ⟨part, parts, hs⟩ := List.exists_cons_of_ne_nil (List.splitOn_ne_nil b rest)
    by_cases hc : c = b
    · simp [hc, ih]
    · have hc' : ¬ b = c := Ne.symm hc
      simp [hc, hc', ih, hs]

theorem map_snd_placed (gap offset : Nat) (pieces : List (List Char)) :
    (placed gap offset pieces).map (·.2) = pieces.filter (!·.isEmpty) := by
  induction pieces generalizing offset with
  | nil => rfl
  | cons piece pieces ih =>
    unfold placed
    by_cases hp : piece = [] <;> simp [hp, ih]

theorem splitText_singleton (b : Char) (text : String) :
    ∃ chunks, splitText (String.singleton b) text = .ok chunks ∧
      chunks.map (·.2) = (partsAt (· == b) text.toList).map String.ofList := by
  have hb : ¬ (String.singleton b).isEmpty = true := by simp
  unfold splitText
  rw [if_neg hb]
  refine ⟨_, rfl, ?_⟩
  rw [partsAt, ← List.splitOn_eq_splitOnP, ← cut_singleton,
    ← map_snd_placed (String.singleton b).length 0, List.map_map, List.map_map,
    String.toList_singleton]
  rfl

end Chunks

section Normal

variable {put : List Char → List Char} {b : Char}

/-- Whether a character ends a word of a text that is still to be normalized. -/
def endsWord (b c : Char) : Bool := Text.isBlank c || c == b

theorem endsWord_boundary (b : Char) : endsWord b b = true := by simp [endsWord]

theorem joinBoundaries_singleton (hput : ∀ run, put run = [b]) (text : List Char) :
    Text.joinBoundaries [b] put text =
      if Text.isBlank b = true then text else Text.replaceRuns (· == b) put [] text := by
  simp [Text.joinBoundaries, replaceRepeats_nil hput]

theorem partsAt_joinBoundaries (hput : ∀ run, put run = [b]) (text : List Char) :
    partsAt (endsWord b) (Text.joinBoundaries [b] put text) = partsAt (endsWord b) text := by
  rw [joinBoundaries_singleton hput]
  split
  · rfl
  · have hq : ∀ c, (c == b) = true → endsWord b c = true := by simp [endsWord]
    exact partsAt_replaceRuns hput (endsWord_boundary b) hq (by simp) [] text

/-- A blank boundary is joined with the blanks around it, any other one by a step of its own. -/
theorem not_doubled_joinBoundaries (hput : ∀ run, put run = [b]) (text : List Char) :
    ¬ [b, b] <:+:
      Text.joinBoundaries [b] put (Text.replaceRuns Text.isBlank put [] text) := by
  rw [joinBoundaries_singleton hput]
  split
  · next hb => exact not_doubled_replaceRuns hput hb [] text
  · exact not_doubled_replaceRuns hput (by simp) [] _

theorem mem_of_mem_joinBoundaries (hput : ∀ run, put run = [b])
    (h : c ∈ Text.joinBoundaries [b] put text) : c = b ∨ c ∈ text := by
  rw [joinBoundaries_singleton hput] at h
  split at h
  · exact .inr h
  · exact (mem_of_mem_replaceRuns hput h).imp_right And.left

/-- No boundary at an end or beside another one, and nothing else that is blank. -/
structure Canonical (b : Char) (text : List Char) : Prop where
  head : text.head? ≠ some b
  last : text.getLast? ≠ some b
  single : ¬ [b, b] <:+: text
  blank : ∀ c ∈ text, Text.isBlank c = true → c = b

theorem Canonical.partsAt_eq (h : Canonical b text) :
    partsAt (· == b) text = partsAt (endsWord b) text := by
  refine partsAt_congr fun c hc => ?_
  by_cases he : c = b
  · simp [he, endsWord]
  · have hcb := mt (h.blank c hc) he
    simp [endsWord, hcb]

theorem Canonical.intercalate_eq (h : Canonical b text) :
    [b].intercalate (partsAt (· == b) text) = text :=
  intercalate_partsAt h.head h.last h.single

/-- A boundary of one character does as a template unless it is the escape character, and a text
comes out of all four steps with its words. -/
theorem normalizeChars_singleton (hb : b ≠ '\\') (text : List Char) :
    ∃ normal, Text.normalizeChars [b] text = .ok normal ∧ Canonical b normal ∧
      partsAt (endsWord b) normal = partsAt (endsWord b) (Text.folded text) := by
  have hmem : '\\' ∉ [b] := by simpa using hb.symm
  obtain ⟨parts, hparts, hput⟩ := Text.readTemplate_plain hmem
  have hends : ∀ c, [b].contains c = true → endsWord b c = true := by
    intro c hc
    have he : c = b := by simpa using hc
    rw [he, endsWord_boundary]
  have hblank : ∀ c, Text.isBlank c = true → endsWord b c = true := by
    intro c hc
    simp [endsWord, hc]
  let joined := Text.joinBoundaries [b] (Text.fill parts)
    (Text.replaceRuns Text.isBlank (Text.fill parts) [] (Text.folded text))
  have hwithin : Text.trim [b].contains joined <:+: joined := trim_infix _ _
  refine ⟨Text.trim [b].contains joined, ?_, ⟨?_, ?_, ?_, ?_⟩, ?_⟩
  · rw [Text.normalizeChars, hparts]
    rfl
  · exact head?_trim (by simp) joined
  · exact getLast?_trim (by simp) joined
  · intro h
    exact not_doubled_joinBoundaries hput _ (h.trans hwithin)
  · intro c hc hcb
    rcases mem_of_mem_joinBoundaries hput (hwithin.subset hc) with he | hc
    · exact he
    · have hplain := mem_of_mem_replaceRuns hput hc
      simpa [hcb] using hplain
  · rw [partsAt_trim hends, partsAt_joinBoundaries hput]
    exact partsAt_replaceRuns hput (endsWord_boundary b) hblank (by simp) [] _

/-- The words of a normal text are those of the text as it was read, where white space and the
boundary alike end a word. Joined again they are the normal text. -/
theorem normalize_words (b : Char) (hb : b ≠ '\\') (text : String) :
    ∃ normal chunks, Text.normalize (String.singleton b) text = .ok normal ∧
      splitText (String.singleton b) normal = .ok chunks ∧
      chunks.map (·.2) =
        (partsAt (endsWord b) (Text.folded text.toList)).map String.ofList ∧
      (String.singleton b).intercalate (chunks.map (·.2)) = normal ∧
      Canonical b normal.toList ∧
      ∀ m : Model, m.boundary = .text (String.singleton b) → m.chunks text = .ok chunks := by
  obtain ⟨normal, hn, hcanon, hparts⟩ := normalizeChars_singleton hb text.toList
  obtain ⟨chunks, hc, hwords⟩ := splitText_singleton b (String.ofList normal)
  rw [String.toList_ofList] at hwords
  have hnormal : Text.normalize (String.singleton b) text = .ok (String.ofList normal) := by
    rw [Text.normalize, String.toList_singleton, hn]
    rfl
  refine ⟨String.ofList normal, chunks, hnormal, hc, ?_, ?_, ?_, ?_⟩
  · rw [hwords, hcanon.partsAt_eq, hparts]
  · apply String.toList_inj.1
    rw [String.toList_intercalate, hwords, List.map_map, String.toList_singleton,
      String.toList_ofList]
    have hlists : String.toList ∘ String.ofList = id := funext fun _ => String.toList_ofList
    rw [hlists, List.map_id, hcanon.intercalate_eq]
  · rwa [String.toList_ofList]
  · intro m hm
    rw [Model.chunks, hm]
    show (Text.normalize (String.singleton b) text).mapError Fault.template >>=
      splitTextBy (.text (String.singleton b)) = _
    rw [hnormal]
    exact hc

/-- Blanks and boundaries in turn, capitals, and a space that does not break a line. -/
theorem normalize_words_slash :
    '/' ≠ '\\' ∧ ∃ normal chunks,
      Text.normalize (String.singleton '/') " / Ti\u00a0/ //i\tT /" = .ok normal ∧
      splitText (String.singleton '/') normal = .ok chunks ∧
      chunks.map (·.2) = ["ti", "i", "t"] ∧ normal = "ti/i/t" ∧ Canonical '/' normal.toList := by
  have hb : '/' ≠ '\\' := by decide
  obtain ⟨normal, chunks, hn, hc, hwords, hjoin, hcanon, -⟩ :=
    normalize_words '/' hb " / Ti\u00a0/ //i\tT /"
  have hparts : (partsAt (endsWord '/') (Text.folded " / Ti\u00a0/ //i\tT /".toList)).map
      String.ofList = ["ti", "i", "t"] := by decide +kernel
  rw [hparts] at hwords
  rw [hwords] at hjoin
  exact ⟨hb, normal, chunks, hn, hc, hwords, hjoin.symm, hcanon⟩

end Normal

end Silbo
