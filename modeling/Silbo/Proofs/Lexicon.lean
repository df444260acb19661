import Silbo.Proofs.Resolution

/-!
Handles and names. Among texts a handle stands for one name and a name has one handle, so that the
hierarchy of a model is that of its table, with handles in the place of names.
-/
namespace Silbo

theorem Datum.text_beq {d : Datum} {s : String} : (text s == d) = true ↔ d = text s := by
  show same (text s) d = true ↔ _
  cases d with
  | text t =>
    rw [same, beq_iff_eq, text.injEq]
    exact eq_comm
  | _ => simp [same, number?]

namespace Lexicon

theorem exists_of_idxOf? [BEq α] {a : α} {l : List α} (h : l.idxOf? a = some i) :
    ∃ b, l[i]? = some b ∧ (b == a) = true := by
  unfold List.idxOf? at h
  obtain ⟨hi, hb, _⟩ := List.findIdx?_eq_some_iff_getElem.1 h
  exact ⟨l[i], List.getElem?_eq_getElem hi, hb⟩

theorem text_mem_eraseDups {s : String} (names : List Datum) :
    .text s ∈ names.eraseDups ↔ .text s ∈ names := by
  match names with
  | [] => simp
  | d :: rest =>
    have hlt : (rest.filter fun e => !e == d).length < rest.length + 1 :=
      Nat.lt_succ_of_le (List.length_filter_le _ _)
    rw [List.eraseDups_cons, List.mem_cons, List.mem_cons, text_mem_eraseDups, List.mem_filter]
    by_cases h : d = .text s
    · simp [h]
    · have hb : (Datum.text s == d) = false := by
        rw [Bool.eq_false_iff]
        exact fun hb => h (Datum.text_beq.1 hb)
      simp [hb, Ne.symm h]
termination_by names.length

theorem name?_of_handle? {l : Lexicon} (h : l.handle? (.text s) = some i) :
    l.name? i = some (.text s) := by
  obtain ⟨d, hd, hb⟩ := exists_of_idxOf? h
  rw [Datum.beq_text.1 hb] at hd
  exact hd

theorem handle?_injective {l : Lexicon} (h : l.handle? (.text s) = some i)
    (h' : l.handle? (.text t) = some i) : s = t := by
  have hs := name?_of_handle? h
  rw [name?_of_handle? h', Option.some.injEq, Datum.text.injEq] at hs
  exact hs.symm

theorem exists_handle?_iff {names : List Datum} {s : String} :
    (∃ i, (ofNames names).handle? (.text s) = some i) ↔ .text s ∈ names := by
  rw [← text_mem_eraseDups names, ← Option.isSome_iff_exists]
  unfold handle? ofNames List.idxOf?
  rw [List.findIdx?_isSome, List.any_eq_true]
  constructor
  · rintro ⟨d, hd, hb⟩
    exact Datum.beq_text.1 hb ▸ hd
  · exact fun h => ⟨.text s, h, Datum.beq_text.2 rfl⟩

end Lexicon

namespace Table

def hierarchy (t : Table) : Hierarchy String :=
  ⟨fun name => .text name ∈ t.symbols, fun name => t.classes.lookup name⟩

theorem symbol_mem_mentioned {t : Table} (h : .text x ∈ t.symbols) : .text x ∈ t.mentioned :=
  List.mem_append_left _ h

theorem class_mem_mentioned {t : Table} (h : (x, members) ∈ t.classes)
    (hy : y ∈ x :: members) : .text y ∈ t.mentioned := by
  unfold mentioned
  refine List.mem_append_right _ (List.mem_map.2 ⟨y, ?_, rfl⟩)
  refine List.mem_append_left _ (List.mem_append_left _ (List.mem_append_left _ ?_))
  exact List.mem_flatMap.2 ⟨(x, members), h, hy⟩

def handleOf (t : Table) (name : String) : Handle :=
  ((Lexicon.ofNames t.mentioned).handle? (.text name)).getD 0

theorem handle?_of_mentioned {t : Table} (h : .text x ∈ t.mentioned) :
    (Model.ofTable t).handle? x = some (t.handleOf x) := by
  obtain ⟨i, hi⟩ := Lexicon.exists_handle?_iff.2 h
  show (Lexicon.ofNames t.mentioned).handle? (.text x) = _
  rw [handleOf, hi]
  rfl

theorem mentioned_of_handle? {t : Table} (h : (Model.ofTable t).handle? x = some i) :
    .text x ∈ t.mentioned :=
  Lexicon.exists_handle?_iff.1 ⟨i, h⟩

theorem lookup_handleOf {t : Table} {entries : List (String × α)} {f : α → β}
    (hx : .text x ∈ t.mentioned) (he : ∀ p ∈ entries, .text p.1 ∈ t.mentioned) :
    (entries.map fun p => (t.handleOf p.1, f p.2)).lookup (t.handleOf x) =
      (entries.lookup x).map f := by
  induction entries with
  | nil => rfl
  | cons p rest ih =>
    obtain ⟨y, a⟩ := p
    have ih := ih fun p hp => he p (List.mem_cons_of_mem _ hp)
    rw [List.map_cons, List.lookup_cons, List.lookup_cons, ih]
    by_cases hxy : x = y
    · simp [hxy]
    · have hne : t.handleOf x ≠ t.handleOf y := by
        intro h
        have hy := handle?_of_mentioned (he (y, a) List.mem_cons_self)
        rw [← h] at hy
        exact hxy (Lexicon.handle?_injective (handle?_of_mentioned hx) hy)
      rw [beq_eq_false_iff_ne.2 hxy, beq_eq_false_iff_ne.2 hne]

end Table

namespace Model

theorem nameOf_of_handle? {m : Model} (h : m.handle? x = some i) : m.nameOf i = x := by
  unfold nameOf
  rw [Lexicon.name?_of_handle? h]
  rfl

/-- A handle is a symbol's if its name is declared as one. Values that are no texts have handles
too, but none of a text. -/
theorem isSymbolHandle_iff {t : Table} (h : (ofTable t).handle? x = some i) :
    (ofTable t).isSymbolHandle i = true ↔ .text x ∈ t.symbols := by
  have hi := Lexicon.name?_of_handle? h
  show (t.symbols.map _).contains i = true ↔ _
  rw [List.contains_iff_mem, List.mem_map]
  constructor
  · rintro ⟨d, hd, he⟩
    cases hn : (Lexicon.ofNames t.mentioned).handle? d with
    | some j =>
      rw [hn, Option.getD_some] at he
      subst he
      obtain ⟨e, hj, hb⟩ := Lexicon.exists_of_idxOf? hn
      have hje : some e = some (.text x) := hj.symm.trans hi
      rw [Option.some.inj hje] at hb
      rw [← Datum.text_beq.1 hb]
      exact hd
    | none =>
      -- Such a symbol counts as the first name, which is a symbol itself.
      rw [hn, Option.getD_none] at he
      subst he
      cases hs : t.symbols with
      | nil => rw [hs] at hd; cases hd
      | cons e rest =>
        have h0 : (Lexicon.ofNames t.mentioned).name? 0 = some e := by
          unfold Lexicon.name? Lexicon.ofNames Table.mentioned
          rw [hs, List.cons_append, List.eraseDups_cons]
          rfl
        have he : some e = some (.text x) := h0.symm.trans hi
        rw [Option.some.inj he]
        exact List.mem_cons_self
  · intro hx
    refine ⟨.text x, hx, ?_⟩
    have hl : (Lexicon.ofNames t.mentioned).handle? (.text x) = some i := h
    rw [hl]
    rfl

theorem members?_ofTable {t : Table} (h : (ofTable t).handle? x = some i) :
    (ofTable t).members? i = (t.classes.lookup x).map fun members => members.map t.handleOf := by
  have hx := Table.mentioned_of_handle? h
  rw [Table.handle?_of_mentioned hx, Option.some.injEq] at h
  rw [← h]
  exact Table.lookup_handleOf hx fun p hp =>
    Table.class_mem_mentioned hp List.mem_cons_self

theorem similar_ofTable (t : Table) :
    (ofTable t).hierarchy.Similar t.hierarchy fun i x =>
      (ofTable t).handle? x = some i where
  left_unique h h' := by
    rw [h, Option.some.injEq] at h'
    exact h'
  right_unique h h' := Lexicon.handle?_injective h h'
  leaf_iff h := isSymbolHandle_iff h
  none_iff h := by
    show (ofTable t).members? _ = none ↔ t.classes.lookup _ = none
    rw [members?_ofTable h, Option.map_eq_none_iff]
  forall₂ {x y members others} h hm ho := by
    have hx := members?_ofTable h
    rw [show (ofTable t).members? x = some members from hm,
      show t.classes.lookup y = some others from ho, Option.map_some, Option.some.injEq] at hx
    subst hx
    have hmem : (y, others) ∈ t.classes := mem_of_lookup ho
    rw [List.forall₂_map_left_iff, List.forall₂_same]
    intro z hz
    exact Table.handle?_of_mentioned
      (Table.class_mem_mentioned hmem (List.mem_cons_of_mem _ hz))

end Model

end Silbo
