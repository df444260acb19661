import Mathlib.Data.List.Induction
import Silbo.Proofs.Lexicon
import Silbo.Table.Reader

/-!
Names numbered on the way. A table may be gone through once, so that each name gets its number when
it is first met and each side of a context is read with the names met so far. The model is the same:
a number once given stays, and what is filed under numbers is found as it is found under names.
-/
namespace Silbo

theorem Datum.contains_text {ds : List Datum} {s : String} :
    ds.contains (text s) = true ↔ text s ∈ ds := by
  rw [List.contains_eq_any_beq, List.any_eq_true]
  constructor
  · rintro ⟨d, hd, hb⟩
    rwa [text_beq.1 hb] at hd
  · exact fun h => ⟨text s, h, beq_text.2 rfl⟩

namespace Lexicon

section Order

variable [BEq α]

theorem eraseDups_concat (as : List α) (b : α) :
    (as ++ [b]).eraseDups =
      if as.eraseDups.contains b then as.eraseDups else as.eraseDups ++ [b] := by
  match as with
  | [] => rfl
  | a :: rest =>
    have hlt : (rest.filter fun c => !c == a).length < rest.length + 1 :=
      Nat.lt_succ_of_le (List.length_filter_le _ _)
    rw [List.cons_append, List.eraseDups_cons, List.eraseDups_cons, List.filter_append,
      List.contains_cons]
    by_cases hb : (b == a) = true
    · simp [hb]
    · have ih := eraseDups_concat (rest.filter fun c => !c == a) b
      have hkept : [b].filter (fun c => !c == a) = [b] := by simp [hb]
      rw [hkept, ih, Bool.eq_false_iff.2 hb, Bool.false_or]
      split <;> rfl
termination_by as.length

theorem eraseDups_prefix (as bs : List α) : as.eraseDups <+: (as ++ bs).eraseDups := by
  induction bs using List.reverseRecOn with
  | nil => simp
  | append_singleton bs b ih =>
    rw [← List.append_assoc, eraseDups_concat]
    split
    · exact ih
    · exact ih.trans (List.prefix_append _ _)

theorem pairwise_eraseDups (as : List α) : as.eraseDups.Pairwise fun a b => (b == a) = false := by
  induction as using List.reverseRecOn with
  | nil => exact List.Pairwise.nil
  | append_singleton as b ih =>
    rw [eraseDups_concat]
    split
    · exact ih
    · rename_i hb
      rw [List.pairwise_append]
      refine ⟨ih, List.pairwise_singleton _ b, fun a ha c hc => ?_⟩
      rw [List.mem_singleton.1 hc, Bool.eq_false_iff]
      exact fun h => hb (by rw [List.contains_eq_any_beq]; exact List.any_eq_true.2 ⟨a, ha, h⟩)

end Order

theorem handle?_eq_some_iff {names : List Datum} {s : String} :
    (ofNames names).handle? (.text s) = some i ↔ (ofNames names).name? i = some (.text s) := by
  constructor
  · exact name?_of_handle?
  · intro h
    obtain ⟨hi, hs⟩ := List.getElem?_eq_some_iff.1 h
    have hdistinct : (ofNames names).names.Pairwise fun a b => (b == a) = false :=
      pairwise_eraseDups names
    refine List.findIdx?_eq_some_iff_getElem.2 ⟨hi, Datum.beq_text.2 hs, fun j hj hb => ?_⟩
    have hne := List.pairwise_iff_getElem.1 hdistinct j i (Nat.lt_trans hj hi) hi hj
    rw [hs, Datum.beq_text.1 hb, Bool.eq_false_iff] at hne
    exact hne (Datum.beq_text.2 rfl)

theorem handle?_append {names : List Datum} (h : (ofNames names).handle? d = some i)
    (later : List Datum) : (ofNames (names ++ later)).handle? d = some i := by
  obtain ⟨added, hadded⟩ := eraseDups_prefix names later
  show (names ++ later).eraseDups.findIdx? (· == d) = some i
  rw [← hadded, List.findIdx?_append, show names.eraseDups.findIdx? (· == d) = some i from h]
  rfl

theorem contains_ofNames {names : List Datum} {s : String} :
    (ofNames names).names.contains (.text s) = ((ofNames names).handle? (.text s)).isSome := by
  rw [Bool.eq_iff_iff, Option.isSome_iff_exists, exists_handle?_iff, Datum.contains_text]
  exact text_mem_eraseDups names

theorem handle?_append_texts {names : List Datum} (hd : d ∈ names) (texts : List String) :
    (ofNames (names ++ texts.map Datum.text)).handle? d = (ofNames names).handle? d := by
  induction texts using List.reverseRecOn with
  | nil => rw [List.map_nil, List.append_nil]
  | append_singleton texts s ih =>
    rw [← ih, List.map_append, ← List.append_assoc]
    show (names ++ texts.map Datum.text ++ [Datum.text s]).eraseDups.findIdx? (· == d) =
      (names ++ texts.map Datum.text).eraseDups.findIdx? (· == d)
    rw [eraseDups_concat]
    split
    · rfl
    · rename_i hs
      have hne : (Datum.text s == d) = false := by
        rw [Bool.eq_false_iff]
        intro hb
        rw [Datum.contains_text, text_mem_eraseDups, ← Datum.text_beq.1 hb] at hs
        exact hs (List.mem_append_left _ hd)
      rw [List.findIdx?_append, List.findIdx?_cons, hne]
      simp

def add (l : Lexicon) (name : Datum) : Lexicon :=
  if l.names.contains name then l else ⟨l.names ++ [name]⟩

theorem add_ofNames (names : List Datum) (d : Datum) :
    (ofNames names).add d = ofNames (names ++ [d]) := by
  unfold add ofNames
  rw [eraseDups_concat]
  split <;> rfl

theorem foldl_add (names : List Datum) : names.foldl add ⟨[]⟩ = ofNames names := by
  induction names using List.reverseRecOn with
  | nil => rfl
  | append_singleton names d ih =>
    rw [List.foldl_append, ih, List.foldl_cons, List.foldl_nil, add_ofNames]

def intern (name : String) : StateM Lexicon Handle := fun l =>
  match l.handle? (.text name) with
  | some h => (h, l)
  | none => (l.names.length, ⟨l.names ++ [.text name]⟩)

theorem exists_intern (names : List Datum) (name : String) :
    ∃ i, (intern name).run (ofNames names) = (i, ofNames (names ++ [.text name])) ∧
      (ofNames (names ++ [.text name])).handle? (.text name) = some i := by
  have hadd := add_ofNames names (.text name)
  unfold add at hadd
  rw [contains_ofNames] at hadd
  unfold intern
  cases hi : (ofNames names).handle? (.text name) with
  | some i =>
    rw [hi, Option.isSome_some, if_pos rfl] at hadd
    refine ⟨i, ?_, handle?_append hi _⟩
    rw [← hadd]
    simp only [StateT.run, hi]
  | none =>
    rw [hi, Option.isSome_none, if_neg Bool.false_ne_true] at hadd
    refine ⟨(ofNames names).names.length, ?_, ?_⟩
    · rw [← hadd]
      simp only [StateT.run, hi]
    · rw [← hadd]
      show ((ofNames names).names ++ [Datum.text name]).findIdx? (· == .text name) = _
      have hnew : (ofNames names).names.findIdx? (· == .text name) = none := hi
      rw [List.findIdx?_append, hnew, List.findIdx?_singleton, Datum.beq_text.2 rfl]
      simp

end Lexicon

/-- Work that comes to `a` and meets names on the way, wherever it begins among all names. -/
def Meets (all : List Datum) (x : StateM Lexicon α) (met : List String) (a : α) : Prop :=
  ∀ before, before ++ met.map .text <+: all →
    x.run (.ofNames before) = (a, .ofNames (before ++ met.map .text))

section Walks

variable {all : List Datum}

theorem meets_pure (a : α) : Meets all (pure a) [] a := by
  intro before _
  rw [List.map_nil, List.append_nil]
  rfl

theorem Meets.bind {x : StateM Lexicon α} {f : α → StateM Lexicon β}
    (hx : Meets all x met a) (hf : Meets all (f a) later b) :
    Meets all (x >>= f) (met ++ later) b := by
  intro before h
  rw [List.map_append, ← List.append_assoc] at h ⊢
  have hfirst := hx before ((List.prefix_append _ _).trans h)
  show (f (x.run (.ofNames before)).1).run (x.run (.ofNames before)).2 = _
  rw [hfirst]
  exact hf _ h

theorem Meets.map {x : StateM Lexicon α} (hx : Meets all x met a) (f : α → β) :
    Meets all (x >>= fun a => pure (f a)) met (f a) := by
  have h := hx.bind (f := fun a => pure (f a)) (meets_pure (f a))
  rwa [List.append_nil] at h

theorem meets_mapM {f : α → StateM Lexicon β} {met : α → List String} {g : α → β} (as : List α)
    (h : ∀ a ∈ as, Meets all (f a) (met a) (g a)) :
    Meets all (as.mapM f) (as.flatMap met) (as.map g) := by
  induction as with
  | nil => exact meets_pure []
  | cons a as ih =>
    rw [List.forall_mem_cons] at h
    rw [List.mapM_cons, List.flatMap_cons, List.map_cons]
    exact h.1.bind ((ih h.2).map _)

/-- The number that a name gets is its number among all names. -/
theorem meets_intern (all : List Datum) (name : String) :
    Meets all (Lexicon.intern name) [name]
      (((Lexicon.ofNames all).handle? (.text name)).getD 0) := by
  intro before h
  obtain ⟨later, rfl⟩ := h
  obtain ⟨i, hrun, hi⟩ := Lexicon.exists_intern before name
  rw [List.map_singleton, Lexicon.handle?_append hi later, Option.getD_some]
  exact hrun

end Walks

namespace Table
open Lexicon

def internClass (c : String × List String) : StateM Lexicon (Handle × List Handle) := do
  let h ← intern c.1
  let members ← c.2.mapM intern
  return (h, members)

def internField (p : String × α) : StateM Lexicon (Handle × α) := do
  let h ← intern p.1
  return (h, p.2)

/-- Reads a side of a context with the names met so far. -/
def internSide (m : Model) (side : String) : StateM Lexicon Pattern := do
  if !side.isEmpty then discard (intern side)
  let l ← get
  return { m with lexicon := l }.pattern side

def internRule (m : Model) (r : ContextRule) : StateM Lexicon Rule := do
  let left ← internSide m r.left
  let right ← internSide m r.right
  return ⟨left, right, r.pronunciation⟩

def internGrapheme (m : Model) (p : String × Grapheme) : StateM Lexicon (Handle × Entry) := do
  let h ← intern p.1
  let rules ← p.2.rules.mapM (internRule m)
  return (h, ⟨p.1, p.2.elsewhere, rules⟩)

/-- Files what a table declares beside its symbols, numbering the names on the way. -/
def internFields (t : Table) (m : Model) : StateM Lexicon Model := do
  let classes ← t.classes.mapM internClass
  let constants ← t.constants.mapM internField
  let macros ← t.macros.mapM internField
  let entries ← t.graphemes.mapM (internGrapheme m)
  return { m with classes, constants, macros, entries }

/-- The model of a table that is gone through once. -/
def assemble (t : Table) : Model :=
  let l := t.symbols.foldl add ⟨[]⟩
  let symbols := t.symbols.map fun d => (l.handle? d).getD 0
  let (m, l) := (t.internFields ⟨t.boundary, t.symbols, l, symbols, [], [], [], []⟩).run l
  { m with lexicon := l }

variable {t : Table}

theorem pattern_congr {m m' : Model} {side : String} (hs : m.symbols = m'.symbols)
    (hh : m.handle? side = m'.handle? side) : m.pattern side = m'.pattern side := by
  unfold Model.pattern Model.isSymbolHandle
  rw [hs, hh]

theorem internSide_run (m : Model) (side : String) (l : Lexicon) :
    (internSide m side).run l =
      let l := if side.isEmpty then l else ((intern side).run l).2
      ({ m with lexicon := l }.pattern side, l) := by
  unfold internSide
  cases side.isEmpty <;> rfl

/-- A side that is read halfway is read as in the end: its name has its number by then. -/
theorem meets_internSide {m : Model} (hm : m.symbols = (Model.ofTable t).symbols) (side : String) :
    Meets t.mentioned (internSide m side) ([side].filter (!·.isEmpty))
      ((Model.ofTable t).pattern side) := by
  intro before h
  rw [internSide_run]
  by_cases hside : side.isEmpty = true
  · have hmet : [side].filter (!·.isEmpty) = [] := by simp [hside]
    have hboundary (m : Model) : m.pattern side = .boundary := if_pos hside
    rw [hmet, List.map_nil, List.append_nil, if_pos hside, hboundary]
    exact Prod.ext (hboundary _) rfl
  · have hmet : [side].filter (!·.isEmpty) = [side] := by simp [hside]
    rw [hmet, List.map_singleton] at h ⊢
    obtain ⟨later, hlater⟩ := h
    obtain ⟨i, hrun, hi⟩ := exists_intern before side
    have hall : (Model.ofTable t).handle? side = some i := by
      show (ofNames t.mentioned).handle? _ = _
      rw [← hlater]
      exact handle?_append hi later
    rw [if_neg hside, hrun]
    exact Prod.ext (pattern_congr hm (hi.trans hall.symm)) rfl

theorem meets_internRule {m : Model} (hm : m.symbols = (Model.ofTable t).symbols)
    (r : ContextRule) :
    Meets t.mentioned (internRule m r) r.sides ((Model.ofTable t).rule r) := by
  have hsides : r.sides = [r.left].filter (!·.isEmpty) ++ [r.right].filter (!·.isEmpty) :=
    List.filter_append [r.left] [r.right]
  rw [hsides]
  exact (meets_internSide hm r.left).bind ((meets_internSide hm r.right).map _)

theorem meets_internGrapheme {m : Model} (hm : m.symbols = (Model.ofTable t).symbols)
    (p : String × Grapheme) :
    Meets t.mentioned (internGrapheme m p) (p.1 :: p.2.rules.flatMap ContextRule.sides)
      (t.handleOf p.1, (Model.ofTable t).entry p.1 p.2) := by
  have hrules := meets_mapM p.2.rules fun r _ => meets_internRule hm r
  exact (meets_intern t.mentioned p.1).bind (hrules.map _)

theorem meets_internClass (t : Table) (c : String × List String) :
    Meets t.mentioned (internClass c) (c.1 :: c.2) (t.handleOf c.1, c.2.map t.handleOf) := by
  have hmembers : Meets t.mentioned (c.2.mapM intern) c.2 (c.2.map t.handleOf) := by
    have h := meets_mapM c.2 fun name _ => meets_intern t.mentioned name
    rwa [List.flatMap_singleton'] at h
  exact (meets_intern t.mentioned c.1).bind (hmembers.map _)

theorem meets_internField (t : Table) (p : String × α) :
    Meets t.mentioned (internField p) [p.1] (t.handleOf p.1, p.2) :=
  (meets_intern t.mentioned p.1).map _

def fieldNames (t : Table) : List String :=
  (t.classes.flatMap fun c => c.1 :: c.2) ++ t.constants.map (·.1) ++ t.macros.map (·.1) ++
    t.graphemes.flatMap fun p => p.1 :: p.2.rules.flatMap ContextRule.sides

theorem mentioned_eq (t : Table) : t.mentioned = t.symbols ++ t.fieldNames.map .text := rfl

theorem meets_internFields {m : Model} (hm : m.symbols = (Model.ofTable t).symbols) :
    Meets t.mentioned (t.internFields m) t.fieldNames
      { m with
        classes := (Model.ofTable t).classes, constants := (Model.ofTable t).constants,
        macros := (Model.ofTable t).macros, entries := (Model.ofTable t).entries } := by
  have hclasses := meets_mapM t.classes fun c _ => meets_internClass t c
  have hconstants := meets_mapM t.constants fun p _ => meets_internField t p
  have hmacros := meets_mapM t.macros fun p _ => meets_internField t p
  have hentries := meets_mapM t.graphemes fun p _ => meets_internGrapheme hm p
  rw [← List.map_eq_flatMap] at hconstants hmacros
  unfold fieldNames
  rw [List.append_assoc, List.append_assoc]
  exact hclasses.bind (hconstants.bind (hmacros.bind (hentries.map _)))

/-- Numbering on the way gives the model whose names are numbered before anything is filed. -/
theorem assemble_eq_ofTable (t : Table) : t.assemble = Model.ofTable t := by
  have hsymbols : t.symbols.map (fun d => ((ofNames t.symbols).handle? d).getD 0) =
      (Model.ofTable t).symbols := by
    refine List.map_congr_left fun d hd => ?_
    show _ = ((ofNames t.mentioned).handle? d).getD 0
    rw [mentioned_eq, handle?_append_texts hd]
  have hrun := meets_internFields (t := t)
    (m := ⟨t.boundary, t.symbols, ofNames t.symbols, (Model.ofTable t).symbols, [], [], [], []⟩) rfl
    t.symbols (List.prefix_refl _)
  unfold assemble
  rw [foldl_add]
  dsimp only
  rw [hsymbols, hrun]
  rfl

theorem field_mem_mentioned (h : x ∈ t.fieldNames) : .text x ∈ t.mentioned :=
  List.mem_append_right _ (List.mem_map_of_mem h)

theorem lookup_map_entry (f : String → α → β) (fields : List (String × α)) (name : String) :
    (fields.map fun p => (p.1, f p.1 p.2)).lookup name = (fields.lookup name).map (f name) := by
  induction fields with
  | nil => rfl
  | cons p fields ih =>
    rw [List.map_cons, List.lookup_cons, List.lookup_cons, ih]
    by_cases h : name = p.1
    · simp [h]
    · rw [beq_eq_false_iff_ne.2 h]

theorem bind_lookup {fields : List (String × α)} (hf : ∀ p ∈ fields, p.1 ∈ t.fieldNames)
    (f : α → β) (name : String) :
    ((Model.ofTable t).handle? name).bind
        (fun h => (fields.map fun p => (t.handleOf p.1, f p.2)).lookup h) =
      (fields.lookup name).map f := by
  have hmentioned : ∀ p ∈ fields, .text p.1 ∈ t.mentioned := fun p hp =>
    field_mem_mentioned (hf p hp)
  cases hn : (Model.ofTable t).handle? name with
  | some i =>
    have hmem := mentioned_of_handle? hn
    rw [handle?_of_mentioned hmem, Option.some.injEq] at hn
    rw [Option.bind_some, ← hn, lookup_handleOf hmem hmentioned]
  | none =>
    cases hl : fields.lookup name with
    | none => rfl
    | some a =>
      rw [handle?_of_mentioned (hmentioned _ (mem_of_lookup hl))] at hn
      cases hn

theorem macros_lookup (t : Table) (name : String) :
    ((Model.ofTable t).handle? name).bind (fun h => (Model.ofTable t).macros.lookup h) =
      t.macros.lookup name := by
  have hnames : ∀ p ∈ t.macros, p.1 ∈ t.fieldNames := fun p hp =>
    List.mem_append_left _ (List.mem_append_right _ (List.mem_map_of_mem hp))
  have h := bind_lookup hnames id name
  rwa [Option.map_id] at h

end Table

namespace Model

/-- What a model answers about names is what its table says about them. -/
structure Mirrors (m : Model) (t : Table) : Prop where
  handle?_eq_some : ∀ name h, m.handle? name = some h ↔ m.lexicon.name? h = some (.text name)
  handle?_eq_none : ∀ name, m.handle? name = none ↔ .text name ∉ t.mentioned
  isSymbol : ∀ name, m.isSymbol name = true ↔ .text name ∈ t.symbols
  isClass : ∀ name, m.isClass name = (t.classes.lookup name).isSome
  constant? : ∀ name, m.constant? name = t.constants.lookup name
  macroBody : ∀ name, m.macroBody name =
    (t.macros.lookup name).elim (.error ⟨.unknown "macro" (.text name), none, none⟩) .ok
  entryFor : ∀ name, m.entryFor name =
    (t.graphemes.lookup name).elim (.error ⟨.unknown "grapheme" (.text name), none, none⟩)
      fun g => .ok (m.entry name g)

variable {t : Table}

theorem handle?_eq_none_iff : (ofTable t).handle? name = none ↔ .text name ∉ t.mentioned := by
  constructor
  · intro h hmem
    rw [Table.handle?_of_mentioned hmem] at h
    cases h
  · intro hmem
    cases h : (ofTable t).handle? name with
    | none => rfl
    | some i => exact absurd (Table.mentioned_of_handle? h) hmem

theorem isSymbol_iff : (ofTable t).isSymbol name = true ↔ .text name ∈ t.symbols := by
  unfold isSymbol
  cases h : (ofTable t).handle? name with
  | some i => exact isSymbolHandle_iff h
  | none =>
    have hmem := handle?_eq_none_iff.1 h
    exact ⟨nofun, fun hs => absurd (Table.symbol_mem_mentioned hs) hmem⟩

theorem mirrors_ofTable (t : Table) : (ofTable t).Mirrors t where
  handle?_eq_some _ _ := Lexicon.handle?_eq_some_iff
  handle?_eq_none _ := handle?_eq_none_iff
  isSymbol _ := isSymbol_iff
  isClass name := by
    have hnames : ∀ p ∈ t.classes, p.1 ∈ t.fieldNames := fun p hp =>
      List.mem_append_left _ (List.mem_append_left _ (List.mem_append_left _
        (List.mem_flatMap.2 ⟨p, hp, List.mem_cons_self⟩)))
    have h := Table.bind_lookup hnames (List.map t.handleOf) name
    rw [← Option.isSome_map (f := List.map t.handleOf), ← h, Option.isSome_bind]
    rfl
  constant? name := by
    have hnames : ∀ p ∈ t.constants, p.1 ∈ t.fieldNames := fun p hp =>
      List.mem_append_left _ (List.mem_append_left _ (List.mem_append_right _
        (List.mem_map_of_mem hp)))
    have h := Table.bind_lookup hnames id name
    rwa [Option.map_id] at h
  macroBody name := by
    unfold macroBody
    rw [t.macros_lookup]
    cases t.macros.lookup name <;> rfl
  entryFor name := by
    have hnames : ∀ p ∈ t.graphemes.map fun p => (p.1, (ofTable t).entry p.1 p.2),
        p.1 ∈ t.fieldNames := List.forall_mem_map.2 fun p hp =>
      List.mem_append_right _ (List.mem_flatMap.2 ⟨p, hp, List.mem_cons_self⟩)
    have h := Table.bind_lookup hnames id name
    rw [List.map_map] at h
    have h : ((ofTable t).handle? name).bind (fun h => (ofTable t).entries.lookup h) = _ := h
    unfold entryFor
    rw [h, Option.map_id, id_eq, Table.lookup_map_entry fun symbol g => (ofTable t).entry symbol g]
    cases t.graphemes.lookup name <;> rfl

theorem entryFor_eq_ok (h : (ofTable t).entryFor symbol = .ok e) :
    ∃ g, t.graphemes.lookup symbol = some g ∧ e = (ofTable t).entry symbol g := by
  rw [(mirrors_ofTable t).entryFor] at h
  cases hg : t.graphemes.lookup symbol with
  | none =>
    rw [hg] at h
    cases h
  | some g =>
    rw [hg] at h
    cases h
    exact ⟨g, rfl, rfl⟩

theorem pattern_eq_boundary_iff : (ofTable t).pattern side = .boundary ↔ side = "" := by
  rw [← String.isEmpty_iff]
  unfold pattern
  by_cases he : side.isEmpty = true
  · rw [if_pos he]
    exact ⟨fun _ => he, fun _ => rfl⟩
  · rw [if_neg he]
    refine ⟨fun h => ?_, fun h => absurd h he⟩
    cases hi : (ofTable t).handle? side with
    | none =>
      rw [hi] at h
      cases h
    | some i =>
      rw [hi] at h
      dsimp only at h
      split at h <;> cases h

theorem pattern_eq_symbol_iff :
    (∃ h, (ofTable t).pattern side = .symbol side h) ↔
      side ≠ "" ∧ (ofTable t).isSymbol side = true := by
  rw [ne_eq, ← String.isEmpty_iff]
  unfold pattern isSymbol
  by_cases he : side.isEmpty = true
  · simp [he]
  · rw [if_neg he]
    cases hi : (ofTable t).handle? side with
    | none => simp
    | some i => by_cases hs : (ofTable t).isSymbolHandle i = true <;> simp [hs, he]

/-- Numbers do not show. A model answers about names what its table says, no two names have one
number, and a side that is read while names are still being numbered is read as in the end: the
empty one as the edge of a word, and any other as a symbol exactly if it is one. -/
theorem ofTable_mirrors (t : Table) :
    (ofTable t).Mirrors t ∧
      (ofTable t).lexicon.names.Pairwise (fun a b => (b == a) = false) ∧
      t.assemble = ofTable t ∧
      (t.assemble.entries = t.graphemes.map fun p =>
        (t.handleOf p.1, ⟨p.1, p.2.elsewhere, p.2.rules.map fun r =>
          ⟨(ofTable t).pattern r.left, (ofTable t).pattern r.right, r.pronunciation⟩⟩)) ∧
      ∀ side, ((ofTable t).pattern side = .boundary ↔ side = "") ∧
        ((∃ h, (ofTable t).pattern side = .symbol side h) ↔
          side ≠ "" ∧ (ofTable t).isSymbol side = true) := by
  refine ⟨mirrors_ofTable t, Lexicon.pairwise_eraseDups _, t.assemble_eq_ofTable, ?_,
    fun side => ?_⟩
  · rw [t.assemble_eq_ofTable]
    rfl
  · exact ⟨pattern_eq_boundary_iff, pattern_eq_symbol_iff⟩

/-- A configuration with a symbol that has no characters. -/
def voiceless : List (String × Datum) :=
  [("symbols", .list [.text "", .text "a"]), ("graphemes", .table [("a", .table [])])]

/-- The empty side is the edge of a word also where the empty name is a symbol. -/
theorem pattern_voiceless :
    ∃ t, Table.read voiceless = .ok t ∧ (ofTable t).isSymbol "" = true ∧
      (ofTable t).pattern "" = .boundary ∧ ¬ ∃ h, (ofTable t).pattern "" = .symbol "" h := by
  refine ⟨_, by with_unfolding_all rfl, by decide +kernel, rfl, ?_⟩
  rintro ⟨h, hp⟩
  cases hp

end Model

end Silbo
