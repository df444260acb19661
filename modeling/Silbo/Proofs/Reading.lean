import Silbo.Proofs.Provenance
import Silbo.Table.Reader

/-!
Tables that were read. Each part of a table comes from the field of its name in the configuration,
entry by entry and in the order of the configuration. All items of a table are read from parts of
the configuration, and so are the templates among them, with checked durations and curves.
-/
namespace Silbo
open Work

namespace Datum

mutual

/-- A value and whatever is inside it. -/
def parts : Datum → List Datum
  | list items => list items :: partsOfItems items
  | table fields => table fields :: partsOfFields fields
  | d => [d]

def partsOfItems : List Datum → List Datum
  | [] => []
  | d :: rest => d.parts ++ partsOfItems rest

def partsOfFields : List (String × Datum) → List Datum
  | [] => []
  | (_, d) :: rest => d.parts ++ partsOfFields rest

end

def isNaN : Datum → Bool
  | number (.real x) => x.isNaN
  | _ => false

theorem mem_parts (d : Datum) : d ∈ d.parts := by
  cases d <;> simp [parts]

theorem parts_subset_of_mem_list (h : d ∈ items) : d.parts ⊆ (list items).parts := by
  have hitems : d.parts ⊆ partsOfItems items := by
    induction items with
    | nil => cases h
    | cons e rest ih =>
      rw [partsOfItems]
      rcases List.mem_cons.1 h with rfl | h
      · exact List.subset_append_left _ _
      · exact List.Subset.trans (ih h) (List.subset_append_right _ _)
  rw [parts]
  exact List.subset_cons_of_subset _ hitems

theorem parts_subset_of_mem_table (h : (name, d) ∈ fields) : d.parts ⊆ (table fields).parts := by
  have hfields : d.parts ⊆ partsOfFields fields := by
    induction fields with
    | nil => cases h
    | cons field rest ih =>
      rw [partsOfFields]
      rcases List.mem_cons.1 h with rfl | h
      · exact List.subset_append_left _ _
      · exact List.Subset.trans (ih h) (List.subset_append_right _ _)
  rw [parts]
  exact List.subset_cons_of_subset _ hfields

theorem parts_subset_of_lookup (h : fields.lookup name = some d) :
    d.parts ⊆ (table fields).parts :=
  parts_subset_of_mem_table (mem_of_lookup h)

/-- An item is read from some part of a value. -/
def Spells (d : Datum) (item : Item) : Prop := ∃ e, e.parts ⊆ d.parts ∧ Item.read e = .ok item

theorem Spells.mono {d d' : Datum} (h : d.Spells item) (hd : d.parts ⊆ d'.parts) :
    d'.Spells item := by
  obtain ⟨e, he, hread⟩ := h
  exact ⟨e, List.Subset.trans he hd, hread⟩

theorem spells_of_read (h : Item.read d = .ok item) : d.Spells item :=
  ⟨d, List.Subset.refl _, h⟩

end Datum

section Templates

variable {x : SegmentTemplate}

theorem Item.table_of_read (h : Item.read d = .ok (.segment x)) :
    ∃ fields, d = .table fields ∧ SegmentTemplate.readFields fields = .ok x := by
  unfold Item.read at h
  split at h
  · cases h
  · obtain ⟨y, hy, he⟩ := map_eq_ok.1 h
    cases he
    exact ⟨_, rfl, hy⟩
  · cases h

def Track.field : Track → String
  | formant => "formant"
  | amplitude => "amplitude"

theorem SegmentTemplate.readFields_eq_ok (h : readFields fields = .ok x) :
    readDuration (fields.lookup "milliseconds") = .ok x.milliseconds ∧
      ∀ k : Track, Motion.read? (fields.lookup k.field) = .ok (k.motion x) := by
  unfold readFields at h
  dsimp only at h
  split at h
  · cases h
  obtain ⟨milliseconds, hduration, h⟩ := bind_eq_ok h
  obtain ⟨formant, hformant, h⟩ := bind_eq_ok h
  obtain ⟨amplitude, hamplitude, h⟩ := bind_eq_ok h
  cases h
  refine ⟨hduration, fun k => ?_⟩
  cases k with
  | formant => exact hformant
  | amplitude => exact hamplitude

theorem SegmentTemplate.number_of_readDuration (h : readDuration value = .ok (some ms)) :
    ∃ n, value = some (.number n) ∧ n.isNegative = false ∧ n.toFloat? = some ms := by
  unfold readDuration at h
  split at h
  · cases h
  · cases h
  · split at h
    · split at h
      · cases h
      · split at h
        · cases h
          exact ⟨_, rfl, Bool.eq_false_iff.2 ‹_›, ‹_›⟩
        · cases h
    · cases h

def Motion.curve? : Motion → Option Curve
  | .constant _ => none
  | .transition _ _ curve | .contour _ _ curve => some curve

theorem Motion.readFields_curve (h : readFields fields = .ok motion) (hc : motion.curve? = some c) :
    readCurve (fields.lookup "curve") = .ok c := by
  obtain ⟨⟨kind, allowed⟩, -, h⟩ := bind_eq_ok h
  dsimp only at h
  split at h
  · cases h
  split at h
  · obtain ⟨value, -, h⟩ := bind_eq_ok h
    cases h
    cases hc
  obtain ⟨curve, hcurve, h⟩ := bind_eq_ok h
  split at h
  · obtain ⟨stop, -, h⟩ := bind_eq_ok h
    obtain ⟨start, -, h⟩ := bind_eq_ok h
    cases h
    cases hc
    exact hcurve
  · obtain ⟨peak, -, h⟩ := bind_eq_ok h
    obtain ⟨stop, -, h⟩ := bind_eq_ok h
    cases h
    cases hc
    exact hcurve

theorem Motion.table_of_read (h : read? value = .ok (some motion)) :
    ∃ fields, value = some (.table fields) ∧ readFields fields = .ok motion := by
  unfold read? at h
  split at h
  · cases h
  · cases h
  · obtain ⟨m, hm, he⟩ := map_eq_ok.1 h
    cases he
    exact ⟨_, rfl, hm⟩
  · cases h

theorem Curve.ofName?_name (c : Curve) : ofName? c.name = some c := by
  cases c <;> rfl

theorem Motion.readCurve_eq_ok (h : readCurve value = .ok c) :
    value = none ∧ c = .sine ∨ value = some (.text c.name) := by
  unfold readCurve at h
  split at h
  · cases h
    exact .inl ⟨rfl, rfl⟩
  · split at h
    · split at h
      · rename_i hname
        cases h
        have hsame := List.find?_some hname
        rw [beq_iff_eq] at hsame
        exact .inr (by rw [hsame])
      · cases h
    · cases h

end Templates

namespace Table

section Pronunciations

theorem spells_of_readPronunciation (h : Pronunciation.read? d = .ok (some p)) :
    ∀ item ∈ p.items, d.Spells item := by
  intro item hitem
  unfold Pronunciation.read? at h
  split at h
  · cases h
  · obtain ⟨items, hitems, he⟩ := map_eq_ok.1 h
    cases he
    obtain ⟨e, he, hread⟩ := exists_of_forall₂ (mapM_eq_ok.1 hitems) hitem
    exact (Datum.spells_of_read hread).mono (Datum.parts_subset_of_mem_list he)
  · obtain ⟨a, ha, he⟩ := map_eq_ok.1 h
    cases he
    rw [List.mem_singleton.1 hitem]
    exact Datum.spells_of_read ha

theorem spells_of_readField
    (h : Pronunciation.read? ((fields.lookup name).getD .null) = .ok (some p)) :
    ∀ item ∈ p.items, (Datum.table fields).Spells item := by
  intro item hitem
  have hspells := spells_of_readPronunciation h item hitem
  cases hd : fields.lookup name with
  | none =>
    rw [hd] at h
    cases h
  | some d =>
    rw [hd] at hspells
    exact hspells.mono (Datum.parts_subset_of_lookup hd)

theorem spells_of_readBody (h : readBody d = .ok body) : ∀ item ∈ body.getD [], d.Spells item := by
  obtain ⟨p, hp, he⟩ := map_eq_ok.1 h
  subst he
  cases p with
  | none => simp
  | some p => exact spells_of_readPronunciation hp

theorem spells_of_readRule (h : readRule d = .ok rule) (hp : rule.pronunciation = some p) :
    ∀ item ∈ p.items, d.Spells item := by
  unfold readRule at h
  split at h
  · obtain ⟨sides, -, h⟩ := bind_eq_ok h
    obtain ⟨q, hq, h⟩ := bind_eq_ok h
    cases h
    cases hp
    exact spells_of_readField hq
  · cases h

theorem parts_of_member (h : membersOf d = .ok members) (he : e ∈ members)
    (hr : readRule e = .ok rule) : e.parts ⊆ d.parts := by
  cases d with
  | list items =>
    cases h
    exact Datum.parts_subset_of_mem_list he
  | text s =>
    cases h
    obtain ⟨c, -, rfl⟩ := List.mem_map.1 he
    cases hr
  | table fields =>
    cases h
    obtain ⟨field, -, rfl⟩ := List.mem_map.1 he
    cases hr
  | null | bool | number => cases h

theorem spells_of_readGrapheme (h : readGrapheme d = .ok g) (hp : p ∈ g.pronunciations) :
    ∀ item ∈ p.items, d.Spells item := by
  intro item hitem
  unfold readGrapheme at h
  split at h
  · rename_i fields
    obtain ⟨members, hmembers, h⟩ := bind_eq_ok h
    obtain ⟨rules, hrules, h⟩ := bind_eq_ok h
    obtain ⟨elsewhere, helsewhere, h⟩ := bind_eq_ok h
    cases h
    rcases List.mem_append.1 hp with hp | hp
    · cases Option.mem_toList.1 hp
      exact spells_of_readField helsewhere item hitem
    · obtain ⟨rule, hrule, hp⟩ := List.mem_filterMap.1 hp
      obtain ⟨e, he, hread⟩ := exists_of_forall₂ (mapM_eq_ok.1 hrules) hrule
      have hspells := spells_of_readRule hread hp item hitem
      cases hd : fields.lookup "contexts" with
      | none =>
        rw [hd] at hmembers
        cases hmembers
        cases he
      | some contexts =>
        rw [hd] at hmembers
        have hparts := parts_of_member hmembers he hread
        exact (hspells.mono hparts).mono (Datum.parts_subset_of_lookup hd)
  · cases h

end Pronunciations

section Entries

variable {read : String → Datum → Except Fault α} {value value' : Option Datum}
variable {entries entries' : List (String × α)}

theorem readEntries_eq_ok (h : readEntries value read = .ok entries) :
    ∃ fields, fieldsOf value = .ok fields ∧
      List.Forall₂ (fun p q => q.1 = p.1 ∧ read p.1 p.2 = .ok q.2) fields entries := by
  obtain ⟨fields, hfields, h⟩ := bind_eq_ok h
  refine ⟨fields, hfields, (mapM_eq_ok.1 h).imp fun p q hq => ?_⟩
  obtain ⟨a, ha, hq⟩ := bind_eq_ok hq
  cases hq
  exact ⟨rfl, ha⟩

theorem filter_readEntries (keep : String → Bool) (h : readEntries value read = .ok entries)
    (h' : readEntries value' read = .ok entries')
    (hkeep : (fieldsOf value').map (List.filter fun p => keep p.1) = fieldsOf value) :
    entries'.filter (fun p => keep p.1) = entries := by
  obtain ⟨fields, hfields, hread⟩ := readEntries_eq_ok h
  obtain ⟨fields', hfields', hread'⟩ := readEntries_eq_ok h'
  rw [hfields, hfields'] at hkeep
  cases hkeep
  have hkept := List.rel_filter (p := fun p => keep p.1) (q := fun q => keep q.1)
    (fun p q hpq => show keep p.1 = true ↔ keep q.1 = true by rw [hpq.1]) hread'
  refine List.right_unique_forall₂' ?_ hkept hread
  rintro p q q' ⟨hname, hq⟩ ⟨hname', hq'⟩
  rw [hq, Except.ok.injEq] at hq'
  exact Prod.ext (hname.trans hname'.symm) hq'

end Entries

/-- The parts of a table are what the fields of a configuration are read to. -/
structure ReadFrom (t : Table) (config : List (String × Datum)) : Prop where
  boundary_eq : t.boundary = (config.lookup "wordBoundary").getD (.text " ")
  symbols : readSymbols (config.lookup "symbols") (config.lookup "graphemes") = .ok t.symbols
  classes : readEntries (config.lookup "classes") (fun _ d => readClass d) = .ok t.classes
  constants : readEntries (config.lookup "constants") readConstant = .ok t.constants
  macros : readEntries (config.lookup "macros") (fun _ d => readBody d) = .ok t.macros
  graphemes : readEntries (config.lookup "graphemes") (fun _ d => readGrapheme d) = .ok t.graphemes

theorem readFrom_of_read {t : Table} (h : read config = .ok t) : t.ReadFrom config := by
  obtain ⟨symbols, hsymbols, h⟩ := bind_eq_ok h
  dsimp only at h
  split at h
  · cases h
  obtain ⟨classes, hclasses, h⟩ := bind_eq_ok h
  obtain ⟨constants, hconstants, h⟩ := bind_eq_ok h
  obtain ⟨macros, hmacros, h⟩ := bind_eq_ok h
  obtain ⟨graphemes, hgraphemes, h⟩ := bind_eq_ok h
  split at h
  · cases h
  cases h
  exact ⟨rfl, hsymbols, hclasses, hconstants, hmacros, hgraphemes⟩

theorem parts_of_fieldsOf (h : fieldsOf (config.lookup key) = .ok fields)
    (hp : (name, d) ∈ fields) : d.parts ⊆ (Datum.table config).parts := by
  cases hd : config.lookup key with
  | none =>
    rw [hd] at h
    cases h
    cases hp
  | some value =>
    rw [hd] at h
    cases value with
    | table entries =>
      cases h
      exact List.Subset.trans (Datum.parts_subset_of_mem_table hp) (Datum.parts_subset_of_lookup hd)
    | _ => cases h

theorem part_of_readEntries {read : String → Datum → Except Fault α}
    (h : readEntries (config.lookup key) read = .ok entries) (he : (name, a) ∈ entries) :
    ∃ d, d.parts ⊆ (Datum.table config).parts ∧ read name d = .ok a := by
  obtain ⟨fields, hfields, hread⟩ := readEntries_eq_ok h
  obtain ⟨⟨_, d⟩, hd, hname, hd'⟩ := exists_of_forall₂ hread he
  cases hname
  exact ⟨d, parts_of_fieldsOf hfields hd, hd'⟩

section Items

variable {t : Table} {config : List (String × Datum)}

theorem ReadFrom.items_spelled (h : t.ReadFrom config) :
    ∀ item ∈ t.items, (Datum.table config).Spells item := by
  intro item hitem
  rcases List.mem_append.1 hitem with hitem | hitem
  · obtain ⟨⟨name, body⟩, hbody, hitem⟩ := List.mem_flatMap.1 hitem
    obtain ⟨d, hd, hread⟩ := part_of_readEntries h.macros hbody
    exact (spells_of_readBody hread item hitem).mono hd
  · obtain ⟨⟨symbol, g⟩, hg, hitem⟩ := List.mem_flatMap.1 hitem
    obtain ⟨p, hp, hitem⟩ := List.mem_flatMap.1 hitem
    obtain ⟨d, hd, hread⟩ := part_of_readEntries h.graphemes hg
    exact (spells_of_readGrapheme hread hp item hitem).mono hd

/-- The templates of a table are read from tables inside the configuration. -/
theorem ReadFrom.written_read (h : t.ReadFrom config) (hx : x ∈ t.written) :
    ∃ fields, (Datum.table fields).parts ⊆ (Datum.table config).parts ∧
      SegmentTemplate.readFields fields = .ok x := by
  obtain ⟨item, hitem, hx⟩ := List.mem_filterMap.1 hx
  obtain ⟨e, he, hread⟩ := h.items_spelled item hitem
  cases item with
  | call name => cases hx
  | segment template =>
    cases hx
    obtain ⟨fields, rfl, hfields⟩ := Item.table_of_read hread
    exact ⟨fields, he, hfields⟩

end Items

end Table

end Silbo
