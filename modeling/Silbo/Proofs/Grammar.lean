import Silbo.Proofs.Reading

/-!
The grammar of pronunciations in a configuration. A value is read just when it is one by the grammar,
and what it is read to holds every number, name and curve that it gives, in the same order.
-/
namespace Silbo
open Work

namespace Datum

/-- A value field is left out, null, the name of a constant or a number that has a double. -/
def isQuantity : Option Datum → Bool
  | none | some .null | some (.text _) => true
  | some (.number n) => n.toFloat?.isSome
  | some _ => false

def isCurve : Option Datum → Bool
  | none => true
  | some (.text name) => ["sine", "convex", "concave", "arcsine", "linear"].contains name
  | some _ => false

def isDuration : Option Datum → Bool
  | none | some .null => true
  | some (.number n) => !n.isNegative && n.toFloat?.isSome
  | some _ => false

def hasOnly (names : List String) (fields : List (String × Datum)) : Bool :=
  fields.all fun (name, _) => names.contains name

/-- A motion is a table with a kind, the fields of that kind alone, and in them what belongs there. -/
def isMotion (fields : List (String × Datum)) : Bool :=
  match fields.lookup "kind" with
  | some (.text "constant") =>
    hasOnly ["kind", "value"] fields && isQuantity (fields.lookup "value")
  | some (.text "transition") =>
    hasOnly ["kind", "curve", "start", "end"] fields && isCurve (fields.lookup "curve") &&
      isQuantity (fields.lookup "start") && isQuantity (fields.lookup "end")
  | some (.text "contour") =>
    hasOnly ["kind", "curve", "peak", "end"] fields && isCurve (fields.lookup "curve") &&
      isQuantity (fields.lookup "peak") && isQuantity (fields.lookup "end")
  | _ => false

def isTrack : Option Datum → Bool
  | none | some .null => true
  | some (.table fields) => isMotion fields
  | some _ => false

def isSegment (fields : List (String × Datum)) : Bool :=
  hasOnly ["formant", "amplitude", "milliseconds"] fields &&
    isDuration (fields.lookup "milliseconds") && isTrack (fields.lookup "formant") &&
    isTrack (fields.lookup "amplitude")

def isItem : Datum → Bool
  | text _ => true
  | table fields => isSegment fields
  | _ => false

/-- Null, the name of a macro, a segment, or a list of names and segments. -/
def isPronunciation : Datum → Bool
  | null => true
  | list items => items.all isItem
  | d => d.isItem

end Datum

/-- What a value field gives: a name as it stands, a number as the double near it. -/
inductive Quantity.Given : Option Datum → Option Quantity → Prop where
  | absent : Given none none
  | null : Given (some .null) none
  | named : Given (some (.text name)) (some (.named name))
  | literal : n.toFloat? = some x → Given (some (.number n)) (some (.literal x))

/-- A curve that is left out is a sine; null is no curve. -/
inductive Curve.Given : Option Datum → Curve → Prop where
  | absent : Given none .sine
  | named (c : Curve) : Given (some (.text c.name)) c

inductive Motion.Given (fields : List (String × Datum)) : Motion → Prop where
  | constant : fields.lookup "kind" = some (.text "constant") →
      Datum.hasOnly ["kind", "value"] fields = true →
      Quantity.Given (fields.lookup "value") value → Given fields (.constant value)
  | transition : fields.lookup "kind" = some (.text "transition") →
      Datum.hasOnly ["kind", "curve", "start", "end"] fields = true →
      Curve.Given (fields.lookup "curve") curve →
      Quantity.Given (fields.lookup "start") start →
      Quantity.Given (fields.lookup "end") stop → Given fields (.transition start stop curve)
  | contour : fields.lookup "kind" = some (.text "contour") →
      Datum.hasOnly ["kind", "curve", "peak", "end"] fields = true →
      Curve.Given (fields.lookup "curve") curve →
      Quantity.Given (fields.lookup "peak") peak →
      Quantity.Given (fields.lookup "end") stop → Given fields (.contour peak stop curve)

inductive Motion.Tracked : Option Datum → Option Motion → Prop where
  | absent : Tracked none none
  | null : Tracked (some .null) none
  | motion : Given fields x → Tracked (some (.table fields)) (some x)

namespace SegmentTemplate

inductive Lasts : Option Datum → Option Float → Prop where
  | absent : Lasts none none
  | null : Lasts (some .null) none
  | number : n.isNegative = false → n.toFloat? = some ms → Lasts (some (.number n)) (some ms)

structure Given (fields : List (String × Datum)) (x : SegmentTemplate) : Prop where
  only : Datum.hasOnly ["formant", "amplitude", "milliseconds"] fields = true
  milliseconds : Lasts (fields.lookup "milliseconds") x.milliseconds
  formant : Motion.Tracked (fields.lookup "formant") x.formant
  amplitude : Motion.Tracked (fields.lookup "amplitude") x.amplitude

end SegmentTemplate

inductive Item.Given : Datum → Item → Prop where
  | call : Given (.text name) (.call name)
  | segment : SegmentTemplate.Given fields x → Given (.table fields) (.segment x)

/-- What a pronunciation gives, item by item. -/
inductive Pronunciation.Given : Datum → Option Pronunciation → Prop where
  | null : Given .null none
  | single : Item.Given d item → Given d (some (.single item))
  | sequence : List.Forall₂ Item.Given values found →
      Given (.list values) (some (.sequence found))

section Names

theorem sortedNames_eq_nil : sortedNames names = [] ↔ names = [] := by
  constructor
  · intro h
    have hlength := congrArg List.length h
    unfold sortedNames at hlength
    rw [List.length_mergeSort] at hlength
    cases names with
    | nil => rfl
    | cons name rest =>
      rw [List.eraseDups_cons] at hlength
      cases hlength
  · rintro rfl
    simp [sortedNames]

theorem unexpected_isEmpty (allowed : List String) (fields : List (String × Datum)) :
    (unexpected allowed (fields.map (·.1))).isEmpty = Datum.hasOnly allowed fields := by
  rw [Bool.eq_iff_iff, List.isEmpty_iff, unexpected, sortedNames_eq_nil]
  simp [Datum.hasOnly]

end Names

section Readers

theorem Quantity.read?_eq_ok : read? field value = .ok q ↔ Given value q := by
  constructor
  · intro h
    unfold read? at h
    split at h
    · cases h
      exact .absent
    · cases h
      exact .null
    · split at h
      · cases h
        exact .literal ‹_›
      · cases h
    · cases h
      exact .named
    · cases h
  · intro h
    cases h with
    | absent | null | named => rfl
    | literal hx =>
      unfold read?
      simp only [hx]

theorem Motion.readCurve_iff : readCurve value = .ok c ↔ Curve.Given value c := by
  constructor
  · intro h
    rcases readCurve_eq_ok h with ⟨rfl, rfl⟩ | rfl
    · exact .absent
    · exact .named c
  · intro h
    cases h with
    | absent => rfl
    | named =>
      unfold readCurve
      simp only [Curve.ofName?_name]

theorem Motion.readKind_eq_ok :
    readKind d = .ok (kind, allowed) ↔ d = .text kind ∧ fieldsOf? kind = some allowed := by
  constructor
  · intro h
    unfold readKind at h
    split at h
    · split at h
      · cases h
        exact ⟨rfl, ‹_›⟩
      · cases h
    all_goals cases h
  · rintro ⟨rfl, h⟩
    unfold readKind
    simp only [h]

namespace Motion

variable {fields : List (String × Datum)}

theorem fieldsOf?_eq_some : fieldsOf? kind = some allowed ↔
    kind = "constant" ∧ allowed = ["kind", "value"] ∨
      kind = "transition" ∧ allowed = ["kind", "curve", "start", "end"] ∨
      kind = "contour" ∧ allowed = ["kind", "curve", "peak", "end"] := by
  unfold fieldsOf?
  split <;> simp_all [eq_comm]

theorem readKind_lookup :
    readKind ((fields.lookup "kind").getD .null) = .ok (kind, allowed) ↔
      fields.lookup "kind" = some (.text kind) ∧ fieldsOf? kind = some allowed := by
  rw [readKind_eq_ok]
  cases fields.lookup "kind" <;> simp

theorem readFields_of_kind (hk : fields.lookup "kind" = some (.text kind))
    (ha : fieldsOf? kind = some allowed) :
    readFields fields =
      if Datum.hasOnly allowed fields then
        if kind == "constant" then do
          pure (.constant (← Quantity.read? "value" (fields.lookup "value")))
        else do
          let curve ← readCurve (fields.lookup "curve")
          if kind == "transition" then do
            let stop ← Quantity.read? "end" (fields.lookup "end")
            let start ← Quantity.read? "start" (fields.lookup "start")
            pure (.transition start stop curve)
          else do
            let peak ← Quantity.read? "peak" (fields.lookup "peak")
            let stop ← Quantity.read? "end" (fields.lookup "end")
            pure (.contour peak stop curve)
      else
        .error (.error ⟨.malformed (.unexpectedMotionFields kind
          (unexpected allowed (fields.map (·.1)))), none, none⟩) := by
  unfold readFields
  rw [readKind_lookup.2 ⟨hk, ha⟩]
  show (if (!(unexpected allowed (fields.map (·.1))).isEmpty) = true then _ else _) = _
  rw [unexpected_isEmpty]
  cases Datum.hasOnly allowed fields <;> rfl

theorem readFields_eq_ok : readFields fields = .ok x ↔ Given fields x := by
  constructor
  · intro h
    obtain ⟨⟨kind, allowed⟩, hkind, -⟩ := bind_eq_ok h
    obtain ⟨hk, ha⟩ := readKind_lookup.1 hkind
    rw [readFields_of_kind hk ha] at h
    split at h
    case isFalse => cases h
    rename_i ho
    rcases fieldsOf?_eq_some.1 ha with ⟨rfl, rfl⟩ | ⟨rfl, rfl⟩ | ⟨rfl, rfl⟩
    · obtain ⟨value, hvalue, h⟩ := bind_eq_ok h
      cases h
      exact .constant hk ho (Quantity.read?_eq_ok.1 hvalue)
    · obtain ⟨curve, hcurve, h⟩ := bind_eq_ok h
      obtain ⟨stop, hstop, h⟩ := bind_eq_ok h
      obtain ⟨start, hstart, h⟩ := bind_eq_ok h
      cases h
      exact .transition hk ho (readCurve_iff.1 hcurve) (Quantity.read?_eq_ok.1 hstart)
        (Quantity.read?_eq_ok.1 hstop)
    · obtain ⟨curve, hcurve, h⟩ := bind_eq_ok h
      obtain ⟨peak, hpeak, h⟩ := bind_eq_ok h
      obtain ⟨stop, hstop, h⟩ := bind_eq_ok h
      cases h
      exact .contour hk ho (readCurve_iff.1 hcurve) (Quantity.read?_eq_ok.1 hpeak)
        (Quantity.read?_eq_ok.1 hstop)
  · intro h
    cases h with
    | constant hk ho hvalue =>
      rw [readFields_of_kind hk rfl, if_pos ho, Quantity.read?_eq_ok.2 hvalue]
      rfl
    | transition hk ho hcurve hstart hstop =>
      rw [readFields_of_kind hk rfl, if_pos ho, readCurve_iff.2 hcurve,
        Quantity.read?_eq_ok.2 hstart, Quantity.read?_eq_ok.2 hstop]
      rfl
    | contour hk ho hcurve hpeak hstop =>
      rw [readFields_of_kind hk rfl, if_pos ho, readCurve_iff.2 hcurve,
        Quantity.read?_eq_ok.2 hpeak, Quantity.read?_eq_ok.2 hstop]
      rfl

theorem read?_eq_ok : read? value = .ok x ↔ Tracked value x := by
  constructor
  · intro h
    cases x with
    | none =>
      unfold read? at h
      split at h
      · exact .absent
      · exact .null
      · obtain ⟨y, -, he⟩ := map_eq_ok.1 h
        cases he
      · cases h
    | some x =>
      obtain ⟨fields, rfl, hx⟩ := table_of_read h
      exact .motion (readFields_eq_ok.1 hx)
  · intro h
    cases h with
    | absent | null => rfl
    | @motion fields x hx =>
      show (readFields fields).map some = _
      rw [readFields_eq_ok.2 hx]
      rfl

end Motion

namespace SegmentTemplate

variable {fields : List (String × Datum)}

theorem readDuration_eq_ok : readDuration value = .ok ms ↔ Lasts value ms := by
  constructor
  · intro h
    cases ms with
    | none =>
      unfold readDuration at h
      split at h
      · exact .absent
      · exact .null
      · split at h
        · split at h
          · cases h
          · split at h <;> cases h
        · cases h
    | some ms =>
      obtain ⟨n, rfl, hn, hms⟩ := number_of_readDuration h
      exact .number hn hms
  · intro h
    cases h with
    | absent | null => rfl
    | number hn hms =>
      unfold readDuration
      simp only [hn, hms]
      rfl

theorem readFields_eq (fields : List (String × Datum)) :
    readFields fields =
      if Datum.hasOnly fieldNames fields then do
        let milliseconds ← readDuration (fields.lookup "milliseconds")
        let formant ← Motion.read? (fields.lookup "formant")
        let amplitude ← Motion.read? (fields.lookup "amplitude")
        pure ⟨milliseconds, formant, amplitude⟩
      else
        .error (.error ⟨.malformed (.unexpectedSegmentFields
          (unexpected fieldNames (fields.map (·.1)))), none, none⟩) := by
  show (if (!(unexpected fieldNames (fields.map (·.1))).isEmpty) = true then _ else _) = _
  rw [unexpected_isEmpty]
  cases Datum.hasOnly fieldNames fields <;> rfl

theorem readFields_iff : readFields fields = .ok x ↔ Given fields x := by
  constructor
  · intro h
    rw [readFields_eq] at h
    split at h
    case isFalse => cases h
    rename_i ho
    obtain ⟨milliseconds, hduration, h⟩ := bind_eq_ok h
    obtain ⟨formant, hformant, h⟩ := bind_eq_ok h
    obtain ⟨amplitude, hamplitude, h⟩ := bind_eq_ok h
    cases h
    exact ⟨ho, readDuration_eq_ok.1 hduration, Motion.read?_eq_ok.1 hformant,
      Motion.read?_eq_ok.1 hamplitude⟩
  · intro h
    have ho : Datum.hasOnly fieldNames fields = true := h.only
    rw [readFields_eq, if_pos ho, readDuration_eq_ok.2 h.milliseconds,
      Motion.read?_eq_ok.2 h.formant, Motion.read?_eq_ok.2 h.amplitude]
    rfl

end SegmentTemplate

theorem Item.read_eq_ok : read d = .ok item ↔ Given d item := by
  constructor
  · intro h
    unfold read at h
    split at h
    · cases h
      exact .call
    · obtain ⟨x, hx, he⟩ := map_eq_ok.1 h
      cases he
      exact .segment (SegmentTemplate.readFields_iff.1 hx)
    · cases h
  · intro h
    cases h with
    | call => rfl
    | @segment fields x hx =>
      show (SegmentTemplate.readFields fields).map Item.segment = _
      rw [SegmentTemplate.readFields_iff.2 hx]
      rfl

theorem Pronunciation.read?_eq_ok : read? d = .ok p ↔ Given d p := by
  constructor
  · intro h
    unfold read? at h
    split at h
    · cases h
      exact .null
    · obtain ⟨found, hfound, he⟩ := map_eq_ok.1 h
      cases he
      exact .sequence ((mapM_eq_ok.1 hfound).imp fun _ _ => Item.read_eq_ok.1)
    · obtain ⟨item, hitem, he⟩ := map_eq_ok.1 h
      cases he
      exact .single (Item.read_eq_ok.1 hitem)
  · intro h
    cases h with
    | null => rfl
    | @single d item hitem =>
      have hread := Item.read_eq_ok.2 hitem
      cases hitem with
      | call => rfl
      | @segment fields x _ =>
        show (Item.read (.table fields)).map _ = _
        rw [hread]
        rfl
    | @sequence values found hfound =>
      show (values.mapM Item.read).map _ = _
      rw [mapM_eq_ok.2 (hfound.imp fun _ _ => Item.read_eq_ok.2)]
      rfl

end Readers

section Grammar

variable {fields : List (String × Datum)}

theorem isQuantity_iff : Datum.isQuantity value = true ↔ ∃ q, Quantity.Given value q := by
  constructor
  · intro h
    unfold Datum.isQuantity at h
    split at h
    · exact ⟨_, .absent⟩
    · exact ⟨_, .null⟩
    · exact ⟨_, .named⟩
    · obtain ⟨x, hx⟩ := Option.isSome_iff_exists.1 h
      exact ⟨_, .literal hx⟩
    · cases h
  · rintro ⟨q, h⟩
    cases h with
    | absent | null | named => rfl
    | literal hx => exact Option.isSome_iff_exists.2 ⟨_, hx⟩

theorem curveName_iff (name : String) :
    ["sine", "convex", "concave", "arcsine", "linear"].contains name = true ↔
      ∃ c : Curve, c.name = name := by
  have hall : ∀ c : Curve, c ∈ Curve.all := by
    intro c
    cases c <;> decide
  show (Curve.all.map Curve.name).contains name = true ↔ _
  simp [hall]

theorem isCurve_iff : Datum.isCurve value = true ↔ ∃ c, Curve.Given value c := by
  constructor
  · intro h
    unfold Datum.isCurve at h
    split at h
    · exact ⟨_, .absent⟩
    · obtain ⟨c, rfl⟩ := (curveName_iff _).1 h
      exact ⟨c, .named c⟩
    · cases h
  · rintro ⟨c, h⟩
    cases h with
    | absent => rfl
    | named => exact (curveName_iff _).2 ⟨c, rfl⟩

theorem isDuration_iff : Datum.isDuration value = true ↔ ∃ ms, SegmentTemplate.Lasts value ms := by
  constructor
  · intro h
    unfold Datum.isDuration at h
    split at h
    · exact ⟨_, .absent⟩
    · exact ⟨_, .null⟩
    · rw [Bool.and_eq_true, Bool.not_eq_true'] at h
      obtain ⟨ms, hms⟩ := Option.isSome_iff_exists.1 h.2
      exact ⟨_, .number h.1 hms⟩
    · cases h
  · rintro ⟨ms, h⟩
    cases h with
    | absent | null => rfl
    | number hn hms => simp [Datum.isDuration, hn, hms]

theorem isMotion_iff : Datum.isMotion fields = true ↔ ∃ x, Motion.Given fields x := by
  constructor
  · intro h
    unfold Datum.isMotion at h
    split at h
    · rename_i hk
      rw [Bool.and_eq_true] at h
      obtain ⟨value, hvalue⟩ := isQuantity_iff.1 h.2
      exact ⟨_, .constant hk h.1 hvalue⟩
    · rename_i hk
      simp only [Bool.and_eq_true] at h
      obtain ⟨⟨⟨ho, hcurve⟩, hstart⟩, hstop⟩ := h
      obtain ⟨curve, hcurve⟩ := isCurve_iff.1 hcurve
      obtain ⟨start, hstart⟩ := isQuantity_iff.1 hstart
      obtain ⟨stop, hstop⟩ := isQuantity_iff.1 hstop
      exact ⟨_, .transition hk ho hcurve hstart hstop⟩
    · rename_i hk
      simp only [Bool.and_eq_true] at h
      obtain ⟨⟨⟨ho, hcurve⟩, hpeak⟩, hstop⟩ := h
      obtain ⟨curve, hcurve⟩ := isCurve_iff.1 hcurve
      obtain ⟨peak, hpeak⟩ := isQuantity_iff.1 hpeak
      obtain ⟨stop, hstop⟩ := isQuantity_iff.1 hstop
      exact ⟨_, .contour hk ho hcurve hpeak hstop⟩
    · cases h
  · rintro ⟨x, h⟩
    unfold Datum.isMotion
    cases h with
    | constant hk ho hvalue => simp [hk, ho, isQuantity_iff.2 ⟨_, hvalue⟩]
    | transition hk ho hcurve hstart hstop =>
      simp [hk, ho, isCurve_iff.2 ⟨_, hcurve⟩, isQuantity_iff.2 ⟨_, hstart⟩,
        isQuantity_iff.2 ⟨_, hstop⟩]
    | contour hk ho hcurve hpeak hstop =>
      simp [hk, ho, isCurve_iff.2 ⟨_, hcurve⟩, isQuantity_iff.2 ⟨_, hpeak⟩,
        isQuantity_iff.2 ⟨_, hstop⟩]

theorem isTrack_iff : Datum.isTrack value = true ↔ ∃ x, Motion.Tracked value x := by
  constructor
  · intro h
    unfold Datum.isTrack at h
    split at h
    · exact ⟨_, .absent⟩
    · exact ⟨_, .null⟩
    · obtain ⟨x, hx⟩ := isMotion_iff.1 h
      exact ⟨_, .motion hx⟩
    · cases h
  · rintro ⟨x, h⟩
    cases h with
    | absent | null => rfl
    | motion hx => exact isMotion_iff.2 ⟨_, hx⟩

theorem isSegment_iff : Datum.isSegment fields = true ↔ ∃ x, SegmentTemplate.Given fields x := by
  simp only [Datum.isSegment, Bool.and_eq_true]
  constructor
  · rintro ⟨⟨⟨ho, hduration⟩, hformant⟩, hamplitude⟩
    obtain ⟨milliseconds, hduration⟩ := isDuration_iff.1 hduration
    obtain ⟨formant, hformant⟩ := isTrack_iff.1 hformant
    obtain ⟨amplitude, hamplitude⟩ := isTrack_iff.1 hamplitude
    exact ⟨⟨milliseconds, formant, amplitude⟩, ho, hduration, hformant, hamplitude⟩
  · rintro ⟨x, h⟩
    exact ⟨⟨⟨h.only, isDuration_iff.2 ⟨_, h.milliseconds⟩⟩, isTrack_iff.2 ⟨_, h.formant⟩⟩,
      isTrack_iff.2 ⟨_, h.amplitude⟩⟩

theorem isItem_iff : Datum.isItem d = true ↔ ∃ item, Item.Given d item := by
  constructor
  · intro h
    unfold Datum.isItem at h
    split at h
    · exact ⟨_, .call⟩
    · obtain ⟨x, hx⟩ := isSegment_iff.1 h
      exact ⟨_, .segment hx⟩
    · cases h
  · rintro ⟨item, h⟩
    cases h with
    | call => rfl
    | segment hx => exact isSegment_iff.2 ⟨_, hx⟩

theorem allItems_iff {values : List Datum} :
    values.all Datum.isItem = true ↔ ∃ found, List.Forall₂ Item.Given values found := by
  rw [List.all_eq_true]
  constructor
  · intro h
    induction values with
    | nil => exact ⟨[], .nil⟩
    | cons d values ih =>
      rw [List.forall_mem_cons] at h
      obtain ⟨item, hitem⟩ := isItem_iff.1 h.1
      obtain ⟨found, hfound⟩ := ih h.2
      exact ⟨item :: found, .cons hitem hfound⟩
  · rintro ⟨found, hfound⟩ d hd
    induction hfound with
    | nil => cases hd
    | cons hitem _ ih =>
      rcases List.mem_cons.1 hd with rfl | hd
      · exact isItem_iff.2 ⟨_, hitem⟩
      · exact ih hd

theorem isPronunciation_iff : Datum.isPronunciation d = true ↔ ∃ p, Pronunciation.Given d p := by
  constructor
  · intro h
    unfold Datum.isPronunciation at h
    split at h
    · exact ⟨_, .null⟩
    · obtain ⟨found, hfound⟩ := allItems_iff.1 h
      exact ⟨_, .sequence hfound⟩
    · obtain ⟨item, hitem⟩ := isItem_iff.1 h
      exact ⟨_, .single hitem⟩
  · rintro ⟨p, h⟩
    cases h with
    | null => rfl
    | single hitem =>
      have hd := isItem_iff.2 ⟨_, hitem⟩
      cases hitem with
      | call => rfl
      | segment _ => exact hd
    | sequence hfound => exact allItems_iff.2 ⟨_, hfound⟩

/-- A pronunciation is read just when it is one by the grammar, and to a record of what it gives and
of nothing else. -/
theorem Pronunciation.read?_iff_given (d : Datum) :
    (d.isPronunciation = true ↔ ∃ p, read? d = .ok p) ∧
      ∀ p, read? d = .ok p ↔ Given d p := by
  refine ⟨?_, fun p => read?_eq_ok⟩
  rw [isPronunciation_iff]
  exact exists_congr fun p => read?_eq_ok.symm

end Grammar

end Silbo
