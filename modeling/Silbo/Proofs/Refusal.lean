import Silbo.Proofs.Grammar

/-!
Pronunciations that are refused. A value that is no pronunciation is refused as malformed, or as no
item at all, with two exceptions: a motion whose kind is a list or a table is of the wrong type, and
a number that no double is near is too large.
-/
namespace Silbo

namespace Datum

def segments : Datum → List (List (String × Datum))
  | table fields => [fields]
  | list items => items.filterMap fun | table fields => some fields | _ => none
  | _ => []

def motionsOf (segment : List (String × Datum)) : List (List (String × Datum)) :=
  ["formant", "amplitude"].filterMap fun name =>
    match segment.lookup name with
    | some (table fields) => some fields
    | _ => none

def figuresAt (names : List String) (fields : List (String × Datum)) : List Number :=
  names.filterMap fun name =>
    match fields.lookup name with
    | some (number n) => some n
    | _ => none

def kindsOf (segment : List (String × Datum)) : List Datum :=
  (motionsOf segment).filterMap (·.lookup "kind")

def figuresOf (segment : List (String × Datum)) : List Number :=
  figuresAt ["milliseconds"] segment ++
    (motionsOf segment).flatMap (figuresAt ["value", "start", "peak", "end"])

def kinds (d : Datum) : List Datum := d.segments.flatMap kindsOf

def figures (d : Datum) : List Number := d.segments.flatMap figuresOf

end Datum

/-- What a pronunciation is refused for, given the kinds and the numbers in it. -/
inductive Objection (kinds : List Datum) (numbers : List Number) : Fault → Prop where
  | malformed (flaw : Flaw) : Objection kinds numbers (.error ⟨.malformed flaw, none, none⟩)
  | item (d : Datum) : Objection kinds numbers (.itemNotPronounceable d)
  | kind : d ∈ kinds → d.isPlain = false → Objection kinds numbers .wrongType
  | number : n ∈ numbers → n.toFloat? = none → Objection kinds numbers .tooLarge

/-- Reading that fails with such an objection only. -/
def Objects (kinds : List Datum) (numbers : List Number) (r : Except Fault α) : Prop :=
  ∀ f, r = .error f → Objection kinds numbers f

variable {kinds kinds' : List Datum} {numbers numbers' : List Number}

section Combining

theorem Objection.mono (h : Objection kinds numbers f) (hk : kinds ⊆ kinds')
    (hn : numbers ⊆ numbers') : Objection kinds' numbers' f := by
  cases h with
  | malformed flaw => exact .malformed flaw
  | item d => exact .item d
  | kind hd hplain => exact .kind (hk hd) hplain
  | number hmem hnone => exact .number (hn hmem) hnone

theorem Objects.mono {r : Except Fault α} (h : Objects kinds numbers r) (hk : kinds ⊆ kinds')
    (hn : numbers ⊆ numbers') : Objects kinds' numbers' r :=
  fun f hf => (h f hf).mono hk hn

theorem objects_ok (a : α) : Objects kinds numbers (.ok a : Except Fault α) := nofun

theorem Objection.objects (h : Objection kinds numbers f) :
    Objects kinds numbers (.error f : Except Fault α) :=
  fun _ hf => Except.error.inj hf ▸ h

theorem Objects.bind {x : Except Fault α} {g : α → Except Fault β} (hx : Objects kinds numbers x)
    (hg : ∀ a, Objects kinds numbers (g a)) : Objects kinds numbers (x >>= g) := by
  cases x with
  | ok a => exact hg a
  | error f => exact (hx f rfl).objects

theorem Objects.map {x : Except Fault α} (hx : Objects kinds numbers x) (g : α → β) :
    Objects kinds numbers (x.map g) := by
  cases x with
  | ok a => exact objects_ok (g a)
  | error f => exact (hx f rfl).objects

theorem error_of_bind {x : Except ε α} {g : α → β} (h : (x >>= fun a => .ok (g a)) = .error e) :
    x = .error e := by
  cases x with
  | ok a => cases h
  | error e' =>
    cases h
    rfl

theorem objects_mapM {g : α → Except Fault β} {as : List α}
    (h : ∀ a ∈ as, Objects kinds numbers (g a)) : Objects kinds numbers (as.mapM g) := by
  induction as with
  | nil => exact objects_ok []
  | cons a as ih =>
    rw [List.forall_mem_cons] at h
    rw [List.mapM_cons]
    exact h.1.bind fun b => (ih h.2).bind fun bs => objects_ok (b :: bs)

end Combining

section Fields

variable {fields : List (String × Datum)}

theorem mem_figuresAt {names : List String} (hn : name ∈ names)
    (h : fields.lookup name = some (.number n)) : n ∈ Datum.figuresAt names fields :=
  List.mem_filterMap.2 ⟨name, hn, by rw [h]⟩

theorem quantity_objects {names : List String} (hn : name ∈ names) (field : String)
    (fields : List (String × Datum)) :
    Objects kinds (Datum.figuresAt names fields) (Quantity.read? field (fields.lookup name)) := by
  unfold Quantity.read?
  split
  · exact objects_ok none
  · exact objects_ok none
  · split
    · exact objects_ok _
    · rename_i h _ hnone
      exact (Objection.number (mem_figuresAt hn h) hnone).objects
  · exact objects_ok _
  · exact (Objection.malformed _).objects

theorem curve_objects (value : Option Datum) :
    Objects kinds numbers (Motion.readCurve value) := by
  unfold Motion.readCurve
  split
  · exact objects_ok _
  · split
    · split
      · exact objects_ok _
      · exact (Objection.malformed _).objects
    · exact (Objection.malformed _).objects

theorem kind_objects (h : ∀ k ∈ fields.lookup "kind", k ∈ kinds) :
    Objects kinds numbers (Motion.readKind ((fields.lookup "kind").getD .null)) := by
  have hplain : ((fields.lookup "kind").getD .null).isPlain = false →
      Objection kinds numbers .wrongType := by
    intro hp
    cases hk : fields.lookup "kind" with
    | none => simp [hk, Datum.isPlain] at hp
    | some k => exact .kind (h k hk) (by simpa [hk] using hp)
  unfold Motion.readKind
  split
  · split
    · exact objects_ok _
    · exact (Objection.malformed _).objects
  · rename_i hd
    exact (hplain (by rw [hd]; rfl)).objects
  · rename_i hd
    exact (hplain (by rw [hd]; rfl)).objects
  · exact (Objection.malformed _).objects

theorem motion_objects (h : ∀ k ∈ fields.lookup "kind", k ∈ kinds)
    (hn : Datum.figuresAt ["value", "start", "peak", "end"] fields ⊆ numbers) :
    Objects kinds numbers (Motion.readFields fields) := by
  have hquantity (name : String) (hname : name ∈ ["value", "start", "peak", "end"]) :
      Objects kinds numbers (Quantity.read? name (fields.lookup name)) :=
    (quantity_objects hname name fields).mono (List.Subset.refl _) hn
  refine (kind_objects h).bind fun ⟨kind, allowed⟩ => ?_
  dsimp only
  split
  · exact (Objection.malformed _).objects
  split
  · exact (hquantity "value" (by simp)).bind fun value => objects_ok _
  · refine (curve_objects _).bind fun curve => ?_
    split
    · exact (hquantity "end" (by simp)).bind fun stop =>
        (hquantity "start" (by simp)).bind fun start => objects_ok _
    · exact (hquantity "peak" (by simp)).bind fun peak =>
        (hquantity "end" (by simp)).bind fun stop => objects_ok _

theorem track_objects (h : ∀ motion, fields.lookup name = some (.table motion) →
      (∀ k ∈ motion.lookup "kind", k ∈ kinds) ∧
        Datum.figuresAt ["value", "start", "peak", "end"] motion ⊆ numbers) :
    Objects kinds numbers (Motion.read? (fields.lookup name)) := by
  unfold Motion.read?
  split
  · exact objects_ok none
  · exact objects_ok none
  · rename_i motion hm
    exact (motion_objects (h motion hm).1 (h motion hm).2).map some
  · exact (Objection.malformed _).objects

theorem duration_objects (fields : List (String × Datum)) :
    Objects kinds (Datum.figuresAt ["milliseconds"] fields)
      (SegmentTemplate.readDuration (fields.lookup "milliseconds")) := by
  unfold SegmentTemplate.readDuration
  split
  · exact objects_ok none
  · exact objects_ok none
  · rename_i hd
    split
    · split
      · exact (Objection.malformed _).objects
      · split
        · exact objects_ok _
        · rename_i hnone
          exact (Objection.number (mem_figuresAt (by simp) hd) hnone).objects
    · exact (Objection.malformed _).objects

end Fields

section Segments

variable {fields : List (String × Datum)}

theorem mem_motionsOf (hname : name ∈ ["formant", "amplitude"])
    (h : fields.lookup name = some (.table motion)) : motion ∈ Datum.motionsOf fields :=
  List.mem_filterMap.2 ⟨name, hname, by rw [h]⟩

theorem segment_objects (fields : List (String × Datum)) :
    Objects (Datum.kindsOf fields) (Datum.figuresOf fields)
      (SegmentTemplate.readFields fields) := by
  have htrack (name : String) (hname : name ∈ ["formant", "amplitude"]) :
      Objects (Datum.kindsOf fields) (Datum.figuresOf fields)
        (Motion.read? (fields.lookup name)) := by
    refine track_objects fun motion hm => ⟨fun k hk => ?_, fun n hn => ?_⟩
    · exact List.mem_filterMap.2 ⟨motion, mem_motionsOf hname hm, hk⟩
    · refine List.mem_append_right _ ?_
      exact List.mem_flatMap.2 ⟨motion, mem_motionsOf hname hm, hn⟩
  unfold SegmentTemplate.readFields
  dsimp only
  split
  · exact (Objection.malformed _).objects
  · have hduration : Objects (Datum.kindsOf fields) (Datum.figuresOf fields)
        (SegmentTemplate.readDuration (fields.lookup "milliseconds")) :=
      (duration_objects fields).mono (List.Subset.refl _) (List.subset_append_left _ _)
    exact hduration.bind fun milliseconds => (htrack "formant" (by simp)).bind fun formant =>
      (htrack "amplitude" (by simp)).bind fun amplitude => objects_ok _

theorem item_objects (h : ∀ fields, d = .table fields →
      Datum.kindsOf fields ⊆ kinds ∧ Datum.figuresOf fields ⊆ numbers) :
    Objects kinds numbers (Item.read d) := by
  unfold Item.read
  split
  · exact objects_ok _
  · rename_i fields
    exact ((segment_objects fields).mono (h fields rfl).1 (h fields rfl).2).map Item.segment
  · exact (Objection.item _).objects

/-- A value of any kind and size is a pronunciation, or is refused with an objection to it. -/
theorem pronunciation_objects (d : Datum) :
    Objects d.kinds d.figures (Pronunciation.read? d) := by
  have hsegment (segment : List (String × Datum)) (h : segment ∈ d.segments) :
      Datum.kindsOf segment ⊆ d.kinds ∧ Datum.figuresOf segment ⊆ d.figures :=
    ⟨fun k hk => List.mem_flatMap.2 ⟨segment, h, hk⟩,
      fun n hn => List.mem_flatMap.2 ⟨segment, h, hn⟩⟩
  unfold Pronunciation.read?
  split
  · exact objects_ok none
  · rename_i items
    refine (objects_mapM fun e he => item_objects fun fields hf => hsegment fields ?_).map _
    exact List.mem_filterMap.2 ⟨e, he, by rw [hf]⟩
  · refine (item_objects fun fields hf => hsegment fields ?_).map _
    rw [hf]
    exact List.mem_singleton.2 rfl

end Segments

namespace Table

/-- A pronunciation is refused where it stands: as the body of a macro, or in a rule or as what is
said elsewhere, all else of the rule or the grapheme being read. -/
inductive Refuses (d : Datum) (f : Fault) : Prop where
  | body : readBody d = .error f → Refuses d f
  | rule : fields.lookup "pronunciation" = some d →
      readContext ((fields.lookup "context").getD .null) = .ok sides →
      readRule (.table fields) = .error f → Refuses d f
  | elsewhere : fields.lookup "elsewhere" = some d →
      membersOf ((fields.lookup "contexts").getD (.list [])) = .ok members →
      members.mapM readRule = .ok rules →
      readGrapheme (.table fields) = .error f → Refuses d f

theorem Refuses.read?_eq (h : Refuses d f) : Pronunciation.read? d = .error f := by
  cases h with
  | body h => exact error_of_bind h
  | rule hd hsides h =>
    unfold readRule at h
    simp only [hd, hsides, Option.getD_some] at h
    exact error_of_bind h
  | elsewhere hd hmembers hrules h =>
    unfold readGrapheme at h
    simp only [hd, hmembers, Option.getD_some] at h
    change (List.mapM readRule _ >>= _) = _ at h
    rw [hrules] at h
    exact error_of_bind h

/-- Whatever is given as a pronunciation is read, or refused as malformed or as no item, or there is
a motion in it with a list or a table as its kind, or a number beyond the doubles. -/
theorem objection_of_refuses (h : Refuses d f) : Objection d.kinds d.figures f :=
  pronunciation_objects d f h.read?_eq

def listed : Datum := .table [("formant", .table [("kind", .list [])])]

def wobbling : Datum := .table [("formant", .table [("kind", .text "wobble")])]

/-- A number that no double is near. -/
def beyond : Number := .int (Int.ofNat (Nat.pow 10 400))

def boundless : List (String × Datum) := [("kind", .text "constant"), ("value", .number beyond)]

theorem boundless_tooLarge :
    SegmentTemplate.readFields [("amplitude", .table boundless)] = .error .tooLarge := by
  have hnone : beyond.toFloat? = none := by decide +kernel
  have hquantity : Quantity.read? "value" (boundless.lookup "value") = .error .tooLarge := by
    show Quantity.read? "value" (some (.number beyond)) = _
    unfold Quantity.read?
    simp only [hnone]
  have hmotion : Motion.readFields boundless = .error .tooLarge := by
    rw [Motion.readFields_of_kind rfl rfl, hquantity]
    rfl
  rw [SegmentTemplate.readFields_eq]
  show ((Motion.readFields boundless).map some >>= _) = _
  rw [hmotion]
  rfl

theorem objection_of_refuses_listed :
    Refuses (.list [.text "a", listed]) .wrongType ∧
      Objection [.list []] [] .wrongType ∧
      Refuses wobbling (.error ⟨.malformed (.unknownMotion "wobble"), none, none⟩) ∧
      Objection [.text "wobble"] [] (.error ⟨.malformed (.unknownMotion "wobble"), none, none⟩) ∧
      Refuses (.table [("amplitude", .table boundless)]) .tooLarge ∧
      Objection [.text "constant"] [beyond] .tooLarge := by
  have hlisted : Refuses (.list [.text "a", listed]) .wrongType :=
    .body (by with_unfolding_all rfl)
  have hwobbling :
      Refuses wobbling (.error ⟨.malformed (.unknownMotion "wobble"), none, none⟩) := by
    have hrule : readRule (.table [("context", .list [.text "", .text "a"]),
        ("pronunciation", wobbling)]) =
        .error (.error ⟨.malformed (.unknownMotion "wobble"), none, none⟩) := by
      with_unfolding_all rfl
    exact .rule (by rfl) (by rfl) hrule
  have hboundless : Refuses (.table [("amplitude", .table boundless)]) .tooLarge := by
    have hgrapheme : readGrapheme (.table [("elsewhere", .table [("amplitude",
        .table boundless)])]) = .error .tooLarge := by
      unfold readGrapheme
      show ((SegmentTemplate.readFields [("amplitude", .table boundless)]).map Item.segment).map
        (fun item => some (Pronunciation.single item)) >>= _ = _
      rw [boundless_tooLarge]
      rfl
    exact .elsewhere (by rfl) (by rfl) (by rfl) hgrapheme
  exact ⟨hlisted, objection_of_refuses hlisted, hwobbling, objection_of_refuses hwobbling,
    hboundless, objection_of_refuses hboundless⟩

end Table

end Silbo
