import Silbo.Proofs.Naming
import Silbo.Proofs.Provenance
import Silbo.Proofs.Reading

/-!
Tables that say more. What a table says about the names that occur in it stays as it is when
classes, constants and macros are declared under other names, however flawed these are: names
resolve to the same symbols or to the same error, and every text has the same words.
-/
namespace Silbo

def Datum.text? : Datum → Option String
  | .text s => some s
  | _ => none

def Quantity.mentions : Quantity → List String
  | .literal _ => []
  | .named name => [name]

def Item.mentions : Item → List String
  | .call name => [name]
  | .segment x =>
    (x.formant.toList ++ x.amplitude.toList).flatMap fun motion =>
      motion.quantities.flatMap Quantity.mentions

namespace Model

section Values

variable {m m' : Model}

theorem quantity_congr (h : ∀ x ∈ q, m.value? x = m'.value? x) (kind field : String) :
    m.quantity kind field q = m'.quantity kind field q := by
  cases q with
  | none => rfl
  | some q =>
    cases q with
    | literal x => rfl
    | named name =>
      have hname : m.constant? name = m'.constant? name := h _ rfl
      simp only [quantity, hname]

theorem trajectory_congr (h : ∀ q ∈ motion.quantities, m.value? q = m'.value? q)
    (incoming duration : Number) :
    m.trajectory (some motion) incoming duration =
      m'.trajectory (some motion) incoming duration := by
  have hq {q : Option Quantity} (hq : ∀ x ∈ q, x ∈ motion.quantities) (kind field : String) :
      m.quantity kind field q = m'.quantity kind field q :=
    quantity_congr (fun x hx => h x (hq x hx)) kind field
  cases motion with
  | constant value =>
    simp only [trajectory]
    rw [hq (by simp [Motion.quantities])]
  | transition start stop curve =>
    have hstop := hq (q := stop) (by simp +contextual [Motion.quantities]) "transition" "end"
    cases start with
    | none => simp only [trajectory, hstop]
    | some start =>
      have hstart := hq (q := some start) (by simp [Motion.quantities]) "transition" "start"
      simp only [trajectory, hstart, hstop]
  | contour peak stop curve =>
    have hpeak := hq (q := peak) (by simp +contextual [Motion.quantities]) "contour" "peak"
    have hstop := hq (q := stop) (by simp +contextual [Motion.quantities]) "contour" "end"
    simp only [trajectory, hpeak, hstop]

theorem segments_congr {templates : List SegmentTemplate}
    (h : ∀ x ∈ templates, ∀ k : Track, ∀ motion, k.motion x = some motion →
      ∀ q ∈ motion.quantities, m.value? q = m'.value? q) (d : Number) (ambient : Ambient) :
    m.segments d ambient templates = m'.segments d ambient templates := by
  induction templates generalizing ambient with
  | nil => rfl
  | cons x templates ih =>
    obtain ⟨hx, hrest⟩ := List.forall_mem_cons.1 h
    have htrack (k : Track) (incoming duration : Number) :
        m.trajectory (k.motion x) incoming duration =
          m'.trajectory (k.motion x) incoming duration := by
      cases hk : k.motion x with
      | none => rfl
      | some motion => exact trajectory_congr (hx k motion hk) incoming duration
    have hsegment : m.segment d ambient x = m'.segment d ambient x := by
      have hformant := htrack .formant
      have hamplitude := htrack .amplitude
      simp only [Track.motion] at hformant hamplitude
      simp only [segment, hformant, hamplitude]
    simp only [segments, hsegment, ih hrest]

end Values

end Model

namespace Table
open Model Work

/-- The names in a table: those that are numbered, and those in its items. -/
def vocabulary (t : Table) : List String :=
  t.mentioned.filterMap Datum.text? ++ t.items.flatMap Item.mentions

/-- A table says the same as another about the names in that one. -/
structure Widens (t t' : Table) : Prop where
  boundary_eq : t'.boundary = t.boundary
  symbols_eq : t'.symbols = t.symbols
  graphemes_eq : t'.graphemes = t.graphemes
  classes_eq : ∀ name ∈ t.vocabulary, t'.classes.lookup name = t.classes.lookup name
  constants_eq : ∀ name ∈ t.vocabulary, t'.constants.lookup name = t.constants.lookup name
  macros_eq : ∀ name ∈ t.vocabulary, t'.macros.lookup name = t.macros.lookup name

variable {t t' : Table}

section Vocabulary

theorem vocabulary_of_mentioned (h : .text name ∈ t.mentioned) : name ∈ t.vocabulary :=
  List.mem_append_left _ (List.mem_filterMap.2 ⟨_, h, rfl⟩)

theorem vocabulary_of_item (hi : item ∈ t.items) (h : name ∈ item.mentions) :
    name ∈ t.vocabulary :=
  List.mem_append_right _ (List.mem_flatMap.2 ⟨item, hi, h⟩)

theorem vocabulary_of_side {r : ContextRule} (hg : (symbol, g) ∈ t.graphemes) (hr : r ∈ g.rules)
    (hside : side ∈ [r.left, r.right]) : side = "" ∨ side ∈ t.vocabulary := by
  by_cases he : side = ""
  · exact .inl he
  · refine .inr (vocabulary_of_mentioned (field_mem_mentioned ?_))
    have hmem : side ∈ r.sides := List.mem_filter.2 ⟨hside, by simpa using he⟩
    have hrules := List.mem_flatMap.2 ⟨r, hr, hmem⟩
    refine List.mem_append_right _ (List.mem_flatMap.2 ⟨_, hg, ?_⟩)
    exact List.mem_cons_of_mem _ hrules

theorem vocabulary_of_quantity {x : SegmentTemplate} {k : Track} (hx : x ∈ t.written)
    (hm : k.motion x = some motion) (hq : .named name ∈ motion.quantities) :
    name ∈ t.vocabulary := by
  obtain ⟨item, hitem, hx⟩ := List.mem_filterMap.1 hx
  cases item with
  | call name => cases hx
  | segment y =>
    cases hx
    refine vocabulary_of_item hitem (List.mem_flatMap.2 ⟨motion, ?_, ?_⟩)
    · cases k with
      | formant => exact List.mem_append_left _ (Option.mem_toList.2 hm)
      | amplitude => exact List.mem_append_right _ (Option.mem_toList.2 hm)
    · exact List.mem_flatMap.2 ⟨_, hq, List.mem_cons_self⟩

end Vocabulary

section Classes

theorem Widens.similar (h : t.Widens t') :
    t.hierarchy.Similar t'.hierarchy fun x y => x = y ∧ x ∈ t.vocabulary where
  left_unique hx hz := hx.1.trans hz.1.symm
  right_unique hy hz := hy.1.symm.trans hz.1
  leaf_iff hx := by
    show _ ∈ t.symbols ↔ _ ∈ t'.symbols
    rw [h.symbols_eq, hx.1]
  none_iff hx := by
    show t.classes.lookup _ = none ↔ t'.classes.lookup _ = none
    rw [← hx.1, h.classes_eq _ hx.2]
  forall₂ hx hm ho := by
    have hm' : t'.classes.lookup _ = some _ := ho
    rw [← hx.1, h.classes_eq _ hx.2] at hm'
    cases hm.symm.trans hm'
    rw [List.forall₂_same]
    intro z hz
    have hclass := mem_of_lookup hm
    exact ⟨rfl, vocabulary_of_mentioned (class_mem_mentioned hclass (List.mem_cons_of_mem _ hz))⟩

theorem Widens.namesOf (h : t.Widens t') (hname : name ∈ t.vocabulary) :
    Matches SameNames ((ofTable t).namesOf name) ((ofTable t').namesOf name) :=
  ((denotes_namesOf t name).transfer h.similar hname).matches (denotes_namesOf t' name)

theorem Widens.fits (h : t.Widens t') (hside : side = "" ∨ side ∈ t.vocabulary)
    (neighbour : Option String) :
    (ofTable t).fits ((ofTable t).pattern side) neighbour =
      (ofTable t').fits ((ofTable t').pattern side) neighbour := by
  by_cases he : side = ""
  · subst he
    rfl
  · rw [fits_pattern he, fits_pattern he]
    refine (h.namesOf (hside.resolve_left he)).map_eq fun names others hsame => ?_
    rw [hsame.contains_eq]

end Classes

section Macros

theorem Widens.expands (h : t.Widens t') (he : (ofTable t).Expands chain p result)
    (hp : ∀ item ∈ p.items, item ∈ t.items) : (ofTable t').Expands chain p result := by
  have hlookup {name : String} (hp : ∀ item ∈ [Item.call name], item ∈ t.items) :
      t'.macros.lookup name = t.macros.lookup name :=
    h.macros_eq name (vocabulary_of_item (hp _ List.mem_cons_self) List.mem_cons_self)
  induction he with
  | segment => exact .segment
  | cyclic hc hn => exact .cyclic hc hn
  | unknown hn hd =>
    refine .unknown hn fun body hb => hd body ?_
    rwa [declares_iff, ← hlookup hp, ← declares_iff]
  | body hn hd _ ih =>
    refine .body hn ?_ (ih (items_of_declares hd))
    rwa [declares_iff, hlookup hp, ← declares_iff]
  | nil => exact .nil
  | cons _ _ ihf ihl =>
    obtain ⟨hitem, hrest⟩ := List.forall_mem_cons.1 hp
    exact .cons (ihf (List.forall_mem_singleton.2 hitem)) (ihl hrest)
  | first _ ih =>
    obtain ⟨hitem, _⟩ := List.forall_mem_cons.1 hp
    exact .first (ih (List.forall_mem_singleton.2 hitem))
  | later _ _ ihf ihl =>
    obtain ⟨hitem, hrest⟩ := List.forall_mem_cons.1 hp
    exact .later (ihf (List.forall_mem_singleton.2 hitem)) (ihl hrest)

theorem Widens.segmentsOf (h : t.Widens t') (hp : ∀ item ∈ p.items, item ∈ t.items) :
    (ofTable t).segmentsOf p = (ofTable t').segmentsOf p :=
  (h.expands (segmentsOf_expands _ p) hp).deterministic (segmentsOf_expands _ p)

end Macros

section Entries

theorem Widens.value? (h : t.Widens t') (hx : x ∈ t.written) {k : Track}
    (hm : k.motion x = some motion) : ∀ q ∈ motion.quantities,
      (ofTable t).value? q = (ofTable t').value? q := by
  intro q hq
  rw [value?_ofTable, value?_ofTable]
  cases q with
  | literal x => rfl
  | named name => exact (h.constants_eq name (vocabulary_of_quantity hx hm hq)).symm

theorem Widens.accepts (h : t.Widens t') (hside : side = "" ∨ side ∈ t.vocabulary)
    (neighbour : Option String) :
    Agree (ofTable t).Sound (ofTable t').Sound Eq
      ((ofTable t).accepts ((ofTable t).pattern side) neighbour)
      ((ofTable t').accepts ((ofTable t').pattern side) neighbour) :=
  ⟨_, _, accepts_settles _ _ _, accepts_settles _ _ _, matches_eq.2 (h.fits hside neighbour)⟩

theorem Widens.firstMatch (h : t.Widens t') (left right : Option String) (i : Nat)
    {rules : List ContextRule}
    (hr : ∀ r ∈ rules, ∀ side ∈ [r.left, r.right], side = "" ∨ side ∈ t.vocabulary) :
    Agree (ofTable t).Sound (ofTable t').Sound
      (Option.Rel fun a b => a.1 = b.1 ∧ a.2.pronunciation = b.2.pronunciation)
      ((ofTable t).firstMatch left right i (rules.map (ofTable t).rule))
      ((ofTable t').firstMatch left right i (rules.map (ofTable t').rule)) := by
  induction rules generalizing i with
  | nil => exact agree_pure .none
  | cons r rules ih =>
    obtain ⟨hsides, hrest⟩ := List.forall_mem_cons.1 hr
    unfold Model.firstMatch
    refine (h.accepts (hsides r.left (by simp)) left).bind ?_
    rintro fits _ rfl
    cases fits with
    | false => exact ih (i + 1) hrest
    | true =>
      refine (h.accepts (hsides r.right (by simp)) right).bind ?_
      rintro fits _ rfl
      cases fits with
      | false => exact ih (i + 1) hrest
      | true => exact agree_pure (.some ⟨rfl, rfl⟩)

theorem Widens.select (h : t.Widens t') (hg : (symbol, g) ∈ t.graphemes)
    (left right : Option String) :
    Agree (ofTable t).Sound (ofTable t').Sound Eq
      ((ofTable t).select ((ofTable t).entry symbol g) left right)
      ((ofTable t').select ((ofTable t').entry symbol g) left right) := by
  unfold Model.select
  refine (h.firstMatch left right 0 fun r hr _ => vocabulary_of_side hg hr).bind ?_
  intro found found' hfound
  cases hfound with
  | @some a b hab =>
    obtain ⟨hi, hp⟩ := hab
    refine (agree_report _ _).bind fun _ _ _ => ?_
    rw [hi, hp]
    cases b.2.pronunciation with
    | some p => exact agree_pure rfl
    | none => exact agree_pure rfl
  | none =>
    simp only [Model.entry]
    cases g.elsewhere with
    | some p => exact agree_pure rfl
    | none => exact (agree_report _ _).bind fun _ _ _ => agree_pure rfl

theorem Widens.expand (h : t.Widens t') (hp : ∀ item ∈ p.items, item ∈ t.items) :
    Agree (ofTable t).Sound (ofTable t').Sound Eq ((ofTable t).expand p) ((ofTable t').expand p) :=
  ⟨_, _, expand_settles _ _, expand_settles _ _, matches_eq.2 (h.segmentsOf hp)⟩

theorem Widens.entryFor (h : t.Widens t') (symbol : String) :
    Agree (ofTable t).Sound (ofTable t').Sound
      (fun e e' => ∃ g, t.graphemes.lookup symbol = some g ∧ e = (ofTable t).entry symbol g ∧
        e' = (ofTable t').entry symbol g)
      (Work.ofExcept ((ofTable t).entryFor symbol))
      (Work.ofExcept ((ofTable t').entryFor symbol)) := by
  apply agree_ofExcept
  rw [(mirrors_ofTable t).entryFor, (mirrors_ofTable t').entryFor, h.graphemes_eq]
  cases t.graphemes.lookup symbol with
  | none => exact .error
  | some g => exact .ok ⟨g, rfl, rfl, rfl⟩

theorem Widens.realize (h : t.Widens t') (left : Option String) (token : Token)
    (right : Option String) :
    Agree (ofTable t).Sound (ofTable t').Sound Eq ((ofTable t).realize left token right)
      ((ofTable t').realize left token right) := by
  unfold Model.realize
  refine (h.entryFor token.text).bind ?_
  rintro _ _ ⟨g, hg, rfl, rfl⟩
  have hselect := h.select (mem_of_lookup hg) left right
  refine (hselect.ensures (select_ensures _ _ left right) {} sound_nil).bind ?_
  rintro selection _ ⟨rfl, hc⟩
  cases hp : selection.pronunciation? with
  | none => exact agree_pure rfl
  | some p =>
    have hitems := items_of_pronunciation hg (pronunciation_of_chooses hc hp)
    refine (h.expand hitems).bind ?_
    rintro templates _ rfl
    exact agree_pure rfl

theorem Widens.alike (h : t.Widens t') : (ofTable t).Alike (ofTable t') where
  boundary_eq := h.boundary_eq
  alphabet_eq := h.symbols_eq
  produces d ambient left token right := by
    have hrealize := h.realize left token right
    refine (hrealize.ensures (realize_ensures _ left token right) {} sound_nil).bind ?_
    rintro realization _ ⟨rfl, hr⟩
    have hsegments : (ofTable t).segments d ambient realization.templates =
        (ofTable t').segments d ambient realization.templates :=
      segments_congr (fun x hx _ _ hm => h.value? (realizes_written hr x hx) hm) d ambient
    rw [hsegments]
    refine (agree_ofExcept (matches_eq.2 rfl)).bind ?_
    rintro segments _ rfl
    exact agree_pure rfl

end Entries

section Flattening

theorem Widens.denotes_flat (h : t.Widens t') (hflat : flat ∉ t.vocabulary)
    (hl : t'.classes.lookup flat = some names) (hn : (ofTable t).namesOf name = .ok others)
    (hsame : SameNames names others) : t'.Denotes flat (.ok names) := by
  have hdenotes := denotes_namesOf t name
  rw [hn] at hdenotes
  have hleaf : ∀ x ∈ names, t'.hierarchy.leaf x := by
    intro x hx
    show .text x ∈ t'.symbols
    rw [h.symbols_eq]
    exact ((hdenotes.2.2 x).1 ((hsame.2.2 x).1 hx)).1
  have hnot : ¬ t'.hierarchy.leaf flat := by
    intro hs
    have hs : .text flat ∈ t'.symbols := hs
    rw [h.symbols_eq] at hs
    exact hflat (vocabulary_of_mentioned (symbol_mem_mentioned hs))
  refine ⟨?_, hsame.1, fun x => ?_⟩
  · rw [Hierarchy.resolvable_iff_members hnot hl]
    exact fun x hx => Hierarchy.resolvable_of_leaf (hleaf x hx)
  · rw [Hierarchy.reaches_iff_members hnot hl]
    constructor
    · exact fun hx => ⟨hleaf x hx, .inr ⟨x, hx, Relation.ReflTransGen.refl⟩⟩
    · rintro ⟨hx, rfl | ⟨y, hy, hyx⟩⟩
      · exact absurd hx hnot
      · rw [Hierarchy.reaches_leaf_iff (hleaf y hy)] at hyx
        rwa [hyx]

/-- Flattening is idempotent: a new class that lists what a class is flattened to resolves as that
class does, and is flattened to the same. -/
theorem Widens.flattened (h : t.Widens t') (hflat : flat ∉ t.vocabulary)
    (hn : ((ofTable t).flattenClass name).outcome {} = .ok names)
    (hl : t'.classes.lookup flat = some names) :
    ∃ covered covered', ((ofTable t').resolveClass flat).outcome {} = .ok covered ∧
      ((ofTable t').resolveClass name).outcome {} = .ok covered' ∧
      (∀ k, k ∈ covered ↔ k ∈ covered') ∧
      ((ofTable t').flattenClass flat).outcome {} = .ok names ∧
      ((ofTable t').flattenClass name).outcome {} = .ok names := by
  rw [flattenClass_eq] at hn
  obtain ⟨others, hothers, rfl⟩ := map_eq_ok.1 hn
  obtain ⟨_, hok, _⟩ := map_eq_ok.1 hothers
  obtain ⟨i, hi⟩ := handle?_of_ok hok
  have hdenotes := denotes_namesOf t name
  have hknown := h.namesOf (vocabulary_of_mentioned (mentioned_of_handle? hi))
  rw [hothers] at hdenotes hknown
  have hordered := sameNames_inOrder hdenotes.2.1
  have hnew := (h.denotes_flat hflat hl hothers hordered).matches (denotes_namesOf t' flat)
  obtain ⟨known, hk, hsame⟩ := hknown.exists_ok
  obtain ⟨new, hn, hsame'⟩ := hnew.exists_ok
  obtain ⟨covered, hc, rfl⟩ := map_eq_ok.1 hn
  obtain ⟨covered', hc', rfl⟩ := map_eq_ok.1 hk
  refine ⟨covered, covered', hc, hc', mem_iff_of_names hc hc' fun x => ?_, ?_, ?_⟩
  · rw [← hsame'.2.2, hordered.2.2, hsame.2.2]
  · rw [flattenClass_eq, hn]
    exact congrArg Except.ok (hsame'.inOrder_eq.symm.trans hordered.inOrder_eq)
  · rw [flattenClass_eq, hk]
    exact congrArg Except.ok hsame.inOrder_eq.symm

end Flattening

section Configurations

theorem lookup_filter {names : List String} (hname : name ∈ names)
    (fields : List (String × α)) :
    (fields.filter fun p => names.contains p.1).lookup name = fields.lookup name := by
  induction fields with
  | nil => rfl
  | cons p fields ih =>
    obtain ⟨key, a⟩ := p
    rw [List.filter_cons, List.lookup_cons]
    by_cases hkey : name = key
    · subst hkey
      rw [if_pos (List.contains_iff_mem.2 hname), List.lookup_cons, beq_self_eq_true]
    · have hb : (name == key) = false := beq_eq_false_iff_ne.2 hkey
      rw [hb, ← ih]
      split
      · rw [List.lookup_cons, hb]
      · rfl

/-- A configuration is another with more classes, constants and macros: without the entries whose
names are not among `names`, it has the same fields. -/
structure Adds (names : List String) (config config' : List (String × Datum)) : Prop where
  lookup_eq : ∀ key, key ∉ ["classes", "constants", "macros"] →
    config'.lookup key = config.lookup key
  filter_eq : ∀ key ∈ ["classes", "constants", "macros"],
    (fieldsOf (config'.lookup key)).map (List.filter fun p => names.contains p.1) =
      fieldsOf (config.lookup key)

theorem widens_of_adds (h : t.ReadFrom config) (h' : t'.ReadFrom config')
    (ha : Adds t.vocabulary config config') : t.Widens t' where
  boundary_eq := by
    rw [h.boundary_eq, h'.boundary_eq, ha.lookup_eq _ (by decide)]
  symbols_eq := by
    have hsymbols := h'.symbols
    rw [ha.lookup_eq _ (by decide), ha.lookup_eq _ (by decide), h.symbols] at hsymbols
    exact (Except.ok.inj hsymbols).symm
  graphemes_eq := by
    have hgraphemes := h'.graphemes
    rw [ha.lookup_eq _ (by decide), h.graphemes] at hgraphemes
    exact (Except.ok.inj hgraphemes).symm
  classes_eq name hname := by
    rw [← filter_readEntries t.vocabulary.contains h.classes h'.classes (ha.filter_eq _ (by simp))]
    exact (lookup_filter hname _).symm
  constants_eq name hname := by
    rw [← filter_readEntries t.vocabulary.contains h.constants h'.constants
      (ha.filter_eq _ (by simp))]
    exact (lookup_filter hname _).symm
  macros_eq name hname := by
    rw [← filter_readEntries t.vocabulary.contains h.macros h'.macros (ha.filter_eq _ (by simp))]
    exact (lookup_filter hname _).symm

/-- Entries under names that do not occur in a configuration never matter, whatever was asked
before: its names resolve as they did, and every text comes to the same. -/
theorem conservative_of_adds (h : Table.read config = .ok t) (h' : Table.read config' = .ok t')
    (ha : Adds t.vocabulary config config') (history history' : List Request) :
    (∀ name ∈ t.vocabulary, Matches SameNames
        ((((ofTable t).resolveClass name).outcome ((ofTable t).after history)).map
          (List.map (ofTable t).nameOf))
        ((((ofTable t').resolveClass name).outcome ((ofTable t').after history')).map
          (List.map (ofTable t').nameOf))) ∧
      (∀ s strict text,
        ((ofTable t).compileText s strict text).outcome ((ofTable t).after history) =
          ((ofTable t').compileText s strict text).outcome ((ofTable t').after history')) ∧
      ∀ flat name names, flat ∉ t.vocabulary →
        ((ofTable t).flattenClass name).outcome ((ofTable t).after history) = .ok names →
        t'.classes.lookup flat = some names →
        ∃ covered covered',
          ((ofTable t').resolveClass flat).outcome ((ofTable t').after history') = .ok covered ∧
          ((ofTable t').resolveClass name).outcome ((ofTable t').after history') = .ok covered' ∧
          (∀ k, k ∈ covered ↔ k ∈ covered') ∧
          ((ofTable t').flattenClass flat).outcome ((ofTable t').after history') = .ok names ∧
          ((ofTable t').flattenClass name).outcome ((ofTable t').after history') = .ok names := by
  have hwidens := widens_of_adds (readFrom_of_read h) (readFrom_of_read h') ha
  refine ⟨fun name hname => ?_, fun s strict text => ?_, fun flat name names hflat hn hl => ?_⟩
  · rw [outcome_after (resolveClass_steady _ name), outcome_after (resolveClass_steady _ name)]
    exact hwidens.namesOf hname
  · have hagree := compileText_agree hwidens.alike s strict text
    exact matches_eq.1 (hagree.matches (sound_after _ history) (sound_after _ history'))
  · rw [outcome_after (flattenClass_steady _ name)] at hn
    rw [outcome_after (resolveClass_steady _ flat), outcome_after (resolveClass_steady _ name),
      outcome_after (flattenClass_steady _ flat), outcome_after (flattenClass_steady _ name)]
    exact hwidens.flattened hflat hn hl

/-- The vowel `e` glides to a peak behind a vowel; `more` has further entries of each field. -/
def gliding (more : String → List (String × Datum)) : List (String × Datum) :=
  [("classes", .table (("vowel", .list [.text "e", .text "a"]) :: more "classes")),
    ("constants", .table (("PEAK", .number (.real 1500)) :: more "constants")),
    ("macros", .table (("glide", .list [.table [("formant", .table
      [("kind", .text "transition"), ("end", .text "PEAK")])]]) :: more "macros")),
    ("graphemes", .table [("a", .table []), ("e", .table [("contexts", .list [.table
      [("context", .list [.text "vowel", .text ""]), ("pronunciation", .text "glide")]])])])]

def glidingTable (classes : List (String × List String)) (constants : List (String × Float))
    (macros : List (String × Option (List Item))) : Table where
  symbols := [.text "a", .text "e"]
  classes := ("vowel", ["e", "a"]) :: classes
  constants := ("PEAK", 1500) :: constants
  macros := ("glide", some [.segment
    { formant := some (.transition none (some (.named "PEAK")) .sine) }]) :: macros
  graphemes := [("a", {}), ("e", { rules := [⟨"vowel", "", some (.single (.call "glide"))⟩] })]

/-- A class and a macro that are on a cycle, a class of something unknown, and the vowels again. -/
def flaws : String → List (String × Datum)
  | "classes" =>
    [("loop", .list [.text "loop", .text "gone"]), ("FLAT", .list [.text "a", .text "e"])]
  | "macros" => [("spin", .list [.text "spin"])]
  | _ => [("idle", .number (.real 7))]

theorem conservative_of_adds_flaws :
    ∃ t t', Table.read (gliding fun _ => []) = .ok t ∧ Table.read (gliding flaws) = .ok t' ∧
      Adds t.vocabulary (gliding fun _ => []) (gliding flaws) ∧ "FLAT" ∉ t.vocabulary ∧
      ((ofTable t).flattenClass "vowel").outcome ((ofTable t).after []) = .ok ["a", "e"] ∧
      t'.classes.lookup "FLAT" = some ["a", "e"] ∧
      ((ofTable t').flattenClass "FLAT").outcome ((ofTable t').after [.resolveClass "loop"]) =
        .ok ["a", "e"] ∧
      ∀ s strict text, ((ofTable t).compileText s strict text).outcome ((ofTable t).after []) =
        ((ofTable t').compileText s strict text).outcome
          ((ofTable t').after [.resolveClass "loop"]) := by
  have hread : Table.read (gliding fun _ => []) = .ok (glidingTable [] [] []) := by
    with_unfolding_all rfl
  have hread' : Table.read (gliding flaws) = .ok (glidingTable
      [("loop", ["loop", "gone"]), ("FLAT", ["a", "e"])] [("idle", 7)]
      [("spin", some [.call "spin"])]) := by
    with_unfolding_all rfl
  have hadds : Adds (glidingTable [] [] []).vocabulary (gliding fun _ => []) (gliding flaws) := by
    constructor
    · intro key hkey
      simp only [List.mem_cons, List.not_mem_nil, or_false, not_or] at hkey
      obtain ⟨hclasses, hconstants, hmacros⟩ := hkey
      simp [gliding, List.lookup_cons, beq_eq_false_iff_ne.2 hclasses,
        beq_eq_false_iff_ne.2 hconstants, beq_eq_false_iff_ne.2 hmacros]
    · simp only [List.forall_mem_cons]
      refine ⟨?_, ?_, ?_, by simp⟩ <;> with_unfolding_all rfl
  have hfresh : "FLAT" ∉ (glidingTable [] [] []).vocabulary := by decide
  have hnames : (ofTable (glidingTable [] [] [])).namesOf "vowel" = .ok ["a", "e"] := by
    with_unfolding_all rfl
  have hflat : ((ofTable (glidingTable [] [] [])).flattenClass "vowel").outcome
      ((ofTable (glidingTable [] [] [])).after []) = .ok ["a", "e"] := by
    rw [show (ofTable (glidingTable [] [] [])).after [] = {} from rfl, flattenClass_eq, hnames]
    exact congrArg Except.ok (inOrder_of_pairwise (by decide))
  obtain ⟨_, htexts, hclasses⟩ := conservative_of_adds hread hread' hadds [] [.resolveClass "loop"]
  obtain ⟨_, _, _, _, _, hnew, _⟩ := hclasses "FLAT" "vowel" _ hfresh hflat rfl
  exact ⟨_, _, hread, hread', hadds, hfresh, hflat, rfl, hnew, htexts⟩

end Configurations

end Table

end Silbo
