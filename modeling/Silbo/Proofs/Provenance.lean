import Silbo.Proofs.Evaluation

/-!
Where the values of a word come from. The templates of a word are written in the table, and each
value on one of its two tracks is stated by the template of the segment or of one before it, or else
nothing has been stated on the track so far and the value is the silence that the word began with.
-/
namespace Silbo

def Motion.quantities : Motion → List Quantity
  | .constant value => value.toList
  | .transition start stop _ => start.toList ++ stop.toList
  | .contour peak stop _ => peak.toList ++ stop.toList

def Item.template? : Item → Option SegmentTemplate
  | .call _ => none
  | .segment template => some template

def Grapheme.pronunciations (g : Grapheme) : List Pronunciation :=
  g.elsewhere.toList ++ g.rules.filterMap (·.pronunciation)

abbrev Utterance.templates (u : Utterance) : List SegmentTemplate :=
  u.realizations.flatMap (·.templates)

namespace Table

def items (t : Table) : List Item :=
  (t.macros.flatMap fun (_, body) => body.getD []) ++
    t.graphemes.flatMap fun (_, g) => g.pronunciations.flatMap (·.items)

def written (t : Table) : List SegmentTemplate := t.items.filterMap Item.template?

def lengths (t : Table) : List Float := t.written.filterMap (·.milliseconds)

variable {t : Table}

section Written

theorem items_of_declares (h : (Model.ofTable t).Declares name body) :
    ∀ item ∈ body.getD [], item ∈ t.items := by
  intro item hmem
  have hbody := mem_of_lookup (declares_iff.1 h)
  exact List.mem_append_left _ (List.mem_flatMap.2 ⟨_, hbody, hmem⟩)

theorem items_of_pronunciation (hl : t.graphemes.lookup symbol = some g)
    (hp : p ∈ g.pronunciations) : ∀ item ∈ p.items, item ∈ t.items := by
  intro item hmem
  have hitem := List.mem_flatMap.2 ⟨p, hp, hmem⟩
  exact List.mem_append_right _ (List.mem_flatMap.2 ⟨_, mem_of_lookup hl, hitem⟩)

theorem expands_written (h : (Model.ofTable t).Expands chain p result)
    (hp : ∀ item ∈ p.items, item ∈ t.items) : ∀ xs, result = .ok xs → ∀ x ∈ xs, x ∈ t.written := by
  induction h with
  | @segment chain template =>
    rintro xs hxs x hx
    cases hxs
    rw [List.mem_singleton.1 hx]
    exact List.mem_filterMap.2 ⟨_, hp _ List.mem_cons_self, rfl⟩
  | body _ hb _ ih => exact ih (items_of_declares hb)
  | nil =>
    rintro xs hxs x hx
    cases hxs
    cases hx
  | cons _ _ ihf ihl =>
    rintro xs hxs x hx
    cases hxs
    obtain ⟨hitem, hrest⟩ := List.forall_mem_cons.1 hp
    rcases List.mem_append.1 hx with hx | hx
    · exact ihf (by simpa [Pronunciation.items] using hitem) _ rfl x hx
    · exact ihl hrest _ rfl x hx
  | cyclic | unknown | first | later => exact fun xs hxs => by cases hxs

theorem pronunciation_of_chooses
    (h : (Model.ofTable t).Chooses ((Model.ofTable t).entry symbol g) left right (.ok selection))
    (hp : selection.pronunciation? = some p) : p ∈ g.pronunciations := by
  cases h with
  | rule hf hr =>
    cases hp
    obtain ⟨before, rest, hsplit, -⟩ := hf.of_found
    obtain ⟨c, hc, rfl⟩ := List.mem_map.1 (hsplit ▸ List.mem_append_cons_self)
    exact List.mem_append_right _ (List.mem_filterMap.2 ⟨c, hc, hr⟩)
  | elsewhere _ he =>
    cases hp
    exact List.mem_append_left _ (Option.mem_toList.2 he)
  | elided | unmatched => cases hp

theorem realizes_written (h : (Model.ofTable t).Realizes left token right (.ok r)) :
    ∀ x ∈ r.templates, x ∈ t.written := by
  cases h with
  | silent => exact fun x hx => absurd hx List.not_mem_nil
  | @expanded _ _ p _ he hc hp hx =>
    obtain ⟨g, hg, rfl⟩ := Model.entryFor_eq_ok he
    have hitems := items_of_pronunciation hg (pronunciation_of_chooses hc hp)
    have hexpands := (Model.ofTable t).segmentsOf_expands p
    exact expands_written hexpands hitems _ hx

theorem advances_written (h : (Model.ofTable t).Advances s tokens i realizations row) :
    ∀ x ∈ realizations.flatMap (·.templates), x ∈ t.written := by
  intro x hx
  obtain ⟨r, hr, hx⟩ := List.mem_flatMap.1 hx
  obtain ⟨k, hk⟩ := List.mem_iff_getElem?.1 hr
  exact realizes_written (h.realizes.2 k r hk) x hx

end Written

end Table

inductive Track where
  | formant
  | amplitude

namespace Track

def motion : Track → SegmentTemplate → Option Motion
  | formant, t => t.formant
  | amplitude, t => t.amplitude

def course : Track → Segment → Trajectory Number
  | formant, x => x.formant
  | amplitude, x => x.amplitude

def level : Track → Ambient → Number
  | formant, a => a.formant
  | amplitude, a => a.amplitude

theorem level_ambient (k : Track) (x : Segment) : k.level x.ambient = (k.course x).stop := by
  cases k <;> rfl

theorem level_silence (k : Track) : k.level {} = .real 0 := by cases k <;> rfl

end Track

namespace Trajectory

/-- The values that a trajectory is made of, in the order in which it comes to them. -/
def waypoints (r : Trajectory α) : List α := r.start :: (r.peak?.toList ++ [r.stop])

theorem stop_mem_waypoints (r : Trajectory α) : r.stop ∈ r.waypoints := by simp [waypoints]

end Trajectory

namespace Model
open Work (bind_eq_ok)

variable {m : Model}

def value? (m : Model) : Quantity → Option Float
  | .literal x => some x
  | .named name => m.constant? name

def States (m : Model) (motion : Motion) (v : Number) : Prop :=
  ∃ q ∈ motion.quantities, ∃ x, m.value? q = some x ∧ v = .real x

/-- A value that a track has come to after some templates: one of them states it, or none of them
says anything about the track and it is still the first value. -/
def Given (m : Model) (k : Track) (templates : List SegmentTemplate) (first v : Number) : Prop :=
  (∃ t ∈ templates, ∃ motion, k.motion t = some motion ∧ m.States motion v) ∨
    v = first ∧ ∀ t ∈ templates, k.motion t = none

section Values

variable {first incoming duration d : Number} {ambient : Ambient} {row : List Segment}
variable {templates : List SegmentTemplate}

theorem quantity_eq_ok (h : m.quantity kind field (some q) = .ok v) :
    ∃ x, m.value? q = some x ∧ v = .real x := by
  cases q with
  | literal x =>
    cases h
    exact ⟨x, rfl, rfl⟩
  | named name =>
    unfold quantity at h
    cases hc : m.constant? name with
    | none =>
      simp only [hc] at h
      cases h
    | some x =>
      simp only [hc] at h
      cases h
      exact ⟨x, hc, rfl⟩

theorem states_of_quantity (h : m.quantity kind field q = .ok v)
    (hq : ∀ x ∈ q, x ∈ motion.quantities) : m.States motion v := by
  cases q with
  | none => cases h
  | some q => exact ⟨q, hq q rfl, quantity_eq_ok h⟩

/-- A motion states where it ends, and any other value of a trajectory that it does not state is the
one that it sets in at. -/
theorem traces_states (h : Traces m incoming duration (some motion) r) :
    m.States motion r.stop ∧ ∀ v ∈ r.waypoints, v = incoming ∨ m.States motion v := by
  cases h with
  | @constant value x hx =>
    have hs : m.States (.constant value) x := states_of_quantity hx (by simp [Motion.quantities])
    simp [Trajectory.waypoints, Trajectory.start, Trajectory.peak?, Trajectory.stop, hs]
  | @transition stop y curve hy =>
    have hs : m.States (.transition none stop curve) y :=
      states_of_quantity hy (by simp [Motion.quantities])
    simp [Trajectory.waypoints, Trajectory.start, Trajectory.peak?, Trajectory.stop, hs]
  | @started start x stop y curve hx hy =>
    have hx : m.States (.transition (some start) stop curve) x :=
      states_of_quantity hx (by simp [Motion.quantities])
    have hy : m.States (.transition (some start) stop curve) y :=
      states_of_quantity hy (by simp +contextual [Motion.quantities])
    simp [Trajectory.waypoints, Trajectory.start, Trajectory.peak?, Trajectory.stop, hx, hy]
  | @contour peak x stop y curve hx hy =>
    have hx : m.States (.contour peak stop curve) x :=
      states_of_quantity hx (by simp +contextual [Motion.quantities])
    have hy : m.States (.contour peak stop curve) y :=
      states_of_quantity hy (by simp +contextual [Motion.quantities])
    simp [Trajectory.waypoints, Trajectory.start, Trajectory.peak?, Trajectory.stop, hx, hy]

theorem segment_traces {t : SegmentTemplate} (h : m.segment d ambient t = .ok x) (k : Track) :
    Traces m (k.level ambient) x.duration (k.motion t) (k.course x) := by
  obtain ⟨formant, hf, h⟩ := bind_eq_ok h
  obtain ⟨amplitude, ha, h⟩ := bind_eq_ok h
  cases h
  cases k with
  | formant => exact trajectory_traces hf
  | amplitude => exact trajectory_traces ha

theorem segment_holds {t : SegmentTemplate} (h : m.segment d ambient t = .ok x) {k : Track}
    (hk : k.motion t = none) : ∀ v ∈ (k.course x).waypoints, v = k.level ambient := by
  have htraces := segment_traces h k
  rw [hk] at htraces
  generalize k.course x = course at htraces
  cases htraces
  simp [Trajectory.waypoints, Trajectory.start, Trajectory.peak?, Trajectory.stop]

theorem segment_states {t : SegmentTemplate} (h : m.segment d ambient t = .ok x) {k : Track}
    (hk : k.motion t = some motion) :
    m.States motion (k.course x).stop ∧
      ∀ v ∈ (k.course x).waypoints, v = k.level ambient ∨ m.States motion v := by
  have htraces := segment_traces h k
  rw [hk] at htraces
  exact traces_states htraces

theorem level_given (h : m.segments d ambient templates = .ok row) (k : Track)
    (hi : i ≤ row.length) :
    m.Given k (templates.take i) (k.level ambient) (k.level (ambientBefore ambient row i)) := by
  obtain ⟨hlength, hsegment⟩ := segments_segment h
  induction i with
  | zero => exact .inr ⟨rfl, by simp⟩
  | succ i ih =>
    have hrow : row[i]? = some row[i] := List.getElem?_eq_getElem hi
    have hi' : i < templates.length := hlength ▸ hi
    have ht : templates[i]? = some templates[i] := List.getElem?_eq_getElem hi'
    have hx := hsegment i _ _ ht hrow
    have hlevel : k.level (ambientBefore ambient row (i + 1)) = (k.course row[i]).stop := by
      rw [ambientBefore, hrow, Option.map_some, Option.getD_some, k.level_ambient]
    rw [hlevel, List.take_add_one, ht, Option.toList_some]
    cases hk : k.motion templates[i] with
    | some motion =>
      refine .inl ⟨_, List.mem_append_right _ List.mem_cons_self, motion, hk, ?_⟩
      exact (segment_states hx hk).1
    | none =>
      rw [segment_holds hx hk _ (Trajectory.stop_mem_waypoints _)]
      rcases ih (Nat.le_of_lt hi) with ⟨u, hu, motion, hm, hs⟩ | ⟨he, hnone⟩
      · exact .inl ⟨u, List.mem_append_left _ hu, motion, hm, hs⟩
      · refine .inr ⟨he, fun u hu => ?_⟩
        rcases List.mem_append.1 hu with hu | hu
        · exact hnone u hu
        · rwa [List.mem_singleton.1 hu]

/-- A value of a segment is stated by its own template or given by the templates before it. -/
theorem course_given {t : SegmentTemplate} (h : m.segments d ambient templates = .ok row)
    (k : Track) (ht : templates[i]? = some t) (hx : row[i]? = some x) :
    m.Given k (templates.take (i + 1)) (k.level ambient) (k.course x).stop ∧
      ∀ v ∈ (k.course x).waypoints, (∃ motion, k.motion t = some motion ∧ m.States motion v) ∨
        m.Given k (templates.take i) (k.level ambient) v := by
  obtain ⟨hi, _⟩ := List.getElem?_eq_some_iff.1 hx
  have hbefore := level_given h k (Nat.le_of_lt hi)
  have hafter := level_given h k hi
  have hsegment := (segments_segment h).2 i t x ht hx
  rw [ambientBefore, hx, Option.map_some, Option.getD_some, k.level_ambient] at hafter
  refine ⟨hafter, fun v hv => ?_⟩
  cases hk : k.motion t with
  | none =>
    rw [segment_holds hsegment hk v hv]
    exact .inr hbefore
  | some motion =>
    rcases (segment_states hsegment hk).2 v hv with rfl | hs
    · exact .inr hbefore
    · exact .inl ⟨motion, rfl, hs⟩

end Values

section Words
open Work

variable {Q : Utterance → Prop} {s : Settings}

theorem compileWord_of_tokens (h : ∀ text position tokens,
      Ensures m.Sound (m.compileTokensOf s text position tokens) fun r =>
        ∀ word, r = .ok word → ∀ u, word.outcome = .ok u → Q u)
    (text : String) (position : Int) :
    Ensures m.Sound (m.compileWord s text position) fun r =>
      ∀ word, r = .ok word → ∀ u, word.outcome = .ok u → Q u := by
  unfold compileWord
  cases m.tokenizeWord text position with
  | ok tokens =>
    refine (h text position tokens).orFault fun r hr => ?_
    intro word hword
    exact hr word (mapError_eq_ok.1 hword)
  | error f => cases f <;> exact ensures_throw fun _ hword => by cases hword

theorem compileChunk_of_tokens (h : ∀ text position tokens,
      Ensures m.Sound (m.compileTokensOf s text position tokens) fun r =>
        ∀ word, r = .ok word → ∀ u, word.outcome = .ok u → Q u)
    (position : Int) (text : String) :
    Ensures m.Sound (m.compileChunk s position text) fun r =>
      ∀ word, r = .ok word → ∀ u, word.outcome = .ok u → Q u := by
  unfold compileChunk
  refine (compileWord_of_tokens h text position).tryCatch (fun _ h => h) fun f _ => ?_
  cases f with
  | error e => exact ensures_pure fun word hword u hu => by cases hword; cases hu
  | _ => exact ensures_throw fun _ hword => by cases hword

theorem compileText_of_tokens (h : ∀ text position tokens,
      Ensures m.Sound (m.compileTokensOf s text position tokens) fun r =>
        ∀ word, r = .ok word → ∀ u, word.outcome = .ok u → Q u)
    (strict : Bool) (text : String) :
    Ensures m.Sound (m.compileText s strict text) fun r =>
      ∀ words, r = .ok words → ∀ word ∈ words, ∀ u, word.outcome = .ok u → Q u := by
  rw [compileText_eq]
  refine Ensures.bind (settles_ofExcept _) (fun chunks _ => ?_) fun _ _ _ he => by cases he
  refine (ensures_mapM fun chunk _ => compileChunk_of_tokens h chunk.1 chunk.2).bind
    (fun words hwords => ?_) fun _ _ _ he => by cases he
  obtain ⟨_, hreview⟩ := review_steady m strict words
  exact hreview.bind (fun _ _ => ensures_pure hwords) fun _ _ _ he => by cases he

end Words

end Model

namespace Table
open Model Work

def value? (t : Table) : Quantity → Option Float
  | .literal x => some x
  | .named name => t.constants.lookup name

theorem value?_ofTable (t : Table) (q : Quantity) : (ofTable t).value? q = t.value? q := by
  cases q with
  | literal x => rfl
  | named name => exact (mirrors_ofTable t).constant? name

/-- The segments of a word play templates of the table, one after the other and from silence. -/
structure Composed (t : Table) (s : Settings) (u : Utterance) : Prop where
  segments_eq : (ofTable t).segments s.segmentMilliseconds {} u.templates = .ok u.segments
  written : ∀ x ∈ u.templates, x ∈ t.written

/-- A template of a table gives a track a motion through the value. -/
def Plays (t : Table) (k : Track) (y : Float) : Prop :=
  ∃ x ∈ t.written, ∃ motion, k.motion x = some motion ∧
    ∃ q ∈ motion.quantities, t.value? q = some y

section Courses

variable {t : Table} {k : Track} {s : Settings} {u : Utterance} {i : Nat}

theorem Composed.exists_template (hu : t.Composed s u) (hx : u.segments[i]? = some x) :
    ∃ template, u.templates[i]? = some template := by
  obtain ⟨hi, -⟩ := List.getElem?_eq_some_iff.1 hx
  rw [(segments_segment hu.segments_eq).1] at hi
  exact ⟨_, List.getElem?_eq_getElem hi⟩

theorem Composed.duration (hu : t.Composed s u) (hi : u.templates[i]? = some template)
    (hx : u.segments[i]? = some x) :
    x.duration = s.segmentMilliseconds ∨ ∃ ms ∈ t.lengths, x.duration = .real ms := by
  rw [((segments_follow hu.segments_eq).2 i _ x hi hx).duration]
  cases hms : template.milliseconds with
  | none => exact .inl rfl
  | some ms =>
    have hw := hu.written _ (List.mem_of_getElem? hi)
    exact .inr ⟨ms, List.mem_filterMap.2 ⟨_, hw, hms⟩, rfl⟩

theorem plays_of_states (hx : x ∈ t.written) (hm : k.motion x = some motion)
    (hv : (ofTable t).States motion v) : ∃ y, t.Plays k y ∧ v = .real y := by
  obtain ⟨q, hq, y, hy, rfl⟩ := hv
  rw [value?_ofTable] at hy
  exact ⟨y, ⟨x, hx, motion, hm, q, hq, hy⟩, rfl⟩

theorem plays_of_given {templates : List SegmentTemplate} (hw : ∀ x ∈ templates, x ∈ t.written)
    (hg : (ofTable t).Given k templates first v) :
    (∃ y, t.Plays k y ∧ v = .real y) ∨ v = first ∧ ∀ x ∈ templates, k.motion x = none := by
  apply hg.imp_left
  rintro ⟨x, hx, motion, hm, hv⟩
  exact plays_of_states (hw x hx) hm hv

/-- The values of a word on a track are in its table, or it is silence up to the end of the first
segment that states one. -/
theorem Composed.course (hu : t.Composed s u) (k : Track)
    (hi : u.templates[i]? = some template) (hx : u.segments[i]? = some x) :
    (∀ v ∈ (k.course x).waypoints, (∃ y, t.Plays k y ∧ v = .real y) ∨ v = .real 0 ∧
        ∀ t' ∈ u.templates.take i, k.motion t' = none) ∧
      ((∃ y, t.Plays k y ∧ (k.course x).stop = .real y) ∨ (k.course x).stop = .real 0 ∧
        ∀ t' ∈ u.templates.take (i + 1), k.motion t' = none) := by
  obtain ⟨hstop, hvalues⟩ := course_given hu.segments_eq k hi hx
  rw [k.level_silence] at hstop hvalues
  have hw (n : Nat) : ∀ y ∈ u.templates.take n, y ∈ t.written :=
    fun y hy => hu.written y (List.mem_of_mem_take hy)
  refine ⟨fun v hv => ?_, plays_of_given (hw (i + 1)) hstop⟩
  rcases hvalues v hv with ⟨motion, hm, hs⟩ | hg
  · exact .inl (plays_of_states (hu.written _ (List.mem_of_getElem? hi)) hm hs)
  · exact plays_of_given (hw i) hg

end Courses

section Words

theorem compileTokensOf_composed (t : Table) (s : Settings) (text : String) (position : Int)
    (tokens : List Token) :
    Ensures (ofTable t).Sound ((ofTable t).compileTokensOf s text position tokens) fun r =>
      ∀ word, r = .ok word → ∀ u, word.outcome = .ok u → t.Composed s u := by
  refine (compileTokensOf_ensures (ofTable t) s text position tokens).weaken fun r hr => ?_
  intro word hword u hu
  cases hr with
  | compiled h =>
    cases hword
    cases hu
    exact ⟨h.segments_eq, advances_written h⟩
  | failed => cases hword

theorem compileWord_composed (t : Table) (s : Settings) (text : String) (position : Int) :
    Ensures (ofTable t).Sound ((ofTable t).compileWord s text position) fun r =>
      ∀ word, r = .ok word → ∀ u, word.outcome = .ok u → t.Composed s u :=
  compileWord_of_tokens (compileTokensOf_composed t s) text position

theorem compileText_composed (t : Table) (s : Settings) (strict : Bool) (text : String) :
    Ensures (ofTable t).Sound ((ofTable t).compileText s strict text) fun r =>
      ∀ words, r = .ok words → ∀ word ∈ words, ∀ u, word.outcome = .ok u → t.Composed s u :=
  compileText_of_tokens (compileTokensOf_composed t s) strict text

end Words

end Table

end Silbo
