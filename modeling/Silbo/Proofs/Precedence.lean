import Silbo.Proofs.Naming
import Silbo.Proofs.Numbering

/-!
The precedence of rules. The rules of an entry are weighed in their order, and the right side of a
rule only where its left side fits; the first rule that fits decides, or the first class on the way
that does not resolve. What a side makes of a neighbour is said by the names of a table, whichever
way its class is looked up and whatever has been resolved before.
-/
namespace Silbo

/-- A side of a context that belongs to a model: a handle in it is the handle of a name. -/
def Pattern.Owned (m : Model) (p : Pattern) : Prop :=
  ∀ written h, p = .soundClass written (some h) → ∃ name, m.handle? name = some h

def Entry.Owned (m : Model) (e : Entry) : Prop :=
  ∀ r ∈ e.rules, r.left.Owned m ∧ r.right.Owned m

def Entry.selected (e : Entry) : Option (Nat × Rule) → Selection
  | some (i, r) => r.pronunciation.elim (.elided i) (.rule i)
  | none => e.elsewhere.elim .unmatched .elsewhere

namespace Table

/-- How a side of a context judges a neighbour. A class is resolved first, whether there is a
neighbour or not. -/
inductive Judges (t : Table) (neighbour : Option String) : Pattern → Except Error Bool → Prop where
  | boundary : (fits = true ↔ neighbour = none) → Judges t neighbour .boundary (.ok fits)
  | symbol : (fits = true ↔ neighbour = some name) →
      Judges t neighbour (.symbol name handle) (.ok fits)
  | soundClass : (Model.ofTable t).Asks p name → t.hierarchy.Resolvable name →
      (fits = true ↔ ∃ x, neighbour = some x ∧ t.hierarchy.leaf x ∧ t.hierarchy.Reaches name x) →
      Judges t neighbour p (.ok fits)
  | broken : (Model.ofTable t).Asks p name → t.Denotes name (.error e) →
      Judges t neighbour p (.error e)

inductive Weighs (t : Table) (left right : Option String) (r : Rule) :
    Except Error Bool → Prop where
  | unfit : t.Judges left r.left (.ok false) → Weighs t left right r (.ok false)
  | broken : t.Judges left r.left (.error e) → Weighs t left right r (.error e)
  | onRight : t.Judges left r.left (.ok true) → t.Judges right r.right result →
      Weighs t left right r result

/-- What an entry comes to between two neighbours: the first rule that is not unfit decides. -/
inductive Decides (t : Table) (e : Entry) (left right : Option String) :
    Except Error Selection → Prop where
  | rule : e.rules = before ++ r :: rest → (∀ q ∈ before, t.Weighs left right q (.ok false)) →
      t.Weighs left right r (.ok true) → r.pronunciation = some p →
      Decides t e left right (.ok (.rule before.length p))
  | elided : e.rules = before ++ r :: rest → (∀ q ∈ before, t.Weighs left right q (.ok false)) →
      t.Weighs left right r (.ok true) → r.pronunciation = none →
      Decides t e left right (.ok (.elided before.length))
  | failed : e.rules = before ++ r :: rest → (∀ q ∈ before, t.Weighs left right q (.ok false)) →
      t.Weighs left right r (.error error) → Decides t e left right (.error error)
  | elsewhere : (∀ q ∈ e.rules, t.Weighs left right q (.ok false)) → e.elsewhere = some p →
      Decides t e left right (.ok (.elsewhere p))
  | unmatched : (∀ q ∈ e.rules, t.Weighs left right q (.ok false)) → e.elsewhere = none →
      Decides t e left right (.ok .unmatched)

end Table

namespace Model
open Work

variable {m : Model} {t : Table} {left right neighbour : Option String}

section Search

theorem Finds.deterministic (h : Finds m left right i rules a) (h' : Finds m left right i rules b) :
    a = b := by
  induction h with
  | absent =>
    cases h'
    rfl
  | found hr =>
    cases h' with
    | found => rfl
    | failed hr' | later hr' =>
      rw [hr] at hr'
      cases hr'
  | failed hr =>
    cases h' with
    | failed hr' =>
      rw [hr] at hr'
      cases hr'
      rfl
    | found hr' | later hr' =>
      rw [hr] at hr'
      cases hr'
  | later hr _ ih =>
    cases h' with
    | later _ h' => exact ih h'
    | found hr' | failed hr' =>
      rw [hr] at hr'
      cases hr'

theorem finds_append {before : List Rule}
    (hbefore : ∀ q ∈ before, m.admits left right q = .ok false)
    (h : Finds m left right (i + before.length) rest result) :
    Finds m left right i (before ++ rest) result := by
  induction before generalizing i with
  | nil => exact h
  | cons q before ih =>
    obtain ⟨hq, hrest⟩ := List.forall_mem_cons.1 hbefore
    rw [List.length_cons, ← Nat.add_assoc, Nat.add_right_comm] at h
    exact .later hq (ih hrest h)

/-- Rules can be exchanged behind others if the search through them comes to the same. -/
theorem Finds.exchange (h : Finds m left right i (before ++ rest) result)
    (hrest : ∀ k found, Finds m left right k rest found → Finds m left right k rest' found) :
    Finds m left right i (before ++ rest') result := by
  induction before generalizing i with
  | nil => exact hrest i result h
  | cons q before ih =>
    cases h with
    | found hq => exact .found hq
    | failed hq => exact .failed hq
    | later hq h => exact .later hq (ih h)

theorem chooses_iff_finds {e : Entry} : m.Chooses e left right result ↔
    ∃ found, Finds m left right 0 e.rules found ∧ found.map e.selected = result := by
  constructor
  · intro h
    cases h with
    | @rule _ _ p hf hp => exact ⟨_, hf, by simp [Except.map, Entry.selected, hp]⟩
    | elided hf hp => exact ⟨_, hf, by simp [Except.map, Entry.selected, hp]⟩
    | elsewhere hf hp => exact ⟨_, hf, by simp [Except.map, Entry.selected, hp]⟩
    | unmatched hf hp => exact ⟨_, hf, by simp [Except.map, Entry.selected, hp]⟩
    | failed hf => exact ⟨_, hf, rfl⟩
  · rintro ⟨found, hf, rfl⟩
    rcases found with error | _ | ⟨i, r⟩
    · exact .failed hf
    · cases hp : e.elsewhere with
      | none => simpa [Except.map, Entry.selected, hp] using Chooses.unmatched hf hp
      | some p => simpa [Except.map, Entry.selected, hp] using Chooses.elsewhere hf hp
    · cases hp : r.pronunciation with
      | none => simpa [Except.map, Entry.selected, hp] using Chooses.elided hf hp
      | some p => simpa [Except.map, Entry.selected, hp] using Chooses.rule hf hp

theorem Chooses.deterministic {e : Entry} (h : m.Chooses e left right a)
    (h' : m.Chooses e left right b) : a = b := by
  obtain ⟨found, hf, rfl⟩ := chooses_iff_finds.1 h
  obtain ⟨found', hf', rfl⟩ := chooses_iff_finds.1 h'
  rw [hf.deterministic hf']

theorem select_eq_of_finds {rules : List Rule}
    (h : ∀ found, Finds m left right 0 e.rules found → Finds m left right 0 rules found)
    (history history' : List Request) :
    (m.select { e with rules } left right).outcome (m.after history') =
      (m.select e left right).outcome (m.after history) := by
  have hchooses := (select_ensures m e left right _ (sound_after m history)).1
  have hchooses' :=
    (select_ensures m { e with rules } left right _ (sound_after m history')).1
  obtain ⟨found, hf, hresult⟩ := chooses_iff_finds.1 hchooses
  exact hchooses'.deterministic (chooses_iff_finds.2 ⟨found, h found hf, hresult⟩)

end Search

end Model

namespace Table
open Model

variable {t : Table} {left right neighbour : Option String}

section Verdicts

theorem asks_judges (h : (ofTable t).Asks p name) (neighbour : Option String) :
    t.Judges neighbour p ((ofTable t).fits p neighbour) := by
  rw [fits_names h]
  have hdenotes := t.denotes_namesOf name
  cases hn : (ofTable t).namesOf name with
  | error e =>
    rw [hn] at hdenotes
    exact .broken h hdenotes
  | ok names =>
    rw [hn] at hdenotes
    refine .soundClass h hdenotes.1 ?_
    rw [Option.any_eq_true]
    refine exists_congr fun x => and_congr_right' ?_
    rw [List.contains_iff_mem, hdenotes.2.2]

theorem owned_judges (h : p.Owned (ofTable t)) (neighbour : Option String) :
    t.Judges neighbour p ((ofTable t).fits p neighbour) := by
  cases p with
  | boundary => exact .boundary Option.isNone_iff_eq_none
  | symbol name handle => exact .symbol beq_iff_eq
  | soundClass name handle =>
    cases handle with
    | none => exact asks_judges .named neighbour
    | some i =>
      obtain ⟨name', hname⟩ := h name i rfl
      exact asks_judges (.numbered hname) neighbour

theorem asks_unique (h : (ofTable t).Asks p name) (h' : (ofTable t).Asks p name') :
    name = name' := by
  cases h with
  | numbered h =>
    cases h' with
    | numbered h' => exact Lexicon.handle?_injective h h'
  | named =>
    cases h'
    rfl

theorem Judges.deterministic (h : t.Judges neighbour p a) (h' : t.Judges neighbour p b) :
    a = b := by
  cases h with
  | boundary h =>
    cases h' with
    | boundary h' => rw [Bool.eq_iff_iff.2 (h.trans h'.symm)]
    | soundClass ha | broken ha => cases ha
  | symbol h =>
    cases h' with
    | symbol h' => rw [Bool.eq_iff_iff.2 (h.trans h'.symm)]
    | soundClass ha | broken ha => cases ha
  | soundClass ha hr h =>
    cases h' with
    | boundary | symbol => cases ha
    | soundClass ha' _ h' =>
      cases asks_unique ha ha'
      rw [Bool.eq_iff_iff.2 (h.trans h'.symm)]
    | broken ha' he =>
      cases asks_unique ha ha'
      obtain ⟨stop, hv, _⟩ := he
      exact absurd hr hv.not_resolvable
  | broken ha he =>
    cases h' with
    | boundary | symbol => cases ha
    | soundClass ha' hr _ =>
      cases asks_unique ha ha'
      obtain ⟨stop, hv, _⟩ := he
      exact absurd hr hv.not_resolvable
    | broken ha' he' =>
      cases asks_unique ha ha'
      cases he.matches he' with
      | error => rfl

theorem judges_iff (h : p.Owned (ofTable t)) :
    t.Judges neighbour p result ↔ (ofTable t).fits p neighbour = result :=
  ⟨fun hj => (owned_judges h neighbour).deterministic hj, fun hf => hf ▸ owned_judges h neighbour⟩

theorem weighs_iff {r : Rule} (hl : r.left.Owned (ofTable t)) (hr : r.right.Owned (ofTable t)) :
    t.Weighs left right r result ↔ (ofTable t).admits left right r = result := by
  unfold Model.admits
  constructor
  · intro h
    cases h with
    | unfit h | broken h =>
      rw [(judges_iff hl).1 h]
      rfl
    | onRight h h' =>
      rw [(judges_iff hl).1 h]
      exact (judges_iff hr).1 h'
  · rintro rfl
    cases hf : (ofTable t).fits r.left left with
    | error e => exact .broken ((judges_iff hl).2 hf)
    | ok fits =>
      cases fits with
      | false => exact .unfit ((judges_iff hl).2 hf)
      | true => exact .onRight ((judges_iff hl).2 hf) ((judges_iff hr).2 rfl)

theorem chooses_iff_decides {e : Entry} (he : e.Owned (ofTable t)) :
    (ofTable t).Chooses e left right result ↔ t.Decides e left right result := by
  have weighs {r : Rule} {verdict : Except Error Bool} (hr : r ∈ e.rules) :
      t.Weighs left right r verdict ↔ (ofTable t).admits left right r = verdict :=
    weighs_iff (he r hr).1 (he r hr).2
  have passed {before rest : List Rule} (hrules : e.rules = before ++ rest) :
      (∀ q ∈ before, t.Weighs left right q (.ok false)) ↔
        ∀ q ∈ before, (ofTable t).admits left right q = .ok false :=
    forall₂_congr fun q hq => weighs (hrules ▸ List.mem_append_left rest hq)
  have decisive {before rest : List Rule} {r : Rule} {verdict : Except Error Bool}
      (hrules : e.rules = before ++ r :: rest) :
      t.Weighs left right r verdict ↔ (ofTable t).admits left right r = verdict :=
    weighs (hrules ▸ List.mem_append_cons_self)
  constructor
  · intro h
    cases h with
    | rule hf hp =>
      obtain ⟨before, rest, hrules, hi, hbefore, hr⟩ := hf.of_found
      rw [hi, Nat.zero_add]
      exact .rule hrules ((passed hrules).2 hbefore) ((decisive hrules).2 hr) hp
    | elided hf hp =>
      obtain ⟨before, rest, hrules, hi, hbefore, hr⟩ := hf.of_found
      rw [hi, Nat.zero_add]
      exact .elided hrules ((passed hrules).2 hbefore) ((decisive hrules).2 hr) hp
    | failed hf =>
      obtain ⟨before, r, rest, hrules, hbefore, hr⟩ := hf.of_error
      exact .failed hrules ((passed hrules).2 hbefore) ((decisive hrules).2 hr)
    | elsewhere hf hp => exact .elsewhere (fun q hq => (weighs hq).2 (hf.of_none q hq)) hp
    | unmatched hf hp => exact .unmatched (fun q hq => (weighs hq).2 (hf.of_none q hq)) hp
  · have finds {before rest : List Rule} {found : Except Error (Option (Nat × Rule))}
        (hrules : e.rules = before ++ rest)
        (hbefore : ∀ q ∈ before, t.Weighs left right q (.ok false))
        (hrest : (ofTable t).Finds left right before.length rest found) :
        (ofTable t).Finds left right 0 e.rules found := by
      rw [hrules]
      exact finds_append ((passed hrules).1 hbefore) (by rwa [Nat.zero_add])
    intro h
    cases h with
    | rule hrules hbefore hr hp =>
      exact .rule (finds hrules hbefore (.found ((decisive hrules).1 hr))) hp
    | elided hrules hbefore hr hp =>
      exact .elided (finds hrules hbefore (.found ((decisive hrules).1 hr))) hp
    | failed hrules hbefore hr =>
      exact .failed (finds hrules hbefore (.failed ((decisive hrules).1 hr)))
    | elsewhere hrules hp =>
      exact .elsewhere (finds (List.append_nil e.rules).symm hrules .absent) hp
    | unmatched hrules hp =>
      exact .unmatched (finds (List.append_nil e.rules).symm hrules .absent) hp

end Verdicts

end Table

namespace Model
open Work

theorem owned_pattern (m : Model) (name : String) : (m.pattern name).Owned m := by
  intro written h hp
  unfold pattern at hp
  split at hp
  · cases hp
  · cases hi : m.handle? name with
    | none =>
      rw [hi] at hp
      cases hp
    | some i =>
      rw [hi] at hp
      dsimp only at hp
      split at hp
      · cases hp
      · cases hp
        exact ⟨name, hi⟩

theorem owned_entry (m : Model) (symbol : String) (g : Grapheme) : (m.entry symbol g).Owned m := by
  intro r hr
  obtain ⟨c, _, rfl⟩ := List.mem_map.1 hr
  exact ⟨owned_pattern m c.left, owned_pattern m c.right⟩

theorem owned_entryFor {t : Table} (h : (ofTable t).entryFor symbol = .ok e) :
    e.Owned (ofTable t) := by
  obtain ⟨g, -, rfl⟩ := entryFor_eq_ok h
  exact owned_entry _ symbol g

/-- A selection is made by the first rule that fits, unless a class on the way there does not resolve;
the requests before it do not count. Nor do the rules behind the one that decides, or the right side
of a rule whose left side does not fit, whatever classes they ask for. -/
theorem select_iff_decides (t : Table) (history : List Request) (e : Entry)
    (left right : Option String) (he : e.Owned (ofTable t)) :
    (∀ result, ((ofTable t).select e left right).outcome ((ofTable t).after history) = result ↔
      t.Decides e left right result) ∧
      ∀ before r rest, e.rules = before ++ r :: rest → ∀ history',
        (¬ t.Weighs left right r (.ok false) → ∀ later,
          ((ofTable t).select { e with rules := before ++ r :: later } left right).outcome
              ((ofTable t).after history') =
            ((ofTable t).select e left right).outcome ((ofTable t).after history)) ∧
          (t.Judges left r.left (.ok false) → ∀ r' : Rule, r'.left = r.left →
            ((ofTable t).select { e with rules := before ++ r' :: rest } left right).outcome
                ((ofTable t).after history') =
              ((ofTable t).select e left right).outcome ((ofTable t).after history)) := by
  have hchooses :=
    (select_ensures (ofTable t) e left right _ (sound_after (ofTable t) history)).1
  refine ⟨fun result => ?_, fun before r rest hrules history' => ?_⟩
  · rw [← t.chooses_iff_decides he]
    exact ⟨fun h => h ▸ hchooses, fun h => hchooses.deterministic h⟩
  obtain ⟨hl, hr⟩ := he r (hrules ▸ List.mem_append_cons_self)
  refine ⟨fun hdecisive later => ?_, fun hunfit r' hleft => ?_⟩
  · refine select_eq_of_finds (fun found hf => ?_) history history'
    rw [hrules] at hf
    refine hf.exchange fun k found hf => ?_
    cases hf with
    | found hr' => exact .found hr'
    | failed hr' => exact .failed hr'
    | later hr' => exact absurd ((Table.weighs_iff hl hr).2 hr') hdecisive
  · have unfit {q : Rule} (hq : q.left = r.left) :
        (ofTable t).admits left right q = .ok false := by
      unfold admits
      rw [hq, (Table.judges_iff hl).1 hunfit]
      rfl
    refine select_eq_of_finds (fun found hf => ?_) history history'
    rw [hrules] at hf
    refine hf.exchange fun k found hf => ?_
    cases hf with
    | found hr' | failed hr' =>
      rw [unfit rfl] at hr'
      cases hr'
    | later _ hf => exact .later (unfit hleft) hf

/-- A class that is a circle, on the right of a rule that does not fit and behind one that fits. -/
def wary : Table where
  symbols := [.text "a", .text "b"]
  classes := [("V", ["a"]), ("W", ["W"])]
  graphemes := [("b", { rules := [⟨"V", "W", none⟩, ⟨"", "V", some (.sequence [])⟩, ⟨"W", "", none⟩] })]

theorem select_iff_decides_wary :
    ∃ e, (ofTable wary).entryFor "b" = .ok e ∧ e.Owned (ofTable wary) ∧
      ((ofTable wary).select e none (some "a")).outcome
          ((ofTable wary).after [.resolveClass "W"]) = .ok (.rule 1 (.sequence [])) ∧
        wary.Decides e none (some "a") (.ok (.rule 1 (.sequence []))) := by
  have hentry : ∃ e, (ofTable wary).entryFor "b" = .ok e := ⟨_, rfl⟩
  obtain ⟨e, he⟩ := hentry
  have howned := owned_entryFor he
  have hselect : ((ofTable wary).select e none (some "a")).outcome
      ((ofTable wary).after [.resolveClass "W"]) = .ok (.rule 1 (.sequence [])) := by
    cases he
    with_unfolding_all rfl
  exact ⟨e, he, howned, hselect,
    ((select_iff_decides wary [.resolveClass "W"] e none (some "a") howned).1 _).1 hselect⟩

end Model

end Silbo
