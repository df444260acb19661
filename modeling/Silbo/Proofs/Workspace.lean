import Mathlib.Data.List.Forall2
import Silbo.Workspace

/-!
What work comes to. A contract says how work ends that begins with any classes resolved that
satisfy an invariant, and that it keeps the invariant. Work is steady if its outcome is the same
for all of them; the journal never counts.
-/
namespace Silbo.Work

def outcome (x : Work ε α) (w : Workspace) : Except ε α := (Id.run (x.run.run w)).1

def final (x : Work ε α) (w : Workspace) : Workspace := (Id.run (x.run.run w)).2

section Steps

theorem outcome_bind (x : Work ε α) (f : α → Work ε β) (w : Workspace) :
    (x >>= f).outcome w =
      match x.outcome w with
      | .ok a => (f a).outcome (x.final w)
      | .error e => .error e := by
  unfold outcome final
  rw [ExceptT.run_bind, StateT.run_bind]
  simp only [Id.run_bind]
  cases (Id.run (x.run.run w)).1 <;> rfl

theorem final_bind (x : Work ε α) (f : α → Work ε β) (w : Workspace) :
    (x >>= f).final w =
      match x.outcome w with
      | .ok a => (f a).final (x.final w)
      | .error _ => x.final w := by
  unfold outcome final
  rw [ExceptT.run_bind, StateT.run_bind]
  simp only [Id.run_bind]
  cases (Id.run (x.run.run w)).1 <;> rfl

theorem outcome_tryCatch (x : Work ε α) (f : ε → Work ε α) (w : Workspace) :
    (tryCatch x f).outcome w =
      match x.outcome w with
      | .ok a => .ok a
      | .error e => (f e).outcome (x.final w) := by
  unfold outcome final
  rw [ExceptT.run_tryCatch, StateT.run_bind]
  simp only [Id.run_bind]
  cases (Id.run (x.run.run w)).1 <;> rfl

theorem final_tryCatch (x : Work ε α) (f : ε → Work ε α) (w : Workspace) :
    (tryCatch x f).final w =
      match x.outcome w with
      | .ok _ => x.final w
      | .error e => (f e).final (x.final w) := by
  unfold outcome final
  rw [ExceptT.run_tryCatch, StateT.run_bind]
  simp only [Id.run_bind]
  cases (Id.run (x.run.run w)).1 <;> rfl

theorem bind_eq_ok {x : Except ε α} {f : α → Except ε β} (h : x >>= f = .ok b) :
    ∃ a, x = .ok a ∧ f a = .ok b := by
  cases x with
  | ok a => exact ⟨a, rfl, h⟩
  | error e => cases h

theorem mapM_eq_ok {f : α → Except ε β} {as : List α} {bs : List β} :
    as.mapM f = .ok bs ↔ List.Forall₂ (fun a b => f a = .ok b) as bs := by
  constructor
  · intro h
    induction as generalizing bs with
    | nil =>
      cases h
      exact .nil
    | cons a as ih =>
      rw [List.mapM_cons] at h
      obtain ⟨b, hb, h⟩ := bind_eq_ok h
      obtain ⟨rest, hrest, h⟩ := bind_eq_ok h
      cases h
      exact .cons hb (ih hrest)
  · intro h
    induction h with
    | nil => rfl
    | cons hb _ ih =>
      rw [List.mapM_cons, hb, ih]
      rfl

theorem exists_of_forall₂ {R : α → β → Prop} (h : List.Forall₂ R as bs) (hb : b ∈ bs) :
    ∃ a ∈ as, R a b := by
  induction h with
  | nil => cases hb
  | @cons a _ _ _ hr _ ih =>
    rcases List.mem_cons.1 hb with rfl | hb
    · exact ⟨a, List.mem_cons_self, hr⟩
    · obtain ⟨a', ha, hr⟩ := ih hb
      exact ⟨a', List.mem_cons_of_mem a ha, hr⟩

theorem map_eq_ok {x : Except ε α} {f : α → β} : x.map f = .ok b ↔ ∃ a, x = .ok a ∧ f a = b := by
  cases x <;> simp [Except.map]

theorem mapError_eq_ok {x : Except ε α} {f : ε → ε'} : x.mapError f = .ok a ↔ x = .ok a := by
  cases x <;> simp [Except.mapError]

theorem mapError_eq_error {x : Except ε α} {f : ε → ε'} :
    x.mapError f = .error e ↔ ∃ e', x = .error e' ∧ f e' = e := by
  cases x <;> simp [Except.mapError]

theorem outcome_orFault (x : Work Error α) (w : Workspace) :
    x.orFault.outcome w = (x.outcome w).mapError Fault.error := by
  unfold outcome orFault
  rw [ExceptT.run_adapt, StateT.run_map]
  rfl

theorem final_orFault (x : Work Error α) (w : Workspace) : x.orFault.final w = x.final w := by
  unfold final orFault
  rw [ExceptT.run_adapt, StateT.run_map]
  rfl

theorem outcome_ofExcept (r : Except ε α) (w : Workspace) : (ofExcept r).outcome w = r := by
  cases r <;> rfl

theorem final_ofExcept (r : Except ε α) (w : Workspace) : (ofExcept r).final w = w := by
  cases r <;> rfl

end Steps

section Contracts

variable {I : List (Handle × List Handle) → Prop}
variable {P : Except ε α → Prop} {Q : Except ε β → Prop}

/-- Work that begins with classes resolved as `I` says ends as `P` says and keeps `I`. -/
def Ensures (I : List (Handle × List Handle) → Prop) (x : Work ε α) (P : Except ε α → Prop) :
    Prop :=
  ∀ w, I w.resolved → P (x.outcome w) ∧ I (x.final w).resolved

theorem Ensures.weaken {P' : Except ε α → Prop} {x : Work ε α} (h : Ensures I x P)
    (hp : ∀ r, P r → P' r) : Ensures I x P' :=
  fun w hw => ⟨hp _ (h w hw).1, (h w hw).2⟩

theorem ensures_pure {a : α} (h : P (.ok a)) : Ensures I (pure a) P := fun _ hw => ⟨h, hw⟩

theorem ensures_throw {e : ε} (h : P (.error e)) : Ensures I (throw e) P := fun _ hw => ⟨h, hw⟩

theorem Ensures.bind {x : Work ε α} {f : α → Work ε β} (hx : Ensures I x P)
    (hf : ∀ a, P (.ok a) → Ensures I (f a) Q) (he : ∀ e, P (.error e) → Q (.error e)) :
    Ensures I (x >>= f) Q := by
  intro w hw
  obtain ⟨hp, hi⟩ := hx w hw
  rw [outcome_bind, final_bind]
  cases hr : x.outcome w with
  | ok a =>
    rw [hr] at hp
    exact hf a hp _ hi
  | error e =>
    rw [hr] at hp
    exact ⟨he e hp, hi⟩

theorem Ensures.rethrow_bind {x : Work ε α} {g : ε → ε} {f : α → Work ε β} (hx : Ensures I x P)
    (hf : ∀ a, P (.ok a) → Ensures I (f a) Q) (hg : ∀ e, P (.error e) → Q (.error (g e))) :
    Ensures I ((tryCatch x fun e => throw (g e)) >>= f) Q := by
  intro w hw
  obtain ⟨hp, hi⟩ := hx w hw
  rw [outcome_bind, final_bind, outcome_tryCatch, final_tryCatch]
  cases hr : x.outcome w with
  | ok a =>
    rw [hr] at hp
    exact hf a hp _ hi
  | error e =>
    rw [hr] at hp
    exact ⟨hg e hp, hi⟩

theorem Ensures.tryCatch {P' : Except ε α → Prop} {x : Work ε α} {f : ε → Work ε α}
    (hx : Ensures I x P) (hok : ∀ a, P (.ok a) → P' (.ok a))
    (hf : ∀ e, P (.error e) → Ensures I (f e) P') : Ensures I (tryCatch x f) P' := by
  intro w hw
  obtain ⟨hp, hi⟩ := hx w hw
  rw [outcome_tryCatch, final_tryCatch]
  cases hr : x.outcome w with
  | ok a =>
    rw [hr] at hp
    exact ⟨hok a hp, hi⟩
  | error e =>
    rw [hr] at hp
    exact hf e hp _ hi

theorem Ensures.orFault {x : Work Error α} {P : Except Error α → Prop}
    {Q : Except Fault α → Prop} (hx : Ensures I x P) (hq : ∀ r, P r → Q (r.mapError Fault.error)) :
    Ensures I x.orFault Q := by
  intro w hw
  obtain ⟨hp, hi⟩ := hx w hw
  rw [outcome_orFault, final_orFault]
  exact ⟨hq _ hp, hi⟩

theorem ensures_mapM {f : α → Work ε β} {Q : β → Prop} {as : List α}
    (h : ∀ a ∈ as, Ensures I (f a) fun r => ∀ b, r = .ok b → Q b) :
    Ensures I (as.mapM f) fun r => ∀ bs, r = .ok bs → ∀ b ∈ bs, Q b := by
  induction as with
  | nil => exact ensures_pure fun _ hbs => by cases hbs; simp
  | cons a as ih =>
    rw [List.forall_mem_cons] at h
    rw [List.mapM_cons]
    refine h.1.bind (fun b hb => ?_) fun e _ bs hbs => by cases hbs
    refine (ih h.2).bind (fun bs hbs => ?_) fun e _ bs hbs => by cases hbs
    refine ensures_pure fun _ heq => ?_
    cases heq
    exact List.forall_mem_cons.2 ⟨hb b rfl, hbs bs rfl⟩

theorem ensures_report {e : Event} {P : Except ε Unit → Prop} (h : P (.ok ())) :
    Ensures I (report e) P :=
  fun _ hw => ⟨h, hw⟩

theorem ensures_remember {h : Handle} {symbols : List Handle} {P : Except ε Unit → Prop}
    (hi : ∀ resolved, I resolved → I ((h, symbols) :: resolved)) (hp : P (.ok ())) :
    Ensures I (remember h symbols) P :=
  fun _ hw => ⟨hp, hi _ hw⟩

end Contracts

/-- A property that work has if the pieces have it that it is put together from. -/
structure Compositional (K : ∀ α : Type, Work ε α → Prop) : Prop where
  pure : ∀ {α : Type} (a : α), K α (pure a)
  report : ∀ e : Event, K Unit (report e)
  bind : ∀ {α β : Type} {x : Work ε α} {f : α → Work ε β}, K α x → (∀ a, K β (f a)) →
    K β (x >>= f)

section Outcomes

variable {I : List (Handle × List Handle) → Prop}

/-- The outcome of work is `r`, whatever is resolved before. -/
def Settles (I : List (Handle × List Handle) → Prop) (x : Work ε α) (r : Except ε α) : Prop :=
  Ensures I x (· = r)

/-- The outcome of work is the same, whatever is resolved before. -/
def Steady (I : List (Handle × List Handle) → Prop) (x : Work ε α) : Prop := ∃ r, Settles I x r

theorem Ensures.settles {x : Work ε α} {P : Except ε α → Prop} (h : Ensures I x P)
    (hp : ∀ r r', P r → P r' → r = r') (w : Workspace) (hw : I w.resolved) :
    Settles I x (x.outcome w) :=
  h.weaken fun r hr => hp r _ hr (h w hw).1

theorem Steady.settles {x : Work ε α} (h : Steady I x) (w : Workspace) (hw : I w.resolved) :
    Settles I x (x.outcome w) := by
  obtain ⟨r, hr⟩ := h
  rw [(hr w hw).1]
  exact hr

theorem settles_pure (a : α) : Settles I (pure a : Work ε α) (.ok a) := ensures_pure rfl

theorem settles_throw (e : ε) : Settles I (throw e : Work ε α) (.error e) := ensures_throw rfl

theorem settles_report (e : Event) : Settles I (report e : Work ε Unit) (.ok ()) :=
  ensures_report rfl

theorem settles_ofExcept (r : Except ε α) : Settles I (ofExcept r) r := by
  intro w hw
  rw [outcome_ofExcept, final_ofExcept]
  exact ⟨rfl, hw⟩

theorem Settles.bind_ok {x : Work ε α} {f : α → Work ε β} {r : Except ε β}
    (hx : Settles I x (.ok a)) (hf : Settles I (f a) r) : Settles I (x >>= f) r :=
  Ensures.bind hx (fun _ hb => by cases hb; exact hf) (fun _ he => by cases he)

theorem Settles.bind_error {x : Work ε α} {f : α → Work ε β} (hx : Settles I x (.error e)) :
    Settles I (x >>= f) (.error e) :=
  Ensures.bind hx (fun _ ha => by cases ha) (fun _ he => by cases he; rfl)

theorem Settles.tryCatch_ok {x : Work ε α} {f : ε → Work ε α} (hx : Settles I x (.ok a)) :
    Settles I (tryCatch x f) (.ok a) := by
  intro w hw
  obtain ⟨hr, hi⟩ := hx w hw
  rw [outcome_tryCatch, final_tryCatch, hr]
  exact ⟨rfl, hi⟩

theorem Settles.tryCatch_error {x : Work ε α} {f : ε → Work ε α} {r : Except ε α}
    (hx : Settles I x (.error e)) (hf : Settles I (f e) r) : Settles I (tryCatch x f) r := by
  intro w hw
  obtain ⟨hr, hi⟩ := hx w hw
  rw [outcome_tryCatch, final_tryCatch, hr]
  exact hf _ hi

theorem Settles.orFault {x : Work Error α} {r : Except Error α} (hx : Settles I x r) :
    Settles I x.orFault (r.mapError Fault.error) :=
  Ensures.orFault hx fun _ hr => by rw [hr]

theorem settles_mapM {f : α → Work ε β} {R : α → β → Prop} {as : List α}
    (h : ∀ a ∈ as, ∃ b, R a b ∧ Settles I (f a) (.ok b)) :
    ∃ bs, List.Forall₂ R as bs ∧ Settles I (as.mapM f) (.ok bs) := by
  induction as with
  | nil => exact ⟨[], .nil, settles_pure []⟩
  | cons a as ih =>
    obtain ⟨b, hb, hs⟩ := h a List.mem_cons_self
    obtain ⟨bs, hbs, hrest⟩ := ih fun c hc => h c (List.mem_cons_of_mem a hc)
    rw [List.mapM_cons]
    exact ⟨b :: bs, .cons hb hbs, hs.bind_ok (hrest.bind_ok (settles_pure _))⟩

theorem Steady.bind {x : Work ε α} {f : α → Work ε β} (hx : Steady I x)
    (hf : ∀ a, Steady I (f a)) : Steady I (x >>= f) := by
  obtain ⟨r, hr⟩ := hx
  cases r with
  | ok a =>
    obtain ⟨r, hr'⟩ := hf a
    exact ⟨r, hr.bind_ok hr'⟩
  | error e => exact ⟨_, hr.bind_error⟩

theorem Steady.orFault {x : Work Error α} (hx : Steady I x) : Steady I x.orFault := by
  obtain ⟨r, hr⟩ := hx
  exact ⟨_, hr.orFault⟩

theorem steady_pure (a : α) : Steady I (pure a : Work ε α) := ⟨_, settles_pure a⟩

theorem steady_throw (e : ε) : Steady I (throw e : Work ε α) := ⟨_, settles_throw e⟩

theorem steady_report (e : Event) : Steady I (report e : Work ε Unit) := ⟨_, settles_report e⟩

theorem steady_ofExcept (r : Except ε α) : Steady I (ofExcept r) := ⟨_, settles_ofExcept r⟩

theorem compositional_steady : Compositional fun α (x : Work ε α) => Steady I x :=
  ⟨steady_pure, steady_report, Steady.bind⟩

end Outcomes

/-- Outcomes with related values or with the same error. -/
inductive Matches (R : α → β → Prop) : Except ε α → Except ε β → Prop where
  | ok : R a b → Matches R (.ok a) (.ok b)
  | error : Matches R (.error e) (.error e)

section Agreement

variable {I J : List (Handle × List Handle) → Prop}
variable {R : α → β → Prop} {x : Work ε α} {y : Work ε β}

theorem matches_eq {r r' : Except ε α} : Matches Eq r r' ↔ r = r' := by
  constructor
  · rintro (h | _)
    · rw [h]
    · rfl
  · rintro rfl
    cases r with
    | ok a => exact .ok rfl
    | error e => exact .error

theorem Matches.exists_ok {r : Except ε β} (h : Matches R (.ok a) r) : ∃ b, r = .ok b ∧ R a b := by
  cases h with
  | ok hab => exact ⟨_, rfl, hab⟩

theorem Matches.map_eq {f : α → γ} {g : β → γ} {r : Except ε α} {r' : Except ε β}
    (h : Matches R r r') (hfg : ∀ a b, R a b → f a = g b) : r.map f = r'.map g := by
  cases h with
  | ok hab => exact congrArg Except.ok (hfg _ _ hab)
  | error => rfl

/-- Two pieces of work have outcomes that match, whatever is resolved before either of them. -/
def Agree (I J : List (Handle × List Handle) → Prop) (R : α → β → Prop) (x : Work ε α)
    (y : Work ε β) : Prop :=
  ∃ r r', Settles I x r ∧ Settles J y r' ∧ Matches R r r'

theorem Agree.matches (h : Agree I J R x y) (hi : I w.resolved) (hj : J w'.resolved) :
    Matches R (x.outcome w) (y.outcome w') := by
  obtain ⟨r, r', hx, hy, hm⟩ := h
  rw [(hx w hi).1, (hy w' hj).1]
  exact hm

theorem Steady.agree (h : Steady I x) : Agree I I Eq x x := by
  obtain ⟨r, hr⟩ := h
  exact ⟨r, r, hr, hr, matches_eq.2 rfl⟩

theorem Agree.steady (h : Agree I J R x y) : Steady I x := by
  obtain ⟨r, _, hr, _⟩ := h
  exact ⟨r, hr⟩

theorem Agree.ensures {P : Except ε α → Prop} (h : Agree I J R x y) (hx : Ensures I x P)
    (w : Workspace) (hw : I w.resolved) : Agree I J (fun a b => R a b ∧ P (.ok a)) x y := by
  obtain ⟨r, r', hr, hr', hm⟩ := h
  refine ⟨r, r', hr, hr', ?_⟩
  have hp := (hx w hw).1
  rw [(hr w hw).1] at hp
  cases hm with
  | ok hab => exact .ok ⟨hab, hp⟩
  | error => exact .error

theorem agree_pure (h : R a b) : Agree I J R (pure a : Work ε α) (pure b) :=
  ⟨_, _, settles_pure a, settles_pure b, .ok h⟩

theorem agree_throw (e : ε) : Agree I J R (throw e : Work ε α) (throw e) :=
  ⟨_, _, settles_throw e, settles_throw e, .error⟩

theorem agree_report (e e' : Event) : Agree I J Eq (report e : Work ε Unit) (report e') :=
  ⟨_, _, settles_report e, settles_report e', .ok rfl⟩

theorem agree_ofExcept {r : Except ε α} {r' : Except ε β} (h : Matches R r r') :
    Agree I J R (ofExcept r) (ofExcept r') :=
  ⟨r, r', settles_ofExcept r, settles_ofExcept r', h⟩

theorem Agree.bind {S : γ → δ → Prop} {f : α → Work ε γ} {g : β → Work ε δ} (h : Agree I J R x y)
    (hf : ∀ a b, R a b → Agree I J S (f a) (g b)) : Agree I J S (x >>= f) (y >>= g) := by
  obtain ⟨r, r', hx, hy, hm⟩ := h
  cases hm with
  | @ok a b hab =>
    obtain ⟨q, q', hq, hq', hm⟩ := hf a b hab
    exact ⟨q, q', hx.bind_ok hq, hy.bind_ok hq', hm⟩
  | error => exact ⟨_, _, hx.bind_error, hy.bind_error, .error⟩

theorem Agree.tryCatch {f : ε → Work ε α} {g : ε → Work ε β} (h : Agree I J R x y)
    (hf : ∀ e, Agree I J R (f e) (g e)) : Agree I J R (tryCatch x f) (tryCatch y g) := by
  obtain ⟨r, r', hx, hy, hm⟩ := h
  cases hm with
  | ok hab => exact ⟨_, _, hx.tryCatch_ok, hy.tryCatch_ok, .ok hab⟩
  | @error e =>
    obtain ⟨q, q', hq, hq', hm⟩ := hf e
    exact ⟨q, q', hx.tryCatch_error hq, hy.tryCatch_error hq', hm⟩

theorem Agree.orFault {x : Work Error α} {y : Work Error β} (h : Agree I J R x y) :
    Agree I J R x.orFault y.orFault := by
  obtain ⟨r, r', hx, hy, hm⟩ := h
  refine ⟨_, _, hx.orFault, hy.orFault, ?_⟩
  cases hm with
  | ok hab => exact .ok hab
  | error => exact .error

theorem agree_mapM {f : α → Work ε β} {g : α → Work ε γ} {S : β → γ → Prop}
    (h : ∀ a, Agree I J S (f a) (g a)) (as : List α) :
    Agree I J (List.Forall₂ S) (as.mapM f) (as.mapM g) := by
  induction as with
  | nil => exact agree_pure .nil
  | cons a as ih =>
    rw [List.mapM_cons, List.mapM_cons]
    refine (h a).bind fun b c hbc => ih.bind fun bs cs hbs => ?_
    exact agree_pure (.cons hbc hbs)

end Agreement

end Silbo.Work
