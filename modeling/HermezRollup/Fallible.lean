import Mathlib.Data.List.Forall2
import Mathlib.Tactic.Common

/-! Reasoning about computations that can fail.  `Except` computations and `EStateM` computations, whose
error keeps the state reached when it was raised, are taken apart bind by bind: a successful run is a
successful run of each part.  `forEach` runs one action over a list, and `forEach_induct` carries an
invariant along it. -/

namespace Fallible

section Except

variable {ε α β : Type}

variable {f : α → Except ε β} {x : Except ε α}

theorem except_bind_ok {b : β} :
    (x >>= f) = .ok b ↔ ∃ a, x = .ok a ∧ f a = .ok b := by
  cases x with
  | error e => simp [bind, Except.bind]
  | ok a => simp [bind, Except.bind]

@[simp] theorem except_ok_bind (a : α) (f : α → Except ε β) : (Except.ok a >>= f) = f a := rfl

@[simp] theorem except_error_bind (e : ε) (f : α → Except ε β) : (Except.error e >>= f) = .error e := rfl

@[simp] theorem except_pure (a : α) : (pure a : Except ε α) = .ok a := rfl

theorem exists_of_map_ok {f : α → β} {b : β} (h : x.map f = .ok b) : ∃ a, x = .ok a ∧ f a = b := by
  cases x with
  | error e => cases h
  | ok a => exact ⟨a, rfl, Except.ok.inj h⟩

theorem toOption_some {a : α} : x.toOption = some a ↔ x = .ok a := by
  cases x with
  | error e => simp [Except.toOption]
  | ok b => simp [Except.toOption]

variable {xs : List α}

theorem mapM_ok {ys : List β} :
    xs.mapM f = .ok ys ↔ List.Forall₂ (fun x y => f x = .ok y) xs ys := by
  induction xs generalizing ys with
  | nil =>
    rw [List.mapM_nil, except_pure, Except.ok.injEq, List.forall₂_nil_left_iff]
    exact eq_comm
  | cons x xs ih =>
    rw [List.mapM_cons, except_bind_ok, List.forall₂_cons_left_iff]
    constructor
    · rintro ⟨y, hy, htail⟩
      obtain ⟨rest, hrest, heq⟩ := except_bind_ok.mp htail
      cases heq
      exact ⟨y, rest, hy, ih.mp hrest, rfl⟩
    · rintro ⟨y, rest, hy, hrest, rfl⟩
      exact ⟨y, hy, except_bind_ok.mpr ⟨rest, ih.mpr hrest, rfl⟩⟩

theorem forall₂_of_mem_left {R : α → β → Prop} {ys : List β} (h : List.Forall₂ R xs ys) {x : α}
    (hx : x ∈ xs) : ∃ y ∈ ys, R x y := by
  induction h with
  | nil => cases hx
  | cons hab _ ih =>
    rcases List.mem_cons.mp hx with rfl | hx
    · exact ⟨_, List.mem_cons_self, hab⟩
    · obtain ⟨y, hy, hR⟩ := ih hx
      exact ⟨y, List.mem_cons_of_mem _ hy, hR⟩

theorem forall₂_of_mem_right {R : α → β → Prop} {ys : List β} (h : List.Forall₂ R xs ys) {y : β}
    (hy : y ∈ ys) : ∃ x ∈ xs, R x y :=
  forall₂_of_mem_left h.flip hy

theorem forall₂_trans {γ : Type} {R : α → β → Prop} {S : β → γ → Prop} {ys : List β} {zs : List γ}
    (h : List.Forall₂ R xs ys) (h' : List.Forall₂ S ys zs) : List.Forall₂ (fun x z => ∃ y, R x y ∧ S y z) xs zs := by
  induction h generalizing zs with
  | nil =>
    cases h'
    exact .nil
  | cons hxy _ ih =>
    cases h' with
    | cons hyz hrest => exact .cons ⟨_, hxy, hyz⟩ (ih hrest)

theorem mapM_total (h : ∀ x ∈ xs, ∃ y, f x = .ok y) :
    ∃ ys, xs.mapM f = .ok ys := by
  induction xs with
  | nil => exact ⟨[], rfl⟩
  | cons x xs ih =>
    obtain ⟨y, hy⟩ := h x (by simp)
    obtain ⟨ys, hys⟩ := ih fun z hz => h z (by simp [hz])
    exact ⟨y :: ys, by rw [List.mapM_cons, hy, except_ok_bind, hys]; rfl⟩

theorem mapM_error {e : ε} (h : xs.mapM f = .error e) :
    ∃ x ∈ xs, f x = .error e := by
  induction xs with
  | nil => cases h
  | cons x xs ih =>
    rw [List.mapM_cons] at h
    cases hx : f x with
    | error e' =>
      rw [hx, except_error_bind] at h
      cases h
      exact ⟨x, by simp, hx⟩
    | ok y =>
      rw [hx, except_ok_bind] at h
      cases hxs : xs.mapM f with
      | error e' =>
        rw [hxs, except_error_bind] at h
        cases h
        obtain ⟨z, hz, hfail⟩ := ih hxs
        exact ⟨z, by simp [hz], hfail⟩
      | ok ys => rw [hxs] at h; cases h

theorem foldlM_invariant {f : β → α → Except ε β} {P : β → Prop}
    (hstep : ∀ b a b', P b → f b a = .ok b' → P b') {b b' : β} (hb : P b) (h : xs.foldlM f b = .ok b') : P b' := by
  induction xs generalizing b with
  | nil =>
    cases h
    exact hb
  | cons x xs ih =>
    obtain ⟨b₁, hfirst, hrest⟩ := except_bind_ok.mp h
    exact ih (hstep b x b₁ hb hfirst) hrest

/-- A computation that does not fail with a given error. -/
def Avoids (e : ε) (x : Except ε α) : Prop :=
  x ≠ .error e

section Avoids

variable {e : ε}

@[simp] theorem Avoids.ok (a : α) : Avoids e (.ok a : Except ε α) := by
  intro h
  cases h

@[simp] theorem Avoids.pure (a : α) : Avoids e (pure a : Except ε α) :=
  .ok a

@[simp] theorem avoids_error {e' : ε} : Avoids e (.error e' : Except ε α) ↔ e' ≠ e := by
  rw [Avoids, ne_eq, Except.error.injEq]

theorem Avoids.bind_of (hx : Avoids e x) (hf : ∀ a, x = .ok a → Avoids e (f a)) :
    Avoids e (x >>= f) := by
  cases x with
  | error e' => exact avoids_error.mpr (avoids_error.mp hx)
  | ok a => exact hf a rfl

theorem Avoids.bind (hx : Avoids e x) (hf : ∀ a, Avoids e (f a)) :
    Avoids e (x >>= f) :=
  hx.bind_of fun a _ => hf a

theorem Avoids.map (hx : Avoids e x) (f : α → β) : Avoids e (x.map f) := by
  cases x with
  | error e' => exact avoids_error.mpr (avoids_error.mp hx)
  | ok a => exact .ok _

theorem Avoids.mapM (hf : ∀ a, Avoids e (f a)) (xs : List α) : Avoids e (xs.mapM f) := by
  intro h
  obtain ⟨x, -, hx⟩ := mapM_error h
  exact hf x hx

theorem Avoids.foldlM {f : β → α → Except ε β} {P : β → Prop}
    (havoids : ∀ b, P b → ∀ a ∈ xs, Avoids e (f b a)) (hstep : ∀ b a b', P b → f b a = .ok b' → P b') {b : β}
    (hb : P b) : Avoids e (xs.foldlM f b) := by
  induction xs generalizing b with
  | nil => exact .ok b
  | cons x xs ih =>
    refine (havoids b hb x List.mem_cons_self).bind_of fun b' hrun => ?_
    exact ih (fun c hc a ha => havoids c hc a (List.mem_cons_of_mem _ ha)) (hstep b x b' hb hrun)

end Avoids

/-- A computation that does not fail with a given error, and whose result satisfies `P`. -/
def Ensures (e : ε) (x : Except ε α) (P : α → Prop) : Prop :=
  Avoids e x ∧ ∀ a, x = .ok a → P a

section Ensures

variable {e : ε} {P : α → Prop} {Q : β → Prop}

theorem Ensures.ok {a : α} (h : P a) : Ensures e (.ok a) P :=
  ⟨.ok a, fun _ heq => by cases heq; exact h⟩

theorem Ensures.error {e' : ε} (h : e' ≠ e) : Ensures e (.error e' : Except ε α) P :=
  ⟨avoids_error.mpr h, fun _ heq => by cases heq⟩

theorem Ensures.bind (hx : Ensures e x P) (hf : ∀ a, P a → Ensures e (f a) Q) :
    Ensures e (x >>= f) Q := by
  refine ⟨hx.1.bind_of fun a hrun => (hf a (hx.2 a hrun)).1, ?_⟩
  intro b h
  obtain ⟨a, hrun, hb⟩ := except_bind_ok.mp h
  exact (hf a (hx.2 a hrun)).2 b hb

theorem Ensures.mono {P' : α → Prop} (hx : Ensures e x P) (h : ∀ a, P a → P' a) : Ensures e x P' :=
  ⟨hx.1, fun a hrun => h a (hx.2 a hrun)⟩

theorem Ensures.foldlM {f : β → α → Except ε β} (hstep : ∀ b a, a ∈ xs → Q b → Ensures e (f b a) Q)
    {b : β} (hb : Q b) : Ensures e (xs.foldlM f b) Q := by
  induction xs generalizing b with
  | nil => exact .ok hb
  | cons x xs ih =>
    refine (hstep b x List.mem_cons_self hb).bind fun b' hb' => ?_
    exact ih (fun c a ha hc => hstep c a (List.mem_cons_of_mem _ ha) hc) hb'

end Ensures

end Except

section EStateM

variable {ε σ α β : Type}

open EStateM (Result)

/-- A bind succeeds exactly when both parts do, the second from where the first ended. -/
theorem bind_ok {x : EStateM ε σ α} {f : α → EStateM ε σ β} {s s'' : σ} {b : β} :
    (x >>= f) s = .ok b s'' ↔ ∃ a s', x s = .ok a s' ∧ f a s' = .ok b s'' := by
  show EStateM.bind x f s = _ ↔ _
  unfold EStateM.bind
  cases x s with
  | ok a s' => simp
  | error e s' => simp

theorem bind_error {x : EStateM ε σ α} {f : α → EStateM ε σ β} {s s'' : σ} {e : ε} :
    (x >>= f) s = .error e s'' ↔
      x s = .error e s'' ∨ ∃ a s', x s = .ok a s' ∧ f a s' = .error e s'' := by
  show EStateM.bind x f s = _ ↔ _
  unfold EStateM.bind
  cases x s with
  | ok a s' => simp
  | error e s' => simp

theorem bind_of_ok {x : EStateM ε σ α} {f : α → EStateM ε σ β} {s s' : σ} {a : α} (h : x s = .ok a s') :
    (x >>= f) s = f a s' := by
  show EStateM.bind x f s = _
  rw [EStateM.bind, h]

@[simp] theorem pure_ok {s s' : σ} {a b : α} : (pure a : EStateM ε σ α) s = .ok b s' ↔ a = b ∧ s = s' := by
  show Result.ok a s = _ ↔ _
  simp

@[simp] theorem pure_run (s : σ) (a : α) : (pure a : EStateM ε σ α) s = .ok a s := rfl

@[simp] theorem throw_run (s : σ) (e : ε) : (throw e : EStateM ε σ α) s = .error e s := rfl

@[simp] theorem get_run (s : σ) : (get : EStateM ε σ σ) s = .ok s s := rfl

@[simp] theorem modify_run (f : σ → σ) (s : σ) : (modify f : EStateM ε σ PUnit) s = .ok ⟨⟩ (f s) := rfl

/-- Whether a run succeeds with a result and a state that pass a test. -/
def succeedsWith (test : α → σ → Bool) (result : Result ε σ α) : Bool :=
  match result with
  | .ok a s => test a s
  | .error _ _ => false

theorem exists_of_succeedsWith {test : α → σ → Bool} {result : Result ε σ α} (h : succeedsWith test result = true) :
    ∃ a s, result = .ok a s ∧ test a s = true := by
  cases result with
  | ok a s => exact ⟨a, s, rfl, h⟩
  | error e s => cases h

/-- Whether a run fails with an error. -/
def failsWith [DecidableEq ε] (e : ε) (result : Result ε σ α) : Bool :=
  match result with
  | .ok _ _ => false
  | .error e' _ => e' = e

theorem exists_of_failsWith [DecidableEq ε] {e : ε} {result : Result ε σ α} (h : failsWith e result = true) :
    ∃ s, result = .error e s := by
  cases result with
  | ok a s => cases h
  | error e' s => exact ⟨s, by rw [of_decide_eq_true h]⟩

/-- Run an `Except` computation that reads the state. -/
def fromState (f : σ → Except ε α) : EStateM ε σ α := fun s =>
  match f s with
  | .ok a => .ok a s
  | .error e => .error e s

theorem fromState_ok {f : σ → Except ε α} {s s' : σ} {a : α} :
    fromState f s = .ok a s' ↔ f s = .ok a ∧ s' = s := by
  unfold fromState
  cases f s with
  | ok b => simp [eq_comm]
  | error e => simp

theorem fromState_error {f : σ → Except ε α} {s s' : σ} {e : ε} :
    fromState f s = .error e s' ↔ f s = .error e ∧ s' = s := by
  unfold fromState
  cases f s with
  | ok b => simp
  | error e => simp [eq_comm]

/-- The state at the end of a run, whether it fails or not. -/
def finalState (result : Result ε σ α) : σ :=
  match result with
  | .ok _ s => s
  | .error _ s => s

/-- What a computation keeps, whether it fails or not. -/
def Keeps (P : σ → Prop) (x : EStateM ε σ α) : Prop :=
  ∀ s, P s → P (finalState (x s))

section Keeps

variable {P : σ → Prop}

theorem Keeps.ok {x : EStateM ε σ α} (hx : Keeps P x) {s s' : σ} {a : α} (hs : P s) (hrun : x s = .ok a s') : P s' := by
  have h := hx s hs
  rw [hrun] at h
  exact h

theorem Keeps.error {x : EStateM ε σ α} (hx : Keeps P x) {s s' : σ} {e : ε} (hs : P s) (hrun : x s = .error e s') :
    P s' := by
  have h := hx s hs
  rw [hrun] at h
  exact h

theorem Keeps.pure (a : α) : Keeps P (pure a : EStateM ε σ α) :=
  fun _ hs => hs

theorem Keeps.throw (e : ε) : Keeps P (throw e : EStateM ε σ α) :=
  fun _ hs => hs

theorem Keeps.get : Keeps P (get : EStateM ε σ σ) :=
  fun _ hs => hs

theorem Keeps.modify {f : σ → σ} (hf : ∀ s, P s → P (f s)) : Keeps P (modify f : EStateM ε σ PUnit) :=
  hf

theorem keeps_get_bind {f : σ → EStateM ε σ β} (hf : ∀ s, P s → P (finalState (f s s))) : Keeps P (get >>= f) :=
  hf

theorem Keeps.bind {x : EStateM ε σ α} {f : α → EStateM ε σ β} (hx : Keeps P x) (hf : ∀ a, Keeps P (f a)) :
    Keeps P (x >>= f) := by
  intro s hs
  cases hrun : x s with
  | ok a s' =>
    rw [bind_of_ok hrun]
    exact hf a s' (hx.ok hs hrun)
  | error e s' =>
    rw [bind_error.mpr (.inl hrun)]
    exact hx.error hs hrun

theorem Keeps.fromState (f : σ → Except ε α) : Keeps P (fromState f) := by
  intro s hs
  rw [Fallible.fromState]
  cases f s with
  | ok a => exact hs
  | error e => exact hs

end Keeps

section Catch

variable {ε' : Type} {f : ε → ε'} {x : EStateM ε σ α} {s s' : σ} {a : α}

/-- Run a computation whose errors are part of a larger type of errors. -/
def withError (f : ε → ε') (x : EStateM ε σ α) : EStateM ε' σ α := fun s =>
  match x s with
  | .ok a s' => .ok a s'
  | .error e s' => .error (f e) s'

@[simp] theorem withError_ok : withError f x s = .ok a s' ↔ x s = .ok a s' := by
  rw [withError]
  cases x s <;> simp

theorem withError_error {e' : ε'} : withError f x s = .error e' s' ↔ ∃ e, x s = .error e s' ∧ f e = e' := by
  rw [withError]
  cases x s with
  | ok b t => simp
  | error e t => simp [and_comm]

theorem Keeps.withError {P : σ → Prop} (hx : Keeps P x) (f : ε → ε') : Keeps P (withError f x) := by
  intro s hs
  rw [Fallible.withError]
  cases hrun : x s with
  | ok a s' => exact hx.ok hs hrun
  | error e s' => exact hx.error hs hrun

/-- Go on after an error, from the state it left. -/
def attempt (x : EStateM ε σ α) : EStateM ε' σ (Except ε α) := fun s =>
  match x s with
  | .ok a s' => .ok (.ok a) s'
  | .error e s' => .ok (.error e) s'

theorem Keeps.attempt {P : σ → Prop} (hx : Keeps P x) : Keeps P (attempt x : EStateM ε' σ (Except ε α)) := by
  intro s hs
  rw [Fallible.attempt]
  cases hrun : x s with
  | ok a s' => exact hx.ok hs hrun
  | error e s' => exact hx.error hs hrun

theorem attempt_ok {out : Except ε α} :
    (attempt x : EStateM ε' σ (Except ε α)) s = .ok out s' ↔
      (∃ a, out = .ok a ∧ x s = .ok a s') ∨ ∃ e, out = .error e ∧ x s = .error e s' := by
  rw [attempt]
  cases x s with
  | ok b t => simp [eq_comm]
  | error e t => simp [eq_comm]

end Catch

/-- A computation that does not fail with a given error when it starts at `s`. -/
def AvoidsAt (e : ε) (s : σ) (x : EStateM ε σ α) : Prop :=
  ∀ s', x s ≠ .error e s'

section AvoidsAt

variable {e : ε} {s : σ}

theorem AvoidsAt.bind {x : EStateM ε σ α} {f : α → EStateM ε σ β} (hx : AvoidsAt e s x)
    (hf : ∀ a s', x s = .ok a s' → AvoidsAt e s' (f a)) : AvoidsAt e s (x >>= f) := by
  intro s'' h
  rcases bind_error.mp h with h | ⟨a, s', hrun, h⟩
  · exact hx s'' h
  · exact hf a s' hrun s'' h

theorem AvoidsAt.of_ok {x : EStateM ε σ α} {a : α} {s' : σ} (h : x s = .ok a s') : AvoidsAt e s x := by
  intro s'' h'
  rw [h] at h'
  cases h'

theorem AvoidsAt.pure (a : α) : AvoidsAt e s (pure a : EStateM ε σ α) :=
  .of_ok rfl

theorem AvoidsAt.throw {e' : ε} (h : e' ≠ e) : AvoidsAt e s (throw e' : EStateM ε σ α) := by
  intro s' h'
  cases h'
  exact h rfl

theorem AvoidsAt.fromState {f : σ → Except ε α} (h : Avoids e (f s)) : AvoidsAt e s (fromState f) := by
  intro s' h'
  exact h (fromState_error.mp h').1

end AvoidsAt

end EStateM

end Fallible
