import HermezRollup.Fallible

/-! Programs against specifications.  A program is an `EStateM` computation on a state with bookkeeping;
a specification is a partial function on the part of that state that matters, with a result.  The program
*refines* the specification at a state when every successful run of it is the run of the specification,
and it *meets* it when it also succeeds whenever the specification does.  Both are closed under
sequencing, so a program is compared with its specification line by line. -/

namespace Simulation

open Fallible

variable {ε σ τ α β : Type}

/-- A specification: a partial state transformer with a result. -/
abbrev Spec (τ α : Type) := StateT τ Option α

variable {m : Spec τ α} {t : τ} {n : α → Spec τ β}

namespace Spec

/-- Read something from the state that may not be there. -/
def reads (f : τ → Option α) : Spec τ α := fun t => (f t).map fun a => (a, t)

/-- Change the state, where that is possible. -/
def updates (f : τ → Option τ) : Spec τ Unit := fun t => (f t).map fun t' => ((), t')

/-- Go on only if a condition holds. -/
def demand (p : Prop) [Decidable p] : Spec τ Unit := fun t => if p then some ((), t) else none

theorem bind_some {t'' : τ} {b : β} :
    (m >>= n) t = some (b, t'') ↔ ∃ a t', m t = some (a, t') ∧ n a t' = some (b, t'') := by
  show (m t >>= fun p => n p.1 p.2) = some (b, t'') ↔ _
  cases hm : m t with
  | none => simp
  | some p =>
    obtain ⟨a, t'⟩ := p
    simp

variable {t' : τ}

theorem bind_of_some {a : α} (h : m t = some (a, t')) :
    (m >>= n) t = n a t' := by
  show (m t >>= fun p => n p.1 p.2) = _
  rw [h]
  rfl

@[simp] theorem pure_run (a : α) (t : τ) : (pure a : Spec τ α) t = some (a, t) := rfl

@[simp] theorem get_run (t : τ) : (get : Spec τ τ) t = some (t, t) := rfl

/-- Run a specification for each element of a list, in order. -/
def forEach (step : α → Spec τ β) : List α → Spec τ (List β)
  | [] => pure []
  | a :: as => do
    let b ← step a
    let bs ← forEach step as
    return b :: bs

variable {as : List α} {out : List β}

theorem forEach_cons_some {step : α → Spec τ β} {a : α} {t'' : τ} :
    forEach step (a :: as) t = some (out, t'') ↔
      ∃ b t' bs, step a t = some (b, t') ∧ forEach step as t' = some (bs, t'') ∧ out = b :: bs := by
  rw [forEach, bind_some]
  constructor
  · rintro ⟨b, t', hb, hrest⟩
    obtain ⟨bs, t, hbs, hret⟩ := bind_some.mp hrest
    cases hret
    exact ⟨b, t', bs, hb, hbs, rfl⟩
  · rintro ⟨b, t', bs, hb, hbs, rfl⟩
    exact ⟨b, t', hb, bind_some.mpr ⟨bs, t'', hbs, rfl⟩⟩

theorem forEach_append {step : α → Spec τ β} {bs : List α} {t'' : τ} {out' : List β}
    (h : forEach step as t = some (out, t')) (h' : forEach step bs t' = some (out', t'')) :
    forEach step (as ++ bs) t = some (out ++ out', t'') := by
  induction as generalizing t out with
  | nil =>
    cases h
    exact h'
  | cons a as ih =>
    obtain ⟨b, t₁, os, hb, hos, rfl⟩ := Iff.mp forEach_cons_some h
    exact Iff.mpr forEach_cons_some ⟨b, t₁, os ++ out', hb, ih hos, rfl⟩

theorem forEach_length {step : α → Spec τ β} (h : forEach step as t = some (out, t')) : out.length = as.length := by
  induction as generalizing t out with
  | nil =>
    cases h
    rfl
  | cons a as ih =>
    obtain ⟨b, t₁, bs, -, hbs, rfl⟩ := Iff.mp forEach_cons_some h
    rw [List.length_cons, List.length_cons, ih hbs]

/-- The results of a run for each element of a list, with the states they lead to. -/
def trace (step : α → Spec τ β) : List α → τ → List (β × τ)
  | [], _ => []
  | a :: as, t => match step a t with
    | none => []
    | some (b, t') => (b, t') :: trace step as t'

theorem trace_cons {step : α → Spec τ β} {a : α} {b : β} (h : step a t = some (b, t')) (as : List α) :
    trace step (a :: as) t = (b, t') :: trace step as t' := by
  simp only [trace, h]

theorem length_trace {step : α → Spec τ β}
    (h : forEach step as t = some (out, t')) : (trace step as t).length = as.length := by
  induction as generalizing t out with
  | nil => rfl
  | cons a as ih =>
    obtain ⟨b, t₁, bs, hb, hbs, rfl⟩ := Iff.mp forEach_cons_some h
    rw [trace_cons hb, List.length_cons, List.length_cons, ih hbs]

theorem getElem?_trace {step : α → Spec τ β} {as : List α} {t t' : τ} {out : List β}
    (h : forEach step as t = some (out, t')) {i : Nat} (hi : i < as.length) :
    ∃ os o t₁, forEach step (as.take (i + 1)) t = some (os, t₁) ∧ (trace step as t)[i]? = some (o, t₁) := by
  induction as generalizing t out i with
  | nil => exact absurd hi (Nat.not_lt_zero i)
  | cons a as ih =>
    obtain ⟨b, t₁, bs, hb, hbs, rfl⟩ := Iff.mp forEach_cons_some h
    rw [trace_cons hb]
    cases i with
    | zero => exact ⟨[b], b, t₁, Iff.mpr forEach_cons_some ⟨b, t₁, [], hb, rfl, rfl⟩, rfl⟩
    | succ i =>
      obtain ⟨os, o, t₂, hos, ho⟩ := ih hbs (by simpa using hi)
      exact ⟨b :: os, o, t₂, Iff.mpr forEach_cons_some ⟨b, t₁, os, hb, hos, rfl⟩, ho⟩

theorem step_of_trace {step : α → Spec τ β} {o : β} {i : Nat} (h : (trace step as t)[i]? = some (o, t')) :
    ∃ a os t₀, as[i]? = some a ∧ forEach step (as.take i) t = some (os, t₀) ∧ step a t₀ = some (o, t') := by
  induction as generalizing t i with
  | nil => cases h
  | cons a as ih =>
    cases hstep : step a t with
    | none =>
      rw [trace, hstep] at h
      cases h
    | some p =>
      obtain ⟨b, t₁⟩ := p
      rw [trace_cons hstep] at h
      cases i with
      | zero =>
        cases h
        exact ⟨a, [], t, rfl, rfl, hstep⟩
      | succ i =>
        obtain ⟨a', os, t₀, ha', hos, hlast⟩ := ih h
        exact ⟨a', b :: os, t₀, ha', Iff.mpr forEach_cons_some ⟨b, t₁, os, hstep, hos, rfl⟩, hlast⟩

theorem trace_append {step : α → Spec τ β} (h : forEach step as t = some (out, t')) (bs : List α) :
    trace step (as ++ bs) t = trace step as t ++ trace step bs t' := by
  induction as generalizing t out with
  | nil =>
    cases h
    rfl
  | cons a as ih =>
    obtain ⟨b, t₁, os, hb, hos, rfl⟩ := Iff.mp forEach_cons_some h
    rw [List.cons_append, trace_cons hb, trace_cons hb, ih hos, List.cons_append]

section Map

variable {γ : Type} {step : α → Spec τ β}

theorem forEach_comp (f : γ → α) (cs : List γ) : forEach step (cs.map f) = forEach (fun c => step (f c)) cs := by
  induction cs with
  | nil => rfl
  | cons c cs ih => rw [List.map_cons, forEach, forEach, ih]

theorem trace_comp (f : γ → α) (cs : List γ) (t : τ) : trace step (cs.map f) t = trace (fun c => step (f c)) cs t := by
  induction cs generalizing t with
  | nil => rfl
  | cons c cs ih =>
    rw [List.map_cons, trace, trace]
    split
    · rfl
    · rw [ih]

theorem forEach_result (f : β → γ) (h : forEach step as t = some (out, t')) :
    forEach (fun a => do return f (← step a)) as t = some (out.map f, t') := by
  induction as generalizing t out with
  | nil =>
    cases h
    rfl
  | cons a as ih =>
    obtain ⟨b, t₁, bs, hb, hbs, rfl⟩ := Iff.mp forEach_cons_some h
    exact Iff.mpr forEach_cons_some ⟨f b, t₁, bs.map f, bind_some.mpr ⟨b, t₁, hb, rfl⟩, ih hbs, rfl⟩

theorem trace_result (f : β → γ) (as : List α) (t : τ) :
    trace (fun a => do return f (← step a)) as t = (trace step as t).map fun p => (f p.1, p.2) := by
  induction as generalizing t with
  | nil => rfl
  | cons a as ih =>
    cases hstep : step a t with
    | none =>
      have hnone : (do return f (← step a) : Spec τ γ) t = none := by
        show (step a t >>= _) = none
        rw [hstep]
        rfl
      simp only [trace, hstep, hnone, List.map_nil]
    | some p =>
      obtain ⟨b, t'⟩ := p
      have hsome : (do return f (← step a) : Spec τ γ) t = some (f b, t') := bind_some.mpr ⟨b, t', hstep, rfl⟩
      simp only [trace, hstep, hsome, ih, List.map_cons]

end Map

theorem reads_some {f : τ → Option α} {a : α} : reads f t = some (a, t') ↔ f t = some a ∧ t' = t := by
  cases h : f t with
  | none => simp [reads, h]
  | some b => simp [reads, h, eq_comm]

theorem updates_some {f : τ → Option τ} {u : Unit} : updates f t = some (u, t') ↔ f t = some t' := by
  simp [updates, Option.map_eq_some_iff]

theorem demand_some {p : Prop} [Decidable p] {u : Unit} : demand p t = some (u, t') ↔ p ∧ t' = t := by
  simp [demand, eq_comm]

end Spec

namespace Spec

variable {R : τ → τ → Prop}

/-- Every run leads to a state that `R` relates to the first one. -/
def Within (R : τ → τ → Prop) (m : Spec τ α) : Prop :=
  ∀ t a t', m t = some (a, t') → R t t'

theorem Within.pure (hrefl : ∀ t, R t t) (a : α) : Within R (pure a : Spec τ α) := by
  intro t b t' h
  cases h
  exact hrefl t

theorem Within.bind (htrans : ∀ t t' t'', R t t' → R t' t'' → R t t'')
    (hm : Within R m) (hn : ∀ a, Within R (n a)) : Within R (m >>= n) := by
  intro t b t'' h
  obtain ⟨a, t', hrun, hrun'⟩ := bind_some.mp h
  exact htrans t t' t'' (hm t a t' hrun) (hn a t' b t'' hrun')

theorem Within.forEach (hrefl : ∀ t, R t t) (htrans : ∀ t t' t'', R t t' → R t' t'' → R t t'')
    {step : α → Spec τ β} (hstep : ∀ a, Within R (step a)) (as : List α) : Within R (forEach step as) := by
  induction as with
  | nil => exact .pure hrefl []
  | cons a as ih => exact (hstep a).bind htrans fun b => ih.bind htrans fun bs => .pure hrefl (b :: bs)

end Spec

/-- What of the state of a program a specification sees, and what the program keeps of the rest. -/
structure View (σ τ : Type) where
  see : σ → τ
  Keeps : σ → σ → Prop
  refl : ∀ s, Keeps s s
  trans : ∀ {s s' s''}, Keeps s s' → Keeps s' s'' → Keeps s s''

namespace View

variable (V : View σ τ)

/-- Every successful run from `s` is the run of the specification. -/
def Refines (s : σ) (x : EStateM ε σ α) (m : Spec τ α) : Prop :=
  ∀ a s', x s = .ok a s' → m (V.see s) = some (a, V.see s') ∧ V.Keeps s s'

/-- The program refines the specification at `s`, and succeeds if the specification does. -/
structure Meets (s : σ) (x : EStateM ε σ α) (m : Spec τ α) : Prop where
  refines : V.Refines s x m
  succeeds : ∀ a t, m (V.see s) = some (a, t) → ∃ s', x s = .ok a s'

variable {V} {s : σ}

variable {x : EStateM ε σ α}

theorem Meets.run (h : V.Meets s x m) {a : α}
    (hm : m (V.see s) = some (a, t)) : ∃ s', x s = .ok a s' ∧ V.see s' = t ∧ V.Keeps s s' := by
  obtain ⟨s', hx⟩ := h.succeeds a t hm
  obtain ⟨hm', hkeeps⟩ := h.refines a s' hx
  rw [hm] at hm'
  cases hm'
  exact ⟨s', hx, rfl, hkeeps⟩

theorem Refines.bind {k : α → EStateM ε σ β}
    (hx : V.Refines s x m) (hk : ∀ a s', x s = .ok a s' → V.Refines s' (k a) (n a)) :
    V.Refines s (x >>= k) (m >>= n) := by
  intro b s'' hrun
  obtain ⟨a, s', hrunx, hrunk⟩ := bind_ok.mp hrun
  obtain ⟨hm, hkeeps⟩ := hx a s' hrunx
  obtain ⟨hn, hkeeps'⟩ := hk a s' hrunx b s'' hrunk
  exact ⟨Spec.bind_some.mpr ⟨a, V.see s', hm, hn⟩, V.trans hkeeps hkeeps'⟩

theorem Meets.bind {k : α → EStateM ε σ β}
    (hx : V.Meets s x m) (hk : ∀ a s', x s = .ok a s' → V.Meets s' (k a) (n a)) :
    V.Meets s (x >>= k) (m >>= n) := by
  refine ⟨hx.refines.bind fun a s' hrun => (hk a s' hrun).refines, ?_⟩
  intro b t hmn
  obtain ⟨a, t', hm, hn⟩ := Spec.bind_some.mp hmn
  obtain ⟨s', hrunx, rfl, -⟩ := hx.run hm
  obtain ⟨s'', hrunk⟩ := (hk a s' hrunx).succeeds b t hn
  exact ⟨s'', bind_ok.mpr ⟨a, s', hrunx, hrunk⟩⟩

theorem Meets.of_ok {a : α} {s' : σ} (hx : x s = .ok a s')
    (hm : m (V.see s) = some (a, V.see s')) (hkeeps : V.Keeps s s') : V.Meets s x m := by
  refine ⟨?_, fun b t hm' => ?_⟩
  · intro b s'' hrun
    rw [hx] at hrun
    cases hrun
    exact ⟨hm, hkeeps⟩
  · rw [hm] at hm'
    cases hm'
    exact ⟨s', hx⟩

theorem Meets.of_error {e : ε} {s' : σ} (hx : x s = .error e s') (hm : m (V.see s) = none) : V.Meets s x m := by
  refine ⟨?_, fun b t hm' => ?_⟩
  · intro b s'' hrun
    rw [hx] at hrun
    cases hrun
  · rw [hm] at hm'
    cases hm'

theorem Meets.pure (a : α) : V.Meets s (pure a : EStateM ε σ α) (pure a) :=
  .of_ok rfl rfl (V.refl s)

theorem Meets.get {k : σ → EStateM ε σ β} {n : Spec τ β} (h : V.Meets s (k s) n) : V.Meets s (get >>= k) n :=
  ⟨h.refines, h.succeeds⟩

theorem Meets.skip {x : EStateM ε σ Unit} {s' : σ} (hrun : x s = .ok () s') (hsee : V.see s' = V.see s)
    (hkeeps : V.Keeps s s') {k : EStateM ε σ β} {n : Spec τ β} (hk : V.Meets s' k n) :
    V.Meets s (x >>= fun _ => k) n := by
  refine ⟨?_, fun b t hn => ?_⟩
  · intro b s'' hrun'
    rw [bind_of_ok hrun] at hrun'
    obtain ⟨hn, hkeeps'⟩ := hk.refines b s'' hrun'
    exact ⟨hsee ▸ hn, V.trans hkeeps hkeeps'⟩
  · rw [bind_of_ok hrun]
    exact hk.succeeds b t (hsee ▸ hn)

theorem Meets.fromState {f : σ → Except ε α} {g : τ → Option α} (h : (f s).toOption = g (V.see s)) :
    V.Meets s (fromState f) (Spec.reads g) := by
  cases hf : f s with
  | error e =>
    rw [hf] at h
    exact .of_error (fromState_error.mpr ⟨hf, rfl⟩) (by rw [Spec.reads, ← h]; rfl)
  | ok a =>
    rw [hf] at h
    exact .of_ok (fromState_ok.mpr ⟨hf, rfl⟩) (Spec.reads_some.mpr ⟨h.symm, rfl⟩) (V.refl s)

end View

end Simulation
