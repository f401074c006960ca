import HermezRollup.Fallible

/-! Postconditions for computations that can fail, one for success and one for failure.  A run is taken
apart along its binds: what one part ends in is where the next part starts. -/

namespace Fallible

open EStateM

variable {ε ε' σ α β : Type} {x : EStateM ε σ α} {s : σ} {Q : α → σ → Prop} {E : σ → Prop}

/-- Started at `s`, a computation ends in `Q` if it succeeds and in `E` if it fails. -/
def Ends (x : EStateM ε σ α) (s : σ) (Q : α → σ → Prop) (E : σ → Prop) : Prop :=
  match x s with
  | .ok a s' => Q a s'
  | .error _ s' => E s'

theorem Ends.of_ok (h : Ends x s Q E) {a : α} {s' : σ} (hrun : x s = .ok a s') : Q a s' := by
  rwa [Ends, hrun] at h

theorem Ends.of_error (h : Ends x s Q E) {e : ε} {s' : σ} (hrun : x s = .error e s') : E s' := by
  rwa [Ends, hrun] at h

theorem Ends.at_end (h : Ends x s Q E) {P : σ → Prop} (hok : ∀ a s', Q a s' → P s') (herror : ∀ s', E s' → P s') :
    P (finalState (x s)) := by
  rw [Ends] at h
  cases hrun : x s with
  | ok a s' =>
    rw [hrun] at h
    exact hok a s' h
  | error e s' =>
    rw [hrun] at h
    exact herror s' h

theorem Keeps.ends {P : σ → Prop} (h : Keeps P x) (hs : P s) : Ends x s (fun _ => P) P := by
  unfold Ends
  cases hrun : x s with
  | ok a s' => exact h.ok hs hrun
  | error e s' => exact h.error hs hrun

theorem Ends.mono (h : Ends x s Q E) {Q' : α → σ → Prop} {E' : σ → Prop} (hok : ∀ a s', Q a s' → Q' a s')
    (herror : ∀ s', E s' → E' s') : Ends x s Q' E' := by
  rw [Ends] at h ⊢
  cases hrun : x s with
  | ok a s' =>
    rw [hrun] at h
    exact hok a s' h
  | error e s' =>
    rw [hrun] at h
    exact herror s' h

theorem Ends.pure {a : α} (h : Q a s) : Ends (pure a : EStateM ε σ α) s Q E :=
  h

theorem Ends.throw {e : ε} (h : E s) : Ends (throw e : EStateM ε σ α) s Q E :=
  h

theorem Ends.modify {Q : PUnit → σ → Prop} {f : σ → σ} (h : Q ⟨⟩ (f s)) : Ends (modify f : EStateM ε σ PUnit) s Q E :=
  h

theorem Ends.fromState {f : σ → Except ε α} (hok : ∀ a, f s = .ok a → Q a s) (herror : ∀ e, f s = .error e → E s) :
    Ends (fromState f) s Q E := by
  rw [Ends, Fallible.fromState]
  cases hf : f s with
  | ok a => exact hok a hf
  | error e => exact herror e hf

variable {R : β → σ → Prop}

theorem Ends.bind {f : α → EStateM ε σ β} (hx : Ends x s Q E)
    (hf : ∀ a s', Q a s' → Ends (f a) s' R E) : Ends (x >>= f) s R E := by
  cases hrun : (x >>= f) s with
  | ok b s'' =>
    obtain ⟨a, s', hfirst, hrest⟩ := bind_ok.mp hrun
    rw [Ends, hrun]
    exact (hf a s' (hx.of_ok hfirst)).of_ok hrest
  | error e s'' =>
    rw [Ends, hrun]
    rcases bind_error.mp hrun with hfirst | ⟨a, s', hfirst, hrest⟩
    · exact hx.of_error hfirst
    · exact (hf a s' (hx.of_ok hfirst)).of_error hrest

theorem ends_get_bind {f : σ → EStateM ε σ β} (h : Ends (f s) s R E) : Ends (get >>= f) s R E :=
  h

theorem ends_modify_bind {g : σ → σ} {f : PUnit → EStateM ε σ β} (h : Ends (f ⟨⟩) (g s) R E) :
    Ends (modify g >>= f) s R E :=
  h

theorem ends_fromState_bind {g : σ → Except ε α} {f : α → EStateM ε σ β}
    (herror : ∀ e, g s = .error e → E s) (hok : ∀ a, g s = .ok a → Ends (f a) s R E) :
    Ends (fromState g >>= f) s R E := by
  refine Ends.bind (Ends.fromState (Q := fun a s' => g s = .ok a ∧ s' = s) ?_ herror) ?_
  · intro a ha
    exact ⟨ha, rfl⟩
  · rintro a _ ⟨ha, rfl⟩
    exact hok a ha

theorem Ends.attempt {Q : Except ε α → σ → Prop} {E' : σ → Prop}
    (h : Ends x s (fun a => Q (.ok a)) fun s' => ∀ e, Q (.error e) s') :
    Ends (attempt x : EStateM ε' σ (Except ε α)) s Q E' := by
  rw [Ends] at h
  rw [Ends, Fallible.attempt]
  cases hrun : x s with
  | ok a s' =>
    rw [hrun] at h
    exact h
  | error e s' =>
    rw [hrun] at h
    exact h e

end Fallible
