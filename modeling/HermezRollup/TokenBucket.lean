import Mathlib.Data.List.Basic
import Mathlib.Order.Basic
import Mathlib.Tactic.Common
import Mathlib.Tactic.Ring

/-! A token bucket that refills in whole periods.  Every `period` time units add `refill` credits up to
`capacity`; a request takes one credit or is refused.  Credits are added lazily, when a request arrives,
and a full bucket starts a new period at that moment. -/

structure TokenBucket where
  period : Nat
  refill : Nat
  capacity : Nat
  credit : Nat
  stamp : Nat

namespace TokenBucket

/-- The whole periods that have passed since the last refill. -/
def periods (b : TokenBucket) (now : Nat) : Nat :=
  (now - b.stamp) / b.period

/-- Add the credits due at `now`. -/
def topUp (b : TokenBucket) (now : Nat) : TokenBucket :=
  let credit := b.credit + b.periods now * b.refill
  if b.capacity ≤ credit then { b with credit := b.capacity, stamp := now }
  else { b with credit := credit, stamp := b.stamp + b.periods now * b.period }

/-- One request: it is refused, and changes nothing, when there is no credit. -/
def take (b : TokenBucket) (now : Nat) : Option TokenBucket :=
  if (b.topUp now).credit = 0 then none
  else some { b.topUp now with credit := (b.topUp now).credit - 1 }

/-- The bucket after requests at the given times. -/
def after (b : TokenBucket) : List Nat → TokenBucket
  | [] => b
  | now :: times => ((b.take now).getD b).after times

def served (b : TokenBucket) : List Nat → List Nat
  | [] => []
  | now :: times =>
    match b.take now with
    | none => b.served times
    | some b' => now :: b'.served times

/-- A bucket in use at time `now`. -/
structure Valid (b : TokenBucket) (now : Nat) : Prop where
  period_pos : 0 < b.period
  credit_le : b.credit ≤ b.capacity
  stamp_le : b.stamp ≤ now

variable {b b' : TokenBucket} {now : Nat}

theorem Valid.mono (h : b.Valid now) {later : Nat} (hle : now ≤ later) : b.Valid later :=
  ⟨h.period_pos, h.credit_le, h.stamp_le.trans hle⟩

theorem periods_mul_le (b : TokenBucket) (now : Nat) : b.periods now * b.period ≤ now - b.stamp :=
  Nat.div_mul_le_self _ _

/-- What serving a request at `now` does to the bucket. -/
structure Served (b : TokenBucket) (now : Nat) (b' : TokenBucket) : Prop where
  period : b'.period = b.period
  refill : b'.refill = b.refill
  capacity : b'.capacity = b.capacity
  credit_lt : b'.credit < b.capacity
  stamp_ge : b.stamp ≤ b'.stamp
  stamp_le : b'.stamp ≤ now
  /-- The new period has begun less than one period ago. -/
  recent : now < b'.stamp + b.period
  /-- The credit taken and the credit left were there, or were due for whole periods. -/
  paid : ∃ n, b'.credit + 1 ≤ b.credit + n * b.refill ∧ b.stamp + n * b.period ≤ b'.stamp

theorem take_served (h : b.Valid now) (htake : b.take now = some b') : b.Served now b' := by
  rw [take] at htake
  split at htake
  · cases htake
  next hcredit =>
    cases htake
    have hmul := b.periods_mul_le now
    have hstamp := h.stamp_le
    by_cases hfull : b.capacity ≤ b.credit + b.periods now * b.refill
    · simp only [topUp, if_pos hfull] at hcredit ⊢
      exact ⟨rfl, rfl, rfl, by simp only; omega, hstamp, le_rfl, Nat.lt_add_of_pos_right h.period_pos,
        b.periods now, by simp only; omega, by simp only; omega⟩
    · simp only [topUp, if_neg hfull] at hcredit ⊢
      refine ⟨rfl, rfl, rfl, by simp only; omega, Nat.le_add_right _ _, by simp only; omega, ?_,
        b.periods now, by simp only; omega, le_rfl⟩
      have hlt := Nat.lt_div_mul_add h.period_pos (a := now - b.stamp)
      have heq : b.periods now * b.period = (now - b.stamp) / b.period * b.period := rfl
      simp only
      omega

theorem Served.valid (h : b.Valid now) (hserved : b.Served now b') : b'.Valid now where
  period_pos := hserved.period ▸ h.period_pos
  credit_le := hserved.capacity ▸ hserved.credit_lt.le
  stamp_le := hserved.stamp_le

theorem after_valid (times : List Nat) (h : b.Valid now) (hsorted : (now :: times).Pairwise (· ≤ ·)) {later : Nat}
    (hlater : ∀ time ∈ now :: times, time ≤ later) :
    (b.after times).Valid later ∧ (b.after times).period = b.period ∧ (b.after times).refill = b.refill ∧
      (b.after times).capacity = b.capacity := by
  induction times generalizing b now with
  | nil => exact ⟨h.mono (hlater now List.mem_cons_self), rfl, rfl, rfl⟩
  | cons time times ih =>
    obtain ⟨hfirst, hrest⟩ := List.pairwise_cons.mp hsorted
    have hvalid := h.mono (hfirst time List.mem_cons_self)
    have hlater' : ∀ t ∈ time :: times, t ≤ later := fun t hmem => hlater t (List.mem_cons_of_mem _ hmem)
    rw [after]
    cases htake : b.take time with
    | none => exact ih hvalid hrest hlater'
    | some b' =>
      have hserved := take_served hvalid htake
      obtain ⟨hafter, hperiod, hrefill, hcapacity⟩ := ih (hserved.valid hvalid) hrest hlater'
      exact ⟨hafter, hperiod.trans hserved.period, hrefill.trans hserved.refill,
        hcapacity.trans hserved.capacity⟩

theorem served_sublist (b : TokenBucket) (times : List Nat) : (b.served times).Sublist times := by
  induction times generalizing b with
  | nil => exact List.Sublist.slnil
  | cons time times ih =>
    rw [served]
    cases b.take time with
    | none => exact (ih b).cons time
    | some b' => exact (ih b').cons_cons time

theorem countP_served_eq_zero (times : List Nat) {bound : Nat} (hlater : ∀ time ∈ times, bound < time) :
    (b.served times).countP (· ≤ bound) = 0 := by
  rw [List.countP_eq_zero]
  intro time hmem
  have := hlater time ((b.served_sublist times).subset hmem)
  simpa using this

/-- **Requests served up to a time**: at most the credit at the start and what was due since. -/
theorem countP_served_le (times : List Nat) (h : b.Valid now) (hsorted : (now :: times).Pairwise (· ≤ ·))
    (bound : Nat) :
    (b.served times).countP (· ≤ bound) ≤ b.credit + b.refill * ((bound - b.stamp) / b.period) := by
  induction times generalizing b now with
  | nil => simp [served]
  | cons time times ih =>
    obtain ⟨hfirst, hrest⟩ := List.pairwise_cons.mp hsorted
    have hvalid := h.mono (hfirst time List.mem_cons_self)
    rw [served]
    cases htake : b.take time with
    | none => exact ih hvalid hrest
    | some b' =>
      have hserved := take_served hvalid htake
      by_cases hle : time ≤ bound
      · have hrec := ih (hserved.valid hvalid) hrest
        obtain ⟨n, hcredit, hstamp⟩ := hserved.paid
        rw [hserved.period, hserved.refill] at hrec
        -- the `n` periods already credited and those after the new stamp fit in the whole time
        have hperiods : n + (bound - b'.stamp) / b.period ≤ (bound - b.stamp) / b.period := by
          have hpos := hvalid.period_pos
          rw [Nat.le_div_iff_mul_le hpos, Nat.add_mul]
          have := Nat.div_mul_le_self (bound - b'.stamp) b.period
          have := hserved.stamp_le
          omega
        rw [List.countP_cons_of_pos (by simpa using hle)]
        calc (b'.served times).countP (· ≤ bound) + 1
            ≤ b'.credit + 1 + b.refill * ((bound - b'.stamp) / b.period) := by omega
          _ ≤ b.credit + n * b.refill + b.refill * ((bound - b'.stamp) / b.period) := by omega
          _ = b.credit + b.refill * (n + (bound - b'.stamp) / b.period) := by ring
          _ ≤ b.credit + b.refill * ((bound - b.stamp) / b.period) :=
              Nat.add_le_add_left (Nat.mul_le_mul_left _ hperiods) _
      · have hnone : (b'.served times).countP (· ≤ bound) = 0 := by
          apply countP_served_eq_zero
          intro t ht
          have := (List.pairwise_cons.mp hrest).1 t ht
          omega
        rw [List.countP_cons_of_neg (by simpa using hle), hnone]
        exact Nat.zero_le _

/-- **Requests served in an interval**: at most the capacity and what is due for the periods that touch
the interval. -/
theorem countP_served_within (times : List Nat) (h : b.Valid now) (hsorted : (now :: times).Pairwise (· ≤ ·))
    (first bound : Nat) :
    (b.served times).countP (fun time => first ≤ time ∧ time ≤ bound) ≤
      b.capacity + b.refill * ((bound - first) / b.period + 1) := by
  induction times generalizing b now with
  | nil => simp [served]
  | cons time times ih =>
    obtain ⟨hfirst, hrest⟩ := List.pairwise_cons.mp hsorted
    have hvalid := h.mono (hfirst time List.mem_cons_self)
    rw [served]
    cases htake : b.take time with
    | none => exact ih hvalid hrest
    | some b' =>
      have hserved := take_served hvalid htake
      by_cases hin : first ≤ time ∧ time ≤ bound
      · -- from the first request of the interval on, the bound up to a time applies
        have hupto := countP_served_le times (hserved.valid hvalid) hrest bound
        have hmono : (b'.served times).countP (fun time => first ≤ time ∧ time ≤ bound) ≤
            (b'.served times).countP (· ≤ bound) := by
          apply List.countP_mono_left
          intro t _ ht
          simp only [Bool.decide_and, Bool.and_eq_true, decide_eq_true_eq] at ht ⊢
          exact ht.2
        have hperiods : (bound - b'.stamp) / b.period ≤ (bound - first) / b.period + 1 := by
          have hpos := hvalid.period_pos
          rw [← Nat.add_div_right _ hpos]
          have := hserved.recent
          exact Nat.div_le_div_right (by omega)
        rw [hserved.period, hserved.refill] at hupto
        have hcredit := hserved.credit_lt
        have hmul := Nat.mul_le_mul_left b.refill hperiods
        rw [List.countP_cons_of_pos (by simpa using hin)]
        omega
      · rw [List.countP_cons_of_neg (by simpa using hin), ← hserved.capacity, ← hserved.refill,
          ← hserved.period]
        exact ih (hserved.valid hvalid) hrest

end TokenBucket
