import HermezRollup.Fallible
import Mathlib.Logic.Function.Basic

/-! A database with numbered checkpoints.  The contents carry the number of their last checkpoint.  A
database can be reset to one of its own checkpoints, which deletes the later ones, or to a checkpoint of
another database, which replaces all of them.  A reset to a checkpoint that is not there fails when the
others are already deleted. -/

namespace Checkpoints

open Fallible

/-- Contents that carry a number. -/
class Numbered (σ : Type) where
  empty : σ
  number : σ → Nat

structure DB (σ : Type) where
  current : σ
  checkpoints : Nat → Option σ

structure Missing where
  number : Nat
  deriving DecidableEq, Repr

namespace DB

variable {σ : Type}

def checkpointExists (db : DB σ) (n : Nat) : Bool :=
  (db.checkpoints n).isSome

/-- Some checkpoints are deleted. -/
def prune (db : DB σ) (keep : Nat → Bool) : DB σ :=
  { db with checkpoints := fun n => if keep n then db.checkpoints n else none }

def edit (db : DB σ) (s : σ) : DB σ :=
  { db with current := s }

section Numbered

variable [Numbered σ]

def new : DB σ :=
  ⟨Numbered.empty, fun _ => none⟩

def checkpoint (db : DB σ) (s : σ) : DB σ :=
  ⟨s, Function.update db.checkpoints (Numbered.number s) (some s)⟩

/-- Back to a checkpoint; number 0 stands for the empty database. -/
def reset (n : Nat) : EStateM Missing (DB σ) Unit := fun db =>
  let kept := db.prune (· ≤ n)
  if n = 0 then .ok () (kept.edit Numbered.empty)
  else match db.checkpoints n with
    | some s => .ok () (kept.edit s)
    | none => .error ⟨n⟩ kept

/-- To a checkpoint of another database. -/
def resetFrom (source : DB σ) (n : Nat) : EStateM Missing (DB σ) Unit := fun db =>
  let kept := db.prune fun _ => false
  if n = 0 then .ok () (kept.edit Numbered.empty)
  else match source.checkpoints n with
    | some s => .ok () ⟨s, Function.update kept.checkpoints n (some s)⟩
    | none => .error ⟨n⟩ kept

variable {db db' source : DB σ} {n : Nat}

theorem reset_ok (hpos : n ≠ 0) :
    reset n db = .ok () db' ↔ ∃ s, db.checkpoints n = some s ∧ db' = (db.prune (· ≤ n)).edit s := by
  rw [reset, if_neg hpos]
  cases db.checkpoints n with
  | none => simp
  | some s => simp [eq_comm]

theorem resetFrom_ok (hpos : n ≠ 0) :
    resetFrom source n db = .ok () db' ↔ ∃ s, source.checkpoints n = some s ∧
      db' = ⟨s, Function.update (db.prune fun _ => false).checkpoints n (some s)⟩ := by
  rw [resetFrom, if_neg hpos]
  cases source.checkpoints n with
  | none => simp
  | some s => simp [eq_comm]

end Numbered

/-! ### What holds of every checkpoint -/

def All (P : Nat → σ → Prop) (db : DB σ) : Prop :=
  ∀ n s, db.checkpoints n = some s → P n s

variable {P : Nat → σ → Prop} {db source : DB σ}

theorem All.edit (h : db.All P) (s : σ) : (db.edit s).All P :=
  h

theorem All.prune (h : db.All P) (keep : Nat → Bool) : (db.prune keep).All P := by
  intro m s hs
  rw [DB.prune] at hs
  dsimp only at hs
  split at hs
  · exact h m s hs
  · cases hs

theorem All.update (h : db.All P) {n : Nat} {s : σ} (hs : P n s) (current : σ) :
    DB.All P ⟨current, Function.update db.checkpoints n (some s)⟩ := by
  intro m s' hs'
  dsimp only at hs'
  by_cases heq : m = n
  · subst heq
    rw [Function.update_self] at hs'
    cases hs'
    exact hs
  · rw [Function.update_of_ne heq] at hs'
    exact h m s' hs'

variable [Numbered σ]

theorem All.new : (DB.new : DB σ).All P := by
  intro m s hs
  cases hs

theorem All.checkpoint (h : db.All P) {s : σ} (hs : P (Numbered.number s) s) : (db.checkpoint s).All P :=
  h.update hs s

theorem All.reset (n : Nat) : Keeps (DB.All P) (DB.reset n) := by
  intro db h
  rw [DB.reset]
  split
  · exact (h.prune _).edit _
  · split
    · exact (h.prune _).edit _
    · exact h.prune _

theorem All.resetFrom (hsource : source.All P) (n : Nat) : Keeps (DB.All P) (DB.resetFrom source n) := by
  intro db h
  rw [DB.resetFrom]
  split
  · exact (h.prune _).edit _
  · split
    next s hs => exact (h.prune _).update (hsource n s hs) s
    next => exact h.prune _

theorem All.reset_current {Q : σ → Prop} (hempty : Q Numbered.empty) (h : db.All fun _ => Q) {n : Nat} {db' : DB σ}
    (hrun : DB.reset n db = .ok () db') : Q db'.current := by
  by_cases hzero : n = 0
  · rw [DB.reset, if_pos hzero] at hrun
    cases hrun
    exact hempty
  · obtain ⟨s, hs, rfl⟩ := (reset_ok hzero).mp hrun
    exact h n s hs

theorem All.resetFrom_current {Q : σ → Prop} (hempty : Q Numbered.empty) (hsource : source.All fun _ => Q) {n : Nat}
    {db' : DB σ} (hrun : DB.resetFrom source n db = .ok () db') : Q db'.current := by
  by_cases hzero : n = 0
  · rw [DB.resetFrom, if_pos hzero] at hrun
    cases hrun
    exact hempty
  · obtain ⟨s, hs, rfl⟩ := (resetFrom_ok hzero).mp hrun
    exact hsource n s hs

end DB

end Checkpoints
