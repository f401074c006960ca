import Mathlib

/-! Checked arithmetic on unsigned integers of a fixed width, held as numbers: an operation returns the
exact result or reverts. -/

namespace SafeMath

variable (width : Nat)

def add (a b : Nat) : Except String Nat :=
  if a + b < 2 ^ width then .ok (a + b) else .error "SafeMath: addition overflow"

def sub (a b : Nat) : Except String Nat :=
  if b ≤ a then .ok (a - b) else .error "SafeMath: subtraction overflow"

def mul (a b : Nat) : Except String Nat :=
  if a * b < 2 ^ width then .ok (a * b) else .error "SafeMath: multiplication overflow"

def div (a b : Nat) : Except String Nat :=
  if 0 < b then .ok (a / b) else .error "SafeMath: division by zero"

variable {width} {a b c : Nat}

theorem ite_ok {condition : Prop} [Decidable condition] {result : Nat} {message : String} :
    (if condition then .ok result else .error message : Except String Nat) = .ok c ↔ condition ∧ result = c := by
  split <;> simp [*]

@[simp] theorem add_ok : add width a b = .ok c ↔ a + b < 2 ^ width ∧ a + b = c :=
  ite_ok

@[simp] theorem sub_ok : sub a b = .ok c ↔ b ≤ a ∧ a - b = c :=
  ite_ok

@[simp] theorem mul_ok : mul width a b = .ok c ↔ a * b < 2 ^ width ∧ a * b = c :=
  ite_ok

@[simp] theorem div_ok : div a b = .ok c ↔ 0 < b ∧ a / b = c :=
  ite_ok

end SafeMath
