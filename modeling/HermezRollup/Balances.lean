import HermezRollup.RollupSteps

/-! The balances of a state summed up, for one token and for all of them.  A move of an account changes
the sums by what it gains, a new account adds its balance. -/

namespace HermezRollup

namespace AccountTree

/-- What all accounts hold, of all tokens together. -/
def totalBalance (tree : AccountTree) : Int :=
  tree.total fun _ a => (a.balance : Int)

/-- What all accounts of a token hold. -/
def tokenBalance (tree : AccountTree) (tokenID : TokenID) : Int :=
  tree.total fun _ a => if a.tokenID = tokenID then (a.balance : Int) else 0

variable {tree tree' : AccountTree} {idx : Nat} {delta : Int} {count : Nat}

theorem Moved.totalBalance (h : Moved tree idx delta count tree') :
    tree'.totalBalance = tree.totalBalance + delta := by
  obtain ⟨a, a', ha, rfl, -, -, hbalance⟩ := h
  have hinsert := Finmap.total_insert (fun (_ : Nat) (b : StoredAccount) => (b.balance : Int)) tree idx a'
  rw [ha] at hinsert
  simp only [AccountTree.totalBalance, Option.elim_some] at hinsert ⊢
  omega

theorem balance_le_totalBalance {a : StoredAccount} (ha : tree.lookup idx = some a) :
    (a.balance : Int) ≤ tree.totalBalance := by
  have hle := Finset.single_le_sum (s := tree.keys) (f := fun i => (tree.lookup i).elim (0 : Int) fun b => (b.balance : Int))
    (fun i _ => by cases tree.lookup i <;> simp) (Finmap.mem_keys.mpr (Finmap.mem_of_lookup_eq_some ha))
  rw [ha] at hle
  exact hle

theorem totalBalance_nonneg (tree : AccountTree) : 0 ≤ tree.totalBalance := by
  apply Finset.sum_nonneg
  intro i _
  cases tree.lookup i <;> simp

end AccountTree

end HermezRollup
