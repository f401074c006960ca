import HermezRollup.ContractSteps

/-! The Merkle proofs of withdrawals: the verifier of the contract is the walk of a sparse Merkle tree
from a leaf to the root, and the leaf it rebuilds with shifts has four separate fields. -/

namespace HermezRollup

variable [Libraries]

/-- The hashes of the trees, as the contract computes them. -/
def treeHashing : SparseMerkle.Hashing Nat where
  hashNode := Hermez.hashNode
  hashLeaf := Hermez.hashFinalNode
  zero := 0

/-- The hashes of two, three and four elements neither collide nor vanish. -/
structure PoseidonCollisionFree : Prop where
  inj : ∀ {xs ys : List Nat}, 2 ≤ xs.length → xs.length ≤ 4 → 2 ≤ ys.length → ys.length ≤ 4 →
    Libraries.poseidon xs = Libraries.poseidon ys → xs = ys
  ne_zero : ∀ {xs : List Nat}, 2 ≤ xs.length → xs.length ≤ 4 → Libraries.poseidon xs ≠ 0

omit [Libraries] in
theorem poseidonStandIn_inj {xs ys : List Nat} (h : xs.foldr (fun x code => Nat.pair x code + 1) 0 =
    ys.foldr (fun x code => Nat.pair x code + 1) 0) : xs = ys := by
  induction xs generalizing ys with
  | nil =>
    cases ys with
    | nil => rfl
    | cons y ys => simp at h
  | cons x xs ih =>
    cases ys with
    | nil => simp at h
    | cons y ys =>
      obtain ⟨rfl, htail⟩ := Nat.pair_eq_pair.mp (Nat.succ.inj h)
      rw [ih htail]

omit [Libraries] in
theorem plainLibraries_collisionFree : @PoseidonCollisionFree plainLibraries := by
  let := plainLibraries
  refine ⟨fun _ _ _ _ h => poseidonStandIn_inj h, ?_⟩
  intro xs hlength _ hzero
  cases xs with
  | nil => simp at hlength
  | cons x xs => cases hzero

theorem treeHashing_collisionFree (hfree : PoseidonCollisionFree) : treeHashing.CollisionFree where
  node_inj := by
    intro left right left' right' h
    have hlists := hfree.inj (by simp) (by simp) (by simp) (by simp) h
    simpa using hlists
  leaf_inj := by
    intro key value key' value' h
    have hlists := hfree.inj (by simp) (by simp) (by simp) (by simp) h
    simpa using hlists
  node_ne_leaf := by
    intro left right key value h
    have hlists := hfree.inj (by simp) (by simp) (by simp) (by simp) h
    cases hlists
  node_ne_zero := fun _ _ => hfree.ne_zero (by simp) (by simp)
  leaf_ne_zero := fun _ _ => hfree.ne_zero (by simp) (by simp)

theorem smtVerifierLoop_eq_climb (siblings : List Nat) (key child : Nat) {i : Nat} (hi : i ≤ siblings.length) :
    Hermez.smtVerifierLoop siblings key i child = SparseMerkle.climb treeHashing key 0 (siblings.take i) child := by
  induction i generalizing child with
  | zero => rfl
  | succ i ih =>
    have hget : siblings.take (i + 1) = siblings.take i ++ [siblings.getD i 0] := by
      rw [List.take_add_one, List.getD_eq_getElem?_getD, List.getElem?_eq_getElem (by omega)]
      rfl
    rw [Hermez.smtVerifierLoop, ih _ (by omega), hget, SparseMerkle.climb_concat, List.length_take,
      Nat.min_eq_left (by omega), Nat.zero_add, SparseMerkle.parent, Nat.testBit_eq_decide_div_mod_eq]
    simp only [decide_eq_true_eq]
    rfl

/-- The verifier of the contract accepts exactly the siblings that lead to the root. -/
theorem smtVerifier_iff (root key value : Nat) (siblings : List Nat) :
    Hermez.smtVerifier root siblings key value = true ↔
      root = SparseMerkle.climb treeHashing key 0 siblings (treeHashing.hashLeaf key value) := by
  rw [Hermez.smtVerifier, decide_eq_true_iff, smtVerifierLoop_eq_climb _ _ _ (Nat.le_refl _), List.take_length]
  rfl

omit [Libraries] in
theorem Hermez.buildTreeState_eq (token : TokenID) (nonce : BitVec 48) (balance ay : BitVec 256) (ethAddress : Address) :
    buildTreeState token nonce balance ay ethAddress =
      [ay.toNat / 2 ^ 255 * 2 ^ 72 + (nonce.toNat % 2 ^ 16 * 2 ^ 32 + token.toNat), balance.toNat,
        ay.toNat % 2 ^ 255, ethAddress.toNat] := by
  have htoken := token.isLt
  have hay := ay.isLt
  have hnonce : (nonce <<< 32).toNat = 2 ^ 32 * (nonce.toNat % 2 ^ 16) := by
    rw [BitVec.toNat_shiftLeft, Nat.shiftLeft_eq, show (2 : Nat) ^ 48 = 2 ^ 16 * 2 ^ 32 by norm_num,
      Nat.mul_mod_mul_right, Nat.mul_comm]
  have hsign : ((ay >>> 255) <<< (32 + 40)).toNat = 2 ^ 72 * (ay.toNat / 2 ^ 255) := by
    rw [BitVec.toNat_shiftLeft, BitVec.toNat_ushiftRight, Nat.shiftRight_eq_div_pow, Nat.shiftLeft_eq,
      Nat.mod_eq_of_lt (by omega), Nat.mul_comm]
  have hkey : ((ay <<< 1) >>> 1).toNat = ay.toNat % 2 ^ 255 := by
    rw [BitVec.toNat_ushiftRight, BitVec.toNat_shiftLeft, Nat.shiftRight_eq_div_pow, Nat.shiftLeft_eq]
    omega
  have hlow : 2 ^ 32 * (nonce.toNat % 2 ^ 16) + token.toNat < 2 ^ 72 := by omega
  have hnonceLt : 2 ^ 32 * (nonce.toNat % 2 ^ 16) < 2 ^ 256 := by omega
  have htokenLt : token.toNat < 2 ^ 256 := by omega
  rw [buildTreeState, hkey, BitVec.toNat_or, BitVec.toNat_or, BitVec.toNat_setWidth, BitVec.toNat_setWidth, hnonce,
    hsign, Nat.mod_eq_of_lt htokenLt, Nat.mod_eq_of_lt hnonceLt, Nat.or_comm token.toNat,
    ← Nat.two_pow_add_eq_or_of_lt htoken, Nat.or_comm, ← Nat.two_pow_add_eq_or_of_lt hlow,
    Nat.mul_comm (2 ^ 72), Nat.mul_comm (2 ^ 32)]

end HermezRollup
