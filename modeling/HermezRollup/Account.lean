import HermezRollup.Fallible
import HermezRollup.Types

/-! Accounts (`common/account.go`).  An account is stored as 128 bytes, four field elements, and its leaf
in the state tree is their hash.  The index is not part of the leaf; whoever reads an account back knows
it and fills it in. -/

namespace HermezRollup

open Bytes Fallible

structure Account where
  idx : Nat := 0
  tokenID : TokenID
  bjj : PublicKeyComp
  ethAddr : Address
  nonce : Nat := 0
  balance : Int := 0
  deriving DecidableEq, Repr

namespace Account

/-- `Bytes`: key sign, nonce and token in the first 32 bytes, then balance, key coordinate and address.
A negative balance would lose its sign. -/
def bytes (a : Account) : Except Err Bytes :=
  if a.nonce > maxNonceValue then .error .nonceOverflowsType
  else if 2 ^ 192 ≤ a.balance.natAbs then .error .balanceOverflowsType
  else do
    let nonceB ← nonceBytes a.nonce
    return (zeros 22 ++ [if (PublicKeyComp.unpackSignY a.bjj).1 then 1 else 0] ++ nonceB ++ TokenID.bytes a.tokenID) ++
      (zeros 8 ++ bytesBE 24 a.balance.natAbs) ++ bytesBE 32 (PublicKeyComp.unpackSignY a.bjj).2 ++
      (zeros 12 ++ Address.bytes a.ethAddr)

def bigInts (a : Account) : Except Err (List Nat) := do
  let b ← a.bytes
  return [natOfBytesBE (slice b 0 32), natOfBytesBE (slice b 32 64), natOfBytesBE (slice b 64 96),
    natOfBytesBE (slice b 96 128)]

/-- `HashValue`: the value of the leaf of an account. -/
def hashValue [Libraries] (a : Account) : Except Err Nat :=
  a.bigInts >>= poseidonHash

end Account

/-- `AccountFromBytes`. -/
def accountFromBytes (b : Bytes) : Except Err Account := do
  let tokenID ← tokenIDFromBytes (slice b 28 32)
  let balance := natOfBytesBE (slice b 40 64)
  let ay := natOfBytesBE (slice b 64 96)
  if slice b 32 40 ≠ zeros 8 then .error .balanceOverflowsType
  else if rollupConstRfield ≤ balance ∨ rollupConstRfield ≤ ay then .error .notInFF
  else .ok { tokenID, nonce := natOfBytesBE (slice b 23 28), balance
             bjj := packSignY ((slice b 22 23).headD 0 = 1) ay, ethAddr := bytesToAddress (slice b 108 128) }

namespace Account

/-- What an account must satisfy to have a leaf. -/
structure Encodable (a : Account) : Prop where
  nonce_le : a.nonce ≤ maxNonceValue
  balance_lt : a.balance.natAbs < 2 ^ 192
  ay_lt : (PublicKeyComp.unpackSignY a.bjj).2 < rollupConstRfield

instance (a : Account) : Decidable a.Encodable :=
  decidable_of_iff (a.nonce ≤ maxNonceValue ∧ a.balance.natAbs < 2 ^ 192 ∧
    (PublicKeyComp.unpackSignY a.bjj).2 < rollupConstRfield)
    ⟨fun ⟨hnonce, hbalance, hay⟩ => ⟨hnonce, hbalance, hay⟩, fun h => ⟨h.nonce_le, h.balance_lt, h.ay_lt⟩⟩

end Account

/-- An account that has a leaf, as it lies in the database. -/
structure StoredAccount where
  tokenID : TokenID
  bjj : PublicKeyComp
  ethAddr : Address
  nonce : Nat
  balance : Nat
  nonce_le : nonce ≤ maxNonceValue
  balance_lt : balance < 2 ^ 192
  ay_lt : (PublicKeyComp.unpackSignY bjj).2 < rollupConstRfield
  deriving DecidableEq

/-- A stored account read back at a known index. -/
def StoredAccount.account (a : StoredAccount) (idx : Nat) : Account :=
  { idx, tokenID := a.tokenID, bjj := a.bjj, ethAddr := a.ethAddr, nonce := a.nonce, balance := a.balance }

namespace Account

/-- What is stored of an account; its index is not, nor the sign of its balance. -/
def store (a : Account) (h : a.Encodable) : StoredAccount :=
  { tokenID := a.tokenID, bjj := a.bjj, ethAddr := a.ethAddr, nonce := a.nonce, balance := a.balance.natAbs
    nonce_le := h.nonce_le, balance_lt := h.balance_lt, ay_lt := h.ay_lt }

def elements (a : Account) : List Nat :=
  [(if (PublicKeyComp.unpackSignY a.bjj).1 then 1 else 0) * 2 ^ 72 + (a.nonce * 2 ^ 32 + a.tokenID.toNat),
    a.balance.natAbs, (PublicKeyComp.unpackSignY a.bjj).2, a.ethAddr.toNat]

def leafValue [Libraries] (a : Account) : Nat :=
  Libraries.poseidon a.elements

variable {a : Account}

theorem length_tokenID_bytes (tokenID : TokenID) : (TokenID.bytes tokenID).length = 4 :=
  length_bytesBE 4 _

theorem length_address_bytes (addr : Address) : (Address.bytes addr).length = 20 :=
  length_bytesBE 20 _

theorem bytes_of_bounds (hnonce : a.nonce ≤ maxNonceValue) (hbalance : a.balance.natAbs < 2 ^ 192) :
    ∃ b, a.bytes = .ok b ∧
      slice b 0 32 = zeros 22 ++ [if (PublicKeyComp.unpackSignY a.bjj).1 then 1 else 0] ++ bytesBE 5 a.nonce ++
        TokenID.bytes a.tokenID ∧
      slice b 32 64 = zeros 8 ++ bytesBE 24 a.balance.natAbs ∧
      slice b 64 96 = bytesBE 32 (PublicKeyComp.unpackSignY a.bjj).2 ∧
      slice b 96 128 = zeros 12 ++ Address.bytes a.ethAddr := by
  rw [bytes, if_neg (by omega), if_neg (by omega), nonceBytes_of_le hnonce, except_ok_bind]
  refine ⟨_, rfl, ?_, ?_, ?_, ?_⟩
  · simp (disch := simp [length_tokenID_bytes]) only [slice_append_left]
    exact slice_all (by simp [length_tokenID_bytes])
  all_goals
    simp (disch := simp [length_tokenID_bytes, length_address_bytes]) only [slice_append_left, slice_append_end]

theorem bounds_of_bytes {b : Bytes} (h : a.bytes = .ok b) :
    a.nonce ≤ maxNonceValue ∧ a.balance.natAbs < 2 ^ 192 := by
  rw [bytes] at h
  by_cases hnonce : a.nonce > maxNonceValue
  · rw [if_pos hnonce] at h
    cases h
  by_cases hbalance : 2 ^ 192 ≤ a.balance.natAbs
  · rw [if_neg hnonce, if_pos hbalance] at h
    cases h
  exact ⟨by omega, by omega⟩

theorem bigInts_of_bounds (hnonce : a.nonce ≤ maxNonceValue) (hbalance : a.balance.natAbs < 2 ^ 192) :
    a.bigInts = .ok a.elements := by
  obtain ⟨b, hb, hfirst, hsecond, hthird, hfourth⟩ := bytes_of_bounds hnonce hbalance
  have haddr : a.ethAddr.toNat < 256 ^ 20 := a.ethAddr.isLt
  have htoken : a.tokenID.toNat < 256 ^ 4 := a.tokenID.isLt
  have hay : (PublicKeyComp.unpackSignY a.bjj).2 < 256 ^ 32 :=
    Nat.lt_of_lt_of_le (Nat.mod_lt _ (by positivity)) (by norm_num)
  have hsign : ∀ sign : Bool, (if sign then 1 else 0 : UInt8).toNat = if sign then 1 else 0 := by decide
  rw [bigInts, hb, except_ok_bind, hfirst, hsecond, hthird, hfourth, elements, except_pure]
  rw [TokenID.bytes, Address.bytes]
  simp only [natOfBytesBE_append, natOfBytesBE_zeros, length_bytesBE, natOfBytesBE_cons, natOfBytesBE_nil,
    List.length_nil, pow_zero, Nat.mul_one, Nat.add_zero, Nat.zero_mul, Nat.zero_add, hsign,
    natOfBytesBE_bytesBE_of_lt haddr, natOfBytesBE_bytesBE_of_lt htoken, natOfBytesBE_bytesBE_of_lt hay,
    natOfBytesBE_bytesBE_of_lt (show a.balance.natAbs < 256 ^ 24 by omega),
    natOfBytesBE_bytesBE_of_lt (show a.nonce < 256 ^ 5 by unfold maxNonceValue at hnonce; omega)]
  cases (PublicKeyComp.unpackSignY a.bjj).1 with
  | false => norm_num
  | true => norm_num; omega

theorem elements_lt (h : a.Encodable) : a.elements.all (· < rollupConstRfield) = true := by
  have hbig : 2 ^ 192 < rollupConstRfield := by norm_num [rollupConstRfield]
  have hbalance := h.balance_lt
  have hnonce := h.nonce_le
  have hay := h.ay_lt
  have htoken := a.tokenID.isLt
  have haddr := a.ethAddr.isLt
  have hfirst : (if (PublicKeyComp.unpackSignY a.bjj).1 then 1 else 0) * 2 ^ 72 + (a.nonce * 2 ^ 32 + a.tokenID.toNat) <
      2 ^ 192 := by
    unfold maxNonceValue at hnonce
    split <;> omega
  simp only [elements, List.all_cons, List.all_nil, Bool.and_true, Bool.and_eq_true, decide_eq_true_eq]
  exact ⟨by omega, by omega, hay, by omega⟩

/-- An account has a leaf exactly when it is encodable; the leaf is the hash of its elements. -/
theorem hashValue_ok [Libraries] (h : a.Encodable) : a.hashValue = .ok a.leafValue := by
  rw [hashValue, bigInts_of_bounds h.nonce_le h.balance_lt, except_ok_bind, poseidonHash, if_pos (elements_lt h),
    leafValue]

theorem encodable_of_hashValue [Libraries] {v : Nat} (h : a.hashValue = .ok v) : a.Encodable := by
  obtain ⟨elems, helems, hhash⟩ := except_bind_ok.mp h
  obtain ⟨b, hb, -⟩ := except_bind_ok.mp helems
  obtain ⟨hnonce, hbalance⟩ := bounds_of_bytes hb
  rw [bigInts_of_bounds hnonce hbalance] at helems
  cases helems
  rw [poseidonHash] at hhash
  split at hhash
  next hall =>
    simp only [elements, List.all_cons, List.all_nil, Bool.and_true, Bool.and_eq_true, decide_eq_true_eq] at hall
    exact ⟨hnonce, hbalance, hall.2.2.1⟩
  next => cases hhash

/-- **Round trip**: the bytes of an encodable account give back what is stored of it. -/
theorem accountFromBytes_bytes (h : a.Encodable) :
    ∃ b, a.bytes = .ok b ∧ accountFromBytes b = .ok ((a.store h).account 0) := by
  obtain ⟨b, hb, hfirst, hsecond, hthird, hfourth⟩ := bytes_of_bounds h.nonce_le h.balance_lt
  refine ⟨b, hb, ?_⟩
  have htoken : slice b 28 32 = TokenID.bytes a.tokenID := by
    rw [← slice_slice b 0 32 28 32 (le_refl _), hfirst, slice_append_end _ _ (by simp) (by simp [length_tokenID_bytes])]
  have hnonce : slice b 23 28 = bytesBE 5 a.nonce := by
    rw [← slice_slice b 0 32 23 28 (by omega), hfirst, slice_append_left _ _ _ _ (by simp),
      slice_append_end _ _ (by simp) (by simp)]
  have hsign : slice b 22 23 = [if (PublicKeyComp.unpackSignY a.bjj).1 then 1 else 0] := by
    rw [← slice_slice b 0 32 22 23 (by omega), hfirst, slice_append_left _ _ _ _ (by simp),
      slice_append_left _ _ _ _ (by simp), slice_append_end _ _ (by simp) (by simp)]
  have hhigh : slice b 32 40 = zeros 8 := by
    rw [← slice_slice b 32 64 0 8 (by omega), hsecond, slice_append_left _ _ _ _ (by simp), slice_all (by simp)]
  have hbalance : slice b 40 64 = bytesBE 24 a.balance.natAbs := by
    rw [← slice_slice b 32 64 8 32 (le_refl _), hsecond, slice_append_end _ _ (by simp) (by simp)]
  have haddr : slice b 108 128 = Address.bytes a.ethAddr := by
    rw [← slice_slice b 96 128 12 32 (le_refl _), hfourth,
      slice_append_end _ _ (by simp) (by simp [length_address_bytes])]
  have hsignBit : ∀ sign : Bool, decide ((if sign then 1 else 0 : UInt8) = 1) = sign := by decide
  have hay : (PublicKeyComp.unpackSignY a.bjj).2 < 256 ^ 32 :=
    Nat.lt_of_lt_of_le (Nat.mod_lt _ (by positivity)) (by norm_num)
  have hbalanceLt := h.balance_lt
  have hnonceLe := h.nonce_le
  have hbig : 2 ^ 192 < rollupConstRfield := by norm_num [rollupConstRfield]
  rw [accountFromBytes, htoken, tokenIDFromBytes_bytes, except_ok_bind, hhigh, if_neg (by simp), hbalance, hthird, hnonce,
    hsign, haddr, bytesToAddress_bytes, natOfBytesBE_bytesBE_of_lt hay,
    natOfBytesBE_bytesBE_of_lt (show a.balance.natAbs < 256 ^ 24 by omega),
    natOfBytesBE_bytesBE_of_lt (show a.nonce < 256 ^ 5 by unfold maxNonceValue at hnonceLe; omega),
    if_neg (by have := h.ay_lt; omega), List.headD_cons, hsignBit, packSignY_unpackSignY]
  rfl

end Account

end HermezRollup
