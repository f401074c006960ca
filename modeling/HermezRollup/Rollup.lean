import HermezRollup.ProcessTxs
import HermezRollup.Simulation

/-! What a batch does, without the bookkeeping of the processor.  The state is the database, the tree of
the exits of the batch and the fees that each coordinator account is owed; a transaction is a partial
function on it.  There are no modes, no inputs of the circuit, no messages, and no account is carried in
hand from one step to the next: a transfer takes from one account and gives to another. -/

namespace HermezRollup

open Bytes Fallible Simulation Spec

/-- The state that a batch changes. -/
structure Rollup extends Store where
  exits : Option AccountTree
  fees : Nat → Int

abbrev RollupM := Spec Rollup

namespace Rollup

def account (idx : Nat) : RollupM Account :=
  reads fun r => (r.getAccount idx).toOption

/-- The fee of a transaction goes to the coordinator account of its token, if there is one. -/
def owe (coordIdxsMap : CoordIdxsMap) (tokenID : TokenID) (fee : Int) : RollupM Unit :=
  match coordIdxsMap.lookup tokenID with
  | none => pure ()
  | some coordIdx => updates fun r => (r.getAccount coordIdx).toOption.map fun _ =>
    { r with fees := Function.update r.fees coordIdx (r.fees coordIdx + fee) }

section

variable [Libraries]

def put (idx : Nat) (acc : Account) : RollupM Unit :=
  updates fun r => (r.updateAccount idx acc).toOption.map fun store => { r with toStore := store }

/-- Add to the balance of an account. -/
def give (idx : Nat) (amount : Int) : RollupM Unit := do
  let acc ← account idx
  put idx { acc with balance := acc.balance + amount }

def take (idx : Nat) (amount : Int) : RollupM Account := do
  let acc ← account idx
  demand (0 ≤ acc.balance - amount)
  put idx { acc with balance := acc.balance - amount }
  return { acc with balance := acc.balance - amount }

/-- Take the amount and the fee of an L2 transaction, and count the transaction. -/
def pay (coordIdxsMap : CoordIdxsMap) (idx : Nat) (amount : Int) (feeSel : FeeSelector) : RollupM Account := do
  let acc ← account idx
  let fee ← reads fun _ => (calcFeeAmount amount feeSel).toOption
  demand (0 ≤ acc.balance - (amount + fee))
  owe coordIdxsMap acc.tokenID fee
  put idx { acc with balance := acc.balance - (amount + fee), nonce := acc.nonce + 1 }
  return { acc with balance := acc.balance - (amount + fee), nonce := acc.nonce + 1 }

/-- A new account at the next index, which is not yet the current one. -/
def openAccount (acc : Account) : RollupM Unit :=
  updates fun r => (r.createAccount (r.currentIdx + 1) acc).toOption.map fun store => { r with toStore := store }

def advance : RollupM Unit :=
  updates fun r => (r.setCurrentIdx (r.currentIdx + 1)).toOption.map fun store => { r with toStore := store }

/-- Leave an exit in the tree of the batch, unless its amount was zero from the start. -/
def leave (idx : Nat) (acc : Account) (amount originalAmount : Int) : RollupM ExitOut := fun r =>
  match r.exits with
  | none => some ({ exitIdx := some idx }, r)
  | some tree =>
    if originalAmount = 0 then some ({ exitIdx := some idx }, r)
    else (exitLeaf tree idx acc amount).toOption.map fun out => (out.2, { r with exits := some out.1 })

def newAccount (tx : L1Tx) (balance : Int) : Account :=
  { tokenID := tx.tokenID, nonce := 0, balance, bjj := tx.fromBJJ, ethAddr := tx.fromEthAddr }

def applyL1 (tx : L1Tx) (amount depositAmount : Int) : RollupM ExitOut :=
  match tx.type with
  | some .forceTransfer => do
    let _ ← take tx.fromIdx amount
    give tx.toIdx amount
    return {}
  | some .createAccountDeposit => do
    openAccount (newAccount tx depositAmount)
    advance
    return {}
  | some .deposit => do
    let _ ← take tx.fromIdx (amount - depositAmount)
    return {}
  | some .depositTransfer => do
    let _ ← take tx.fromIdx (amount - depositAmount)
    give tx.toIdx amount
    return {}
  | some .createAccountDepositTransfer => do
    demand (0 ≤ depositAmount - amount)
    openAccount (newAccount tx (depositAmount - amount))
    give tx.toIdx amount
    advance
    return {}
  | some .forceExit => do
    let acc ← take tx.fromIdx amount
    leave tx.fromIdx acc amount tx.amount
  | _ => return {}

/-- The types of L1 transactions that the processor knows. -/
def knownL1Type (type : Option TxType) : Bool :=
  type = some .forceTransfer || type = some .createAccountDeposit || type = some .deposit ||
    type = some .depositTransfer || type = some .createAccountDepositTransfer || type = some .forceExit

theorem applyL1_of_unknown {tx : L1Tx} (h : knownL1Type tx.type = false) (amount depositAmount : Int) :
    applyL1 tx amount depositAmount = pure {} := by
  rw [applyL1]
  split <;> simp_all [knownL1Type]

/-- A transaction with its effective amounts, if the processor computes them. -/
def effectiveTx (store : Store) (tx : L1Tx) : L1Tx :=
  if knownL1Type tx.type then computeEffectiveAmounts store tx else tx

/-- An L1 transaction, which is returned with its effective amounts. -/
def l1Tx (tx : L1Tx) : RollupM (L1Tx × ExitOut) := do
  let store := (← get).toStore
  let exit ← applyL1 tx (effectiveAmounts store tx).1 (effectiveAmounts store tx).2
  return (effectiveTx store tx, exit)

def receiver (tx : PoolL2Tx) : Nat :=
  if tx.auxToIdx = 0 then tx.toIdx else tx.auxToIdx

def isTransfer (type : Option TxType) : Bool :=
  type = some .transfer || type = some .transferToEthAddr || type = some .transferToBJJ

/-- An L2 transaction whose receiver is known. -/
def l2Tx (coordIdxsMap : CoordIdxsMap) (tx : PoolL2Tx) : RollupM ExitOut :=
  if isTransfer tx.type then do
    let _ ← pay coordIdxsMap tx.fromIdx tx.amount tx.fee
    give (receiver tx) tx.amount
    return {}
  else if tx.type = some .exit then do
    let acc ← pay coordIdxsMap tx.fromIdx tx.amount tx.fee
    leave tx.fromIdx acc tx.amount tx.amount
  else return {}

def payFee (idx : Nat) : RollupM Unit := do
  give idx ((← get).fees idx)

/-- The state at the start of a batch: the selector keeps no exits. -/
def start (state : StateDB) : Rollup :=
  { toStore := state.toStore, exits := if TxProcessor.keepsExits state.typ then some ∅ else none, fees := fun _ => 0 }

/-- What the transactions of a batch return: the L1 transactions with their effective amounts, and what
is known about each exit. -/
structure BatchOut where
  users : List (L1Tx × ExitOut)
  coordinators : List (L1Tx × ExitOut)
  coordIdxs : List Nat
  coordIdxsMap : CoordIdxsMap
  exits : List ExitOut

/-- The L2 part of a batch: the transactions, then the fees. -/
def l2Part (coordIdxs : List Nat) (coordIdxsMap : CoordIdxsMap) (l2Txs : List PoolL2Tx) : RollupM (List ExitOut) := do
  updates fun r => some { r with fees := fun _ => 0 }
  let exits ← forEach (l2Tx coordIdxsMap) l2Txs
  let _ ← forEach payFee coordIdxs
  return exits

/-- A batch: the transactions of users, those of the coordinator, the L2 transactions and the fees, which
go to the first coordinator account of each token. -/
def batch (coordIdxs : List Nat) (l1UserTxs l1CoordinatorTxs : List L1Tx) (l2Txs : List PoolL2Tx) :
    RollupM BatchOut := do
  let users ← forEach l1Tx l1UserTxs
  let coordinators ← forEach l1Tx l1CoordinatorTxs
  let coordIdxs ← reads fun r => (TxProcessor.filterCoordIdxs r.toStore coordIdxs []).toOption
  let coordIdxsMap ← reads fun r => (r.getTokenIDsFromIdxs coordIdxs).toOption
  let exits ← l2Part coordIdxs coordIdxsMap l2Txs
  return { users, coordinators, coordIdxs, coordIdxsMap, exits }

end

section Steps

variable {r r' : Rollup} {idx : Nat} {acc : Account} {amount : Int} {u : Unit}

theorem account_some : account idx r = some (acc, r') ↔ r.getAccount idx = .ok acc ∧ r' = r := by
  rw [account, reads_some, toOption_some]

theorem owe_some {coordIdxsMap : CoordIdxsMap} {tokenID : TokenID} {fee : Int} :
    owe coordIdxsMap tokenID fee r = some (u, r') ↔
      (coordIdxsMap.lookup tokenID = none ∧ r' = r) ∨
      ∃ coordIdx acc, coordIdxsMap.lookup tokenID = some coordIdx ∧ r.getAccount coordIdx = .ok acc ∧
        r' = { r with fees := Function.update r.fees coordIdx (r.fees coordIdx + fee) } := by
  rw [owe]
  cases coordIdxsMap.lookup tokenID with
  | none => simp [eq_comm]
  | some coordIdx =>
    simp only [updates_some, Option.map_eq_some_iff, toOption_some]
    grind

theorem advance_some :
    advance r = some (u, r') ↔ r.currentIdx + 1 ≤ maxIdxValue ∧ r' = { r with currentIdx := r.currentIdx + 1 } := by
  simp only [advance, updates_some, Option.map_eq_some_iff, toOption_some, Store.setCurrentIdx_ok]
  constructor
  · rintro ⟨store, ⟨hidx, rfl⟩, rfl⟩
    exact ⟨hidx, rfl⟩
  · rintro ⟨hidx, rfl⟩
    exact ⟨_, ⟨hidx, rfl⟩, rfl⟩

variable [Libraries]

theorem l1Tx_some {tx : L1Tx} {out : L1Tx × ExitOut} :
    l1Tx tx r = some (out, r') ↔
      applyL1 tx (effectiveAmounts r.toStore tx).1 (effectiveAmounts r.toStore tx).2 r = some (out.2, r') ∧
        out.1 = effectiveTx r.toStore tx := by
  rw [l1Tx, bind_of_some (get_run r), bind_some]
  constructor
  · rintro ⟨exit, _, happly, hret⟩
    cases hret
    exact ⟨happly, rfl⟩
  · rintro ⟨happly, htx⟩
    exact ⟨out.2, r', happly, by rw [← htx]; rfl⟩

theorem put_some :
    put idx acc r = some (u, r') ↔ idx ≤ maxIdxValue ∧ ∃ h : acc.Encodable,
      r' = { r with accounts := r.accounts.insert idx (acc.store h) } := by
  simp only [put, updates_some, Option.map_eq_some_iff, toOption_some, Store.updateAccount_ok]
  constructor
  · rintro ⟨store, ⟨hidx, h, rfl⟩, rfl⟩
    exact ⟨hidx, h, rfl⟩
  · rintro ⟨hidx, h, rfl⟩
    exact ⟨_, ⟨hidx, h, rfl⟩, rfl⟩

theorem openAccount_some (h : openAccount acc r = some (u, r')) :
    ∃ store, r.createAccount (r.currentIdx + 1) acc = .ok store ∧ r' = { r with toStore := store } := by
  simp only [openAccount, updates_some, Option.map_eq_some_iff, toOption_some] at h
  obtain ⟨store, hcreate, rfl⟩ := h
  exact ⟨store, hcreate, rfl⟩

theorem give_some :
    give idx amount r = some (u, r') ↔ ∃ acc, r.getAccount idx = .ok acc ∧
      ∃ h : ({ acc with balance := acc.balance + amount } : Account).Encodable,
        r' = { r with accounts := r.accounts.insert idx (Account.store _ h) } := by
  simp only [give, bind_some, account_some, put_some]
  constructor
  · rintro ⟨acc, _, ⟨hget, rfl⟩, -, h, rfl⟩
    exact ⟨acc, hget, h, rfl⟩
  · rintro ⟨acc, hget, h, rfl⟩
    exact ⟨acc, r, ⟨hget, rfl⟩, (getAccountInTreeDB_ok.mp hget).1, h, rfl⟩

theorem batch_some {coordIdxs : List Nat} {l1UserTxs l1CoordinatorTxs : List L1Tx} {l2Txs : List PoolL2Tx}
    {out : BatchOut} :
    batch coordIdxs l1UserTxs l1CoordinatorTxs l2Txs r = some (out, r') ↔
      ∃ r₁ r₂ r₃ us, forEach l1Tx l1UserTxs r = some (out.users, r₁) ∧
        forEach l1Tx l1CoordinatorTxs r₁ = some (out.coordinators, r₂) ∧
        TxProcessor.filterCoordIdxs r₂.toStore coordIdxs [] = .ok out.coordIdxs ∧
        r₂.getTokenIDsFromIdxs out.coordIdxs = .ok out.coordIdxsMap ∧
        forEach (l2Tx out.coordIdxsMap) l2Txs { r₂ with fees := fun _ => 0 } = some (out.exits, r₃) ∧
        forEach payFee out.coordIdxs r₃ = some (us, r') := by
  constructor
  · intro h
    obtain ⟨users, r₁, husers, h₁⟩ := bind_some.mp h
    obtain ⟨coordinators, r₂, hcoordinators, h₂⟩ := bind_some.mp h₁
    obtain ⟨idxs, _, hidxs, h₃⟩ := bind_some.mp h₂
    obtain ⟨map, _, hmap, h₄⟩ := bind_some.mp h₃
    obtain ⟨exits, r₃, hl2, hret⟩ := bind_some.mp h₄
    cases hret
    obtain ⟨hidxs, rfl⟩ := reads_some.mp hidxs
    obtain ⟨hmap, rfl⟩ := reads_some.mp hmap
    obtain ⟨_, r₄, hstart, h₅⟩ := bind_some.mp hl2
    cases updates_some.mp hstart
    obtain ⟨_, r₅, htxs, h₆⟩ := bind_some.mp h₅
    obtain ⟨us, _, hfees, hret⟩ := bind_some.mp h₆
    cases hret
    exact ⟨r₁, _, r₅, us, husers, hcoordinators, toOption_some.mp hidxs, toOption_some.mp hmap, htxs, hfees⟩
  · rintro ⟨r₁, r₂, r₃, us, husers, hcoordinators, hidxs, hmap, htxs, hfees⟩
    have hl2 : l2Part out.coordIdxs out.coordIdxsMap l2Txs r₂ = some (out.exits, r') :=
      bind_some.mpr ⟨(), _, updates_some.mpr rfl, bind_some.mpr ⟨out.exits, r₃, htxs, bind_some.mpr ⟨us, r', hfees, rfl⟩⟩⟩
    exact bind_some.mpr ⟨out.users, r₁, husers, bind_some.mpr ⟨out.coordinators, r₂, hcoordinators,
      bind_some.mpr ⟨out.coordIdxs, r₂, reads_some.mpr ⟨toOption_some.mpr hidxs, rfl⟩,
        bind_some.mpr ⟨out.coordIdxsMap, r₂, reads_some.mpr ⟨toOption_some.mpr hmap, rfl⟩,
          bind_some.mpr ⟨out.exits, r', hl2, rfl⟩⟩⟩⟩⟩

theorem currentIdx_openAccount (h : openAccount acc r = some (u, r')) : r'.currentIdx = r.currentIdx := by
  obtain ⟨store, hcreate, rfl⟩ := openAccount_some h
  obtain ⟨-, -, _, _, _, rfl⟩ := Store.createAccount_ok hcreate
  rfl

end Steps

end Rollup

end HermezRollup
