import HermezRollup.Pipeline

/-! The life of a transaction in the pool (`db/l2db/l2db.go`): what a batch does to the transactions that it does not
take, and the invariants of the table `tx_pool` under every sequence of calls. -/

namespace HermezRollup

open Fallible WorkM

/-! ### After a batch is built -/

/-- What `forgeBatch` does to the pool with the transactions it selected and those it discarded. -/
def Pool.mark (pool : Pool) (l2Txs discardedL2Txs : List PoolL2Tx) (batchNum : Nat) : Pool :=
  ((pool.startForging (l2Txs.map (·.txID)) batchNum).updateTxsInfo discardedL2Txs batchNum).invalidateOldNonces
    (idxsNonceFromPoolL2Txs l2Txs) batchNum

theorem lt_foldl_max {n : Nat} (l : List Nat) (start : Nat) : n < l.foldl max start ↔ n < start ∨ ∃ x ∈ l, n < x := by
  induction l generalizing start with
  | nil => simp
  | cons x l ih =>
    rw [List.foldl_cons, ih]
    simp only [List.mem_cons, exists_eq_or_imp, lt_max_iff]
    exact or_assoc

theorem any_idxsNonce (txs : List PoolL2Tx) (fromIdx nonce : Nat) :
    ((idxsNonceFromPoolL2Txs txs).any fun (idx, last) => fromIdx = idx ∧ nonce < last) = true ↔
      ∃ tx ∈ txs, tx.fromIdx = fromIdx ∧ nonce < tx.nonce := by
  simp only [idxsNonceFromPoolL2Txs, List.any_eq_true, List.mem_map, List.mem_dedup, decide_eq_true_eq, Prod.exists,
    Prod.mk.injEq]
  constructor
  · rintro ⟨_, _, ⟨idx, -, rfl, rfl⟩, rfl, hlt⟩
    rw [lt_foldl_max] at hlt
    obtain hlt | ⟨x, hx, hlt⟩ := hlt
    · omega
    · obtain ⟨tx, htx, rfl⟩ := List.mem_map.mp hx
      obtain ⟨htx, hidx⟩ := List.mem_filter.mp htx
      exact ⟨tx, htx, of_decide_eq_true hidx, hlt⟩
  · rintro ⟨tx, htx, rfl, hlt⟩
    refine ⟨_, _, ⟨tx.fromIdx, ⟨tx, htx, rfl⟩, rfl, rfl⟩, rfl, ?_⟩
    rw [lt_foldl_max]
    exact .inr ⟨tx.nonce, List.mem_map.mpr ⟨tx, List.mem_filter.mpr ⟨htx, decide_eq_true rfl⟩, rfl⟩, hlt⟩

section

variable {pool : Pool} {batchNum : Nat} {P : Nat → Nat → Prop}

theorem forall_pending_startForging {txIDs : List Bytes} :
    (∀ row ∈ pool.startForging txIDs batchNum, row.state = .pending → P row.fromIdx row.nonce) ↔
      ∀ row ∈ pool, row.state = .pending → row.txID ∉ txIDs → P row.fromIdx row.nonce := by
  rw [Pool.startForging, List.forall_mem_map]
  refine forall₂_congr fun row _ => ?_
  split
  case isTrue hselected => simp [hselected.2]
  case isFalse hother => exact forall_congr' fun hpending => by simp [not_and.mp hother hpending]

theorem forall_pending_updateTxsInfo {txs : List PoolL2Tx} :
    (∀ row ∈ pool.updateTxsInfo txs batchNum, row.state = .pending → P row.fromIdx row.nonce) ↔
      ∀ row ∈ pool, row.state = .pending → P row.fromIdx row.nonce := by
  rw [Pool.updateTxsInfo, List.forall_mem_map]
  refine forall₂_congr fun row _ => ?_
  split <;> rfl

theorem forall_pending_invalidateOldNonces {l2Txs : List PoolL2Tx} :
    (∀ row ∈ pool.invalidateOldNonces (idxsNonceFromPoolL2Txs l2Txs) batchNum, row.state = .pending →
        P row.fromIdx row.nonce) ↔
      ∀ row ∈ pool, row.state = .pending → (¬∃ tx ∈ l2Txs, tx.fromIdx = row.fromIdx ∧ row.nonce < tx.nonce) →
        P row.fromIdx row.nonce := by
  rw [Pool.invalidateOldNonces, List.forall_mem_map]
  refine forall₂_congr fun row _ => ?_
  simp only [any_idxsNonce]
  split
  case isTrue hold => simp [hold.2]
  case isFalse hother => exact forall_congr' fun hpending => by simp [not_and.mp hother hpending]

end

/-- No pending transaction of the pool, beside the selected ones, has the last selected nonce of its sender. -/
def NoRival (pool : Pool) (l2Txs : List PoolL2Tx) : Prop :=
  ∀ row ∈ pool, row.state = .pending → row.txID ∉ l2Txs.map (·.txID) →
    ∀ tx ∈ l2Txs, tx.fromIdx = row.fromIdx → tx.nonce = row.nonce →
      ∃ later ∈ l2Txs, later.fromIdx = row.fromIdx ∧ row.nonce < later.nonce

/-- **After a batch is built no transaction stays pending behind a selected one** exactly when none of them shares the
last selected nonce of its sender. -/
theorem mark_conflicts (pool : Pool) (l2Txs discardedL2Txs : List PoolL2Tx) (batchNum : Nat) :
    (∀ row ∈ pool.mark l2Txs discardedL2Txs batchNum, row.state = .pending →
      ∀ tx ∈ l2Txs, row.fromIdx = tx.fromIdx → ¬row.nonce ≤ tx.nonce) ↔ NoRival pool l2Txs := by
  rw [Pool.mark, forall_pending_invalidateOldNonces (P := fun idx nonce => ∀ tx ∈ l2Txs, idx = tx.fromIdx → ¬nonce ≤ tx.nonce),
    forall_pending_updateTxsInfo (P := fun idx nonce => (¬∃ tx ∈ l2Txs, tx.fromIdx = idx ∧ nonce < tx.nonce) →
      ∀ tx ∈ l2Txs, idx = tx.fromIdx → ¬nonce ≤ tx.nonce),
    forall_pending_startForging (P := fun idx nonce => (¬∃ tx ∈ l2Txs, tx.fromIdx = idx ∧ nonce < tx.nonce) →
      ∀ tx ∈ l2Txs, idx = tx.fromIdx → ¬nonce ≤ tx.nonce)]
  refine forall₂_congr fun row _ => forall₂_congr fun _ _ => ?_
  constructor
  · intro hahead tx htx hidx hnonce
    by_contra hlast
    exact hahead hlast tx htx hidx.symm hnonce.ge
  · intro hrival hlast tx htx hidx hle
    have hge : tx.nonce ≤ row.nonce := Nat.le_of_not_lt fun hlt => hlast ⟨tx, htx, hidx.symm, hlt⟩
    exact hlast (hrival tx htx hidx.symm (Nat.le_antisymm hge hle))

/-- A pending transaction of the pool from account 256 with nonce 0. -/
def samplePending (txID : Bytes) (amount : Int) : PoolEntry where
  txID := txID
  fromIdx := 256
  toIdx := 257
  toEthAddr := none
  toBJJ := none
  tokenID := 0
  amount := amount
  fee := 0
  nonce := 0
  state := .pending
  signature := 0
  rqFromIdx := none
  rqToIdx := none
  rqToEthAddr := none
  rqToBJJ := none
  rqTokenID := none
  rqAmount := none
  rqFee := none
  rqNonce := none
  type := "Transfer"
  rqOffset := none
  atomicGroupID := none
  maxNumBatch := none

/-- Of two pending transfers with the same nonce one is forged, and the other stays pending. -/
theorem mark_conflicts_sameNonce :
    let l2Txs := [(samplePending [2, 1] 1).poolL2Tx]
    ∃ row ∈ Pool.mark [samplePending [2, 1] 1, samplePending [2, 2] 2] l2Txs [] 1,
      row.state = .pending ∧ ∃ tx ∈ l2Txs, row.fromIdx = tx.fromIdx ∧ row.nonce ≤ tx.nonce := by
  decide

/-! ### The table under every sequence of calls -/

def ReceivedTx.entry (tx : ReceivedTx) : PoolEntry :=
  { tx.row with }

/-- What is set when a transaction is submitted and signed. -/
structure PoolEntry.SameTerms (row row' : PoolEntry) : Prop where
  txID : row'.txID = row.txID
  toIdx : row'.toIdx = row.toIdx
  toEthAddr : row'.toEthAddr = row.toEthAddr
  toBJJ : row'.toBJJ = row.toBJJ
  amount : row'.amount = row.amount
  fee : row'.fee = row.fee
  maxNumBatch : row'.maxNumBatch = row.maxNumBatch
  signature : row'.signature = row.signature

/-- The transaction is in a batch. -/
def PoolEntry.forgingOrForged (row : PoolEntry) : Prop :=
  row.state = .forging ∨ row.state = .forged

instance (row : PoolEntry) : Decidable row.forgingOrForged :=
  inferInstanceAs (Decidable (_ ∨ _))

/-- The row after `updateTx`: unlike an insertion it writes zeros, not nulls. -/
def PoolEntry.updatedBy (tx : ReceivedTx) (row : PoolEntry) : PoolEntry :=
  if row.txID = tx.txID ∧ row.atomicGroupID = none then
    { row with toIdx := tx.toIdx, toEthAddr := some tx.toEthAddr, toBJJ := some tx.toBJJ
               maxNumBatch := some tx.maxNumBatch, signature := tx.signature, type := tx.type }
  else row

namespace Pool

/-- The identifier is the primary key of the table. -/
def Keyed (pool : Pool) : Prop :=
  (pool.map (·.txID)).Nodup

instance (pool : Pool) : Decidable pool.Keyed :=
  inferInstanceAs (Decidable (List.Nodup _))

/-- An `INSERT` fails when an identifier is taken. -/
def insert (pool : Pool) (txs : List ReceivedTx) : Except Refusal Pool :=
  if Keyed (pool ++ txs.map ReceivedTx.entry) then .ok (pool ++ txs.map ReceivedTx.entry)
  else .error (.sqlErr "Item already exists")

/-- `addTxs`. -/
def addTxs (maxTxs : Nat) (pool : Pool) (txs : List ReceivedTx) (checkPoolIsFull : Bool) : Except Refusal Pool :=
  if checkPoolIsFull ∧ maxTxs ≤ (pool.filter fun row => row.state = .pending && !row.externalDelete).length then
    .error (.sqlErr "the pool is at full capacity. More transactions are not accepted currently")
  else pool.insert txs

/-- `updateTx`. -/
def updateTx (pool : Pool) (tx : ReceivedTx) : Except Refusal Pool :=
  if tx.toIdx = 0 ∧ tx.toEthAddr = emptyAddr ∧ tx.toBJJ = emptyBJJComp ∧ tx.maxNumBatch = 0 then
    .error (.sqlErr "nothing to update")
  else .ok (pool.map (PoolEntry.updatedBy tx))

/-- The rows that `updateTxByIdxAndNonce` replaces. -/
def replaceable (idx nonce : Nat) (row : PoolEntry) : Bool :=
  row.fromIdx = idx && row.nonce = nonce && (row.state = .pending || row.state = .invalid) &&
    row.atomicGroupID = none && !row.externalDelete

/-- `updateTxByIdxAndNonce`, in one SQL transaction. -/
def updateTxByIdxAndNonce (pool : Pool) (idx nonce : Nat) (tx : ReceivedTx) : Except Refusal Pool :=
  if pool.any (replaceable idx nonce) then
    Pool.insert (pool.filter fun row => !replaceable idx nonce row)
      [{ tx with rqFromIdx := 0 }]
  else .error (.sqlErr "sql: no rows in result set")

/-- `DoneForging`. -/
def doneForging (pool : Pool) (txIDs : List Bytes) (batchNum : Nat) : Pool :=
  pool.map fun row =>
    if row.state = .forging ∧ row.txID ∈ txIDs then { row with state := .forged, batchNum := some batchNum } else row

/-- `InvalidateTxs`. -/
def invalidateTxs (pool : Pool) (txIDs : List Bytes) (batchNum : Nat) : Pool :=
  pool.map fun row => if row.txID ∈ txIDs then { row with state := .invalid, batchNum := some batchNum } else row

/-- `PurgeByExternalDelete`. -/
def purgeByExternalDelete (pool : Pool) : Pool :=
  pool.filter fun row => !(row.externalDelete && row.state = .pending)

/-- An external process sets the column `external_delete`. -/
def setExternalDelete (pool : Pool) (txIDs : List Bytes) : Pool :=
  pool.map fun row => if row.txID ∈ txIDs then { row with externalDelete := true } else row

end Pool

/-- The table with the settings of the L2DB.  The timestamp of a row is kept beside it, by identifier. -/
structure PoolDB where
  maxTxs : Nat
  safetyPeriod : Nat
  ttl : Int
  pool : Pool := []
  timestamp : Bytes → Int := fun _ => 0

/-- Why `Purge` deletes a row: a null is in no relation. -/
def PoolDB.purges (db : PoolDB) (currentBatchNum : Nat) (now : Int) (row : PoolEntry) : Bool :=
  let limit : Int := currentBatchNum - db.safetyPeriod
  row.batchNum.any (fun n : Nat => (n : Int) < limit) && (row.state = .forged || row.state = .invalid) ||
    row.state = .pending && db.timestamp row.txID < now - db.ttl || row.maxNumBatch.any fun n : Nat => (n : Int) < limit

inductive PoolCall where
  | addTxs (txs : List ReceivedTx) (checkPoolIsFull : Bool) (now : Int)
  | updateTx (tx : ReceivedTx)
  | updateTxByIdxAndNonce (idx nonce : Nat) (tx : ReceivedTx) (now : Int)
  | startForging (txIDs : List Bytes) (batchNum : Nat)
  | doneForging (txIDs : List Bytes) (batchNum : Nat)
  | invalidateTxs (txIDs : List Bytes) (batchNum : Nat)
  | invalidateOldNonces (updatedAccounts : List (Nat × Nat)) (batchNum : Nat)
  | reorg (lastValidBatch : Nat)
  | purge (currentBatchNum : Nat) (now : Int)
  | purgeByExternalDelete
  | setExternalDelete (txIDs : List Bytes)

namespace PoolCall

def table (db : PoolDB) : PoolCall → Except Refusal Pool
  | addTxs txs checkPoolIsFull _ => db.pool.addTxs db.maxTxs txs checkPoolIsFull
  | updateTx tx => db.pool.updateTx tx
  | updateTxByIdxAndNonce idx nonce tx _ => db.pool.updateTxByIdxAndNonce idx nonce tx
  | startForging txIDs batchNum => .ok (db.pool.startForging txIDs batchNum)
  | doneForging txIDs batchNum => .ok (db.pool.doneForging txIDs batchNum)
  | invalidateTxs txIDs batchNum => .ok (db.pool.invalidateTxs txIDs batchNum)
  | invalidateOldNonces updatedAccounts batchNum => .ok (db.pool.invalidateOldNonces updatedAccounts batchNum)
  | reorg lastValidBatch => .ok (db.pool.reorg lastValidBatch)
  | purge currentBatchNum now => .ok (db.pool.filter fun row => !db.purges currentBatchNum now row)
  | purgeByExternalDelete => .ok db.pool.purgeByExternalDelete
  | setExternalDelete txIDs => .ok (db.pool.setExternalDelete txIDs)

def inserts : PoolCall → List ReceivedTx × Int
  | addTxs txs _ now => (txs, now)
  | updateTxByIdxAndNonce _ _ tx now => ([tx], now)
  | _ => ([], 0)

def stores (db : PoolDB) : PoolCall → List ReceivedTx
  | addTxs txs _ _ => txs
  | updateTxByIdxAndNonce _ _ tx _ => [tx]
  | updateTx tx => if ∃ row ∈ db.pool, row.txID = tx.txID ∧ row.atomicGroupID = none then [tx] else []
  | _ => []

/-- New transactions are pending, and an update never meets a transaction that is in a batch, nor takes its
`MaxNumBatch` away. -/
def Proper (db : PoolDB) : PoolCall → Prop
  | addTxs txs _ _ => ∀ tx ∈ txs, tx.state = .pending
  | updateTxByIdxAndNonce _ _ tx _ => tx.state = .pending
  | updateTx tx => ∀ row ∈ db.pool, row.txID = tx.txID → row.atomicGroupID = none →
      ¬row.forgingOrForged ∧ tx.maxNumBatch ≠ 0
  | _ => True

end PoolCall

/-- The L2DB, and beside it the `MaxNumBatch` that each transaction was last submitted with. -/
structure PoolRun where
  db : PoolDB
  submitted : Bytes → Nat

/-- The `MaxNumBatch` of the transactions after some were submitted. -/
def lastSubmitted (txs : List ReceivedTx) (submitted : Bytes → Nat) (txID : Bytes) : Nat :=
  match txs.find? (·.txID = txID) with
  | some tx => tx.maxNumBatch
  | none => submitted txID

/-- A call that fails changes nothing. -/
def PoolRun.call (s : PoolRun) (call : PoolCall) : PoolRun :=
  match call.table s.db with
  | .error _ => s
  | .ok pool =>
    { db := { s.db with
        pool := pool
        timestamp := fun txID => if txID ∈ call.inserts.1.map (·.txID) then call.inserts.2 else s.db.timestamp txID }
      submitted := lastSubmitted (call.stores s.db) s.submitted }

/-- The runs of proper calls from an empty table. -/
inductive PoolRun.Reached : PoolRun → Prop
  | start (maxTxs safetyPeriod : Nat) (ttl : Int) (submitted : Bytes → Nat) :
      Reached ⟨{ maxTxs := maxTxs, safetyPeriod := safetyPeriod, ttl := ttl }, submitted⟩
  | call {s : PoolRun} {call : PoolCall} (h : Reached s) (hproper : call.Proper s.db) : Reached (s.call call)

/-- The entry was made from a submitted transaction. -/
structure ReceivedTx.Makes (tx : ReceivedTx) (row : PoolEntry) : Prop where
  txID : row.txID = tx.txID
  state : row.state = tx.state
  batchNum : row.batchNum = none
  maxNumBatch : row.maxNumBatch = if tx.maxNumBatch ≠ 0 then some tx.maxNumBatch else none

/-- What a successful call can do to the table. -/
inductive PoolChange (db : PoolDB) : PoolCall → Pool → Prop
  | edit {call : PoolCall} {f : PoolEntry → PoolEntry} (hstores : call.stores db = [])
      (hterms : ∀ row : PoolEntry, row.SameTerms (f row))
      (hstate : ∀ row : PoolEntry, (row.state = .pending ↔ row.batchNum = none) →
        ((f row).state = .pending ↔ (f row).batchNum = none)) : PoolChange db call (db.pool.map f)
  | delete {call : PoolCall} {keep : PoolEntry → Bool} (hstores : call.stores db = []) :
      PoolChange db call (db.pool.filter keep)
  | insert {call : PoolCall} {keep : PoolEntry → Bool} {new : Pool} (hnew : List.Forall₂ ReceivedTx.Makes (call.stores db) new)
      (hpending : call.Proper db → ∀ tx ∈ call.stores db, tx.state = .pending)
      (hkept : ∀ row : PoolEntry, row.forgingOrForged → keep row)
      (hkeyed : Pool.Keyed (db.pool.filter keep ++ new)) : PoolChange db call (db.pool.filter keep ++ new)
  | update (tx : ReceivedTx) : PoolChange db (.updateTx tx) (db.pool.map (PoolEntry.updatedBy tx))

theorem ReceivedTx.makes_entry (tx : ReceivedTx) : tx.Makes tx.entry :=
  ⟨rfl, rfl, rfl, rfl⟩

variable {txs : List ReceivedTx}

theorem Pool.insert_ok {pool pool' : Pool} (h : pool.insert txs = .ok pool') :
    pool' = pool ++ txs.map ReceivedTx.entry ∧ pool'.Keyed := by
  rw [Pool.insert] at h
  split at h
  case isTrue hkeyed =>
    cases h
    exact ⟨rfl, hkeyed⟩
  case isFalse => cases h

theorem PoolChange.edit_if {db : PoolDB} {call : PoolCall} (hstores : call.stores db = []) {p : PoolEntry → Prop}
    [DecidablePred p] {g : PoolEntry → PoolEntry} (hterms : ∀ row : PoolEntry, row.SameTerms (g row))
    (hstate : ∀ row, p row → (row.state = .pending ↔ row.batchNum = none) →
      ((g row).state = .pending ↔ (g row).batchNum = none)) :
    PoolChange db call (db.pool.map fun row => if p row then g row else row) := by
  refine .edit hstores (fun row => ?_) fun row hrow => ?_
  · split
    · exact hterms row
    · exact ⟨rfl, rfl, rfl, rfl, rfl, rfl, rfl, rfl⟩
  · split
    case isTrue hp => exact hstate row hp hrow
    case isFalse => exact hrow

theorem PoolCall.change {db : PoolDB} {call : PoolCall} {pool' : Pool} (h : call.table db = .ok pool') :
    PoolChange db call pool' := by
  cases call with
  | addTxs txs checkPoolIsFull now =>
    rw [PoolCall.table, Pool.addTxs] at h
    split at h
    · cases h
    · obtain ⟨rfl, hkeyed⟩ := Pool.insert_ok h
      have hall : db.pool.filter (fun _ => true) = db.pool := List.filter_true _
      rw [← hall] at hkeyed ⊢
      refine .insert ?_ (fun hproper => hproper) (fun _ _ => rfl) hkeyed
      exact List.forall₂_map_right_iff.mpr (List.forall₂_same.mpr fun tx _ => tx.makes_entry)
  | updateTx tx =>
    rw [PoolCall.table, Pool.updateTx] at h
    split at h
    · cases h
    · cases h
      exact .update tx
  | updateTxByIdxAndNonce idx nonce tx now =>
    rw [PoolCall.table, Pool.updateTxByIdxAndNonce] at h
    split at h
    · obtain ⟨rfl, hkeyed⟩ := Pool.insert_ok h
      refine .insert (.cons ⟨rfl, rfl, rfl, rfl⟩ .nil) (fun hproper tx' htx' => ?_) (fun row hrow => ?_) hkeyed
      · rwa [List.mem_singleton.mp htx']
      · rcases hrow with hrow | hrow <;> simp [Pool.replaceable, hrow]
    · cases h
  | startForging txIDs batchNum =>
    cases h
    exact .edit_if rfl (fun _ => ⟨rfl, rfl, rfl, rfl, rfl, rfl, rfl, rfl⟩) fun _ _ _ => by simp
  | doneForging txIDs batchNum =>
    cases h
    exact .edit_if rfl (fun _ => ⟨rfl, rfl, rfl, rfl, rfl, rfl, rfl, rfl⟩) fun _ _ _ => by simp
  | invalidateTxs txIDs batchNum =>
    cases h
    exact .edit_if rfl (fun _ => ⟨rfl, rfl, rfl, rfl, rfl, rfl, rfl, rfl⟩) fun _ _ _ => by simp
  | invalidateOldNonces updatedAccounts batchNum =>
    cases h
    exact .edit_if rfl (fun _ => ⟨rfl, rfl, rfl, rfl, rfl, rfl, rfl, rfl⟩) fun _ _ _ => by simp
  | reorg lastValidBatch =>
    cases h
    exact .edit_if rfl (fun _ => ⟨rfl, rfl, rfl, rfl, rfl, rfl, rfl, rfl⟩) fun _ _ _ => by simp [PoolEntry.toPending]
  | purge currentBatchNum now =>
    cases h
    exact .delete rfl
  | purgeByExternalDelete =>
    cases h
    exact .delete rfl
  | setExternalDelete txIDs =>
    cases h
    exact .edit_if rfl (fun _ => ⟨rfl, rfl, rfl, rfl, rfl, rfl, rfl, rfl⟩) fun _ _ hrow => hrow

namespace PoolRun

structure Sound (s : PoolRun) : Prop where
  keyed : s.db.pool.Keyed
  pending : ∀ row ∈ s.db.pool, row.state = .pending ↔ row.batchNum = none
  submitted : ∀ row ∈ s.db.pool, ∀ n, row.maxNumBatch = some n → n ≠ 0 ∧ s.submitted row.txID = n

theorem call_of_ok {s : PoolRun} {call : PoolCall} {pool : Pool} (h : call.table s.db = .ok pool) :
    (s.call call).db.pool = pool ∧ (s.call call).submitted = lastSubmitted (call.stores s.db) s.submitted := by
  rw [PoolRun.call, h]
  exact ⟨rfl, rfl⟩

theorem call_of_error {s : PoolRun} {call : PoolCall} {e : Refusal} (h : call.table s.db = .error e) : s.call call = s := by
  rw [PoolRun.call, h]

theorem updatedBy_txID (tx : ReceivedTx) (row : PoolEntry) : (row.updatedBy tx).txID = row.txID := by
  unfold PoolEntry.updatedBy
  split <;> rfl

theorem lastSubmitted_head {tx : ReceivedTx} {txID : Bytes} (h : tx.txID = txID) (txs : List ReceivedTx)
    (submitted : Bytes → Nat) : lastSubmitted (tx :: txs) submitted txID = tx.maxNumBatch := by
  rw [lastSubmitted, List.find?_cons_of_pos (by simpa using h)]

theorem lastSubmitted_tail {tx : ReceivedTx} {txID : Bytes} (h : tx.txID ≠ txID) (txs : List ReceivedTx)
    (submitted : Bytes → Nat) : lastSubmitted (tx :: txs) submitted txID = lastSubmitted txs submitted txID := by
  rw [lastSubmitted, List.find?_cons_of_neg (by simpa using h), lastSubmitted]

theorem lastSubmitted_of_makes {new : Pool} (hnew : List.Forall₂ ReceivedTx.Makes txs new)
    (hkeyed : new.Keyed) (submitted : Bytes → Nat) {row : PoolEntry} (hrow : row ∈ new) :
    ∃ tx ∈ txs, tx.Makes row ∧ lastSubmitted txs submitted row.txID = tx.maxNumBatch := by
  induction hnew with
  | nil => cases hrow
  | @cons tx first txs new hmakes hrest ih =>
    obtain ⟨hfirst, hkeyed⟩ := List.nodup_cons.mp hkeyed
    rcases List.mem_cons.mp hrow with rfl | hrow
    · exact ⟨tx, List.mem_cons_self, hmakes, lastSubmitted_head hmakes.txID.symm txs submitted⟩
    · obtain ⟨tx', htx', hmakes', hlast⟩ := ih hkeyed hrow
      have hother : tx.txID ≠ row.txID := fun heq =>
        hfirst (List.mem_map.mpr ⟨row, hrow, heq.symm.trans hmakes.txID.symm⟩)
      exact ⟨tx', List.mem_cons_of_mem _ htx', hmakes', (lastSubmitted_tail hother txs submitted).trans hlast⟩

theorem lastSubmitted_of_forall_ne {txID : Bytes} (h : ∀ tx ∈ txs, tx.txID ≠ txID)
    (submitted : Bytes → Nat) : lastSubmitted txs submitted txID = submitted txID := by
  have hnone : txs.find? (·.txID = txID) = none := List.find?_eq_none.mpr fun tx htx => by simpa using h tx htx
  rw [lastSubmitted, hnone]

theorem makes_mem {new : Pool} (hnew : List.Forall₂ ReceivedTx.Makes txs new) {tx : ReceivedTx}
    (htx : tx ∈ txs) : tx.txID ∈ new.map (·.txID) := by
  induction hnew with
  | nil => cases htx
  | cons hmakes _ ih =>
    rcases List.mem_cons.mp htx with rfl | htx
    · exact List.mem_cons.mpr (.inl hmakes.txID.symm)
    · exact List.mem_cons_of_mem _ (ih htx)

theorem eq_of_txID {pool : Pool} (h : pool.Keyed) {row row' : PoolEntry} (hrow : row ∈ pool) (hrow' : row' ∈ pool)
    (heq : row'.txID = row.txID) : row' = row :=
  List.inj_on_of_nodup_map h hrow' hrow heq

section

variable {s s' : PoolRun}

theorem Sound.edit (h : s.Sound) {f : PoolEntry → PoolEntry} (hpool : s'.db.pool = s.db.pool.map f)
    (hsubmitted : s'.submitted = s.submitted) (hterms : ∀ row : PoolEntry, row.SameTerms (f row))
    (hstate : ∀ row : PoolEntry, (row.state = .pending ↔ row.batchNum = none) →
      ((f row).state = .pending ↔ (f row).batchNum = none)) : s'.Sound := by
  have hids : s'.db.pool.map (·.txID) = s.db.pool.map (·.txID) := by
    rw [hpool, List.map_map]
    exact List.map_congr_left fun row _ => (hterms row).txID
  refine ⟨by rw [Pool.Keyed, hids]; exact h.keyed, ?_, ?_⟩
  · rw [hpool, List.forall_mem_map]
    exact fun row hrow => hstate row (h.pending row hrow)
  · rw [hpool, hsubmitted, List.forall_mem_map]
    intro row hrow n hn
    rw [(hterms row).maxNumBatch] at hn
    rw [(hterms row).txID]
    exact h.submitted row hrow n hn

theorem Sound.delete (h : s.Sound) {keep : PoolEntry → Bool} (hpool : s'.db.pool = s.db.pool.filter keep)
    (hsubmitted : s'.submitted = s.submitted) : s'.Sound := by
  have hsub : s'.db.pool.Sublist s.db.pool := hpool ▸ List.filter_sublist
  refine ⟨h.keyed.sublist (hsub.map _), fun row hrow => h.pending row (hsub.subset hrow), fun row hrow => ?_⟩
  rw [hsubmitted]
  exact h.submitted row (hsub.subset hrow)

theorem Sound.insert (h : s.Sound) {keep : PoolEntry → Bool} {new : Pool}
    (hpool : s'.db.pool = s.db.pool.filter keep ++ new) (hkeyed : Pool.Keyed (s.db.pool.filter keep ++ new))
    (hsubmitted : s'.submitted = lastSubmitted txs s.submitted)
    (hnew : List.Forall₂ ReceivedTx.Makes txs new) (hpending : ∀ tx ∈ txs, tx.state = .pending) : s'.Sound := by
  have hsplit : ((s.db.pool.filter keep).map (·.txID) ++ new.map (·.txID)).Nodup := by
    rw [← List.map_append]
    exact hkeyed
  obtain ⟨-, hkeyed', hdisjoint⟩ := List.nodup_append'.mp hsplit
  refine ⟨hpool ▸ hkeyed, ?_, ?_⟩
  · rw [hpool]
    intro row hrow
    rcases List.mem_append.mp hrow with hrow | hrow
    · exact h.pending row (List.mem_of_mem_filter hrow)
    · obtain ⟨tx, htx, hmakes, -⟩ := lastSubmitted_of_makes hnew hkeyed' s.submitted hrow
      rw [hmakes.state, hmakes.batchNum, hpending tx htx]
      exact ⟨fun _ => rfl, fun _ => rfl⟩
  · rw [hpool, hsubmitted]
    intro row hrow n hn
    rcases List.mem_append.mp hrow with hrow | hrow
    · have hother : ∀ tx ∈ txs, tx.txID ≠ row.txID := fun tx htx heq =>
        hdisjoint (List.mem_map_of_mem hrow) (heq ▸ makes_mem hnew htx)
      rw [lastSubmitted_of_forall_ne hother]
      exact h.submitted row (List.mem_of_mem_filter hrow) n hn
    · obtain ⟨tx, -, hmakes, hlast⟩ := lastSubmitted_of_makes hnew hkeyed' s.submitted hrow
      rw [hmakes.maxNumBatch] at hn
      rw [hlast]
      split at hn
      case isTrue hne => exact ⟨Option.some.inj hn ▸ hne, Option.some.inj hn⟩
      case isFalse => cases hn

theorem Sound.update (h : s.Sound) {tx : ReceivedTx} (hpool : s'.db.pool = s.db.pool.map (PoolEntry.updatedBy tx))
    (hsubmitted : s'.submitted = lastSubmitted (PoolCall.stores s.db (.updateTx tx)) s.submitted)
    (hproper : PoolCall.Proper s.db (.updateTx tx)) : s'.Sound := by
  have hids : s'.db.pool.map (·.txID) = s.db.pool.map (·.txID) := by
    rw [hpool, List.map_map]
    exact List.map_congr_left fun row _ => updatedBy_txID tx row
  refine ⟨by rw [Pool.Keyed, hids]; exact h.keyed, ?_, ?_⟩
  · rw [hpool, List.forall_mem_map]
    intro row hrow
    rw [PoolEntry.updatedBy]
    split <;> exact h.pending row hrow
  · rw [hpool, hsubmitted, List.forall_mem_map]
    intro row hrow n hn
    rw [updatedBy_txID]
    by_cases hhit : row.txID = tx.txID ∧ row.atomicGroupID = none
    · rw [PoolEntry.updatedBy, if_pos hhit] at hn
      have hstores : PoolCall.stores s.db (.updateTx tx) = [tx] := if_pos ⟨row, hrow, hhit⟩
      rw [hstores, lastSubmitted_head hhit.1.symm]
      cases hn
      exact ⟨(hproper row hrow hhit.1 hhit.2).2, rfl⟩
    · rw [PoolEntry.updatedBy, if_neg hhit] at hn
      rw [lastSubmitted_of_forall_ne fun tx' htx' heq => hhit ?_]
      · exact h.submitted row hrow n hn
      · rw [PoolCall.stores] at htx'
        split at htx'
        case isTrue hstored =>
          -- the row that was updated has the same identifier, so it is this one
          obtain rfl := List.mem_singleton.mp htx'
          obtain ⟨row', hrow', hid, hatomic⟩ := hstored
          obtain rfl := eq_of_txID h.keyed hrow hrow' (hid.trans heq)
          exact ⟨hid, hatomic⟩
        case isFalse => cases htx'

end

theorem lastSubmitted_nil (submitted : Bytes → Nat) : lastSubmitted [] submitted = submitted := rfl

/-- **One call keeps the invariant.** -/
theorem Sound.call {s : PoolRun} (h : s.Sound) {call : PoolCall} (hproper : call.Proper s.db) : (s.call call).Sound := by
  cases htable : call.table s.db with
  | error e =>
    rw [call_of_error htable]
    exact h
  | ok pool =>
    obtain ⟨hpool, hsubmitted⟩ := call_of_ok htable
    cases PoolCall.change htable with
    | edit hstores hterms hstate =>
      rw [hstores, lastSubmitted_nil] at hsubmitted
      exact h.edit hpool hsubmitted hterms hstate
    | delete hstores =>
      rw [hstores, lastSubmitted_nil] at hsubmitted
      exact h.delete hpool hsubmitted
    | insert hnew hpending _ hkeyed => exact h.insert hpool hkeyed hsubmitted hnew (hpending hproper)
    | update tx => exact h.update hpool hsubmitted hproper

theorem Reached.sound {s : PoolRun} (h : s.Reached) : s.Sound := by
  induction h with
  | start maxTxs safetyPeriod ttl submitted => exact ⟨List.nodup_nil, by simp, by simp⟩
  | call _ hproper ih => exact ih.call hproper

theorem Sound.sameTerms {s : PoolRun} (h : s.Sound) {call : PoolCall} (hproper : call.Proper s.db) {row row' : PoolEntry}
    (hrow : row ∈ s.db.pool) (hforge : row.forgingOrForged) (hrow' : row' ∈ (s.call call).db.pool)
    (hid : row'.txID = row.txID) : row.SameTerms row' := by
  have hsame : row.SameTerms row := ⟨rfl, rfl, rfl, rfl, rfl, rfl, rfl, rfl⟩
  cases htable : call.table s.db with
  | error e =>
    rw [call_of_error htable] at hrow'
    rw [eq_of_txID h.keyed hrow hrow' hid]
    exact hsame
  | ok pool =>
    rw [(call_of_ok htable).1] at hrow'
    cases PoolCall.change htable with
    | edit hstores hterms hstate =>
      obtain ⟨old, hold, rfl⟩ := List.mem_map.mp hrow'
      obtain rfl := eq_of_txID h.keyed hrow hold ((hterms old).txID.symm.trans hid)
      exact hterms old
    | delete hstores =>
      rw [eq_of_txID h.keyed hrow (List.mem_of_mem_filter hrow') hid]
      exact hsame
    | @insert _ keep new hnew _ hkept hkeyed =>
      -- it is not one of the rows that were replaced, and its identifier is not free
      have hthere := List.mem_append_left new (List.mem_filter.mpr ⟨hrow, hkept row hforge⟩)
      rw [eq_of_txID hkeyed hthere hrow' hid]
      exact hsame
    | update tx =>
      obtain ⟨old, hold, rfl⟩ := List.mem_map.mp hrow'
      obtain rfl := eq_of_txID h.keyed hrow hold ((updatedBy_txID tx old).symm.trans hid)
      have hmiss : ¬(old.txID = tx.txID ∧ old.atomicGroupID = none) := fun hhit =>
        (hproper old hold hhit.1 hhit.2).1 hforge
      rw [PoolEntry.updatedBy, if_neg hmiss]
      exact hsame

theorem Sound.purged {s : PoolRun} (h : s.Sound) {currentBatchNum : Nat} {now : Int} {row : PoolEntry}
    (hrow : row ∈ s.db.pool) (hgone : row ∉ (s.call (.purge currentBatchNum now)).db.pool) :
    (row.state = .forged ∨ row.state = .invalid) ∧
        (∃ n, row.batchNum = some n ∧ (n : Int) < currentBatchNum - s.db.safetyPeriod) ∨
      row.state = .pending ∧ s.db.timestamp row.txID < now - s.db.ttl ∨
      s.submitted row.txID ≠ 0 ∧ (s.submitted row.txID : Int) < currentBatchNum - s.db.safetyPeriod := by
  have hpurges : s.db.purges currentBatchNum now row = true := by
    by_contra hkeep
    exact hgone (List.mem_filter.mpr ⟨hrow, by simpa using hkeep⟩)
  simp only [PoolDB.purges, Bool.or_eq_true, Bool.and_eq_true, decide_eq_true_eq, Option.any_eq_true] at hpurges
  rcases hpurges with (⟨hbatch, hstate⟩ | hold) | ⟨n, hn, hlt⟩
  · exact .inl ⟨hstate, hbatch⟩
  · exact .inr (.inl hold)
  · obtain ⟨hne, hsubmitted⟩ := h.submitted row hrow n hn
    rw [← hsubmitted] at hne hlt
    exact .inr (.inr ⟨hne, hlt⟩)

/-- **The life of a transaction in the pool**, in every run of proper calls: it is pending exactly when it has no batch,
its terms do not change while it is in a batch, and it is purged only for one of three reasons. -/
theorem lifeCycle (s : PoolRun) (h : s.Reached) :
    (∀ row ∈ s.db.pool, row.state = .pending ↔ row.batchNum = none) ∧
    (∀ call : PoolCall, call.Proper s.db → ∀ row ∈ s.db.pool, row.forgingOrForged →
      ∀ row' ∈ (s.call call).db.pool, row'.txID = row.txID → row'.forgingOrForged → row.SameTerms row') ∧
    ∀ (currentBatchNum : Nat) (now : Int), ∀ row ∈ s.db.pool, row ∉ (s.call (.purge currentBatchNum now)).db.pool →
      (row.state = .forged ∨ row.state = .invalid) ∧
          (∃ n, row.batchNum = some n ∧ (n : Int) < currentBatchNum - s.db.safetyPeriod) ∨
        row.state = .pending ∧ s.db.timestamp row.txID < now - s.db.ttl ∨
        s.submitted row.txID ≠ 0 ∧ (s.submitted row.txID : Int) < currentBatchNum - s.db.safetyPeriod :=
  ⟨h.sound.pending, fun _ hproper _ hrow hforge _ hrow' hid _ => h.sound.sameTerms hproper hrow hforge hrow' hid,
    fun _ _ _ hrow hgone => h.sound.purged hrow hgone⟩

def sampleSubmitted : ReceivedTx where
  txID := [2, 1]
  fromIdx := 256
  toIdx := 257
  toEthAddr := emptyAddr
  toBJJ := emptyBJJComp
  tokenID := 0
  amount := some 1
  fee := 0
  nonce := 0
  state := .pending
  maxNumBatch := 0
  info := ""
  signature := 0
  type := "Transfer"
  rqOffset := 0

def sampleRun : PoolRun :=
  PoolRun.call ⟨{ maxTxs := 10, safetyPeriod := 0, ttl := 1000 }, fun _ => 0⟩ (.addTxs [sampleSubmitted] true 0)

theorem sampleRun_reached : sampleRun.Reached :=
  .call (.start 10 0 1000 fun _ => 0) (by simp [PoolCall.Proper, sampleSubmitted])

/-- The transaction is forged in batch 1, while another one is pending. -/
def forgedRun : PoolRun :=
  ((sampleRun.call (.addTxs [{ sampleSubmitted with txID := [2, 2], nonce := 1 }] true 0)).call
    (.startForging [sampleSubmitted.txID] 1)).call (.doneForging [sampleSubmitted.txID] 1)

theorem forgedRun_reached : forgedRun.Reached := by
  refine .call (.call (.call sampleRun_reached ?_) trivial) trivial
  simp [PoolCall.Proper, sampleSubmitted]

/-- A purge at batch 3 deletes it for its age and keeps the pending one. -/
theorem lifeCycle_forgedRun :
    ∃ row ∈ forgedRun.db.pool, row.state = .forged ∧ (row.state = .pending ↔ row.batchNum = none) ∧
      (forgedRun.call (.purge 3 0)).db.pool.length = 1 ∧
      (∀ row' ∈ (forgedRun.call (.purge 1 0)).db.pool, row'.txID = row.txID → row'.forgingOrForged → row.SameTerms row') ∧
      ((row.state = .forged ∨ row.state = .invalid) ∧
          (∃ n, row.batchNum = some n ∧ (n : Int) < (3 : Nat) - forgedRun.db.safetyPeriod) ∨
        row.state = .pending ∧ forgedRun.db.timestamp row.txID < 0 - forgedRun.db.ttl ∨
        forgedRun.submitted row.txID ≠ 0 ∧
          (forgedRun.submitted row.txID : Int) < (3 : Nat) - forgedRun.db.safetyPeriod) := by
  have hrun : ∃ row ∈ forgedRun.db.pool, row.state = .forged ∧ row ∉ (forgedRun.call (.purge 3 0)).db.pool ∧
      (forgedRun.call (.purge 3 0)).db.pool.length = 1 := by decide
  obtain ⟨row, hrow, hforged, hgone, hkept⟩ := hrun
  obtain ⟨hpending, hterms, hpurged⟩ := lifeCycle forgedRun forgedRun_reached
  exact ⟨row, hrow, hforged, hpending row hrow, hkept, hterms (.purge 1 0) trivial row hrow (.inr hforged),
    hpurged 3 0 row hrow hgone⟩

/-- An update changes the receiver of a transfer that is being forged.  An update of a pending one stores 0 as its
`MaxNumBatch`, and the next purge deletes it, however new it is. -/
theorem lifeCycle_updateTx :
    let update := PoolCall.updateTx { sampleSubmitted with toIdx := 258 }
    let forging := sampleRun.call (.startForging [sampleSubmitted.txID] 1)
    let updated := sampleRun.call update
    (∃ row ∈ forging.db.pool, row.state = .forging ∧ row.toIdx = 257 ∧
      ∃ row' ∈ (forging.call update).db.pool, row'.txID = row.txID ∧ row'.state = .forging ∧ row'.toIdx = 258) ∧
    ∃ row ∈ updated.db.pool, row ∉ (updated.call (.purge 1 0)).db.pool ∧ row.state = .pending ∧
      ¬updated.db.timestamp row.txID < 0 - updated.db.ttl ∧ updated.submitted row.txID = 0 := by
  decide

end PoolRun

end HermezRollup
