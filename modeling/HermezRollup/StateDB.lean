import HermezRollup.Account
import HermezRollup.FinmapTotal

/-! The state database (`db/statedb`, `db/kvdb`): the accounts by index, the indexes of accounts by
address and key, the last index used, and a checkpoint of all this for every batch.  The database finds
an account by its index, then the hash of its leaf, then its 128 bytes; here an index leads to what those
bytes hold, and only accounts that have a leaf can be stored.  The Merkle tree of a database or of the
exits of a batch has one leaf for every account, so it is a function of the accounts; the tree library is
assumed to accept new keys at inserts and existing keys at updates, and its shape does not depend on its
number of levels. -/

namespace HermezRollup

open Bytes Fallible

inductive TypeStateDB where
  | synchronizer
  | txSelector
  | batchBuilder
  deriving DecidableEq, Repr

/-- The accounts of a state, or the exits of a batch, by index. -/
abbrev AccountTree := Finmap fun _ : Nat => StoredAccount

section AccountTree

variable [Libraries]

namespace AccountTree

/-- The leaves of the Merkle tree. -/
def leaves (tree : AccountTree) : List (Nat × Nat) :=
  tree.sortedEntries.map fun entry => (entry.1, (entry.2.account entry.1).leafValue)

def root (tree : AccountTree) : Nat :=
  Libraries.merkleTrees.root tree.leaves

theorem root_empty : (∅ : AccountTree).root = 0 := by
  rw [root, leaves, Finmap.sortedEntries_empty]
  exact Libraries.merkleTrees.root_nil

theorem root_of_ne_empty (tree : AccountTree) (h : tree ≠ ∅) : ∃ x xs, tree.root = Libraries.poseidon (x :: xs) := by
  rw [root, leaves]
  cases hentries : tree.sortedEntries with
  | nil =>
    refine absurd (Finmap.ext_lookup fun idx => ?_) h
    rw [Finmap.lookup_empty, Option.eq_none_iff_forall_not_mem]
    intro a ha
    have hmem := Finmap.mem_sortedEntries.mpr ha
    rw [hentries] at hmem
    cases hmem
  | cons entry rest =>
    rw [List.map_cons]
    obtain ⟨key, value, hroot⟩ | ⟨left, right, hroot⟩ := Libraries.merkleTrees.root_cons _ _
    · exact ⟨_, _, hroot⟩
    · exact ⟨_, _, hroot⟩

def siblings (tree : AccountTree) (idx : Nat) : List Nat :=
  Libraries.merkleTrees.siblings tree.leaves idx

end AccountTree

/-- `GetAccountInTreeDB`. -/
def getAccountInTreeDB (tree : AccountTree) (idx : Nat) : Except Err Account := do
  let _ ← idxBytes idx
  match tree.lookup idx with
  | none => .error .notFound
  | some stored => .ok (stored.account idx)

def putAccount (tree : AccountTree) (idx : Nat) (account : Account) : Except Err AccountTree :=
  if h : account.Encodable then .ok (tree.insert idx (account.store h)) else .error .panic

/-- `CreateAccountInTreeDB`. -/
def createAccountInTreeDB (tree : AccountTree) (idx : Nat) (account : Account) : Except Err AccountTree := do
  let _ ← account.hashValue
  let _ ← account.bytes
  let _ ← idxBytes idx
  if idx ∈ tree then .error .accountAlreadyExists else putAccount tree idx account

/-- `UpdateAccountInTreeDB`: nothing is read, so the account need not exist. -/
def updateAccountInTreeDB (tree : AccountTree) (idx : Nat) (account : Account) : Except Err AccountTree := do
  let _ ← account.hashValue
  let _ ← account.bytes
  let _ ← idxBytes idx
  putAccount tree idx account

end AccountTree

section TreeLemmas

variable [Libraries] {tree tree' : AccountTree} {idx : Nat} {account : Account}

omit [Libraries] in
theorem getAccountInTreeDB_ok :
    getAccountInTreeDB tree idx = .ok account ↔
      idx ≤ maxIdxValue ∧ ∃ stored, tree.lookup idx = some stored ∧ account = stored.account idx := by
  by_cases hidx : idx ≤ maxIdxValue
  · rw [getAccountInTreeDB, idxBytes_of_le hidx, except_ok_bind]
    cases tree.lookup idx with
    | none => simp
    | some found => simp [hidx, eq_comm]
  · rw [getAccountInTreeDB, idxBytes, if_pos (by omega), except_error_bind]
    simp [hidx]

theorem updateAccountInTreeDB_ok :
    updateAccountInTreeDB tree idx account = .ok tree' ↔
      idx ≤ maxIdxValue ∧ ∃ h : account.Encodable, tree' = tree.insert idx (account.store h) := by
  constructor
  · intro h
    obtain ⟨v, hv, h⟩ := except_bind_ok.mp h
    obtain ⟨b, -, h⟩ := except_bind_ok.mp h
    obtain ⟨ib, hib, h⟩ := except_bind_ok.mp h
    have hencodable := Account.encodable_of_hashValue hv
    rw [putAccount, dif_pos hencodable] at h
    exact ⟨(idxBytes_eq_ok hib).1, hencodable, (Except.ok.inj h).symm⟩
  · rintro ⟨hidx, hencodable, rfl⟩
    obtain ⟨b, hb, -⟩ := Account.accountFromBytes_bytes hencodable
    rw [updateAccountInTreeDB, Account.hashValue_ok hencodable, except_ok_bind, hb, except_ok_bind, idxBytes_of_le hidx,
      except_ok_bind, putAccount, dif_pos hencodable]

omit [Libraries] in
theorem putAccount_idx (tree : AccountTree) (idx i : Nat) (account : Account) :
    putAccount tree idx { account with idx := i } = putAccount tree idx account := by
  by_cases h : account.Encodable
  · rw [putAccount, putAccount, dif_pos h, dif_pos ⟨h.nonce_le, h.balance_lt, h.ay_lt⟩]
    rfl
  · rw [putAccount, putAccount, dif_neg h, dif_neg fun h' => h ⟨h'.nonce_le, h'.balance_lt, h'.ay_lt⟩]

theorem createAccountInTreeDB_ok :
    createAccountInTreeDB tree idx account = .ok tree' ↔
      idx ≤ maxIdxValue ∧ idx ∉ tree ∧ ∃ h : account.Encodable, tree' = tree.insert idx (account.store h) := by
  constructor
  · intro h
    obtain ⟨v, hv, h⟩ := except_bind_ok.mp h
    obtain ⟨b, -, h⟩ := except_bind_ok.mp h
    obtain ⟨ib, hib, h⟩ := except_bind_ok.mp h
    have hencodable := Account.encodable_of_hashValue hv
    split at h
    · cases h
    next hfresh =>
      rw [putAccount, dif_pos hencodable] at h
      exact ⟨(idxBytes_eq_ok hib).1, hfresh, hencodable, (Except.ok.inj h).symm⟩
  · rintro ⟨hidx, hfresh, hencodable, rfl⟩
    obtain ⟨b, hb, -⟩ := Account.accountFromBytes_bytes hencodable
    rw [createAccountInTreeDB, Account.hashValue_ok hencodable, except_ok_bind, hb, except_ok_bind, idxBytes_of_le hidx,
      except_ok_bind, if_neg hfresh, putAccount, dif_pos hencodable]

end TreeLemmas

/-- The contents of the database, which a checkpoint keeps. -/
structure Store where
  accounts : AccountTree := ∅
  idxByEthAddrBJJ : Finmap (fun _ : Address × PublicKeyComp × TokenID => Nat) := ∅
  idxByEthAddr : Finmap (fun _ : Address × TokenID => Nat) := ∅
  currentIdx : Nat := rollupConstReservedIDx
  currentBatch : Nat := 0

structure StateDB extends Store where
  typ : TypeStateDB
  checkpoints : Nat → Option Store := fun _ => none

namespace Store

def getAccount (s : Store) (idx : Nat) : Except Err Account :=
  getAccountInTreeDB s.accounts idx

def getIdxByEthAddr (s : Store) (addr : Address) (tokenID : TokenID) : Except Err Nat :=
  match s.idxByEthAddr.lookup (addr, tokenID) with
  | none => .error .idxNotFoundByEthAddr
  | some idx => .ok idx

/-- `GetIdxByEthAddrBJJ`: without a key only the address counts; without an address there is no answer. -/
def getIdxByEthAddrBJJ (s : Store) (addr : Address) (pk : PublicKeyComp) (tokenID : TokenID) : Except Err Nat :=
  if addr ≠ emptyAddr ∧ pk = emptyBJJComp then s.getIdxByEthAddr addr tokenID
  else if addr ≠ emptyAddr ∧ pk ≠ emptyBJJComp then
    match s.idxByEthAddrBJJ.lookup (addr, pk, tokenID) with
    | none => .error .idxNotFound
    | some idx => .ok idx
  else .error .getIdxNoCase

def putIdx (s : Store) (idx : Nat) (addr : Address) (pk : PublicKeyComp) (tokenID : TokenID) : Except Err Store := do
  let _ ← idxBytes idx
  return { s with
    idxByEthAddrBJJ := s.idxByEthAddrBJJ.insert (addr, pk, tokenID) idx
    idxByEthAddr := s.idxByEthAddr.insert (addr, tokenID) idx }

/-- `setIdxByEthAddrBJJ`: the smallest index for an address and key is kept; the index by address alone
goes along with it. -/
def setIdxByEthAddrBJJ (s : Store) (idx : Nat) (addr : Address) (pk : PublicKeyComp) (tokenID : TokenID) :
    Except Err Store :=
  match s.getIdxByEthAddrBJJ addr pk tokenID with
  | .ok oldIdx => if oldIdx ≤ idx then .ok s else s.putIdx idx addr pk tokenID
  | .error _ => s.putIdx idx addr pk tokenID

/-- Put an account into the map from tokens to accounts. -/
def addTokenID (s : Store) (map : Finmap fun _ : TokenID => Nat) (idx : Nat) :
    Except Err (Finmap fun _ : TokenID => Nat) :=
  match s.getAccount idx with
  | .error _ => .error (.tokenIDsFromIdxs idx)
  | .ok account => .ok (map.insert account.tokenID idx)

/-- `GetTokenIDsFromIdxs`: for two indexes of one token the last one stays. -/
def getTokenIDsFromIdxs (s : Store) (idxs : List Nat) : Except Err (Finmap fun _ : TokenID => Nat) :=
  idxs.foldlM s.addTokenID ∅

section Libraries

variable [Libraries]

def createAccount (s : Store) (idx : Nat) (account : Account) : Except Err Store := do
  let accounts ← createAccountInTreeDB s.accounts idx account
  setIdxByEthAddrBJJ { s with accounts } idx account.ethAddr account.bjj account.tokenID

def updateAccount (s : Store) (idx : Nat) (account : Account) : Except Err Store := do
  let accounts ← updateAccountInTreeDB s.accounts idx account
  return { s with accounts }

end Libraries

def setCurrentIdx (s : Store) (idx : Nat) : Except Err Store := do
  let _ ← idxBytes idx
  return { s with currentIdx := idx }

theorem setCurrentIdx_ok {s s' : Store} {idx : Nat} :
    s.setCurrentIdx idx = .ok s' ↔ idx ≤ maxIdxValue ∧ s' = { s with currentIdx := idx } := by
  rw [setCurrentIdx, except_bind_ok]
  constructor
  · rintro ⟨b, hb, hset⟩
    exact ⟨(idxBytes_eq_ok hb).1, (Except.ok.inj hset).symm⟩
  · rintro ⟨hidx, rfl⟩
    exact ⟨_, idxBytes_of_le hidx, rfl⟩

theorem setIdxByEthAddrBJJ_ok {s s' : Store} {idx : Nat} {addr : Address} {pk : PublicKeyComp} {tokenID : TokenID}
    (h : s.setIdxByEthAddrBJJ idx addr pk tokenID = .ok s') :
    ∃ byEthAddrBJJ byEthAddr, s' = { s with idxByEthAddrBJJ := byEthAddrBJJ, idxByEthAddr := byEthAddr } := by
  have hput : s.putIdx idx addr pk tokenID = .ok s' →
      ∃ byEthAddrBJJ byEthAddr, s' = { s with idxByEthAddrBJJ := byEthAddrBJJ, idxByEthAddr := byEthAddr } := by
    intro hput
    obtain ⟨_, -, hput⟩ := except_bind_ok.mp hput
    cases hput
    exact ⟨_, _, rfl⟩
  rw [setIdxByEthAddrBJJ] at h
  split at h
  · split at h
    · cases h
      exact ⟨_, _, rfl⟩
    · exact hput h
  · exact hput h

theorem setIdxByEthAddrBJJ_total (s : Store) {idx : Nat} (hidx : idx ≤ maxIdxValue) (addr : Address)
    (pk : PublicKeyComp) (tokenID : TokenID) : ∃ s', s.setIdxByEthAddrBJJ idx addr pk tokenID = .ok s' := by
  have hput : ∃ s', s.putIdx idx addr pk tokenID = .ok s' := by
    rw [putIdx, idxBytes_of_le hidx, except_ok_bind]
    exact ⟨_, rfl⟩
  rw [setIdxByEthAddrBJJ]
  split
  · split
    · exact ⟨s, rfl⟩
    · exact hput
  · exact hput

section Lemmas

variable [Libraries] {s s' : Store} {idx : Nat} {account : Account}

theorem createAccount_ok (h : s.createAccount idx account = .ok s') :
    idx ≤ maxIdxValue ∧ idx ∉ s.accounts ∧ ∃ (hencodable : account.Encodable) (byEthAddrBJJ : _) (byEthAddr : _),
      s' = { s with
        accounts := s.accounts.insert idx (account.store hencodable)
        idxByEthAddrBJJ := byEthAddrBJJ
        idxByEthAddr := byEthAddr } := by
  obtain ⟨accounts, haccounts, hset⟩ := except_bind_ok.mp h
  obtain ⟨hidx, hfresh, hencodable, rfl⟩ := createAccountInTreeDB_ok.mp haccounts
  exact ⟨hidx, hfresh, hencodable, setIdxByEthAddrBJJ_ok hset⟩

theorem createAccount_total (hencodable : account.Encodable) (hidx : idx ≤ maxIdxValue) (hfresh : idx ∉ s.accounts) :
    ∃ s', s.createAccount idx account = .ok s' := by
  rw [createAccount, createAccountInTreeDB_ok.mpr ⟨hidx, hfresh, hencodable, rfl⟩, except_ok_bind]
  exact setIdxByEthAddrBJJ_total _ hidx _ _ _

theorem updateAccount_ok :
    s.updateAccount idx account = .ok s' ↔ idx ≤ maxIdxValue ∧ ∃ h : account.Encodable,
      s' = { s with accounts := s.accounts.insert idx (account.store h) } := by
  rw [updateAccount, except_bind_ok]
  constructor
  · rintro ⟨accounts, haccounts, hput⟩
    obtain ⟨hidx, hencodable, rfl⟩ := updateAccountInTreeDB_ok.mp haccounts
    exact ⟨hidx, hencodable, (Except.ok.inj hput).symm⟩
  · rintro ⟨hidx, hencodable, rfl⟩
    exact ⟨_, updateAccountInTreeDB_ok.mpr ⟨hidx, hencodable, rfl⟩, rfl⟩

theorem getAccount_updateAccount (h : s.updateAccount idx account = .ok s') (hbalance : 0 ≤ account.balance) :
    s'.getAccount idx = .ok { account with idx } := by
  obtain ⟨hidx, hencodable, rfl⟩ := updateAccount_ok.mp h
  refine getAccountInTreeDB_ok.mpr ⟨hidx, _, Finmap.lookup_insert _, ?_⟩
  simp only [StoredAccount.account, Account.store, Int.natAbs_of_nonneg hbalance]

theorem getAccount_createAccount (h : s.createAccount idx account = .ok s') (hbalance : 0 ≤ account.balance) :
    s'.getAccount idx = .ok { account with idx } := by
  obtain ⟨hidx, -, hencodable, _, _, rfl⟩ := createAccount_ok h
  refine getAccountInTreeDB_ok.mpr ⟨hidx, _, Finmap.lookup_insert _, ?_⟩
  simp only [StoredAccount.account, Account.store, Int.natAbs_of_nonneg hbalance]

theorem updateAccount_idx (s : Store) (idx i : Nat) (account : Account) :
    s.updateAccount idx { account with idx := i } = s.updateAccount idx account := by
  simp only [updateAccount, updateAccountInTreeDB, putAccount_idx]
  rfl

end Lemmas

end Store

namespace StateDB

/-- `MakeCheckpoint`: the batch number moves on first.  The newest checkpoints are never deleted. -/
def makeCheckpoint (s : StateDB) : StateDB :=
  let store := { s.toStore with currentBatch := s.currentBatch + 1 }
  { s with toStore := store, checkpoints := Function.update s.checkpoints store.currentBatch (some store) }

/-- `Reset`: checkpoints of later batches are deleted; batch 0 is the empty database. -/
def reset (s : StateDB) (batchNum : Nat) : Except Err StateDB :=
  let checkpoints := fun batch => if batch ≤ batchNum then s.checkpoints batch else none
  if batchNum = 0 then .ok { s with toStore := {}, checkpoints }
  else match s.checkpoints batchNum with
    | none => .error .notFound
    | some store => .ok { s with toStore := store, checkpoints }

end StateDB

end HermezRollup
