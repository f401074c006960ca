import HermezRollup.BatchRefinement

/-! The state databases that a node can have.  Whatever batches are processed, in whichever mode, and whatever
checkpoints the database is reset to, the accounts have the indexes from 256 up to the current one without a gap, and
what the indexes by address point to is an account of that address. -/

namespace HermezRollup

open Fallible Simulation Spec

variable {acc : Account}

namespace Store

/-- The accounts have the indexes up to `last`, and the indexes by address point to accounts of that owner. -/
structure Numbered (store : Store) (last : Nat) : Prop where
  bounds : rollupConstReservedIDx ≤ last ∧ last ≤ maxIdxValue
  accounts : ∀ idx, idx ∈ store.accounts ↔ userThreshold ≤ idx ∧ idx ≤ last
  byKey : ∀ addr bjj tokenID idx, store.idxByEthAddrBJJ.lookup (addr, bjj, tokenID) = some idx →
    ∃ a, store.accounts.lookup idx = some a ∧ a.ethAddr = addr ∧ a.bjj = bjj ∧ a.tokenID = tokenID
  byHolder : ∀ addr tokenID idx, store.idxByEthAddr.lookup (addr, tokenID) = some idx →
    ∃ a, store.accounts.lookup idx = some a ∧ a.ethAddr = addr ∧ a.tokenID = tokenID

theorem numbered_empty : Numbered {} rollupConstReservedIDx where
  bounds := by decide
  accounts idx := by
    refine ⟨fun h => absurd h Finmap.notMem_empty, fun h => ?_⟩
    rw [userThreshold, rollupConstReservedIDx] at h
    omega
  byKey := by simp
  byHolder := by simp

/-- The accounts of a store changed, and nothing else. -/
structure Updated (store store' : Store) : Prop where
  persists : store.accounts.Persists store'.accounts
  accounts : ∀ idx, idx ∈ store'.accounts → idx ∈ store.accounts
  indexes : store'.idxByEthAddrBJJ = store.idxByEthAddrBJJ ∧ store'.idxByEthAddr = store.idxByEthAddr
  currentIdx : store'.currentIdx = store.currentIdx

variable {store store' store'' : Store} {last : Nat}

theorem Updated.refl (store : Store) : Updated store store :=
  ⟨.refl _, fun _ h => h, ⟨rfl, rfl⟩, rfl⟩

theorem Updated.trans (h : Updated store store') (h' : Updated store' store'') : Updated store store'' :=
  ⟨h.persists.trans h'.persists, fun idx hidx => h.accounts idx (h'.accounts idx hidx),
    ⟨h'.indexes.1.trans h.indexes.1, h'.indexes.2.trans h.indexes.2⟩, h'.currentIdx.trans h.currentIdx⟩

/-- One account is written that was there before, for the same owner. -/
theorem updated_insert {idx : Nat} {a a' : StoredAccount} (ha : store.accounts.lookup idx = some a) (howner : a.SameOwner a') :
    Updated store { store with accounts := store.accounts.insert idx a' } := by
  refine ⟨fun other b hb => ?_, fun other hother => ?_, ⟨rfl, rfl⟩, rfl⟩
  · by_cases heq : other = idx
    · subst heq
      rw [ha] at hb
      cases hb
      exact ⟨a', Finmap.lookup_insert _, howner⟩
    · exact ⟨b, by rw [Finmap.lookup_insert_of_ne _ heq, hb], .refl b⟩
  · rcases Finmap.mem_insert.mp hother with rfl | hmem
    · exact Finmap.mem_of_lookup_eq_some ha
    · exact hmem

theorem Numbered.updated (h : store.Numbered last) (hupdated : Updated store store') : store'.Numbered last where
  bounds := h.bounds
  accounts idx := by
    rw [← h.accounts]
    refine ⟨hupdated.accounts idx, fun hidx => ?_⟩
    obtain ⟨a, ha⟩ := Finmap.mem_iff.mp hidx
    obtain ⟨a', ha', -⟩ := hupdated.persists idx a ha
    exact Finmap.mem_of_lookup_eq_some ha'
  byKey addr bjj tokenID idx hlookup := by
    rw [hupdated.indexes.1] at hlookup
    obtain ⟨a, ha, rfl, rfl, rfl⟩ := h.byKey addr bjj tokenID idx hlookup
    obtain ⟨a', ha', howner⟩ := hupdated.persists idx a ha
    exact ⟨a', ha', howner.ethAddr, howner.bjj, howner.tokenID⟩
  byHolder addr tokenID idx hlookup := by
    rw [hupdated.indexes.2] at hlookup
    obtain ⟨a, ha, rfl, rfl⟩ := h.byHolder addr tokenID idx hlookup
    obtain ⟨a', ha', howner⟩ := hupdated.persists idx a ha
    exact ⟨a', ha', howner.ethAddr, howner.tokenID⟩

theorem setIdxByEthAddrBJJ_indexes {idx : Nat} {addr : Address} {pk : PublicKeyComp} {tokenID : TokenID}
    (h : store.setIdxByEthAddrBJJ idx addr pk tokenID = .ok store') :
    store' = store ∨ store' = { store with
      idxByEthAddrBJJ := store.idxByEthAddrBJJ.insert (addr, pk, tokenID) idx
      idxByEthAddr := store.idxByEthAddr.insert (addr, tokenID) idx } := by
  have hput : ∀ {result}, store.putIdx idx addr pk tokenID = .ok result → result = { store with
      idxByEthAddrBJJ := store.idxByEthAddrBJJ.insert (addr, pk, tokenID) idx
      idxByEthAddr := store.idxByEthAddr.insert (addr, tokenID) idx } := by
    intro result hresult
    obtain ⟨_, -, hreturn⟩ := except_bind_ok.mp hresult
    exact (Except.ok.inj hreturn).symm
  rw [setIdxByEthAddrBJJ] at h
  split at h
  · split at h
    · exact Or.inl (Except.ok.inj h).symm
    · exact Or.inr (hput h)
  · exact Or.inr (hput h)

theorem Numbered.createAccount [Libraries] (h : store.Numbered last)
    (hcreate : store.createAccount (last + 1) acc = .ok store') : store'.Numbered (last + 1) := by
  obtain ⟨tree, htree, hset⟩ := except_bind_ok.mp hcreate
  obtain ⟨hmax, hfresh, hencodable, rfl⟩ := createAccountInTreeDB_ok.mp htree
  have hold : ∀ {idx : Nat} {a : StoredAccount}, store.accounts.lookup idx = some a →
      (store.accounts.insert (last + 1) (acc.store hencodable)).lookup idx = some a := by
    intro idx a ha
    have hne : idx ≠ last + 1 := fun heq => hfresh (heq ▸ Finmap.mem_of_lookup_eq_some ha)
    rw [Finmap.lookup_insert_of_ne _ hne, ha]
  have hkept : Numbered { store with accounts := store.accounts.insert (last + 1) (acc.store hencodable) } (last + 1) := by
    refine ⟨⟨h.bounds.1.trans (Nat.le_succ last), hmax⟩, fun idx => ?_, fun addr bjj tokenID idx hlookup => ?_,
      fun addr tokenID idx hlookup => ?_⟩
    · have hlow := h.bounds.1
      rw [Finmap.mem_insert, h.accounts, userThreshold]
      rw [rollupConstReservedIDx] at hlow
      omega
    · obtain ⟨a, ha, howner⟩ := h.byKey addr bjj tokenID idx hlookup
      exact ⟨a, hold ha, howner⟩
    · obtain ⟨a, ha, howner⟩ := h.byHolder addr tokenID idx hlookup
      exact ⟨a, hold ha, howner⟩
  rcases setIdxByEthAddrBJJ_indexes hset with rfl | rfl
  · exact hkept
  · refine { hkept with byKey := fun addr bjj tokenID idx hlookup => ?_, byHolder := fun addr tokenID idx hlookup => ?_ }
    · by_cases heq : (addr, bjj, tokenID) = (acc.ethAddr, acc.bjj, acc.tokenID)
      · cases heq
        rw [Finmap.lookup_insert] at hlookup
        cases hlookup
        exact ⟨_, Finmap.lookup_insert _, rfl, rfl, rfl⟩
      · rw [Finmap.lookup_insert_of_ne _ heq] at hlookup
        exact hkept.byKey addr bjj tokenID idx hlookup
    · by_cases heq : (addr, tokenID) = (acc.ethAddr, acc.tokenID)
      · cases heq
        rw [Finmap.lookup_insert] at hlookup
        cases hlookup
        exact ⟨_, Finmap.lookup_insert _, rfl, rfl⟩
      · rw [Finmap.lookup_insert_of_ne _ heq] at hlookup
        exact hkept.byHolder addr tokenID idx hlookup

end Store

namespace Rollup

variable [Libraries] {idx : Nat} {amount : Int}

/-- A part of a batch that leaves a numbered store numbered. -/
def StaysNumbered (r r' : Rollup) : Prop :=
  r.toStore.Numbered r.currentIdx → r'.toStore.Numbered r'.currentIdx

variable {r r' : Rollup}

omit [Libraries] in
theorem staysNumbered_updated (h : Store.Updated r.toStore r'.toStore) : StaysNumbered r r' := by
  intro hr
  rw [h.currentIdx]
  exact hr.updated h

theorem give_updated {u : Unit} (h : give idx amount r = some (u, r')) :
    Store.Updated r.toStore r'.toStore := by
  obtain ⟨acc, hget, hencodable, rfl⟩ := give_some.mp h
  obtain ⟨-, a, ha, rfl⟩ := getAccountInTreeDB_ok.mp hget
  exact Store.updated_insert ha ⟨rfl, rfl, rfl⟩

theorem take_updated (h : take idx amount r = some (acc, r')) :
    Store.Updated r.toStore r'.toStore := by
  obtain ⟨_, ⟨a, a', ha, rfl, howner, -⟩, rfl, -⟩ := take_moved h
  exact Store.updated_insert ha howner

theorem pay_updated {coordIdxsMap : CoordIdxsMap} {feeSel : FeeSelector}
    (h : pay coordIdxsMap idx amount feeSel r = some (acc, r')) : Store.Updated r.toStore r'.toStore := by
  obtain ⟨_, _, _, -, howe, ⟨a, a', ha, rfl, howner, -⟩, rfl, -⟩ := pay_moved h
  obtain ⟨fees, rfl⟩ := owe_fees howe
  exact Store.updated_insert ha howner

theorem leave_updated {original : Int} {exit : ExitOut}
    (h : leave idx acc amount original r = some (exit, r')) : Store.Updated r.toStore r'.toStore := by
  obtain ⟨exits, -, rfl⟩ := leave_exits h
  exact .refl _

theorem openAccount_numbered {u : Unit} (hr : r.toStore.Numbered r.currentIdx)
    (h : openAccount acc r = some (u, r')) : r'.toStore.Numbered (r.currentIdx + 1) ∧ r'.currentIdx = r.currentIdx := by
  obtain ⟨store, hcreate, rfl⟩ := openAccount_some h
  exact ⟨hr.createAccount hcreate, currentIdx_openAccount h⟩

theorem l1Tx_staysNumbered (tx : L1Tx) : Within StaysNumbered (l1Tx tx) := by
  intro r out r' h hr
  obtain ⟨happly, -⟩ := l1Tx_some.mp h
  generalize out.2 = exit at happly
  cases applyL1_step happly with
  | forceTransfer _ htake hgive | depositTransfer _ htake hgive =>
    exact staysNumbered_updated ((take_updated htake).trans (give_updated hgive)) hr
  | createAccountDeposit _ hopen hadvance =>
    obtain ⟨hnumbered, hidx⟩ := openAccount_numbered hr hopen
    obtain ⟨-, rfl⟩ := advance_some.mp hadvance
    rw [hidx]
    exact { hnumbered with }
  | deposit _ htake => exact staysNumbered_updated (take_updated htake) hr
  | createAccountDepositTransfer _ _ hopen hgive hadvance =>
    obtain ⟨hnumbered, hidx⟩ := openAccount_numbered hr hopen
    have hupdated := give_updated hgive
    obtain ⟨-, rfl⟩ := advance_some.mp hadvance
    rw [hupdated.currentIdx, hidx]
    exact { hnumbered.updated hupdated with }
  | forceExit _ htake hleave =>
    exact staysNumbered_updated ((take_updated htake).trans (leave_updated hleave)) hr
  | unknown => exact hr

theorem l2Tx_staysNumbered (coordIdxsMap : CoordIdxsMap) (tx : PoolL2Tx) : Within StaysNumbered (l2Tx coordIdxsMap tx) := by
  intro r exit r' h
  cases l2Tx_step h with
  | transfer _ hpay hgive => exact staysNumbered_updated ((pay_updated hpay).trans (give_updated hgive))
  | exit _ hpay hleave => exact staysNumbered_updated ((pay_updated hpay).trans (leave_updated hleave))
  | unknown => exact fun hr => hr

theorem payFee_staysNumbered (idx : Nat) : Within StaysNumbered (payFee idx) := by
  intro r u r' h
  rw [payFee, bind_of_some (get_run r)] at h
  exact staysNumbered_updated (give_updated h)

theorem batch_staysNumbered (coordIdxs : List Nat) (l1UserTxs l1CoordinatorTxs : List L1Tx) (l2Txs : List PoolL2Tx) :
    Within StaysNumbered (batch coordIdxs l1UserTxs l1CoordinatorTxs l2Txs) := by
  intro r out r' h hr
  obtain ⟨r₁, r₂, r₃, us, husers, hcoordinators, -, -, hl2, hfees⟩ := batch_some.mp h
  have hall : ∀ {α β : Type} {step : α → RollupM β}, (∀ a, Within StaysNumbered (step a)) →
      ∀ as, Within StaysNumbered (forEach step as) :=
    fun hstep as => Within.forEach (fun _ h => h) (fun _ _ _ h h' hr => h' (h hr)) hstep as
  have hl1 := hall l1Tx_staysNumbered _ _ _ _ hcoordinators (hall l1Tx_staysNumbered _ _ _ _ husers hr)
  exact hall payFee_staysNumbered _ _ _ _ hfees (hall (l2Tx_staysNumbered _) _ _ _ _ hl2 hl1)

end Rollup

namespace StateDB

variable [Libraries]

/-- A database is new, or processed a batch, or was reset to a checkpoint.  Before a reset its contents can be anything
that a batch left when it failed. -/
inductive Reachable : StateDB → Prop
  | new (typ : TypeStateDB) : Reachable { typ }
  | batch {state : StateDB} {config : Config} {coordIdxs : List Nat} {l1UserTxs l1CoordinatorTxs : List L1Tx}
      {l2Txs : List PoolL2Tx} {out : ProcessTxOutput} {s' : TxProcessor} (before : Reachable state)
      (h : TxProcessor.processTxs coordIdxs l1UserTxs l1CoordinatorTxs l2Txs (newTxProcessor state config) = .ok out s') :
      Reachable s'.state
  | reset {state state' : StateDB} {left : Store} {batchNum : Nat} (before : Reachable state)
      (h : StateDB.reset { state with toStore := left } batchNum = .ok state') : Reachable state'

theorem Reachable.numbered {state : StateDB} (h : Reachable state) :
    state.toStore.Numbered state.currentIdx ∧
      ∀ batchNum store, state.checkpoints batchNum = some store → store.Numbered store.currentIdx := by
  induction h with
  | new typ => exact ⟨Store.numbered_empty, by simp⟩
  | batch _ hrun ih =>
    obtain ⟨hnumbered, hcheckpoints⟩ := ih
    obtain ⟨_, r', hbatch, hstate, -⟩ := TxProcessor.processTxs_ok hrun
    have hafter : r'.toStore.Numbered r'.currentIdx := Rollup.batch_staysNumbered _ _ _ _ _ _ _ hbatch hnumbered
    rw [hstate]
    refine ⟨{ hafter with }, fun batchNum store hstore => ?_⟩
    by_cases heq : batchNum = r'.currentBatch + 1
    · subst heq
      rw [makeCheckpoint] at hstore
      simp only [Function.update_self, Option.some.injEq] at hstore
      rw [← hstore]
      exact { hafter with }
    · rw [makeCheckpoint] at hstore
      simp only [Function.update_of_ne heq] at hstore
      exact hcheckpoints batchNum store hstore
  | reset _ hreset ih =>
    obtain ⟨-, hcheckpoints⟩ := ih
    have hkept : ∀ {limit batchNum : Nat} {checkpoints : Nat → Option Store} {store : Store},
        (if batchNum ≤ limit then checkpoints batchNum else none) = some store → checkpoints batchNum = some store := by
      intro limit batchNum checkpoints store hstore
      split at hstore
      · exact hstore
      · cases hstore
    rw [StateDB.reset] at hreset
    split at hreset
    · cases hreset
      exact ⟨Store.numbered_empty, fun batchNum store hstore => hcheckpoints batchNum store (hkept hstore)⟩
    · split at hreset
      · cases hreset
      next store hstore =>
        cases hreset
        exact ⟨hcheckpoints _ store hstore, fun batchNum store hstore => hcheckpoints batchNum store (hkept hstore)⟩

end StateDB

/-- **The accounts are numbered without a gap, and lookups by address find the right owner.**  In every database that
batches in any mode and resets lead to, exactly the indexes from 256 to the current one have an account, and the account
that an address, or an address and a key, is resolved to has that address, token and key. -/
theorem reachable_accounts [Libraries] {state : StateDB} (h : state.Reachable) :
    (∀ idx, (∃ acc, state.getAccount idx = .ok acc) ↔ userThreshold ≤ idx ∧ idx ≤ state.currentIdx) ∧
      ∀ addr bjj tokenID idx, state.getIdxByEthAddrBJJ addr bjj tokenID = .ok idx →
        ∃ acc, state.getAccount idx = .ok acc ∧ acc.ethAddr = addr ∧ acc.tokenID = tokenID ∧
          (bjj ≠ emptyBJJComp → acc.bjj = bjj) := by
  obtain ⟨hnumbered, -⟩ := h.numbered
  have hread : ∀ {idx a}, state.accounts.lookup idx = some a → state.getAccount idx = .ok (a.account idx) := by
    intro idx a ha
    have hidx := ((hnumbered.accounts idx).mp (Finmap.mem_of_lookup_eq_some ha)).2
    exact getAccountInTreeDB_ok.mpr ⟨hidx.trans hnumbered.bounds.2, a, ha, rfl⟩
  refine ⟨fun idx => ?_, fun addr bjj tokenID idx hidx => ?_⟩
  · rw [← hnumbered.accounts]
    constructor
    · rintro ⟨acc, hacc⟩
      obtain ⟨-, a, ha, -⟩ := getAccountInTreeDB_ok.mp hacc
      exact Finmap.mem_of_lookup_eq_some ha
    · intro hmem
      obtain ⟨a, ha⟩ := Finmap.mem_iff.mp hmem
      exact ⟨_, hread ha⟩
  · rw [Store.getIdxByEthAddrBJJ] at hidx
    split at hidx
    next hempty =>
      rw [Store.getIdxByEthAddr] at hidx
      split at hidx
      next => cases hidx
      next hlookup =>
        cases hidx
        obtain ⟨a, ha, haddr, htoken⟩ := hnumbered.byHolder addr tokenID idx hlookup
        exact ⟨_, hread ha, haddr, htoken, fun hne => absurd hempty.2 hne⟩
    next =>
      split at hidx
      next =>
        split at hidx
        next => cases hidx
        next hlookup =>
          cases hidx
          obtain ⟨a, ha, haddr, hbjj, htoken⟩ := hnumbered.byKey addr bjj tokenID idx hlookup
          exact ⟨_, hread ha, haddr, htoken, fun _ => hbjj⟩
      next => cases hidx

/-- A batch of a new synchronizer that opens an account. -/
theorem reachable_accounts_created : ∃ state, @StateDB.Reachable plainLibraries state ∧ state.currentIdx = 256 ∧
    ∃ acc, state.getAccount 256 = .ok acc := by
  have hrun : succeedsWith (fun _ s' => s'.state.currentIdx = 256) (@TxProcessor.processTxs plainLibraries []
      [{ userOrigin := true, fromEthAddr := 7, fromBJJ := 1, depositAmount := 10, type := some .createAccountDeposit }] [] []
      (newTxProcessor { typ := .synchronizer } smallConfig)) = true := by decide +kernel
  obtain ⟨_, s', hok, hidx⟩ := exists_of_succeedsWith hrun
  have hreachable := @StateDB.Reachable.batch plainLibraries _ _ _ _ _ _ _ _
    (@StateDB.Reachable.new plainLibraries .synchronizer) hok
  have hidx : s'.state.currentIdx = 256 := of_decide_eq_true hidx
  obtain ⟨haccounts, -⟩ := @reachable_accounts plainLibraries s'.state hreachable
  exact ⟨s'.state, hreachable, hidx, (haccounts 256).mpr ⟨by decide, hidx.ge⟩⟩

end HermezRollup
