import HermezRollup.BatchRefinement

/-! The nonces that the synchronizer finds.  A batch publishes no nonces: the synchronizer reads the nonce of
a transaction from the account of its sender when it processes it.  So the nonces of an account are consecutive
over all batches, and no two forged transactions of an account share one. -/

namespace HermezRollup

open Bytes Fallible Simulation Spec

/-! ### What moves a nonce -/

namespace AccountTree

/-- The nonce of an account; one that does not exist has sent nothing. -/
def nonceOf (tree : AccountTree) (idx : Nat) : Nat :=
  (tree.lookup idx).elim 0 StoredAccount.nonce

theorem nonceOf_insert (tree : AccountTree) (idx i : Nat) (a : StoredAccount) :
    nonceOf (tree.insert idx a) i = if i = idx then a.nonce else tree.nonceOf i := by
  rw [nonceOf, nonceOf]
  split
  next heq =>
    rw [heq, Finmap.lookup_insert]
    rfl
  next hne => rw [Finmap.lookup_insert_of_ne _ hne]

theorem nonceOf_of_lookup {tree : AccountTree} {idx : Nat} {a : StoredAccount} (h : tree.lookup idx = some a) :
    tree.nonceOf idx = a.nonce := by
  rw [nonceOf, h]
  rfl

theorem Moved.nonceOf {tree tree' : AccountTree} {idx : Nat} {delta : Int} {count : Nat}
    (h : Moved tree idx delta count tree') (i : Nat) :
    tree'.nonceOf i = tree.nonceOf i + if idx = i then count else 0 := by
  obtain ⟨a, a', ha, rfl, -, hnonce, -⟩ := h
  rw [nonceOf_insert]
  by_cases heq : i = idx
  · subst heq
    rw [if_pos rfl, if_pos rfl, nonceOf_of_lookup ha, hnonce]
  · rw [if_neg heq, if_neg (Ne.symm heq), Nat.add_zero]

end AccountTree

variable {coordIdxsMap : CoordIdxsMap}

namespace Rollup

open AccountTree TxProcessor

/-- No nonce moves. -/
def SameNonces (r r' : Rollup) : Prop :=
  ∀ i, r'.accounts.nonceOf i = r.accounts.nonceOf i

theorem SameNonces.refl (r : Rollup) : SameNonces r r := fun _ => rfl

theorem SameNonces.trans (r r' r'' : Rollup) (h : SameNonces r r') (h' : SameNonces r' r'') : SameNonces r r'' :=
  fun i => (h' i).trans (h i)

section Steps

variable [Libraries] {r r' : Rollup} {idx : Nat} {acc : Account} {amount : Int} {u : Unit}

theorem give_sameNonces : Within SameNonces (give idx amount) := by
  intro r u r' h i
  obtain ⟨acc, hget, hencodable, rfl⟩ := give_some.mp h
  obtain ⟨-, a, ha, rfl⟩ := getAccountInTreeDB_ok.mp hget
  rw [nonceOf_insert]
  split
  next heq =>
    rw [heq, nonceOf_of_lookup ha]
    rfl
  next => rfl

theorem take_sameNonces (h : take idx amount r = some (acc, r')) : SameNonces r r' := by
  obtain ⟨tree, hmoved, rfl, -⟩ := take_moved h
  intro i
  rw [hmoved.nonceOf i, ite_self, Nat.add_zero]

theorem pay_nonces {feeSel : FeeSelector} (h : pay coordIdxsMap idx amount feeSel r = some (acc, r')) (i : Nat) :
    r'.accounts.nonceOf i = r.accounts.nonceOf i + if idx = i then 1 else 0 := by
  obtain ⟨fee, r₁, tree, -, -, hmoved, rfl, -⟩ := pay_moved h
  exact hmoved.nonceOf i

theorem openAccount_sameNonces (hnonce : acc.nonce = 0) (h : openAccount acc r = some (u, r')) : SameNonces r r' := by
  obtain ⟨-, hfresh, hencodable, _, _, rfl⟩ := openAccount_inserts h
  intro i
  rw [nonceOf_insert]
  split
  next heq =>
    rw [heq, nonceOf, Finmap.lookup_eq_none.mpr hfresh]
    exact hnonce
  next => rfl

omit [Libraries] in
theorem advance_sameNonces (h : advance r = some (u, r')) : SameNonces r r' := by
  obtain ⟨-, rfl⟩ := advance_some.mp h
  exact .refl _

theorem leave_sameNonces {original : Int} {exit : ExitOut} (h : leave idx acc amount original r = some (exit, r')) :
    SameNonces r r' := by
  obtain ⟨exits, -, rfl⟩ := leave_exits h
  exact .refl _

theorem l1Tx_sameNonces (tx : L1Tx) : Within SameNonces (l1Tx tx) := by
  intro r out r' h
  obtain ⟨happly, -⟩ := l1Tx_some.mp h
  generalize out.2 = exit at happly
  cases applyL1_step happly with
  | forceTransfer _ htake hgive => exact .trans _ _ _ (take_sameNonces htake) (give_sameNonces _ _ _ hgive)
  | createAccountDeposit _ hopen hadvance =>
    exact .trans _ _ _ (openAccount_sameNonces rfl hopen) (advance_sameNonces hadvance)
  | deposit _ htake => exact take_sameNonces htake
  | depositTransfer _ htake hgive => exact .trans _ _ _ (take_sameNonces htake) (give_sameNonces _ _ _ hgive)
  | createAccountDepositTransfer _ _ hopen hgive hadvance =>
    exact .trans _ _ _ (openAccount_sameNonces rfl hopen)
      (.trans _ _ _ (give_sameNonces _ _ _ hgive) (advance_sameNonces hadvance))
  | forceExit _ htake hleave => exact .trans _ _ _ (take_sameNonces htake) (leave_sameNonces hleave)
  | unknown _ => exact .refl _

theorem l1Txs_sameNonces (txs : List L1Tx) : Within SameNonces (forEach l1Tx txs) :=
  .forEach .refl .trans l1Tx_sameNonces txs

/-- **An L2 transaction counts** in the nonce of its sender, and in no other. -/
theorem l2Tx_nonces {tx : PoolL2Tx} (hcharges : charges tx = true) {exit : ExitOut}
    (h : l2Tx coordIdxsMap tx r = some (exit, r')) (i : Nat) :
    r'.accounts.nonceOf i = r.accounts.nonceOf i + if tx.fromIdx = i then 1 else 0 := by
  cases l2Tx_step h with
  | transfer _ hpay hgive => rw [give_sameNonces _ _ _ hgive i, pay_nonces hpay i]
  | exit _ hpay hleave => rw [leave_sameNonces hleave i, pay_nonces hpay i]
  | unknown hunknown =>
    rw [hunknown] at hcharges
    cases hcharges

/-- Every transaction has the nonce and the token of its sender at the moment it is processed. -/
def FromSenders (coordIdxsMap : CoordIdxsMap) : List PoolL2Tx → Rollup → Prop
  | [], _ => True
  | tx :: rest, r => (∃ acc, r.getAccount tx.fromIdx = .ok acc ∧ tx.nonce = acc.nonce ∧ tx.tokenID = acc.tokenID) ∧
      ∀ exit r', l2Tx coordIdxsMap tx r = some (exit, r') → FromSenders coordIdxsMap rest r'

/-- **The nonces of one sender are consecutive**, and its account ends with the next one. -/
theorem FromSenders.nonces {txs : List PoolL2Tx} {exits : List ExitOut}
    (hcharges : ∀ tx ∈ txs, charges tx = true) (h : FromSenders coordIdxsMap txs r)
    (hrun : forEach (l2Tx coordIdxsMap) txs r = some (exits, r')) (idx : Nat) :
    ∃ k, (txs.filter (·.fromIdx = idx)).map PoolL2Tx.nonce = List.range' (r.accounts.nonceOf idx) k ∧
      r'.accounts.nonceOf idx = r.accounts.nonceOf idx + k := by
  induction txs generalizing r exits with
  | nil =>
    cases hrun
    exact ⟨0, rfl, rfl⟩
  | cons tx rest ih =>
    obtain ⟨exit, r₁, exits, hstep, hrest, rfl⟩ := forEach_cons_some.mp hrun
    obtain ⟨⟨acc, hacc, hnonce, -⟩, hsenders⟩ := h
    obtain ⟨k, hlist, hlast⟩ := ih (fun tx htx => hcharges tx (List.mem_cons_of_mem _ htx)) (hsenders _ _ hstep) hrest
    have hmoved := l2Tx_nonces (hcharges tx List.mem_cons_self) hstep idx
    by_cases heq : tx.fromIdx = idx
    · obtain ⟨-, a, ha, rfl⟩ := getAccountInTreeDB_ok.mp hacc
      rw [if_pos heq] at hmoved
      rw [heq] at ha
      refine ⟨k + 1, ?_, by omega⟩
      rw [List.filter_cons_of_pos (by simpa using heq), List.map_cons, hlist, hmoved, List.range'_succ, hnonce,
        nonceOf_of_lookup ha]
      rfl
    · rw [if_neg heq, Nat.add_zero] at hmoved
      rw [hmoved] at hlist hlast
      exact ⟨k, by rw [List.filter_cons_of_neg (by simpa using heq), hlist], hlast⟩

theorem payFee_sameNonces (idx : Nat) : Within SameNonces (payFee idx) := by
  intro r u r' h
  obtain ⟨_, _, hget, hgive⟩ := bind_some.mp h
  cases hget
  exact give_sameNonces _ _ _ hgive

end Steps

end Rollup

/-! ### What the synchronizer fills in -/

namespace TxProcessor

variable [Libraries] {s s' : TxProcessor}

theorem processL2Txs_fromSenders (hsync : s.state.typ = .synchronizer)
    (hready : FeesReady coordIdxsMap s) {coordIdxs : List Nat} {nTx : Nat} {txs txs' : List PoolL2Tx}
    {exits exits' : List (Option ProcessedExit)}
    (h : processL2Txs coordIdxsMap coordIdxs nTx txs exits s = .ok (txs', exits') s') :
    Rollup.FromSenders coordIdxsMap txs' s.rollup := by
  induction txs generalizing s exits txs' exits' with
  | nil =>
    obtain ⟨heq, rfl⟩ := pure_ok.mp h
    cases heq
    exact True.intro
  | cons tx rest ih =>
    obtain ⟨⟨tx₁, exit⟩, s₁, hprocess, h₁⟩ := bind_ok.mp h
    obtain ⟨_, s₂, hfill, h₂⟩ := bind_ok.mp h₁
    obtain ⟨exits₁, s₃, hclose, h₃⟩ := bind_ok.mp h₂
    obtain ⟨⟨txs₁, exits₂⟩, s₄, hrest, hret⟩ := bind_ok.mp h₃
    obtain ⟨heq, rfl⟩ := pure_ok.mp hret
    cases heq
    obtain ⟨⟨tx₀, -, hcompletes⟩, hspec, hkept⟩ := processL2Tx_ok hready hprocess
    obtain ⟨zki, rfl, hshape⟩ := onZKInputs_ok (fun _ _ => fillL2TxData_shape) hfill
    have hready₁ := hready.kept hkept (Rollup.l2Tx_evolves coordIdxsMap tx₁ _ _ _ hspec)
    have hs₃ := closeTx_ok hclose
    have hsync₃ : s₃.state.typ = .synchronizer := by
      rw [hs₃]
      exact hkept.typ.trans hsync
    have hready₃ : FeesReady coordIdxsMap s₃ := by
      rw [hs₃]
      exact hready₁
    have hrollup : s₃.rollup = s₁.rollup := by rw [hs₃]; rfl
    rw [Completes, if_pos hsync] at hcompletes
    obtain ⟨acc, hacc, rfl⟩ := hcompletes
    refine ⟨⟨acc, hacc, rfl, rfl⟩, fun exit' r' hspec' => ?_⟩
    rw [hspec] at hspec'
    cases hspec'
    exact hrollup ▸ ih hsync₃ hready₃ hrest

section Batch

variable {state : StateDB} {config : Config} {coordIdxs : List Nat} {l1UserTxs l1CoordinatorTxs : List L1Tx}
  {l2Txs : List PoolL2Tx} {out : ProcessTxOutput}

/-- **The synchronizer gives every L2 transaction the nonce and the token of its sender.** -/
theorem processTxs_fromSenders (hsync : state.typ = .synchronizer)
    (h : processTxs coordIdxs l1UserTxs l1CoordinatorTxs l2Txs (newTxProcessor state config) = .ok out s')
    {users coordinators : List (L1Tx × ExitOut)} {r₁ r₂ : Rollup} {idxs : List Nat} {map : CoordIdxsMap}
    (husers : forEach Rollup.l1Tx l1UserTxs (Rollup.start state) = some (users, r₁))
    (hcoordinators : forEach Rollup.l1Tx l1CoordinatorTxs r₁ = some (coordinators, r₂))
    (hfilter : filterCoordIdxs r₂.toStore coordIdxs [] = .ok idxs) (hmap : r₂.getTokenIDsFromIdxs idxs = .ok map) :
    Rollup.FromSenders map out.l2Txs { r₂ with fees := fun _ => 0 } := by
  obtain ⟨-, s₁, hbatch, rfl⟩ := processTxs_batch h
  obtain ⟨run⟩ := processBatch_run hbatch
  obtain ⟨_, hspecUsers, hkeptUsers, -⟩ := processL1UserTxs_ok run.husers
  obtain ⟨_, hspecCoordinators, hkeptCoordinators, -⟩ := processL1CoordinatorTxs_ok run.hcoordinators
  rw [startBatch_rollup] at hspecUsers
  cases hspecUsers.symm.trans husers
  cases hspecCoordinators.symm.trans hcoordinators
  cases (run.hfilter :).symm.trans hfilter
  cases (run.hmap :).symm.trans hmap
  obtain ⟨zki, hs₃⟩ := onZKInputs_zki run.hplan
  have hrollup : run.s₃.rollup = { run.s₂.rollup with fees := fun _ => 0 } := by
    rw [hs₃]
    exact startFees_rollup run.idxs run.map
  have hready : FeesReady run.map run.s₃ := by
    rw [hs₃]
    exact startFees_ready (coordPlan_of_filter run.hfilter run.hmap).1
  have htyp : run.s₃.state.typ = .synchronizer := by
    rw [hs₃]
    exact (hkeptCoordinators.typ.trans hkeptUsers.typ).trans hsync
  have hout : out.l2Txs = run.txs := (congrArg ProcessTxOutput.l2Txs run.hout).trans (batchOutput_txs _ _ _).2.2
  rw [hout, ← hrollup]
  exact processL2Txs_fromSenders htyp hready run.hl2

/-- The transactions of a batch have the nonces of their senders, and no other part of a batch moves a nonce. -/
theorem processTxs_nonces (hsync : state.typ = .synchronizer) (hcharges : ∀ tx ∈ l2Txs, Rollup.charges tx = true)
    (h : processTxs coordIdxs l1UserTxs l1CoordinatorTxs l2Txs (newTxProcessor state config) = .ok out s') (idx : Nat) :
    ∃ k, (out.l2Txs.filter (·.fromIdx = idx)).map PoolL2Tx.nonce = List.range' (state.accounts.nonceOf idx) k ∧
      s'.state.accounts.nonceOf idx = state.accounts.nonceOf idx + k := by
  obtain ⟨bout, r', hbatch, hstate, -, -, -, hfilled, -⟩ := processTxs_ok h
  obtain ⟨r₁, r₂, r₃, us, husers, hcoordinators, hfilter, hmap, hl2, hfees⟩ := Rollup.batch_some.mp hbatch
  have hcharged : ∀ tx ∈ out.l2Txs, Rollup.charges tx = true := by
    intro tx' htx'
    obtain ⟨tx, htx, hfilledIn⟩ := forall₂_of_mem_right hfilled htx'
    rw [hfilledIn.eq]
    exact hcharges tx htx
  obtain ⟨k, hlist, hlast⟩ :=
    (processTxs_fromSenders hsync h husers hcoordinators hfilter hmap).nonces hcharged hl2 idx
  have hfirst : r₂.accounts.nonceOf idx = state.accounts.nonceOf idx :=
    Rollup.SameNonces.trans _ _ _ (Rollup.l1Txs_sameNonces _ _ _ _ husers) (Rollup.l1Txs_sameNonces _ _ _ _ hcoordinators) idx
  have hend := Within.forEach Rollup.SameNonces.refl Rollup.SameNonces.trans Rollup.payFee_sameNonces _ _ _ _ hfees idx
  change _ = List.range' (r₂.accounts.nonceOf idx) k at hlist
  change _ = r₂.accounts.nonceOf idx + k at hlast
  rw [hfirst] at hlist hlast
  rw [hlast] at hend
  exact ⟨k, hlist, by rw [hstate]; exact hend⟩

end Batch

end TxProcessor

/-! ### Over all batches -/

/-- A transaction as `rollupSync` hands it over: with the type of its receiver, in the form of the pool. -/
def FromBatchData (tx : PoolL2Tx) : Prop :=
  ∃ read typed : L2Tx, read.setType = .ok typed ∧ tx = typed.poolL2Tx

theorem FromBatchData.charges {tx : PoolL2Tx} (h : FromBatchData tx) : Rollup.charges tx = true := by
  obtain ⟨read, typed, htype, rfl⟩ := h
  rw [L2Tx.setType] at htype
  split_ifs at htype <;> cases htype <;> rfl

/-- Batches that the synchronizer processes one after another, with the L2 transactions that it stores. -/
inductive SyncedBatches [Libraries] (start : StateDB) : List PoolL2Tx → StateDB → Prop
  | none : SyncedBatches start [] start
  | batch {stored : List PoolL2Tx} {state : StateDB} {config : Config} {coordIdxs : List Nat}
      {l1UserTxs l1CoordinatorTxs : List L1Tx} {l2Txs : List PoolL2Tx} {out : ProcessTxOutput} {s' : TxProcessor}
      (before : SyncedBatches start stored state) (hsync : state.typ = .synchronizer)
      (hl2Txs : ∀ tx ∈ l2Txs, FromBatchData tx)
      (h : TxProcessor.processTxs coordIdxs l1UserTxs l1CoordinatorTxs l2Txs (newTxProcessor state config) = .ok out s') :
      SyncedBatches start (stored ++ out.l2Txs) s'.state

theorem SyncedBatches.nonces [Libraries] {start state : StateDB} {stored : List PoolL2Tx}
    (h : SyncedBatches start stored state) (idx : Nat) :
    ∃ k, (stored.filter (·.fromIdx = idx)).map PoolL2Tx.nonce = List.range' (start.accounts.nonceOf idx) k ∧
      state.accounts.nonceOf idx = start.accounts.nonceOf idx + k := by
  induction h with
  | none => exact ⟨0, rfl, rfl⟩
  | batch _ hsync hl2Txs h ih =>
    obtain ⟨k, hlist, hlast⟩ := ih
    obtain ⟨k', hlist', hlast'⟩ := TxProcessor.processTxs_nonces hsync (fun tx htx => (hl2Txs tx htx).charges) h idx
    refine ⟨k + k', ?_, by omega⟩
    rw [List.filter_append, List.map_append, hlist, hlist', hlast, List.range'_append_1]

/-- **The nonces of every account are consecutive over all batches**: in the order in which they were forged, its L2
transactions have the nonces from that of the account at the start up to that of the account at the end.  So no two
forged L2 transactions share sender and nonce. -/
theorem syncedBatches_nonces_consecutive [Libraries] {start state : StateDB} {stored : List PoolL2Tx}
    (h : SyncedBatches start stored state) (idx : Nat) :
    start.accounts.nonceOf idx ≤ state.accounts.nonceOf idx ∧ (stored.filter (·.fromIdx = idx)).map PoolL2Tx.nonce =
      List.range' (start.accounts.nonceOf idx) (state.accounts.nonceOf idx - start.accounts.nonceOf idx) := by
  obtain ⟨k, hlist, hlast⟩ := h.nonces idx
  rw [hlist, hlast, Nat.add_sub_cancel_left]
  exact ⟨Nat.le_add_right _ _, rfl⟩

/-- Two exits of one account in a batch. -/
def twoExits : List PoolL2Tx :=
  [{ fromIdx := 256, toIdx := 1, amount := 3, type := some .exit },
   { fromIdx := 256, toIdx := 1, amount := 4, type := some .exit }]

theorem twoExits_nonces_consecutive :
    ∃ stored state, @SyncedBatches plainLibraries (oneAccountState .synchronizer) stored state ∧
      (stored.filter (·.fromIdx = 256)).map PoolL2Tx.nonce = [0, 1] := by
  have hrun : succeedsWith (fun _ s' => s'.state.accounts.nonceOf 256 = 2) (@TxProcessor.processTxs plainLibraries [] [] []
      twoExits (newTxProcessor (oneAccountState .synchronizer) smallConfig)) = true := by
    decide +kernel
  obtain ⟨out, s', hout, hnonce⟩ := exists_of_succeedsWith hrun
  have htyped : ∀ tx ∈ twoExits, FromBatchData tx := by
    intro tx htx
    refine ⟨{ fromIdx := 256, toIdx := 1, amount := tx.amount, fee := 0 }, _, rfl, ?_⟩
    simp only [twoExits, List.mem_cons, List.not_mem_nil, or_false] at htx
    rcases htx with rfl | rfl <;> rfl
  have hsynced := @SyncedBatches.batch plainLibraries (oneAccountState .synchronizer) _ _ _ _ _ _ _ _ _
    (@SyncedBatches.none plainLibraries _) rfl htyped hout
  refine ⟨_, _, hsynced, ?_⟩
  rw [(@syncedBatches_nonces_consecutive plainLibraries _ _ _ hsynced 256).2, of_decide_eq_true hnonce]
  rfl

end HermezRollup
