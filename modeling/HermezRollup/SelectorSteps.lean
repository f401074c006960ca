import HermezRollup.FailedL2Tx
import HermezRollup.TxSelector

/-! What one round of the transaction selector can do.  A round gives a verdict on one transaction of the pool: it can
never be forged in this batch, it is not selected now, or it is selected.  On the way accounts may be created, for the
fees and for the receiver, and they stay even when the transaction is not selected.  Everything else about the
selection is derived from these verdicts. -/

namespace HermezRollup

open Fallible

/-! ### What processing does not touch -/

namespace TxProcessor

/-- The parts of a processor that no transaction changes. -/
structure Frame where
  typ : TypeStateDB
  checkpoints : Nat → Option Store
  currentBatch : Nat
  withZKInputs : Bool
  withExitTree : Bool

def frame (s : TxProcessor) : Frame where
  typ := s.state.typ
  checkpoints := s.state.checkpoints
  currentBatch := s.state.currentBatch
  withZKInputs := s.zki.isSome
  withExitTree := s.exitTree.isSome

def Framed (f : Frame) (s : TxProcessor) : Prop :=
  s.frame = f

section

variable {f : Frame}

theorem framed_onStore {update : Store → Except Err Store}
    (h : ∀ store store', update store = .ok store' → store'.currentBatch = store.currentBatch) :
    Keeps (Framed f) (onStore update) := by
  intro s hs
  rw [onStore]
  cases hupdate : update s.state.toStore with
  | error e => exact hs
  | ok store =>
    have hbatch := h _ _ hupdate
    rw [← hs]
    simp only [finalState, Framed, frame, hbatch]

theorem framed_onZKInputs (fill : TxProcessor → ZKInputs → Except Err ZKInputs) :
    Keeps (Framed f) (onZKInputs fill) := by
  intro s hs
  rw [onZKInputs]
  cases hzki : s.zki with
  | none => exact hs
  | some zki =>
    dsimp only
    cases fill s zki with
    | error e => exact hs
    | ok zki' =>
      rw [← hs]
      simp only [finalState, Framed, frame, hzki, Option.isSome_some]

theorem framed_rememberAccount (idx : Nat) (account : Account) : Keeps (Framed f) (rememberAccount idx account) := by
  refine Keeps.modify fun s hs => ?_
  split
  · exact hs
  · exact hs

theorem framed_setCurrentIdx (idx : Nat) : Keeps (Framed f) (setCurrentIdx idx) := by
  refine framed_onStore fun store store' h => ?_
  obtain ⟨-, rfl⟩ := Store.setCurrentIdx_ok.mp h
  rfl

theorem framed_checkBalance (tx : Tx) (balance : Int) : Keeps (Framed f) (checkBalance tx balance) := by
  rw [checkBalance]
  split
  · exact .throw _
  · exact .pure _

theorem framed_getReceiver (fromIdx toIdx : Nat) (accSender : Account) :
    Keeps (Framed f) (getReceiver fromIdx toIdx accSender) := by
  rw [getReceiver]
  split
  · exact .pure _
  · exact .fromState _

theorem framed_collectFee (tokenID : TokenID) (fee : Int) : Keeps (Framed f) (collectFee tokenID fee) := by
  intro s hs
  rw [collectFee]
  split
  · exact hs
  · split
    · exact hs
    · exact hs

theorem framed_accumulateFee (coordIdxsMap : CoordIdxsMap) (tokenID : TokenID) (fee : Int) :
    Keeps (Framed f) (accumulateFee coordIdxsMap tokenID fee) := by
  rw [accumulateFee]
  split
  · exact .pure _
  · refine .bind (.fromState _) fun accCoord => ?_
    exact .bind (.modify fun s hs => hs) fun _ => framed_collectFee _ _

theorem framed_chargeSender (coordIdxsMap : CoordIdxsMap) (tx : Tx) (accSender : Account) :
    Keeps (Framed f) (chargeSender coordIdxsMap tx accSender) := by
  rw [chargeSender]
  split
  · exact .bind (framed_checkBalance _ _) fun _ => .pure _
  · refine .bind (.fromState _) fun fee => .bind (framed_checkBalance _ _) fun _ => ?_
    exact .bind (framed_accumulateFee _ _ _) fun _ => .pure _

theorem framed_findReceiver (tx : PoolL2Tx) : Keeps (Framed f) (findReceiver tx) := by
  rw [findReceiver]
  split
  · exact .fromState _
  · exact .pure _

theorem framed_completeL2Tx (tx : PoolL2Tx) : Keeps (Framed f) (completeL2Tx tx) := by
  refine .bind .get fun s => ?_
  split
  · exact .bind (.fromState _) fun acc => .pure _
  · exact .pure _

theorem framed_getCreatedAccount (type : Option TxType) : Keeps (Framed f) (getCreatedAccount type) := by
  refine .bind .get fun s => ?_
  split
  · exact .bind (.fromState _) fun acc => .pure _
  · exact .pure _

variable [Libraries]

theorem framed_createAccount (idx : Nat) (account : Account) : Keeps (Framed f) (createAccount idx account) := by
  refine .bind (framed_rememberAccount idx account) fun _ => framed_onStore fun store store' h => ?_
  obtain ⟨-, -, _, _, _, rfl⟩ := Store.createAccount_ok h
  rfl

theorem framed_updateAccount (idx : Nat) (account : Account) : Keeps (Framed f) (updateAccount idx account) := by
  refine .bind (framed_rememberAccount idx account) fun _ => framed_onStore fun store store' h => ?_
  obtain ⟨-, _, rfl⟩ := Store.updateAccount_ok.mp h
  rfl

theorem framed_creditReceiver (fromIdx toIdx : Nat) (accSender : Account) (amount : Int) :
    Keeps (Framed f) (creditReceiver fromIdx toIdx accSender amount) :=
  .bind (framed_getReceiver _ _ _) fun _ => framed_updateAccount _ _

theorem framed_applyCreateAccount (tx : L1Tx) : Keeps (Framed f) (applyCreateAccount tx) :=
  .bind .get fun _ => .bind (framed_createAccount _ _) fun _ => .bind (framed_onZKInputs _) fun _ =>
    framed_setCurrentIdx _

theorem framed_applyDeposit (tx : L1Tx) (transfer : Bool) : Keeps (Framed f) (applyDeposit tx transfer) := by
  refine .bind (.fromState _) fun accSender => .bind (framed_checkBalance _ _) fun _ => ?_
  refine .bind (framed_updateAccount _ _) fun _ => ?_
  split
  · exact framed_creditReceiver _ _ _ _
  · exact .pure _

theorem framed_applyTransfer (coordIdxsMap : CoordIdxsMap) (tx : Tx) (auxToIdx : Nat) :
    Keeps (Framed f) (applyTransfer coordIdxsMap tx auxToIdx) :=
  .bind (.fromState _) fun _ => .bind (framed_chargeSender _ _ _) fun _ => .bind (framed_updateAccount _ _) fun _ =>
    framed_creditReceiver _ _ _ _

theorem framed_applyCreateAccountDepositTransfer (tx : L1Tx) :
    Keeps (Framed f) (applyCreateAccountDepositTransfer tx) :=
  .bind .get fun _ => .bind (framed_checkBalance _ _) fun _ => .bind (framed_createAccount _ _) fun _ =>
    .bind (framed_onZKInputs _) fun _ => .bind (framed_creditReceiver _ _ _ _) fun _ => framed_setCurrentIdx _

theorem framed_applyExit (coordIdxsMap : CoordIdxsMap) (tx : Tx) (originalAmount : Int) :
    Keeps (Framed f) (applyExit coordIdxsMap tx originalAmount) := by
  refine .bind (.fromState _) fun acc => .bind (framed_chargeSender _ _ _) fun acc' => ?_
  refine .bind (framed_updateAccount _ _) fun _ => keeps_get_bind fun s hs => ?_
  cases htree : s.exitTree with
  | none => exact hs
  | some tree =>
    dsimp only
    split
    · exact hs
    · rw [applyExitLeaf]
      cases hrun : (fromState (fun _ => exitLeaf tree tx.fromIdx acc' tx.amount) : TxProc (AccountTree × ExitOut)) s with
      | error e t =>
        rw [bind_error.mpr (Or.inl hrun)]
        obtain ⟨-, rfl⟩ := fromState_error.mp hrun
        exact hs
      | ok out t =>
        obtain ⟨-, rfl⟩ := fromState_ok.mp hrun
        rw [bind_of_ok hrun]
        dsimp only
        rw [bind_of_ok (modify_run _ _)]
        refine Keeps.bind (framed_onZKInputs _) (fun _ => .pure _) _ ?_
        rw [← hs]
        simp only [Framed, frame, htree, Option.isSome_some]

theorem framed_applyL1Tx (tx : L1Tx) : Keeps (Framed f) (applyL1Tx tx) := by
  refine .bind .get fun s => ?_
  split
  · exact .bind (framed_applyTransfer _ _ _) fun _ => .pure _
  · exact .bind (framed_applyCreateAccount _) fun _ => .pure _
  · exact .bind (framed_applyDeposit _ _) fun _ => .pure _
  · exact .bind (framed_applyDeposit _ _) fun _ => .pure _
  · exact .bind (framed_applyCreateAccountDepositTransfer _) fun _ => .pure _
  · exact .bind (framed_applyExit _ _ _) fun _ => .pure _
  · exact .pure _

theorem framed_processL1Tx (tx : L1Tx) : Keeps (Framed f) (processL1Tx tx) :=
  .bind (framed_onZKInputs _) fun _ => .bind (framed_applyL1Tx _) fun _ => .bind (framed_getCreatedAccount _) fun _ =>
    .pure _

theorem framed_applyL2Tx (coordIdxsMap : CoordIdxsMap) (tx : PoolL2Tx) : Keeps (Framed f) (applyL2Tx coordIdxsMap tx) := by
  rcases applyL2Tx_cases coordIdxsMap tx with heq | heq | heq
  · rw [heq]
    exact .bind (framed_applyTransfer _ _ _) fun _ => .pure _
  · rw [heq]
    exact framed_applyExit _ _ _
  · rw [heq]
    exact .pure _

theorem framed_processL2Tx (coordIdxsMap : CoordIdxsMap) (tx : PoolL2Tx) :
    Keeps (Framed f) (processL2Tx coordIdxsMap tx) :=
  .bind (framed_findReceiver _) fun _ => .bind (framed_onZKInputs _) fun _ => .bind (framed_completeL2Tx _) fun _ =>
    .bind (framed_applyL2Tx _ _) fun _ => .pure _

end

end TxProcessor

/-! ### Verdicts -/

/-- What a round makes of a transaction, as it then is.  The iteration has the creations of accounts on the way. -/
inductive Verdict where
  | unforjable (ite : Iteration) (l2Tx : PoolL2Tx) (reason : TxSelectorError)
  | nonSelected (ite : Iteration) (l2Tx : PoolL2Tx) (reason : TxSelectorError)
  | selected (ite : Iteration) (l2Tx : PoolL2Tx)

namespace Verdict

def iteration : Verdict → Iteration
  | unforjable ite _ _ => ite
  | nonSelected ite _ _ => ite
  | selected ite _ => ite

def l2Tx : Verdict → PoolL2Tx
  | unforjable _ l2Tx _ => l2Tx
  | nonSelected _ l2Tx _ => l2Tx
  | selected _ l2Tx => l2Tx

def reason : Verdict → Option TxSelectorError
  | unforjable _ _ reason => some reason
  | nonSelected _ _ reason => some reason
  | selected _ _ => none

def recorded : Verdict → Iteration
  | unforjable ite l2Tx reason => ite.addUnforjable (l2Tx.explain reason)
  | nonSelected ite l2Tx reason => ite.addNonSelected (l2Tx.explain reason)
  | selected ite l2Tx => ite.addSelected l2Tx

/-- The end of a round: a transaction of a group that is not selected stops the selection. -/
def conclude (v : Verdict) : SelectM Iteration :=
  match v.reason with
  | none => pure v.recorded
  | some reason =>
    if v.l2Tx.atomicGroupID ≠ 0 then
      throw (.failedGroup { id := v.l2Tx.atomicGroupID, failedTxID := v.l2Tx.txID, reason })
    else pure v.recorded

variable {v : Verdict} {ite : Iteration} {s s' : TxProcessor} {group : FailedAtomicGroup} {stop : Stop}

theorem conclude_ok (h : v.conclude s = .ok ite s') :
    ite = v.recorded ∧ s' = s ∧ (v.reason ≠ none → v.l2Tx.atomicGroupID = 0) := by
  rw [conclude] at h
  cases hreason : v.reason with
  | none =>
    rw [hreason] at h
    cases h
    exact ⟨rfl, rfl, fun hne => absurd rfl hne⟩
  | some reason =>
    rw [hreason] at h
    dsimp only at h
    split at h
    next => cases h
    next hgroup =>
      cases h
      exact ⟨rfl, rfl, fun _ => not_not.mp hgroup⟩

theorem conclude_error (h : v.conclude s = .error stop s') :
    s' = s ∧ v.l2Tx.atomicGroupID ≠ 0 ∧ ∃ reason, v.reason = some reason ∧
      stop = .failedGroup { id := v.l2Tx.atomicGroupID, failedTxID := v.l2Tx.txID, reason } := by
  rw [conclude] at h
  cases hreason : v.reason with
  | none =>
    rw [hreason] at h
    cases h
  | some reason =>
    rw [hreason] at h
    dsimp only at h
    split at h
    next hgroup =>
      cases h
      exact ⟨rfl, hgroup, reason, rfl, rfl⟩
    next => cases h

end Verdict

/-- A computation that stops only at errors. -/
def OnlyErr {α : Type} (x : SelectM α) : Prop :=
  ∀ s stop s', x s = .error stop s' → ∃ e, stop = .err e

namespace OnlyErr

variable {α β : Type}

theorem pure (a : α) : OnlyErr (pure a) := by
  intro s stop s' h
  cases h

theorem get : OnlyErr get := by
  intro s stop s' h
  cases h

theorem modify (f : TxProcessor → TxProcessor) : OnlyErr (modify f) := by
  intro s stop s' h
  cases h

theorem withErr (x : TxProc α) : OnlyErr (withError .err x) := by
  intro s stop s' h
  obtain ⟨e, -, rfl⟩ := withError_error.mp h
  exact ⟨e, rfl⟩

theorem attempt (x : TxProc α) : OnlyErr (attempt x) := by
  intro s stop s' h
  rw [Fallible.attempt] at h
  split at h
  · cases h
  · cases h

theorem bind {x : SelectM α} {f : α → SelectM β} (hx : OnlyErr x) (hf : ∀ a, OnlyErr (f a)) : OnlyErr (x >>= f) := by
  intro s stop s' h
  rcases bind_error.mp h with hfirst | ⟨a, t, -, hrest⟩
  · exact hx s stop s' hfirst
  · exact hf a t stop s' hrest

end OnlyErr

/-- A transaction as the selector completes it, with the token of its sender. -/
def PoolL2Tx.sentBy (l2Tx : PoolL2Tx) (accSender : Account) : PoolL2Tx :=
  { l2Tx with tokenID := accSender.tokenID }

namespace TxSelector

/-! ### The receiver -/

variable {store : Store}

section

variable {txsel : TxSelector} {selectionConfig : Config} {l1UserFutureTxs : List L1Tx} {l2Tx : PoolL2Tx}
  {ite : Iteration}

/-- The ways in which `processTxToEthAddrBJJ` lets a transaction pass: the receiver has an account, or names none, or its
account is created with an authorization or for its key. -/
inductive Resolved (txsel : TxSelector) (store : Store) (selectionConfig : Config) (ite : Iteration) (l2Tx : PoolL2Tx) :
    Option L1Tx × Option AccountCreationAuth → Prop
  | found {idx : Nat} (hidx : store.getIdxByEthAddrBJJ l2Tx.toEthAddr l2Tx.toBJJ l2Tx.tokenID = .ok idx) :
      Resolved txsel store selectionConfig ite l2Tx (none, none)
  | unnamed (hnone : l2Tx.toEthAddr = emptyAddr ∨ l2Tx.toEthAddr = ffAddr ∧ l2Tx.toBJJ = emptyBJJComp) :
      Resolved txsel store selectionConfig ite l2Tx (none, none)
  | authorized {accAuth : AccountCreationAuth} {e : Err} (haddr : l2Tx.toEthAddr ≠ emptyAddr ∧ l2Tx.toEthAddr ≠ ffAddr)
      (hmissing : store.getIdxByEthAddrBJJ l2Tx.toEthAddr l2Tx.toBJJ l2Tx.tokenID = .error e)
      (hauth : txsel.l2db.getAccountCreationAuth l2Tx.toEthAddr = some accAuth)
      (hbjj : l2Tx.toBJJ ≠ emptyBJJComp → accAuth.bjj = l2Tx.toBJJ)
      (hroom : canAddL2TxThatNeedsNewCoordL1Tx ite.nAlreadyProcessedL1Txs ite.nAlreadyProcessedL2Txs selectionConfig =
        true) :
      Resolved txsel store selectionConfig ite l2Tx
        (some (creationTx ite.positionL1 accAuth.ethAddr accAuth.bjj l2Tx.tokenID), some accAuth)
  | key {e : Err} (haddr : l2Tx.toEthAddr = ffAddr) (hbjj : l2Tx.toBJJ ≠ emptyBJJComp)
      (hmissing : store.getIdxByEthAddrBJJ l2Tx.toEthAddr l2Tx.toBJJ l2Tx.tokenID = .error e)
      (hroom : canAddL2TxThatNeedsNewCoordL1Tx ite.nAlreadyProcessedL1Txs ite.nAlreadyProcessedL2Txs selectionConfig =
        true) :
      Resolved txsel store selectionConfig ite l2Tx
        (some (creationTx ite.positionL1 l2Tx.toEthAddr l2Tx.toBJJ l2Tx.tokenID), none)

theorem withFreeSlot_ok {creation out : Option L1Tx × Option AccountCreationAuth}
    (h : withFreeSlot ite selectionConfig creation = .ok out) :
    canAddL2TxThatNeedsNewCoordL1Tx ite.nAlreadyProcessedL1Txs ite.nAlreadyProcessedL2Txs selectionConfig = true ∧
      out = creation := by
  rw [withFreeSlot] at h
  split at h
  next hroom =>
    cases h
    exact ⟨hroom, rfl⟩
  next => cases h

theorem getIdxByEthAddrBJJ_of_emptyBJJComp {addr : Address} (haddr : addr ≠ emptyAddr)
    (tokenID : TokenID) : store.getIdxByEthAddrBJJ addr emptyBJJComp tokenID = store.getIdxByEthAddr addr tokenID := by
  rw [Store.getIdxByEthAddrBJJ, if_pos ⟨haddr, rfl⟩]

theorem creationForEthAddr_ok {positionL1 : Nat} {out : Option (L1Tx × AccountCreationAuth)}
    (haddr : l2Tx.toEthAddr ≠ emptyAddr) (h : txsel.creationForEthAddr store positionL1 l2Tx = .ok out) :
    (out = none ∧ ∃ idx, store.getIdxByEthAddrBJJ l2Tx.toEthAddr l2Tx.toBJJ l2Tx.tokenID = .ok idx) ∨
      ∃ accAuth e, store.getIdxByEthAddrBJJ l2Tx.toEthAddr l2Tx.toBJJ l2Tx.tokenID = .error e ∧
        txsel.l2db.getAccountCreationAuth l2Tx.toEthAddr = some accAuth ∧
        (l2Tx.toBJJ ≠ emptyBJJComp → accAuth.bjj = l2Tx.toBJJ) ∧
        out = some (creationTx positionL1 accAuth.ethAddr accAuth.bjj l2Tx.tokenID, accAuth) := by
  rw [creationForEthAddr] at h
  dsimp only at h
  split at h
  next hbjj =>
    split at h
    next idx hidx =>
      cases h
      exact Or.inl ⟨rfl, idx, hidx⟩
    next e hidx =>
      split at h
      next => cases h
      next accAuth hauth =>
        split at h
        next => cases h
        next hsame =>
          cases h
          exact Or.inr ⟨accAuth, e, hidx, hauth, fun _ => not_not.mp hsame, rfl⟩
  next hbjj =>
    have hbjj := not_not.mp hbjj
    rw [hbjj, getIdxByEthAddrBJJ_of_emptyBJJComp haddr]
    split at h
    next idx hidx =>
      cases h
      exact Or.inl ⟨rfl, idx, hidx⟩
    next e hidx =>
      split at h
      next => cases h
      next accAuth hauth =>
        cases h
        exact Or.inr ⟨accAuth, e, hidx, hauth, fun hne => absurd rfl hne, rfl⟩

theorem processTxToEthAddrBJJ_ok {out : Option L1Tx × Option AccountCreationAuth}
    (h : txsel.processTxToEthAddrBJJ store selectionConfig l1UserFutureTxs ite l2Tx = .ok out) :
    checkPendingToCreateFutureTxs l1UserFutureTxs l2Tx.tokenID l2Tx.toEthAddr l2Tx.toBJJ = false ∧
      Resolved txsel store selectionConfig ite l2Tx out := by
  rw [processTxToEthAddrBJJ] at h
  split at h
  next => cases h
  next hfuture =>
  refine ⟨Bool.eq_false_of_not_eq_true hfuture, ?_⟩
  split at h
  next haddr =>
    split at h
    next => cases h
    next hcreation =>
      cases h
      rcases creationForEthAddr_ok haddr.1 hcreation with ⟨-, idx, hidx⟩ | ⟨_, _, _, _, _, hsome⟩
      · exact .found hidx
      · cases hsome
    next hcreation =>
      obtain ⟨hroom, rfl⟩ := withFreeSlot_ok h
      rcases creationForEthAddr_ok haddr.1 hcreation with ⟨hnone, -⟩ | ⟨accAuth, e, hmissing, hauth, hbjj, hsome⟩
      · cases hnone
      · cases hsome
        exact .authorized haddr hmissing hauth hbjj hroom
  next hnotAddr =>
  split at h
  next hkey =>
    split at h
    next idx hidx =>
      cases h
      exact .found hidx
    next e hmissing =>
      obtain ⟨hroom, rfl⟩ := withFreeSlot_ok h
      exact .key hkey.1 hkey.2 hmissing hroom
  next hnotKey =>
    obtain ⟨-, rfl⟩ := withFreeSlot_ok h
    refine .unnamed ?_
    by_cases hempty : l2Tx.toEthAddr = emptyAddr
    · exact Or.inl hempty
    · have hff : l2Tx.toEthAddr = ffAddr := by
        by_contra hne
        exact hnotAddr ⟨hempty, hne⟩
      exact Or.inr ⟨hff, by_contra fun hne => hnotKey ⟨hff, hne⟩⟩

theorem Resolved.addReceiverCreation {l1CoordinatorTx : L1Tx} {accAuth : Option AccountCreationAuth}
    (h : Resolved txsel store selectionConfig ite l2Tx (some l1CoordinatorTx, accAuth)) :
    ∃ auth, ite.addReceiverCreation l2Tx l1CoordinatorTx accAuth = ite.addL1CoordinatorTx l1CoordinatorTx auth := by
  cases h with
  | authorized haddr =>
    rw [Iteration.addReceiverCreation, if_neg haddr.2]
    exact ⟨_, rfl⟩
  | key haddr =>
    rw [Iteration.addReceiverCreation, if_pos haddr]
    exact ⟨_, rfl⟩

end

/-! ### All ways to a verdict -/

section

variable [Libraries] (txsel : TxSelector) (selectionConfig : Config) (l1UserFutureTxs : List L1Tx)

/-- The checks that come before the accounts: the batch is not too late, an exit is not empty, and the sender exists, can
pay and has the nonce. -/
structure Payable (l2Tx : PoolL2Tx) (store : Store) (accSender : Account) : Prop where
  inTime : ¬(l2Tx.maxNumBatch ≠ 0 ∧ l2Tx.maxNumBatch < nextBatchNum store)
  notEmptyExit : ¬(l2Tx.type = some .exit ∧ l2Tx.amount ≤ 0)
  sender : store.getAccount l2Tx.fromIdx = .ok accSender

inductive Judged (l2Tx : PoolL2Tx) (ite : Iteration) (s : TxProcessor) : Verdict → TxProcessor → Prop
  | tooLate (hlate : l2Tx.maxNumBatch ≠ 0 ∧ l2Tx.maxNumBatch < nextBatchNum s.state.toStore) :
      Judged l2Tx ite s (.unforjable ite l2Tx errUnsupportedMaxNumBatch) s
  | emptyExit (hinTime : ¬(l2Tx.maxNumBatch ≠ 0 ∧ l2Tx.maxNumBatch < nextBatchNum s.state.toStore))
      (hexit : l2Tx.type = some .exit ∧ l2Tx.amount ≤ 0) :
      Judged l2Tx ite s (.unforjable ite l2Tx errExitAmount) s
  | unfitSender {accSender : Account} {reason : TxSelectorError} (hpayable : Payable l2Tx s.state.toStore accSender)
      (hsender : checkSender s.state.toStore accSender (l2Tx.sentBy accSender) = some reason) :
      Judged l2Tx ite s (.nonSelected ite (l2Tx.sentBy accSender) reason) s
  | noCoordAccount {accSender : Account} {reason : TxSelectorError} {s' : TxProcessor}
      (hpayable : Payable l2Tx s.state.toStore accSender)
      (hsender : checkSender s.state.toStore accSender (l2Tx.sentBy accSender) = none)
      (hcoord : txsel.provideCoordAccount selectionConfig accSender.tokenID ite s = .ok (.error reason) s') :
      Judged l2Tx ite s (.nonSelected ite (l2Tx.sentBy accSender) reason) s'
  | noReceiver {accSender : Account} {reason : TxSelectorError} {ite₁ : Iteration} {s₁ s' : TxProcessor}
      (hpayable : Payable l2Tx s.state.toStore accSender)
      (hsender : checkSender s.state.toStore accSender (l2Tx.sentBy accSender) = none)
      (hcoord : txsel.provideCoordAccount selectionConfig accSender.tokenID ite s = .ok (.ok ite₁) s₁)
      (hreceiver : txsel.provideReceiver selectionConfig l1UserFutureTxs (l2Tx.sentBy accSender) ite₁ s₁ =
        .ok (.error reason) s') :
      Judged l2Tx ite s (.nonSelected ite₁ (l2Tx.sentBy accSender) reason) s'
  | fails {accSender : Account} {reason : TxSelectorError} {l2Tx' : PoolL2Tx} {ite₁ ite₂ : Iteration}
      {s₁ s₂ s' : TxProcessor} (hpayable : Payable l2Tx s.state.toStore accSender)
      (hsender : checkSender s.state.toStore accSender (l2Tx.sentBy accSender) = none)
      (hcoord : txsel.provideCoordAccount selectionConfig accSender.tokenID ite s = .ok (.ok ite₁) s₁)
      (hreceiver : txsel.provideReceiver selectionConfig l1UserFutureTxs (l2Tx.sentBy accSender) ite₁ s₁ =
        .ok (.ok ite₂) s₂)
      (hprocess : txsel.processSelected accSender.tokenID (l2Tx.sentBy accSender) s₂ = .ok (.error (reason, l2Tx')) s') :
      Judged l2Tx ite s (.nonSelected ite₂ l2Tx' reason) s'
  | selected {accSender : Account} {l2Tx' : PoolL2Tx} {ite₁ ite₂ : Iteration} {s₁ s₂ s' : TxProcessor}
      (hpayable : Payable l2Tx s.state.toStore accSender)
      (hsender : checkSender s.state.toStore accSender (l2Tx.sentBy accSender) = none)
      (hcoord : txsel.provideCoordAccount selectionConfig accSender.tokenID ite s = .ok (.ok ite₁) s₁)
      (hreceiver : txsel.provideReceiver selectionConfig l1UserFutureTxs (l2Tx.sentBy accSender) ite₁ s₁ =
        .ok (.ok ite₂) s₂)
      (hprocess : txsel.processSelected accSender.tokenID (l2Tx.sentBy accSender) s₂ = .ok (.ok l2Tx') s') :
      Judged l2Tx ite s (.selected ite₂ l2Tx') s'

variable {txsel selectionConfig l1UserFutureTxs} {l2Tx l2Tx' : PoolL2Tx} {ite ite' : Iteration} {s s' : TxProcessor}

theorem onlyErr_provideCoordAccount (txsel : TxSelector) (selectionConfig : Config) (tokenID : TokenID)
    (ite : Iteration) : OnlyErr (txsel.provideCoordAccount selectionConfig tokenID ite) := by
  refine .bind (.withErr _) fun newL1CoordTx => ?_
  cases newL1CoordTx with
  | none => exact .pure _
  | some newL1CoordTx =>
    dsimp only
    split
    · exact .bind (.withErr _) fun _ => .pure _
    · exact .pure _

theorem onlyErr_provideReceiver (txsel : TxSelector) (selectionConfig : Config) (l1UserFutureTxs : List L1Tx)
    (l2Tx : PoolL2Tx) (ite : Iteration) : OnlyErr (txsel.provideReceiver selectionConfig l1UserFutureTxs l2Tx ite) := by
  refine .bind .get fun s => ?_
  dsimp only
  split
  · split
    · exact .pure _
    · exact .pure _
    · exact .bind (.withErr _) fun _ => .pure _
  · split
    · split
      · exact .pure _
      · exact .pure _
    · exact .pure _

theorem onlyErr_processSelected (txsel : TxSelector) (tokenID : TokenID) (l2Tx : PoolL2Tx) :
    OnlyErr (txsel.processSelected tokenID l2Tx) := by
  refine .bind (.withErr _) fun coordIdx => .bind (.modify _) fun _ => .bind .get fun s => ?_
  refine .bind (.attempt _) fun out => ?_
  cases out with
  | error e => exact .pure _
  | ok out => exact .pure _

omit [Libraries] in
theorem giveUp_bind {reason : TxSelectorError} {v : Verdict} (hv : v.reason = some reason)
    (add : PoolL2Tx → Iteration) (hadd : v.recorded = add (v.l2Tx.explain reason)) :
    (giveUp v.l2Tx reason >>= fun l2Tx => (return add l2Tx : SelectM Iteration)) = v.conclude := by
  rw [Verdict.conclude, hv, giveUp]
  dsimp only
  split
  · rfl
  · rw [hadd]
    rfl

/-- How a round ends: in an error or with a verdict. -/
def Concluded (txsel : TxSelector) (selectionConfig : Config) (l1UserFutureTxs : List L1Tx) (l2Tx : PoolL2Tx)
    (ite : Iteration) (s : TxProcessor) (result : EStateM.Result Stop TxProcessor Iteration) : Prop :=
  (∃ e s', result = .error (.err e) s') ∨
    ∃ v s', Judged txsel selectionConfig l1UserFutureTxs l2Tx ite s v s' ∧ result = v.conclude s'

theorem concluded_bind {α : Type} {x : SelectM α} {f : α → SelectM Iteration} {s₁ : TxProcessor} (hx : OnlyErr x)
    (h : ∀ a s₂, x s₁ = .ok a s₂ → Concluded txsel selectionConfig l1UserFutureTxs l2Tx ite s (f a s₂)) :
    Concluded txsel selectionConfig l1UserFutureTxs l2Tx ite s ((x >>= f) s₁) := by
  cases hrun : x s₁ with
  | error stop s₂ =>
    obtain ⟨e, rfl⟩ := hx _ _ _ hrun
    exact Or.inl ⟨e, s₂, bind_error.mpr (Or.inl hrun)⟩
  | ok a s₂ =>
    rw [bind_of_ok hrun]
    exact h a s₂ hrun

theorem concluded_unforjable {reason : TxSelectorError}
    (h : Judged txsel selectionConfig l1UserFutureTxs l2Tx ite s (.unforjable ite' l2Tx' reason) s') :
    Concluded txsel selectionConfig l1UserFutureTxs l2Tx ite s
      ((giveUp l2Tx' reason >>= fun l2Tx => (return ite'.addUnforjable l2Tx : SelectM Iteration)) s') :=
  Or.inr ⟨_, _, h, by rw [← giveUp_bind (v := .unforjable ite' l2Tx' reason) rfl ite'.addUnforjable rfl]; rfl⟩

theorem concluded_nonSelected {reason : TxSelectorError}
    (h : Judged txsel selectionConfig l1UserFutureTxs l2Tx ite s (.nonSelected ite' l2Tx' reason) s') :
    Concluded txsel selectionConfig l1UserFutureTxs l2Tx ite s
      ((giveUp l2Tx' reason >>= fun l2Tx => (return ite'.addNonSelected l2Tx : SelectM Iteration)) s') :=
  Or.inr ⟨_, _, h, by rw [← giveUp_bind (v := .nonSelected ite' l2Tx' reason) rfl ite'.addNonSelected rfl]; rfl⟩

/-- **A round ends in an error or with a verdict.** -/
theorem lookAt_concluded (txsel : TxSelector) (selectionConfig : Config) (l1UserFutureTxs : List L1Tx) (l2Tx : PoolL2Tx)
    (ite : Iteration) (s : TxProcessor) :
    Concluded txsel selectionConfig l1UserFutureTxs l2Tx ite s
      (txsel.lookAt selectionConfig l1UserFutureTxs l2Tx ite s) := by
  rw [lookAt, bind_of_ok (get_run s)]
  dsimp only
  split
  next hlate => exact concluded_unforjable (.tooLate hlate)
  next hinTime =>
  split
  next hexit => exact concluded_unforjable (.emptyExit hinTime hexit)
  next hnotExit =>
  refine concluded_bind (.withErr _) fun accSender s₁ hget => ?_
  obtain ⟨haccount, rfl⟩ := fromState_ok.mp (withError_ok.mp hget)
  have hpayable : Payable l2Tx s₁.state.toStore accSender := ⟨hinTime, hnotExit, haccount⟩
  have hsent : { l2Tx with tokenID := accSender.tokenID } = l2Tx.sentBy accSender := rfl
  rw [hsent]
  cases hsender : checkSender s₁.state.toStore accSender (l2Tx.sentBy accSender) with
  | some reason => exact concluded_nonSelected (.unfitSender hpayable hsender)
  | none =>
  refine concluded_bind (onlyErr_provideCoordAccount _ _ _ _) fun out s₂ hcoord => ?_
  cases out with
  | error reason => exact concluded_nonSelected (.noCoordAccount hpayable hsender hcoord)
  | ok ite₁ =>
  refine concluded_bind (onlyErr_provideReceiver _ _ _ _ _) fun out s₃ hreceiver => ?_
  cases out with
  | error reason => exact concluded_nonSelected (.noReceiver hpayable hsender hcoord hreceiver)
  | ok ite₂ =>
  refine concluded_bind (onlyErr_processSelected _ _ _) fun out s₄ hprocess => ?_
  cases out with
  | error failure => exact concluded_nonSelected (.fails hpayable hsender hcoord hreceiver hprocess)
  | ok l2Tx' => exact Or.inr ⟨_, _, .selected hpayable hsender hcoord hreceiver hprocess, rfl⟩

/-! ### The accounts that a round needs -/

/-- The account for the fees is there, or cannot be created for lack of room, or is created. -/
theorem provideCoordAccount_ok {tokenID : TokenID} {out : Except TxSelectorError Iteration}
    (h : txsel.provideCoordAccount selectionConfig tokenID ite s = .ok out s') :
    ((∃ idx, txsel.getCoordIdx s.state.toStore tokenID = .ok idx) ∧ out = .ok ite ∧ s' = s) ∨
      txsel.getCoordIdx s.state.toStore tokenID = .error .idxNotFound ∧
        (canAddL2TxThatNeedsNewCoordL1Tx ite.nAlreadyProcessedL1Txs ite.nAlreadyProcessedL2Txs selectionConfig = false ∧
            out = .error errNotEnoughSpaceL1Coordinator ∧ s' = s ∨
          canAddL2TxThatNeedsNewCoordL1Tx ite.nAlreadyProcessedL1Txs ite.nAlreadyProcessedL2Txs selectionConfig = true ∧
            ∃ l1Out, TxProcessor.processL1Tx
                (creationTx ite.positionL1 txsel.coordAccount.addr txsel.coordAccount.bjj tokenID) s = .ok l1Out s' ∧
              out = .ok (ite.addL1CoordinatorTx
                (creationTx ite.positionL1 txsel.coordAccount.addr txsel.coordAccount.bjj tokenID)
                txsel.coordAccount.accountCreationAuth).countL1Tx) := by
  rw [provideCoordAccount] at h
  obtain ⟨newL1CoordTx, s₁, hnew, hrest⟩ := bind_ok.mp h
  obtain ⟨hnew, rfl⟩ := fromState_ok.mp (withError_ok.mp hnew)
  rw [coordAccountForTokenID] at hnew
  cases hidx : txsel.getCoordIdx s₁.state.toStore tokenID with
  | ok idx =>
    rw [hidx] at hnew
    cases hnew
    cases hrest
    exact Or.inl ⟨⟨idx, rfl⟩, rfl, rfl⟩
  | error e =>
    rw [hidx] at hnew
    cases e
    case idxNotFound =>
      cases hnew
      refine Or.inr ⟨rfl, ?_⟩
      dsimp only at hrest
      split at hrest
      next hroom =>
        obtain ⟨l1Out, s₂, hprocess, hreturn⟩ := bind_ok.mp hrest
        cases hreturn
        exact Or.inr ⟨hroom, l1Out, withError_ok.mp hprocess, rfl⟩
      next hroom =>
        cases hrest
        exact Or.inl ⟨Bool.eq_false_of_not_eq_true hroom, rfl, rfl⟩
    all_goals cases hnew

/-- The receiver is created, or nothing changes: it is an address or a key that needs no account, or an index that has
one, or there is none, as for exits. -/
theorem provideReceiver_ok (h : txsel.provideReceiver selectionConfig l1UserFutureTxs l2Tx ite s = .ok (.ok ite') s') :
    (ite' = ite ∧ s' = s ∧
      (l2Tx.toIdx = 0 ∧
          checkPendingToCreateFutureTxs l1UserFutureTxs l2Tx.tokenID l2Tx.toEthAddr l2Tx.toBJJ = false ∧
          Resolved txsel s.state.toStore selectionConfig ite l2Tx (none, none) ∨
        userThreshold ≤ l2Tx.toIdx ∧ (∃ acc, s.state.getAccount l2Tx.toIdx = .ok acc) ∨
        l2Tx.toIdx ≠ 0 ∧ l2Tx.toIdx < userThreshold)) ∨
      l2Tx.toIdx = 0 ∧ checkPendingToCreateFutureTxs l1UserFutureTxs l2Tx.tokenID l2Tx.toEthAddr l2Tx.toBJJ = false ∧
        ∃ l1CoordinatorTx accAuth l1Out,
          Resolved txsel s.state.toStore selectionConfig ite l2Tx (some l1CoordinatorTx, accAuth) ∧
          TxProcessor.processL1Tx l1CoordinatorTx s = .ok l1Out s' ∧
          ite' = (ite.addReceiverCreation l2Tx l1CoordinatorTx accAuth).countL1Tx := by
  rw [provideReceiver, bind_of_ok (get_run s)] at h
  split at h
  next hzero =>
    cases hrun : txsel.processTxToEthAddrBJJ s.state.toStore selectionConfig l1UserFutureTxs ite l2Tx with
    | error e =>
      rw [hrun] at h
      cases h
    | ok creation =>
      rw [hrun] at h
      obtain ⟨hfuture, hresolved⟩ := processTxToEthAddrBJJ_ok hrun
      obtain ⟨_ | l1CoordinatorTx, accAuth⟩ := creation
      · cases h
        refine Or.inl ⟨rfl, rfl, Or.inl ⟨hzero, hfuture, ?_⟩⟩
        cases hresolved with
        | found hidx => exact .found hidx
        | unnamed hnone => exact .unnamed hnone
      · obtain ⟨l1Out, s₁, hprocess, hreturn⟩ := bind_ok.mp h
        cases hreturn
        exact Or.inr ⟨hzero, hfuture, _, _, l1Out, hresolved, withError_ok.mp hprocess, rfl⟩
  next hzero =>
    split at h
    next hthreshold =>
      cases hacc : s.state.getAccount l2Tx.toIdx with
      | error e =>
        rw [hacc] at h
        cases h
      | ok acc =>
        rw [hacc] at h
        cases h
        exact Or.inl ⟨rfl, rfl, Or.inr (Or.inl ⟨hthreshold, acc, rfl⟩)⟩
    next hthreshold =>
      cases h
      exact Or.inl ⟨rfl, rfl, Or.inr (Or.inr ⟨hzero, Nat.lt_of_not_le hthreshold⟩)⟩

theorem processSelected_ok {tokenID : TokenID} {out : Except (TxSelectorError × PoolL2Tx) PoolL2Tx}
    (h : txsel.processSelected tokenID l2Tx s = .ok out s') :
    ∃ coordIdx, txsel.getCoordIdx s.state.toStore tokenID = .ok coordIdx ∧
      ((∃ e, TxProcessor.processL2Tx (Finmap.singleton tokenID coordIdx) l2Tx (startFee coordIdx s) = .error e s' ∧
          out = .error (errTxDiscartedInProcessL2Tx e.message, afterFailure l2Tx (startFee coordIdx s))) ∨
        ∃ l2Tx' exit, out = .ok l2Tx' ∧
          TxProcessor.processL2Tx (Finmap.singleton tokenID coordIdx) l2Tx (startFee coordIdx s) = .ok (l2Tx', exit) s') := by
  rw [processSelected] at h
  obtain ⟨coordIdx, s₁, hidx, hrest⟩ := bind_ok.mp h
  obtain ⟨hidx, rfl⟩ := fromState_ok.mp (withError_ok.mp hidx)
  rw [bind_of_ok (modify_run _ s₁), bind_of_ok (get_run _)] at hrest
  obtain ⟨result, s₂, hattempt, hreturn⟩ := bind_ok.mp hrest
  refine ⟨coordIdx, ?_, ?_⟩
  · cases hget : txsel.getCoordIdx s₁.state.toStore tokenID with
    | error e =>
      rw [hget] at hidx
      cases hidx
    | ok idx =>
      rw [hget] at hidx
      cases hidx
      rfl
  · rcases attempt_ok.mp hattempt with ⟨⟨l2Tx', exit⟩, rfl, hprocess⟩ | ⟨e, rfl, hprocess⟩
    · cases hreturn
      exact Or.inr ⟨l2Tx', exit, rfl, hprocess⟩
    · cases hreturn
      exact Or.inl ⟨e, hprocess, rfl⟩

/-! ### What a verdict keeps -/

section Framed

variable {f : TxProcessor.Frame}

theorem framed_provideCoordAccount (tokenID : TokenID) (ite : Iteration) :
    Keeps (TxProcessor.Framed f) (txsel.provideCoordAccount selectionConfig tokenID ite) := by
  refine .bind (.withError (.fromState _) _) fun newL1CoordTx => ?_
  cases newL1CoordTx with
  | none => exact .pure _
  | some newL1CoordTx =>
    dsimp only
    split
    · exact .bind (.withError (TxProcessor.framed_processL1Tx _) _) fun _ => .pure _
    · exact .pure _

theorem framed_provideReceiver (l2Tx : PoolL2Tx) (ite : Iteration) :
    Keeps (TxProcessor.Framed f) (txsel.provideReceiver selectionConfig l1UserFutureTxs l2Tx ite) := by
  refine .bind .get fun s => ?_
  dsimp only
  split
  · split
    · exact .pure _
    · exact .pure _
    · exact .bind (.withError (TxProcessor.framed_processL1Tx _) _) fun _ => .pure _
  · split
    · split
      · exact .pure _
      · exact .pure _
    · exact .pure _

omit [Libraries] in
theorem framed_startFee {coordIdx : Nat} (hs : TxProcessor.Framed f s) : TxProcessor.Framed f (startFee coordIdx s) := by
  rw [startFee]
  split
  · exact hs
  · exact hs

theorem framed_processSelected (tokenID : TokenID) (l2Tx : PoolL2Tx) :
    Keeps (TxProcessor.Framed f) (txsel.processSelected tokenID l2Tx) := by
  refine .bind (.withError (.fromState _) _) fun coordIdx => ?_
  refine .bind (.modify fun s hs => framed_startFee hs) fun _ => .bind .get fun s => ?_
  refine .bind (.attempt (TxProcessor.framed_processL2Tx _ _)) fun out => ?_
  cases out with
  | error e => exact .pure _
  | ok out => exact .pure _

theorem Judged.framed {v : Verdict} (h : Judged txsel selectionConfig l1UserFutureTxs l2Tx ite s v s')
    (hs : TxProcessor.Framed f s) : TxProcessor.Framed f s' := by
  cases h with
  | tooLate => exact hs
  | emptyExit => exact hs
  | unfitSender => exact hs
  | noCoordAccount _ _ hcoord => exact (framed_provideCoordAccount _ _).ok hs hcoord
  | noReceiver _ _ hcoord hreceiver =>
    exact (framed_provideReceiver _ _).ok ((framed_provideCoordAccount _ _).ok hs hcoord) hreceiver
  | fails _ _ hcoord hreceiver hprocess | selected _ _ hcoord hreceiver hprocess =>
    have hs₁ := (framed_provideCoordAccount _ _).ok hs hcoord
    exact (framed_processSelected _ _).ok ((framed_provideReceiver _ _).ok hs₁ hreceiver) hprocess

end Framed

/-- The creations of accounts in a pass, each with its authorization and while there was room. -/
inductive Created (selectionConfig : Config) (ite : Iteration) : Iteration → Prop
  | refl : Created selectionConfig ite ite
  | step {ite' : Iteration} (h : Created selectionConfig ite ite')
      (hroom : canAddL2TxThatNeedsNewCoordL1Tx ite'.nAlreadyProcessedL1Txs ite'.nAlreadyProcessedL2Txs selectionConfig =
        true) (addr : Address) (bjj : PublicKeyComp) (tokenID : TokenID) (auth : Bytes) :
      Created selectionConfig ite
        (ite'.addL1CoordinatorTx (creationTx ite'.positionL1 addr bjj tokenID) auth).countL1Tx

namespace Created

omit [Libraries]

variable {ite'' : Iteration}

theorem trans (h : Created selectionConfig ite ite') (h' : Created selectionConfig ite' ite'') :
    Created selectionConfig ite ite'' := by
  induction h' with
  | refl => exact h
  | step _ hroom addr bjj tokenID auth ih => exact .step ih hroom addr bjj tokenID auth

theorem sameTxs (h : Created selectionConfig ite ite') :
    ite'.selectedL2Txs = ite.selectedL2Txs ∧ ite'.nonSelectedL2Txs = ite.nonSelectedL2Txs ∧
      ite'.unforjableL2Txs = ite.unforjableL2Txs ∧ ite'.nAlreadyProcessedL2Txs = ite.nAlreadyProcessedL2Txs := by
  induction h with
  | refl => exact ⟨rfl, rfl, rfl, rfl⟩
  | step _ _ _ _ _ _ ih => exact ih

end Created

theorem created_provideCoordAccount {tokenID : TokenID}
    (h : txsel.provideCoordAccount selectionConfig tokenID ite s = .ok (.ok ite') s') :
    Created selectionConfig ite ite' := by
  rcases provideCoordAccount_ok h with ⟨-, heq, -⟩ | ⟨-, ⟨-, heq, -⟩ | ⟨hroom, _, -, heq⟩⟩
  · cases heq
    exact .refl
  · cases heq
  · cases heq
    exact .step .refl hroom _ _ _ _

omit [Libraries] in
theorem Resolved.created {l1CoordinatorTx : L1Tx} {accAuth : Option AccountCreationAuth}
    (h : Resolved txsel store selectionConfig ite l2Tx (some l1CoordinatorTx, accAuth)) :
    Created selectionConfig ite (ite.addReceiverCreation l2Tx l1CoordinatorTx accAuth).countL1Tx := by
  obtain ⟨auth, hadd⟩ := h.addReceiverCreation
  rw [hadd]
  cases h with
  | authorized _ _ _ _ hroom => exact .step .refl hroom _ _ _ _
  | key _ _ _ hroom => exact .step .refl hroom _ _ _ _

theorem created_provideReceiver
    (h : txsel.provideReceiver selectionConfig l1UserFutureTxs l2Tx ite s = .ok (.ok ite') s') :
    Created selectionConfig ite ite' := by
  rcases provideReceiver_ok h with ⟨rfl, -⟩ | ⟨-, -, _, _, _, hresolved, -, rfl⟩
  · exact .refl
  · exact hresolved.created

theorem Judged.created {v : Verdict} (h : Judged txsel selectionConfig l1UserFutureTxs l2Tx ite s v s') :
    Created selectionConfig ite v.iteration := by
  cases h with
  | tooLate | emptyExit | unfitSender | noCoordAccount => exact .refl
  | noReceiver _ _ hcoord => exact created_provideCoordAccount hcoord
  | fails _ _ hcoord hreceiver | selected _ _ hcoord hreceiver =>
    exact (created_provideCoordAccount hcoord).trans (created_provideReceiver hreceiver)

end

end TxSelector

/-! ### What a verdict leaves of a transaction -/

namespace PoolL2Tx

/-- A transaction without what the selector fills in. -/
def asPooled (l2Tx : PoolL2Tx) : PoolL2Tx :=
  { l2Tx with auxToIdx := 0, tokenID := 0, info := "", errorCode := 0, errorType := "" }

@[simp] theorem asPooled_explain (l2Tx : PoolL2Tx) (reason : TxSelectorError) :
    (l2Tx.explain reason).asPooled = l2Tx.asPooled := rfl

theorem atomicGroupID_of_asPooled {l2Tx l2Tx' : PoolL2Tx} (h : l2Tx.asPooled = l2Tx'.asPooled) :
    l2Tx.atomicGroupID = l2Tx'.atomicGroupID := by
  have := congrArg atomicGroupID h
  exact this

end PoolL2Tx

namespace TxProcessor

theorem SelectorMode.of_framed {s s' : TxProcessor} (hmode : s.SelectorMode) (h : Framed s.frame s') :
    s'.SelectorMode := by
  refine ⟨(congrArg Frame.typ h).trans hmode.typ, ?_, ?_⟩
  · have := congrArg Frame.withZKInputs h
    simpa [frame, hmode.zki] using this
  · have := congrArg Frame.withExitTree h
    simpa [frame, hmode.exitTree] using this

section

variable [Libraries] {coordIdxsMap : CoordIdxsMap} {tx tx' : PoolL2Tx} {s s' : TxProcessor} {exit : ExitOut}

theorem processL2Tx_selector (hmode : s.SelectorMode) (h : processL2Tx coordIdxsMap tx s = .ok (tx', exit) s') :
    (∃ auxToIdx, tx' = { tx with auxToIdx }) ∧ findReceiver tx s = .ok tx' s ∧ applyL2Tx coordIdxsMap tx' s = .ok exit s' := by
  obtain ⟨tx₁, s₁, hfind, hrest⟩ := bind_ok.mp h
  obtain ⟨rfl, ⟨auxToIdx, rfl⟩, -⟩ := findReceiver_known hmode hfind
  have hzki : onZKInputs (fillL2Tx { tx with auxToIdx }) s₁ = .ok () s₁ := by
    rw [onZKInputs, hmode.zki]
  have hcomplete : completeL2Tx { tx with auxToIdx } s₁ = .ok { tx with auxToIdx } s₁ := by
    rw [completeL2Tx, bind_of_ok (get_run s₁), if_neg (by rw [hmode.typ]; decide)]
    rfl
  rw [bind_of_ok hzki, bind_of_ok hcomplete] at hrest
  obtain ⟨exit', s₂, happly, hreturn⟩ := bind_ok.mp hrest
  cases hreturn
  exact ⟨⟨auxToIdx, rfl⟩, hfind, happly⟩

end

end TxProcessor

namespace TxSelector

variable {txsel : TxSelector} {selectionConfig : Config} {l1UserFutureTxs : List L1Tx} {l2Tx l2Tx' : PoolL2Tx}
  {ite : Iteration} {s s' : TxProcessor}

theorem asPooled_afterFailure (hmode : s.SelectorMode) : (afterFailure l2Tx s).asPooled = l2Tx.asPooled := by
  rw [afterFailure]
  split
  next l2Tx' s₁ hfind =>
    obtain ⟨-, ⟨auxToIdx, rfl⟩, -⟩ := TxProcessor.findReceiver_known hmode hfind
    rfl
  next => rfl

theorem startFee_mode {coordIdx : Nat} (hmode : s.SelectorMode) : (startFee coordIdx s).SelectorMode :=
  hmode.of_framed (framed_startFee rfl)

variable [Libraries]

/-- The way of a transaction that is selected: it is completed with the token of its sender and its receiver, and applied
after the accounts that it needs were provided. -/
theorem Judged.way {ite' : Iteration} (h : Judged txsel selectionConfig l1UserFutureTxs l2Tx ite s (.selected ite' l2Tx') s')
    (hmode : s.SelectorMode) :
    ∃ accSender auxToIdx coordIdx exit ite₁ s₁ s₂, Payable l2Tx s.state.toStore accSender ∧
      checkSender s.state.toStore accSender (l2Tx.sentBy accSender) = none ∧
      txsel.provideCoordAccount selectionConfig accSender.tokenID ite s = .ok (.ok ite₁) s₁ ∧
      txsel.provideReceiver selectionConfig l1UserFutureTxs (l2Tx.sentBy accSender) ite₁ s₁ = .ok (.ok ite') s₂ ∧
      txsel.getCoordIdx s₂.state.toStore accSender.tokenID = .ok coordIdx ∧ s₂.SelectorMode ∧
      l2Tx' = { l2Tx.sentBy accSender with auxToIdx } ∧
      TxProcessor.findReceiver (l2Tx.sentBy accSender) (startFee coordIdx s₂) = .ok l2Tx' (startFee coordIdx s₂) ∧
      TxProcessor.applyL2Tx (Finmap.singleton accSender.tokenID coordIdx) l2Tx' (startFee coordIdx s₂) = .ok exit s' := by
  cases h with
  | @selected accSender _ ite₁ _ s₁ s₂ _ hpayable hsender hcoord hreceiver hprocess =>
    have hs₁ := (framed_provideCoordAccount (f := s.frame) _ _).ok rfl hcoord
    have hmode₂ : s₂.SelectorMode := hmode.of_framed ((framed_provideReceiver _ _).ok hs₁ hreceiver)
    obtain ⟨coordIdx, hcoordIdx, ⟨e, -, heq⟩ | ⟨_, exit, heq, hrun⟩⟩ := processSelected_ok hprocess
    · cases heq
    · cases heq
      obtain ⟨⟨auxToIdx, heq⟩, hfind, happly⟩ := TxProcessor.processL2Tx_selector (startFee_mode hmode₂) hrun
      exact ⟨accSender, auxToIdx, coordIdx, exit, ite₁, s₁, s₂, hpayable, hsender, hcoord, hreceiver, hcoordIdx, hmode₂, heq,
        hfind, happly⟩

theorem Judged.asPooled {v : Verdict} (h : Judged txsel selectionConfig l1UserFutureTxs l2Tx ite s v s')
    (hmode : s.SelectorMode) : v.l2Tx.asPooled = l2Tx.asPooled := by
  cases v with
  | selected ite' l2Tx' =>
    obtain ⟨accSender, auxToIdx, _, _, _, _, _, _, _, _, _, _, _, rfl, _⟩ := h.way hmode
    rfl
  | unforjable ite' l2Tx' reason =>
    cases h with
    | tooLate | emptyExit => rfl
  | nonSelected ite' l2Tx' reason =>
    cases h with
    | unfitSender | noCoordAccount | noReceiver => rfl
    | @fails accSender _ _ _ _ s₁ s₂ _ _ _ hcoord hreceiver hprocess =>
      have hs₁ := (framed_provideCoordAccount (f := s.frame) _ _).ok rfl hcoord
      have hmode₂ : s₂.SelectorMode := hmode.of_framed ((framed_provideReceiver _ _).ok hs₁ hreceiver)
      obtain ⟨coordIdx, -, ⟨e, -, heq⟩ | ⟨_, _, heq, -⟩⟩ := processSelected_ok hprocess
      · cases heq
        exact asPooled_afterFailure (startFee_mode hmode₂)
      · cases heq

end TxSelector

end HermezRollup
