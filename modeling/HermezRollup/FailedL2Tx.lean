import HermezRollup.BatchRefinement

/-! What an L2 transaction leaves behind when it fails in the transaction selector (`ProcessL2Tx`).  The selector
discards such a transaction and goes on with the same processor.  The checks come first; then the fee is accrued, the
sender is stored, and the receiver is looked up and stored, and each of the last three can still fail. -/

namespace HermezRollup

open Fallible

/-- A processor as the selector uses it: no inputs of the circuit and no exit tree. -/
structure TxProcessor.SelectorMode (s : TxProcessor) : Prop where
  typ : s.state.typ = .txSelector
  zki : s.zki = none
  exitTree : s.exitTree = none

/-- Every account, the last index and every accumulated fee are as before; no entry counts as no fee. -/
structure TxProcessor.NoTrace (s s' : TxProcessor) : Prop where
  accounts : s'.state.accounts = s.state.accounts
  currentIdx : s'.state.currentIdx = s.state.currentIdx
  fees : ∀ idx, (s'.accumulatedFees.lookup idx).getD 0 = (s.accumulatedFees.lookup idx).getD 0

namespace TxProcessor

theorem NoTrace.refl (s : TxProcessor) : NoTrace s s :=
  ⟨rfl, rfl, fun _ => rfl⟩

/-- The checks that come before the first write: the fee can be computed, the sender can pay amount and fee, and the
coordinator's account for the token, if one is given, exists. -/
structure Pays (coordIdxsMap : CoordIdxsMap) (tx : PoolL2Tx) (store : Store) (sender : Account) (fee : Int) : Prop where
  fee_ok : calcFeeAmount tx.amount tx.fee = .ok fee
  enough : tx.amount + fee ≤ sender.balance
  coordinator : ∀ coordIdx, coordIdxsMap.lookup sender.tokenID = some coordIdx →
    ∃ account, store.getAccount coordIdx = .ok account

/-- The receiver is given by an index, or there is an account for the address and key. -/
def ReceiverKnown (tx : PoolL2Tx) (store : Store) (sender : Account) : Prop :=
  tx.toIdx = 0 ∧ tx.auxToIdx = 0 → ∃ idx, store.getIdxByEthAddrBJJ tx.toEthAddr tx.toBJJ sender.tokenID = .ok idx

def charged (tx : PoolL2Tx) (sender : Account) (fee : Int) : Account :=
  { sender with balance := sender.balance - (tx.amount + fee), nonce := sender.nonce + 1 }

def accrued (coordIdxsMap : CoordIdxsMap) (tokenID : TokenID) (fee : Int) (s : TxProcessor) : TxProcessor :=
  match coordIdxsMap.lookup tokenID with
  | none => s
  | some coordIdx => accrueFee coordIdx fee s

/-- A failure leaves nothing behind: it comes from one of the checks, or the sender cannot be stored, with too large a
nonce or balance, and nothing was accrued before. -/
def FailsBeforeWriting (coordIdxsMap : CoordIdxsMap) (tx : PoolL2Tx) (s : TxProcessor) : Prop :=
  ∀ sender fee, s.state.getAccount tx.fromIdx = .ok sender → Pays coordIdxsMap tx s.state.toStore sender fee →
    ReceiverKnown tx s.state.toStore sender →
    ¬(charged tx sender fee).Encodable ∧ (coordIdxsMap.lookup sender.tokenID = none ∨ fee = 0)

section

variable {coordIdxsMap : CoordIdxsMap} {tx : PoolL2Tx} {s s' : TxProcessor} {e : Err}

theorem accrued_state (coordIdxsMap : CoordIdxsMap) (tokenID : TokenID) (fee : Int) (s : TxProcessor) :
    (accrued coordIdxsMap tokenID fee s).state = s.state := by
  rw [accrued]
  cases coordIdxsMap.lookup tokenID with
  | none => rfl
  | some coordIdx => rfl

theorem accrued_mode (coordIdxsMap : CoordIdxsMap) (hmode : s.SelectorMode) (tokenID : TokenID) (fee : Int) :
    (accrued coordIdxsMap tokenID fee s).SelectorMode := by
  rw [accrued]
  cases coordIdxsMap.lookup tokenID with
  | none => exact hmode
  | some coordIdx => exact ⟨hmode.typ, hmode.zki, hmode.exitTree⟩

theorem noTrace_accrued_iff (tokenID : TokenID) (fee : Int) :
    NoTrace s (accrued coordIdxsMap tokenID fee s) ↔ coordIdxsMap.lookup tokenID = none ∨ fee = 0 := by
  rw [accrued]
  cases coordIdxsMap.lookup tokenID with
  | none => exact ⟨fun _ => Or.inl rfl, fun _ => NoTrace.refl s⟩
  | some coordIdx =>
    constructor
    · intro h
      have hfee := h.fees coordIdx
      change (Finmap.lookup coordIdx (s.accumulatedFees.insert coordIdx _)).getD 0 = _ at hfee
      rw [Finmap.lookup_insert, Option.getD_some] at hfee
      right
      omega
    · rintro (h | rfl)
      · cases h
      · refine ⟨rfl, rfl, fun idx => ?_⟩
        change (Finmap.lookup idx (s.accumulatedFees.insert coordIdx _)).getD 0 = _
        by_cases hidx : idx = coordIdx
        · rw [hidx, Finmap.lookup_insert, Option.getD_some, add_zero]
        · rw [Finmap.lookup_insert_of_ne _ hidx]

theorem getAccount_idx {store : Store} {idx : Nat} {account : Account} (h : store.getAccount idx = .ok account) :
    account.idx = idx := by
  obtain ⟨-, stored, -, rfl⟩ := getAccountInTreeDB_ok.mp h
  rfl

/-! ### The steps of `ProcessL2Tx` in the selector -/

theorem findReceiver_error (hmode : s.SelectorMode) (h : findReceiver tx s = .error e s') :
    s' = s ∧ ∀ sender, s.state.getAccount tx.fromIdx = .ok sender → ¬ReceiverKnown tx s.state.toStore sender := by
  rw [findReceiver] at h
  split at h
  next hzero =>
    obtain ⟨herror, rfl⟩ := fromState_error.mp h
    refine ⟨rfl, fun sender hsender hknown => ?_⟩
    obtain ⟨idx, hidx⟩ := hknown hzero
    rw [if_neg (by rw [hmode.typ]; decide), hsender, except_ok_bind, hidx] at herror
    cases herror
  next => cases h

theorem findReceiver_known {tx' : PoolL2Tx} (hmode : s.SelectorMode) (h : findReceiver tx s = .ok tx' s') :
    s' = s ∧ (∃ auxToIdx, tx' = { tx with auxToIdx }) ∧
      ∀ sender, s.state.getAccount tx.fromIdx = .ok sender → ReceiverKnown tx s.state.toStore sender := by
  rw [findReceiver] at h
  split at h
  next =>
    obtain ⟨hok, rfl⟩ := fromState_ok.mp h
    rw [if_neg (by rw [hmode.typ]; decide)] at hok
    obtain ⟨sender, hsender, hok⟩ := except_bind_ok.mp hok
    obtain ⟨idx, hidx, hok⟩ := except_bind_ok.mp hok
    cases hok
    refine ⟨rfl, ⟨idx, rfl⟩, fun sender' hsender' _ => ?_⟩
    rw [hsender] at hsender'
    cases hsender'
    exact ⟨idx, hidx⟩
  next hnamed =>
    cases h
    exact ⟨rfl, ⟨tx.auxToIdx, rfl⟩, fun _ _ hzero => absurd hzero hnamed⟩

theorem accumulateFee_cases (coordIdxsMap : CoordIdxsMap) (hmode : s.SelectorMode) (tokenID : TokenID) (fee : Int) :
    (∃ e, accumulateFee coordIdxsMap tokenID fee s = .error e s ∧
        ∃ coordIdx, coordIdxsMap.lookup tokenID = some coordIdx ∧ ∀ account, s.state.getAccount coordIdx ≠ .ok account) ∨
      accumulateFee coordIdxsMap tokenID fee s = .ok () (accrued coordIdxsMap tokenID fee s) ∧
        ∀ coordIdx, coordIdxsMap.lookup tokenID = some coordIdx → ∃ account, s.state.getAccount coordIdx = .ok account := by
  rw [accumulateFee, accrued]
  cases coordIdxsMap.lookup tokenID with
  | none => exact Or.inr ⟨rfl, by simp⟩
  | some coordIdx =>
    cases haccount : s.state.getAccount coordIdx with
    | error e =>
      left
      refine ⟨.coordIdxNotInTree tokenID coordIdx, bind_error.mpr (Or.inl (fromState_error.mpr ⟨?_, rfl⟩)), coordIdx,
        rfl, by simp [haccount]⟩
      rw [getCoordAccount, haccount]
      rfl
    | ok account =>
      right
      refine ⟨?_, fun coordIdx' heq => ⟨account, by cases heq; exact haccount⟩⟩
      have hread : fromState (getCoordAccount tokenID coordIdx) s = .ok account s :=
        fromState_ok.mpr ⟨by rw [getCoordAccount, haccount]; rfl, rfl⟩
      change (fromState (getCoordAccount tokenID coordIdx) >>= fun accCoord => do
        modify (accrueFee accCoord.idx fee)
        collectFee accCoord.tokenID fee) s = .ok () (accrueFee coordIdx fee s)
      rw [bind_of_ok hread, bind_of_ok (modify_run _ s), collectFee, getAccount_idx haccount]
      exact if_pos hmode.typ

theorem chargeSender_cases (coordIdxsMap : CoordIdxsMap) (tx : PoolL2Tx) (hmode : s.SelectorMode) (sender : Account) :
    (∃ e, chargeSender coordIdxsMap tx.tx sender s = .error e s ∧ ∀ fee, ¬Pays coordIdxsMap tx s.state.toStore sender fee) ∨
      ∃ fee, Pays coordIdxsMap tx s.state.toStore sender fee ∧
        chargeSender coordIdxsMap tx.tx sender s =
          .ok (charged tx sender fee) (accrued coordIdxsMap sender.tokenID fee s) := by
  have hrun : chargeSender coordIdxsMap tx.tx sender = (do
      let fee ← fromState fun _ => calcFeeAmount tx.amount tx.fee
      checkBalance tx.tx (sender.balance - (tx.amount + fee))
      accumulateFee coordIdxsMap sender.tokenID fee
      return charged tx sender fee) := rfl
  rw [hrun]
  cases hfee : calcFeeAmount tx.amount tx.fee with
  | error e =>
    left
    refine ⟨e, bind_error.mpr (Or.inl (fromState_error.mpr ⟨rfl, rfl⟩)), fun fee hpays => ?_⟩
    have := hpays.fee_ok
    rw [hfee] at this
    cases this
  | ok fee =>
    have hread : (fromState (fun _ => .ok fee) : TxProc Int) s = .ok fee s := rfl
    have honly : ∀ fee', Pays coordIdxsMap tx s.state.toStore sender fee' → fee' = fee := by
      intro fee' hpays
      have := hpays.fee_ok
      rw [hfee] at this
      cases this
      rfl
    rw [bind_of_ok hread]
    by_cases hnegative : sender.balance - (tx.amount + fee) < 0
    · left
      refine ⟨newErrorNotEnoughBalance tx.tx, bind_error.mpr (Or.inl ?_), fun fee' hpays => ?_⟩
      · rw [checkBalance, if_pos hnegative]
        rfl
      · have henough := hpays.enough
        rw [honly fee' hpays] at henough
        omega
    · have hcheck : checkBalance tx.tx (sender.balance - (tx.amount + fee)) s = .ok () s := by
        rw [checkBalance, if_neg hnegative]
        rfl
      rw [bind_of_ok hcheck]
      rcases accumulateFee_cases coordIdxsMap hmode sender.tokenID fee with
        ⟨e, herror, coordIdx, hlookup, hmissing⟩ | ⟨hok, hcoord⟩
      · left
        refine ⟨e, bind_error.mpr (Or.inl herror), fun fee' hpays => ?_⟩
        obtain ⟨account, haccount⟩ := hpays.coordinator coordIdx hlookup
        exact hmissing account haccount
      · right
        refine ⟨fee, ⟨hfee, by omega, hcoord⟩, ?_⟩
        rw [bind_of_ok hok]
        rfl

end

section

variable [Libraries] {coordIdxsMap : CoordIdxsMap} {tx : PoolL2Tx} {s s' : TxProcessor} {e : Err}

theorem updateAccount_run (hmode : s.SelectorMode) (idx : Nat) (account : Account) :
    updateAccount idx account s = match s.state.updateAccount idx account with
      | .ok store => .ok () { s with state := { s.state with toStore := store } }
      | .error e => .error e s := by
  have hremember : rememberAccount idx account s = .ok ⟨⟩ s := by
    rw [rememberAccount, modify_run, if_neg (by rw [hmode.typ]; decide)]
  rw [updateAccount, bind_of_ok hremember]
  rfl

theorem updateAccount_error (hmode : s.SelectorMode) {idx : Nat} {account : Account}
    (h : updateAccount idx account s = .error e s') : s' = s ∧ ¬(idx ≤ maxIdxValue ∧ account.Encodable) := by
  rw [updateAccount_run hmode] at h
  cases hstore : s.state.updateAccount idx account with
  | ok store =>
    rw [hstore] at h
    cases h
  | error e' =>
    rw [hstore] at h
    cases h
    refine ⟨rfl, fun ⟨hidx, hencodable⟩ => ?_⟩
    rw [Store.updateAccount_ok.mpr ⟨hidx, hencodable, rfl⟩] at hstore
    cases hstore

theorem updateAccount_ok (hmode : s.SelectorMode) {idx : Nat} {account : Account}
    (h : updateAccount idx account s = .ok () s') :
    ∃ hencodable : account.Encodable, s'.SelectorMode ∧
      s'.state.accounts = s.state.accounts.insert idx (account.store hencodable) := by
  rw [updateAccount_run hmode] at h
  cases hstore : s.state.updateAccount idx account with
  | error e' =>
    rw [hstore] at h
    cases h
  | ok store =>
    rw [hstore] at h
    cases h
    obtain ⟨-, hencodable, rfl⟩ := Store.updateAccount_ok.mp hstore
    exact ⟨hencodable, ⟨hmode.typ, hmode.zki, hmode.exitTree⟩, rfl⟩

theorem creditReceiver_error (hmode : s.SelectorMode) {fromIdx toIdx : Nat} {sender : Account} {amount : Int}
    (h : creditReceiver fromIdx toIdx sender amount s = .error e s') : s' = s := by
  rw [creditReceiver] at h
  rcases bind_error.mp h with hget | ⟨receiver, t, hget, hupdate⟩
  · rw [getReceiver] at hget
    split at hget
    · cases hget
    · exact (fromState_error.mp hget).2
  · have ht : t = s := by
      rw [getReceiver] at hget
      split at hget
      · cases hget
        rfl
      · exact (fromState_ok.mp hget).2
    rw [ht] at hupdate
    exact (updateAccount_error hmode hupdate).1

omit [Libraries] in
theorem accounts_ne_of_charged {sender : Account} {fee : Int} {store : Store}
    (hsender : store.getAccount tx.fromIdx = .ok sender) (hencodable : (charged tx sender fee).Encodable) :
    store.accounts.insert tx.fromIdx ((charged tx sender fee).store hencodable) ≠ store.accounts := by
  intro heq
  obtain ⟨-, stored, hstored, rfl⟩ := getAccountInTreeDB_ok.mp hsender
  have hlookup := congrArg (Finmap.lookup tx.fromIdx) heq
  rw [Finmap.lookup_insert, hstored, Option.some.injEq] at hlookup
  have hnonce := congrArg StoredAccount.nonce hlookup
  change stored.nonce + 1 = stored.nonce at hnonce
  omega

/-- What comes after the checks, common to transfers and exits: the fee is accrued, the sender stored, and the rest,
which changes nothing when it fails. -/
theorem afterCheck_error_iff {α : Type} (rest : Account → TxProc α) (hmode : s.SelectorMode)
    (hrest : ∀ sender t t' e, t.SelectorMode → rest sender t = .error e t' → t' = t)
    (hknown : ∀ sender, s.state.getAccount tx.fromIdx = .ok sender → ReceiverKnown tx s.state.toStore sender)
    (h : (do
      let sender ← getAccount tx.fromIdx
      let sender ← chargeSender coordIdxsMap tx.tx sender
      updateAccount tx.fromIdx sender
      rest sender) s = .error e s') :
    NoTrace s s' ↔ FailsBeforeWriting coordIdxsMap tx s := by
  rcases bind_error.mp h with hget | ⟨sender, t, hget, hcharging⟩
  · -- the sender does not exist
    obtain ⟨herror, rfl⟩ := fromState_error.mp hget
    refine ⟨fun _ sender fee hsender => ?_, fun _ => NoTrace.refl s'⟩
    rw [hsender] at herror
    cases herror
  obtain ⟨hsender, rfl⟩ := fromState_ok.mp hget
  have honly : ∀ sender', t.state.getAccount tx.fromIdx = .ok sender' → sender' = sender := by
    intro sender' hsender'
    rw [hsender] at hsender'
    cases hsender'
    rfl
  rcases chargeSender_cases coordIdxsMap tx hmode sender with
    ⟨e', hcharge, hnot⟩ | ⟨fee, hpays, hcharge⟩
  · -- the sender cannot pay
    rw [bind_error.mpr (Or.inl hcharge)] at hcharging
    cases hcharging
    refine ⟨fun _ sender' fee hsender' hpays => ?_, fun _ => NoTrace.refl _⟩
    rw [honly sender' hsender'] at hpays
    exact absurd hpays (hnot fee)
  rw [bind_of_ok hcharge] at hcharging
  have hidx : tx.fromIdx ≤ maxIdxValue := (getAccountInTreeDB_ok.mp hsender).1
  have hstate := accrued_state coordIdxsMap sender.tokenID fee t
  have hmode' := accrued_mode coordIdxsMap hmode sender.tokenID fee
  rcases bind_error.mp hcharging with hupdate | ⟨_, u, hupdate, hafter⟩
  · -- the sender cannot be stored; the fee stays accrued
    obtain ⟨rfl, hnot⟩ := updateAccount_error hmode' hupdate
    rw [noTrace_accrued_iff]
    constructor
    · intro hnone sender' fee' hsender' hpays' _
      obtain rfl := honly sender' hsender'
      have hfee : fee' = fee := Except.ok.inj (hpays'.fee_ok.symm.trans hpays.fee_ok)
      subst hfee
      exact ⟨fun hencodable => hnot ⟨hidx, hencodable⟩, hnone⟩
    · intro hfails
      exact (hfails sender fee hsender hpays (hknown sender hsender)).2
  · -- the sender was stored: its nonce has moved on
    obtain ⟨hencodable, hmode'', haccounts⟩ := updateAccount_ok hmode' hupdate
    obtain rfl := hrest _ u s' e hmode'' hafter
    rw [hstate] at haccounts
    constructor
    · intro hnone
      exact absurd (haccounts.symm.trans hnone.accounts) (accounts_ne_of_charged hsender hencodable)
    · intro hfails
      exact absurd hencodable (hfails sender fee hsender hpays (hknown sender hsender)).1

theorem applyTransfer_error_iff (hmode : s.SelectorMode) (auxToIdx : Nat)
    (hknown : ∀ sender, s.state.getAccount tx.fromIdx = .ok sender → ReceiverKnown tx s.state.toStore sender)
    (h : applyTransfer coordIdxsMap tx.tx auxToIdx s = .error e s') :
    NoTrace s s' ↔ FailsBeforeWriting coordIdxsMap tx s :=
  afterCheck_error_iff (fun sender => creditReceiver tx.fromIdx (if auxToIdx = 0 then tx.toIdx else auxToIdx) sender
    tx.amount) hmode (fun _ _ _ _ hmode' => creditReceiver_error hmode') hknown h

/-- What `applyExit` does after the sender is stored; the selector has no exit tree. -/
def applyExitRest (tx : PoolL2Tx) (sender : Account) : TxProc ExitOut := do
  match (← get).exitTree with
  | none => return { exitIdx := some tx.fromIdx }
  | some tree =>
    if tx.amount = 0 then return { exitIdx := some tx.fromIdx }
    else applyExitLeaf tree tx.fromIdx sender tx.amount

theorem applyExit_error_iff (hmode : s.SelectorMode)
    (hknown : ∀ sender, s.state.getAccount tx.fromIdx = .ok sender → ReceiverKnown tx s.state.toStore sender)
    (h : applyExit coordIdxsMap tx.tx tx.amount s = .error e s') :
    NoTrace s s' ↔ FailsBeforeWriting coordIdxsMap tx s := by
  refine afterCheck_error_iff (applyExitRest tx) hmode (fun sender t t' e hmode' hrest => ?_) hknown h
  rw [applyExitRest, bind_of_ok (get_run t), hmode'.exitTree] at hrest
  cases hrest

theorem applyL2Tx_cases (coordIdxsMap : CoordIdxsMap) (tx : PoolL2Tx) :
    (applyL2Tx coordIdxsMap tx = do
        applyTransfer coordIdxsMap tx.tx tx.auxToIdx
        return {}) ∨
      applyL2Tx coordIdxsMap tx = applyExit coordIdxsMap tx.tx tx.amount ∨ applyL2Tx coordIdxsMap tx = return {} := by
  rw [applyL2Tx]
  split
  case h_4 => exact Or.inr (Or.inl rfl)
  case h_5 => exact Or.inr (Or.inr rfl)
  all_goals exact Or.inl rfl

/-- **When a failed L2 transaction leaves no trace.**  Whatever the state and the transaction: after an error in the
selector every account, the last index and the accumulated fees are as before exactly when the error comes from a
check before the first write, or the sender cannot be stored and no fee was accrued for it. -/
theorem processL2Tx_error_noTrace_iff (hmode : s.SelectorMode) (h : processL2Tx coordIdxsMap tx s = .error e s') :
    NoTrace s s' ↔ FailsBeforeWriting coordIdxsMap tx s := by
  rcases bind_error.mp h with hfind | ⟨tx', t, hfind, hafter⟩
  · obtain ⟨rfl, hunknown⟩ := findReceiver_error hmode hfind
    exact ⟨fun _ sender _ hsender _ hknown => absurd hknown (hunknown sender hsender), fun _ => NoTrace.refl s'⟩
  obtain ⟨rfl, ⟨auxToIdx, rfl⟩, hknown⟩ := findReceiver_known hmode hfind
  have hzki : onZKInputs (fillL2Tx { tx with auxToIdx }) t = .ok () t := by
    rw [onZKInputs, hmode.zki]
  have hcomplete : completeL2Tx { tx with auxToIdx } t = .ok { tx with auxToIdx } t := by
    rw [completeL2Tx, bind_of_ok (get_run t), if_neg (by rw [hmode.typ]; decide)]
    rfl
  rw [bind_of_ok hzki, bind_of_ok hcomplete] at hafter
  rcases bind_error.mp hafter with happly | ⟨_, _, _, hreturn⟩
  · rcases applyL2Tx_cases coordIdxsMap { tx with auxToIdx } with heq | heq | heq
    · rw [heq] at happly
      rcases bind_error.mp happly with htransfer | ⟨_, _, _, hreturn⟩
      · exact applyTransfer_error_iff hmode auxToIdx hknown htransfer
      · cases hreturn
    · rw [heq] at happly
      exact applyExit_error_iff hmode hknown happly
    · rw [heq] at happly
      cases happly
  · cases hreturn

end

def transferTo (toIdx : Nat) (amount : Int) : PoolL2Tx :=
  { fromIdx := 256, toIdx, amount, type := some .transfer }

def oneAccountSelector : TxProcessor :=
  newTxProcessor (oneAccountState .txSelector) smallConfig

theorem processL2Tx_error_noTrace_iff_poor :
    oneAccountSelector.SelectorMode ∧ ∃ e s',
      @processL2Tx plainLibraries ∅ (transferTo 256 11) oneAccountSelector = .error e s' ∧ NoTrace oneAccountSelector s' := by
  let := plainLibraries
  have hmode : oneAccountSelector.SelectorMode := ⟨rfl, rfl, rfl⟩
  cases hrun : processL2Tx ∅ (transferTo 256 11) oneAccountSelector with
  | ok out s' =>
    have hfails : succeedsWith (fun _ _ => true) (processL2Tx ∅ (transferTo 256 11) oneAccountSelector) = false := by
      decide +kernel
    rw [hrun] at hfails
    cases hfails
  | error e s' =>
    refine ⟨hmode, e, s', rfl, (processL2Tx_error_noTrace_iff hmode hrun).mpr ?_⟩
    intro sender fee hsender hpays _
    -- the balance is 10 and the fee is zero
    obtain ⟨-, stored, hstored, rfl⟩ := getAccountInTreeDB_ok.mp hsender
    cases hstored
    cases hpays.fee_ok
    have henough := hpays.enough
    revert henough
    decide

/-- A transfer to an account that does not exist fails after the sender has paid. -/
theorem missingReceiver_leaves_trace :
    oneAccountSelector.SelectorMode ∧ ∃ e s',
      @processL2Tx plainLibraries ∅ (transferTo 300 3) oneAccountSelector = .error e s' ∧ ¬NoTrace oneAccountSelector s' := by
  let := plainLibraries
  refine ⟨⟨rfl, rfl, rfl⟩, ?_⟩
  have hpaid : (match processL2Tx ∅ (transferTo 300 3) oneAccountSelector with
      | .ok _ _ => false
      | .error _ s' => ((s'.state.accounts.lookup 256).map (·.balance)) = some 7) = true := by decide +kernel
  cases hrun : processL2Tx ∅ (transferTo 300 3) oneAccountSelector with
  | ok out s' =>
    rw [hrun] at hpaid
    cases hpaid
  | error e s' =>
    rw [hrun] at hpaid
    refine ⟨e, s', rfl, fun hnone => ?_⟩
    have hbalance := of_decide_eq_true hpaid
    rw [hnone.accounts] at hbalance
    revert hbalance
    decide +kernel

end TxProcessor

end HermezRollup
