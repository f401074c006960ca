import HermezRollup.RollupSteps

/-! The processor carries out what `Rollup` says.  In each of its three modes a transaction succeeds on
the same states as its specification, with the same results, and keeps the bookkeeping in order: the
configuration, the mode, the checkpoints, the index of the transaction, the sizes of the circuit inputs
and the tokens whose fees are collected. -/

namespace HermezRollup

open Bytes Fallible Simulation

/-- The sizes of the circuit inputs on which the processing of a batch can fail. -/
def ZKInputs.shape (zki : ZKInputs) : List Nat :=
  [zki.metadata.nLevels, zki.feeIdxs.length, zki.feePlanTokens.length, zki.txCompressedData.length,
    zki.txCompressedDataV2.length, zki.rqTxCompressedDataV2.length, zki.isOutIdx.length, zki.isStateRoot.length,
    zki.isExitRoot.length, zki.isAccFeeOut.length, zki.isStateRootFee.length]

namespace TxProcessor

structure Kept (s s' : TxProcessor) : Prop where
  config : s'.config = s.config
  typ : s'.state.typ = s.state.typ
  checkpoints : s'.state.checkpoints = s.state.checkpoints
  txIndex : s'.txIndex = s.txIndex
  shape : s'.zki.map ZKInputs.shape = s.zki.map ZKInputs.shape
  collected : ∀ tokenID, (s'.collectedFees tokenID).isSome = (s.collectedFees tokenID).isSome
  owed : ∀ idx ∈ s.accumulatedFees, idx ∈ s'.accumulatedFees

theorem Kept.refl (s : TxProcessor) : Kept s s :=
  ⟨rfl, rfl, rfl, rfl, rfl, fun _ => rfl, fun _ h => h⟩

theorem Kept.trans {s s' s'' : TxProcessor} (h : Kept s s') (h' : Kept s' s'') : Kept s s'' where
  config := h'.config.trans h.config
  typ := h'.typ.trans h.typ
  checkpoints := h'.checkpoints.trans h.checkpoints
  txIndex := h'.txIndex.trans h.txIndex
  shape := h'.shape.trans h.shape
  collected tokenID := (h'.collected tokenID).trans (h.collected tokenID)
  owed idx hidx := h'.owed idx (h.owed idx hidx)

def rollup (s : TxProcessor) : Rollup :=
  { toStore := s.state.toStore, exits := s.exitTree, fees := fun idx => (s.accumulatedFees.lookup idx).getD 0 }

def view : View TxProcessor Rollup where
  see := rollup
  Keeps := Kept
  refl := Kept.refl
  trans := Kept.trans

/-- Every coordinator account exists, and the fees of its token are collected; the selector collects none. -/
def FeesReady (coordIdxsMap : CoordIdxsMap) (s : TxProcessor) : Prop :=
  s.state.typ = .txSelector ∨ ∀ tokenID idx, coordIdxsMap.lookup tokenID = some idx →
    ∃ acc, s.state.getAccount idx = .ok acc ∧ (s.collectedFees acc.tokenID).isSome

variable {coordIdxsMap : CoordIdxsMap}

theorem FeesReady.kept {s s' : TxProcessor} (h : FeesReady coordIdxsMap s)
    (hkept : Kept s s') (hevolves : s.rollup.Evolves s'.rollup) : FeesReady coordIdxsMap s' := by
  obtain htyp | hready := h
  · exact Or.inl (hkept.typ.trans htyp)
  · refine Or.inr fun tokenID idx hlookup => ?_
    obtain ⟨acc, hacc, hcollected⟩ := hready tokenID idx hlookup
    obtain ⟨acc', hacc', -, htoken, -⟩ := Rollup.getAccount_of_persists hevolves.persists hacc
    exact ⟨acc', hacc', by rw [htoken, hkept.collected]; exact hcollected⟩

section Steps

variable {s : TxProcessor}

theorem getAccount_meets (idx : Nat) : view.Meets s (getAccount idx) (Rollup.account idx) :=
  View.Meets.fromState rfl

theorem onStore_meets {update : Store → Except Err Store} {spec : Rollup → Option Rollup}
    (h : (update s.state.toStore).toOption.map (fun store => { s.rollup with toStore := store }) = spec s.rollup) :
    view.Meets s (onStore update) (Spec.updates spec) := by
  cases hupdate : update s.state.toStore with
  | error e =>
    rw [hupdate] at h
    exact .of_error (by rw [onStore, hupdate]) (by rw [Spec.updates, show spec (view.see s) = none from h.symm]; rfl)
  | ok store =>
    rw [hupdate] at h
    have hrun : onStore update s = .ok () { s with state := { s.state with toStore := store } } := by
      rw [onStore, hupdate]
    exact .of_ok hrun (Spec.updates_some.mpr h.symm) ⟨rfl, rfl, rfl, rfl, rfl, fun _ => rfl, fun _ hidx => hidx⟩

theorem rememberAccount_run (idx : Nat) (acc : Account) :
    ∃ s', rememberAccount idx acc s = .ok () s' ∧ s'.rollup = s.rollup ∧ s'.state = s.state ∧ Kept s s' := by
  by_cases htyp : s.state.typ = .synchronizer
  · refine ⟨{ s with updatedAccounts := s.updatedAccounts.insert idx { acc with idx } }, ?_, rfl, rfl, ?_⟩
    · rw [rememberAccount, modify_run, if_pos htyp]
    · exact ⟨rfl, rfl, rfl, rfl, rfl, fun _ => rfl, fun _ h => h⟩
  · exact ⟨s, by rw [rememberAccount, modify_run, if_neg htyp], rfl, rfl, Kept.refl s⟩

theorem onZKInputs_run (fill : TxProcessor → ZKInputs → Except Err ZKInputs)
    (hfill : ∀ zki, s.zki = some zki → ∃ zki', fill s zki = .ok zki' ∧ zki'.shape = zki.shape) :
    ∃ s', onZKInputs fill s = .ok () s' ∧ s'.rollup = s.rollup ∧ Kept s s' := by
  cases hzki : s.zki with
  | none => exact ⟨s, by rw [onZKInputs, hzki], rfl, Kept.refl s⟩
  | some zki =>
    obtain ⟨zki', hrun, hshape⟩ := hfill zki hzki
    refine ⟨{ s with zki := some zki' }, by simp only [onZKInputs, hzki, hrun], rfl, ?_⟩
    exact ⟨rfl, rfl, rfl, rfl, by rw [hzki]; simp [hshape], fun _ => rfl, fun _ h => h⟩

theorem checkBalance_meets (tx : Tx) (balance : Int) :
    view.Meets s (checkBalance tx balance) (Spec.demand (0 ≤ balance)) := by
  by_cases h : balance < 0
  · exact .of_error (by rw [checkBalance, if_pos h, throw_run]) (if_neg (by omega))
  · exact .of_ok (by rw [checkBalance, if_neg h, pure_run]) (if_pos (by omega)) (Kept.refl s)

theorem setCurrentIdx_meets {idx : Nat} (hidx : idx = s.state.currentIdx + 1) :
    view.Meets s (setCurrentIdx idx) Rollup.advance := by
  subst hidx
  exact onStore_meets rfl

theorem rollup_of_run {α : Type} {x : TxProc α} {m : RollupM α} (h : view.Meets s x m) {a : α} {s' : TxProcessor}
    (hrun : x s = .ok a s') : m s.rollup = some (a, s'.rollup) :=
  (h.refines a s' hrun).1

variable [Libraries]

theorem updateAccount_meets (idx : Nat) (acc : Account) :
    view.Meets s (updateAccount idx acc) (Rollup.put idx acc) := by
  obtain ⟨s', hrun, hsee, hstate, hkept⟩ := rememberAccount_run (s := s) idx acc
  exact View.Meets.skip hrun hsee hkept (onStore_meets rfl)

theorem put_idx (idx i : Nat) (acc : Account) : Rollup.put idx { acc with idx := i } = Rollup.put idx acc := by
  simp only [Rollup.put, Store.updateAccount_idx]

theorem createAccount_meets (acc : Account) :
    view.Meets s (createAccount (s.state.currentIdx + 1) acc) (Rollup.openAccount acc) := by
  obtain ⟨s', hrun, hsee, hstate, hkept⟩ := rememberAccount_run (s := s) (s.state.currentIdx + 1) acc
  refine View.Meets.skip hrun hsee hkept (onStore_meets ?_)
  rw [← hstate]
  rfl

theorem applyCreateAccount_meets (tx : L1Tx) :
    view.Meets s (applyCreateAccount tx) (do
      Rollup.openAccount (Rollup.newAccount tx (tx.effectiveDepositAmount.getD 0))
      Rollup.advance) := by
  refine View.Meets.get ((createAccount_meets _).bind fun _ s' hrun => ?_)
  have hcurrent := Rollup.currentIdx_openAccount (rollup_of_run (createAccount_meets _) hrun)
  obtain ⟨s'', hfill, hsee, hkept⟩ := onZKInputs_run (s := s') (fillNewAccount (s.state.currentIdx + 1))
    fun zki _ => ⟨_, rfl, rfl⟩
  refine View.Meets.skip hfill hsee hkept (setCurrentIdx_meets ?_)
  have hstore : s''.state.currentIdx = s'.state.currentIdx := congrArg (·.currentIdx) hsee
  rw [hstore]
  exact congrArg (· + 1) hcurrent.symm

/-- The receiver of a transfer may be the sender, whose account in hand is the stored one. -/
theorem creditReceiver_meets {fromIdx : Nat} (toIdx : Nat) {accSender : Account} (amount : Int)
    (hsender : s.state.getAccount fromIdx = .ok { accSender with idx := fromIdx }) :
    view.Meets s (creditReceiver fromIdx toIdx accSender amount) (Rollup.give toIdx amount) := by
  rw [creditReceiver, getReceiver]
  split
  next hself =>
    subst hself
    have hread : Rollup.account toIdx s.rollup = some ({ accSender with idx := toIdx }, s.rollup) :=
      Rollup.account_some.mpr ⟨hsender, rfl⟩
    have hmeets := updateAccount_meets (s := s) toIdx { accSender with balance := accSender.balance + amount }
    rw [← put_idx toIdx toIdx] at hmeets
    constructor
    · intro a s' hrun
      rw [Rollup.give, show view.see s = s.rollup from rfl, Spec.bind_of_some hread]
      exact hmeets.refines a s' hrun
    · intro a t hgive
      rw [Rollup.give, show view.see s = s.rollup from rfl, Spec.bind_of_some hread] at hgive
      exact hmeets.succeeds a t hgive
  next => exact (getAccount_meets toIdx).bind fun acc s' _ => updateAccount_meets toIdx _

theorem getAccount_of_put {idx : Nat} {acc : Account} {r r' : Rollup} {u : Unit}
    (h : Rollup.put idx acc r = some (u, r')) (hbalance : 0 ≤ acc.balance) :
    r'.getAccount idx = .ok { acc with idx } := by
  obtain ⟨hidx, hencodable, rfl⟩ := Rollup.put_some.mp h
  exact Store.getAccount_updateAccount (Store.updateAccount_ok.mpr ⟨hidx, hencodable, rfl⟩) hbalance

theorem applyDeposit_meets (tx : L1Tx) (transfer : Bool) :
    view.Meets s (applyDeposit tx transfer) (do
      let _ ← Rollup.take tx.fromIdx (tx.effectiveAmount.getD 0 - tx.effectiveDepositAmount.getD 0)
      if transfer then Rollup.give tx.toIdx (tx.effectiveAmount.getD 0) else pure ()) := by
  simp only [Rollup.take, bind_assoc, pure_bind]
  refine (getAccount_meets tx.fromIdx).bind fun acc s₁ hget => ?_
  rw [show acc.balance - (tx.effectiveAmount.getD 0 - tx.effectiveDepositAmount.getD 0) =
    acc.balance + tx.effectiveDepositAmount.getD 0 - tx.effectiveAmount.getD 0 by omega]
  refine (checkBalance_meets tx.tx _).bind fun _ s₂ hcheck => ?_
  have hbalance := (Spec.demand_some.mp (rollup_of_run (checkBalance_meets tx.tx _) hcheck)).1
  refine (updateAccount_meets tx.fromIdx _).bind fun _ s₃ hupdate => ?_
  cases transfer with
  | false => exact View.Meets.pure ()
  | true =>
    have hput := rollup_of_run (updateAccount_meets tx.fromIdx _) hupdate
    exact creditReceiver_meets tx.toIdx _ (getAccount_of_put hput hbalance)

omit [Libraries] in
theorem accrueFee_rollup (coordIdx : Nat) (fee : Int) :
    (accrueFee coordIdx fee s).rollup =
      { s.rollup with fees := Function.update s.rollup.fees coordIdx (s.rollup.fees coordIdx + fee) } := by
  rw [rollup, Rollup.mk.injEq]
  refine ⟨rfl, rfl, funext fun idx => ?_⟩
  by_cases hidx : idx = coordIdx
  · subst hidx
    rw [accrueFee, Finmap.lookup_insert, Function.update_self]
    rfl
  · rw [accrueFee, Finmap.lookup_insert_of_ne _ hidx, Function.update_of_ne hidx]
    rfl

omit [Libraries] in
theorem collectFee_run {tokenID : TokenID}
    (hready : s.state.typ = .txSelector ∨ (s.collectedFees tokenID).isSome) (fee : Int) :
    ∃ s', collectFee tokenID fee s = .ok () s' ∧ s'.rollup = s.rollup ∧ Kept s s' := by
  by_cases htyp : s.state.typ = .txSelector
  · exact ⟨s, by rw [collectFee, if_pos htyp], rfl, Kept.refl s⟩
  · obtain ⟨collected, hcollected⟩ := Option.isSome_iff_exists.mp (hready.resolve_left htyp)
    refine ⟨{ s with collectedFees := Function.update s.collectedFees tokenID (some (collected + fee)) }, ?_, rfl, ?_⟩
    · rw [collectFee, if_neg htyp, hcollected]
    · refine ⟨rfl, rfl, rfl, rfl, rfl, fun other => ?_, fun _ h => h⟩
      by_cases hother : other = tokenID
      · subst hother
        simp [hcollected]
      · simp [Function.update_of_ne hother]

omit [Libraries] in
theorem accumulateFee_meets (hready : FeesReady coordIdxsMap s) (tokenID : TokenID)
    (fee : Int) : view.Meets s (accumulateFee coordIdxsMap tokenID fee) (Rollup.owe coordIdxsMap tokenID fee) := by
  rw [accumulateFee, Rollup.owe]
  cases hlookup : coordIdxsMap.lookup tokenID with
  | none => exact .pure ()
  | some coordIdx =>
    cases hget : s.state.getAccount coordIdx with
    | error e =>
      have hread : getCoordAccount tokenID coordIdx s = .error (.coordIdxNotInTree tokenID coordIdx) := by
        rw [getCoordAccount, hget]
        rfl
      refine .of_error (bind_error.mpr (Or.inl (fromState_error.mpr ⟨hread, rfl⟩))) ?_
      simp only [Spec.updates, show (view.see s).getAccount coordIdx = _ from hget]
      rfl
    | ok accCoord =>
      obtain ⟨-, stored, -, rfl⟩ := getAccountInTreeDB_ok.mp hget
      have hcollects : (accrueFee coordIdx fee s).state.typ = .txSelector ∨
          ((accrueFee coordIdx fee s).collectedFees stored.tokenID).isSome :=
        hready.imp_right fun h => by
          obtain ⟨acc, hacc, hcollected⟩ := h tokenID coordIdx hlookup
          rw [hget] at hacc
          cases hacc
          exact hcollected
      obtain ⟨s', hrun, hsee, hkept⟩ := collectFee_run hcollects fee
      have hread : getCoordAccount tokenID coordIdx s = .ok (stored.account coordIdx) := by
        rw [getCoordAccount, hget]
        rfl
      refine .of_ok ((bind_of_ok (fromState_ok.mpr ⟨hread, rfl⟩)).trans hrun) ?_ ?_
      · rw [Spec.updates_some]
        simp only [show (view.see s).getAccount coordIdx = _ from hget]
        exact congrArg some (hsee.trans (accrueFee_rollup coordIdx fee)).symm
      · have haccrued : Kept s (accrueFee coordIdx fee s) :=
          ⟨rfl, rfl, rfl, rfl, rfl, fun _ => rfl, fun _ hidx => Finmap.mem_insert.mpr (Or.inr hidx)⟩
        exact haccrued.trans hkept

/-- What a transaction takes from its sender. -/
def chargeSpec (coordIdxsMap : CoordIdxsMap) (tx : Tx) (acc : Account) : RollupM Account :=
  if tx.isL1 then do
    Spec.demand (0 ≤ acc.balance - tx.amount)
    return { acc with balance := acc.balance - tx.amount }
  else do
    let fee ← Spec.reads fun _ => (calcFeeAmount tx.amount tx.fee).toOption
    Spec.demand (0 ≤ acc.balance - (tx.amount + fee))
    Rollup.owe coordIdxsMap acc.tokenID fee
    return { acc with balance := acc.balance - (tx.amount + fee), nonce := acc.nonce + 1 }

def spend (coordIdxsMap : CoordIdxsMap) (tx : Tx) : RollupM Account := do
  let acc ← Rollup.account tx.fromIdx
  let acc ← chargeSpec coordIdxsMap tx acc
  Rollup.put tx.fromIdx acc
  return acc

theorem spend_l1 {tx : Tx} (htx : tx.isL1 = true) (coordIdxsMap : CoordIdxsMap) :
    spend coordIdxsMap tx = Rollup.take tx.fromIdx tx.amount := by
  simp only [spend, chargeSpec, htx, if_true, Rollup.take, bind_assoc, pure_bind]

theorem spend_l2 {tx : Tx} (htx : tx.isL1 = false) (coordIdxsMap : CoordIdxsMap) :
    spend coordIdxsMap tx = Rollup.pay coordIdxsMap tx.fromIdx tx.amount tx.fee := by
  simp [spend, chargeSpec, htx, Rollup.pay, bind_assoc]

omit [Libraries] in
theorem chargeSpec_balance {tx : Tx} {acc acc' : Account} {r r' : Rollup}
    (h : chargeSpec coordIdxsMap tx acc r = some (acc', r')) : 0 ≤ acc'.balance := by
  rw [chargeSpec] at h
  split at h
  · obtain ⟨_, _, hdemand, hret⟩ := Spec.bind_some.mp h
    cases hret
    exact (Spec.demand_some.mp hdemand).1
  · obtain ⟨_, _, -, h⟩ := Spec.bind_some.mp h
    obtain ⟨_, _, hdemand, h⟩ := Spec.bind_some.mp h
    obtain ⟨_, _, -, hret⟩ := Spec.bind_some.mp h
    cases hret
    exact (Spec.demand_some.mp hdemand).1

omit [Libraries] in
theorem chargeSender_meets (hready : FeesReady coordIdxsMap s) (tx : Tx)
    (acc : Account) : view.Meets s (chargeSender coordIdxsMap tx acc) (chargeSpec coordIdxsMap tx acc) := by
  rw [chargeSender, chargeSpec]
  split
  · exact (checkBalance_meets tx _).bind fun _ _ _ => .pure _
  · have hfee : view.Meets s (fromState fun _ => calcFeeAmount tx.amount tx.fee)
        (Spec.reads fun _ => (calcFeeAmount tx.amount tx.fee).toOption) := .fromState rfl
    refine hfee.bind fun fee s₁ hrun => ?_
    obtain ⟨-, rfl⟩ := fromState_ok.mp hrun
    refine (checkBalance_meets tx _).bind fun _ s₂ hcheck => ?_
    have hsame : s₂ = s₁ := by
      rw [checkBalance] at hcheck
      split at hcheck
      · cases hcheck
      · exact (pure_ok.mp hcheck).2.symm
    subst hsame
    exact (accumulateFee_meets hready _ _).bind fun _ _ _ => .pure _

theorem spend_meets (hready : FeesReady coordIdxsMap s) (tx : Tx) {α : Type}
    {k : Account → TxProc α} {n : Account → RollupM α}
    (hk : ∀ acc s', s'.state.getAccount tx.fromIdx = .ok { acc with idx := tx.fromIdx } → view.Meets s' (k acc) (n acc)) :
    view.Meets s (do
      let acc ← getAccount tx.fromIdx
      let acc ← chargeSender coordIdxsMap tx acc
      updateAccount tx.fromIdx acc
      k acc) (do
      let acc ← spend coordIdxsMap tx
      n acc) := by
  simp only [spend, bind_assoc, pure_bind]
  refine (getAccount_meets tx.fromIdx).bind fun acc s₁ hget => ?_
  obtain ⟨-, rfl⟩ := fromState_ok.mp hget
  refine (chargeSender_meets hready tx acc).bind fun acc' s₂ hcharge => ?_
  have hbalance := chargeSpec_balance (rollup_of_run (chargeSender_meets hready tx acc) hcharge)
  refine (updateAccount_meets tx.fromIdx acc').bind fun _ s₃ hupdate => ?_
  exact hk acc' s₃ (getAccount_of_put (rollup_of_run (updateAccount_meets tx.fromIdx acc') hupdate) hbalance)

theorem applyTransfer_meets (hready : FeesReady coordIdxsMap s) (tx : Tx) (auxToIdx : Nat) :
    view.Meets s (applyTransfer coordIdxsMap tx auxToIdx) (do
      let _ ← spend coordIdxsMap tx
      Rollup.give (if auxToIdx = 0 then tx.toIdx else auxToIdx) tx.amount) :=
  spend_meets hready tx fun _ _ hsender => creditReceiver_meets _ _ hsender

theorem applyExitLeaf_meets {tree : AccountTree} (htree : s.exitTree = some tree) (idx : Nat) (acc : Account)
    {amount originalAmount : Int} (horiginal : originalAmount ≠ 0) :
    view.Meets s (applyExitLeaf tree idx acc amount) (Rollup.leave idx acc amount originalAmount) := by
  have hspec : Rollup.leave idx acc amount originalAmount (view.see s) =
      (exitLeaf tree idx acc amount).toOption.map fun out => (out.2, { s.rollup with exits := some out.1 }) := by
    rw [Rollup.leave, show (view.see s).exits = some tree from htree]
    exact if_neg horiginal
  cases hleaf : exitLeaf tree idx acc amount with
  | error e =>
    refine .of_error (bind_error.mpr (Or.inl (fromState_error.mpr ⟨hleaf, rfl⟩))) ?_
    rw [hspec, hleaf]
    rfl
  | ok out =>
    obtain ⟨tree', exit⟩ := out
    have hread : (fromState fun _ : TxProcessor => exitLeaf tree idx acc amount) s = .ok (tree', exit) s :=
      fromState_ok.mpr ⟨hleaf, rfl⟩
    have hshape : ∀ zki : ZKInputs, { s with exitTree := some tree' }.zki = some zki →
        ∃ zki', fillExitRoot tree' { s with exitTree := some tree' } zki = .ok zki' ∧ zki'.shape = zki.shape := by
      intro zki _
      refine ⟨_, rfl, ?_⟩
      simp only [ZKInputs.shape, setIfLt]
      split <;> simp
    obtain ⟨s', hfill, hsee, hkept⟩ := onZKInputs_run _ hshape
    refine .of_ok ((bind_of_ok hread).trans (bind_of_ok hfill)) ?_ ?_
    · rw [hspec, hleaf, show view.see s' = _ from hsee]
      rfl
    · have hleft : Kept s { s with exitTree := some tree' } :=
        ⟨rfl, rfl, rfl, rfl, rfl, fun _ => rfl, fun _ h => h⟩
      exact hleft.trans hkept

theorem applyExit_meets (hready : FeesReady coordIdxsMap s) (tx : Tx) (originalAmount : Int) :
    view.Meets s (applyExit coordIdxsMap tx originalAmount) (do
      let acc ← spend coordIdxsMap tx
      Rollup.leave tx.fromIdx acc tx.amount originalAmount) := by
  refine spend_meets hready tx fun acc s' _ => View.Meets.get ?_
  cases htree : s'.exitTree with
  | none =>
    refine .of_ok rfl ?_ (Kept.refl s')
    rw [Rollup.leave, show (view.see s').exits = none from htree]
  | some tree =>
    by_cases horiginal : originalAmount = 0
    · dsimp only
      rw [if_pos horiginal]
      refine .of_ok rfl ?_ (Kept.refl s')
      rw [Rollup.leave, show (view.see s').exits = some tree from htree]
      exact if_pos horiginal
    · dsimp only
      rw [if_neg horiginal]
      exact applyExitLeaf_meets htree tx.fromIdx acc horiginal

theorem applyCreateAccountDepositTransfer_meets (tx : L1Tx) :
    view.Meets s (applyCreateAccountDepositTransfer tx) (do
      Spec.demand (0 ≤ tx.effectiveDepositAmount.getD 0 - tx.effectiveAmount.getD 0)
      Rollup.openAccount (Rollup.newAccount tx (tx.effectiveDepositAmount.getD 0 - tx.effectiveAmount.getD 0))
      Rollup.give tx.toIdx (tx.effectiveAmount.getD 0)
      Rollup.advance) := by
  refine View.Meets.get ((checkBalance_meets tx.tx _).bind fun _ s₁ hcheck => ?_)
  obtain ⟨hbalance, hsame⟩ := Spec.demand_some.mp (rollup_of_run (checkBalance_meets tx.tx _) hcheck)
  have hcurrent : s₁.state.currentIdx = s.state.currentIdx := congrArg (·.currentIdx) hsame
  rw [← hcurrent]
  refine (createAccount_meets _).bind fun _ s₂ hcreate => ?_
  have hopen := rollup_of_run (createAccount_meets _) hcreate
  have hcurrent₂ : s₂.state.currentIdx = s₁.state.currentIdx := Rollup.currentIdx_openAccount hopen
  obtain ⟨store, hstore, hrollup⟩ := Rollup.openAccount_some hopen
  have hsender := Store.getAccount_createAccount hstore hbalance
  obtain ⟨s₃, hfill, hsee, hkept⟩ := onZKInputs_run (s := s₂) (fillNewAccount (s₁.state.currentIdx + 1))
    fun zki _ => ⟨_, rfl, rfl⟩
  have hstore₃ : s₃.state.toStore = store := (congrArg Rollup.toStore hsee).trans (congrArg Rollup.toStore hrollup)
  refine View.Meets.skip hfill hsee hkept ?_
  rw [← hstore₃] at hsender
  have hcredit := creditReceiver_meets tx.toIdx (tx.effectiveAmount.getD 0) hsender
  refine hcredit.bind fun _ s₄ hgive => setCurrentIdx_meets ?_
  obtain ⟨_, -, _, hgiven⟩ := Rollup.give_some.mp (rollup_of_run hcredit hgive)
  have hcurrent₄ : s₄.state.currentIdx = s₃.state.currentIdx := congrArg (·.currentIdx) hgiven
  have hcurrent₃ : s₃.state.currentIdx = s₂.state.currentIdx := congrArg (·.currentIdx) hsee
  omega

theorem applyL1Tx_meets (tx : L1Tx) : view.Meets s (applyL1Tx tx) (Rollup.l1Tx tx) := by
  have hready : FeesReady ∅ s := Or.inr fun tokenID idx hlookup => by
    rw [Finmap.lookup_empty] at hlookup
    cases hlookup
  -- the effective amounts are read off the state before anything is done
  have hspec : ∀ {exec : TxProc (L1Tx × ExitOut)}, view.Meets s exec (do
      let exit ← Rollup.applyL1 tx (effectiveAmounts s.state.toStore tx).1 (effectiveAmounts s.state.toStore tx).2
      return (Rollup.effectiveTx s.state.toStore tx, exit)) →
      view.Meets s exec (Rollup.l1Tx tx) := fun h => ⟨h.refines, h.succeeds⟩
  refine View.Meets.get (hspec ?_)
  have hreturn : ∀ {exec : TxProc Unit} {spec : RollupM Unit}, view.Meets s exec spec →
      view.Meets s (do exec; return (computeEffectiveAmounts s.state.toStore tx, {}) : TxProc (L1Tx × ExitOut))
        (do spec; return (computeEffectiveAmounts s.state.toStore tx, {})) :=
    fun h => h.bind fun _ _ _ => .pure _
  by_cases hknown : Rollup.knownL1Type tx.type = false
  · rw [Rollup.applyL1_of_unknown hknown, Rollup.effectiveTx, hknown]
    dsimp only
    split <;> first | exact .pure _ | simp_all [Rollup.knownL1Type]
  rw [Rollup.effectiveTx, if_pos (by simpa using hknown), Rollup.applyL1]
  split
  next htype =>
    have h := hreturn (applyTransfer_meets hready (computeEffectiveAmounts s.state.toStore tx).tx 0)
    rw [spend_l1 rfl] at h
    simp only [bind_assoc] at h
    simp only [htype, bind_assoc, pure_bind]
    exact h
  next htype =>
    have h := hreturn (applyCreateAccount_meets (computeEffectiveAmounts s.state.toStore tx))
    simp only [bind_assoc] at h
    simp only [htype, bind_assoc, pure_bind]
    exact h
  next htype =>
    have h := hreturn (applyDeposit_meets (computeEffectiveAmounts s.state.toStore tx) false)
    simp only [bind_assoc] at h
    simp only [htype, bind_assoc, pure_bind]
    exact h
  next htype =>
    have h := hreturn (applyDeposit_meets (computeEffectiveAmounts s.state.toStore tx) true)
    simp only [bind_assoc, if_true] at h
    simp only [htype, bind_assoc, pure_bind]
    exact h
  next htype =>
    have h := hreturn (applyCreateAccountDepositTransfer_meets (computeEffectiveAmounts s.state.toStore tx))
    simp only [bind_assoc] at h
    simp only [htype, bind_assoc, pure_bind]
    exact h
  next htype =>
    have h := (applyExit_meets hready (computeEffectiveAmounts s.state.toStore tx).tx tx.amount).bind
      (k := fun exit => pure (computeEffectiveAmounts s.state.toStore tx, exit)) fun exit _ _ => .pure _
    rw [spend_l1 rfl] at h
    simp only [bind_assoc] at h
    simp only [htype, bind_assoc]
    exact h
  next => exact absurd (by simp_all [Rollup.knownL1Type]) hknown

theorem applyL2Tx_meets (hready : FeesReady coordIdxsMap s) (tx : PoolL2Tx) :
    view.Meets s (applyL2Tx coordIdxsMap tx) (Rollup.l2Tx coordIdxsMap tx) := by
  have htransfer : view.Meets s (do applyTransfer coordIdxsMap tx.tx tx.auxToIdx; return {} : TxProc ExitOut) (do
      let _ ← Rollup.pay coordIdxsMap tx.fromIdx tx.amount tx.fee
      Rollup.give (Rollup.receiver tx) tx.amount
      return {}) := by
    have h := (applyTransfer_meets hready tx.tx tx.auxToIdx).bind (k := fun _ => pure ({} : ExitOut))
      fun _ _ _ => .pure _
    rw [spend_l2 rfl] at h
    simp only [bind_assoc] at h
    exact h
  rw [applyL2Tx, Rollup.l2Tx]
  split
  next htype => simpa [htype, Rollup.isTransfer] using htransfer
  next htype => simpa [htype, Rollup.isTransfer] using htransfer
  next htype => simpa [htype, Rollup.isTransfer] using htransfer
  next htype =>
    have h := applyExit_meets hready tx.tx tx.amount
    rw [spend_l2 rfl] at h
    rw [if_neg (by simp [htype, Rollup.isTransfer]), if_pos htype]
    exact h
  next =>
    rw [if_neg (by simp_all [Rollup.isTransfer]), if_neg (by simp_all)]
    exact .pure _

end Steps

section Transactions

variable {s s' : TxProcessor}

/-- How the receiver of an L2 transaction is found. -/
def Finds (state : StateDB) (tx tx' : PoolL2Tx) : Prop :=
  if tx.toIdx = 0 ∧ tx.auxToIdx = 0 then
    state.typ ≠ .synchronizer ∧ ∃ acc auxToIdx, state.getAccount tx.fromIdx = .ok acc ∧
      state.getIdxByEthAddrBJJ tx.toEthAddr tx.toBJJ acc.tokenID = .ok auxToIdx ∧ tx' = { tx with auxToIdx }
  else tx' = tx

/-- What the synchronizer fills in from the sender of an L2 transaction. -/
def Completes (state : StateDB) (tx tx' : PoolL2Tx) : Prop :=
  if state.typ = .synchronizer then
    ∃ acc, state.getAccount tx.fromIdx = .ok acc ∧ tx' = { tx with nonce := acc.nonce, tokenID := acc.tokenID }
  else tx' = tx

theorem onZKInputs_ok {fill : TxProcessor → ZKInputs → Except Err ZKInputs} {u : Unit}
    (hshape : ∀ zki zki', fill s zki = .ok zki' → zki'.shape = zki.shape) (h : onZKInputs fill s = .ok u s') :
    ∃ zki, s' = { s with zki } ∧ zki.map ZKInputs.shape = s.zki.map ZKInputs.shape := by
  rw [onZKInputs] at h
  cases hzki : s.zki with
  | none =>
    rw [hzki] at h
    cases h
    exact ⟨none, by rw [← hzki], rfl⟩
  | some zki =>
    simp only [hzki] at h
    cases hfill : fill s zki with
    | error e => rw [hfill] at h; cases h
    | ok zki' =>
      rw [hfill] at h
      cases h
      exact ⟨some zki', rfl, congrArg some (hshape zki zki' hfill)⟩

theorem kept_zki {zki : Option ZKInputs} (hshape : zki.map ZKInputs.shape = s.zki.map ZKInputs.shape) :
    Kept s { s with zki } :=
  ⟨rfl, rfl, rfl, rfl, hshape, fun _ => rfl, fun _ h => h⟩

theorem setAt_length {α : Type} {xs ys : List α} {i : Nat} {x : Except Err α} (h : setAt xs i x = .ok ys) :
    ys.length = xs.length := by
  rw [setAt] at h
  split at h
  · cases x with
    | error e => cases h
    | ok a =>
      cases h
      exact List.length_set
  · cases h

theorem fillL1Tx_shape {tx : L1Tx} {zki zki' : ZKInputs} (h : fillL1Tx tx s zki = .ok zki') :
    zki'.shape = zki.shape := by
  obtain ⟨_, hset, h⟩ := except_bind_ok.mp h
  obtain ⟨_, -, h⟩ := except_bind_ok.mp h
  obtain ⟨_, -, h⟩ := except_bind_ok.mp h
  cases h
  simp only [ZKInputs.shape, setAt_length hset]

theorem getCreatedAccount_ok {type : Option TxType} {acc : Option Account} (h : getCreatedAccount type s = .ok acc s') :
    s' = s := by
  rw [getCreatedAccount, bind_of_ok (get_run s)] at h
  split at h
  · obtain ⟨_, _, hget, hret⟩ := bind_ok.mp h
    obtain ⟨-, rfl⟩ := fromState_ok.mp hget
    exact (pure_ok.mp hret).2.symm
  · exact (pure_ok.mp h).2.symm

variable [Libraries]

/-- **An L1 transaction**, whatever the mode: a successful run is the run of the specification. -/
theorem processL1Tx_ok {tx : L1Tx} {out : L1TxOut} (h : processL1Tx tx s = .ok out s') :
    Rollup.l1Tx tx s.rollup = some ((out.tx, out.exit), s'.rollup) ∧ Kept s s' := by
  obtain ⟨_, s₁, hfill, h₁⟩ := bind_ok.mp h
  obtain ⟨⟨tx', exit⟩, s₂, happly, h₂⟩ := bind_ok.mp h₁
  obtain ⟨created, s₃, hcreated, hret⟩ := bind_ok.mp h₂
  obtain ⟨rfl, rfl⟩ := pure_ok.mp hret
  obtain rfl := getCreatedAccount_ok hcreated
  obtain ⟨zki, rfl, hshape⟩ := onZKInputs_ok (fun _ _ => fillL1Tx_shape) hfill
  obtain ⟨hspec, hkept⟩ := (applyL1Tx_meets tx).refines _ _ happly
  exact ⟨hspec, (kept_zki hshape).trans hkept⟩

/-- It succeeds if the specification does and its circuit inputs can be filled in. -/
theorem processL1Tx_total {tx : L1Tx} {o : L1Tx × ExitOut} {r' : Rollup}
    (hspec : Rollup.l1Tx tx s.rollup = some (o, r'))
    (hfill : ∀ zki, s.zki = some zki → ∃ zki', fillL1Tx tx s zki = .ok zki') :
    ∃ out s', processL1Tx tx s = .ok out s' := by
  obtain ⟨s₁, hrun, hrollup, hkept⟩ := onZKInputs_run (fillL1Tx tx) fun zki hzki => by
    obtain ⟨zki', hzki'⟩ := hfill zki hzki
    exact ⟨zki', hzki', fillL1Tx_shape hzki'⟩
  obtain ⟨s₂, happly, hrollup₂, -⟩ := (applyL1Tx_meets (s := s₁) tx).run (hrollup ▸ hspec)
  have hcreated : ∃ created, getCreatedAccount o.1.type s₂ = .ok created s₂ := by
    rw [getCreatedAccount, bind_of_ok (get_run s₂)]
    split
    next hcreates =>
      obtain ⟨happlied, htx⟩ := Rollup.l1Tx_some.mp hspec
      have htype : o.1.type = tx.type := by
        rw [htx, Rollup.effectiveTx]
        split <;> rfl
      rw [htype] at hcreates
      obtain ⟨acc, hacc⟩ := Rollup.getAccount_created hcreates.2 happlied
      subst hrollup₂
      have hread : getAccount s₂.state.currentIdx s₂ = .ok acc s₂ := fromState_ok.mpr ⟨hacc, rfl⟩
      exact ⟨some acc, bind_of_ok hread⟩
    next => exact ⟨none, rfl⟩
  obtain ⟨created, hcreated⟩ := hcreated
  exact ⟨_, s₂, bind_ok.mpr ⟨(), s₁, hrun, bind_ok.mpr ⟨o, s₂, happly, bind_ok.mpr ⟨created, s₂, hcreated, rfl⟩⟩⟩⟩

omit [Libraries] in
theorem findReceiver_ok {tx tx' : PoolL2Tx} : findReceiver tx s = .ok tx' s' ↔ Finds s.state tx tx' ∧ s' = s := by
  rw [findReceiver, Finds]
  by_cases hzero : tx.toIdx = 0 ∧ tx.auxToIdx = 0
  · rw [if_pos hzero, if_pos hzero, fromState_ok]
    by_cases htyp : s.state.typ = .synchronizer
    · simp [htyp]
    · simp only [if_neg htyp, except_bind_ok, except_pure, Except.ok.injEq]
      grind
  · rw [if_neg hzero, if_neg hzero, pure_ok]
    exact ⟨fun h => ⟨h.1.symm, h.2.symm⟩, fun h => ⟨h.1.symm, h.2.symm⟩⟩

omit [Libraries] in
theorem completeL2Tx_ok {tx tx' : PoolL2Tx} : completeL2Tx tx s = .ok tx' s' ↔ Completes s.state tx tx' ∧ s' = s := by
  rw [completeL2Tx, bind_of_ok (get_run s), Completes]
  by_cases htyp : s.state.typ = .synchronizer
  · rw [if_pos htyp, if_pos htyp, bind_ok]
    constructor
    · rintro ⟨acc, _, hget, hret⟩
      obtain ⟨hget, rfl⟩ := fromState_ok.mp hget
      obtain ⟨rfl, rfl⟩ := pure_ok.mp hret
      exact ⟨⟨acc, hget, rfl⟩, rfl⟩
    · rintro ⟨⟨acc, hget, rfl⟩, rfl⟩
      exact ⟨acc, _, fromState_ok.mpr ⟨hget, rfl⟩, rfl⟩
  · rw [if_neg htyp, if_neg htyp, pure_ok]
    exact ⟨fun h => ⟨h.1.symm, h.2.symm⟩, fun h => ⟨h.1.symm, h.2.symm⟩⟩

theorem fillL2Tx_shape {tx : PoolL2Tx} {zki zki' : ZKInputs} (h : fillL2Tx tx s zki = .ok zki') :
    zki'.shape = zki.shape := by
  obtain ⟨_, hset, h⟩ := except_bind_ok.mp h
  obtain ⟨_, hset', h⟩ := except_bind_ok.mp h
  obtain ⟨_, -, h⟩ := except_bind_ok.mp h
  obtain ⟨rq, hrq, h⟩ := except_bind_ok.mp h
  have hlength : rq.length = zki.rqTxCompressedDataV2.length := by
    rw [fillRqTx] at hrq
    split_ifs at hrq
    · cases hrq
      rfl
    · exact setAt_length hrq
  split at h
  · cases h
    simp only [ZKInputs.shape, setAt_length hset, setAt_length hset', hlength]
  · cases h

/-- **An L2 transaction**, whatever the mode: a successful run is the run of the specification, with the
receiver that was found. -/
theorem processL2Tx_ok (hready : FeesReady coordIdxsMap s) {tx tx' : PoolL2Tx}
    {exit : ExitOut} (h : processL2Tx coordIdxsMap tx s = .ok (tx', exit) s') :
    (∃ tx₁, Finds s.state tx tx₁ ∧ Completes s.state tx₁ tx') ∧
      Rollup.l2Tx coordIdxsMap tx' s.rollup = some (exit, s'.rollup) ∧ Kept s s' := by
  obtain ⟨tx₁, s₁, hfind, h₁⟩ := bind_ok.mp h
  obtain ⟨_, s₂, hfill, h₂⟩ := bind_ok.mp h₁
  obtain ⟨tx₂, s₃, hcomplete, h₃⟩ := bind_ok.mp h₂
  obtain ⟨_, s₄, happly, hret⟩ := bind_ok.mp h₃
  obtain ⟨heq, rfl⟩ := pure_ok.mp hret
  cases heq
  obtain ⟨hfinds, rfl⟩ := findReceiver_ok.mp hfind
  obtain ⟨zki, rfl, hshape⟩ := onZKInputs_ok (fun _ _ => fillL2Tx_shape) hfill
  obtain ⟨hcompletes, rfl⟩ := completeL2Tx_ok.mp hcomplete
  obtain ⟨hspec, hkept⟩ := (applyL2Tx_meets (s := { s₁ with zki }) hready tx').refines _ _ happly
  exact ⟨⟨tx₁, hfinds, hcompletes⟩, hspec, (kept_zki hshape).trans hkept⟩

end Transactions

end TxProcessor

end HermezRollup
