import HermezRollup.ZKLoops

/-! Which computations index a slice out of range.  Writing a slot of the circuit inputs does, when there is
no such slot; nothing else does.  So a batch ends with an index out of range only if it has more L1 transactions
than there are slots for the intermediate states. -/

namespace HermezRollup

open Bytes Fallible Simulation

/-- A computation that indexes no slice out of range. -/
abbrev InBounds {α : Type} (x : Except Err α) : Prop :=
  Avoids .indexOutOfRange x

section Encodings

theorem inBounds_idxBytes (idx : Nat) : InBounds (idxBytes idx) := by
  rw [idxBytes]
  split <;> simp

theorem inBounds_idxTail (idxLen : Nat) (b : Bytes) : InBounds (idxTail idxLen b) := by
  rw [idxTail]
  split <;> simp

theorem inBounds_nonceBytes (nonce : Nat) : InBounds (nonceBytes nonce) := by
  rw [nonceBytes]
  split <;> simp

theorem inBounds_newFloat40 (f : Int) : InBounds (newFloat40 f) := by
  simp only [newFloat40]
  split_ifs <;> simp

theorem inBounds_float40Bytes (f40 : Nat) : InBounds (float40Bytes f40) := by
  rw [float40Bytes]
  split <;> simp

theorem inBounds_amountBytes (amount : Int) : InBounds (newFloat40 amount >>= float40Bytes) :=
  (inBounds_newFloat40 amount).bind inBounds_float40Bytes

theorem inBounds_l1_txCompressedData (tx : L1Tx) (chainID : BitVec 16) : InBounds (tx.txCompressedData chainID) :=
  (inBounds_idxBytes _).bind fun _ => (inBounds_idxBytes _).bind fun _ => .pure _

theorem inBounds_bytesGeneric (tx : L1Tx) : InBounds tx.bytesGeneric :=
  (inBounds_idxBytes _).bind fun _ => (inBounds_newFloat40 _).bind fun _ => (inBounds_float40Bytes _).bind fun _ =>
    (inBounds_newFloat40 _).bind fun _ => (inBounds_float40Bytes _).bind fun _ => (inBounds_idxBytes _).bind fun _ => .pure _

theorem inBounds_l1_bytesDataAvailability (tx : L1Tx) (nLevels : Nat) : InBounds (tx.bytesDataAvailability nLevels) := by
  refine ((inBounds_idxBytes _).bind fun _ => inBounds_idxTail _ _).bind fun _ =>
    ((inBounds_idxBytes _).bind fun _ => inBounds_idxTail _ _).bind fun _ => ?_
  cases tx.effectiveAmount with
  | none => exact .pure _
  | some amount => exact (inBounds_amountBytes amount).bind fun _ => .pure _

theorem inBounds_l2_bytesDataAvailability (tx : L2Tx) (nLevels : Nat) : InBounds (tx.bytesDataAvailability nLevels) :=
  ((inBounds_idxBytes _).bind fun _ => inBounds_idxTail _ _).bind fun _ =>
    ((inBounds_idxBytes _).bind fun _ => inBounds_idxTail _ _).bind fun _ => (inBounds_amountBytes _).bind fun _ => .pure _

theorem inBounds_l2_txCompressedData (tx : PoolL2Tx) (chainID : BitVec 16) : InBounds (tx.txCompressedData chainID) :=
  (inBounds_nonceBytes _).bind fun _ => (inBounds_idxBytes _).bind fun _ => (inBounds_idxBytes _).bind fun _ => .pure _

theorem inBounds_compressV2 (toBJJ : PublicKeyComp) (fee : FeeSelector) (nonce : Nat) (tokenID : TokenID) (amount : Int)
    (toIdx fromIdx : Nat) : InBounds (PoolL2Tx.compressV2 toBJJ fee nonce tokenID amount toIdx fromIdx) :=
  (inBounds_amountBytes _).bind fun _ => (inBounds_nonceBytes _).bind fun _ => (inBounds_idxBytes _).bind fun _ =>
    (inBounds_idxBytes _).bind fun _ => .pure _

theorem inBounds_calcFeeAmount (amount : Int) (feeSel : FeeSelector) : InBounds (calcFeeAmount amount feeSel) := by
  rw [calcFeeAmount]
  split <;> simp

end Encodings

section Store

theorem inBounds_getAccountInTreeDB (tree : AccountTree) (idx : Nat) : InBounds (getAccountInTreeDB tree idx) := by
  refine (inBounds_idxBytes idx).bind fun _ => ?_
  split <;> simp

theorem inBounds_putAccount (tree : AccountTree) (idx : Nat) (acc : Account) : InBounds (putAccount tree idx acc) := by
  rw [putAccount]
  split <;> simp

theorem inBounds_account_bytes (acc : Account) : InBounds acc.bytes := by
  rw [Account.bytes]
  split
  · simp
  · split
    · simp
    · exact (inBounds_nonceBytes _).bind fun _ => .pure _

theorem inBounds_getIdxByEthAddrBJJ (store : Store) (addr : Address) (pk : PublicKeyComp) (tokenID : TokenID) :
    InBounds (store.getIdxByEthAddrBJJ addr pk tokenID) := by
  rw [Store.getIdxByEthAddrBJJ]
  split
  · rw [Store.getIdxByEthAddr]
    split <;> simp
  · split
    · split <;> simp
    · simp

theorem inBounds_getTokenIDsFromIdxs (store : Store) (idxs : List Nat) : InBounds (store.getTokenIDsFromIdxs idxs) := by
  refine Avoids.foldlM (fun map _ idx _ => ?_) (fun _ _ _ _ _ => trivial) trivial
  rw [Store.addTokenID]
  split <;> simp

theorem inBounds_filterCoordIdxs (store : Store) (idxs : List Nat) (used : List TokenID) :
    InBounds (TxProcessor.filterCoordIdxs store idxs used) := by
  induction idxs generalizing used with
  | nil => exact .ok _
  | cons idx rest ih =>
    refine (inBounds_getAccountInTreeDB _ _).bind fun acc => ?_
    split
    · exact ih used
    · exact (ih _).bind fun _ => .pure _

theorem inBounds_getFeePlanTokens (store : Store) (idxs : List Nat) :
    InBounds (TxProcessor.getFeePlanTokens store idxs) :=
  .mapM (fun _ => (inBounds_getAccountInTreeDB _ _).bind fun _ => .pure _) idxs

variable [Libraries]

theorem inBounds_hashValue (acc : Account) : InBounds acc.hashValue := by
  refine ((inBounds_account_bytes acc).bind fun _ => .pure _).bind fun inputs => ?_
  rw [poseidonHash]
  split <;> simp

theorem inBounds_createAccountInTreeDB (tree : AccountTree) (idx : Nat) (acc : Account) :
    InBounds (createAccountInTreeDB tree idx acc) := by
  refine (inBounds_hashValue acc).bind fun _ => (inBounds_account_bytes acc).bind fun _ =>
    (inBounds_idxBytes idx).bind fun _ => ?_
  split
  · simp
  · exact inBounds_putAccount _ _ _

theorem inBounds_updateAccountInTreeDB (tree : AccountTree) (idx : Nat) (acc : Account) :
    InBounds (updateAccountInTreeDB tree idx acc) :=
  (inBounds_hashValue acc).bind fun _ => (inBounds_account_bytes acc).bind fun _ =>
    (inBounds_idxBytes idx).bind fun _ => inBounds_putAccount _ _ _

theorem inBounds_createAccount (store : Store) (idx : Nat) (acc : Account) : InBounds (store.createAccount idx acc) := by
  refine (inBounds_createAccountInTreeDB _ _ _).bind fun accounts => ?_
  have hput : ∀ (store : Store), InBounds (store.putIdx idx acc.ethAddr acc.bjj acc.tokenID) := fun _ =>
    (inBounds_idxBytes _).bind fun _ => .pure _
  rw [Store.setIdxByEthAddrBJJ]
  split
  · split
    · exact .ok _
    · exact hput _
  · exact hput _

theorem inBounds_updateAccount (store : Store) (idx : Nat) (acc : Account) : InBounds (store.updateAccount idx acc) :=
  (inBounds_updateAccountInTreeDB _ _ _).bind fun _ => .pure _

theorem inBounds_exitLeaf (tree : AccountTree) (idx : Nat) (acc : Account) (amount : Int) :
    InBounds (exitLeaf tree idx acc amount) := by
  rw [exitLeaf]
  split
  · exact (inBounds_createAccountInTreeDB _ _ _).bind fun _ => .pure _
  next e _ hget =>
    have hread := inBounds_getAccountInTreeDB tree idx
    rw [hget] at hread
    exact avoids_error.mpr (avoids_error.mp hread)
  · exact (inBounds_updateAccountInTreeDB _ _ _).bind fun _ => .pure _

end Store

namespace TxProcessor

/-- A computation on a processor that indexes no slice out of range, from a state or from any. -/
abbrev InBoundsAt {α : Type} (s : TxProcessor) (x : TxProc α) : Prop :=
  AvoidsAt .indexOutOfRange s x

abbrev AlwaysInBounds {α : Type} (x : TxProc α) : Prop :=
  ∀ s, InBoundsAt s x

section Steps

variable {α β : Type}

theorem AlwaysInBounds.bind {x : TxProc α} {f : α → TxProc β} (hx : AlwaysInBounds x) (hf : ∀ a, AlwaysInBounds (f a)) :
    AlwaysInBounds (x >>= f) :=
  fun s => (hx s).bind fun a s' _ => hf a s'

theorem AlwaysInBounds.get {f : TxProcessor → TxProc β} (hf : ∀ s, AlwaysInBounds (f s)) : AlwaysInBounds (get >>= f) :=
  fun s => hf s s

theorem AlwaysInBounds.getAccount (idx : Nat) : AlwaysInBounds (getAccount idx) :=
  fun _ => .fromState (inBounds_getAccountInTreeDB _ _)

theorem AlwaysInBounds.onStore {update : Store → Except Err Store} (h : ∀ store, InBounds (update store)) :
    AlwaysInBounds (onStore update) := by
  intro s s' hrun
  rw [TxProcessor.onStore] at hrun
  split at hrun
  · cases hrun
  next hupdate =>
    cases hrun
    exact h _ hupdate

theorem AlwaysInBounds.setCurrentIdx (idx : Nat) : AlwaysInBounds (setCurrentIdx idx) :=
  .onStore fun _ => (inBounds_idxBytes idx).bind fun _ => .pure _

theorem AlwaysInBounds.checkBalance (tx : Tx) (balance : Int) : AlwaysInBounds (checkBalance tx balance) := by
  intro s
  rw [TxProcessor.checkBalance]
  split
  · exact .throw (by simp [newErrorNotEnoughBalance])
  · exact .pure ()

theorem InBoundsAt.onZKInputs {s : TxProcessor} {fill : TxProcessor → ZKInputs → Except Err ZKInputs}
    (h : ∀ zki, s.zki = some zki → InBounds (fill s zki)) : InBoundsAt s (onZKInputs fill) := by
  intro s' hrun
  rw [TxProcessor.onZKInputs] at hrun
  split at hrun
  · cases hrun
  next zki hzki =>
    split at hrun
    · cases hrun
    next hfill =>
      cases hrun
      exact h zki hzki hfill

theorem AlwaysInBounds.collectFee (tokenID : TokenID) (fee : Int) : AlwaysInBounds (collectFee tokenID fee) := by
  intro s s' hrun
  rw [TxProcessor.collectFee] at hrun
  split at hrun
  · cases hrun
  · split at hrun <;> cases hrun

theorem AlwaysInBounds.accumulateFee (coordIdxsMap : CoordIdxsMap) (tokenID : TokenID) (fee : Int) :
    AlwaysInBounds (accumulateFee coordIdxsMap tokenID fee) := by
  intro s
  rw [TxProcessor.accumulateFee]
  split
  · exact .pure ()
  · refine (AvoidsAt.fromState ?_).bind fun acc s' _ => (AvoidsAt.of_ok rfl).bind fun _ s'' _ =>
      AlwaysInBounds.collectFee _ _ s''
    rw [getCoordAccount]
    cases s.state.getAccount _ with
    | error e => exact avoids_error.mpr (by simp)
    | ok acc => exact .ok _

theorem AlwaysInBounds.chargeSender (coordIdxsMap : CoordIdxsMap) (tx : Tx) (acc : Account) :
    AlwaysInBounds (chargeSender coordIdxsMap tx acc) := by
  rw [TxProcessor.chargeSender]
  split
  · exact (AlwaysInBounds.checkBalance _ _).bind fun _ _ => .pure _
  · exact AlwaysInBounds.bind (fun _ => .fromState (inBounds_calcFeeAmount _ _)) fun _ =>
      (AlwaysInBounds.checkBalance _ _).bind fun _ => (AlwaysInBounds.accumulateFee _ _ _).bind fun _ _ => .pure _

variable [Libraries]

theorem AlwaysInBounds.createAccount (idx : Nat) (acc : Account) : AlwaysInBounds (createAccount idx acc) :=
  AlwaysInBounds.bind (fun _ => .of_ok rfl) fun _ => .onStore fun store => inBounds_createAccount store idx acc

theorem AlwaysInBounds.updateAccount (idx : Nat) (acc : Account) : AlwaysInBounds (updateAccount idx acc) :=
  AlwaysInBounds.bind (fun _ => .of_ok rfl) fun _ => .onStore fun store => inBounds_updateAccount store idx acc

theorem AlwaysInBounds.creditReceiver (fromIdx toIdx : Nat) (acc : Account) (amount : Int) :
    AlwaysInBounds (creditReceiver fromIdx toIdx acc amount) := by
  refine AlwaysInBounds.bind ?_ fun _ => .updateAccount _ _
  intro s
  rw [getReceiver]
  split
  · exact .pure _
  · exact AlwaysInBounds.getAccount _ s

theorem AlwaysInBounds.applyTransfer (coordIdxsMap : CoordIdxsMap) (tx : Tx) (auxToIdx : Nat) :
    AlwaysInBounds (applyTransfer coordIdxsMap tx auxToIdx) :=
  (AlwaysInBounds.getAccount _).bind fun _ => (AlwaysInBounds.chargeSender _ _ _).bind fun _ =>
    (AlwaysInBounds.updateAccount _ _).bind fun _ => .creditReceiver _ _ _ _

theorem AlwaysInBounds.applyDeposit (tx : L1Tx) (transfer : Bool) : AlwaysInBounds (applyDeposit tx transfer) := by
  refine (AlwaysInBounds.getAccount _).bind fun _ => (AlwaysInBounds.checkBalance _ _).bind fun _ =>
    (AlwaysInBounds.updateAccount _ _).bind fun _ s => ?_
  split
  · exact AlwaysInBounds.creditReceiver _ _ _ _ s
  · exact .pure ()

theorem AlwaysInBounds.openAccount (idx : Nat) (acc : Account) {k : TxProc α} (hk : AlwaysInBounds k) :
    AlwaysInBounds (do TxProcessor.createAccount idx acc; onZKInputs (fillNewAccount idx); k) :=
  (AlwaysInBounds.createAccount idx acc).bind fun _ =>
    AlwaysInBounds.bind (fun _ => .onZKInputs fun _ _ => .ok _) fun _ => hk

theorem AlwaysInBounds.applyExitLeaf (tree : AccountTree) (idx : Nat) (acc : Account) (amount : Int) :
    AlwaysInBounds (applyExitLeaf tree idx acc amount) :=
  AlwaysInBounds.bind (fun _ => .fromState (inBounds_exitLeaf _ _ _ _)) fun _ =>
    AlwaysInBounds.bind (fun _ => .of_ok rfl) fun _ =>
      AlwaysInBounds.bind (fun _ => .onZKInputs fun _ _ => .ok _) fun _ _ => .pure _

theorem AlwaysInBounds.applyExit (coordIdxsMap : CoordIdxsMap) (tx : Tx) (originalAmount : Int) :
    AlwaysInBounds (applyExit coordIdxsMap tx originalAmount) := by
  refine (AlwaysInBounds.getAccount _).bind fun _ => (AlwaysInBounds.chargeSender _ _ _).bind fun acc =>
    (AlwaysInBounds.updateAccount _ _).bind fun _ => .get fun t s => ?_
  cases t.exitTree with
  | none => exact .pure _
  | some tree =>
    simp only
    split
    · exact .pure _
    · exact AlwaysInBounds.applyExitLeaf _ _ _ _ s

theorem AlwaysInBounds.applyL1Tx (tx : L1Tx) : AlwaysInBounds (applyL1Tx tx) := by
  refine .get fun t => ?_
  have hreturn : ∀ {x : TxProc Unit} (out : L1Tx × ExitOut), AlwaysInBounds x → AlwaysInBounds (do x; return out) :=
    fun out hx => hx.bind fun _ _ => .pure out
  have hother : AlwaysInBounds (pure (tx, {}) : TxProc (L1Tx × ExitOut)) := fun _ => .pure _
  cases tx.type with
  | none => exact hother
  | some type =>
    cases type with
    | forceTransfer => exact hreturn _ (.applyTransfer _ _ _)
    | createAccountDeposit =>
      exact hreturn _ (.get fun _ => .openAccount _ _ (.setCurrentIdx _))
    | deposit | depositTransfer => exact hreturn _ (.applyDeposit _ _)
    | createAccountDepositTransfer =>
      exact hreturn _ (.get fun _ => (AlwaysInBounds.checkBalance _ _).bind fun _ =>
        .openAccount _ _ ((AlwaysInBounds.creditReceiver _ _ _ _).bind fun _ => .setCurrentIdx _))
    | forceExit => exact (AlwaysInBounds.applyExit _ _ _).bind fun _ _ => .pure _
    | exit | transfer | transferToEthAddr | transferToBJJ => exact hother

theorem AlwaysInBounds.applyL2Tx (coordIdxsMap : CoordIdxsMap) (tx : PoolL2Tx) :
    AlwaysInBounds (applyL2Tx coordIdxsMap tx) := by
  rw [TxProcessor.applyL2Tx]
  have htransfer : AlwaysInBounds (do TxProcessor.applyTransfer coordIdxsMap tx.tx tx.auxToIdx; return {} : TxProc ExitOut) :=
    (AlwaysInBounds.applyTransfer _ _ _).bind fun _ _ => .pure _
  have hother : AlwaysInBounds (pure {} : TxProc ExitOut) := fun _ => .pure _
  cases tx.type with
  | none => exact hother
  | some type =>
    cases type with
    | transfer | transferToEthAddr | transferToBJJ => exact htransfer
    | exit => exact .applyExit _ _ _
    | createAccountDeposit | createAccountDepositTransfer | deposit | depositTransfer | forceTransfer | forceExit =>
      exact hother

end Steps

/-- The sizes of the circuit inputs are those of the configuration. -/
def Shaped (s : TxProcessor) : Prop :=
  s.zki.map ZKInputs.shape = some [s.config.nLevels, s.config.maxFeeTx, s.config.maxFeeTx, s.config.maxTx, s.config.maxTx,
    s.config.maxTx, uint32Pred s.config.maxTx, uint32Pred s.config.maxTx, uint32Pred s.config.maxTx,
    uint32Pred s.config.maxTx, uint32Pred s.config.maxFeeTx]

section Loops

variable {s s' : TxProcessor} {zki zki' : ZKInputs}

theorem Shaped.kept (h : Shaped s) (hkept : Kept s s') : Shaped s' := by
  rw [Shaped, hkept.shape, hkept.config]
  exact h

theorem Shaped.loopKept (h : Shaped s) (hkept : LoopKept s s') : Shaped s' :=
  Shaped.kept (s := { s with txIndex := s'.txIndex }) h hkept

theorem Shaped.lengths (h : Shaped s) (hzki : s.zki = some zki) :
    (zki.feeIdxs.length = s.config.maxFeeTx ∧ zki.feePlanTokens.length = s.config.maxFeeTx) ∧
    (zki.txCompressedData.length = s.config.maxTx ∧ zki.txCompressedDataV2.length = s.config.maxTx ∧
      zki.rqTxCompressedDataV2.length = s.config.maxTx) ∧
    (zki.isOutIdx.length = uint32Pred s.config.maxTx ∧ zki.isStateRoot.length = uint32Pred s.config.maxTx ∧
      zki.isExitRoot.length = uint32Pred s.config.maxTx ∧ zki.isAccFeeOut.length = uint32Pred s.config.maxTx) ∧
    zki.isStateRootFee.length = uint32Pred s.config.maxFeeTx := by
  rw [Shaped, hzki, Option.map_some, Option.some.injEq, ZKInputs.shape] at h
  simp only [List.cons.injEq] at h
  tauto

theorem inBounds_setAt {α : Type} {xs : List α} {i : Nat} {x : Except Err α} (hi : i < xs.length) (hx : InBounds x) :
    InBounds (setAt xs i x) := by
  rw [setAt, if_pos hi]
  exact hx.map _

theorem fillL1Tx_inBounds {tx : L1Tx} (hi : s.txIndex < zki.txCompressedData.length) : InBounds (fillL1Tx tx s zki) := by
  refine (inBounds_setAt hi (inBounds_l1_txCompressedData _ _)).bind fun _ => (inBounds_newFloat40 _).bind fun _ => ?_
  refine Avoids.bind ?_ fun _ => .pure _
  split
  · exact (inBounds_newFloat40 _).map _
  · exact .ok _

variable {exits : List (Option ProcessedExit)}

theorem closeTx_length {exits' : List (Option ProcessedExit)} {exit : ExitOut}
    (h : closeTx exits exit s = .ok exits' s') : exits'.length = exits.length := by
  rw [closeTx, bind_of_ok (get_run s)] at h
  split at h
  · obtain ⟨_, t, hrecord, h₁⟩ := bind_ok.mp h
    obtain ⟨_, _, -, hret⟩ := bind_ok.mp h₁
    obtain ⟨rfl, -⟩ := pure_ok.mp hret
    obtain ⟨hrecord, -⟩ := fromState_ok.mp hrecord
    rw [recordExit] at hrecord
    split at hrecord
    · exact setAt_length hrecord
    · cases hrecord
      rfl
  · obtain ⟨rfl, -⟩ := pure_ok.mp h
    rfl

theorem closeTx_shaped {exits' : List (Option ProcessedExit)} {exit : ExitOut} {zki : Option ZKInputs}
    (hshaped : Shaped s) (hshape : zki.map ZKInputs.shape = s.zki.map ZKInputs.shape)
    (h : closeTx exits exit { s with zki } = .ok exits' s') :
    Shaped s' ∧ s'.txIndex ≤ s.txIndex + 1 ∧ s'.config = s.config ∧ exits'.length = exits.length := by
  have hlength := closeTx_length h
  have hs' := closeTx_ok h
  have hstep : slotStep s.state.typ ≤ 1 := by
    rw [slotStep]
    split <;> simp
  have hshaped' : Shaped { s with zki } := hshaped.kept (kept_zki hshape)
  subst hs'
  exact ⟨hshaped', Nat.add_le_add_left hstep _, rfl, hlength⟩

theorem closeTx_inBounds {exit : ExitOut} (hi : s.txIndex < exits.length) :
    InBoundsAt s (closeTx exits exit) := by
  refine AvoidsAt.bind (.of_ok rfl) fun t s' ht => ?_
  cases ht
  split
  · refine (AvoidsAt.fromState ?_).bind fun _ _ _ => (AvoidsAt.of_ok rfl).bind fun _ _ _ => .pure _
    rw [recordExit]
    split
    · exact inBounds_setAt hi (.ok _)
    · exact .ok _
  · exact .pure _

variable [Libraries]

theorem processL1Tx_inBounds {tx : L1Tx} (hshaped : Shaped s) (hi : s.txIndex < s.config.maxTx) :
    InBoundsAt s (processL1Tx tx) := by
  refine (InBoundsAt.onZKInputs fun zki hzki => ?_).bind fun _ s₁ _ => (AlwaysInBounds.applyL1Tx _ s₁).bind fun out s₂ _ =>
    AvoidsAt.bind (AlwaysInBounds.get (fun t s => ?_) s₂) fun _ _ _ => .pure _
  · obtain ⟨-, ⟨hlength, -⟩, -⟩ := hshaped.lengths hzki
    exact fillL1Tx_inBounds (by omega)
  · split
    · exact (AlwaysInBounds.getAccount _ s).bind fun _ _ _ => .pure _
    · exact .pure _

theorem fillL1TxData_inBounds {tx : L1Tx} {withExitRoot : Bool} (hout : s.txIndex < zki.isOutIdx.length)
    (hstate : s.txIndex < zki.isStateRoot.length) (hexit : s.txIndex < zki.isExitRoot.length) :
    InBounds (fillL1TxData tx withExitRoot s zki) := by
  refine (inBounds_bytesGeneric _).bind fun _ => (inBounds_l1_bytesDataAvailability _ _).bind fun _ =>
    (inBounds_setAt hout (.ok _)).bind fun _ => (inBounds_setAt hstate (.ok _)).bind fun _ => Avoids.bind ?_ fun _ => .pure _
  rw [fillExitRootAfter]
  split
  · exact inBounds_setAt hexit (.ok _)
  · exact .ok _

theorem l1Slot_inBounds {tx : L1Tx} {out : L1TxOut} {s₁ : TxProcessor} (withExitRoot : Bool) (hshaped : Shaped s)
    (hi : s.txIndex < uint32Pred s.config.maxTx) (hprocess : processL1Tx tx s = .ok out s₁) :
    InBoundsAt s₁ (onZKInputs (fillL1TxData out.tx withExitRoot)) := by
  refine .onZKInputs fun zki hzki => ?_
  obtain ⟨-, hkept⟩ := processL1Tx_ok hprocess
  obtain ⟨-, -, ⟨hout, hstate, hexit, -⟩, -⟩ := (hshaped.kept hkept).lengths hzki
  rw [hkept.config] at hout hstate hexit
  have hindex := hkept.txIndex
  exact fillL1TxData_inBounds (by omega) (by omega) (by omega)

theorem processL1UserTxs_inBounds {txs : List L1Tx} (hshaped : Shaped s)
    (hmax : s.txIndex + txs.length ≤ s.config.maxTx) (hroom : s.txIndex + txs.length ≤ uint32Pred s.config.maxTx)
    (hexits : s.txIndex + txs.length ≤ exits.length) : InBoundsAt s (processL1UserTxs txs exits) := by
  induction txs generalizing s exits with
  | nil => exact .pure _
  | cons tx rest ih =>
    rw [List.length_cons] at hmax hroom hexits
    refine (processL1Tx_inBounds hshaped (by omega)).bind fun out s₁ hprocess => ?_
    obtain ⟨-, hkept⟩ := processL1Tx_ok hprocess
    have hindex := hkept.txIndex
    refine (l1Slot_inBounds _ hshaped (by omega) hprocess).bind fun _ s₂ hfill => ?_
    obtain ⟨zki₂, rfl, hshape⟩ := onZKInputs_ok (fun zki zki' => fillL1TxData_shape) hfill
    refine (closeTx_inBounds (by show s₁.txIndex < _; omega)).bind fun exits₁ s₃ hclose => ?_
    refine AvoidsAt.bind (.of_ok rfl) fun _ _ hget => ?_
    cases hget
    obtain ⟨hshaped₃, hindex₃, hconfig₃, hlength⟩ := closeTx_shaped (hshaped.kept hkept) hshape hclose
    rw [← hkept.config, ← hconfig₃] at hmax hroom
    exact AvoidsAt.bind (ih hshaped₃ (by omega) (by omega) (by omega)) fun _ _ _ => .pure _

theorem processL1CoordinatorTxs_inBounds {txs : List L1Tx} (hshaped : Shaped s)
    (hmax : s.txIndex + txs.length ≤ s.config.maxTx) (hroom : s.txIndex + txs.length ≤ uint32Pred s.config.maxTx) :
    InBoundsAt s (processL1CoordinatorTxs txs) := by
  induction txs generalizing s with
  | nil => exact .pure _
  | cons tx rest ih =>
    rw [List.length_cons] at hmax hroom
    refine (processL1Tx_inBounds hshaped (by omega)).bind fun out s₁ hprocess => ?_
    obtain ⟨-, hkept⟩ := processL1Tx_ok hprocess
    have hindex := hkept.txIndex
    refine (l1Slot_inBounds _ hshaped (by omega) hprocess).bind fun _ s₂ hfill => ?_
    obtain ⟨zki₂, rfl, hshape⟩ := onZKInputs_ok (fun zki zki' => fillL1TxData_shape) hfill
    refine AvoidsAt.bind (.of_ok rfl) fun _ s₃ hclose => AvoidsAt.bind (.of_ok rfl) fun _ _ hget => ?_
    cases hget
    cases hclose
    rw [closeCoordinatorTx_eq]
    have hshaped₂ : Shaped { s₁ with zki := zki₂ } := (hshaped.kept hkept).kept (kept_zki hshape)
    have hstep : (if zki₂.isSome then 1 else 0) ≤ 1 := by split <;> simp
    refine AvoidsAt.bind (ih (s := { s₁ with zki := zki₂, txIndex := _ }) hshaped₂ ?_ ?_) fun _ _ _ => .pure _
    · show s₁.txIndex + (if zki₂.isSome then 1 else 0) + rest.length ≤ s₁.config.maxTx
      rw [hkept.config]
      omega
    · show s₁.txIndex + (if zki₂.isSome then 1 else 0) + rest.length ≤ uint32Pred s₁.config.maxTx
      rw [hkept.config]
      omega

theorem fillL2Tx_inBounds {tx : PoolL2Tx} (hdata : s.txIndex < zki.txCompressedData.length)
    (hdataV2 : s.txIndex < zki.txCompressedDataV2.length) (hrq : s.txIndex < zki.rqTxCompressedDataV2.length) :
    InBounds (fillL2Tx tx s zki) := by
  refine (inBounds_setAt hdata (inBounds_l2_txCompressedData _ _)).bind fun _ =>
    (inBounds_setAt hdataV2 (inBounds_compressV2 _ _ _ _ _ _ _)).bind fun _ => (inBounds_newFloat40 _).bind fun _ =>
      Avoids.bind ?_ fun _ => ?_
  · rw [fillRqTx]
    split
    · exact .ok _
    · split
      · simp
      · exact inBounds_setAt hrq (inBounds_compressV2 _ _ _ _ _ _ _)
  · split
    · exact .pure _
    · simp

theorem processL2Tx_inBounds {coordIdxsMap : CoordIdxsMap} {tx : PoolL2Tx} (hshaped : Shaped s)
    (hi : s.txIndex < s.config.maxTx) : InBoundsAt s (processL2Tx coordIdxsMap tx) := by
  refine AvoidsAt.bind ?_ fun tx₁ s₁ hfind => ?_
  · rw [findReceiver]
    split
    · refine .fromState ?_
      split
      · simp
      · exact (inBounds_getAccountInTreeDB _ _).bind fun _ => (inBounds_getIdxByEthAddrBJJ _ _ _ _).bind fun _ => .pure _
    · exact .pure _
  · obtain ⟨-, rfl⟩ := findReceiver_ok.mp hfind
    refine (InBoundsAt.onZKInputs fun zki hzki => ?_).bind fun _ s₂ _ =>
      AvoidsAt.bind (AlwaysInBounds.get (fun t s => ?_) s₂) fun _ s₃ _ =>
        (AlwaysInBounds.applyL2Tx _ _ s₃).bind fun _ _ _ => .pure _
    · obtain ⟨-, ⟨hdata, hdataV2, hrq⟩, -⟩ := hshaped.lengths hzki
      exact fillL2Tx_inBounds (by omega) (by omega) (by omega)
    · split
      · exact (AlwaysInBounds.getAccount _ s).bind fun _ _ _ => .pure _
      · exact .pure _

variable {coordIdxs : List Nat}

omit [Libraries] in
theorem inBounds_formatAccumulatedFees (collectedFees : TokenID → Option Int) {tokens : List Nat}
    (h : coordIdxs.length ≤ tokens.length) : InBounds (formatAccumulatedFees collectedFees tokens coordIdxs) := by
  rw [formatAccumulatedFees, if_pos h]
  exact .ok _

theorem fillL2TxData_inBounds {tx : PoolL2Tx} {nTx : Nat} {withExitRoot : Bool} (hshaped : Shaped s)
    (hzki : s.zki = some zki) (hcoords : coordIdxs.length ≤ s.config.maxFeeTx) (hmax : nTx ≤ s.config.maxTx)
    (hlt : s.config.maxTx < 2 ^ 32) : InBounds (fillL2TxData tx coordIdxs nTx withExitRoot s zki) := by
  obtain ⟨⟨-, htokens⟩, -, ⟨hout, hstate, hexit, hfees⟩, -⟩ := hshaped.lengths hzki
  refine (inBounds_l2_bytesDataAvailability _ _).bind fun _ => ?_
  split
  next hi =>
    rw [uint32Pred_eq (by omega) hlt] at hout hstate hexit hfees
    refine (inBounds_setAt (by show _ < zki.isOutIdx.length; omega) (.ok _)).bind fun _ =>
      (inBounds_setAt (by show _ < zki.isStateRoot.length; omega) (.ok _)).bind fun _ =>
        (inBounds_setAt (by show _ < zki.isAccFeeOut.length; omega)
          (inBounds_formatAccumulatedFees _ (by show _ ≤ zki.feePlanTokens.length; omega))).bind fun _ =>
            Avoids.bind ?_ fun _ => .pure _
    rw [fillExitRootAfter]
    split
    · exact inBounds_setAt (by show _ < zki.isExitRoot.length; omega) (.ok _)
    · exact .ok _
  · exact .pure _

theorem processL2Txs_inBounds {coordIdxsMap : CoordIdxsMap} {nTx : Nat} {txs : List PoolL2Tx}
    (hshaped : Shaped s) (hready : FeesReady coordIdxsMap s)
    (hcoords : coordIdxs.length ≤ s.config.maxFeeTx) (hnTx : s.txIndex + txs.length ≤ nTx) (hmax : nTx ≤ s.config.maxTx)
    (hlt : s.config.maxTx < 2 ^ 32) (hexits : nTx ≤ exits.length) :
    InBoundsAt s (processL2Txs coordIdxsMap coordIdxs nTx txs exits) := by
  induction txs generalizing s exits with
  | nil => exact .pure _
  | cons tx rest ih =>
    rw [List.length_cons] at hnTx
    refine (processL2Tx_inBounds hshaped (by omega)).bind fun out s₁ hprocess => ?_
    obtain ⟨-, hspec, hkept⟩ := processL2Tx_ok hready hprocess
    have hready₁ := hready.kept hkept (Rollup.l2Tx_evolves _ _ _ _ _ hspec)
    have hshaped₁ := hshaped.kept hkept
    have hindex := hkept.txIndex
    have hconfig := hkept.config
    refine (InBoundsAt.onZKInputs fun zki hzki => ?_).bind fun _ s₂ hfill => ?_
    · exact fillL2TxData_inBounds hshaped₁ hzki (by rw [hconfig]; exact hcoords) (by rw [hconfig]; exact hmax)
        (by rw [hconfig]; exact hlt)
    obtain ⟨zki₂, rfl, hshape⟩ := onZKInputs_ok (fun zki zki' => fillL2TxData_shape) hfill
    refine (closeTx_inBounds (by show s₁.txIndex < _; omega)).bind fun exits₁ s₃ hclose => ?_
    obtain ⟨hshaped₃, hindex₃, hconfig₃, hlength⟩ := closeTx_shaped hshaped₁ hshape hclose
    have hready₃ : FeesReady coordIdxsMap s₃ := by
      rw [closeTx_ok hclose]
      exact hready₁
    rw [← hconfig, ← hconfig₃] at hcoords hmax hlt
    exact AvoidsAt.bind (ih hshaped₃ hready₃ hcoords (by omega) hmax hlt (by omega)) fun _ _ _ => .pure _

theorem fillEmptyState_shape {i : Nat} (h : fillEmptyState coordIdxs s zki i = .ok zki') :
    zki'.shape = zki.shape := by
  rw [fillEmptyState] at h
  split at h
  · obtain ⟨_, hout, h⟩ := except_bind_ok.mp h
    obtain ⟨_, hroot, h⟩ := except_bind_ok.mp h
    obtain ⟨_, hfees, h⟩ := except_bind_ok.mp h
    obtain ⟨_, hexit, h⟩ := except_bind_ok.mp h
    cases h
    simp only [ZKInputs.shape, setAt_length hout, setAt_length hroot, setAt_length hfees, setAt_length hexit]
  · cases h
    rfl

theorem fillEmptySlot_shape {i : Nat} (h : fillEmptySlot coordIdxs s zki i = .ok zki') :
    zki'.shape = zki.shape := by
  obtain ⟨zki₁, hstate, h⟩ := except_bind_ok.mp h
  rw [← fillEmptyState_shape hstate]
  split at h
  · obtain ⟨_, hdata, hret⟩ := except_bind_ok.mp h
    cases hret
    simp only [ZKInputs.shape, setAt_length hdata]
  · cases h
    rfl

theorem fillEmptySlot_inBounds {coordIdxs : List Nat} {i : Nat} (hshaped : Shaped { s with zki := some zki })
    (hcoords : coordIdxs.length ≤ s.config.maxFeeTx) (hlt : s.config.maxTx < 2 ^ 32) (hi : i < s.config.maxTx) :
    InBounds (fillEmptySlot coordIdxs s zki i) := by
  refine Avoids.bind_of ?_ fun zki₁ hstate => ?_
  · obtain ⟨⟨-, htokens⟩, -, ⟨hout, hroot, hexit, hfees⟩, -⟩ := hshaped.lengths rfl
    change _ = uint32Pred s.config.maxTx at hout hroot hexit hfees
    rw [uint32Pred_eq (by omega) hlt] at hout hroot hexit hfees
    rw [fillEmptyState]
    split
    · exact (inBounds_setAt (by omega) (.ok _)).bind fun _ => (inBounds_setAt (by omega) (.ok _)).bind fun _ =>
        (inBounds_setAt (by omega) (inBounds_formatAccumulatedFees _ (by rw [htokens]; exact hcoords))).bind fun _ =>
          (inBounds_setAt (by omega) (.ok _)).bind fun _ => .ok _
    · exact .ok _
  · have hshaped₁ : Shaped { s with zki := some zki₁ } := by
      rw [Shaped, ← hshaped]
      exact congrArg some (fillEmptyState_shape hstate)
    obtain ⟨-, ⟨hdata, -⟩, -⟩ := hshaped₁.lengths rfl
    split
    · exact (inBounds_setAt (by rw [hdata]; exact hi) (.ok _)).bind fun _ => .pure _
    · exact .pure _

theorem fillEmptySlots_inBounds (hshaped : Shaped s) (hzki : s.zki = some zki)
    (hcoords : coordIdxs.length ≤ s.config.maxFeeTx) (hlt : s.config.maxTx < 2 ^ 32) :
    InBounds (fillEmptySlots coordIdxs s zki) := by
  have hstart : Shaped { s with zki := some zki } := by rw [Shaped, ← hshaped, hzki]
  have hstep : ∀ (zki : ZKInputs) (i : Nat) (zki' : ZKInputs), Shaped { s with zki := some zki } →
      fillEmptySlot coordIdxs s zki i = .ok zki' → Shaped { s with zki := some zki' } := by
    intro zki i zki' hshaped hslot
    rw [Shaped, ← hshaped]
    exact congrArg some (fillEmptySlot_shape hslot)
  refine Avoids.bind_of (.foldlM (fun zki hshaped i hi => ?_) hstep hstart) fun zki₁ hfold => ?_
  · exact fillEmptySlot_inBounds hshaped hcoords hlt (by have := List.mem_range'_1.mp hi; omega)
  · obtain ⟨⟨-, htokens⟩, -⟩ := (foldlM_invariant hstep hstart hfold).lengths rfl
    exact (inBounds_formatAccumulatedFees _ (by rw [htokens]; exact hcoords)).bind fun _ => .pure _

theorem fillEmptySlots_shape (h : fillEmptySlots coordIdxs s zki = .ok zki') :
    zki'.shape = zki.shape := by
  obtain ⟨zki₁, hfold, h⟩ := except_bind_ok.mp h
  obtain ⟨fees, -, hret⟩ := except_bind_ok.mp h
  cases hret
  exact foldlM_invariant (P := fun zki₁ => zki₁.shape = zki.shape)
    (fun _ _ _ hshape hslot => (fillEmptySlot_shape hslot).trans hshape) rfl hfold

omit [Libraries] in
theorem fillFeePlan_shape (h : fillFeePlan coordIdxs s zki = .ok zki') : zki'.shape = zki.shape := by
  obtain ⟨tokens, -, hret⟩ := except_bind_ok.mp h
  cases hret
  simp only [ZKInputs.shape, length_copySlice]

theorem fillFees_inBounds (hshaped : Shaped s) (hzki : s.zki = some zki)
    (hcoords : coordIdxs.length ≤ s.config.maxFeeTx) (hlt : s.config.maxFeeTx < 2 ^ 32) :
    InBounds (fillFees coordIdxs s zki) := by
  obtain ⟨⟨hidxs, -⟩, -, -, hroots⟩ := hshaped.lengths hzki
  refine Avoids.bind (.foldlM (P := fun roots => roots.length = uint32Pred s.config.maxFeeTx) (fun roots hlength i hi => ?_)
    (fun roots i roots' hlength hset => (setAt_length hset).trans hlength) hroots) fun _ => ?_
  · have hi := List.mem_range'_1.mp hi
    rw [uint32Pred_eq (by omega) hlt] at hlength
    exact inBounds_setAt (by omega) (.ok _)
  · rw [if_pos (by omega)]
    exact .pure _

theorem AlwaysInBounds.distributeFees (indexFee : Nat) (coordIdxs : List Nat) :
    AlwaysInBounds (distributeFees indexFee coordIdxs) := by
  induction coordIdxs generalizing indexFee with
  | nil => exact fun _ => .pure _
  | cons idx rest ih =>
    refine AlwaysInBounds.bind (AlwaysInBounds.bind (fun s => .fromState ?_) fun _ =>
      (AlwaysInBounds.getAccount _).bind fun _ => (AlwaysInBounds.updateAccount _ _).bind fun _ _ =>
        .onZKInputs fun _ _ => .ok _) fun _ => ih _
    rw [accumulatedFee]
    split <;> simp

/-- **A batch** whose L1 transactions have slots for their intermediate states indexes no slice out of range. -/
theorem processBatch_inBounds {l1UserTxs l1CoordinatorTxs : List L1Tx} {l2Txs : List PoolL2Tx}
    (hbuilder : s.state.typ = .batchBuilder) (hshaped : Shaped s) (hindex : s.txIndex = 0)
    (htree : s.exitTree.isSome = true) (hcoords : coordIdxs.length ≤ s.config.maxFeeTx)
    (hmax : l1UserTxs.length + l1CoordinatorTxs.length + l2Txs.length ≤ s.config.maxTx)
    (hroom : l1UserTxs.length + l1CoordinatorTxs.length ≤ uint32Pred s.config.maxTx)
    (hlt : s.config.maxTx < 2 ^ 32) (hltFee : s.config.maxFeeTx < 2 ^ 32) :
    InBoundsAt s (processBatch coordIdxs l1UserTxs l1CoordinatorTxs l2Txs) := by
  refine (processL1UserTxs_inBounds hshaped (by omega) (by omega) (by rw [List.length_replicate]; omega)).bind
    fun users s₁ husers => ?_
  obtain ⟨userOuts, hspecUsers, hkeptUsers, hindexUsers, -, hrecords⟩ := processL1UserTxs_ok husers
  have hlength : users.exits.length = l1UserTxs.length + l1CoordinatorTxs.length + l2Txs.length := by
    have houts := Spec.forEach_length hspecUsers
    rw [hrecords (by rw [hbuilder]; rfl) htree [] (l1CoordinatorTxs.length + l2Txs.length)
      (by rw [List.nil_append, List.length_map, houts, Nat.add_assoc]) hindex.symm]
    simp only [List.nil_append, List.length_append, List.length_map, List.length_replicate, houts, Nat.add_assoc]
  have hindex₁ : s₁.txIndex = l1UserTxs.length := by
    rw [hindexUsers, hindex, hbuilder]
    simp [slotStep, keepsExits]
  have hshaped₁ := hshaped.loopKept hkeptUsers
  have hconfig₁ : s₁.config = s.config := hkeptUsers.config
  refine (processL1CoordinatorTxs_inBounds hshaped₁ (by rw [hconfig₁]; omega) (by rw [hconfig₁]; omega)).bind
    fun coordinators s₂ hcoordinators => ?_
  obtain ⟨coordinatorTxs, createdAccounts⟩ := coordinators
  obtain ⟨coordOuts, hspecCoords, hkeptCoords, hindexCoords, -⟩ := processL1CoordinatorTxs_ok hcoordinators
  have hshaped₂ := hshaped₁.loopKept hkeptCoords
  have hconfig₂ : s₂.config = s.config := hkeptCoords.config.trans hconfig₁
  have hindex₂ : s₂.txIndex ≤ l1UserTxs.length + l1CoordinatorTxs.length := by
    rw [hindexCoords, hindex₁]
    split <;> omega
  refine AvoidsAt.bind (.fromState ?_) fun idxs t hfilter => ?_
  · exact inBounds_filterCoordIdxs _ _ _
  obtain ⟨hfilter, rfl⟩ := fromState_ok.mp hfilter
  refine AvoidsAt.bind (.fromState ?_) fun map t' hmap => ?_
  · exact inBounds_getTokenIDsFromIdxs _ _
  obtain ⟨hmap, rfl⟩ := fromState_ok.mp hmap
  obtain ⟨hplan, -⟩ := coordPlan_of_filter hfilter hmap
  have hidxs : idxs.length ≤ s.config.maxFeeTx :=
    (hplan.nodup.subperm (filterCoordIdxs_subset hfilter)).length_le.trans hcoords
  refine (AvoidsAt.of_ok rfl).bind fun _ s₃ hstart => ?_
  cases hstart
  refine (InBoundsAt.onZKInputs fun zki hzki => (inBounds_getFeePlanTokens _ _).bind fun _ => .pure _).bind
    fun _ s₄ hplanned => ?_
  obtain ⟨zki₄, rfl, hshape₄⟩ := onZKInputs_ok (fun zki zki' => fillFeePlan_shape) hplanned
  have hshaped₄ : Shaped { startFees idxs map t' with zki := zki₄ } := by
    rw [Shaped, hshape₄]
    exact hshaped₂
  refine AvoidsAt.bind (processL2Txs_inBounds (s := { startFees idxs map t' with zki := zki₄ }) hshaped₄
    (startFees_ready hplan) (by rw [← hconfig₂] at hidxs; exact hidxs)
    (show t'.txIndex + l2Txs.length ≤ _ by omega) (by rw [← hconfig₂] at hmax; exact hmax)
    (by rw [← hconfig₂] at hlt; exact hlt) (by omega)) fun l2 s₅ hl2 => ?_
  obtain ⟨txs, exits⟩ := l2
  obtain ⟨exitOuts, -, hkeptL2, -⟩ :=
    processL2Txs_ok (s := { startFees idxs map t' with zki := zki₄ }) (startFees_ready hplan) hl2
  have hshaped₅ := hshaped₄.loopKept hkeptL2
  have hconfig₅ : s₅.config = s.config := hkeptL2.config.trans hconfig₂
  rw [← hconfig₅] at hidxs hlt hltFee
  refine (InBoundsAt.onZKInputs fun zki hzki => fillEmptySlots_inBounds hshaped₅ hzki hidxs hlt).bind fun _ s₆ hempty => ?_
  obtain ⟨zki₆, rfl, hshape₆⟩ := onZKInputs_ok (fun zki zki' => fillEmptySlots_shape) hempty
  have hshaped₆ : Shaped { s₅ with zki := zki₆ } := hshaped₅.kept (kept_zki hshape₆)
  refine (AlwaysInBounds.distributeFees _ _ _).bind fun _ s₇ hfees => ?_
  obtain ⟨-, hkeptFees⟩ := distributeFees_ok hfees
  have hshaped₇ := hshaped₆.kept hkeptFees
  have hconfig₇ : s₇.config = s₅.config := hkeptFees.config
  rw [← hconfig₇] at hidxs hltFee
  exact (InBoundsAt.onZKInputs fun zki hzki => fillFees_inBounds hshaped₇ hzki hidxs hltFee).bind fun _ _ _ =>
    (AvoidsAt.of_ok rfl).bind fun _ _ _ => .pure _

omit [Libraries] in
theorem InBoundsAt.thenReset {α : Type} {x : TxProc α} (h : InBoundsAt s x) : InBoundsAt s (thenReset x) := by
  intro s' hrun
  rw [TxProcessor.thenReset] at hrun
  cases hx : x s with
  | ok a s₁ =>
    rw [hx] at hrun
    cases hrun
  | error e s₁ =>
    rw [hx] at hrun
    cases hrun
    exact h s₁ hx

theorem startBatch_shaped {state : StateDB} (config : Config) (hbuilder : state.typ = .batchBuilder) :
    Shaped (startBatch (newTxProcessor state config)) := by
  rw [Shaped, startBatch]
  simp only [newTxProcessor, hbuilder, if_true, Option.map_some, Option.some.injEq]
  simp only [ZKInputs.shape, startZKInputs, newZKInputs, newSlice, List.length_replicate]

theorem processTxs_inBounds {state : StateDB} {config : Config} {l1UserTxs l1CoordinatorTxs : List L1Tx}
    {l2Txs : List PoolL2Tx} (hbuilder : state.typ = .batchBuilder)
    (hroom : l1UserTxs.length + l1CoordinatorTxs.length ≤ uint32Pred config.maxTx)
    (hlt : config.maxTx < 2 ^ 32) (hltFee : config.maxFeeTx < 2 ^ 32) :
    InBoundsAt (newTxProcessor state config) (processTxs coordIdxs l1UserTxs l1CoordinatorTxs l2Txs) := by
  refine AvoidsAt.bind (.fromState ?_) fun _ s₁ hempty => InBoundsAt.thenReset ?_
  · simp [newTxProcessor]
  obtain ⟨-, rfl⟩ := fromState_ok.mp hempty
  refine AvoidsAt.bind (.fromState ?_) fun _ s₂ hsizes => ?_
  · dsimp only
    split_ifs <;> simp
  obtain ⟨rfl, hcoords, hmax, -⟩ := checkSizes_ok hsizes
  refine (AvoidsAt.of_ok rfl).bind fun _ s₃ hstart => ?_
  cases hstart
  have hkeeps : (startBatch (newTxProcessor state config)).exitTree.isSome = true := by
    simp [startBatch, newTxProcessor, hbuilder, keepsExits]
  exact (processBatch_inBounds hbuilder (startBatch_shaped config hbuilder) rfl hkeeps hcoords hmax hroom hlt hltFee).bind
    fun _ _ _ => (AvoidsAt.of_ok rfl).bind fun _ _ _ => .pure _

end Loops

end TxProcessor

end HermezRollup
