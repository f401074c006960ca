import HermezRollup.PoolApi
import HermezRollup.BatchRefinement

/-! What is in the pool.  A transaction is stored as it was received: the type and the identifier that
`verifyPoolL2Tx` computes stay in its copy, and the state is the one of the body.  So a row is well formed exactly if
the body has a type, an identifier and no other state than pending. -/

namespace HermezRollup

open Bytes Fallible Simulation

theorem TxType.ofText_text (type : TxType) : TxType.ofText type.text = some type := by
  cases type <;> rfl


/-! ### Counting a transaction -/

namespace TxProcessor

variable {s s' : TxProcessor} {coordIdxsMap : CoordIdxsMap}

/-- The sender of a transaction has counted it. -/
def Counts (idx : Nat) (s s' : TxProcessor) : Prop :=
  ∃ acc acc', s.state.getAccount idx = .ok acc ∧ s'.state.getAccount idx = .ok acc' ∧ acc'.nonce = acc.nonce + 1

theorem collectFee_state {tokenID : TokenID} {fee : Int} {u : Unit} (h : collectFee tokenID fee s = .ok u s') :
    s'.state = s.state := by
  rw [collectFee] at h
  split at h
  · cases h
    rfl
  · split at h
    · cases h
    · cases h
      rfl

theorem accumulateFee_state {tokenID : TokenID} {fee : Int} {u : Unit}
    (h : accumulateFee coordIdxsMap tokenID fee s = .ok u s') : s'.state = s.state := by
  rw [accumulateFee] at h
  cases hlookup : coordIdxsMap.lookup tokenID with
  | none =>
    simp only [hlookup] at h
    exact congrArg state (pure_ok.mp h).2.symm
  | some coordIdx =>
    simp only [hlookup] at h
    obtain ⟨_, _, hread, h₁⟩ := bind_ok.mp h
    obtain ⟨-, rfl⟩ := fromState_ok.mp hread
    obtain ⟨_, s₂, hmodify, hcollect⟩ := bind_ok.mp h₁
    cases hmodify
    exact (collectFee_state hcollect).trans rfl

theorem chargeSender_l2 {tx : Tx} (htx : tx.isL1 = false) {acc acc' : Account}
    (h : chargeSender coordIdxsMap tx acc s = .ok acc' s') :
    s'.state = s.state ∧ acc'.nonce = acc.nonce + 1 ∧ 0 ≤ acc'.balance := by
  rw [chargeSender, htx, if_neg (by decide)] at h
  obtain ⟨fee, _, hread, h₁⟩ := bind_ok.mp h
  obtain ⟨-, rfl⟩ := fromState_ok.mp hread
  obtain ⟨_, s₂, hcheck, h₂⟩ := bind_ok.mp h₁
  obtain ⟨_, s₃, haccumulate, hret⟩ := bind_ok.mp h₂
  obtain ⟨rfl, rfl⟩ := pure_ok.mp hret
  rw [checkBalance] at hcheck
  split at hcheck
  · cases hcheck
  · obtain ⟨-, rfl⟩ := pure_ok.mp hcheck
    exact ⟨accumulateFee_state haccumulate, rfl, by dsimp only; omega⟩

variable [Libraries]

theorem spend_counts {tx : Tx} (htx : tx.isL1 = false) {α : Type} {k : Account → TxProc α} {a : α}
    (h : (do
      let acc ← getAccount tx.fromIdx
      let acc ← chargeSender coordIdxsMap tx acc
      updateAccount tx.fromIdx acc
      k acc : TxProc α) s = .ok a s') :
    ∃ acc s₁, k acc s₁ = .ok a s' ∧ s₁.state.getAccount tx.fromIdx = .ok { acc with idx := tx.fromIdx } ∧
      ∃ old, s.state.getAccount tx.fromIdx = .ok old ∧ acc.nonce = old.nonce + 1 := by
  obtain ⟨old, _, hget, h₁⟩ := bind_ok.mp h
  obtain ⟨hold, rfl⟩ := fromState_ok.mp hget
  obtain ⟨acc, s₁, hcharge, h₂⟩ := bind_ok.mp h₁
  obtain ⟨_, s₂, hupdate, hk⟩ := bind_ok.mp h₂
  obtain ⟨hstate, hnonce, hbalance⟩ := chargeSender_l2 htx hcharge
  have hput := rollup_of_run (updateAccount_meets tx.fromIdx acc) hupdate
  exact ⟨acc, s₂, hk, getAccount_of_put hput hbalance, old, hold, hnonce⟩

theorem applyTransfer_counts {tx : Tx} (htx : tx.isL1 = false) {auxToIdx : Nat} {u : Unit}
    (h : applyTransfer coordIdxsMap tx auxToIdx s = .ok u s') : Counts tx.fromIdx s s' := by
  obtain ⟨acc, s₁, hcredit, hsender, old, hold, hnonce⟩ := spend_counts htx h
  obtain ⟨receiver, hreceiver, hencodable, hrollup⟩ :=
    Rollup.give_some.mp (rollup_of_run (creditReceiver_meets _ _ hsender) hcredit)
  have haccounts : s'.state.accounts = _ := congrArg (fun r : Rollup => r.accounts) hrollup
  obtain ⟨hidx, a, ha, hacc⟩ := getAccountInTreeDB_ok.mp hsender
  by_cases hself : tx.fromIdx = if auxToIdx = 0 then tx.toIdx else auxToIdx
  · -- the receiver is the sender, whose account already counts the transaction
    rw [← hself] at hreceiver haccounts
    have hsame : receiver = { acc with idx := tx.fromIdx } := by
      rw [show s₁.rollup.getAccount tx.fromIdx = _ from hsender] at hreceiver
      exact (Except.ok.inj hreceiver).symm
    refine ⟨old, _, hold, getAccountInTreeDB_ok.mpr ⟨hidx, Account.store _ hencodable, ?_, rfl⟩, ?_⟩
    · rw [haccounts]
      exact Finmap.lookup_insert _
    · show receiver.nonce = old.nonce + 1
      rw [hsame]
      exact hnonce
  · refine ⟨old, _, hold, getAccountInTreeDB_ok.mpr ⟨hidx, a, ?_, rfl⟩, ?_⟩
    · rw [haccounts]
      exact (Finmap.lookup_insert_of_ne _ hself).trans ha
    · rw [← hacc]
      exact hnonce

theorem applyExitLeaf_state {tree : AccountTree} {idx : Nat} {acc : Account} {amount : Int} {exit : ExitOut}
    (h : applyExitLeaf tree idx acc amount s = .ok exit s') : s'.state = s.state := by
  obtain ⟨_, _, hread, h₁⟩ := bind_ok.mp h
  obtain ⟨-, rfl⟩ := fromState_ok.mp hread
  obtain ⟨_, s₁, hmodify, h₂⟩ := bind_ok.mp h₁
  cases hmodify
  obtain ⟨_, s₂, hfill, hret⟩ := bind_ok.mp h₂
  obtain ⟨-, rfl⟩ := pure_ok.mp hret
  rw [onZKInputs] at hfill
  split at hfill
  · cases hfill
    rfl
  · split at hfill
    · cases hfill
      rfl
    · cases hfill

theorem applyExit_counts {tx : Tx} (htx : tx.isL1 = false) {originalAmount : Int} {exit : ExitOut}
    (h : applyExit coordIdxsMap tx originalAmount s = .ok exit s') : Counts tx.fromIdx s s' := by
  obtain ⟨acc, s₁, hleave, hsender, old, hold, hnonce⟩ := spend_counts htx h
  have hstate : s'.state = s₁.state := by
    rw [bind_of_ok (get_run s₁)] at hleave
    cases htree : s₁.exitTree with
    | none =>
      simp only [htree] at hleave
      exact congrArg state (pure_ok.mp hleave).2.symm
    | some tree =>
      simp only [htree] at hleave
      split at hleave
      · exact congrArg state (pure_ok.mp hleave).2.symm
      · exact applyExitLeaf_state hleave
  exact ⟨old, { acc with idx := tx.fromIdx }, hold, by rw [hstate]; exact hsender, hnonce⟩

/-- A transaction of a type that the processor knows for L2 is counted, whenever it is processed. -/
theorem processL2Tx_counts {tx : PoolL2Tx} (htype : Rollup.isTransfer tx.type = true ∨ tx.type = some .exit)
    {out : PoolL2Tx × ExitOut} (h : processL2Tx coordIdxsMap tx s = .ok out s') : Counts tx.fromIdx s s' := by
  obtain ⟨tx₁, s₁, hfind, h₁⟩ := bind_ok.mp h
  obtain ⟨_, s₂, hfill, h₂⟩ := bind_ok.mp h₁
  obtain ⟨tx₂, s₃, hcomplete, h₃⟩ := bind_ok.mp h₂
  obtain ⟨exit, s₄, happly, hret⟩ := bind_ok.mp h₃
  obtain ⟨-, rfl⟩ := pure_ok.mp hret
  obtain ⟨hfinds, rfl⟩ := findReceiver_ok.mp hfind
  obtain ⟨zki, rfl, -⟩ := onZKInputs_ok (fun _ _ => fillL2Tx_shape) hfill
  obtain ⟨hcompletes, rfl⟩ := completeL2Tx_ok.mp hcomplete
  have hsame : tx₂.fromIdx = tx.fromIdx ∧ tx₂.type = tx.type := by
    rw [Finds] at hfinds
    rw [Completes] at hcompletes
    split at hfinds <;> split at hcompletes <;> grind
  rw [← hsame.1]
  rw [← hsame.2] at htype
  have htransfer : (do applyTransfer coordIdxsMap tx₂.tx tx₂.auxToIdx; return {} : TxProc ExitOut)
      { s₁ with zki } = .ok exit s₄ → Counts tx₂.fromIdx s₁ s₄ := by
    intro hrun
    obtain ⟨_, s₅, htransfer, hret⟩ := bind_ok.mp hrun
    obtain ⟨-, rfl⟩ := pure_ok.mp hret
    exact applyTransfer_counts rfl htransfer
  cases hknown : tx₂.type with
  | none => simp [hknown, Rollup.isTransfer] at htype
  | some type =>
    simp only [applyL2Tx, hknown] at happly
    cases type with
    | transfer => exact htransfer happly
    | transferToEthAddr => exact htransfer happly
    | transferToBJJ => exact htransfer happly
    | exit => exact applyExit_counts rfl happly
    | _ => simp [hknown, Rollup.isTransfer] at htype

end TxProcessor

/-! ### The checks of the endpoints -/

section

variable [Libraries] {a : API} {tx tx' : ReceivedTx} {body : ReceivedJSON}

def PoolL2Tx.determinedType (tx : PoolL2Tx) : Option TxType :=
  tx.setType.toOption.bind (·.type)

omit [Libraries] in
theorem PoolL2Tx.setType_ok {tx typed : PoolL2Tx} (h : tx.setType = .ok typed) :
    ∃ type, tx.determinedType = some type ∧ typed = { tx with type := some type } ∧
      (Rollup.isTransfer (some type) = true ∨ some type = some .exit) := by
  rw [determinedType, h]
  rw [setType] at h
  split_ifs at h <;> cases h
  · exact ⟨.transfer, rfl, rfl, Or.inl rfl⟩
  · exact ⟨.exit, rfl, rfl, Or.inr rfl⟩
  · exact ⟨.transferToBJJ, rfl, rfl, Or.inl rfl⟩
  · exact ⟨.transferToEthAddr, rfl, rfl, Or.inl rfl⟩

omit [Libraries] in
theorem PoolL2Tx.determinedType_congr {tx tx' : PoolL2Tx} (hto : tx.toIdx = tx'.toIdx)
    (haddr : tx.toEthAddr = tx'.toEthAddr) (hbjj : tx.toBJJ = tx'.toBJJ) : tx.determinedType = tx'.determinedType := by
  simp only [determinedType, setType, hto, haddr, hbjj]
  split_ifs <;> rfl

omit [Libraries] in
theorem mapError_ok {ε ε' α : Type} {x : Except ε α} {f : ε → ε'} {y : α} : x.mapError f = .ok y ↔ x = .ok y := by
  cases x <;> simp [Except.mapError]

/-- What `NewPoolL2Tx` finds out about a transaction, and that what it came with is missing or right. -/
theorem newPoolL2Tx_ok (h : newPoolL2Tx tx = .ok tx') :
    ∃ type amount txID, tx.poolL2Tx.determinedType = some type ∧
      (Rollup.isTransfer (some type) = true ∨ some type = some .exit) ∧ tx.amount = some amount ∧
      tx.poolL2Tx.l2Tx.calculateTxID = .ok txID ∧ (tx.type = "" ∨ tx.type = type.text) ∧
      (tx.txID = emptyTxID ∨ tx.txID = txID) ∧ tx' = { tx with type := type.text, txID } := by
  obtain ⟨typed, htyped, h₁⟩ := except_bind_ok.mp h
  obtain ⟨type, hdetermined, rfl, hknown⟩ := PoolL2Tx.setType_ok (mapError_ok.mp htyped)
  dsimp only [Option.map_some, Option.getD_some] at h₁
  split at h₁
  · cases h₁
  next hgiven =>
    cases hamount : tx.amount with
    | none =>
      rw [hamount] at h₁
      cases h₁
    | some amount =>
      simp only [hamount] at h₁
      obtain ⟨txID, hid, h₂⟩ := except_bind_ok.mp h₁
      split at h₂
      · cases h₂
      next hgivenID =>
        cases h₂
        refine ⟨type, amount, txID, hdetermined, hknown, rfl, mapError_ok.mp hid, ?_, ?_, rfl⟩
        · exact (Classical.em (tx.type = "")).imp_right fun hne => by_contra fun hne' => hgiven ⟨hne, hne'⟩
        · exact (Classical.em (tx.txID = emptyTxID)).imp_right fun hne => by_contra fun hne' => hgivenID ⟨hne, hne'⟩

/-- What is known of a transaction that was verified. -/
structure Verified [BabyJubjub] (a : API) (tx : ReceivedTx) (type : TxType) (txID : Bytes) (account : Account) : Prop where
  determined : tx.poolL2Tx.determinedType = some type
  known : Rollup.isTransfer (some type) = true ∨ some type = some .exit
  calculated : tx.poolL2Tx.l2Tx.calculateTxID = .ok txID
  givenType : tx.type = "" ∨ tx.type = type.text
  givenID : tx.txID = emptyTxID ∨ tx.txID = txID
  sender : a.h.account tx.fromIdx = some account
  tokenID : tx.tokenID = account.tokenID
  signature : tx.poolL2Tx.verifySignature a.chainID account.bjj = true

theorem verifyPoolL2Tx_ok [BabyJubjub] (h : a.verifyPoolL2Tx tx = .ok ()) :
    ∃ type txID account, Verified a tx type txID account := by
  obtain ⟨tx', hnew, h₁⟩ := except_bind_ok.mp h
  obtain ⟨type, amount, txID, htype, hknown, hamount, hid, hgiven, hgivenID, rfl⟩ := newPoolL2Tx_ok hnew
  obtain ⟨_, -, h₂⟩ := except_bind_ok.mp h₁
  cases haccount : a.h.account tx.fromIdx with
  | none =>
    simp only [haccount] at h₂
    cases h₂
  | some account =>
    simp only [haccount] at h₂
    split_ifs at h₂ with htoken hnonce hsignature
    -- the hash to sign covers neither the type nor the identifier
    exact ⟨type, txID, account, htype, hknown, hid, hgiven, hgivenID, haccount, not_not.mp htoken, hsignature⟩

/-! ### What is stored -/

/-- A row as the rest of the node expects it. -/
structure PoolRow.WellFormed [BabyJubjub] (a : API) (row : PoolRow) : Prop where
  type : ∃ type, row.poolL2Tx.determinedType = some type ∧ row.type = type.text
  txID : row.poolL2Tx.l2Tx.calculateTxID = .ok row.txID
  state : row.state = .pending
  sender : ∃ account, a.h.account row.fromIdx = some account ∧ row.tokenID = account.tokenID ∧
    row.poolL2Tx.verifySignature a.chainID account.bjj = true
  counted : ∀ {coordIdxsMap : CoordIdxsMap} {s s' : TxProcessor} {out : PoolL2Tx × ExitOut},
    TxProcessor.processL2Tx coordIdxsMap row.poolL2Tx s = .ok out s' → TxProcessor.Counts row.fromIdx s s'

/-- A body that says itself what the node would otherwise fill in. -/
def ReceivedJSON.Complete (body : ReceivedJSON) : Prop :=
  body.type ≠ "" ∧ body.txID ≠ emptyTxID ∧ (body.state = "" ∨ body.state = "pend")

/-- The linked fields of a transaction are there or all zero. -/
def ReceivedTx.Linked (tx : ReceivedTx) : Prop :=
  tx.rqFromIdx ≠ 0 ∨ (tx.rqFromIdx = 0 ∧ tx.rqToIdx = 0 ∧ tx.rqToEthAddr = 0 ∧ tx.rqToBJJ = 0 ∧ tx.rqTokenID = 0 ∧
    tx.rqAmount = none ∧ tx.rqFee = 0 ∧ tx.rqNonce = 0 ∧ tx.atomicGroupID = 0)

omit [Libraries] in
theorem getD_ite_ne {α : Type} [DecidableEq α] (x zero : α) : (if x ≠ zero then some x else none).getD zero = x := by
  by_cases h : x = zero
  · rw [if_neg (not_not.mpr h), h]
    rfl
  · rw [if_pos h]
    rfl

omit [Libraries] in
/-- A transaction comes back from its row, but for the offset of a transaction that requests none. -/
theorem ReceivedTx.poolL2Tx_row (h : tx.Linked) :
    ∃ rqOffset, tx.row.poolL2Tx = { tx.poolL2Tx with info := "", rqOffset } := by
  rcases h with hlinked | ⟨hfrom, hto, haddr, hpk, htoken, hamount, hfee, hnonce, hgroup⟩
  · refine ⟨tx.rqOffset, ?_⟩
    simp only [row, PoolRow.poolL2Tx, ReceivedTx.poolL2Tx, hlinked, ne_eq, not_false_eq_true, decide_true, true_and,
      if_true, Option.getD_some, PoolL2Tx.mk.injEq, and_true]
    exact ⟨getD_ite_ne tx.toEthAddr 0, getD_ite_ne tx.toBJJ 0, getD_ite_ne tx.maxNumBatch 0, getD_ite_ne tx.rqToIdx 0,
      getD_ite_ne tx.rqToEthAddr 0, getD_ite_ne tx.rqToBJJ 0⟩
  · refine ⟨0, ?_⟩
    simp only [row, PoolRow.poolL2Tx, ReceivedTx.poolL2Tx, hfrom, hto, haddr, hpk, htoken, hamount, hfee, hnonce,
      hgroup, ne_eq, not_true_eq_false, decide_false, Bool.false_eq_true, false_and, if_false, Option.getD_none, PoolL2Tx.mk.injEq,
      and_true, true_and]
    exact ⟨getD_ite_ne tx.toEthAddr 0, getD_ite_ne tx.toBJJ 0, getD_ite_ne tx.maxNumBatch 0⟩

omit [Libraries] in
theorem TxType.text_ne_empty (type : TxType) : type.text ≠ "" := by
  cases type <;> decide

theorem L2Tx.calculateTxID_ne_empty {tx : L2Tx} {txID : Bytes} (h : tx.calculateTxID = .ok txID) :
    txID ≠ emptyTxID := by
  obtain ⟨_, -, h⟩ := except_bind_ok.mp h
  obtain ⟨_, -, h⟩ := except_bind_ok.mp h
  obtain ⟨_, -, h⟩ := except_bind_ok.mp h
  cases h
  intro hempty
  exact absurd (List.cons.inj hempty).1 (by decide)

theorem Verified.wellFormed_iff [BabyJubjub] {type : TxType} {txID : Bytes} {account : Account}
    (h : Verified a tx type txID account) (hlinked : tx.Linked) :
    tx.row.WellFormed a ↔ tx.type ≠ "" ∧ tx.txID ≠ emptyTxID ∧ tx.state = .pending := by
  obtain ⟨rqOffset, hrow⟩ := tx.poolL2Tx_row hlinked
  have hdetermined : tx.row.poolL2Tx.determinedType = some type := by
    rw [hrow, ← h.determined]
    exact PoolL2Tx.determinedType_congr rfl rfl rfl
  have hcalculated : tx.row.poolL2Tx.l2Tx.calculateTxID = .ok txID := by
    rw [hrow]
    exact h.calculated
  constructor
  · intro hwell
    obtain ⟨type', -, htype'⟩ := hwell.type
    exact ⟨fun hempty => type'.text_ne_empty (htype'.symm.trans hempty), L2Tx.calculateTxID_ne_empty hwell.txID,
      hwell.state⟩
  · rintro ⟨htype, hid, hstate⟩
    have htext : tx.type = type.text := h.givenType.resolve_left htype
    refine ⟨⟨type, hdetermined, htext⟩, ?_, hstate, ⟨account, h.sender, h.tokenID, ?_⟩, ?_⟩
    · rw [hcalculated, ← h.givenID.resolve_left hid]
      rfl
    · rw [hrow]
      exact h.signature
    · intro coordIdxsMap s s' out hrun
      refine TxProcessor.processL2Tx_counts ?_ hrun
      rw [show tx.row.poolL2Tx.type = TxType.ofText tx.type from rfl, htext, TxType.ofText_text]
      exact h.known

omit [Libraries] in
theorem PoolL2TxState.ofText_eq_pending {text : String} : ofText text = some pending ↔ text = "pend" := by
  constructor
  · intro h
    have hfound := List.find?_some h
    exact (of_decide_eq_true hfound).symm
  · rintro rfl
    rfl

omit [Libraries] in
theorem receivedState_ok {text : String} {state : PoolL2TxState} (h : receivedState text = .ok state) :
    state = .pending ↔ text = "" ∨ text = "pend" := by
  by_cases hempty : text = ""
  · rw [receivedState, if_pos hempty] at h
    cases h
    exact iff_of_true rfl (Or.inl hempty)
  · rw [receivedState, if_neg hempty] at h
    cases htext : PoolL2TxState.ofText text with
    | none =>
      rw [htext] at h
      cases h
    | some named =>
      rw [htext] at h
      cases h
      rw [or_iff_right hempty, ← PoolL2TxState.ofText_eq_pending, htext, Option.some.injEq]

omit [Libraries] in
theorem unmarshalJSON_ok (h : unmarshalJSON body = .ok tx) :
    tx.type = body.type ∧ tx.txID = body.txID ∧ (tx.state = .pending ↔ body.state = "" ∨ body.state = "pend") ∧
      tx.Linked := by
  obtain ⟨state, hstate, hret⟩ := except_bind_ok.mp h
  cases hret
  exact ⟨rfl, rfl, receivedState_ok hstate, Or.inr ⟨rfl, rfl, rfl, rfl, rfl, rfl, rfl, rfl, rfl⟩⟩

omit [Libraries] in
theorem addTxs_ok {maxTxs : Nat} {pool pool' : List PoolRow} {txs : List ReceivedTx}
    (h : addTxs maxTxs pool txs = .ok pool') : pool' = pool ++ txs.map ReceivedTx.row := by
  rw [addTxs] at h
  split_ifs at h
  cases h
  rfl

theorem postPoolTx_ok [BabyJubjub] {pool pool' : List PoolRow} (h : a.postPoolTx pool body = .ok pool') :
    ∃ row, pool' = pool ++ [row] ∧ (row.WellFormed a ↔ body.Complete) := by
  obtain ⟨tx, hbody, h₁⟩ := except_bind_ok.mp h
  split at h₁
  · cases h₁
  obtain ⟨_, hverify, h₂⟩ := except_bind_ok.mp h₁
  obtain ⟨htype, hid, hstate, hlinked⟩ := unmarshalJSON_ok hbody
  obtain ⟨type, txID, account, hverified⟩ := verifyPoolL2Tx_ok hverify
  have hadded : addTxs a.maxTxs pool [{ tx with info := "" }] = .ok pool' := by
    rw [API.addTxAPI] at h₂
    split at h₂
    · exact h₂
    all_goals cases h₂
  refine ⟨tx.row, addTxs_ok hadded, ?_⟩
  rw [hverified.wellFormed_iff hlinked, htype, hid, hstate]
  rfl

variable {group : AtomicGroup ReceivedTx}

omit [Libraries] in
theorem link_ok {i : Nat} (h : group.link i tx = .ok tx') :
    tx'.type = tx.type ∧ tx'.txID = tx.txID ∧ tx'.state = tx.state ∧ tx'.fromIdx = tx.fromIdx ∧
      ∃ requested ∈ group.txs, tx'.rqFromIdx = requested.fromIdx := by
  obtain ⟨position, -, h₁⟩ := except_bind_ok.mp h
  cases hrequested : group.txs[position]? with
  | none =>
    rw [hrequested] at h₁
    cases h₁
  | some requested =>
    rw [hrequested] at h₁
    cases h₁
    exact ⟨rfl, rfl, rfl, rfl, requested, List.mem_of_getElem? hrequested, rfl⟩

theorem linkAndVerify_ok [BabyJubjub] {i : Nat} (h : a.linkAndVerify group i tx = .ok tx') :
    group.link i tx = .ok tx' ∧ ∃ type txID account, Verified a tx' type txID account := by
  obtain ⟨linked, hlink, h₁⟩ := except_bind_ok.mp h
  obtain ⟨_, hverify, hret⟩ := except_bind_ok.mp h₁
  cases hret
  exact ⟨hlink, verifyPoolL2Tx_ok hverify⟩

/-- In a group that passed the loop every transaction has all fields of the one it requests: that one has a sender
with an index, because it passed too. -/
theorem linked_of_group [BabyJubjub] {linked : List ReceivedTx}
    (hgroup : List.Forall₂ (fun tx linked => ∃ i, a.linkAndVerify group i tx = .ok linked) group.txs linked)
    (htx : ∃ i, a.linkAndVerify group i tx = .ok tx') : tx'.Linked := by
  obtain ⟨i, hlinkTx⟩ := htx
  obtain ⟨-, -, -, -, requested, hmem, hrq⟩ := link_ok (linkAndVerify_ok hlinkTx).1
  obtain ⟨other, -, j, hother⟩ := forall₂_of_mem_left hgroup hmem
  obtain ⟨hlink, type, txID, account, hverified⟩ := linkAndVerify_ok hother
  obtain ⟨-, -, -, hfrom, -⟩ := link_ok hlink
  have huser := a.h.userIdx _ _ hverified.sender
  rw [hfrom, ← hrq] at huser
  exact Or.inl (by simp only [userThreshold] at huser; omega)

theorem postAtomicPool_ok [BabyJubjub] {pool pool' : List PoolRow} {bodies : AtomicGroup ReceivedJSON}
    (h : a.postAtomicPool pool bodies = .ok pool') :
    ∃ rows, pool' = pool ++ rows ∧
      List.Forall₂ (fun body row => PoolRow.WellFormed a row ↔ ReceivedJSON.Complete body) bodies.txs rows := by
  obtain ⟨txs, hbodies, h₁⟩ := except_bind_ok.mp h
  dsimp only at h₁
  split at h₁
  · cases h₁
  split at h₁
  · cases h₁
  obtain ⟨linked, hmapM, h₂⟩ := except_bind_ok.mp h₁
  split at h₂
  · cases h₂
  have hadded : pool' = pool ++ linked.map ReceivedTx.row := by
    rw [API.addAtomicTxsAPI] at h₂
    split at h₂
    next hnil =>
      cases h₂
      simp [hnil]
    next =>
      split at h₂
      · exact addTxs_ok h₂
      all_goals cases h₂
  have hgroup : List.Forall₂ (fun tx linked => ∃ i, a.linkAndVerify ⟨bodies.id, txs⟩ i tx = .ok linked) txs linked := by
    have hfirst : List.Forall₂ (fun tx linked => ∃ i, a.linkAndVerify ⟨bodies.id, txs⟩ i tx = .ok linked)
        (txs.zipIdx.map Prod.fst) linked :=
      List.forall₂_map_left_iff.mpr ((mapM_ok.mp hmapM).imp fun pair _ hpair => ⟨pair.2, hpair⟩)
    rwa [List.zipIdx_map_fst] at hfirst
  refine ⟨_, hadded, List.forall₂_map_right_iff.mpr ?_⟩
  refine (forall₂_trans (mapM_ok.mp hbodies) hgroup).imp ?_
  rintro body linkedTx ⟨tx, hbody, hlinkTx⟩
  have hlinked := linked_of_group hgroup hlinkTx
  obtain ⟨i, hlinkTx⟩ := hlinkTx
  obtain ⟨hlink, type, txID, account, hverified⟩ := linkAndVerify_ok hlinkTx
  obtain ⟨htype, hid, hstate, -, -⟩ := link_ok hlink
  obtain ⟨htype', hid', hstate', -⟩ := unmarshalJSON_ok hbody
  rw [hverified.wellFormed_iff hlinked, htype, hid, hstate, htype', hid', hstate']
  rfl

/-- A request that puts transactions into the pool. -/
inductive PoolRequest where
  | postPoolTx (body : ReceivedJSON)
  | postAtomicPool (body : AtomicGroup ReceivedJSON)

namespace PoolRequest

def bodies : PoolRequest → List ReceivedJSON
  | postPoolTx body => [body]
  | postAtomicPool body => body.txs

def serve [BabyJubjub] (a : API) (pool : List PoolRow) : PoolRequest → Except Refusal (List PoolRow)
  | postPoolTx body => a.postPoolTx pool body
  | postAtomicPool body => a.postAtomicPool pool body

theorem serve_wellFormed_iff [BabyJubjub] {pool pool' : List PoolRow} {request : PoolRequest}
    (h : request.serve a pool = .ok pool') :
    ∃ rows, pool' = pool ++ rows ∧ List.Forall₂ (fun body row => PoolRow.WellFormed a row ↔ ReceivedJSON.Complete body)
      request.bodies rows := by
  cases request with
  | postPoolTx body =>
    obtain ⟨row, hpool, hrow⟩ := postPoolTx_ok h
    exact ⟨[row], hpool, .cons hrow .nil⟩
  | postAtomicPool body => exact postAtomicPool_ok h

end PoolRequest

end

/-- A node with one account, at index 256, for which every signature is right and every fee in range. -/
def oneAccountAPI : API :=
  { h := { account := fun idx => if idx = 256 then some { tokenID := 0, bjj := 1, ethAddr := 7 } else none
           userIdx := by
             intro idx acc h
             split at h
             next hidx => exact hidx ▸ le_refl _
             next => cases h }
    chainID := 0, checkFeeIsInRange := fun _ => .inRange, averageFee := fun _ => .inRange, maxTxs := 10 }

@[reducible] def anySignature : BabyJubjub := ⟨fun _ _ _ => true⟩

def exitBody (type : String) (txID : Bytes) (state : String) : ReceivedJSON :=
  { fromIdx := 256, toIdx := 1, amount := some 3, type, txID, state }

def exitID : Bytes :=
  ((@L2Tx.calculateTxID plainLibraries { fromIdx := 256, toIdx := 1, amount := 3, fee := 0 }).toOption).getD []

theorem exitBody_wellFormed :
    ∃ rows, @PoolRequest.serve plainLibraries anySignature oneAccountAPI [] (.postPoolTx (exitBody "Exit" exitID "")) =
      .ok rows ∧ List.Forall₂ (fun body row => @PoolRow.WellFormed plainLibraries anySignature oneAccountAPI row ↔
        ReceivedJSON.Complete body) [exitBody "Exit" exitID ""] rows := by
  have hserved : ((@PoolRequest.serve plainLibraries anySignature oneAccountAPI []
      (.postPoolTx (exitBody "Exit" exitID ""))).toOption).isSome = true := by decide +kernel
  obtain ⟨rows, hrows⟩ := Option.isSome_iff_exists.mp hserved
  rw [toOption_some] at hrows
  obtain ⟨rows', rfl, hwell⟩ := @PoolRequest.serve_wellFormed_iff plainLibraries oneAccountAPI anySignature [] _ _ hrows
  exact ⟨_, hrows, hwell⟩

/-- The row of an exit whose body had neither a type nor an identifier, and claimed to be forged. -/
def bareExitRow : PoolRow :=
  { txID := emptyTxID, fromIdx := 256, toIdx := 1, toEthAddr := none, toBJJ := none, tokenID := 0, amount := 3, fee := 0
    nonce := 0, state := .forged, signature := 0, rqFromIdx := none, rqToIdx := none, rqToEthAddr := none
    rqToBJJ := none, rqTokenID := none, rqAmount := none, rqFee := none, rqNonce := none, type := "", rqOffset := none
    atomicGroupID := none, maxNumBatch := none }

/-- It is stored, goes through the processor without an error and is not counted. -/
theorem bareExitRow_not_counted :
    @PoolRequest.serve plainLibraries anySignature oneAccountAPI [] (.postPoolTx (exitBody "" emptyTxID "fged")) =
      .ok [bareExitRow] ∧ ¬ @PoolRow.WellFormed plainLibraries anySignature oneAccountAPI bareExitRow ∧
      ∃ out s', @TxProcessor.processL2Tx plainLibraries ∅ bareExitRow.poolL2Tx (newTxProcessor
        (oneAccountState .batchBuilder) smallConfig) = .ok out s' ∧
        ¬ TxProcessor.Counts 256 (newTxProcessor (oneAccountState .batchBuilder) smallConfig) s' := by
  refine ⟨by decide +kernel, fun hwell => ?_, _, newTxProcessor (oneAccountState .batchBuilder) smallConfig, rfl, ?_⟩
  · exact absurd (@PoolRow.WellFormed.state plainLibraries anySignature _ _ hwell) (by decide)
  · rintro ⟨acc, acc', hacc, hacc', hnonce⟩
    rw [hacc] at hacc'
    cases hacc'
    omega

end HermezRollup
