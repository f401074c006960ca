import HermezRollup.Contract
import HermezRollup.Fallible

/-! What a call to the rollup contract can do.  Each function of the contract has one lemma that says
when it succeeds and what it changes; `Hermez.Step` puts them together for a call, so that an invariant
of the contract is a case analysis on four steps. -/

namespace HermezRollup

open Bytes Fallible

/-! ### What the contract accepts -/

theorem require_ok {condition : Bool} {message : String} :
    require condition message = .ok () ↔ condition = true := by
  cases condition <;> simp [require]

theorem require_bind_ok {α : Type} {condition : Bool} {message : String} {f : Unit → Except String α} {a : α} :
    (require condition message >>= f) = .ok a ↔ condition = true ∧ f () = .ok a := by
  rw [except_bind_ok]
  constructor
  · rintro ⟨⟨⟩, hrequire, hf⟩
    exact ⟨require_ok.mp hrequire, hf⟩
  · rintro ⟨hcondition, hf⟩
    exact ⟨(), require_ok.mpr hcondition, hf⟩

/-- The conditions under which `_addL1Transaction` accepts its arguments. -/
structure AcceptedArgs (lastIdx : BitVec 48) (args : L1UserTxArgs) : Prop where
  amount_lt : float2Fix args.amountF < limitL2TransferAmount
  noTransfer : args.toIdx = 0 → float2Fix args.amountF = 0
  noDepositOnExit : args.toIdx = exitIdx → args.loadAmountF = 0
  toIdx : args.toIdx = 0 ∨ args.toIdx = exitIdx ∨ reservedIdx < args.toIdx ∧ args.toIdx ≤ lastIdx
  keyOfNewAccount : args.fromIdx = 0 → args.babyPubKey ≠ 0
  fromIdx : args.fromIdx = 0 ∨ reservedIdx < args.fromIdx ∧ args.fromIdx ≤ lastIdx
  noKeyOtherwise : args.fromIdx ≠ 0 → args.babyPubKey = 0

variable {args : L1UserTxArgs}

namespace Hermez

theorem checkToIdx_ok {s : Hermez} :
    s.checkToIdx args = .ok () ↔
      (args.toIdx = 0 → float2Fix args.amountF = 0) ∧ (args.toIdx = exitIdx → args.loadAmountF = 0) ∧
        (args.toIdx = 0 ∨ args.toIdx = exitIdx ∨ reservedIdx < args.toIdx ∧ args.toIdx ≤ s.lastIdx) := by
  rw [checkToIdx]
  by_cases hzero : args.toIdx = 0
  · rw [if_pos hzero, require_ok]
    simp [hzero, exitIdx]
  · by_cases hexit : args.toIdx = exitIdx
    · rw [if_neg hzero, if_pos hexit, require_ok]
      simp [hexit, exitIdx]
    · rw [if_neg hzero, if_neg hexit, require_ok, decide_eq_true_iff]
      tauto

theorem checkFromIdx_ok {s : Hermez} :
    s.checkFromIdx args = .ok () ↔
      (args.fromIdx = 0 → args.babyPubKey ≠ 0) ∧
        (args.fromIdx = 0 ∨ reservedIdx < args.fromIdx ∧ args.fromIdx ≤ s.lastIdx) ∧
        (args.fromIdx ≠ 0 → args.babyPubKey = 0) := by
  rw [checkFromIdx]
  by_cases hzero : args.fromIdx = 0
  · rw [if_pos hzero, require_ok]
    simp [hzero]
  · rw [if_neg hzero, except_bind_ok]
    constructor
    · rintro ⟨_, hrange, hkey⟩
      rw [require_ok, decide_eq_true_iff] at hrange hkey
      tauto
    · rintro ⟨-, hrange, hkey⟩
      refine ⟨(), require_ok.mpr (decide_eq_true (by tauto)), require_ok.mpr (decide_eq_true (hkey hzero))⟩

theorem checkL1Transaction_ok {s : Hermez} :
    s.checkL1Transaction args = .ok () ↔ AcceptedArgs s.lastIdx args := by
  rw [checkL1Transaction, except_bind_ok]
  constructor
  · rintro ⟨_, hamount, hrest⟩
    rw [except_bind_ok] at hrest
    obtain ⟨_, hto, hfrom⟩ := hrest
    obtain ⟨hnoTransfer, hexit, htoIdx⟩ := checkToIdx_ok.mp hto
    obtain ⟨hkey, hfromIdx, hnoKey⟩ := checkFromIdx_ok.mp hfrom
    exact ⟨by simpa using require_ok.mp hamount, hnoTransfer, hexit, htoIdx, hkey, hfromIdx, hnoKey⟩
  · intro h
    refine ⟨(), require_ok.mpr (by simpa using h.amount_lt), ?_⟩
    rw [except_bind_ok]
    exact ⟨(), checkToIdx_ok.mpr ⟨h.noTransfer, h.noDepositOnExit, h.toIdx⟩,
      checkFromIdx_ok.mpr ⟨h.keyOfNewAccount, h.fromIdx, h.noKeyOtherwise⟩⟩

theorem addL1TransactionInternal_ok {s s' : Hermez} {events : List Event} :
    s.addL1TransactionInternal args = .ok (s', events) ↔
      AcceptedArgs s.lastIdx args ∧ s.l1QueueAddTx args = (s', events) := by
  rw [addL1TransactionInternal, except_bind_ok]
  constructor
  · rintro ⟨_, hcheck, hadd⟩
    exact ⟨checkL1Transaction_ok.mp hcheck, Except.ok.inj hadd⟩
  · rintro ⟨haccepted, hadd⟩
    exact ⟨(), checkL1Transaction_ok.mpr haccepted, congrArg Except.ok hadd⟩

theorem l1QueueAddTx_fst (s : Hermez) (args : L1UserTxArgs) :
    (s.l1QueueAddTx args).1 =
      { s with
        mapL1TxQueue := Function.update s.mapL1TxQueue s.nextL1FillingQueue
          (s.mapL1TxQueue s.nextL1FillingQueue ++ args.encodePacked)
        nextL1FillingQueue :=
          if maxL1UserTx ≤ (s.mapL1TxQueue s.nextL1FillingQueue).length / rollupConstL1UserTotalBytes + 1
          then s.nextL1FillingQueue + 1 else s.nextL1FillingQueue } := by
  simp only [l1QueueAddTx]
  split <;> rfl

theorem l1QueueAddTx_snd (s : Hermez) (args : L1UserTxArgs) :
    (s.l1QueueAddTx args).2 = [.l1UserTx s.nextL1FillingQueue
      (BitVec.ofNat 8 ((s.mapL1TxQueue s.nextL1FillingQueue).length / rollupConstL1UserTotalBytes))
      args.encodePacked] := by
  simp only [l1QueueAddTx]
  split <;> rfl

theorem clearQueue_fst (s : Hermez) :
    s.clearQueue.1 =
      { s with
        mapL1TxQueue := Function.update s.mapL1TxQueue s.nextL1ToForgeQueue []
        nextL1ToForgeQueue := s.nextL1ToForgeQueue + 1
        nextL1FillingQueue :=
          if s.nextL1ToForgeQueue + 1 = s.nextL1FillingQueue
          then s.nextL1FillingQueue + 1 else s.nextL1FillingQueue } := by
  simp only [clearQueue]
  split <;> rfl

theorem clearIfL1Batch_fst (s : Hermez) (msg : Msg) (l1Batch : Bool) :
    (s.clearIfL1Batch msg l1Batch).1 =
      { s with
        lastL1L2Batch := if l1Batch then BitVec.ofNat 64 msg.blockNumber else s.lastL1L2Batch
        mapL1TxQueue := if l1Batch then Function.update s.mapL1TxQueue s.nextL1ToForgeQueue [] else s.mapL1TxQueue
        nextL1ToForgeQueue := if l1Batch then s.nextL1ToForgeQueue + 1 else s.nextL1ToForgeQueue
        nextL1FillingQueue :=
          if l1Batch ∧ s.nextL1ToForgeQueue + 1 = s.nextL1FillingQueue
          then s.nextL1FillingQueue + 1 else s.nextL1FillingQueue } := by
  cases l1Batch with
  | false => simp [clearIfL1Batch]
  | true => simp [clearIfL1Batch, clearQueue_fst]

end Hermez

@[simp] theorem L1UserTxArgs.length_encodePacked (args : L1UserTxArgs) :
    args.encodePacked.length = rollupConstL1UserTotalBytes := by
  simp [L1UserTxArgs.encodePacked, rollupConstL1UserTotalBytes]

/-- The balances after a deposit: none shrinks, and the one of the deposited token grows by the
deposit.  Ether is held under the zero address. -/
structure Deposited (s : Hermez) (tokenID : TokenID) (loadAmount : Nat) (balanceOf : Address → Nat) : Prop where
  mono : ∀ token, s.balanceOf token ≤ balanceOf token
  ether : tokenID = 0 → s.balanceOf 0 + loadAmount ≤ balanceOf 0
  token : tokenID ≠ 0 → ∀ token, s.tokenList[tokenID.toNat]? = some token →
    s.balanceOf token + loadAmount ≤ balanceOf token

variable {tokenID : TokenID} {instantWithdraw : Bool}

namespace Hermez

theorem tokenAddress_ok {s : Hermez} {token : Address} :
    s.tokenAddress tokenID = .ok token ↔ s.tokenList[tokenID.toNat]? = some token := by
  rw [tokenAddress]
  cases s.tokenList[tokenID.toNat]? <;> simp

theorem balance_le_receive (s : Hermez) (received token : Address) (amount : Nat) :
    s.balanceOf token ≤ (s.receive received amount).balanceOf token := by
  rw [receive]
  rcases eq_or_ne token received with rfl | hne
  · simp
  · simp [Function.update_of_ne hne]

theorem depositLoadAmount_ok {w : World} {s s' : Hermez} {msg : Msg} {loadAmount : Nat}
    (h : (s.receive 0 msg.value).depositLoadAmount w msg tokenID loadAmount = .ok s') :
    ∃ balanceOf, Deposited s tokenID loadAmount balanceOf ∧ s' = { s with balanceOf := balanceOf } := by
  have hmono := s.balance_le_receive 0
  rw [depositLoadAmount] at h
  split_ifs at h with hpos hether
  · obtain ⟨_, hvalue, hs⟩ := except_bind_ok.mp h
    have hvalue := of_decide_eq_true (require_ok.mp hvalue)
    cases hs
    refine ⟨_, ⟨fun token => hmono token _, fun _ => ?_, fun hne => absurd hether hne⟩, rfl⟩
    simp [receive, hvalue]
  · obtain ⟨_, -, h⟩ := except_bind_ok.mp h
    obtain ⟨token, htoken, h⟩ := except_bind_ok.mp h
    have htoken := tokenAddress_ok.mp htoken
    cases htransfer : w.transferFrom token msg.sender loadAmount with
    | none => rw [htransfer] at h; cases h
    | some received =>
      rw [htransfer] at h
      obtain ⟨_, hreceived, hs⟩ := except_bind_ok.mp h
      have hreceived := of_decide_eq_true (require_ok.mp hreceived)
      cases hs
      refine ⟨_, ⟨fun other => (hmono other _).trans (balance_le_receive _ _ _ _), fun h0 => absurd h0 hether,
        fun _ other hother => ?_⟩, rfl⟩
      obtain rfl : token = other := Option.some.inj (htoken.symm.trans hother)
      have := hmono token msg.value
      simp only [receive, Function.update_self, hreceived] at this ⊢
      omega
  · cases h
    obtain rfl : loadAmount = 0 := by omega
    exact ⟨_, ⟨fun token => hmono token _, fun _ => hmono 0 _, fun _ token _ => hmono token _⟩, rfl⟩

theorem addL1Transaction_ok {w : World} {s s' : Hermez} {msg : Msg} {events : List Event}
    (h : s.addL1Transaction w msg args = .ok (s', events)) :
    args.tokenID.toNat < s.tokenList.length ∧ float2Fix args.loadAmountF < limitLoadAmount ∧
      AcceptedArgs s.lastIdx { args with ethAddress := msg.sender } ∧
      ∃ balanceOf, Deposited s args.tokenID (float2Fix args.loadAmountF) balanceOf ∧
        ({ s with balanceOf := balanceOf } : Hermez).l1QueueAddTx { args with ethAddress := msg.sender } =
          (s', events) := by
  obtain ⟨_, htoken, h⟩ := except_bind_ok.mp h
  obtain ⟨_, hload, h⟩ := except_bind_ok.mp h
  obtain ⟨t, hdeposit, h⟩ := except_bind_ok.mp h
  obtain ⟨balanceOf, hdeposited, rfl⟩ := depositLoadAmount_ok hdeposit
  obtain ⟨haccepted, hqueued⟩ := addL1TransactionInternal_ok.mp h
  exact ⟨of_decide_eq_true (require_ok.mp htoken), of_decide_eq_true (require_ok.mp hload), haccepted, balanceOf,
    hdeposited, hqueued⟩

theorem forgeBatch_ok [Libraries] {w : World} {s s' : Hermez} {msg : Msg} {args : ForgeBatchArgs}
    {events : List Event} (h : s.forgeBatch w msg args = .ok (s', events)) :
    ∃ input, constructCircuitInput w s args = .ok input ∧
      w.verifyProof args.verifierIdx.toNat args.proof input = true ∧
      s' = ((s.updateForged args).clearIfL1Batch msg args.l1Batch).1 ∧
      events = [.forgeBatch s'.lastForgedBatch ((s.updateForged args).clearIfL1Batch msg args.l1Batch).2] := by
  obtain ⟨_, -, h⟩ := except_bind_ok.mp h
  obtain ⟨_, -, h⟩ := except_bind_ok.mp h
  obtain ⟨_, -, h⟩ := except_bind_ok.mp h
  obtain ⟨input, hinput, h⟩ := except_bind_ok.mp h
  obtain ⟨_, hproof, h⟩ := except_bind_ok.mp h
  obtain ⟨_, -, h⟩ := except_bind_ok.mp h
  cases h
  exact ⟨input, hinput, require_ok.mp hproof, rfl, rfl⟩

/-- The transfer by which a withdrawal is paid. -/
def payout (token owner : Address) (amount : Nat) (instantWithdraw : Bool) : Event :=
  if instantWithdraw then .transfer token owner amount else .delayerDeposit owner token amount

theorem filterMap_payout {α : Type} {f : Event → Option α} {token owner : Address} {amount : Nat}
    {events : List Event} (htransfer : ∀ token recipient value, f (.transfer token recipient value) = none)
    (hdeposit : ∀ owner token amount, f (.delayerDeposit owner token amount) = none) :
    (payout token owner amount instantWithdraw :: events).filterMap f = events.filterMap f := by
  apply List.filterMap_cons_none
  cases instantWithdraw with
  | true => exact htransfer _ _ _
  | false => exact hdeposit _ _ _

section Payout

variable {w : World} {s s' : Hermez} {msg : Msg} {token : Address} {value : Nat} {events : List Event}

theorem safeTransfer_ok (h : s.safeTransfer w msg token msg.sender value = .ok (s', events)) :
    value ≤ s.balanceOf token ∧ s' = s.spend token value ∧ events = [payout token msg.sender value true] := by
  rw [safeTransfer] at h
  split_ifs at h with htoken
  all_goals
    obtain ⟨hsent, h⟩ := require_bind_ok.mp h
    cases h
  · subst htoken
    exact ⟨(of_decide_eq_true hsent).1, rfl, rfl⟩
  · exact ⟨(of_decide_eq_true hsent).1, rfl, rfl⟩

theorem depositInDelayer_ok {owner : Address} (h : s.depositInDelayer w owner token value = .ok (s', events)) :
    value ≤ s.balanceOf token ∧ s' = s.spend token value ∧ events = [payout token owner value false] := by
  obtain ⟨_, -, h⟩ := except_bind_ok.mp h
  obtain ⟨hfunds, h⟩ := require_bind_ok.mp h
  cases h
  exact ⟨of_decide_eq_true hfunds, rfl, rfl⟩

/-- The token a withdrawal pays in.  A delayed withdrawal of ether does not look its token up. -/
def PaidIn (s : Hermez) (tokenID : TokenID) (token : Address) : Prop :=
  s.tokenList[tokenID.toNat]? = some token ∨ tokenID = 0 ∧ token = 0

theorem withdrawFunds_ok {amount : BitVec 192}
    (h : s.withdrawFunds w msg amount tokenID instantWithdraw = .ok (s', events)) :
    ∃ token, PaidIn s tokenID token ∧ amount.toNat ≤ s.balanceOf token ∧ s' = s.spend token amount.toNat ∧
      events = [payout token msg.sender amount.toNat instantWithdraw] := by
  rw [withdrawFunds] at h
  split_ifs at h with hinstant hether
  · obtain ⟨token, htoken, h⟩ := except_bind_ok.mp h
    rw [hinstant]
    exact ⟨token, .inl (tokenAddress_ok.mp htoken), safeTransfer_ok h⟩
  · rw [Bool.eq_false_of_not_eq_true hinstant]
    exact ⟨0, .inr ⟨hether, rfl⟩, depositInDelayer_ok h⟩
  · obtain ⟨token, htoken, h⟩ := except_bind_ok.mp h
    obtain ⟨-, h⟩ := require_bind_ok.mp h
    rw [Bool.eq_false_of_not_eq_true hinstant]
    exact ⟨token, .inl (tokenAddress_ok.mp htoken), depositInDelayer_ok h⟩

end Payout

end Hermez

/-! ### The steps of the contract -/

/-- A withdrawal, by whichever of the two proofs. -/
structure Withdrawal where
  tokenID : TokenID
  amount : BitVec 192
  numExitRoot : BitVec 32
  idx : BitVec 48
  instantWithdraw : Bool

namespace Hermez

variable [Libraries]

/-- The proof a withdrawal came with. -/
inductive WithdrawalProof (s : Hermez) (tx : Transaction) (wd : Withdrawal) : Prop
  | merkle (babyPubKey : BitVec 256) (siblings : List Nat)
      (hcall : tx.call = .withdrawMerkleProof wd.tokenID wd.amount babyPubKey wd.numExitRoot siblings wd.idx
        wd.instantWithdraw)
      (hproof : smtVerifier (s.exitRootsMap wd.numExitRoot) siblings wd.idx.toNat (Libraries.poseidon
        (buildTreeState wd.tokenID 0 (wd.amount.setWidth 256) babyPubKey tx.msg.sender)) = true)
  | circuit (proof : Proof)
      (hcall : tx.call = .withdrawCircuit proof wd.tokenID wd.amount wd.numExitRoot wd.idx wd.instantWithdraw)
      (hproof : tx.world.verifyWithdrawProof proof (withdrawCircuitInput (s.exitRootsMap wd.numExitRoot)
        tx.msg.sender wd.tokenID wd.amount wd.idx) = true)

/-- Everything a successful call can do. -/
inductive Step (s : Hermez) (tx : Transaction) : Hermez → List Event → Prop
  | queued (args : L1UserTxArgs) (balanceOf : Address → Nat) (hcall : tx.call = .addL1Transaction args)
      (htoken : args.tokenID.toNat < s.tokenList.length) (hload : float2Fix args.loadAmountF < limitLoadAmount)
      (haccepted : AcceptedArgs s.lastIdx { args with ethAddress := tx.msg.sender })
      (hdeposited : Deposited s args.tokenID (float2Fix args.loadAmountF) balanceOf) :
      Step s tx (({ s with balanceOf := balanceOf } : Hermez).l1QueueAddTx { args with ethAddress := tx.msg.sender }).1
        (({ s with balanceOf := balanceOf } : Hermez).l1QueueAddTx { args with ethAddress := tx.msg.sender }).2
  | forged (args : ForgeBatchArgs) (input : Nat) (hcall : tx.call = .forgeBatch args)
      (hinput : constructCircuitInput tx.world s args = .ok input)
      (hproof : tx.world.verifyProof args.verifierIdx.toNat args.proof input = true) :
      Step s tx ((s.updateForged args).clearIfL1Batch tx.msg args.l1Batch).1
        [.forgeBatch ((s.updateForged args).clearIfL1Batch tx.msg args.l1Batch).1.lastForgedBatch
          ((s.updateForged args).clearIfL1Batch tx.msg args.l1Batch).2]
  | withdrawn (wd : Withdrawal) (token : Address) (hproof : WithdrawalProof s tx wd)
      (htoken : PaidIn s wd.tokenID token) (hfunds : wd.amount.toNat ≤ s.balanceOf token)
      (hunused : s.exitNullifierMap wd.numExitRoot wd.idx = false) :
      Step s tx ((s.setNullifier wd.numExitRoot wd.idx).spend token wd.amount.toNat)
        [payout token tx.msg.sender wd.amount.toNat wd.instantWithdraw,
          .withdraw wd.idx wd.numExitRoot wd.instantWithdraw]
  | tokenAdded (tokenAddress : Address) (hcall : tx.call = .addToken tokenAddress)
      (hroom : s.tokenList.length < limitTokens) (hne : tokenAddress ≠ 0) (hnew : s.tokenMap tokenAddress = 0) :
      Step s tx
        { s with
          tokenList := s.tokenList ++ [tokenAddress]
          tokenMap := Function.update s.tokenMap tokenAddress s.tokenList.length }
        [.addToken tokenAddress (BitVec.ofNat 32 s.tokenList.length)]

variable {s s' : Hermez} {tx : Transaction} {events : List Event}

theorem withdrawMerkleProof_step {amount : BitVec 192} {babyPubKey : BitVec 256}
    {numExitRoot : BitVec 32} {siblings : List Nat} {idx : BitVec 48}
    (hcall : tx.call = .withdrawMerkleProof tokenID amount babyPubKey numExitRoot siblings idx instantWithdraw)
    (h : s.withdrawMerkleProof tx.world tx.msg tokenID amount babyPubKey numExitRoot siblings idx instantWithdraw =
      .ok (s', events)) : Step s tx s' events := by
  obtain ⟨_, -, h⟩ := except_bind_ok.mp h
  obtain ⟨_, hunused, h⟩ := except_bind_ok.mp h
  obtain ⟨_, hproof, h⟩ := except_bind_ok.mp h
  obtain ⟨⟨t, transfers⟩, hfunds, h⟩ := except_bind_ok.mp h
  obtain ⟨token, htoken, hbalance, rfl, rfl⟩ := withdrawFunds_ok hfunds
  cases h
  exact .withdrawn ⟨tokenID, amount, numExitRoot, idx, instantWithdraw⟩ token
    (.merkle babyPubKey siblings hcall (require_ok.mp hproof)) htoken hbalance
    (of_decide_eq_true (require_ok.mp hunused))

theorem withdrawCircuit_step {proof : Proof} {amount : BitVec 192} {numExitRoot : BitVec 32} {idx : BitVec 48}
    (hcall : tx.call = .withdrawCircuit proof tokenID amount numExitRoot idx instantWithdraw)
    (h : s.withdrawCircuit tx.world tx.msg proof tokenID amount numExitRoot idx instantWithdraw =
      .ok (s', events)) : Step s tx s' events := by
  obtain ⟨_, -, h⟩ := except_bind_ok.mp h
  obtain ⟨_, hunused, h⟩ := except_bind_ok.mp h
  obtain ⟨_, hproof, h⟩ := except_bind_ok.mp h
  obtain ⟨⟨t, transfers⟩, hfunds, h⟩ := except_bind_ok.mp h
  obtain ⟨token, htoken, hbalance, rfl, rfl⟩ := withdrawFunds_ok hfunds
  cases h
  exact .withdrawn ⟨tokenID, amount, numExitRoot, idx, instantWithdraw⟩ token
    (.circuit proof hcall (require_ok.mp hproof)) htoken hbalance (of_decide_eq_true (require_ok.mp hunused))

theorem addToken_step {tokenAddress : Address} (hcall : tx.call = .addToken tokenAddress)
    (h : s.addToken tx.world tx.msg tokenAddress = .ok (s', events)) : Step s tx s' events := by
  obtain ⟨_, -, h⟩ := except_bind_ok.mp h
  obtain ⟨_, hroom, h⟩ := except_bind_ok.mp h
  obtain ⟨_, hne, h⟩ := except_bind_ok.mp h
  obtain ⟨_, hnew, h⟩ := except_bind_ok.mp h
  obtain ⟨_, -, h⟩ := except_bind_ok.mp h
  cases h
  exact .tokenAdded tokenAddress hcall (of_decide_eq_true (require_ok.mp hroom))
    (of_decide_eq_true (require_ok.mp hne)) (of_decide_eq_true (require_ok.mp hnew))

theorem exec_step (h : s.exec tx = .ok (s', events)) : Step s tx s' events := by
  rw [exec] at h
  cases hcall : tx.call with
  | addL1Transaction args =>
    rw [hcall] at h
    obtain ⟨htoken, hload, haccepted, balanceOf, hdeposited, hqueued⟩ := addL1Transaction_ok h
    have hstep := Step.queued args balanceOf hcall htoken hload haccepted hdeposited
    rwa [hqueued] at hstep
  | forgeBatch args =>
    rw [hcall] at h
    obtain ⟨input, hinput, hproof, rfl, rfl⟩ := forgeBatch_ok h
    exact .forged args input hcall hinput hproof
  | withdrawMerkleProof => rw [hcall] at h; exact withdrawMerkleProof_step hcall h
  | withdrawCircuit => rw [hcall] at h; exact withdrawCircuit_step hcall h
  | addToken => rw [hcall] at h; exact addToken_step hcall h

theorem exec_forgeBatch {args : ForgeBatchArgs} (hcall : tx.call = .forgeBatch args) (h : s.exec tx = .ok (s', events)) :
    s' = ((s.updateForged args).clearIfL1Batch tx.msg args.l1Batch).1 ∧
      ∃ batch l1UserTxsLen, events = [.forgeBatch batch l1UserTxsLen] := by
  rw [exec, hcall] at h
  obtain ⟨input, -, -, hstate, hevents⟩ := forgeBatch_ok h
  exact ⟨hstate, _, _, hevents⟩

end Hermez

/-- The answers of contracts that let every call through. -/
def openWorld : World where
  thisAddress := 1
  chainID := 1
  canForge _ _ := true
  auctionForge _ := true
  verifyProof _ _ _ := true
  verifyWithdrawProof _ _ := true
  processInstantWithdrawal _ _ := true
  transferFrom _ _ amount := some amount
  sendEther _ _ := true
  transfer _ _ _ := true
  approve _ _ := true
  delayerDeposit _ _ _ := .ok ()
  hermezGovernanceAddress := 0
  payFeeAddToken _ := true
  totalSupply _ := 1

/-- An account creation that the contract of a fresh rollup queues. -/
def createAccountArgs : L1UserTxArgs :=
  { ethAddress := 7, babyPubKey := 1, fromIdx := 0, loadAmountF := 0, amountF := 0, tokenID := 0, toIdx := 0 }

/-- An L1 batch without transactions. -/
def forgeEmptyArgs : Hermez.ForgeBatchArgs :=
  { newLastIdx := 255, newStRoot := 0, newExitRoot := 0, encodedL1CoordinatorTx := [], l1L2TxsData := [],
    feeIdxCoordinator := [], verifierIdx := 0, l1Batch := true, proof := ⟨[], [], []⟩ }

end HermezRollup
