import HermezRollup.SyncResets

/-! The HistoryDB and the StateDB stay in step.  A block is processed in the StateDB batch by batch before
the HistoryDB stores it, so a failure in between leaves checkpoints that the HistoryDB knows nothing about.
They all have numbers above its last batch, and a reset deletes them.

A reset that fails is remembered and tried again by the next call, unless it fails before it starts, in the
query for the last block. -/

namespace HermezRollup

open Fallible Checkpoints

variable {data : BlockData} {batches : List BatchData}

namespace HistoryDB

variable {db db' : HistoryDB}

/-- What a new block adds to the tables. -/
structure BlockStored (db : HistoryDB) (data : BlockData) (db' : HistoryDB) : Prop where
  blocks : db'.blocks = db.blocks ++ [data.block]
  batches : db'.batches = db.batches ++ data.batches.map BatchData.batch
  rollupVars : db'.rollupVars = db.rollupVars ++ data.rollupVars.toList
  auctionVars : db'.auctionVars = db.auctionVars ++ data.auction.vars.toList
  wDelayerVars : db'.wDelayerVars = db.wDelayerVars ++ data.wDelayerVars.toList

theorem foldlM_addBatchData (h : batches.foldlM (addBatchData data) db = .ok db') :
    db'.batches = db.batches ++ batches.map BatchData.batch ∧ db'.blocks = db.blocks ∧ db'.rollupVars = db.rollupVars ∧
      db'.auctionVars = db.auctionVars ∧ db'.wDelayerVars = db.wDelayerVars := by
  induction batches generalizing db with
  | nil =>
    cases h
    simp
  | cons batchData batches ih =>
    rw [List.foldlM_cons] at h
    obtain ⟨db₁, hone, hrest⟩ := except_bind_ok.mp h
    obtain ⟨db₂, hbatch, hone⟩ := except_bind_ok.mp hone
    rw [addBatch] at hbatch
    split at hbatch
    · cases hbatch
    · cases hbatch
      cases hone
      obtain ⟨hbatches, hsame⟩ := ih hrest
      refine ⟨hbatches.trans ?_, hsame⟩
      rw [addL1Txs, List.map_cons, List.append_assoc]
      rfl

theorem addBlockSCData_ok (h : db.addBlockSCData data = .ok db') : db.BlockStored data db' := by
  rw [addBlockSCData] at h
  split at h
  · cases h
  · obtain ⟨db₁, hfold, h⟩ := except_bind_ok.mp h
    obtain ⟨hbatches, hblocks, hrollup, hauction, hwDelayer⟩ := foldlM_addBatchData hfold
    cases h
    refine ⟨hblocks, hbatches, ?_, ?_, ?_⟩
    · exact congrArg (· ++ data.rollupVars.toList) hrollup
    · exact congrArg (· ++ data.auction.vars.toList) hauction
    · exact congrArg (· ++ data.wDelayerVars.toList) hwDelayer

theorem getLast?_append_toList {α : Type} {l : List α} {a : α} (h : l.getLast? = some a) (o : Option α) :
    (l ++ o.toList).getLast? = some (o.getD a) := by
  cases o with
  | none => simpa using h
  | some b => simp

theorem BlockStored.getLastBatch (h : db.BlockStored data db') :
    db'.getLastBatch = (data.batches.getLast?.map BatchData.batch).or db.getLastBatch := by
  rw [HistoryDB.getLastBatch, h.batches, List.getLast?_append, List.getLast?_map]
  rfl

theorem BlockStored.getSCVars {vars : ContractVariables} (h : db.BlockStored data db')
    (hvars : db.getSCVars = some vars) : db'.getSCVars = some (vars.update data.vars) := by
  obtain ⟨hrollup, hauction, hwDelayer⟩ := getSCVars_some.mp hvars
  rw [getSCVars_some, h.rollupVars, h.auctionVars, h.wDelayerVars]
  exact ⟨getLast?_append_toList hrollup _, getLast?_append_toList hauction _, getLast?_append_toList hwDelayer _⟩

end HistoryDB

namespace Synchronizer

variable {σ ι : Type} {logic : StateLogic σ ι} {cfg : SyncConfig} {s s' : Synchronizer σ}

/-- The StateDB has at least the batches of the HistoryDB. -/
def Ahead (s : Synchronizer σ) : Prop :=
  s.historyDB.lastBatchNum ≤ s.stateDB.current.batchNum

theorem InStep.ahead (h : InStep logic s) : Ahead s :=
  h.batchNum.ge

/-! ### A new block -/

/-- What processing leaves alone until the block is stored. -/
structure Processing (s s' : Synchronizer σ) : Prop where
  historyDB : s'.historyDB = s.historyDB
  resetStateFailed : s'.resetStateFailed = s.resetStateFailed
  batchNum : s.stateDB.current.batchNum ≤ s'.stateDB.current.batchNum
  old : ∀ n ≤ s.stateDB.current.batchNum, s'.stateDB.checkpoints n = s.stateDB.checkpoints n

theorem Processing.refl (s : Synchronizer σ) : Processing s s :=
  ⟨rfl, rfl, le_rfl, fun _ _ => rfl⟩

theorem Processing.trans {s'' : Synchronizer σ} (h : Processing s s') (h' : Processing s' s'') : Processing s s'' where
  historyDB := h'.historyDB.trans h.historyDB
  resetStateFailed := h'.resetStateFailed.trans h.resetStateFailed
  batchNum := h.batchNum.trans h'.batchNum
  old := fun n hn => (h'.old n (hn.trans h.batchNum)).trans (h.old n hn)

theorem Processing.ahead (h : Processing s s') (hahead : Ahead s) : Ahead s' := by
  rw [Ahead, h.historyDB]
  exact hahead.trans h.batchNum

theorem Processing.rooted (h : Processing s s') (hahead : Ahead s) (hrooted : Rooted logic s) : Rooted logic s' := by
  refine ⟨?_, ?_, ?_⟩
  · rw [h.historyDB]
    exact hrooted.positive
  · rw [h.historyDB]
    exact hrooted.ascending
  · intro batch hmem c hc
    rw [h.historyDB] at hmem
    rw [h.old _ ((hrooted.le_last hmem).trans hahead)] at hc
    exact hrooted.roots batch hmem c hc

/-- Batches are processed: numbers follow the current one, and each batch has a checkpoint with its root. -/
structure Synced (logic : StateLogic σ ι) (s : Synchronizer σ) (batches : List BatchData) (s' : Synchronizer σ) : Prop
    extends Processing s s' where
  vars : s'.vars = s.vars
  numbers : batches.map (fun data => data.batch.batchNum) = List.range' (s.stateDB.current.batchNum + 1) batches.length
  current : s'.stateDB.current.batchNum = s.stateDB.current.batchNum + batches.length
  new : ∀ data ∈ batches, ∃ c, s'.stateDB.checkpoints data.batch.batchNum = some c ∧ c.batchNum = data.batch.batchNum ∧
    logic.root c.contents = data.batch.stateRoot
  last : ∀ data, batches.getLast? = some data → logic.root s'.stateDB.current.contents = data.batch.stateRoot
  none : batches = [] → s'.stateDB = s.stateDB

theorem Synced.nil (s : Synchronizer σ) : Synced logic s [] s where
  toProcessing := .refl s
  vars := rfl
  numbers := rfl
  current := rfl
  new := fun _ h => nomatch h
  last := fun _ h => nomatch h
  none := fun _ => rfl

theorem Synced.one {data : BatchData} (h : Synced logic s [data] s') :
    data.batch.batchNum = s.stateDB.current.batchNum + 1 ∧ s'.stateDB.current.batchNum = s.stateDB.current.batchNum + 1 :=
  ⟨List.singleton_inj.mp h.numbers, h.current⟩

theorem Synced.cons {s'' : Synchronizer σ} {data : BatchData} (h : Synced logic s [data] s')
    (h' : Synced logic s' batches s'') : Synced logic s (data :: batches) s'' where
  toProcessing := h.toProcessing.trans h'.toProcessing
  vars := h'.vars.trans h.vars
  numbers := by
    rw [List.map_cons, h'.numbers, h.one.1, h.one.2, List.length_cons, List.range'_succ]
  current := by
    rw [h'.current, h.one.2, List.length_cons]
    omega
  new := by
    intro data' hmem
    rcases List.mem_cons.mp hmem with rfl | hmem
    · obtain ⟨c, hc, hnum, hroot⟩ := h.new data' List.mem_cons_self
      refine ⟨c, ?_, hnum, hroot⟩
      rw [h'.old _ (h.one.1.trans h.one.2.symm).le, hc]
    · exact h'.new data' hmem
  last := by
    intro data' hlast
    cases batches with
    | nil =>
      rw [h'.none rfl]
      exact h.last data' hlast
    | cons first rest =>
      rw [List.getLast?_cons_cons] at hlast
      exact h'.last data' hlast
  none := fun h => nomatch h

/-- The state after `ProcessTxs`, with the contents it left. -/
def checkpointed (s : Synchronizer σ) (contents : σ) : Synchronizer σ :=
  let current : AtBatch σ := ⟨s.stateDB.current.batchNum + 1, contents⟩
  { s with stateDB := ⟨current, Function.update s.stateDB.checkpoints current.batchNum (some current)⟩ }

theorem checkpointed_old (s : Synchronizer σ) (contents : σ) {n : Nat} (hn : n ≤ s.stateDB.current.batchNum) :
    (s.checkpointed contents).stateDB.checkpoints n = s.stateDB.checkpoints n :=
  Function.update_of_ne (Nat.ne_of_lt (Nat.lt_succ_of_le hn)) _ _

theorem ends_processTxs (fault : Option (CheckpointFault σ)) (input : ι) (l1UserTxs : List L1Tx) (s : Synchronizer σ) :
    Ends (processTxs logic fault input l1UserTxs) s (fun _ s' => ∃ contents, s' = s.checkpointed contents) (Processing s) := by
  have hold : ∀ (left : Option (AtBatch σ)), ∀ n ≤ s.stateDB.current.batchNum,
      Function.update s.stateDB.checkpoints (s.stateDB.current.batchNum + 1) left n = s.stateDB.checkpoints n := by
    intro left n hn
    exact Function.update_of_ne (by omega) _ _
  rw [processTxs]
  refine ends_get_bind ?_
  generalize logic.processTxs input l1UserTxs s.stateDB.current.contents = result
  refine ends_modify_bind (ends_answer_bind ?_ fun _ _ => ?_)
  · intro _ _
    exact ⟨rfl, rfl, le_rfl, fun _ _ => rfl⟩
  · cases fault with
    | none => exact ⟨result.2, rfl⟩
    | some f => exact ⟨rfl, rfl, Nat.le_succ _, hold f.left⟩

theorem Synced.checkpointed {contents : σ} {data : BatchData} (hnum : data.batch.batchNum = s.stateDB.current.batchNum + 1)
    (hroot : logic.root contents = data.batch.stateRoot) : Synced logic s [data] (s.checkpointed contents) where
  historyDB := rfl
  resetStateFailed := rfl
  batchNum := Nat.le_succ _
  old := fun _ hn => s.checkpointed_old contents hn
  vars := rfl
  numbers := congrArg (fun n => [n]) hnum
  current := rfl
  new := by
    intro data' hmem
    rw [List.mem_singleton] at hmem
    subst hmem
    rw [hnum]
    exact ⟨_, Function.update_self _ _ _, rfl, hroot⟩
  last := by
    intro data' hlast
    cases hlast
    exact hroot
  none := fun h => nomatch h

theorem ends_batchL1UserTxs (l1UserTxs : List L1Tx) (nextForgeL1TxsNum : Nat) (event : ForgeBatchEvent σ ι) (l1Batch : Bool)
    (s : Synchronizer σ) :
    Ends (batchL1UserTxs l1UserTxs nextForgeL1TxsNum event l1Batch) s (fun _ s' => s' = s) (Processing s) := by
  rw [batchL1UserTxs]
  split
  · exact ends_check_bind (fun _ _ => .refl s) fun _ => ends_get_bind (Ends.pure rfl)
  · exact Ends.pure rfl

theorem ends_syncBatch (blockNum : Nat) (l1UserTxs : List L1Tx) (nextForgeL1TxsNum : Nat) (event : ForgeBatchEvent σ ι)
    (s : Synchronizer σ) :
    Ends (syncBatch logic cfg blockNum l1UserTxs nextForgeL1TxsNum event) s
      (fun r => Synced logic s [r.1]) (Processing s) := by
  rw [syncBatch]
  refine ends_answer_bind (fun _ _ => .refl s) fun args _ => ?_
  refine Ends.bind (ends_batchL1UserTxs l1UserTxs nextForgeL1TxsNum event args.l1Batch s) ?_
  rintro queue s₁ rfl
  refine ends_check_bind (fun _ _ => .refl _) fun _ => Ends.bind (ends_processTxs event.makeCheckpoint args.input queue _) ?_
  rintro _ _ ⟨contents, rfl⟩
  refine ends_get_bind ?_
  have hprocessing : Processing s₁ (s₁.checkpointed contents) :=
    ⟨rfl, rfl, Nat.le_succ _, fun _ hn => s₁.checkpointed_old contents hn⟩
  dsimp only
  split
  · exact Ends.throw hprocessing
  next hnum =>
    split
    · exact Ends.throw hprocessing
    next hroot => exact Ends.pure (.checkpointed (not_not.mp hnum).symm (not_not.mp hroot))

theorem ends_syncBatches (blockNum : Nat) (l1UserTxs : List L1Tx) (nextForgeL1TxsNum : Nat)
    (events : List (ForgeBatchEvent σ ι)) (s : Synchronizer σ) :
    Ends (syncBatches logic cfg blockNum l1UserTxs nextForgeL1TxsNum events) s (Synced logic s) (Processing s) := by
  induction events generalizing nextForgeL1TxsNum s with
  | nil => exact Ends.pure (.nil s)
  | cons event events ih =>
    rw [syncBatches]
    refine Ends.bind (ends_syncBatch blockNum l1UserTxs nextForgeL1TxsNum event s) ?_
    rintro ⟨data, next⟩ s₁ hone
    refine Ends.bind ((ih next s₁).mono (fun _ _ h => h) fun _ h => hone.toProcessing.trans h) ?_
    intro batches s₂ hrest
    exact Ends.pure (hone.cons hrest)

/-- Only the variables change. -/
def OnlyVars (s s' : Synchronizer σ) : Prop :=
  ∃ vars, s' = { s with vars := vars }

theorem OnlyVars.processing (h : OnlyVars s s') : Processing s s' := by
  obtain ⟨vars, rfl⟩ := h
  exact ⟨rfl, rfl, le_rfl, fun _ _ => rfl⟩

theorem ends_rollupSync (answers : BlockAnswers σ ι) (blockNum : Nat) (s : Synchronizer σ) :
    Ends (rollupSync logic cfg answers blockNum) s
      (fun r s' => ∃ s₁, Synced logic s r.2.1 s₁ ∧
        s' = { s₁ with vars := { s.vars with rollup := r.2.2.1.getD s.vars.rollup } }) (Processing s) := by
  rw [rollupSync]
  refine ends_answer_bind (fun _ _ => .refl s) fun events _ => ?_
  cases events with
  | none => exact Ends.pure ⟨s, .nil s, rfl⟩
  | some events =>
    refine ends_check_bind (fun _ _ => .refl s) fun _ => ends_get_bind (ends_answer_bind (fun _ _ => .refl s) ?_)
    intro l1UserTxs _
    refine Ends.bind (ends_syncBatches blockNum l1UserTxs _ events.forgeBatch s) ?_
    intro batches s₁ hsynced
    refine ends_check_bind (fun _ _ => hsynced.toProcessing) fun _ => ends_modify_bind (ends_get_bind (Ends.pure ?_))
    refine ⟨s₁, hsynced, ?_⟩
    rw [hsynced.vars]
    cases events.vars with
    | nil => rfl
    | cons event rest => rfl

/-! The variables of the other contracts change only when an event says so. -/

theorem foldl_idle {α β : Type} {f : α → β → α} {updates : β → Bool} (hidle : ∀ a b, updates b = false → f a b = a)
    {events : List β} (h : events.any updates = false) (a : α) : events.foldl f a = a := by
  induction events with
  | nil => rfl
  | cons event events ih =>
    rw [List.any_cons, Bool.or_eq_false_iff] at h
    rw [List.foldl_cons, hidle a event h.1, ih h.2]

theorem applyParameters_idle {events : List AuctionEvent} (h : events.any AuctionEvent.updatesVars = false)
    (vars : AuctionVariables) : vars.applyParameters events = vars := by
  have hidle (f : AuctionVariables → AuctionEvent → AuctionVariables)
      (hf : ∀ vars event, event.updatesVars = false → f vars event = vars) : ∀ vars, events.foldl f vars = vars :=
    fun vars => foldl_idle hf h vars
  rw [AuctionVariables.applyParameters]
  rw [hidle .applySlotDeadline, hidle .applyClosedAuctionSlots, hidle .applyOutbidding, hidle .applyDonationAddress,
    hidle .applyBootCoordinator, hidle .applyOpenAuctionSlots, hidle .applyAllocationRatio]
  all_goals
    intro vars event hevent
    cases event <;> first | rfl | cases hevent

theorem wDelayerVars_idle {events : List WDelayerEvent} (h : events.any WDelayerVars.updatesVars = false)
    (blockNum : Nat) (vars : WDelayerVariables) : WDelayerVars.apply blockNum vars events = vars := by
  have hidle (f : WDelayerVariables → WDelayerEvent → WDelayerVariables)
      (hf : ∀ vars event, WDelayerVars.updatesVars event = false → f vars event = vars) : ∀ vars, events.foldl f vars = vars :=
    fun vars => foldl_idle hf h vars
  rw [WDelayerVars.apply, h]
  rw [hidle (WDelayerVars.applyEmergencyMode blockNum), hidle WDelayerVars.applyWithdrawalDelay,
    hidle WDelayerVars.applyEmergencyCouncil, hidle WDelayerVars.applyGovernance]
  · rfl
  all_goals
    intro vars event hevent
    cases event <;> first | rfl | cases hevent

theorem ends_applyDefaultSlotSetBids (slotNum : Int) (events : List AuctionEvent) (s : Synchronizer σ) :
    Ends (applyDefaultSlotSetBids slotNum events) s
      (fun _ s' => ∃ auction, events.foldlM (AuctionVariables.applyDefaultSlotSetBid slotNum) s.vars.auction = .ok auction ∧
        s' = { s with vars := { s.vars with auction := auction } }) (OnlyVars s) := by
  induction events generalizing s with
  | nil => exact Ends.pure ⟨_, rfl, rfl⟩
  | cons event events ih =>
    rw [applyDefaultSlotSetBids]
    refine ends_fromState_bind (fun _ _ => ⟨_, rfl⟩) fun auction hauction => ends_modify_bind ?_
    refine (ih _).mono ?_ ?_
    · rintro _ s' ⟨auction', hrest, rfl⟩
      refine ⟨auction', ?_, rfl⟩
      rw [List.foldlM_cons, hauction]
      exact hrest
    · rintro s' ⟨vars, rfl⟩
      exact ⟨vars, rfl⟩

theorem ends_syncAuction (answers : BlockAnswers σ ι) (blockNum : Nat) (s : Synchronizer σ) :
    Ends (syncAuction cfg answers blockNum) s
      (fun data s' => ∃ events auction, auctionSync cfg.auction s.vars.auction blockNum events = .ok (auction, data) ∧
        s' = { s with vars := { s.vars with auction := auction } }) (OnlyVars s) := by
  rw [syncAuction]
  refine ends_answer_bind (fun _ _ => ⟨_, rfl⟩) fun events _ => ends_modify_bind ?_
  refine Ends.bind ((ends_applyDefaultSlotSetBids (cfg.auction.slotNum blockNum) events _).mono (fun _ _ h => h) ?_) ?_
  · rintro s' ⟨vars, rfl⟩
    exact ⟨vars, rfl⟩
  · rintro _ s₁ ⟨auction, hfold, rfl⟩
    refine ends_modify_bind (ends_get_bind (Ends.pure ⟨events, _, ?_, rfl⟩))
    rw [auctionSync, hfold]
    rfl

theorem defaultSlotSetBids_idle {events : List AuctionEvent} (h : events.any AuctionEvent.updatesVars = false)
    (slotNum : Int) (vars : AuctionVariables) :
    events.foldlM (AuctionVariables.applyDefaultSlotSetBid slotNum) vars = .ok vars := by
  induction events with
  | nil => rfl
  | cons event events ih =>
    rw [List.any_cons, Bool.or_eq_false_iff] at h
    have hidle : AuctionVariables.applyDefaultSlotSetBid slotNum vars event = .ok vars := by
      cases event <;> first | rfl | cases h.1
    rw [List.foldlM_cons, hidle]
    exact ih h.2

theorem auctionSync_vars {c : AuctionConstants} {vars vars' : AuctionVariables} {blockNum : Int}
    {events : List AuctionEvent} {data : AuctionData} (h : auctionSync c vars blockNum events = .ok (vars', data)) :
    vars' = data.vars.getD vars := by
  obtain ⟨auction, hfold, h⟩ := except_bind_ok.mp h
  cases h
  cases hupdates : events.any AuctionEvent.updatesVars with
  | true => rfl
  | false =>
    rw [applyParameters_idle hupdates, defaultSlotSetBids_idle hupdates] at hfold
    cases hfold
    rfl

theorem ends_wdelayerSync (answers : BlockAnswers σ ι) (blockNum : Nat) (s : Synchronizer σ) :
    Ends (wdelayerSync answers blockNum) s
      (fun r s' => s' = { s with vars := { s.vars with wDelayer := r.2.getD s.vars.wDelayer } }) (OnlyVars s) := by
  rw [wdelayerSync]
  refine ends_answer_bind (fun _ _ => ⟨_, rfl⟩) fun events _ => ends_modify_bind (ends_get_bind (Ends.pure ?_))
  cases hupdates : events.any WDelayerVars.updatesVars with
  | true => rfl
  | false =>
    rw [wDelayerVars_idle hupdates]
    rfl

/-- A block is gathered: its batches are processed and its changes are in the variables. -/
structure Gathered (logic : StateLogic σ ι) (s : Synchronizer σ) (block : Block) (data : BlockData) (s' : Synchronizer σ) :
    Prop where
  block : data.block = block
  synced : ∃ s₁, Synced logic s data.batches s₁ ∧ s' = { s₁ with vars := s.vars.update data.vars }

theorem ends_gatherBlock (answers : BlockAnswers σ ι) (block : Block) (s : Synchronizer σ) :
    Ends (gatherBlock logic cfg answers block) s (Gathered logic s block) (Processing s) := by
  rw [gatherBlock]
  refine Ends.bind (ends_rollupSync answers block.num s) ?_
  rintro ⟨l1UserTxs, batches, rollupVars, withdrawals⟩ _ ⟨s₁, hsynced, rfl⟩
  have hprocessing : ∀ s', OnlyVars { s₁ with vars := { s.vars with rollup := rollupVars.getD s.vars.rollup } } s' →
      Processing s s' := by
    rintro s' ⟨vars, rfl⟩
    exact hsynced.toProcessing.trans (OnlyVars.processing ⟨vars, rfl⟩)
  refine Ends.bind ((ends_syncAuction answers block.num _).mono (fun _ _ h => h) hprocessing) ?_
  rintro auction _ ⟨events, auctionVars, hauction, rfl⟩
  refine Ends.bind ((ends_wdelayerSync answers block.num _).mono (fun _ _ h => h) fun s' h => hprocessing s' ?_) ?_
  · obtain ⟨vars, rfl⟩ := h
    exact ⟨vars, rfl⟩
  · rintro ⟨deposits, wDelayerVars⟩ _ rfl
    refine ends_answer_bind (fun _ _ => hprocessing _ ⟨_, rfl⟩) fun _ _ => Ends.pure ⟨rfl, s₁, hsynced, ?_⟩
    rw [auctionSync_vars hauction]
    rfl

theorem Synced.above (h : Synced logic s batches s') {data : BatchData} (hmem : data ∈ batches) :
    s.stateDB.current.batchNum < data.batch.batchNum := by
  have hnum := List.mem_map_of_mem (f := fun data => data.batch.batchNum) hmem
  rw [h.numbers, List.mem_range'_1] at hnum
  exact hnum.1

theorem Synced.pairwise (h : Synced logic s batches s') :
    (batches.map BatchData.batch).Pairwise fun batch batch' => batch.batchNum < batch'.batchNum := by
  have hlt := List.pairwise_lt_range' (s := s.stateDB.current.batchNum + 1) (n := batches.length)
  rw [← h.numbers, List.pairwise_map] at hlt
  rw [List.pairwise_map]
  exact hlt

theorem Synced.last_num (h : Synced logic s batches s') {data : BatchData}
    (hlast : batches.getLast? = some data) : s'.stateDB.current.batchNum = data.batch.batchNum := by
  have hnum := congrArg List.getLast? h.numbers
  rw [List.getLast?_map, hlast, List.getLast?_range'] at hnum
  rw [h.current]
  split at hnum
  · cases hnum
  · have heq : data.batch.batchNum = s.stateDB.current.batchNum + 1 + batches.length - 1 := Option.some.inj hnum
    omega

theorem Gathered.stored_inStep {block : Block} {db : HistoryDB} (h : Gathered logic s block data s')
    (hinStep : InStep logic s) (hdb : s.historyDB.BlockStored data db) : InStep logic { s' with historyDB := db } := by
  obtain ⟨s₁, hsynced, rfl⟩ := h.synced
  have hlastBatch := hdb.getLastBatch
  cases hlast : data.batches.getLast? with
  | none =>
    have hnil := List.getLast?_eq_none_iff.mp hlast
    rw [hlast, Option.map_none, Option.none_or] at hlastBatch
    refine ⟨?_, ?_, hdb.getSCVars hinStep.vars⟩
    · change s₁.stateDB.current.batchNum = _
      rw [hsynced.none hnil, HistoryDB.lastBatchNum, hlastBatch]
      exact hinStep.batchNum
    · intro batch hbatch
      change logic.root s₁.stateDB.current.contents = _
      rw [hsynced.none hnil]
      exact hinStep.root batch (hlastBatch.symm.trans hbatch)
  | some batchData =>
    rw [hlast, Option.map_some, Option.some_or] at hlastBatch
    refine ⟨?_, ?_, hdb.getSCVars hinStep.vars⟩
    · rw [HistoryDB.lastBatchNum, hlastBatch]
      exact hsynced.last_num hlast
    · intro batch hbatch
      cases hlastBatch.symm.trans hbatch
      exact hsynced.last batchData hlast

theorem Gathered.stored_ahead {block : Block} {db : HistoryDB} (h : Gathered logic s block data s')
    (hahead : Ahead s) (hdb : s.historyDB.BlockStored data db) : Ahead { s' with historyDB := db } := by
  obtain ⟨s₁, hsynced, rfl⟩ := h.synced
  change db.lastBatchNum ≤ s₁.stateDB.current.batchNum
  rw [HistoryDB.lastBatchNum, hdb.getLastBatch]
  cases hlast : data.batches.getLast? with
  | none =>
    rw [Option.map_none, Option.none_or]
    exact hahead.trans hsynced.batchNum
  | some batchData => exact (hsynced.last_num hlast).ge

theorem Gathered.stored_rooted {block : Block} {db : HistoryDB} (h : Gathered logic s block data s')
    (hahead : Ahead s) (hrooted : Rooted logic s)
    (hdb : s.historyDB.BlockStored data db) : Rooted logic { s' with historyDB := db } := by
  obtain ⟨s₁, hsynced, rfl⟩ := h.synced
  have hmem : ∀ batch ∈ db.batches, batch ∈ s.historyDB.batches ∨ ∃ batchData ∈ data.batches, batchData.batch = batch := by
    intro batch hbatch
    rw [hdb.batches, List.mem_append, List.mem_map] at hbatch
    exact hbatch
  refine ⟨?_, ?_, ?_⟩
  · intro batch hbatch
    rcases hmem batch hbatch with hold | ⟨batchData, hnew, rfl⟩
    · exact hrooted.positive batch hold
    · exact (Nat.zero_le _).trans_lt (hsynced.above hnew)
  · change db.batches.Pairwise _
    rw [hdb.batches, List.pairwise_append]
    refine ⟨hrooted.ascending, hsynced.pairwise, ?_⟩
    intro batch hold batch' hnew
    obtain ⟨batchData, hmem', rfl⟩ := List.mem_map.mp hnew
    exact ((hrooted.le_last hold).trans hahead).trans_lt (hsynced.above hmem')
  · intro batch hbatch c hc
    rcases hmem batch hbatch with hold | ⟨batchData, hnew, rfl⟩
    · exact hrooted.roots batch hold c ((hsynced.old _ ((hrooted.le_last hold).trans hahead)).symm.trans hc)
    · obtain ⟨c', hc', hnum, hroot⟩ := hsynced.new batchData hnew
      cases hc'.symm.trans hc
      exact ⟨hnum, hroot⟩

structure BlockSynced (logic : StateLogic σ ι) (s : Synchronizer σ) (block : Block) (data : BlockData)
    (s' : Synchronizer σ) : Prop where
  block : data.block = block
  inStep : InStep logic s → InStep logic s'
  ahead : Ahead s'
  rooted : Rooted logic s'
  stored : s.historyDB.BlockStored data s'.historyDB
  resetStateFailed : s'.resetStateFailed = s.resetStateFailed

/-- Without the deferred reset, a failure leaves the block gathered or, if only the slots fail, stored. -/
theorem ends_syncBlock (answers : BlockAnswers σ ι) (block : Block) (hahead : Ahead s) (hrooted : Rooted logic s) :
    Ends (syncBlock logic cfg answers block) s (BlockSynced logic s block)
      fun s' => Rooted logic s' ∧ Ahead s' ∧ s'.resetStateFailed = s.resetStateFailed ∧
        (s'.historyDB = s.historyDB ∨ ¬answers.slots.Agree) := by
  rw [syncBlock]
  have hprocessing : ∀ s', Processing s s' → Rooted logic s' ∧ Ahead s' ∧ s'.resetStateFailed = s.resetStateFailed ∧
      (s'.historyDB = s.historyDB ∨ ¬answers.slots.Agree) :=
    fun s' h => ⟨h.rooted hahead hrooted, h.ahead hahead, h.resetStateFailed, .inl h.historyDB⟩
  refine Ends.bind ((ends_gatherBlock answers block s).mono (fun _ _ h => h) hprocessing) ?_
  intro data s₁ hgathered
  have hdb : s₁.historyDB = s.historyDB ∧ s₁.resetStateFailed = s.resetStateFailed := by
    obtain ⟨s₂, hsynced, rfl⟩ := hgathered.synced
    exact ⟨hsynced.historyDB, hsynced.resetStateFailed⟩
  have hgathered' : Processing s s₁ := by
    obtain ⟨s₂, hsynced, rfl⟩ := hgathered.synced
    exact hsynced.toProcessing.trans (OnlyVars.processing ⟨_, rfl⟩)
  refine Ends.bind (Q := fun _ s' => s.historyDB.BlockStored data s'.historyDB ∧ s' = { s₁ with historyDB := s'.historyDB })
    ?_ ?_
  · rw [storeBlock]
    refine ends_check_bind (fun _ _ => hprocessing s₁ hgathered') fun _ => ?_
    refine ends_fromState_bind (fun _ _ => hprocessing s₁ hgathered') fun db hstore => Ends.modify ⟨?_, rfl⟩
    rw [hdb.1] at hstore
    exact HistoryDB.addBlockSCData_ok hstore
  · rintro _ s₂ ⟨hstored, hs₂⟩
    have hinStep' := fun hinStep => hgathered.stored_inStep hinStep hstored
    have hahead' := hgathered.stored_ahead hahead hstored
    have hrooted' := hgathered.stored_rooted hahead hrooted hstored
    rw [← hs₂] at hinStep' hahead' hrooted'
    have hflag : s₂.resetStateFailed = s.resetStateFailed := by
      rw [hs₂]
      exact hdb.2
    refine ends_modify_bind (Ends.bind ((ends_updateCurrentNextSlotIfSync answers.slots false _ _).mono
      (fun _ _ h => h) ?_) ?_)
    · rintro s' ⟨⟨stats, rfl⟩, hslots⟩
      exact ⟨hrooted'.fewer rfl fun _ _ h => h, hahead', hflag, .inr hslots⟩
    · rintro _ s' ⟨stats, rfl⟩
      exact Ends.pure ⟨hgathered.block, fun h => (hinStep' h).onlyStats ⟨_, rfl⟩, hahead',
        hrooted'.fewer rfl fun _ _ h => h, hstored, hflag⟩

/-! ### A call -/

/-- The StateDB is ahead, or a reset is pending. -/
structure Sound (logic : StateLogic σ ι) (s : Synchronizer σ) : Prop where
  rooted : Rooted logic s
  ahead : s.resetStateFailed = true ∨ Ahead s

/-- The stores are in step, or a reset is pending. -/
def Exact (logic : StateLogic σ ι) (s : Synchronizer σ) : Prop :=
  s.resetStateFailed = true ∨ InStep logic s

theorem ends_withDeferredReset (answers : SyncAnswers σ ι) (block : Block) (hahead : Ahead s) (hrooted : Rooted logic s) :
    Ends (withDeferredReset logic cfg answers.deferred (syncBlock logic cfg answers.block block)) s
      (BlockSynced logic s block) fun s' => Sound logic s' ∧ (answers.deferred.getLastBlock = none → Exact logic s') ∧
        (answers.block.slots.Agree → s.historyDB.getSCVars ≠ none → s'.historyDB = s.historyDB) := by
  rw [withDeferredReset]
  refine Ends.bind (Q := fun result s' => match result with
    | .ok data => BlockSynced logic s block data s'
    | .error _ => Rooted logic s' ∧ Ahead s' ∧ (s'.historyDB = s.historyDB ∨ ¬answers.block.slots.Agree))
    (Ends.attempt ?_) ?_
  · refine (ends_syncBlock answers.block block hahead hrooted).mono (fun _ _ h => h) ?_
    rintro s' ⟨hrooted', hahead', _, hdb⟩ e
    exact ⟨hrooted', hahead', hdb⟩
  · intro result s₁ hresult
    cases result with
    | ok data => exact Ends.pure hresult
    | error e =>
      obtain ⟨hrooted₁, hahead₁, hdb⟩ := hresult
      refine Ends.bind (Q := fun _ s' => WasReset s₁ s' ∧ (s'.resetStateFailed = true ∨ Ahead s') ∧
        (answers.deferred.getLastBlock = none → Exact logic s')) (Ends.attempt ?_) ?_
      · refine (ends_resetIntermediateState answers.deferred s₁).mono ?_ ?_
        · rintro _ s' ⟨hdone, _⟩
          have hinStep := hdone.inStep hrooted₁
          exact ⟨hdone.toWasReset, .inr hinStep.ahead, fun _ => .inr hinStep⟩
        · rintro s' ⟨hreset, hfailed⟩ e'
          refine ⟨hreset, hfailed.imp_right ?_, fun hnone => hfailed.imp_right fun h => absurd hnone h.1⟩
          rintro ⟨_, rfl⟩
          exact hahead₁
      · rintro _ s' ⟨hreset, hahead', hexact⟩
        refine Ends.throw ⟨⟨hreset.rooted hrooted₁, hahead'⟩, hexact, fun hagree hvars => ?_⟩
        have hsame := hdb.resolve_right (not_not.mpr hagree)
        rw [hreset.historyDB, hsame]
        rwa [hsame]

/-- The StateDB is ahead, and no reset is pending. -/
structure Settled (logic : StateLogic σ ι) (s : Synchronizer σ) : Prop where
  ahead : Ahead s
  rooted : Rooted logic s
  resetStateFailed : s.resetStateFailed = false

theorem Settled.sound (h : Settled logic s) : Sound logic s :=
  ⟨h.rooted, .inr h.ahead⟩

theorem Settled.onlyStats (h : Settled logic s) (hstats : OnlyStats s s') : Settled logic s' := by
  obtain ⟨stats, rfl⟩ := hstats
  exact ⟨h.ahead, h.rooted.fewer rfl fun _ _ h => h, h.resetStateFailed⟩

/-- What a call without an error does to the HistoryDB. -/
def Outcome (s s' : Synchronizer σ) : SyncOutput → Prop
  | .noBlock => s'.historyDB = s.historyDB
  | .reorg _ => ∃ n, WasReset (s.reorganized n) s'
  | .block data => s.historyDB.BlockStored data s'.historyDB

/-- The reset after a reorganization of a block can fail. -/
def ReorgCanFail (cfg : SyncConfig) (answers : SyncAnswers σ ι) (uncleBlock : Block) (s : Synchronizer σ) : Prop :=
  ∃ block, findValidBlock answers.reorg s.historyDB cfg.startBlockNum uncleBlock.num none = .ok (some block) ∧
    ¬(answers.reorg.reset.Fine ∧ HasLast (s.reorganized block.num))

/-- What a call with an error leaves. -/
structure Failed (logic : StateLogic σ ι) (cfg : SyncConfig) (answers : SyncAnswers σ ι) (lastSavedBlock : Option Block)
    (s s' : Synchronizer σ) : Prop where
  sound : Sound logic s'
  exact : InStep logic s → answers.deferred.getLastBlock = none → Exact logic s'
  historyDB : s.historyDB.getSCVars ≠ none → s'.historyDB = s.historyDB ∨ ¬answers.block.slots.Agree ∨
    ∃ uncleBlock, lastSavedBlock.or s.historyDB.getLastBlock = some uncleBlock ∧ ReorgCanFail cfg answers uncleBlock s

theorem Settled.failed (h : Settled logic s) (answers : SyncAnswers σ ι) (lastSavedBlock : Option Block)
    (hstats : OnlyStats s s') : Failed logic cfg answers lastSavedBlock s s' := by
  refine ⟨(h.onlyStats hstats).sound, fun hinStep _ => .inr (hinStep.onlyStats hstats), fun _ => .inl ?_⟩
  obtain ⟨stats, rfl⟩ := hstats
  rfl

theorem ends_nextBlock (answers : SyncAnswers σ ι) (lastSavedBlock : Option Block) (s : Synchronizer σ) :
    Ends (nextBlock cfg answers lastSavedBlock) s
      (fun r s' => s' = s ∧ ∀ block, r.1 = some block → lastSavedBlock.or s.historyDB.getLastBlock = some block)
      fun s' => s' = s := by
  rw [nextBlock]
  refine Ends.bind (Q := fun r s' => s' = s ∧ ∀ block, r = some block →
    lastSavedBlock.or s.historyDB.getLastBlock = some block) ?_ ?_
  · cases lastSavedBlock with
    | some block => exact Ends.pure ⟨rfl, fun _ h => h⟩
    | none =>
      rw [getLastSavedBlock]
      refine ends_check_bind (fun _ _ => rfl) fun _ => ends_get_bind ?_
      cases hlast : s.historyDB.getLastBlock with
      | none => exact Ends.pure ⟨rfl, fun _ h => nomatch h⟩
      | some block =>
        refine Ends.pure ⟨rfl, fun block' h => ?_⟩
        split at h
        · cases h
        · exact h
  · rintro r s₁ ⟨rfl, hblock⟩
    cases r with
    | none => exact Ends.pure ⟨rfl, fun _ h => nomatch h⟩
    | some block =>
      dsimp only
      split
      · exact Ends.throw rfl
      · exact Ends.pure ⟨rfl, hblock⟩

theorem ends_updateEth (answers : SyncAnswers σ ι) (nextBlockNum : Nat) (s : Synchronizer σ) :
    Ends (updateEth cfg answers nextBlockNum) s (fun _ => OnlyStats s) (OnlyStats s) := by
  rw [updateEth]
  refine ends_get_bind ?_
  dsimp only
  split
  · exact ends_answer_bind (fun _ _ => ⟨_, rfl⟩) fun _ _ => Ends.modify ⟨_, rfl⟩
  · exact Ends.pure ⟨_, rfl⟩

theorem ends_syncEthBlock (answers : SyncAnswers σ ι) (lastSavedBlock saved : Option Block) (nextBlockNum : Nat)
    (ethBlock : EthBlock) (hsettled : Settled logic s)
    (hsaved : ∀ block, saved = some block → lastSavedBlock.or s.historyDB.getLastBlock = some block) :
    Ends (syncEthBlock logic cfg answers saved nextBlockNum ethBlock) s
      (fun out s' => Settled logic s' ∧ (InStep logic s → InStep logic s') ∧ Outcome s s' out)
      (Failed logic cfg answers lastSavedBlock s) := by
  unfold syncEthBlock
  refine Ends.bind ((ends_updateEth answers nextBlockNum s).mono (fun _ _ h => h)
    fun _ h => hsettled.failed answers lastSavedBlock h) ?_
  rintro _ s₁ hstats
  have hsettled₁ := hsettled.onlyStats hstats
  have hdb : s₁.historyDB = s.historyDB := by
    obtain ⟨stats, rfl⟩ := hstats
    rfl
  have hblock : Ends (withDeferredReset logic cfg answers.deferred (syncBlock logic cfg answers.block ethBlock.toBlock)) s₁
      (fun data s' => Settled logic s' ∧ (InStep logic s → InStep logic s') ∧ Outcome s s' (.block data))
      (Failed logic cfg answers lastSavedBlock s) := by
    refine (ends_withDeferredReset answers ethBlock.toBlock hsettled₁.ahead hsettled₁.rooted).mono ?_ ?_
    · intro data s' h
      refine ⟨⟨h.ahead, h.rooted, h.resetStateFailed.trans hsettled₁.resetStateFailed⟩,
        fun hinStep => h.inStep (hinStep.onlyStats hstats), ?_⟩
      have hstored := h.stored
      rw [hdb] at hstored
      exact hstored
    · rintro s' ⟨hsound, hexact, hhistory⟩
      refine ⟨hsound, fun _ => hexact, fun hvars => ?_⟩
      rw [hdb] at hhistory
      by_cases hagree : answers.block.slots.Agree
      · exact .inl (hhistory hagree hvars)
      · exact .inr (.inl hagree)
  cases saved with
  | none =>
    refine Ends.bind hblock ?_
    intro data s' h
    exact Ends.pure h
  | some block =>
    dsimp only
    split
    · obtain ⟨stats, rfl⟩ := hstats
      refine Ends.bind ((ends_reorg answers.reorg block _).mono (fun _ _ h => h) ?_) ?_
      · rintro s' (rfl | ⟨found, hfound, hreset, hfailed, hfine⟩)
        · exact hsettled.failed answers lastSavedBlock ⟨_, rfl⟩
        · refine ⟨⟨hreset.rooted (hsettled₁.rooted.reorganized found.num), .inl hfailed⟩, fun _ _ => .inl hfailed,
            fun _ => .inr (.inr ?_)⟩
          exact ⟨block, hsaved block rfl, found, hfound, hfine⟩
      · rintro n s' ⟨_, _, _, hdone, hflag⟩
        have hrooted := hsettled₁.rooted.reorganized n
        have hinStep := hdone.inStep hrooted
        refine Ends.pure ⟨⟨hinStep.ahead, hdone.rooted hrooted, hflag⟩, fun _ => hinStep, n, ?_⟩
        exact ⟨hdone.blocks, hdone.batches, hdone.historyDB, hdone.fewer⟩
    · refine Ends.bind hblock ?_
      intro data s' h
      exact Ends.pure h

/-- What `Sync` finds after a pending reset. -/
structure Ready (logic : StateLogic σ ι) (s s₁ : Synchronizer σ) : Prop extends Settled logic s₁, WasReset s s₁ where
  kept : KeepsLast s s₁
  inStep : Exact logic s → InStep logic s₁

theorem ends_retryReset (answers : ResetAnswers σ) (h : Sound logic s) :
    Ends (retryReset logic cfg answers) s (fun _ => Ready logic s)
      fun s' => WasReset s s' ∧ s'.resetStateFailed = true := by
  rw [retryReset]
  refine ends_get_bind ?_
  split
  next hfailed =>
    refine (ends_resetIntermediateState answers s).mono ?_ ?_
    · rintro _ s' ⟨hdone, hflag⟩
      have hinStep := hdone.inStep h.rooted
      exact ⟨⟨hinStep.ahead, hdone.rooted h.rooted, hflag⟩, hdone.toWasReset, hdone.kept, fun _ => hinStep⟩
    · rintro s' ⟨hreset, hagain | ⟨_, rfl⟩⟩
      · exact ⟨hreset, hagain⟩
      · exact ⟨hreset, hfailed⟩
  next hfailed =>
    have hflag := Bool.eq_false_iff.mpr hfailed
    exact Ends.pure ⟨⟨h.ahead.resolve_left hfailed, h.rooted, hflag⟩, .refl s, fun _ _ => rfl,
      fun hexact => hexact.resolve_left hfailed⟩

theorem ends_sync (answers : SyncAnswers σ ι) (lastSavedBlock : Option Block) (h : Sound logic s) :
    Ends (sync logic cfg answers lastSavedBlock) s
      (fun out s' => Settled logic s' ∧ (Exact logic s → InStep logic s') ∧ ∃ s₁, Ready logic s s₁ ∧ Outcome s₁ s' out)
      fun s' => WasReset s s' ∧ s'.resetStateFailed = true ∨
        ∃ s₁, Ready logic s s₁ ∧ Failed logic cfg answers lastSavedBlock s₁ s' := by
  rw [sync]
  refine Ends.bind ((ends_retryReset answers.first h).mono (fun _ _ h => h) fun _ h => .inl h) ?_
  intro _ s₁ hready
  have hfailed : ∀ s', OnlyStats s₁ s' → Failed logic cfg answers lastSavedBlock s₁ s' := fun s' hstats =>
    hready.toSettled.failed answers lastSavedBlock hstats
  refine Ends.bind ((ends_nextBlock answers lastSavedBlock s₁).mono (fun _ _ h => h) ?_) ?_
  · rintro s' rfl
    exact .inr ⟨_, hready, hfailed _ ⟨_, rfl⟩⟩
  · rintro ⟨saved, nextBlockNum⟩ s₂ ⟨rfl, hsaved⟩
    refine ends_answer_bind (fun _ _ => .inr ⟨_, hready, hfailed _ ⟨_, rfl⟩⟩) fun ethBlock _ => ?_
    cases ethBlock with
    | none => exact Ends.pure ⟨hready.toSettled, hready.inStep, _, hready, rfl⟩
    | some ethBlock =>
      refine (ends_syncEthBlock answers lastSavedBlock saved nextBlockNum _ hready.toSettled hsaved).mono ?_ ?_
      · rintro out s' ⟨hsettled, hinStep, hout⟩
        exact ⟨hsettled, fun hexact => hinStep (hready.inStep hexact), _, hready, hout⟩
      · intro s' hfail
        exact .inr ⟨_, hready, hfail⟩

theorem Sound.sync (h : Sound logic s) (cfg : SyncConfig) (answers : SyncAnswers σ ι) (lastSavedBlock : Option Block) :
    Sound logic (finalState (sync logic cfg answers lastSavedBlock s)) := by
  refine (ends_sync answers lastSavedBlock h).at_end ?_ ?_
  · rintro out s' ⟨hsettled, _⟩
    exact hsettled.sound
  · rintro s' (⟨hreset, hfailed⟩ | ⟨s₁, _, hfailed⟩)
    · exact ⟨hreset.rooted h.rooted, .inl hfailed⟩
    · exact hfailed.sound

theorem Exact.sync (h : Exact logic s) (hsound : Sound logic s) (cfg : SyncConfig) {answers : SyncAnswers σ ι}
    (hdeferred : answers.deferred.getLastBlock = none) (lastSavedBlock : Option Block) :
    Exact logic (finalState (sync logic cfg answers lastSavedBlock s)) := by
  refine (ends_sync answers lastSavedBlock hsound).at_end ?_ ?_
  · rintro out s' ⟨_, hinStep, _⟩
    exact .inr (hinStep h)
  · rintro s' (⟨_, hfailed⟩ | ⟨s₁, hready, hfailed⟩)
    · exact .inl hfailed
    · exact hfailed.exact (hready.inStep h) hdeferred

/-! ### Runs -/

theorem Rooted.sameBatches (h : Rooted logic s) (hdb : s'.historyDB = s.historyDB) (hfewer : Fewer s s') :
    Rooted logic s' :=
  h.fewer (congrArg HistoryDB.batches hdb) hfewer

theorem Rooted.prune (h : Rooted logic s) (keep : Nat → Bool) :
    Rooted logic { s with stateDB := s.stateDB.prune keep } :=
  h.sameBatches rfl (prune_fewer s.stateDB keep)

theorem InStep.prune (h : InStep logic s) (keep : Nat → Bool) :
    InStep logic { s with stateDB := s.stateDB.prune keep } :=
  ⟨h.batchNum, h.root, h.vars⟩

theorem Rooted.resetStateDB (h : Rooted logic s) (fault : Option (ResetFault σ)) (batchNum : Nat) :
    Ends (resetStateDB logic fault batchNum) s (fun _ => Rooted logic) (Rooted logic) := by
  refine (ends_resetStateDB fault batchNum s).mono ?_ ?_
  · intro _ s' hat
    exact h.sameBatches hat.historyDB hat.fewer
  · intro s' hfailed
    exact h.sameBatches hfailed.1 hfailed.2.1

theorem ends_start (answers : StartAnswers σ) (hrooted : Rooted logic s) :
    Ends (start logic cfg answers) s (fun _ s' => InStep logic s' ∧ Settled logic s') (Rooted logic) := by
  rw [start, reopen]
  refine Ends.bind (ends_get_bind (hrooted.resetStateDB answers.reopen _)) ?_
  intro _ s₁ hrooted₁
  rw [init]
  refine ends_answer_bind (fun _ _ => hrooted₁) fun ethLastBlock _ => ends_modify_bind ?_
  have hrooted₂ : Rooted logic { s₁ with
      stats := ⟨ethLastBlock, 0, ⟨0, 0, none⟩, 0, 0, {}, {}⟩, vars := cfg.initVars, resetStateFailed := false } :=
    hrooted₁.sameBatches rfl fun _ _ h => h
  refine ends_check_bind (fun _ _ => hrooted₂) fun _ => ends_get_bind ?_
  refine Ends.bind (Q := fun _ => Rooted logic) ?_ ?_
  · split
    · exact hrooted₂.resetStateDB answers.stateDBReset 0
    · exact Ends.pure hrooted₂
  · intro _ s₃ hrooted₃
    refine (ends_tryResetState answers.reset _ s₃).mono ?_ ?_
    · rintro _ s' ⟨hdone, hflag⟩
      have hinStep := hdone.inStep hrooted₃
      exact ⟨hinStep, hinStep.ahead, hdone.rooted hrooted₃, hflag⟩
    · rintro s' ⟨hreset, _⟩
      exact hreset.rooted hrooted₃

inductive Phase where
  | stopped
  | running
  deriving DecidableEq, Repr

/-- Runs of a node.  A call of `Sync` with allowed answers ends as it may, checkpoints are deleted at any time,
and the node stops between calls or in the middle of a block. -/
inductive Runs (logic : StateLogic σ ι) (cfg : SyncConfig) (allowed : SyncAnswers σ ι → Prop) :
    Phase → Synchronizer σ → Prop
  | create {s : Synchronizer σ} (hhistory : s.historyDB = { blocks := [⟨0, 0⟩] })
      (hstate : s.stateDB = ⟨⟨0, logic.empty⟩, fun _ => none⟩) : Runs logic cfg allowed .stopped s
  | start {s s' : Synchronizer σ} {answers : StartAnswers σ} (h : Runs logic cfg allowed .stopped s)
      (hrun : Synchronizer.start logic cfg answers s = .ok () s') : Runs logic cfg allowed .running s'
  | startFailed {s s' : Synchronizer σ} {answers : StartAnswers σ} {e : String} (h : Runs logic cfg allowed .stopped s)
      (hrun : Synchronizer.start logic cfg answers s = .error e s') : Runs logic cfg allowed .stopped s'
  | sync {s : Synchronizer σ} {answers : SyncAnswers σ ι} (h : Runs logic cfg allowed .running s) (hanswers : allowed answers)
      (lastSavedBlock : Option Block) :
      Runs logic cfg allowed .running (finalState (Synchronizer.sync logic cfg answers lastSavedBlock s))
  | prune {phase : Phase} {s : Synchronizer σ} (h : Runs logic cfg allowed phase s) (keep : Nat → Bool) :
      Runs logic cfg allowed phase { s with stateDB := s.stateDB.prune keep }
  | stop {s : Synchronizer σ} (h : Runs logic cfg allowed .running s) : Runs logic cfg allowed .stopped s
  | crash {s : Synchronizer σ} (h : Runs logic cfg allowed .running s) (hready : s.resetStateFailed = false)
      (answers : BlockAnswers σ ι) (block : Block) :
      Runs logic cfg allowed .stopped (finalState (syncBlock logic cfg answers block s))

/-- The query for the last block in the deferred reset is answered. -/
def DeferredAnswered (answers : SyncAnswers σ ι) : Prop :=
  answers.deferred.getLastBlock = none

variable {allowed : SyncAnswers σ ι → Prop}

theorem Runs.sound {phase : Phase} (h : Runs logic cfg allowed phase s) :
    Rooted logic s ∧ (phase = .running → Sound logic s) := by
  induction h with
  | create hhistory _ =>
    refine ⟨⟨?_, ?_, ?_⟩, fun h => nomatch h⟩
    all_goals rw [hhistory]
    · exact fun _ h => nomatch h
    · exact List.Pairwise.nil
    · exact fun _ h => nomatch h
  | start _ hrun ih =>
    obtain ⟨_, hsettled⟩ := (ends_start _ ih.1).of_ok hrun
    exact ⟨hsettled.rooted, fun _ => hsettled.sound⟩
  | startFailed _ hrun ih => exact ⟨(ends_start _ ih.1).of_error hrun, fun h => nomatch h⟩
  | @sync _ answers _ _ lastSavedBlock ih =>
    have hsound := (ih.2 rfl).sync cfg answers lastSavedBlock
    exact ⟨hsound.rooted, fun _ => hsound⟩
  | prune _ keep ih =>
    have hrooted := ih.1.prune keep
    exact ⟨hrooted, fun hphase => ⟨hrooted, (ih.2 hphase).ahead⟩⟩
  | stop _ ih => exact ⟨ih.1, fun h => nomatch h⟩
  | crash _ hready answers block ih =>
    have hahead := (ih.2 rfl).ahead.resolve_left (Bool.eq_false_iff.mp hready)
    refine ⟨(ends_syncBlock answers block hahead ih.1).at_end ?_ ?_, fun h => nomatch h⟩
    · intro data s' h
      exact h.rooted
    · intro s' h
      exact h.1

theorem Runs.exact {phase : Phase} (h : Runs logic cfg DeferredAnswered phase s) : phase = .running → Exact logic s := by
  induction h with
  | start hstopped hrun => exact fun _ => .inr ((ends_start _ hstopped.sound.1).of_ok hrun).1
  | sync hruns hanswers lastSavedBlock ih =>
    exact fun _ => (ih rfl).sync (hruns.sound.2 rfl) cfg hanswers lastSavedBlock
  | prune _ keep ih => exact fun hphase => (ih hphase).imp_right fun h => h.prune keep
  | create | startFailed | stop | crash => exact nofun

/-- The stores are in step after every call that returns without an error, and after one that returns an error
with its reset done, in runs in which the query for the last block in the deferred reset is answered. -/
theorem sync_inStep (h : Runs logic cfg DeferredAnswered .running s) {answers : SyncAnswers σ ι}
    (hanswers : DeferredAnswered answers) (lastSavedBlock : Option Block) :
    (∀ out s', sync logic cfg answers lastSavedBlock s = .ok out s' → InStep logic s') ∧
      ∀ e s', sync logic cfg answers lastSavedBlock s = .error e s' → s'.resetStateFailed = false → InStep logic s' := by
  have hsound := h.sound.2 rfl
  have hexact := h.exact rfl
  constructor
  · intro out s' hrun
    exact ((ends_sync answers lastSavedBlock hsound).of_ok hrun).2.1 hexact
  · intro e s' hrun hflag
    have hend := hexact.sync hsound cfg hanswers lastSavedBlock
    rw [hrun] at hend
    exact hend.resolve_left (Bool.eq_false_iff.mp hflag)

/-! #### One block

The state of the sample node is a number, and a batch replaces it. -/

def sampleLogic : StateLogic Nat Nat where
  empty := 0
  root := id
  processTxs := fun input _ _ => (.ok (), input)

def sampleConfig : SyncConfig where
  startBlockNum := 1
  auction := ⟨1⟩
  initVars :=
    { rollup := ⟨0, 0, 10, 0, [], false⟩
      auction := ⟨0, 1, 2, "boot", fun _ => 10, 0, 2, 4320, fun _ => 0, 1000, 20⟩
      wDelayer := ⟨0, 1, 1, 0, 0, false⟩ }
  updateBlockNumDiffThreshold := 100
  updateFrequencyDivider := 100

def newNode : Synchronizer Nat where
  stateDB := ⟨⟨0, 0⟩, fun _ => none⟩
  historyDB := { blocks := [⟨0, 0⟩] }
  vars := sampleConfig.initVars
  stats := ⟨0, 0, ⟨0, 0, none⟩, 0, 0, {}, {}⟩

def startedNode : Synchronizer Nat :=
  finalState (start sampleLogic sampleConfig { updateEth := .ok 1 } newNode)

theorem runs_startedNode (allowed : SyncAnswers Nat Nat → Prop) :
    Runs sampleLogic sampleConfig allowed .running startedNode := by
  have hnew : Runs sampleLogic sampleConfig allowed .stopped newNode := .create rfl rfl
  have hrun : start sampleLogic sampleConfig { updateEth := .ok 1 } newNode = .ok () startedNode := rfl
  exact hnew.start hrun

/-- Block 1 has a batch with root 7. -/
def blockWithBatch (addBlockSCData deferred : Option String) : SyncAnswers Nat Nat where
  ethBlockByNumber := .ok (some ⟨⟨1, 11⟩, 0⟩)
  updateEth := .ok 1
  reorg := { ethBlockByNumber := fun _ => .error "not found" }
  block :=
    { rollupEvents := .ok (some { forgeBatch := [{ batchNum := 1, forgeBatchArgs := .ok ⟨false, 7, 3, 7⟩ }] })
      addBlockSCData := addBlockSCData }
  deferred := { getLastBlock := deferred }

theorem sync_inStep_oneBlock :
    ∃ data s', sync sampleLogic sampleConfig (blockWithBatch none none) none startedNode = .ok (.block data) s' ∧
      s'.stateDB.current.batchNum = 1 ∧ s'.historyDB.lastBatchNum = 1 ∧ InStep sampleLogic s' := by
  have hanswers : DeferredAnswered (blockWithBatch none none) := rfl
  exact ⟨_, _, rfl, rfl, rfl, (sync_inStep (runs_startedNode DeferredAnswered) hanswers none).1 _ _ rfl⟩

/-- Block 1 could not be stored, and the deferred reset did not learn the last block.  The next call finds no
new block and returns without an error, with batch 1 in the StateDB and no batch in the HistoryDB. -/
theorem resetSkipped_outOfStep :
    ∃ s answers s', Runs sampleLogic sampleConfig (fun _ => True) .running s ∧
      sync sampleLogic sampleConfig answers none s = .ok .noBlock s' ∧
      s'.stateDB.current.batchNum = 1 ∧ s'.historyDB.getLastBatch = none ∧ ¬InStep sampleLogic s' := by
  have hruns : Runs sampleLogic sampleConfig (fun _ => True) .running (finalState (sync sampleLogic sampleConfig
      (blockWithBatch (some "commit") (some "connection")) none startedNode)) :=
    (runs_startedNode _).sync trivial none
  refine ⟨_, { ethBlockByNumber := .ok none, updateEth := .ok 1,
               reorg := { ethBlockByNumber := fun _ => .error "not found" } },
    _, hruns, rfl, rfl, rfl, ?_⟩
  intro hinStep
  exact absurd hinStep.batchNum Nat.one_ne_zero

end Synchronizer

end HermezRollup
