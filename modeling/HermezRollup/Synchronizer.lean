import HermezRollup.HistoryDB
import HermezRollup.Pipeline

/-! The synchronizer: `Sync` takes the next block of Ethereum, processes its batches in the StateDB one by
one, with a checkpoint each, and stores the block in the HistoryDB in one transaction at the end.  When
something fails in between, a deferred reset goes back to the last block of the HistoryDB.

The Ethereum node answers anything, and every query and every operation of a database can fail.  The answers
of a call are in its environment, with one entry for each place that can fail; an entry `some e` makes
that place fail with error `e`. -/

namespace HermezRollup

open Fallible Checkpoints

/-! ### The StateDB -/

/-- The contents of the StateDB with the number of their batch. -/
structure AtBatch (σ : Type) where
  batchNum : Nat
  contents : σ

/-- The processing of batches, and the root of the contents.  `processTxs` takes the arguments of a batch and the
user transactions of its queue; it says whether it fails and what it leaves in either case. -/
structure StateLogic (σ ι : Type) where
  empty : σ
  root : σ → Nat
  processTxs : ι → List L1Tx → σ → Except String Unit × σ

/-- A reset of the StateDB that fails: what it leaves as the current contents, and the checkpoints it does not
delete. -/
structure ResetFault (σ : Type) where
  error : String
  left : AtBatch σ
  kept : Nat → Bool

/-- A checkpoint that fails: what it leaves under its number. -/
structure CheckpointFault (σ : Type) where
  error : String
  left : Option (AtBatch σ)

/-! ### Events and answers -/

structure EthBlock extends Block where
  parentHash : Nat
  deriving DecidableEq, Repr

inductive RollupVarsEvent where
  | updateForgeL1L2BatchTimeout (newForgeL1L2BatchTimeout : Int)
  | updateFeeAddToken (newFeeAddToken : Nat)
  | updateWithdrawalDelay (newWithdrawalDelay : Nat)
  | updateBucketsParameters (arrayBuckets : List BucketParams) (safeMode : Bool)
  deriving DecidableEq, Repr

/-- The input of a `forgeBatch`, and its sender. -/
structure ForgeBatchArgs (ι : Type) where
  l1Batch : Bool
  newStRoot : Nat
  sender : Address
  input : ι

/-- A `ForgeBatch` event with the answers to what the synchronizer asks for it.  `prepare` is an error in the
L1 coordinator transactions, in the types of the L2 transactions, in the index of the verifier or of the
table of authorizations. -/
structure ForgeBatchEvent (σ ι : Type) where
  batchNum : Nat
  forgeBatchArgs : Except String (ForgeBatchArgs ι)
  getUnforgedL1UserTxs : Option String := none
  prepare : Option String := none
  makeCheckpoint : Option (CheckpointFault σ) := none

structure RollupWithdrawal where
  instantWithdraw : Bool
  txHash : Nat
  deriving DecidableEq, Repr

/-- The events of the rollup contract in a block.  `tokens` is an error in the events about tokens. -/
structure RollupEvents (σ ι : Type) where
  l1UserTxs : Except String (List L1Tx) := .ok []
  forgeBatch : List (ForgeBatchEvent σ ι) := []
  tokens : Option String := none
  withdrawals : List RollupWithdrawal := []
  vars : List RollupVarsEvent := []

inductive WDelayerEvent where
  | deposit (txHash : Nat)
  | emergencyModeEnabled
  | newWithdrawalDelay (withdrawalDelay : Nat)
  | newEmergencyCouncil (newEmergencyCouncil : Address)
  | newHermezGovernanceAddress (newHermezGovernanceAddress : Address)
  deriving DecidableEq, Repr

/-- The answers in the update of the current and the next slot. -/
structure SlotAnswers where
  query : Option String := none
  auctionCanForge : Address → Int → Except String Bool := fun _ _ => .ok true

/-- The answers in a reset to the last block of the HistoryDB. -/
structure ResetAnswers (σ : Type) where
  getLastBlock : Option String := none
  getSCVars : Option String := none
  setInitialSCVars : Option String := none
  addCoordinators : Option String := none
  getLastBatch : Option String := none
  stateDBReset : Option (ResetFault σ) := none
  getLastL1BatchBlockNum : Option String := none
  getLastL1TxsNum : Option String := none
  slots : SlotAnswers := {}

/-- The answers in a reorganization. -/
structure ReorgAnswers (σ : Type) where
  ethBlockByNumber : Nat → Except String Nat
  getBlock : Nat → Option String := fun _ => none
  reorg : Option String := none
  reset : ResetAnswers σ := {}

/-- The answers for a new block. -/
structure BlockAnswers (σ ι : Type) where
  rollupEvents : Except String (Option (RollupEvents σ ι)) := .ok none
  getLastL1TxsNum : Option String := none
  auctionEvents : Except String (List AuctionEvent) := .ok []
  wDelayerEvents : Except String (List WDelayerEvent) := .ok []
  addBlockSCData : Option String := none
  slots : SlotAnswers := {}

/-- The answers in a call of `Sync`.  A block that Ethereum does not have yet is `none`. -/
structure SyncAnswers (σ ι : Type) where
  first : ResetAnswers σ := {}
  getLastBlock : Option String := none
  ethBlockByNumber : Except String (Option EthBlock)
  updateEth : Except String Nat
  reorg : ReorgAnswers σ
  block : BlockAnswers σ ι := {}
  deferred : ResetAnswers σ := {}

/-! ### The synchronizer -/

structure SyncConfig where
  startBlockNum : Nat
  auction : AuctionConstants
  initVars : ContractVariables
  updateBlockNumDiffThreshold : Nat
  updateFrequencyDivider : Nat

structure Synchronizer (σ : Type) where
  stateDB : DB (AtBatch σ)
  historyDB : HistoryDB
  vars : ContractVariables
  stats : Stats
  resetStateFailed : Bool := false

abbrev SyncM (σ : Type) := EStateM String (Synchronizer σ)

/-- What `Sync` returns without an error. -/
inductive SyncOutput where
  | noBlock
  | reorg (discarded : Int)
  | block (data : BlockData)

namespace Synchronizer

variable {σ ι : Type} (logic : StateLogic σ ι) (cfg : SyncConfig)

def check (fault : Option String) : SyncM σ Unit :=
  match fault with
  | none => pure ()
  | some e => throw e

/-- An answer from outside. -/
def answer {α : Type} (x : Except String α) : SyncM σ α :=
  fromState fun _ => x

def modifyStats (f : Stats → Stats) : SyncM σ Unit :=
  modify fun s => { s with stats := f s.stats }

/-! #### Reset -/

/-- `stateDB.Reset`: back to a checkpoint, or to the empty state. -/
def resetStateDB (fault : Option (ResetFault σ)) (batchNum : Nat) : SyncM σ Unit :=
  letI : Numbered (AtBatch σ) := ⟨⟨0, logic.empty⟩, AtBatch.batchNum⟩
  match fault with
  | some f => fun s => .error f.error { s with stateDB := ⟨f.left, (s.stateDB.prune f.kept).checkpoints⟩ }
  | none => fun s =>
    match DB.reset batchNum s.stateDB with
    | .ok () db => .ok () { s with stateDB := db }
    | .error _ db => .error "Checkpoint does not exist" { s with stateDB := db }

def updateCurrentNextSlotIfSync (answers : SlotAnswers) (reset hasBatch : Bool) : SyncM σ Unit := do
  let s ← get
  -- the first batch of the slot is looked up in a reset, and the best bids by a node that is synced
  let queried := reset ∨ s.stats.synced ∧ cfg.auction.genesisBlockNum ≤ s.stats.syncLastBlock + 1
  check (if queried then answers.query else none)
  let eth : EthView := ⟨s.stats.synced, answers.auctionCanForge⟩
  let tables := s.historyDB.auctionTables
  let current ← answer (updateCurrentSlot cfg.auction s.vars.auction tables eth s.stats.syncLastBlock s.stats.currentSlot
    reset hasBatch)
  let next ← answer (updateNextSlot cfg.auction s.vars.auction tables eth s.stats.syncLastBlock s.stats.nextSlot)
  modifyStats fun stats => { stats with currentSlot := current, nextSlot := next }

/-- The variables of the contracts, from the HistoryDB or, in the first run, from the configuration. -/
def resetVars (answers : ResetAnswers σ) : SyncM σ Unit := do
  check answers.getSCVars
  match (← get).historyDB.getSCVars with
  | some vars => modify fun s => { s with vars := vars }
  | none =>
    check answers.setInitialSCVars
    let vars := HistoryDB.initialSCVars cfg.initVars
    modify fun s => { s with historyDB := s.historyDB.setSCVars vars, vars := vars }
    check answers.addCoordinators
    let boot : CoordinatorRow := ⟨0, cfg.initVars.auction.bootCoordinator, cfg.initVars.auction.ethBlockNum,
      cfg.initVars.auction.bootCoordinatorURL⟩
    modify fun s => { s with historyDB := { s.historyDB with coordinators := s.historyDB.coordinators ++ [boot] } }

def resetState (answers : ResetAnswers σ) (block : Block) : SyncM σ Unit := do
  resetVars cfg answers
  check answers.getLastBatch
  let batch := (← get).historyDB.getLastBatch
  resetStateDB logic answers.stateDBReset ((batch.map Batch.batchNum).getD 0)
  check answers.getLastL1BatchBlockNum
  check answers.getLastL1TxsNum
  let db := (← get).historyDB
  modifyStats fun stats => { stats with
    syncLastBlock := block.num
    lastBatch := match batch with
      | some batch => ⟨batch.batchNum, batch.forgerAddr, some batch.stateRoot⟩
      | none => ⟨0, 0, none⟩
    lastL1BatchBlock := (db.getLastL1BatchBlockNum.getD 0 : Nat)
    lastForgeL1TxsNum := match db.getLastL1TxsNum with
      | some n => n
      | none => -1 }
  updateCurrentNextSlotIfSync cfg answers.slots true false

def setResetStateFailed (failed : Bool) : SyncM σ Unit :=
  modify fun s => { s with resetStateFailed := failed }

def tryResetState (answers : ResetAnswers σ) (block : Block) : SyncM σ Unit := do
  match ← attempt (resetState logic cfg answers block) with
  | .ok () => setResetStateFailed false
  | .error e =>
    setResetStateFailed true
    throw e

def resetIntermediateState (answers : ResetAnswers σ) : SyncM σ Unit := do
  check answers.getLastBlock
  let lastBlock := (← get).historyDB.getLastBlock.getD ⟨0, 0⟩
  tryResetState logic cfg answers lastBlock

/-! #### Reorganizations -/

/-- The loop of `reorg`: the highest stored block at or below a number whose hash Ethereum has, or the one
where the loop ends.  The last block read is remembered. -/
def findValidBlock (answers : ReorgAnswers σ) (db : HistoryDB) (startBlockNum blockNum : Nat) (read : Option Block) :
    Except String (Option Block) :=
  if blockNum < startBlockNum then .ok read
  else do
    let ethHash ← answers.ethBlockByNumber blockNum
    match answers.getBlock blockNum, db.getBlock blockNum with
    | some e, _ => .error e
    | none, none => .error "sql: no rows in result set"
    | none, some block =>
      if block.hash = ethHash then .ok (some block)
      else match blockNum with
        | 0 => .ok (some block)
        | blockNum + 1 => findValidBlock answers db startBlockNum blockNum (some block)

def reorg (answers : ReorgAnswers σ) (uncleBlock : Block) : SyncM σ Nat := do
  let block ← fromState fun s => findValidBlock answers s.historyDB cfg.startBlockNum uncleBlock.num none
  match block with
  | none => throw "nil pointer dereference"
  | some block =>
    check answers.reorg
    modify fun s => { s with historyDB := s.historyDB.reorg block.num }
    tryResetState logic cfg answers.reset block
    return block.num

/-! #### A new block -/

namespace RollupVars

def applyTimeout (vars : RollupVariables) : RollupVarsEvent → RollupVariables
  | .updateForgeL1L2BatchTimeout newForgeL1L2BatchTimeout => { vars with forgeL1L2BatchTimeout := newForgeL1L2BatchTimeout }
  | _ => vars

def applyFeeAddToken (vars : RollupVariables) : RollupVarsEvent → RollupVariables
  | .updateFeeAddToken newFeeAddToken => { vars with feeAddToken := newFeeAddToken }
  | _ => vars

def applyWithdrawalDelay (vars : RollupVariables) : RollupVarsEvent → RollupVariables
  | .updateWithdrawalDelay newWithdrawalDelay => { vars with withdrawalDelay := newWithdrawalDelay }
  | _ => vars

def applyBuckets (vars : RollupVariables) : RollupVarsEvent → RollupVariables
  | .updateBucketsParameters arrayBuckets safeMode => { vars with buckets := arrayBuckets, safeMode := safeMode }
  | _ => vars

/-- The loops over the events, one for each kind. -/
def apply (blockNum : Nat) (vars : RollupVariables) (events : List RollupVarsEvent) : RollupVariables :=
  let vars := events.foldl applyTimeout vars
  let vars := events.foldl applyFeeAddToken vars
  let vars := events.foldl applyWithdrawalDelay vars
  let vars := events.foldl applyBuckets vars
  if events.isEmpty then vars else { vars with ethBlockNum := blockNum }

end RollupVars

namespace WDelayerVars

def applyEmergencyMode (blockNum : Nat) (vars : WDelayerVariables) : WDelayerEvent → WDelayerVariables
  | .emergencyModeEnabled => { vars with emergencyMode := true, emergencyModeStartingBlock := blockNum }
  | _ => vars

def applyWithdrawalDelay (vars : WDelayerVariables) : WDelayerEvent → WDelayerVariables
  | .newWithdrawalDelay withdrawalDelay => { vars with withdrawalDelay := withdrawalDelay }
  | _ => vars

def applyEmergencyCouncil (vars : WDelayerVariables) : WDelayerEvent → WDelayerVariables
  | .newEmergencyCouncil newEmergencyCouncil => { vars with emergencyCouncilAddress := newEmergencyCouncil }
  | _ => vars

def applyGovernance (vars : WDelayerVariables) : WDelayerEvent → WDelayerVariables
  | .newHermezGovernanceAddress newHermezGovernanceAddress =>
    { vars with hermezGovernanceAddress := newHermezGovernanceAddress }
  | _ => vars

def updatesVars : WDelayerEvent → Bool
  | .deposit _ => false
  | _ => true

def apply (blockNum : Nat) (vars : WDelayerVariables) (events : List WDelayerEvent) : WDelayerVariables :=
  let vars := events.foldl (applyEmergencyMode blockNum) vars
  let vars := events.foldl applyWithdrawalDelay vars
  let vars := events.foldl applyEmergencyCouncil vars
  let vars := events.foldl applyGovernance vars
  if events.any updatesVars then { vars with ethBlockNum := blockNum } else vars

end WDelayerVars

/-- `MakeCheckpoint` at the end of `ProcessTxs`: the number moves on first. -/
def makeCheckpoint (fault : Option (CheckpointFault σ)) : SyncM σ Unit := fun s =>
  let current : AtBatch σ := { s.stateDB.current with batchNum := s.stateDB.current.batchNum + 1 }
  match fault with
  | none => .ok () { s with stateDB := ⟨current, Function.update s.stateDB.checkpoints current.batchNum (some current)⟩ }
  | some f => .error f.error
      { s with stateDB := ⟨current, Function.update s.stateDB.checkpoints current.batchNum f.left⟩ }

def processTxs (fault : Option (CheckpointFault σ)) (input : ι) (l1UserTxs : List L1Tx) : SyncM σ Unit := do
  let (result, contents) := logic.processTxs input l1UserTxs (← get).stateDB.current.contents
  modify fun s => { s with stateDB := s.stateDB.edit { s.stateDB.current with contents := contents } }
  answer result
  makeCheckpoint fault

def batchSlotNum (blockNum : Nat) : Int :=
  if cfg.auction.genesisBlockNum ≤ blockNum then (blockNum - cfg.auction.genesisBlockNum) / blocksPerSlot else 0

/-- The user transactions that a batch forges: those of its queue in the HistoryDB and in the block. -/
def batchL1UserTxs (l1UserTxs : List L1Tx) (nextForgeL1TxsNum : Nat) (event : ForgeBatchEvent σ ι) (l1Batch : Bool) :
    SyncM σ (List L1Tx) :=
  if l1Batch then do
    check event.getUnforgedL1UserTxs
    let stored := (← get).historyDB.getUnforgedL1UserTxs nextForgeL1TxsNum
    return stored ++ l1UserTxs.filter fun tx => tx.toForgeL1TxsNum = some nextForgeL1TxsNum
  else return []

/-- One `ForgeBatch` event.  `nextForgeL1TxsNum` is the number of the next queue to forge, and `l1UserTxs` are the
user transactions of the block. -/
def syncBatch (blockNum : Nat) (l1UserTxs : List L1Tx) (nextForgeL1TxsNum : Nat) (event : ForgeBatchEvent σ ι) :
    SyncM σ (BatchData × Nat) := do
  let args ← answer event.forgeBatchArgs
  let queue ← batchL1UserTxs l1UserTxs nextForgeL1TxsNum event args.l1Batch
  check event.prepare
  processTxs logic event.makeCheckpoint args.input queue
  let current := (← get).stateDB.current
  if current.batchNum ≠ event.batchNum then throw "stateDB.BatchNum != evtForgeBatch.BatchNum"
  else if logic.root current.contents ≠ args.newStRoot then throw "stateDB.MTRoot != forgeBatchArgs.NewStRoot"
  else
    let batch : Batch :=
      { batchNum := event.batchNum
        ethBlockNum := blockNum
        forgerAddr := args.sender
        stateRoot := args.newStRoot
        slotNum := batchSlotNum cfg blockNum
        forgeL1TxsNum := if args.l1Batch then some nextForgeL1TxsNum else none }
    return (⟨batch, queue.map fun tx => { tx with batchNum := some event.batchNum }⟩,
      if args.l1Batch then nextForgeL1TxsNum + 1 else nextForgeL1TxsNum)

def syncBatches (blockNum : Nat) (l1UserTxs : List L1Tx) :
    Nat → List (ForgeBatchEvent σ ι) → SyncM σ (List BatchData)
  | _, [] => pure []
  | nextForgeL1TxsNum, event :: events => do
    let (data, nextForgeL1TxsNum) ← syncBatch logic cfg blockNum l1UserTxs nextForgeL1TxsNum event
    let rest ← syncBatches blockNum l1UserTxs nextForgeL1TxsNum events
    return data :: rest

/-- `rollupSync`: the user transactions, the batches, the changed variables and the withdrawals. -/
def rollupSync (answers : BlockAnswers σ ι) (blockNum : Nat) :
    SyncM σ (List L1Tx × List BatchData × Option RollupVariables × List RollupWithdrawal) := do
  match ← answer answers.rollupEvents with
  | none => return ([], [], none, [])
  | some events =>
    check answers.getLastL1TxsNum
    let nextForgeL1TxsNum := match (← get).historyDB.getLastL1TxsNum with
      | some n => n + 1
      | none => 0
    let l1UserTxs ← answer events.l1UserTxs
    let batches ← syncBatches logic cfg blockNum l1UserTxs nextForgeL1TxsNum events.forgeBatch
    check events.tokens
    modify fun s => { s with vars := { s.vars with rollup := RollupVars.apply blockNum s.vars.rollup events.vars } }
    let rollup := (← get).vars.rollup
    return (l1UserTxs, batches, if events.vars.isEmpty then none else some rollup, events.withdrawals)

/-- The loop of `auctionSync` over the default bids, which stops at a bad slot set. -/
def applyDefaultSlotSetBids (slotNum : Int) : List AuctionEvent → SyncM σ Unit
  | [] => pure ()
  | event :: events => do
    let auction ← fromState fun s => s.vars.auction.applyDefaultSlotSetBid slotNum event
    modify fun s => { s with vars := { s.vars with auction := auction } }
    applyDefaultSlotSetBids slotNum events

/-- `auctionSync` on the variables of the synchronizer, which it changes in place. -/
def syncAuction (answers : BlockAnswers σ ι) (blockNum : Nat) : SyncM σ AuctionData := do
  let events ← answer answers.auctionEvents
  modify fun s => { s with vars := { s.vars with auction := s.vars.auction.applyParameters events } }
  applyDefaultSlotSetBids (cfg.auction.slotNum blockNum) events
  let varsUpdate := events.any AuctionEvent.updatesVars
  modify fun s => { s with vars := { s.vars with
    auction := if varsUpdate then { s.vars.auction with ethBlockNum := blockNum } else s.vars.auction } }
  let auction := (← get).vars.auction
  return {
    bids := events.filterMap (AuctionEvent.bidRow blockNum)
    coordinators := events.filterMap (AuctionEvent.coordinatorRow blockNum) ++
      events.filterMap (AuctionEvent.bootCoordinatorRow blockNum)
    vars := if varsUpdate then some auction else none }

/-- `wdelayerSync`: the deposits, and the changed variables. -/
def wdelayerSync (answers : BlockAnswers σ ι) (blockNum : Nat) : SyncM σ (List Nat × Option WDelayerVariables) := do
  let events ← answer answers.wDelayerEvents
  modify fun s => { s with vars := { s.vars with wDelayer := WDelayerVars.apply blockNum s.vars.wDelayer events } }
  let wDelayer := (← get).vars.wDelayer
  let deposits := events.filterMap fun
    | .deposit txHash => some txHash
    | _ => none
  return (deposits, if events.any WDelayerVars.updatesVars then some wDelayer else none)

/-- Each withdrawal through the delayer takes a deposit of the same Ethereum transaction. -/
def matchDeposits : List RollupWithdrawal → List Nat → Except String Unit
  | [], _ => .ok ()
  | withdrawal :: withdrawals, deposits =>
    if withdrawal.instantWithdraw then matchDeposits withdrawals deposits
    else if withdrawal.txHash ∈ deposits then matchDeposits withdrawals (deposits.erase withdrawal.txHash)
    else .error "WDelayer deposit corresponding to non-instant rollup withdrawal not found"

def gatherBlock (answers : BlockAnswers σ ι) (block : Block) : SyncM σ BlockData := do
  let (l1UserTxs, batches, rollupVars, withdrawals) ← rollupSync logic cfg answers block.num
  let auction ← syncAuction cfg answers block.num
  let (deposits, wDelayerVars) ← wdelayerSync answers block.num
  answer (matchDeposits withdrawals deposits)
  return ⟨block, l1UserTxs, batches, rollupVars, auction, wDelayerVars⟩

def storeBlock (answers : BlockAnswers σ ι) (data : BlockData) : SyncM σ Unit := do
  check answers.addBlockSCData
  let db ← fromState fun s => s.historyDB.addBlockSCData data
  modify fun s => { s with historyDB := db }

def statsAfter (data : BlockData) (stats : Stats) : Stats :=
  let l1Batches := data.batches.filter fun batchData => batchData.batch.forgeL1TxsNum.isSome
  { stats with
    syncLastBlock := data.block.num
    lastBatch := match data.batches.getLast? with
      | some batchData => ⟨batchData.batch.batchNum, batchData.batch.forgerAddr, some batchData.batch.stateRoot⟩
      | none => stats.lastBatch
    lastL1BatchBlock := match l1Batches.getLast? with
      | some batchData => batchData.batch.ethBlockNum
      | none => stats.lastL1BatchBlock
    lastForgeL1TxsNum := match l1Batches.getLast? with
      | some batchData => (batchData.batch.forgeL1TxsNum.getD 0 : Nat)
      | none => stats.lastForgeL1TxsNum }

/-- What `Sync` does under the deferred reset. -/
def syncBlock (answers : BlockAnswers σ ι) (block : Block) : SyncM σ BlockData := do
  let data ← gatherBlock logic cfg answers block
  storeBlock answers data
  modifyStats (statsAfter data)
  updateCurrentNextSlotIfSync cfg answers.slots false !data.batches.isEmpty
  return data

/-- The deferred function of `Sync`: an error of the reset is only logged. -/
def withDeferredReset {α : Type} (answers : ResetAnswers σ) (x : SyncM σ α) : SyncM σ α := do
  match ← attempt x with
  | .ok a => return a
  | .error e =>
    let _ ← attempt (resetIntermediateState logic cfg answers)
    throw e

def getLastSavedBlock (answers : SyncAnswers σ ι) : Option Block → SyncM σ (Option Block)
  | some block => pure (some block)
  | none => do
    check answers.getLastBlock
    match (← get).historyDB.getLastBlock with
    | some block => return if block.num = 0 then none else some block
    | none => return none

def nextBlock (answers : SyncAnswers σ ι) (lastSavedBlock : Option Block) : SyncM σ (Option Block × Nat) := do
  match ← getLastSavedBlock answers lastSavedBlock with
  | none => return (none, cfg.startBlockNum)
  | some block =>
    if block.num < cfg.startBlockNum then throw "lastSavedBlock < startBlockNum"
    else return (some block, block.num + 1)

/-- `UpdateEth`, for the blocks at which it is called. -/
def updateEth (answers : SyncAnswers σ ι) (nextBlockNum : Nat) : SyncM σ Unit := do
  let stats := (← get).stats
  if stats.ethLastBlock ≤ nextBlockNum + cfg.updateBlockNumDiffThreshold ∨ nextBlockNum % cfg.updateFrequencyDivider = 0 then
    let ethLastBlock ← answer answers.updateEth
    modifyStats fun stats => { stats with ethLastBlock := ethLastBlock }
  else pure ()

/-- `Sync` after a new block of Ethereum was read. -/
def syncEthBlock (answers : SyncAnswers σ ι) (lastSavedBlock : Option Block) (nextBlockNum : Nat) (ethBlock : EthBlock) :
    SyncM σ SyncOutput := do
  updateEth cfg answers nextBlockNum
  match lastSavedBlock with
  | some block =>
    if block.hash ≠ ethBlock.parentHash then do
      let lastDBBlockNum ← reorg logic cfg answers.reorg block
      return .reorg (block.num - lastDBBlockNum)
    else return .block (← withDeferredReset logic cfg answers.deferred (syncBlock logic cfg answers.block ethBlock.toBlock))
  | none => return .block (← withDeferredReset logic cfg answers.deferred (syncBlock logic cfg answers.block ethBlock.toBlock))

/-- A reset that failed in an earlier call is tried again. -/
def retryReset (answers : ResetAnswers σ) : SyncM σ Unit := do
  if (← get).resetStateFailed then resetIntermediateState logic cfg answers
  else pure ()

def sync (answers : SyncAnswers σ ι) (lastSavedBlock : Option Block) : SyncM σ SyncOutput := do
  retryReset logic cfg answers.first
  let (lastSavedBlock, nextBlockNum) ← nextBlock cfg answers lastSavedBlock
  match ← answer answers.ethBlockByNumber with
  | none => return .noBlock
  | some ethBlock => syncEthBlock logic cfg answers lastSavedBlock nextBlockNum { ethBlock with num := nextBlockNum }

/-! #### Start of the node -/

/-- `NewStateDB` on the directories of a stopped node: back to the checkpoint of the current contents. -/
def reopen (fault : Option (ResetFault σ)) : SyncM σ Unit := do
  resetStateDB logic fault (← get).stateDB.current.batchNum

/-- `init`: the statistics start from zero. -/
def init (updateEth : Except String Nat) (stateDBReset : Option (ResetFault σ)) (answers : ResetAnswers σ) : SyncM σ Unit := do
  let ethLastBlock ← answer updateEth
  modify fun s => { s with
    stats := ⟨ethLastBlock, 0, ⟨0, 0, none⟩, 0, 0, {}, {}⟩
    vars := cfg.initVars
    resetStateFailed := false }
  check answers.getLastBlock
  let lastBlock := (← get).historyDB.getLastBlock.getD ⟨0, 0⟩
  (if lastBlock.num = 0 then resetStateDB logic stateDBReset 0 else pure ())
  tryResetState logic cfg answers lastBlock

/-- What happens outside when a node starts. -/
structure StartAnswers (σ : Type) where
  reopen : Option (ResetFault σ) := none
  updateEth : Except String Nat
  stateDBReset : Option (ResetFault σ) := none
  reset : ResetAnswers σ := {}

def start (answers : StartAnswers σ) : SyncM σ Unit := do
  reopen logic answers.reopen
  init logic cfg answers.updateEth answers.stateDBReset answers.reset

end Synchronizer

end HermezRollup
