import HermezRollup.AuctionSync
import HermezRollup.L1Tx

/-! The tables of the HistoryDB that the synchronizer reads and writes: blocks, batches, the L1 user
transactions and the variables of the contracts.  Rows hang on their block, so a reorganization that deletes
blocks deletes their rows.  Rows are kept in the order of insertion, which is that of the blocks. -/

namespace HermezRollup

open Fallible

/-! ### Variables of the contracts -/

structure BucketParams where
  ceilUSD : Nat
  blockStamp : Nat
  withdrawals : Nat
  rateBlocks : Nat
  rateWithdrawals : Nat
  maxWithdrawals : Nat
  deriving DecidableEq, Repr

structure RollupVariables where
  ethBlockNum : Nat
  feeAddToken : Nat
  forgeL1L2BatchTimeout : Int
  withdrawalDelay : Nat
  buckets : List BucketParams
  safeMode : Bool
  deriving DecidableEq, Repr

structure WDelayerVariables where
  ethBlockNum : Nat
  hermezGovernanceAddress : Address
  emergencyCouncilAddress : Address
  withdrawalDelay : Nat
  emergencyModeStartingBlock : Nat
  emergencyMode : Bool
  deriving DecidableEq, Repr

/-- `SCVariables`, with the variables that only the synchronizer and the API read. -/
structure ContractVariables where
  rollup : RollupVariables
  auction : AuctionVariables
  wDelayer : WDelayerVariables

/-- `SCVariablesPtr`: variables that have not changed are nil. -/
structure ContractVariablesPtr where
  rollup : Option RollupVariables := none
  auction : Option AuctionVariables := none
  wDelayer : Option WDelayerVariables := none

/-- Variables with the changed ones replaced. -/
def ContractVariables.update (vars : ContractVariables) (update : ContractVariablesPtr) : ContractVariables :=
  ⟨update.rollup.getD vars.rollup, update.auction.getD vars.auction, update.wDelayer.getD vars.wDelayer⟩

def ContractVariables.asPtr (vars : ContractVariables) : ContractVariablesPtr :=
  ⟨some vars.rollup, some vars.auction, some vars.wDelayer⟩

/-! ### Rows -/

structure Block where
  num : Nat
  hash : Nat
  deriving DecidableEq, Repr

structure Batch where
  batchNum : Nat
  ethBlockNum : Nat
  forgerAddr : Address
  stateRoot : Nat
  slotNum : Int
  forgeL1TxsNum : Option Nat := none
  deriving DecidableEq, Repr

structure BatchData where
  batch : Batch
  l1UserTxs : List L1Tx
  deriving DecidableEq, Repr

structure BlockData where
  block : Block
  l1UserTxs : List L1Tx := []
  batches : List BatchData := []
  rollupVars : Option RollupVariables := none
  auction : AuctionData := ⟨[], [], none⟩
  wDelayerVars : Option WDelayerVariables := none

def BlockData.vars (data : BlockData) : ContractVariablesPtr :=
  ⟨data.rollupVars, data.auction.vars, data.wDelayerVars⟩

/-- An L1 user transaction in the table of transactions, with the block that sent it. -/
structure L1TxRow extends L1Tx where
  ethBlockNum : Nat
  deriving DecidableEq, Repr

structure HistoryDB where
  blocks : List Block
  batches : List Batch := []
  l1UserTxs : List L1TxRow := []
  bids : List BidRow := []
  coordinators : List CoordinatorRow := []
  rollupVars : List RollupVariables := []
  auctionVars : List AuctionVariables := []
  wDelayerVars : List WDelayerVariables := []

namespace HistoryDB

/-! ### Queries -/

def getBlock (db : HistoryDB) (blockNum : Nat) : Option Block :=
  db.blocks.find? fun block => block.num = blockNum

def getLastBlock (db : HistoryDB) : Option Block :=
  db.blocks.getLast?

def getLastBatch (db : HistoryDB) : Option Batch :=
  db.batches.getLast?

def getLastL1BatchBlockNum (db : HistoryDB) : Option Nat :=
  (db.batches.filter fun batch => batch.forgeL1TxsNum.isSome).getLast?.map Batch.ethBlockNum

/-- The greatest number of a forged queue. -/
def getLastL1TxsNum (db : HistoryDB) : Option Nat :=
  (db.batches.filterMap Batch.forgeL1TxsNum).max?

/-- `none` is the error of a query without rows. -/
def getSCVars (db : HistoryDB) : Option ContractVariables := do
  return ⟨← db.rollupVars.getLast?, ← db.auctionVars.getLast?, ← db.wDelayerVars.getLast?⟩

/-- The user transactions of a queue that no batch has forged, by position. -/
def getUnforgedL1UserTxs (db : HistoryDB) (toForgeL1TxsNum : Nat) : List L1Tx :=
  ((db.l1UserTxs.filter fun row => row.batchNum = none ∧ row.toForgeL1TxsNum = some toForgeL1TxsNum).map
    L1TxRow.toL1Tx).insertionSort fun tx tx' => tx.position ≤ tx'.position

def auctionTables (db : HistoryDB) : AuctionTables where
  bids := db.bids
  coordinators := db.coordinators
  auctionVars := db.auctionVars
  batches := db.batches.map fun batch => ⟨batch.batchNum, batch.ethBlockNum, batch.slotNum⟩

/-! ### Changes -/

/-- `SetInitialSCVars`: variables that belong to the creation of the contracts are those of block 0. -/
def initialSCVars (vars : ContractVariables) : ContractVariables where
  rollup := { vars.rollup with ethBlockNum := 0 }
  auction := { vars.auction with ethBlockNum := 0, defaultSlotSetBidSlotNum := 0 }
  wDelayer := { vars.wDelayer with ethBlockNum := 0 }

def setSCVars (db : HistoryDB) (vars : ContractVariables) : HistoryDB :=
  { db with
    rollupVars := db.rollupVars ++ [vars.rollup]
    auctionVars := db.auctionVars ++ [vars.auction]
    wDelayerVars := db.wDelayerVars ++ [vars.wDelayer] }

/-- `Reorg`: blocks after the last valid one are deleted, with their rows; transactions forged by a
deleted batch are unforged. -/
def reorg (db : HistoryDB) (lastValidBlock : Nat) : HistoryDB where
  blocks := db.blocks.filter fun block => block.num ≤ lastValidBlock
  batches := db.batches.filter fun batch => batch.ethBlockNum ≤ lastValidBlock
  l1UserTxs :=
    let unforge (row : L1TxRow) : L1TxRow :=
      if db.batches.any fun batch => batch.ethBlockNum > lastValidBlock ∧ row.batchNum = some batch.batchNum then
        { row with batchNum := none }
      else row
    (db.l1UserTxs.filter fun row => row.ethBlockNum ≤ lastValidBlock).map unforge
  bids := db.bids.filter fun row => row.ethBlockNum ≤ lastValidBlock
  coordinators := db.coordinators.filter fun row => row.ethBlockNum ≤ lastValidBlock
  rollupVars := db.rollupVars.filter fun vars => vars.ethBlockNum ≤ lastValidBlock
  auctionVars := db.auctionVars.filter fun vars => vars.ethBlockNum ≤ lastValidBlock
  wDelayerVars := db.wDelayerVars.filter fun vars => vars.ethBlockNum ≤ lastValidBlock

/-- The batch after which a user transaction of the block is inserted, so that it is there when the batch
that forges it comes; 0 stands for the end of the block. -/
def addAtBatchNum (batches : List BatchData) (tx : L1Tx) : Nat :=
  match batches.find? fun data => data.batch.forgeL1TxsNum.isSome ∧ data.batch.forgeL1TxsNum = tx.toForgeL1TxsNum with
  | some data => data.batch.batchNum - 1
  | none => 0

def addL1Txs (db : HistoryDB) (ethBlockNum : Nat) (txs : List L1Tx) : HistoryDB :=
  { db with l1UserTxs := db.l1UserTxs ++ txs.map fun tx => { tx with ethBlockNum := ethBlockNum } }

/-- The trigger on new batches marks the transactions of the queue that the batch forges. -/
def forgeL1UserTxs (batch : Batch) (row : L1TxRow) : L1TxRow :=
  if batch.forgeL1TxsNum.isSome ∧ row.userOrigin ∧ batch.forgeL1TxsNum = row.toForgeL1TxsNum then
    { row with batchNum := some batch.batchNum }
  else row

def addBatch (db : HistoryDB) (batch : Batch) : Except String HistoryDB :=
  if db.batches.any fun row => row.batchNum = batch.batchNum then
    .error "duplicate key value violates unique constraint"
  else .ok { db with
    batches := db.batches ++ [batch]
    l1UserTxs := db.l1UserTxs.map (forgeL1UserTxs batch) }

/-- One batch of a block, and the user transactions inserted after it. -/
def addBatchData (data : BlockData) (db : HistoryDB) (batchData : BatchData) : Except String HistoryDB := do
  let db ← db.addBatch batchData.batch
  return db.addL1Txs data.block.num
    (data.l1UserTxs.filter fun tx => addAtBatchNum data.batches tx = batchData.batch.batchNum)

/-- `AddBlockSCData`, one transaction of the database. -/
def addBlockSCData (db : HistoryDB) (data : BlockData) : Except String HistoryDB := do
  if db.blocks.any fun block => block.num = data.block.num then
    .error "duplicate key value violates unique constraint"
  else
    let db := { db with
      blocks := db.blocks ++ [data.block]
      coordinators := db.coordinators ++ data.auction.coordinators
      bids := db.bids ++ data.auction.bids }
    let db ← data.batches.foldlM (addBatchData data) db
    let db := db.addL1Txs data.block.num (data.l1UserTxs.filter fun tx => addAtBatchNum data.batches tx = 0)
    return { db with
      rollupVars := db.rollupVars ++ data.rollupVars.toList
      auctionVars := db.auctionVars ++ data.auction.vars.toList
      wDelayerVars := db.wDelayerVars ++ data.wDelayerVars.toList }

end HistoryDB

end HermezRollup
