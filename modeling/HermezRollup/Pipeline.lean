import HermezRollup.AuctionSync
import HermezRollup.Checkpoints
import HermezRollup.TxSelector

/-! The pipeline of the coordinator (`coordinator/pipeline.go`), which forges one batch after the other
from the batch it was started at, with the pool of transactions (`db/l2db`) and the two databases it works
on: that of the selector and that of the batch builder.

What the databases hold, what the selector selects and what the builder does with it are parameters.
Beside the contents of a local database stands what the database itself does not know: the batches that were
built to get there.  SQL statements and components that fail are modelled where a batch is forged. -/

namespace HermezRollup

open Checkpoints (DB Numbered Missing)
open Fallible

/-! ### The pool -/

/-- A row of the pool with the columns that forging changes. -/
structure PoolEntry extends PoolRow where
  batchNum : Option Nat := none
  info : Option String := none
  errorCode : Option Nat := none
  errorType : Option String := none
  deriving DecidableEq

abbrev Pool := List PoolEntry

namespace Pool

/-- `StartForging`. -/
def startForging (pool : Pool) (txIDs : List Bytes) (batchNum : Nat) : Pool :=
  pool.map fun row =>
    if row.state = .pending ∧ row.txID ∈ txIDs then { row with state := .forging, batchNum := some batchNum } else row

/-- `UpdateTxsInfo`. -/
def updateTxsInfo (pool : Pool) (txs : List PoolL2Tx) (batchNum : Nat) : Pool :=
  pool.map fun row => match txs.find? fun tx => tx.txID = row.txID with
    | none => row
    | some tx => { row with
        info := some ("BatchNum: " ++ toString batchNum ++ ". " ++ tx.info)
        errorCode := some tx.errorCode
        errorType := some tx.errorType }

/-- `InvalidateOldNonces`. -/
def invalidateOldNonces (pool : Pool) (updatedAccounts : List (Nat × Nat)) (batchNum : Nat) : Pool :=
  pool.map fun row =>
    if row.state = .pending ∧ updatedAccounts.any (fun (idx, nonce) => row.fromIdx = idx ∧ row.nonce < nonce) then
      { row with state := .invalid, info := some "Nonce is smaller than account nonce", batchNum := some batchNum }
    else row

end Pool

def PoolEntry.inBatch (row : PoolEntry) : Bool :=
  row.state = .forging ∨ row.state = .forged ∨ row.state = .invalid

def PoolEntry.toPending (row : PoolEntry) : PoolEntry :=
  { row with batchNum := none, state := .pending, info := none }

/-- `Reorg`: a null batch number is in no relation. -/
def Pool.reorg (pool : Pool) (lastValidBatch : Nat) : Pool :=
  pool.map fun row => if row.inBatch ∧ row.batchNum.any (lastValidBatch < ·) then row.toPending else row

/-! ### Databases -/

/-- The databases that `Pipeline.reset` works on, with the state roots of the batches in the HistoryDB. -/
structure LocalDBs (σ : Type) where
  txSelector : DB σ
  batchBuilder : DB σ
  synchronizer : DB σ
  stateRoot : Nat → Option Nat

instance : Numbered Store where
  empty := {}
  number := Store.currentBatch

namespace LocalDBs

variable {σ : Type}

def onTxSelector (x : EStateM Missing (DB σ) Unit) : EStateM Missing (LocalDBs σ) Unit := fun dbs =>
  match x dbs.txSelector with
  | .ok () db => .ok () { dbs with txSelector := db }
  | .error e db => .error e { dbs with txSelector := db }

def onBatchBuilder (x : EStateM Missing (DB σ) Unit) : EStateM Missing (LocalDBs σ) Unit := fun dbs =>
  match x dbs.batchBuilder with
  | .ok () db => .ok () { dbs with batchBuilder := db }
  | .error e db => .error e { dbs with batchBuilder := db }

variable [Numbered σ]

/-- `LocalStateDB.Reset`. -/
def localReset (synchronizer : DB σ) (batchNum : Nat) (fromSynchronizer : Bool) : EStateM Missing (DB σ) Unit :=
  if fromSynchronizer then DB.resetFrom synchronizer batchNum else DB.reset batchNum

/-- The second attempt of `Pipeline.reset`, when the batch is known to have another state root. -/
def forceReset (root : σ → Nat) (batchNum : Nat) : EStateM Missing (LocalDBs σ) Unit := do
  let dbs ← get
  match dbs.stateRoot batchNum with
  | none => pure ()
  | some stateRoot =>
    if stateRoot = root dbs.batchBuilder.current then pure ()
    else do
      onTxSelector (localReset dbs.synchronizer batchNum true)
      onBatchBuilder (localReset dbs.synchronizer batchNum true)

/-- The databases in `Pipeline.reset`. -/
def reset (root : σ → Nat) (batchNum : Nat) : EStateM Missing (LocalDBs σ) Unit := do
  let dbs ← get
  onTxSelector (localReset dbs.synchronizer batchNum (!dbs.txSelector.checkpointExists batchNum))
  onBatchBuilder (localReset dbs.synchronizer batchNum (!dbs.batchBuilder.checkpointExists batchNum))
  forceReset root batchNum

end LocalDBs

/-! ### What the synchronizer tells -/

/-- The fields of `common.Batch` that the coordinator reads. -/
structure LastBatch where
  batchNum : Nat
  forgerAddr : Address
  stateRoot : Option Nat
  deriving DecidableEq, Repr

/-- The statistics of the synchronizer that the coordinator reads. -/
structure Stats where
  ethLastBlock : Int
  syncLastBlock : Int
  lastBatch : LastBatch
  lastL1BatchBlock : Int
  lastForgeL1TxsNum : Int
  currentSlot : Slot
  nextSlot : Slot
  deriving DecidableEq, Repr

def Stats.synced (stats : Stats) : Bool :=
  stats.ethLastBlock = stats.syncLastBlock

/-- The variables of the contracts that the coordinator reads. -/
structure SCVariables where
  auction : AuctionVariables
  forgeL1L2BatchTimeout : Int

/-- `SCVariablesPtr`: variables that have not changed are nil. -/
structure SCVariablesPtr where
  auction : Option AuctionVariables := none
  forgeL1L2BatchTimeout : Option Int := none

def updateSCVars (vars : SCVariables) (update : SCVariablesPtr) : SCVariables :=
  ⟨update.auction.getD vars.auction, update.forgeL1L2BatchTimeout.getD vars.forgeL1L2BatchTimeout⟩

/-- The configuration of the coordinator.  `l1BatchDeadline` is the portion `L1BatchTimeoutPerc` of the
timeout of the contract, in floating-point numbers. -/
structure CoordinatorConfig where
  forgerAddress : Address
  startSlotBlocksDelay : Int
  scheduleBatchBlocksAheadCheck : Int
  mustForgeAtSlotDeadline : Bool
  ignoreSlotCommitment : Bool
  forgeOncePerSlotIfTxs : Bool
  forgeDelay : Int
  forgeNoTxsDelay : Int
  l1BatchDeadline : Int → Int
  verifierIdx : Nat

/-! ### The state of a pipeline -/

/-- A batch that was built, with the queue that an L1 batch took its transactions from. -/
structure Built where
  batchNum : Nat
  pipelineNum : Nat
  queue : Option Int
  deriving DecidableEq, Repr

/-- The contents of a local database and the batches built to get there, the newest first, since the
contents were last taken from the synchronizer. -/
structure LocalState (σ : Type) where
  content : σ
  lineage : List Built := []

instance {σ : Type} [Numbered σ] : Numbered (LocalState σ) where
  empty := { content := Numbered.empty }
  number s := Numbered.number s.content

structure PipelineState where
  batchNum : Nat
  lastScheduledL1BatchBlockNum : Int
  lastForgeL1TxsNum : Int
  lastSlotForged : Int
  deriving DecidableEq, Repr

/-- A pipeline; `lastForgeTime` is `none` for the zero time, which is longer ago than any delay. -/
structure Pipeline where
  num : Nat
  state : PipelineState
  errAtBatchNum : Nat := 0
  lastForgeTime : Option Int := none
  stats : Stats
  vars : SCVariables
  statsVarsCh : List (Stats × SCVariablesPtr) := []

structure BatchInfo where
  pipelineNum : Nat
  batchNum : Nat
  l1Batch : Bool
  verifierIdx : Nat
  l1UserTxs : List L1Tx
  l1CoordTxs : List L1Tx
  l1CoordinatorTxsAuths : List Bytes
  coordIdxs : List Nat
  l2Txs : List PoolL2Tx

/-- What an iteration of the pipeline finds: the time before and after, and the answers of the provers, of
the databases, of the selector and of the builder.  The last two also say what becomes of their database. -/
structure ForgeEnv (σ : Type) where
  now : Int
  later : Int
  serverProof : Except String Unit
  invalidateMaybe : Pool → Except String Pool
  purgeMaybe : Pool → Except String Pool
  getUnforgedL1UserTxs : Int → Except String (List L1Tx)
  getUnforgedL1UserFutureTxs : Int → Except String (List L1Tx)
  getUnforgedL1UserTxsCount : Except String Nat
  getL1L2TxSelection : List L1Tx → List L1Tx → σ → Except String SelectionOut × σ
  startForging : Except String Unit
  updateTxsInfo : Except String Unit
  invalidateOldNonces : Except String Unit
  buildBatch : SelectionOut → σ → Except String Unit × σ
  calculateProof : Except String Unit

/-- `GetL2TxSelection`. -/
def ForgeEnv.getL2TxSelection {σ : Type} (env : ForgeEnv σ) (l1UserFutureTxs : List L1Tx) (s : σ) :
    Except String SelectionOut × σ :=
  env.getL1L2TxSelection [] l1UserFutureTxs s

/-- Why no batch is forged. -/
inductive ForgeStop where
  | skip (reason : String)
  | lastL1BatchNotSynced
  | failed (err : String)
  deriving DecidableEq, Repr

def idxsNonceFromPoolL2Txs (txs : List PoolL2Tx) : List (Nat × Nat) :=
  (txs.map (·.fromIdx)).dedup.map fun idx =>
    (idx, ((txs.filter fun tx => tx.fromIdx = idx).map (·.nonce)).foldl max 0)

namespace Pipeline

variable {σ : Type} (cfg : CoordinatorConfig)

/-- The pipeline in `Pipeline.reset`. -/
def start (num batchNum : Nat) (stats : Stats) (vars : SCVariables) : Pipeline where
  num := num
  state := ⟨batchNum, 0, stats.lastForgeL1TxsNum, -1⟩
  stats := stats
  vars := vars

def slotCommitted (p : Pipeline) : Bool :=
  p.stats.currentSlot.forgerCommitment || p.stats.currentSlot.slotNum = p.state.lastSlotForged

def forgedWithin (p : Pipeline) (now delay : Int) : Bool :=
  p.lastForgeTime.any fun last => now - last < delay

def forgePolicySkipPreSelection (p : Pipeline) (now : Int) : Option String :=
  if cfg.forgeOncePerSlotIfTxs then
    if p.slotCommitted then some "cfg.ForgeOncePerSlotIfTxs = true and slot already committed" else none
  else if !cfg.ignoreSlotCommitment && !p.slotCommitted then none
  else if p.forgedWithin now cfg.forgeDelay then some "we haven't reached the forge delay"
  else none

/-- Whether there is anything to forge, or an L1 batch would advance the queues. -/
def pendingTxs (env : ForgeEnv σ) (sel : SelectionOut) (l1Batch : Bool) : Except String Bool :=
  if sel.l1UserTxs.length = 0 ∧ sel.l1CoordinatorTxs.length = 0 ∧ sel.l2Txs.length = 0 then
    if l1Batch then do
      let count ← env.getUnforgedL1UserTxsCount
      return count ≠ 0
    else .ok false
  else .ok true

def forgePolicySkipPostSelection (p : Pipeline) (env : ForgeEnv σ) (sel : SelectionOut) (l1Batch : Bool) :
    Except String (Option String) := do
  let pending ← pendingTxs env sel l1Batch
  if cfg.forgeOncePerSlotIfTxs then
    if p.slotCommitted then return some "cfg.ForgeOncePerSlotIfTxs = true and slot already committed"
    else if pending then return none
    else return some "cfg.ForgeOncePerSlotIfTxs = true and no pending txs"
  else if !cfg.ignoreSlotCommitment && !p.slotCommitted then return none
  else if p.forgedWithin env.now cfg.forgeNoTxsDelay && !pending then
    return some "no txs to forge and we haven't reached the forge no txs delay"
  else return none

def shouldL1L2Batch (p : Pipeline) : Bool :=
  let lastL1BatchBlockNum := max p.state.lastScheduledL1BatchBlockNum p.stats.lastL1BatchBlock
  cfg.l1BatchDeadline p.vars.forgeL1L2BatchTimeout ≤ p.stats.ethLastBlock + 1 - lastL1BatchBlockNum

/-- The queue of the next L1 batch. -/
def nextQueue (p : Pipeline) : Int :=
  p.state.lastForgeL1TxsNum + 1

/-- `SetSyncStatsVars`. -/
def setSyncStatsVars (p : Pipeline) (stats : Stats) (vars : SCVariablesPtr) : Pipeline :=
  { p with statsVarsCh := p.statsVarsCh ++ [(stats, vars)] }

def receiveStatsVars (p : Pipeline) : Pipeline :=
  match p.statsVarsCh with
  | [] => p
  | (stats, vars) :: rest => { p with stats := stats, vars := updateSCVars p.vars vars, statsVarsCh := rest }

end Pipeline

/-! ### A batch is forged -/

/-- What a pipeline works on. -/
structure Workspace (σ : Type) where
  pipeline : Pipeline
  pool : Pool
  dbs : LocalDBs (LocalState σ)

/-- The components of a pipeline fail with the text of their error. -/
abbrev WorkM (σ : Type) := EStateM String (Workspace σ)

abbrev ForgeM (σ : Type) := EStateM ForgeStop (Workspace σ)

namespace WorkM

variable {σ : Type}

def answer {α : Type} (x : Except String α) : WorkM σ α :=
  fromState fun _ => x

def modifyPool (f : Pool → Except String Pool) : WorkM σ Unit := do
  let pool ← fromState fun w => f w.pool
  modify fun w => { w with pool := pool }

variable [Numbered σ]

/-- The selector works on its database and makes a checkpoint in the end. -/
def runTxSelector (select : σ → Except String SelectionOut × σ) : WorkM σ SelectionOut := fun w =>
  let db := w.dbs.txSelector
  match select db.current.content with
  | (.ok sel, content) =>
    .ok sel { w with dbs := { w.dbs with txSelector := db.checkpoint { db.current with content := content } } }
  | (.error e, content) =>
    .error e { w with dbs := { w.dbs with txSelector := db.edit { db.current with content := content } } }

/-- So does the builder. -/
def runBatchBuilder (built : Built) (build : σ → Except String Unit × σ) : WorkM σ Unit := fun w =>
  let db := w.dbs.batchBuilder
  match build db.current.content with
  | (.ok (), content) =>
    .ok () { w with dbs := { w.dbs with batchBuilder := db.checkpoint ⟨content, built :: db.current.lineage⟩ } }
  | (.error e, content) =>
    .error e { w with dbs := { w.dbs with batchBuilder := db.edit { db.current with content := content } } }

/-- After a skipped batch the selector goes back to the batch before. -/
def resetTxSelector (batchNum : Nat) : WorkM σ Unit := fun w =>
  match DB.reset batchNum w.dbs.txSelector with
  | .ok () db => .ok () { w with dbs := { w.dbs with txSelector := db } }
  | .error _ db => .error "Checkpoint does not exist" { w with dbs := { w.dbs with txSelector := db } }

/-- The queue of an L1 batch is passed. -/
def scheduleL1Batch (l1Batch : Bool) : WorkM σ Unit :=
  modify fun w =>
    if l1Batch then { w with pipeline := { w.pipeline with state := { w.pipeline.state with
      lastScheduledL1BatchBlockNum := w.pipeline.stats.ethLastBlock + 1
      lastForgeL1TxsNum := w.pipeline.nextQueue } } }
    else w

variable (cfg : CoordinatorConfig) (env : ForgeEnv σ)

/-- What a batch changes in the pool. -/
def markPool (batchNum : Nat) (sel : SelectionOut) : WorkM σ Unit := do
  answer env.startForging
  modifyPool fun pool => .ok (pool.startForging (sel.l2Txs.map (·.txID)) batchNum)
  answer env.updateTxsInfo
  modifyPool fun pool => .ok (pool.updateTxsInfo sel.discardedL2Txs batchNum)
  answer env.invalidateOldNonces
  modifyPool fun pool => .ok (pool.invalidateOldNonces (idxsNonceFromPoolL2Txs sel.l2Txs) batchNum)

/-- `forgeBatch` once it is decided that the batch is forged. -/
def forgeSelected (batchNum : Nat) (l1Batch : Bool) (sel : SelectionOut) : WorkM σ BatchInfo := do
  let p := (← get).pipeline
  scheduleL1Batch l1Batch
  markPool env batchNum sel
  runBatchBuilder ⟨batchNum, p.num, if l1Batch then some p.nextQueue else none⟩ (env.buildBatch sel)
  modify fun w => { w with pipeline := { w.pipeline with
    state := { w.pipeline.state with lastSlotForged := w.pipeline.stats.currentSlot.slotNum } } }
  return { pipelineNum := p.num, batchNum := batchNum, l1Batch := l1Batch, verifierIdx := cfg.verifierIdx
           l1UserTxs := sel.l1UserTxs, l1CoordTxs := sel.l1CoordinatorTxs
           l1CoordinatorTxsAuths := sel.accCreationAuths, coordIdxs := sel.coordIdxs, l2Txs := sel.l2Txs }

end WorkM

namespace ForgeM

variable {σ : Type} [Numbered σ]

/-- An L1 batch takes the transactions of the next queue.  It has to wait until the one before is synchronized. -/
def selectL1L2 (env : ForgeEnv σ) : ForgeM σ SelectionOut := do
  let p := (← get).pipeline
  if p.state.lastForgeL1TxsNum ≠ p.stats.lastForgeL1TxsNum then throw .lastL1BatchNotSynced
  else withError .failed do
    let l1UserTxs ← WorkM.answer (env.getUnforgedL1UserTxs p.nextQueue)
    let l1UserFutureTxs ← WorkM.answer (env.getUnforgedL1UserFutureTxs p.nextQueue)
    WorkM.runTxSelector (env.getL1L2TxSelection l1UserTxs l1UserFutureTxs)

def selectL2 (env : ForgeEnv σ) : ForgeM σ SelectionOut := withError .failed do
  let p := (← get).pipeline
  let l1UserFutureTxs ← WorkM.answer (env.getUnforgedL1UserFutureTxs p.state.lastForgeL1TxsNum)
  let sel ← WorkM.runTxSelector (env.getL2TxSelection l1UserFutureTxs)
  return { sel with l1UserTxs := [] }

def select (env : ForgeEnv σ) (l1Batch : Bool) : ForgeM σ SelectionOut :=
  if l1Batch then selectL1L2 env else selectL2 env

variable (cfg : CoordinatorConfig) (env : ForgeEnv σ)

/-- `forgeBatch` up to the decision that the batch is forged. -/
def prepare (batchNum : Nat) : ForgeM σ (Bool × SelectionOut) := do
  withError .failed (WorkM.modifyPool env.invalidateMaybe)
  withError .failed (WorkM.modifyPool env.purgeMaybe)
  let p := (← get).pipeline
  match p.forgePolicySkipPreSelection cfg env.now with
  | some reason => throw (.skip reason)
  | none => do
    let l1Batch := p.shouldL1L2Batch cfg
    let sel ← select env l1Batch
    match ← withError .failed (WorkM.answer (p.forgePolicySkipPostSelection cfg env sel l1Batch)) with
    | some reason => do
      withError .failed (WorkM.resetTxSelector (batchNum - 1))
      throw (.skip reason)
    | none => return (l1Batch, sel)

def forgeBatch (batchNum : Nat) : ForgeM σ BatchInfo := do
  let (l1Batch, sel) ← prepare cfg env batchNum
  withError .failed (WorkM.forgeSelected cfg env batchNum l1Batch sel)

/-- `handleForgeBatch`. -/
def handleForgeBatch (batchNum : Nat) : ForgeM σ BatchInfo := do
  withError .failed (WorkM.answer env.serverProof)
  let batchInfo ← forgeBatch cfg env batchNum
  withError .failed (WorkM.answer env.calculateProof)
  return batchInfo

end ForgeM

namespace Workspace

variable {σ : Type}

def revertPoolChanges (w : Workspace σ) (failedBatch : Nat) : Workspace σ :=
  { w with pool := w.pool.reorg (failedBatch - 1) }

/-- `setErrAtBatchNum`, after which the pipeline forges no more. -/
def setErrAtBatchNum (w : Workspace σ) (batchNum : Nat) : Workspace σ :=
  { w with pipeline := { w.pipeline with errAtBatchNum := batchNum } }

variable [Numbered σ] (cfg : CoordinatorConfig) (env : ForgeEnv σ)

/-- An iteration of the forging loop in `Start`.  When it fails, the coordinator also gets a message. -/
def iterate (w : Workspace σ) : Workspace σ :=
  if w.pipeline.errAtBatchNum ≠ 0 then w
  else
    let batchNum := w.pipeline.state.batchNum + 1
    match ForgeM.handleForgeBatch cfg env batchNum w with
    | .ok _ w => { w with pipeline := { w.pipeline with
        lastForgeTime := some env.later
        state := { w.pipeline.state with batchNum := batchNum } } }
    | .error (.failed _) w => (w.setErrAtBatchNum batchNum).revertPoolChanges batchNum
    | .error _ w => w.revertPoolChanges batchNum

end Workspace

/-! ### Pipelines come and go -/

/-- The pipeline of a node, if one runs, with what it works on.  Pipelines are numbered from 1. -/
structure Node (σ : Type) where
  pipelineNum : Nat := 0
  pipeline : Option Pipeline := none
  pool : Pool := []
  dbs : LocalDBs (LocalState σ)

namespace Node

variable {σ : Type}

def withWorkspace (node : Node σ) (w : Workspace σ) : Node σ :=
  { node with pipeline := some w.pipeline, pool := w.pool, dbs := w.dbs }

def revertPoolChanges (node : Node σ) (batchNums : List Nat) : Node σ :=
  { node with pool := batchNums.foldl (fun pool batchNum => pool.reorg (batchNum - 1)) node.pool }

/-- `Stop`.  The loops of the pipeline may have batches to revert before they end. -/
def stop (node : Node σ) (reverted : List Nat) : Node σ :=
  match node.pipeline with
  | none => node
  | some _ => { node.revertPoolChanges reverted with pipeline := none }

def receiveStatsVars (node : Node σ) : Node σ :=
  { node with pipeline := node.pipeline.map Pipeline.receiveStatsVars }

/-- A proof fails in the other loop of the pipeline, when the first one is at some batch. -/
def failProof (node : Node σ) (failedBatch batchNum : Nat) : Node σ :=
  match node.pipeline with
  | none => node
  | some p => { node.revertPoolChanges [batchNum] with pipeline := some { p with errAtBatchNum := failedBatch } }

variable [Numbered σ]

def iterate (cfg : CoordinatorConfig) (env : ForgeEnv σ) (node : Node σ) : Node σ :=
  match node.pipeline with
  | none => node
  | some p => node.withWorkspace (Workspace.iterate cfg env ⟨p, node.pool, node.dbs⟩)

/-- `Start` for a pipeline that was just made. -/
def start (root : σ → Nat) (batchNum : Nat) (stats : Stats) (vars : SCVariables) : EStateM Missing (Node σ) Unit :=
  fun node => match LocalDBs.reset (fun s => root s.content) batchNum node.dbs with
    | .ok () dbs => .ok () { node with
        dbs := dbs, pipeline := some (Pipeline.start node.pipelineNum batchNum stats vars) }
    | .error e dbs => .error e { node with dbs := dbs, pipeline := none }

end Node

end HermezRollup
