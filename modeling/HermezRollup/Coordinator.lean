import HermezRollup.Pipeline

/-! The coordinator (`coordinator/coordinator.go`): it learns of synchronized blocks, reorganizations and
failed batches, and starts and stops the pipeline.

When another coordinator has forged a batch, the transactions of the pool that were in our batches from
that number on have to be pending again.  With a pipeline running they are reverted by the function that
stops the pipeline, which takes the number of a failed batch and not that of a valid one. -/

namespace HermezRollup

open Checkpoints (DB Numbered Missing)
open Fallible

structure FromBatch where
  batchNum : Nat
  forgerAddr : Address
  stateRoot : Option Nat
  deriving DecidableEq, Repr

structure Coordinator (σ : Type) extends Node σ where
  pipelineFromBatch : FromBatch := ⟨0, 0, some 0⟩
  consts : AuctionConstants
  vars : SCVariables
  stats : Stats
  lastNonFailedBatchNum : Nat := 0

structure MsgSyncBlock where
  stats : Stats
  /-- Number and forger of the batches of the block. -/
  batches : List (Nat × Address)
  vars : SCVariablesPtr

structure MsgSyncReorg where
  stats : Stats
  vars : SCVariablesPtr

inductive CoordinatorMsg where
  | syncBlock (msg : MsgSyncBlock)
  | syncReorg (msg : MsgSyncReorg)
  | stopPipeline (failedBatchNum : Nat)

/-- What the coordinator finds when it handles a message: whether a prover is ready, the batches that a
pipeline reverts while it is stopped, and what the purger does. -/
structure CoordinatorEnv where
  proversReady : Bool := true
  reverted : List Nat := []
  invalidateMaybe : Pool → Except String Pool := .ok
  purgeMaybe : Pool → Except String Pool := .ok

abbrev CoordM (σ : Type) := EStateM String (Coordinator σ)

namespace Coordinator

variable {σ : Type} (cfg : CoordinatorConfig) (env : CoordinatorEnv)

def modifyNode (f : Node σ → Node σ) : CoordM σ Unit :=
  modify fun c => { c with toNode := f c.toNode }

def modifyPool (f : Pool → Except String Pool) : CoordM σ Unit := do
  let pool ← fromState fun c : Coordinator σ => f c.pool
  modifyNode fun node => { node with pool := pool }

/-- A batch number to go back to: that before a failed batch, or the last one synchronized. -/
def lastValidBatch (c : Coordinator σ) (failedBatchNum : Nat) : Nat :=
  if failedBatchNum ≠ 0 then failedBatchNum - 1 else c.stats.lastBatch.batchNum

def handleStopPipeline (failedBatchNum : Nat) : CoordM σ Unit := do
  let batchNum := (← get).lastValidBatch failedBatchNum
  modifyNode (·.stop env.reverted)
  modifyNode fun node => { node with pool := node.pool.reorg batchNum }
  modify fun c => { c with lastNonFailedBatchNum := batchNum }

def canForgeAt (c : Coordinator σ) (blockNum : Int) : Bool :=
  coordinatorCanForge c.consts c.vars.auction c.stats.currentSlot c.stats.nextSlot cfg.forgerAddress blockNum
    cfg.mustForgeAtSlotDeadline

/-- The first check of `syncStats`. -/
def canForge (c : Coordinator σ) : Bool :=
  let nextBlock := c.stats.ethLastBlock + 1
  c.canForgeAt cfg nextBlock &&
    (cfg.scheduleBatchBlocksAheadCheck = 0 || c.canForgeAt cfg (nextBlock + cfg.scheduleBatchBlocksAheadCheck))

def fromBatch (c : Coordinator σ) : FromBatch :=
  if c.stats.lastBatch.batchNum < c.lastNonFailedBatchNum then ⟨c.lastNonFailedBatchNum, cfg.forgerAddress, some 0⟩
  else ⟨c.stats.lastBatch.batchNum, c.stats.lastBatch.forgerAddr, c.stats.lastBatch.stateRoot⟩

def purge : CoordM σ Unit := do
  if (← get).pipeline.isNone then do
    modifyPool env.invalidateMaybe
    modifyPool env.purgeMaybe
  else pure ()

def receive (stats : Stats) (vars : SCVariablesPtr) (c : Coordinator σ) : Coordinator σ :=
  { c with
    stats := stats
    vars := updateSCVars c.vars vars
    pipeline := c.pipeline.map (·.setSyncStatsVars stats vars) }

def externalBatchNums (batches : List (Nat × Address)) : List Nat :=
  (batches.filter fun batch => batch.2 ≠ cfg.forgerAddress).map Prod.fst

/-- `handleMsgSyncBlock` up to the batches of others. -/
def handleExternalBatches (msg : MsgSyncBlock) : CoordM σ Unit := do
  modify (receive msg.stats msg.vars)
  match externalBatchNums cfg msg.batches with
  | [] => pure ()
  | first :: _ => do
    let lastValidBatch := first - 1
    if (← get).pipeline.isSome then handleStopPipeline env lastValidBatch
    else modifyNode fun node => { node with pool := node.pool.reorg lastValidBatch }

/-- Whether a reorganization took away the batch of another coordinator from which the pipeline started. -/
def reorganizesStart (c : Coordinator σ) : Bool :=
  c.stats.lastBatch.forgerAddr ≠ cfg.forgerAddress ∧
    (c.stats.lastBatch.stateRoot = none ∨ c.pipelineFromBatch.stateRoot = none ∨
      c.stats.lastBatch.stateRoot ≠ c.pipelineFromBatch.stateRoot)

def handleReorg (msg : MsgSyncReorg) : CoordM σ Unit := do
  modify (receive msg.stats msg.vars)
  if (← get).reorganizesStart cfg then handleStopPipeline env 0
  else pure ()

variable [Numbered σ] (root : σ → Nat)

/-- `Start` for the pipeline that was just made; when it fails there is none. -/
def startFrom (batchNum : Nat) : CoordM σ Unit := fun c =>
  match Node.start root batchNum c.stats c.vars c.toNode with
  | .ok () node => .ok () { c with toNode := node }
  | .error _ node => .error "Checkpoint does not exist" { c with toNode := node }

/-- The pipeline of `syncStats`. -/
def startPipeline : CoordM σ Unit := do
  let fromBatch := (← get).fromBatch cfg
  modifyNode fun node => { node with pool := node.pool.reorg fromBatch.batchNum, pipelineNum := node.pipelineNum + 1 }
  if !env.proversReady then throw "no provers in the pool"
  else do
    modify fun c => { c with pipelineFromBatch := fromBatch }
    startFrom root fromBatch.batchNum

def switchPipeline : CoordM σ Unit := do
  let c ← get
  let canForge := c.canForge cfg
  match c.pipeline with
  | none =>
    -- in the first blocks of a slot the start of the pipeline is delayed
    if canForge && c.consts.relativeBlock (c.stats.ethLastBlock + 1) < cfg.startSlotBlocksDelay then pure ()
    else if canForge then startPipeline cfg env root
    else pure ()
  | some _ => if !canForge then modifyNode (·.stop env.reverted) else pure ()

def syncStats : CoordM σ Unit := do
  switchPipeline cfg env root
  purge env

def handleMsgSyncBlock (msg : MsgSyncBlock) : CoordM σ Unit := do
  handleExternalBatches cfg env msg
  if !(← get).stats.synced then pure ()
  else syncStats cfg env root

def handleMsg : CoordinatorMsg → CoordM σ Unit
  | .syncBlock msg => handleMsgSyncBlock cfg env root msg
  | .syncReorg msg => handleReorg cfg env msg
  | .stopPipeline failedBatchNum => handleStopPipeline env failedBatchNum

def handleTimer : CoordM σ Unit := do
  if !(← get).stats.synced then pure ()
  else syncStats cfg env root

end Coordinator

/-! ### Reverted transactions -/

namespace Pool

/-- What the pool has to be when another coordinator has forged a batch: the transactions of our batches
from that number on are pending. -/
def revertFrom (pool : Pool) (batchNum : Nat) : Pool :=
  pool.map fun row => if row.inBatch ∧ row.batchNum.any (batchNum ≤ ·) then row.toPending else row

theorem reorg_eq_revertFrom (pool : Pool) (lastValidBatch : Nat) :
    pool.reorg lastValidBatch = pool.revertFrom (lastValidBatch + 1) := by
  rw [reorg, revertFrom]
  simp only [Nat.succ_le_iff]

end Pool

namespace PoolEntry

variable {row : PoolEntry}

theorem inBatch_toPending (row : PoolEntry) : row.toPending.inBatch = false := by
  simp [inBatch, toPending]

theorem toPending_ne (h : row.inBatch) : row.toPending ≠ row := by
  intro heq
  have hfalse := inBatch_toPending row
  rw [heq, h] at hfalse
  cases hfalse

end PoolEntry

namespace Pool

variable {pool : Pool} {m n : Nat}

theorem revertFrom_revertFrom (pool : Pool) (m n : Nat) : (pool.revertFrom m).revertFrom n = pool.revertFrom (min m n) := by
  rw [revertFrom, revertFrom, revertFrom, List.map_map]
  apply List.map_congr_left
  intro row _
  rw [Function.comp_apply]
  by_cases hrow : row.inBatch = true
  · cases hbatch : row.batchNum with
    | none => simp [hbatch]
    | some b =>
      by_cases hm : m ≤ b
      · have hmin : min m n ≤ b := (min_le_left m n).trans hm
        simp [hrow, hm, PoolEntry.inBatch_toPending]
      · simp [hrow, hbatch, hm]
  · simp [hrow]

theorem foldl_revertFrom (pool : Pool) (ns : List Nat) (n : Nat) :
    (ns.foldl revertFrom pool).revertFrom n = pool.revertFrom (ns.foldl min n) := by
  induction ns generalizing pool n with
  | nil => rfl
  | cons m ns ih =>
    rw [List.foldl_cons, List.foldl_cons, ih, revertFrom_revertFrom, min_comm n m, List.foldl_assoc]

/-- Two bounds give the same pool exactly when no transaction is between them. -/
theorem revertFrom_eq_iff :
    pool.revertFrom m = pool.revertFrom n ↔
      ∀ row ∈ pool, row.inBatch → ∀ b, row.batchNum = some b → (m ≤ b ↔ n ≤ b) := by
  rw [revertFrom, revertFrom, List.map_inj_left]
  apply forall_congr'
  intro row
  apply imp_congr_right
  intro _
  cases row.batchNum with
  | none => simp
  | some b =>
    by_cases hrow : row.inBatch = true
    · by_cases hm : m ≤ b <;> by_cases hn : n ≤ b
        <;> simp [hrow, hm, hn, PoolEntry.toPending_ne hrow, (PoolEntry.toPending_ne hrow).symm]
    · simp [hrow]

end Pool

namespace Coordinator

variable {σ : Type} {cfg : CoordinatorConfig} {env : CoordinatorEnv} {msg : MsgSyncBlock}

/-- The first batch whose transactions are pending again when a running pipeline is stopped for a batch of
another coordinator: the loops of the pipeline and `handleStopPipeline` each have their own. -/
def revertedFrom (env : CoordinatorEnv) (msg : MsgSyncBlock) (first : Nat) : Nat :=
  (env.reverted.map fun batchNum => batchNum - 1 + 1).foldl min
    (if first = 1 then msg.stats.lastBatch.batchNum + 1 else first - 1)

theorem stop_pool {node : Node σ} (hrunning : node.pipeline.isSome) (reverted : List Nat) :
    (node.stop reverted).pool = (reverted.map fun batchNum => batchNum - 1 + 1).foldl Pool.revertFrom node.pool := by
  obtain ⟨p, hp⟩ := Option.isSome_iff_exists.mp hrunning
  rw [Node.stop, hp, List.foldl_map]
  simp only [Node.revertPoolChanges, Pool.reorg_eq_revertFrom]

theorem lastValidBatch_received (c : Coordinator σ) {first : Nat} (hpos : 1 ≤ first) :
    (receive msg.stats msg.vars c).lastValidBatch (first - 1) + 1 =
      if first = 1 then msg.stats.lastBatch.batchNum + 1 else first - 1 := by
  rw [lastValidBatch]
  by_cases hone : first = 1
  · rw [if_pos hone, if_neg (by omega)]
    rfl
  · rw [if_neg hone, if_pos (by omega)]
    omega

/-- What is reverted for the batches of others, with and without a pipeline. -/
theorem handleExternalBatches_ok (env : CoordinatorEnv) (c : Coordinator σ) {first : Nat} {rest : List Nat}
    (hfirst : externalBatchNums cfg msg.batches = first :: rest) (hpos : 1 ≤ first) :
    ∃ c', handleExternalBatches cfg env msg c = .ok () c' ∧
      c'.pool = c.pool.revertFrom (if c.pipeline.isSome then revertedFrom env msg first else first) := by
  have hreceived : (receive msg.stats msg.vars c).pipeline.isSome = c.pipeline.isSome := Option.isSome_map
  rw [handleExternalBatches, bind_of_ok (modify_run _ _), hfirst]
  dsimp only
  rw [bind_of_ok (get_run _), hreceived]
  by_cases hrunning : c.pipeline.isSome = true
  · rw [if_pos hrunning, if_pos hrunning]
    refine ⟨_, rfl, ?_⟩
    show ((receive msg.stats msg.vars c).toNode.stop env.reverted).pool.reorg
      ((receive msg.stats msg.vars c).lastValidBatch (first - 1)) = _
    rw [stop_pool (hreceived.trans hrunning), Pool.reorg_eq_revertFrom, Pool.foldl_revertFrom, revertedFrom,
      lastValidBatch_received c hpos]
    rfl
  · rw [if_neg hrunning, if_neg hrunning]
    refine ⟨_, rfl, ?_⟩
    show Pool.reorg c.pool (first - 1) = _
    rw [Pool.reorg_eq_revertFrom, Nat.sub_add_cancel hpos]

/-- **Batches of others.**  The transactions of our batches from the first batch of another coordinator on
are pending, and no others become so, exactly when no pipeline runs or when no transaction in a batch is
between that batch and the one from which a stopped pipeline is reverted. -/
theorem externalBatches_revertPool (cfg : CoordinatorConfig) (env : CoordinatorEnv) (msg : MsgSyncBlock) (c : Coordinator σ)
    {first : Nat} {rest : List Nat} (hfirst : externalBatchNums cfg msg.batches = first :: rest) (hpos : 1 ≤ first) :
    ∃ c', handleExternalBatches cfg env msg c = .ok () c' ∧
      (c'.pool = c.pool.revertFrom first ↔
        (c.pipeline.isSome → ∀ row ∈ c.pool, row.inBatch → ∀ b, row.batchNum = some b →
          (revertedFrom env msg first ≤ b ↔ first ≤ b))) := by
  obtain ⟨c', hrun, hpool⟩ := handleExternalBatches_ok env c hfirst hpos
  refine ⟨c', hrun, ?_⟩
  rw [hpool]
  by_cases hrunning : c.pipeline.isSome = true
  · rw [if_pos hrunning, Pool.revertFrom_eq_iff]
    exact ⟨fun h _ => h, fun h => h hrunning⟩
  · rw [if_neg hrunning]
    exact ⟨fun _ hrunning' => absurd hrunning' hrunning, fun _ => rfl⟩

/-! A coordinator with address 7 that may forge at block 11, and a transaction of the pool. -/

def soloConfig : CoordinatorConfig where
  forgerAddress := 7
  startSlotBlocksDelay := 0
  scheduleBatchBlocksAheadCheck := 0
  mustForgeAtSlotDeadline := false
  ignoreSlotCommitment := true
  forgeOncePerSlotIfTxs := false
  forgeDelay := 0
  forgeNoTxsDelay := 0
  l1BatchDeadline _ := 5
  verifierIdx := 0

def soloVars : SCVariables where
  auction := ⟨0, 0, 7, "", fun _ => 0, 0, 2, 4320, fun _ => 0, 0, 20⟩
  forgeL1L2BatchTimeout := 10

def soloStats (batchNum : Nat) (forger : Address) : Stats where
  ethLastBlock := 10
  syncLastBlock := 10
  lastBatch := ⟨batchNum, forger, some 0⟩
  lastL1BatchBlock := 0
  lastForgeL1TxsNum := -1
  currentSlot := { endBlock := 39, forger := 7 }
  nextSlot := { slotNum := 1, startBlock := 40, endBlock := 79, forger := 7 }

def soloCoordinator (pipeline : Option Pipeline) (pool : Pool) : Coordinator Store where
  pipelineNum := 1
  pipeline := pipeline
  pool := pool
  dbs := ⟨.new, .new, .new, fun _ => none⟩
  consts := ⟨0⟩
  vars := soloVars
  stats := soloStats 1 7

def exitEntry (state : PoolL2TxState) (batchNum : Option Nat) : PoolEntry where
  txID := [2, 1]
  fromIdx := 256
  toIdx := 1
  toEthAddr := none
  toBJJ := none
  tokenID := 0
  amount := 5
  fee := 0
  nonce := 0
  state := state
  signature := 0
  rqFromIdx := none
  rqToIdx := none
  rqToEthAddr := none
  rqToBJJ := none
  rqTokenID := none
  rqAmount := none
  rqFee := none
  rqNonce := none
  type := "Exit"
  rqOffset := none
  atomicGroupID := none
  maxNumBatch := none
  batchNum := batchNum

def secondBatchOfOther : MsgSyncBlock where
  stats := soloStats 2 8
  batches := [(2, 8)]
  vars := {}

def soloPipeline : Pipeline :=
  Pipeline.start 1 1 (soloStats 1 7) soloVars

theorem externalBatches_revertPool_secondBatch :
    ∃ c', handleExternalBatches soloConfig {} secondBatchOfOther
        (soloCoordinator (some soloPipeline) [exitEntry .forging (some 2)]) = .ok () c' ∧
      c'.pool = [exitEntry .pending none] := by
  have hfirst : externalBatchNums soloConfig secondBatchOfOther.batches = [2] := by decide
  obtain ⟨c', hrun, hiff⟩ := externalBatches_revertPool soloConfig {} secondBatchOfOther
    (soloCoordinator (some soloPipeline) [exitEntry .forging (some 2)]) hfirst (by decide)
  refine ⟨c', hrun, (hiff.mpr fun _ row hrow _ b hb => ?_).trans (by decide +kernel)⟩
  cases List.mem_singleton.mp hrow
  cases hb
  decide

/-- The transaction that was forged in our batch 1 is offered again when a pipeline runs. -/
theorem forgedBatch_reverted :
    ∃ c', handleExternalBatches soloConfig {} secondBatchOfOther
        (soloCoordinator (some soloPipeline) [exitEntry .forged (some 1)]) = .ok () c' ∧
      c'.pool = [exitEntry .pending none] ∧
      c'.pool ≠ Pool.revertFrom [exitEntry .forged (some 1)] 2 := by
  refine ⟨_, rfl, ?_, ?_⟩
  · decide +kernel
  · decide +kernel

end Coordinator

end HermezRollup
