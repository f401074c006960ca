import HermezRollup.Coordinator

/-! The manager of Ethereum transactions (`coordinator/txmanager.go`).  It takes the batches of the pipelines
from a channel, sends the forge call of each to the contract and looks for the receipts of what it has sent,
in between the messages of the coordinator.

A batch that arrives from a pipeline that is already discarded is reported in the log, and then treated as
any other.  The same happens to the batches that are behind one that could not be sent.  The answers of the
Ethereum node are parameters of each step; the manager is not stopped. -/

namespace HermezRollup

/-! ### The queue of sent batches -/

/-- `Queue`, whose next entry is always one of the list. -/
structure TxQueue (α : Type) where
  list : List α := []
  next : Nat := 0
  next_lt : next < max 1 list.length := by decide

namespace TxQueue

variable {α : Type}

def push (q : TxQueue α) (a : α) : TxQueue α where
  list := q.list ++ [a]
  next := q.next
  next_lt := by
    have h := q.next_lt
    rw [List.length_append, List.length_singleton]
    omega

/-- What `Next` leaves in the queue. -/
def advance (q : TxQueue α) : TxQueue α where
  list := q.list
  next := if q.list.length = 0 then 0 else (q.next + 1) % q.list.length
  next_lt := by
    split
    · omega
    · exact lt_of_lt_of_le (Nat.mod_lt _ (by omega)) (le_max_right _ _)

def set (q : TxQueue α) (position : Nat) (a : α) : TxQueue α where
  list := q.list.set position a
  next := q.next
  next_lt := by
    rw [List.length_set]
    exact q.next_lt

def remove (q : TxQueue α) (position : Nat) : TxQueue α where
  list := q.list.eraseIdx position
  next := if (q.list.eraseIdx position).length = 0 then 0 else position % (q.list.eraseIdx position).length
  next_lt := by
    split
    · omega
    · exact lt_of_lt_of_le (Nat.mod_lt _ (by omega)) (le_max_right _ _)

end TxQueue

/-! ### Data -/

structure EthTx where
  hash : Nat
  nonce : UInt64
  deriving DecidableEq, Repr

structure Receipt where
  status : Nat
  blockNumber : Int
  deriving DecidableEq, Repr

def receiptStatusFailed : Nat := 0
def receiptStatusSuccessful : Nat := 1

/-- The fields of `bind.TransactOpts` that the manager changes. -/
structure TxAuth where
  nonce : Int
  gasPrice : Int
  deriving DecidableEq, Repr

/-- A batch that was sent, with its place among the batches received. -/
structure SentBatch extends BatchInfo where
  id : Nat
  auth : TxAuth
  ethTxs : List EthTx
  ethTxs_ne : ethTxs ≠ []
  sendTimestamp : Int
  receipt : Option Receipt := none

/-- The answers to `RollupForgeBatch`; errors are told apart by their text. -/
inductive SendReply where
  | accepted (hash : Nat)
  | nonceTooLow
  | nonceTooHigh
  | replaceUnderpriced
  | underpriced
  | failed (err : String)
  deriving DecidableEq, Repr

inductive ReceiptReply where
  | found (receipt : Receipt)
  | notFound
  | failed (err : String)
  deriving DecidableEq, Repr

/-- What a step of the manager finds.  A receipt is asked for in rounds, in each of them a number of times. -/
structure EthAnswers where
  newAuth : Except String Unit := .ok ()
  sends : List SendReply := []
  receipt : Nat → EthTx → Nat → ReceiptReply := fun _ _ _ => .notFound
  ethCall : String := ""
  nonceAt : Except String UInt64 := .ok 0
  doneForging : Except String Unit := .ok ()
  now : Int := 0

structure TxManagerConfig extends CoordinatorConfig where
  sendBatchBlocksMarginCheck : Int
  ethClientAttempts : Nat
  ethClientAttempts_pos : 0 < ethClientAttempts
  /-- In gwei. -/
  maxGasPrice : Int
  gasPriceIncPerc : Int
  ethNoReuseNonce : Bool
  ethTxResendTimeout : Int
  confirmBlocks : Int

structure TxManager where
  consts : AuctionConstants
  vars : SCVariables
  stats : Stats
  minPipelineNum : Nat := 0
  queue : TxQueue SentBatch := {}
  lastSuccessBatch : Int := 0
  accNonce : UInt64
  accNextNonce : UInt64
  lastSentL1BatchBlockNum : Int := 0

/-- What the manager does that others see, and what it is told.  A batch that is received is given the number
of those received before it. -/
inductive ManagerEvent where
  | received (pipelineNum : Nat)
  | sent (id : Nat)
  /-- `shouldSendRollupForgeBatch` or the first `sendRollupForgeBatch` fails. -/
  | refused (id : Nat)
  | discarded (pipelineNum : Nat)
  /-- `MsgStopPipeline`. -/
  | stopPipeline (reason : String)
  deriving DecidableEq, Repr

inductive ManagerMsg where
  | statsVars (stats : Stats) (vars : SCVariablesPtr)
  | discardPipeline (pipelineNum : Nat)
  | batch (batchInfo : BatchInfo)
  | timer

def gwei : Int := 10 ^ 9

/-- The price of `NewAuth`: that of the node and that of Etherscan are replaced by a constant. -/
def newGasPrice (cfg : TxManagerConfig) : Int :=
  let gasPrice : Int := 250000000000
  if cfg.gasPriceIncPerc ≠ 0 then gasPrice + gasPrice * cfg.gasPriceIncPerc / 100 else gasPrice

def addPerc (v p : Int) : Int :=
  let r := v * p / 100
  v + if r = 0 then 1 else r

/-! ### Sending a batch -/

/-- The loop of `sendRollupForgeBatch`, with the attempts that are left and the last error.  An answer about
the nonce or the price does not count as an attempt, so the loop may not end: `none` is a call that has not
returned. -/
def sendLoop (maxGasPrice : Int) : List SendReply → Nat → TxAuth → String → Option (TxAuth × Except String Nat)
  | _, 0, auth, err => some (auth, .error ("reached max attempts for ethClient.RollupForgeBatch: " ++ err))
  | replies, attempts + 1, auth, _ =>
    if maxGasPrice * gwei < auth.gasPrice then
      some (auth, .error ("calculated gasPrice (" ++ toString auth.gasPrice ++ ") > maxGasPrice (" ++
        toString maxGasPrice ++ ")"))
    else match replies with
      | [] => none
      | .accepted hash :: _ => some (auth, .ok hash)
      | .nonceTooLow :: replies =>
        sendLoop maxGasPrice replies (attempts + 1) { auth with nonce := auth.nonce + 1 } "nonce too low"
      | .nonceTooHigh :: replies =>
        sendLoop maxGasPrice replies (attempts + 1) { auth with nonce := auth.nonce - 1 } "nonce too high"
      | .replaceUnderpriced :: replies =>
        sendLoop maxGasPrice replies (attempts + 1) { auth with gasPrice := addPerc auth.gasPrice 10 }
          "replacement transaction underpriced"
      | .underpriced :: replies =>
        sendLoop maxGasPrice replies (attempts + 1) { auth with gasPrice := addPerc auth.gasPrice 10 }
          "transaction underpriced"
      | .failed err :: replies => sendLoop maxGasPrice replies attempts auth err

/-- `Uint64` of a big integer. -/
def uint64 (n : Int) : UInt64 :=
  UInt64.ofNat n.natAbs

namespace TxManager

variable (cfg : TxManagerConfig) (env : EthAnswers)

def canForgeAt (t : TxManager) (blockNum : Int) : Bool :=
  coordinatorCanForge t.consts t.vars.auction t.stats.currentSlot t.stats.nextSlot cfg.forgerAddress blockNum
    cfg.mustForgeAtSlotDeadline

def mustL1L2Batch (t : TxManager) (blockNum : Int) : Bool :=
  let lastL1BatchBlockNum := max t.lastSentL1BatchBlockNum t.stats.lastL1BatchBlock
  t.vars.forgeL1L2BatchTimeout - 1 ≤ blockNum - lastL1BatchBlockNum

def shouldSendRollupForgeBatch (t : TxManager) (batchInfo : BatchInfo) : Except String Unit :=
  let nextBlock := t.stats.ethLastBlock + 1
  let margin := cfg.sendBatchBlocksMarginCheck
  if !t.canForgeAt cfg nextBlock then .error ("can't forge in the next block: " ++ toString nextBlock)
  else if t.mustL1L2Batch nextBlock && !batchInfo.l1Batch then
    .error ("can't forge non-L1Batch in the next block: " ++ toString nextBlock)
  else if margin = 0 then .ok ()
  else if !t.canForgeAt cfg (nextBlock + margin) then
    .error ("can't forge after " ++ toString margin ++ " blocks: " ++ toString nextBlock)
  else if t.mustL1L2Batch (nextBlock + margin) && !batchInfo.l1Batch then
    .error ("can't forge non-L1Batch after " ++ toString margin ++ " blocks: " ++ toString nextBlock)
  else .ok ()

def newAuth (t : TxManager) : TxAuth :=
  ⟨t.accNextNonce.toInt64.toInt, newGasPrice cfg⟩

def firstSent (t : TxManager) (batchInfo : BatchInfo) (auth : TxAuth) : TxManager :=
  { t with
    accNextNonce := uint64 auth.nonce + 1
    lastSentL1BatchBlockNum := if batchInfo.l1Batch then t.stats.ethLastBlock + 1 else t.lastSentL1BatchBlockNum }

/-- The manager does not go on with a batch. -/
def refuse (t : TxManager) (id : Nat) (reason : String) : TxManager × List ManagerEvent :=
  (t, [.refused id, .stopPipeline reason])

/-- A batch from the channel, once `shouldSendRollupForgeBatch` has let it pass. -/
def sendBatch (t : TxManager) (id : Nat) (batchInfo : BatchInfo) : Option (TxManager × List ManagerEvent) :=
  match env.newAuth with
  | .error err => some (t.refuse id ("forgeBatch send: " ++ err))
  | .ok () => do
    let (auth, answer) ← sendLoop cfg.maxGasPrice env.sends cfg.ethClientAttempts (t.newAuth cfg) ""
    match answer with
    | .error err => some (t.refuse id ("forgeBatch send: " ++ err))
    | .ok hash =>
      let t := t.firstSent batchInfo auth
      match env.doneForging with
      | .error err =>
        let (t, events) := t.refuse id ("forgeBatch send: " ++ err)
        some (t, .sent id :: events)
      | .ok () =>
        let batch : SentBatch := { batchInfo with
          id := id, auth := auth, ethTxs := [⟨hash, uint64 auth.nonce⟩], ethTxs_ne := List.cons_ne_nil _ _
          sendTimestamp := env.now }
        some ({ t with queue := t.queue.push batch }, [.sent id])

/-- A batch from the channel.  One of a discarded pipeline is only reported in the log. -/
def receiveBatch (t : TxManager) (id : Nat) (batchInfo : BatchInfo) : Option (TxManager × List ManagerEvent) :=
  match t.shouldSendRollupForgeBatch cfg batchInfo with
  | .error err => some (t.refuse id ("forgeBatch shouldSend: " ++ err))
  | .ok () => t.sendBatch cfg env id batchInfo

/-- The forge call is repeated with a higher price for the batch at a position of the queue. -/
def resendBatch (t : TxManager) (position : Nat) (batch : SentBatch) : Option (TxManager × List ManagerEvent) := do
  let auth := { batch.auth with gasPrice := addPerc batch.auth.gasPrice 10 }
  let (auth, answer) ← sendLoop cfg.maxGasPrice env.sends cfg.ethClientAttempts auth ""
  match answer with
  | .error err => some ({ t with queue := t.queue.set position { batch with auth := auth } },
      [.stopPipeline ("forgeBatch resend: " ++ err)])
  | .ok hash =>
    let batch : SentBatch := { batch with
      auth := auth
      ethTxs := batch.ethTxs ++ [⟨hash, uint64 auth.nonce⟩]
      ethTxs_ne := List.append_ne_nil_of_right_ne_nil _ (List.cons_ne_nil _ _)
      sendTimestamp := env.now }
    let t := { t with queue := t.queue.set position batch }
    match env.doneForging with
    | .error err => some (t, [.sent batch.id, .stopPipeline ("forgeBatch resend: " ++ err)])
    | .ok () => some (t, [.sent batch.id])

/-! ### Receipts -/

def askReceipt (answers : Nat → ReceiptReply) : Nat → Nat → String → Except String (Option Receipt)
  | 0, _, err => .error ("reached max attempts for ethClient.EthTransactionReceipt: " ++ err)
  | attempts + 1, attempt, _ => match answers attempt with
    | .found receipt => .ok (some receipt)
    | .notFound => .ok none
    | .failed err => askReceipt answers attempts (attempt + 1) err

def firstReceipt (round : Nat) : List EthTx → Except String (Option Receipt)
  | [] => .ok none
  | tx :: txs => do
    match ← askReceipt (env.receipt round tx) cfg.ethClientAttempts 0 "" with
    | some receipt => return some receipt
    | none => firstReceipt round txs

/-- `checkEthTransactionReceipt`, from the last transaction of a batch to the first. -/
def checkEthTransactionReceipt (round : Nat) (batch : SentBatch) : Except String SentBatch := do
  return { batch with receipt := ← firstReceipt cfg env round batch.ethTxs.reverse }

/-- `handleReceipt`: the number of confirmations, if there are any. -/
def handleReceipt (t : TxManager) (batch : SentBatch) : TxManager × Except String (Option Int) :=
  match batch.receipt with
  | none => (t, .ok none)
  | some receipt =>
    let nonce := (batch.ethTxs.getLast batch.ethTxs_ne).nonce + 1
    let batchNum : Int := batch.batchNum
    let t : TxManager := { t with accNonce := if t.accNonce < nonce then nonce else t.accNonce }
    if receipt.status = receiptStatusFailed then
      ({ t with lastSuccessBatch := if batchNum ≤ t.lastSuccessBatch then batchNum - 1 else t.lastSuccessBatch },
        .error ("ethereum transaction receipt status is failed: " ++ env.ethCall))
    else if receipt.status = receiptStatusSuccessful then
      ({ t with lastSuccessBatch := if t.lastSuccessBatch < batchNum then batchNum else t.lastSuccessBatch },
        .ok (some (t.stats.ethLastBlock - receipt.blockNumber)))
    else (t, .ok none)

/-- An iteration of `removeBadBatchInfos` for the batch at a position: the next position and the manager. -/
def removeIfBad (t : TxManager) (round next : Nat) (batch : SentBatch) : Nat × TxManager :=
  match checkEthTransactionReceipt cfg env round batch with
  | .error _ => (next + 1, t)
  | .ok batch =>
    let t := { t with queue := t.queue.set next batch }
    match t.handleReceipt env batch with
    | (t, .error _) =>
      (next, { t with
        minPipelineNum := if t.minPipelineNum ≤ batch.pipelineNum then batch.pipelineNum + 1 else t.minPipelineNum
        queue := t.queue.remove next })
    | (t, .ok none) =>
      -- pending, but of a cancelled pipeline
      if batch.pipelineNum < t.minPipelineNum then (next, { t with queue := t.queue.remove next })
      else (next + 1, t)
    | (t, .ok (some _)) => (next + 1, t)

/-- The loop of `removeBadBatchInfos`, with as many rounds as there are batches: each round goes on to the next
batch or removes one. -/
def removeLoop : Nat → Nat → Nat → TxManager → TxManager
  | 0, _, _, t => t
  | rounds + 1, round, next, t => match t.queue.list[next]? with
    | none => t
    | some batch =>
      let (next, t) := t.removeIfBad cfg env round next batch
      removeLoop rounds (round + 1) next t

def removeBadBatchInfos (t : TxManager) : TxManager × Except String Unit :=
  let t := removeLoop cfg env t.queue.list.length 1 0 t
  match env.nonceAt with
  | .error err => (t, .error err)
  | .ok accNonce => (if cfg.ethNoReuseNonce then t else { t with accNextNonce := accNonce }, .ok ())

/-! ### The loop of the manager -/

def discardPipeline (t : TxManager) (pipelineNum : Nat) : TxManager :=
  (({ t with minPipelineNum := pipelineNum + 1 } : TxManager).removeBadBatchInfos cfg env).1

/-- The receipt of a batch does not say that it failed. -/
def followUp (t : TxManager) (position : Nat) (batch : SentBatch) (confirm : Option Int) :
    Option (TxManager × List ManagerEvent) :=
  if !cfg.ethNoReuseNonce ∧ confirm = none ∧ cfg.ethTxResendTimeout < env.now - batch.sendTimestamp then
    t.resendBatch cfg env position batch
  else if confirm.any (cfg.confirmBlocks ≤ ·) then some ({ t with queue := t.queue.remove position }, [])
  else some (t, [])

/-- The receipt of the batch at a position is looked at. -/
def checkBatch (t : TxManager) (position : Nat) (batch : SentBatch) : Option (TxManager × List ManagerEvent) :=
  match t.handleReceipt env batch with
  | (t, .error err) => match t.removeBadBatchInfos cfg env with
    | (t, .error _) => some (t, [])
    | (t, .ok ()) => some (t, [.stopPipeline ("forgeBatch reject: " ++ err)])
  | (t, .ok confirm) => t.followUp cfg env position batch confirm

def checkNext (t : TxManager) : Option (TxManager × List ManagerEvent) :=
  match t.queue.list[t.queue.next]? with
  | none => some (t, [])
  | some batch =>
    let position := t.queue.next
    let t := { t with queue := t.queue.advance }
    match checkEthTransactionReceipt cfg env 0 batch with
    | .error err => do
      -- the receipt of an earlier check, if any, is looked at again
      let (t, events) ← t.checkBatch cfg env position batch
      return (t, .stopPipeline ("forgeBatch receipt: " ++ err) :: events)
    | .ok batch => ({ t with queue := t.queue.set position batch } : TxManager).checkBatch cfg env position batch

/-- A message that the loop of `Run` takes from a channel. -/
def handleMsg (t : TxManager) (id : Nat) : ManagerMsg → Option (TxManager × List ManagerEvent)
  | .statsVars stats vars => some ({ t with stats := stats, vars := updateSCVars t.vars vars }, [])
  | .discardPipeline pipelineNum => some (t.discardPipeline cfg env pipelineNum, [.discarded pipelineNum])
  | .batch batchInfo => do
    let (t, events) ← t.receiveBatch cfg env id batchInfo
    return (t, .received batchInfo.pipelineNum :: events)
  | .timer => t.checkNext cfg env

/-- `NewTxManager`, and the first message that `Run` waits for. -/
def start (consts : AuctionConstants) (initSCVars : SCVariables) (accNonce : UInt64) (stats : Stats)
    (vars : SCVariablesPtr) : TxManager where
  consts := consts
  vars := updateSCVars initSCVars vars
  stats := stats
  accNonce := accNonce
  accNextNonce := accNonce

/-! ### What a message changes -/

def ids (t : TxManager) : List Nat :=
  t.queue.list.map SentBatch.id

/-- Batches may leave the queue and pipelines may be discarded. -/
structure Prunes (t t' : TxManager) : Prop where
  ids : ∀ id ∈ t'.ids, id ∈ t.ids
  minPipelineNum : t.minPipelineNum ≤ t'.minPipelineNum

variable {cfg : TxManagerConfig} {env : EthAnswers} {t t' : TxManager} {id : Nat} {events : List ManagerEvent}

theorem Prunes.refl (t : TxManager) : t.Prunes t :=
  ⟨fun _ h => h, le_rfl⟩

theorem Prunes.trans {t'' : TxManager} (h : t.Prunes t') (h' : t'.Prunes t'') : t.Prunes t'' :=
  ⟨fun id hid => h.ids id (h'.ids id hid), h.minPipelineNum.trans h'.minPipelineNum⟩

theorem prunes_remove (t : TxManager) (position : Nat) : t.Prunes { t with queue := t.queue.remove position } := by
  refine ⟨fun id hid => ?_, le_rfl⟩
  obtain ⟨batch, hbatch, rfl⟩ := List.mem_map.mp hid
  exact List.mem_map_of_mem (List.mem_of_mem_eraseIdx hbatch)

variable {batch : SentBatch}

theorem prunes_set {position : Nat} {batch' : SentBatch} (hat : t.queue.list[position]? = some batch)
    (hid : batch'.id = batch.id) : t.Prunes { t with queue := t.queue.set position batch' } := by
  refine ⟨fun id hmem => ?_, le_rfl⟩
  obtain ⟨other, hother, rfl⟩ := List.mem_map.mp hmem
  obtain hold | rfl := List.mem_or_eq_of_mem_set hother
  · exact List.mem_map_of_mem hold
  · rw [hid]
    exact List.mem_map_of_mem (List.mem_of_getElem? hat)

theorem checkEthTransactionReceipt_ok {round : Nat} {batch' : SentBatch}
    (h : checkEthTransactionReceipt cfg env round batch = .ok batch') :
    batch'.id = batch.id ∧ batch'.pipelineNum = batch.pipelineNum := by
  obtain ⟨receipt, -, h⟩ := Fallible.except_bind_ok.mp h
  cases h
  exact ⟨rfl, rfl⟩

theorem handleReceipt_queue (env : EthAnswers) (t : TxManager) (batch : SentBatch) :
    (t.handleReceipt env batch).1.queue = t.queue ∧
      (t.handleReceipt env batch).1.minPipelineNum = t.minPipelineNum := by
  rw [handleReceipt]
  cases batch.receipt with
  | none => exact ⟨rfl, rfl⟩
  | some receipt =>
    dsimp only
    by_cases hfailed : receipt.status = receiptStatusFailed
    · rw [if_pos hfailed]
      exact ⟨rfl, rfl⟩
    · rw [if_neg hfailed]
      split <;> exact ⟨rfl, rfl⟩

theorem prunes_handleReceipt (env : EthAnswers) (t : TxManager) (batch : SentBatch) :
    t.Prunes (t.handleReceipt env batch).1 := by
  obtain ⟨hqueue, hmin⟩ := handleReceipt_queue env t batch
  refine ⟨fun id hid => ?_, hmin.ge⟩
  rw [ids, hqueue] at hid
  exact hid

theorem removeIfBad_prunes {round next : Nat} (hat : t.queue.list[next]? = some batch) :
    t.Prunes (t.removeIfBad cfg env round next batch).2 ∧
      (t.removeIfBad cfg env round next batch).2.queue.list.length -
        (t.removeIfBad cfg env round next batch).1 < t.queue.list.length - next := by
  obtain ⟨hnext, -⟩ := List.getElem?_eq_some_iff.mp hat
  rw [removeIfBad]
  cases hcheck : checkEthTransactionReceipt cfg env round batch with
  | error err =>
    refine ⟨.refl t, ?_⟩
    dsimp only
    omega
  | ok batch' =>
    dsimp only
    have hset : t.Prunes { t with queue := t.queue.set next batch' } :=
      prunes_set hat (checkEthTransactionReceipt_ok hcheck).1
    have hreceipt := prunes_handleReceipt env { t with queue := t.queue.set next batch' } batch'
    have hqueue := (handleReceipt_queue env { t with queue := t.queue.set next batch' } batch').1
    have hlength : (t.queue.set next batch').list.length = t.queue.list.length := List.length_set
    generalize ({ t with queue := t.queue.set next batch' } : TxManager).handleReceipt env batch' = result at *
    obtain ⟨t₁, answer⟩ := result
    dsimp only at hreceipt hqueue
    have hprunes := hset.trans hreceipt
    have hremoved : (t₁.queue.remove next).list.length + 1 = t.queue.list.length := by
      rw [hqueue, ← hlength]
      refine List.length_eraseIdx_add_one ?_
      rw [hlength]
      exact hnext
    cases answer with
    | error err =>
      refine ⟨hprunes.trans ⟨(prunes_remove t₁ next).ids, ?_⟩, ?_⟩
      · dsimp only
        split
        · omega
        · exact le_rfl
      · dsimp only
        omega
    | ok confirm =>
      cases confirm with
      | none =>
        dsimp only
        split
        · refine ⟨hprunes.trans (prunes_remove t₁ next), ?_⟩
          dsimp only
          omega
        · refine ⟨hprunes, ?_⟩
          dsimp only
          rw [hqueue, hlength]
          omega
      | some confirm =>
        refine ⟨hprunes, ?_⟩
        dsimp only
        rw [hqueue, hlength]
        omega

theorem removeLoop_succ (rounds round next : Nat) (t : TxManager) :
    removeLoop cfg env (rounds + 1) round next t = match t.queue.list[next]? with
      | none => t
      | some batch => removeLoop cfg env rounds (round + 1) (t.removeIfBad cfg env round next batch).1
          (t.removeIfBad cfg env round next batch).2 :=
  rfl

theorem removeLoop_prunes (cfg : TxManagerConfig) (env : EthAnswers) (rounds round next : Nat) (t : TxManager) :
    t.Prunes (removeLoop cfg env rounds round next t) := by
  induction rounds generalizing round next t with
  | zero => exact .refl t
  | succ rounds ih =>
    rw [removeLoop_succ]
    cases hat : t.queue.list[next]? with
    | none => exact .refl t
    | some batch => exact (removeIfBad_prunes hat).1.trans (ih _ _ _)

theorem removeBadBatchInfos_prunes (cfg : TxManagerConfig) (env : EthAnswers) (t : TxManager) :
    t.Prunes (t.removeBadBatchInfos cfg env).1 := by
  have hloop := removeLoop_prunes cfg env t.queue.list.length 1 0 t
  rw [removeBadBatchInfos]
  cases env.nonceAt with
  | error err => exact hloop
  | ok accNonce =>
    dsimp only
    split
    · exact hloop
    · exact hloop.trans ⟨fun _ h => h, le_rfl⟩

theorem resendBatch_prunes {position : Nat} (hat : t.queue.list[position]? = some batch)
    (h : t.resendBatch cfg env position batch = some (t', events)) :
    t.Prunes t' ∧ ∀ e ∈ events, (∃ reason, e = .stopPipeline reason) ∨ e = .sent batch.id := by
  rw [resendBatch, Option.bind_eq_bind, Option.bind_eq_some_iff] at h
  obtain ⟨⟨auth, answer⟩, -, h⟩ := h
  cases answer with
  | error err =>
    cases h
    refine ⟨prunes_set hat rfl, fun e he => .inl ⟨_, List.mem_singleton.mp he⟩⟩
  | ok hash =>
    dsimp only at h
    cases hdone : env.doneForging with
    | error err =>
      rw [hdone] at h
      cases h
      refine ⟨prunes_set hat rfl, fun e he => ?_⟩
      obtain rfl | he := List.mem_cons.mp he
      · exact .inr rfl
      · exact .inl ⟨_, List.mem_singleton.mp he⟩
    | ok _ =>
      rw [hdone] at h
      cases h
      exact ⟨prunes_set hat rfl, fun e he => .inr (List.mem_singleton.mp he)⟩

theorem checkBatch_prunes {position : Nat} (hat : t.queue.list[position]? = some batch)
    (h : t.checkBatch cfg env position batch = some (t', events)) :
    t.Prunes t' ∧ ∀ e ∈ events, (∃ reason, e = .stopPipeline reason) ∨ e = .sent batch.id := by
  have hreceipt := prunes_handleReceipt env t batch
  have hqueue := (handleReceipt_queue env t batch).1
  rw [checkBatch] at h
  generalize t.handleReceipt env batch = result at *
  obtain ⟨t₁, answer⟩ := result
  dsimp only at hreceipt hqueue
  cases answer with
  | error err =>
    have hremove := removeBadBatchInfos_prunes cfg env t₁
    dsimp only at h
    generalize t₁.removeBadBatchInfos cfg env = result at *
    obtain ⟨t₂, answer⟩ := result
    cases answer with
    | error err =>
      cases h
      exact ⟨hreceipt.trans hremove, fun e he => absurd he List.not_mem_nil⟩
    | ok _ =>
      cases h
      exact ⟨hreceipt.trans hremove, fun e he => .inl ⟨_, List.mem_singleton.mp he⟩⟩
  | ok confirm =>
    rw [← hqueue] at hat
    dsimp only at h
    rw [followUp] at h
    split at h
    · obtain ⟨hprunes, hevents⟩ := resendBatch_prunes hat h
      exact ⟨hreceipt.trans hprunes, hevents⟩
    · split at h
      · cases h
        exact ⟨hreceipt.trans (prunes_remove t₁ position), fun e he => absurd he List.not_mem_nil⟩
      · cases h
        exact ⟨hreceipt, fun e he => absurd he List.not_mem_nil⟩

theorem checkNext_prunes (h : t.checkNext cfg env = some (t', events)) :
    t.Prunes t' ∧ ∀ e ∈ events, (∃ reason, e = .stopPipeline reason) ∨ ∃ id ∈ t.ids, e = .sent id := by
  rw [checkNext] at h
  cases hat : t.queue.list[t.queue.next]? with
  | none =>
    rw [hat] at h
    cases h
    exact ⟨.refl t, fun e he => absurd he List.not_mem_nil⟩
  | some batch =>
    have hmem : batch.id ∈ t.ids := List.mem_map_of_mem (List.mem_of_getElem? hat)
    have hadvance : t.Prunes { t with queue := t.queue.advance } := ⟨fun _ h => h, le_rfl⟩
    rw [hat] at h
    dsimp only at h
    cases hcheck : checkEthTransactionReceipt cfg env 0 batch with
    | error err =>
      rw [hcheck, Option.bind_eq_bind, Option.bind_eq_some_iff] at h
      obtain ⟨⟨t₁, events₁⟩, hbatch, h⟩ := h
      have hat' : ({ t with queue := t.queue.advance } : TxManager).queue.list[t.queue.next]? = some batch := hat
      obtain ⟨hprunes, hevents⟩ := checkBatch_prunes hat' hbatch
      cases h
      refine ⟨hadvance.trans hprunes, fun e he => ?_⟩
      obtain rfl | he := List.mem_cons.mp he
      · exact .inl ⟨_, rfl⟩
      · exact (hevents e he).imp_right fun heq => ⟨batch.id, hmem, heq⟩
    | ok batch' =>
      rw [hcheck] at h
      have hid := (checkEthTransactionReceipt_ok hcheck).1
      have hset : t.Prunes { t with queue := t.queue.advance.set t.queue.next batch' } :=
        hadvance.trans (prunes_set (t := { t with queue := t.queue.advance }) hat hid)
      obtain ⟨hlt, -⟩ := List.getElem?_eq_some_iff.mp hat
      obtain ⟨hprunes, hevents⟩ := checkBatch_prunes (List.getElem?_set_self hlt) h
      exact ⟨hset.trans hprunes, fun e he => (hevents e he).imp_right fun heq => ⟨batch'.id, hid ▸ hmem, heq⟩⟩

theorem receiveBatch_cases {batchInfo : BatchInfo} (h : t.receiveBatch cfg env id batchInfo = some (t', events)) :
    t'.minPipelineNum = t.minPipelineNum ∧
      ((t'.ids = t.ids ∧ ∃ reason, events = [.refused id, .stopPipeline reason]) ∨
        t.shouldSendRollupForgeBatch cfg batchInfo = .ok () ∧
          ((t'.ids = t.ids ∧ ∃ reason, events = [.sent id, .refused id, .stopPipeline reason]) ∨
            t'.ids = t.ids ++ [id] ∧ events = [.sent id])) := by
  rw [receiveBatch] at h
  cases hshould : t.shouldSendRollupForgeBatch cfg batchInfo with
  | error err =>
    rw [hshould] at h
    cases h
    exact ⟨rfl, .inl ⟨rfl, _, rfl⟩⟩
  | ok _ =>
    rw [hshould] at h
    dsimp only at h
    rw [sendBatch] at h
    cases hauth : env.newAuth with
    | error err =>
      rw [hauth] at h
      cases h
      exact ⟨rfl, .inl ⟨rfl, _, rfl⟩⟩
    | ok _ =>
      rw [hauth, Option.bind_eq_bind, Option.bind_eq_some_iff] at h
      obtain ⟨⟨auth, answer⟩, -, h⟩ := h
      cases answer with
      | error err =>
        cases h
        exact ⟨rfl, .inl ⟨rfl, _, rfl⟩⟩
      | ok hash =>
        dsimp only at h
        cases hdone : env.doneForging with
        | error err =>
          rw [hdone] at h
          cases h
          exact ⟨rfl, .inr ⟨rfl, .inl ⟨rfl, _, rfl⟩⟩⟩
        | ok _ =>
          rw [hdone] at h
          cases h
          exact ⟨rfl, .inr ⟨rfl, .inr ⟨List.map_append, rfl⟩⟩⟩

theorem discardPipeline_prunes (t : TxManager) (pipelineNum : Nat) :
    (∀ id ∈ (t.discardPipeline cfg env pipelineNum).ids, id ∈ t.ids) ∧
      pipelineNum < (t.discardPipeline cfg env pipelineNum).minPipelineNum := by
  obtain ⟨hids, hmin⟩ := removeBadBatchInfos_prunes cfg env { t with minPipelineNum := pipelineNum + 1 }
  exact ⟨hids, hmin⟩

end TxManager

/-! ### Runs -/

def receivedPipelines (events : List ManagerEvent) : List Nat :=
  events.filterMap fun
    | .received pipelineNum => some pipelineNum
    | _ => none

/-- A batch may be sent for the first time: all batches of its pipeline received before it were sent, and its
pipeline has not been discarded. -/
def MaySend (before : List ManagerEvent) (id : Nat) : Prop :=
  ∃ pipelineNum, (receivedPipelines before)[id]? = some pipelineNum ∧
    (∀ earlier < id, (receivedPipelines before)[earlier]? = some pipelineNum → .sent earlier ∈ before) ∧
    ∀ n, .discarded n ∈ before → ¬pipelineNum ≤ n

/-- Whatever is sent for the first time may be sent. -/
def SentInOrder (events : List ManagerEvent) : Prop :=
  ∀ before id, before ++ [.sent id] <+: events → .sent id ∉ before → MaySend before id

theorem receivedPipelines_append (events new : List ManagerEvent) :
    receivedPipelines (events ++ new) = receivedPipelines events ++ receivedPipelines new :=
  List.filterMap_append

theorem sentInOrder_concat {events : List ManagerEvent} {e : ManagerEvent} (h : SentInOrder events)
    (hlast : ∀ id, e = .sent id → .sent id ∉ events → MaySend events id) : SentInOrder (events ++ [e]) := by
  intro before id hbefore hfirst
  obtain heq | hbefore := List.prefix_concat_iff.mp hbefore
  · obtain ⟨rfl, hsent⟩ := List.append_inj_left' heq rfl, List.append_inj_right' heq rfl
    exact hlast id (List.singleton_inj.mp hsent).symm hfirst
  · exact h before id hbefore hfirst

theorem sentInOrder_append {events new : List ManagerEvent} (h : SentInOrder events)
    (hnew : ∀ id, .sent id ∈ new → .sent id ∈ events) : SentInOrder (events ++ new) := by
  induction new generalizing events with
  | nil =>
    rw [List.append_nil]
    exact h
  | cons e new ih =>
    rw [List.append_cons]
    refine ih (sentInOrder_concat h ?_) fun id hid => List.mem_append_left _ (hnew id (List.mem_cons_of_mem e hid))
    rintro id rfl hfirst
    exact absurd (hnew id List.mem_cons_self) hfirst

/-- The manager with what happened since it was started. -/
structure ManagerRun where
  manager : TxManager
  events : List ManagerEvent

namespace ManagerRun

variable (cfg : TxManagerConfig)

def step (run : ManagerRun) (env : EthAnswers) (msg : ManagerMsg) : Option ManagerRun := do
  let (manager, events) ← run.manager.handleMsg cfg env (receivedPipelines run.events).length msg
  return ⟨manager, run.events ++ events⟩

/-- The runs of the manager with messages that are allowed when they are taken from their channel. -/
inductive Reached (allowed : ManagerRun → ManagerMsg → Prop) : ManagerRun → Prop
  | start (consts : AuctionConstants) (initSCVars : SCVariables) (accNonce : UInt64) (stats : Stats)
      (vars : SCVariablesPtr) : Reached allowed ⟨.start consts initSCVars accNonce stats vars, []⟩
  | step (run run' : ManagerRun) (env : EthAnswers) (msg : ManagerMsg) (hrun : Reached allowed run)
      (hallowed : allowed run msg) (hstep : run.step cfg env msg = some run') : Reached allowed run'

/-- A batch that would be sent comes from a pipeline that is not discarded and of which no batch was refused;
pipelines are discarded in the order of their numbers. -/
def Orderly (run : ManagerRun) : ManagerMsg → Prop
  | .batch batchInfo => run.manager.shouldSendRollupForgeBatch cfg batchInfo = .ok () →
      run.manager.minPipelineNum ≤ batchInfo.pipelineNum ∧
        ∀ id, .refused id ∈ run.events → (receivedPipelines run.events)[id]? ≠ some batchInfo.pipelineNum
  | .discardPipeline pipelineNum => ∀ n, .discarded n ∈ run.events → n ≤ pipelineNum
  | _ => True

/-- What holds in every state of an orderly run. -/
structure Sound (run : ManagerRun) : Prop where
  inOrder : SentInOrder run.events
  queue : ∀ id ∈ run.manager.ids, .sent id ∈ run.events
  /-- The manager has done something with each batch. -/
  handled : ∀ id < (receivedPipelines run.events).length, .sent id ∈ run.events ∨ .refused id ∈ run.events
  discarded : ∀ n, .discarded n ∈ run.events → n < run.manager.minPipelineNum

variable {cfg} {run run' : ManagerRun}

theorem Sound.start (consts : AuctionConstants) (initSCVars : SCVariables) (accNonce : UInt64) (stats : Stats)
    (vars : SCVariablesPtr) : Sound ⟨.start consts initSCVars accNonce stats vars, []⟩ where
  inOrder before id hbefore := by
    have hnil := List.prefix_nil.mp hbefore
    exact absurd hnil (List.append_ne_nil_of_right_ne_nil _ (List.cons_ne_nil _ _))
  queue id hid := absurd hid List.not_mem_nil
  handled id hid := absurd hid (Nat.not_lt_zero id)
  discarded n hn := absurd hn List.not_mem_nil

theorem Sound.prunes (h : Sound run) {t : TxManager} {events : List ManagerEvent} (ht : run.manager.Prunes t)
    (hevents : ∀ e ∈ events, (∃ reason, e = .stopPipeline reason) ∨ ∃ id ∈ run.manager.ids, e = .sent id) :
    Sound ⟨t, run.events ++ events⟩ where
  inOrder := by
    refine sentInOrder_append h.inOrder fun id hid => ?_
    obtain ⟨reason, heq⟩ | ⟨id', hid', heq⟩ := hevents _ hid
    · cases heq
    · cases heq
      exact h.queue id hid'
  queue id hid := List.mem_append_left _ (h.queue id (ht.ids id hid))
  handled id hid := by
    have hnone : receivedPipelines events = [] := by
      refine List.filterMap_eq_nil_iff.mpr fun e he => ?_
      obtain ⟨reason, rfl⟩ | ⟨id', -, rfl⟩ := hevents e he <;> rfl
    rw [receivedPipelines_append, hnone, List.append_nil] at hid
    exact (h.handled id hid).imp (List.mem_append_left _) (List.mem_append_left _)
  discarded n hn := by
    obtain hn | hn := List.mem_append.mp hn
    · exact (h.discarded n hn).trans_le ht.minPipelineNum
    · obtain ⟨reason, heq⟩ | ⟨id', -, heq⟩ := hevents _ hn <;> cases heq

theorem Sound.discard (h : Sound run) {t : TxManager} {pipelineNum : Nat} (hids : ∀ id ∈ t.ids, id ∈ run.manager.ids)
    (hmin : pipelineNum < t.minPipelineNum) (horder : ∀ n, .discarded n ∈ run.events → n ≤ pipelineNum) :
    Sound ⟨t, run.events ++ [.discarded pipelineNum]⟩ where
  inOrder := sentInOrder_concat h.inOrder fun id hid => nomatch hid
  queue id hid := List.mem_append_left _ (h.queue id (hids id hid))
  handled id hid := by
    rw [receivedPipelines_append] at hid
    exact (h.handled id (by simpa [receivedPipelines] using hid)).imp (List.mem_append_left _) (List.mem_append_left _)
  discarded n hn := by
    obtain hn | hn := List.mem_append.mp hn
    · exact (horder n hn).trans_lt hmin
    · cases List.mem_singleton.mp hn
      exact hmin

theorem Sound.maySend (h : Sound run) {pipelineNum : Nat} (hmin : run.manager.minPipelineNum ≤ pipelineNum)
    (hrefused : ∀ id, .refused id ∈ run.events → (receivedPipelines run.events)[id]? ≠ some pipelineNum) :
    MaySend (run.events ++ [.received pipelineNum]) (receivedPipelines run.events).length := by
  have hreceived : receivedPipelines (run.events ++ [.received pipelineNum]) =
      receivedPipelines run.events ++ [pipelineNum] := receivedPipelines_append _ _
  refine ⟨pipelineNum, ?_, ?_, ?_⟩
  · rw [hreceived, List.getElem?_concat_length]
  · intro earlier hearlier hpipeline
    rw [hreceived, List.getElem?_append_left hearlier] at hpipeline
    obtain hsent | hrefuse := h.handled earlier hearlier
    · exact List.mem_append_left _ hsent
    · exact absurd hpipeline (hrefused earlier hrefuse)
  · intro n hn hle
    obtain hn | hn := List.mem_append.mp hn
    · have hlt := h.discarded n hn
      omega
    · cases List.mem_singleton.mp hn

theorem Sound.receive (h : Sound run) {t : TxManager} {pipelineNum : Nat} {events : List ManagerEvent}
    (hinOrder : SentInOrder (run.events ++ .received pipelineNum :: events))
    (hids : ∀ id ∈ t.ids, id ∈ run.manager.ids ∨ .sent id ∈ events)
    (hmin : t.minPipelineNum = run.manager.minPipelineNum)
    (hevents : ∀ e ∈ events, (∃ reason, e = .stopPipeline reason) ∨ (∃ id, e = .refused id) ∨ ∃ id, e = .sent id)
    (hhandled : .sent (receivedPipelines run.events).length ∈ events ∨
      .refused (receivedPipelines run.events).length ∈ events) :
    Sound ⟨t, run.events ++ .received pipelineNum :: events⟩ where
  inOrder := hinOrder
  queue id hid := by
    obtain hold | hnew := hids id hid
    · exact List.mem_append_left _ (h.queue id hold)
    · exact List.mem_append_right _ (List.mem_cons_of_mem _ hnew)
  handled id hid := by
    have hone : receivedPipelines (.received pipelineNum :: events) = [pipelineNum] := by
      refine congrArg (pipelineNum :: ·) (List.filterMap_eq_nil_iff.mpr fun e he => ?_)
      obtain ⟨reason, rfl⟩ | ⟨id', rfl⟩ | ⟨id', rfl⟩ := hevents e he <;> rfl
    rw [receivedPipelines_append, hone, List.length_append, List.length_singleton] at hid
    by_cases hold : id < (receivedPipelines run.events).length
    · exact (h.handled id hold).imp (List.mem_append_left _) (List.mem_append_left _)
    · obtain rfl : id = (receivedPipelines run.events).length := by omega
      exact hhandled.imp (fun hmem => List.mem_append_right _ (List.mem_cons_of_mem _ hmem))
        fun hmem => List.mem_append_right _ (List.mem_cons_of_mem _ hmem)
  discarded n hn := by
    obtain hn | hn := List.mem_append.mp hn
    · rw [hmin]
      exact h.discarded n hn
    · obtain heq | hn := List.mem_cons.mp hn
      · cases heq
      · obtain ⟨reason, heq⟩ | ⟨id', heq⟩ | ⟨id', heq⟩ := hevents _ hn <;> cases heq

theorem Sound.batch (h : Sound run) {env : EthAnswers} {batchInfo : BatchInfo} {t : TxManager}
    {events : List ManagerEvent} (horderly : run.Orderly cfg (.batch batchInfo))
    (hrun : run.manager.receiveBatch cfg env (receivedPipelines run.events).length batchInfo = some (t, events)) :
    Sound ⟨t, run.events ++ .received batchInfo.pipelineNum :: events⟩ := by
  obtain ⟨hmin, hcases⟩ := TxManager.receiveBatch_cases hrun
  have hreceived : SentInOrder (run.events ++ [.received batchInfo.pipelineNum]) :=
    sentInOrder_concat h.inOrder fun id hid => nomatch hid
  obtain ⟨hids, reason, rfl⟩ | ⟨hshould, hcases⟩ := hcases
  · refine h.receive ?_ (fun id hid => .inl (hids ▸ hid)) hmin ?_ (.inr List.mem_cons_self)
    · rw [List.append_cons]
      refine sentInOrder_append hreceived fun id hid => ?_
      simp at hid
    · simp
  · -- the batch is sent, so what the run promises about it is needed
    obtain ⟨hpipeline, hrefused⟩ := horderly hshould
    have hsent := sentInOrder_concat hreceived (e := .sent (receivedPipelines run.events).length) fun id hid _ => by
      cases hid
      exact h.maySend hpipeline hrefused
    obtain ⟨hids, reason, rfl⟩ | ⟨hids, rfl⟩ := hcases
    · refine h.receive ?_ (fun id hid => .inl (hids ▸ hid)) hmin ?_ (.inl List.mem_cons_self)
      · rw [List.append_cons, List.append_cons]
        refine sentInOrder_append hsent fun id hid => ?_
        simp at hid
      · simp
    · refine h.receive ?_ (fun id hid => ?_) hmin ?_ (.inl List.mem_cons_self)
      · rw [List.append_cons]
        exact hsent
      · rw [hids, List.mem_append, List.mem_singleton] at hid
        refine hid.imp_right ?_
        rintro rfl
        exact List.mem_cons_self
      · simp

theorem Sound.step (h : Sound run) {env : EthAnswers} {msg : ManagerMsg} (horderly : run.Orderly cfg msg)
    (hstep : run.step cfg env msg = some run') : Sound run' := by
  rw [ManagerRun.step, Option.bind_eq_bind, Option.bind_eq_some_iff] at hstep
  obtain ⟨⟨t, events⟩, hmsg, hstep⟩ := hstep
  cases hstep
  cases msg with
  | statsVars stats vars =>
    cases hmsg
    exact h.prunes ⟨fun _ hid => hid, le_rfl⟩ fun e he => absurd he List.not_mem_nil
  | discardPipeline pipelineNum =>
    cases hmsg
    obtain ⟨hids, hmin⟩ := TxManager.discardPipeline_prunes run.manager pipelineNum
    exact h.discard hids hmin horderly
  | batch batchInfo =>
    rw [TxManager.handleMsg, Option.bind_eq_bind, Option.bind_eq_some_iff] at hmsg
    obtain ⟨⟨t₁, events₁⟩, hreceive, hmsg⟩ := hmsg
    cases hmsg
    exact h.batch horderly hreceive
  | timer =>
    obtain ⟨hprunes, hevents⟩ := TxManager.checkNext_prunes hmsg
    exact h.prunes hprunes hevents

/-- **The order of batches.**  In every run in which no batch arrives from a pipeline that is discarded or of
which a batch was refused, and in which pipelines are discarded in order, a batch is sent for the first time
only when all batches of its pipeline received before it were sent, and never when its pipeline has been
discarded. -/
theorem txManager_sentInOrder (h : Reached cfg (Orderly cfg) run) : SentInOrder run.events := by
  have hsound : Sound run := by
    induction h with
    | start consts initSCVars accNonce stats vars => exact .start consts initSCVars accNonce stats vars
    | step run run' env msg _ hallowed hstep ih => exact ih.step hallowed hstep
  exact hsound.inOrder

/-! Two batches of the pipeline of a coordinator that may forge. -/

def soloManagerConfig : TxManagerConfig where
  toCoordinatorConfig := Coordinator.soloConfig
  sendBatchBlocksMarginCheck := 0
  ethClientAttempts := 1
  ethClientAttempts_pos := Nat.one_pos
  maxGasPrice := 500
  gasPriceIncPerc := 0
  ethNoReuseNonce := false
  ethTxResendTimeout := 100
  confirmBlocks := 10

def soloManager : ManagerRun :=
  ⟨.start ⟨0⟩ Coordinator.soloVars 5 (Coordinator.soloStats 1 7) {}, []⟩

def batchOf (pipelineNum batchNum : Nat) : ManagerMsg :=
  .batch { pipelineNum, batchNum, l1Batch := true, verifierIdx := 0, l1UserTxs := [], l1CoordTxs := [],
           l1CoordinatorTxsAuths := [], coordIdxs := [], l2Txs := [] }

/-- The answer of a node that accepts a call, and that of one that does not. -/
def accepts : EthAnswers := { sends := [.accepted 0] }
def rejects : EthAnswers := { sends := [.failed "no connection"] }

theorem txManager_sentInOrder_twoBatches :
    SentInOrder [.received 1, .sent 0, .received 1, .sent 1] ∧
      ∃ run, Reached soloManagerConfig (Orderly soloManagerConfig) run ∧
        run.events = [.received 1, .sent 0, .received 1, .sent 1] := by
  obtain ⟨run₁, hrun₁⟩ : ∃ run, soloManager.step soloManagerConfig accepts (batchOf 1 2) = some run := ⟨_, rfl⟩
  obtain ⟨run₂, hrun₂⟩ : ∃ run, run₁.step soloManagerConfig accepts (batchOf 1 3) = some run := by
    cases hrun₁
    exact ⟨_, rfl⟩
  have hreached : Reached soloManagerConfig (Orderly soloManagerConfig) run₂ := by
    refine .step run₁ run₂ accepts _ (.step soloManager run₁ accepts _ (.start _ _ _ _ _) ?_ hrun₁) ?_ hrun₂
    · exact fun _ => ⟨Nat.zero_le _, fun id hid => absurd hid List.not_mem_nil⟩
    · cases hrun₁
      refine fun _ => ⟨Nat.zero_le _, fun id hid => ?_⟩
      simp [soloManager] at hid
  have hevents : run₂.events = [.received 1, .sent 0, .received 1, .sent 1] := by
    cases hrun₁
    cases hrun₂
    rfl
  have hsent := txManager_sentInOrder hreached
  rw [hevents] at hsent
  exact ⟨hsent, run₂, hreached, hevents⟩

theorem not_sentInOrder_refused (reason : String) :
    ¬SentInOrder [.received 1, .refused 0, .stopPipeline reason, .received 1, .sent 1] := by
  intro h
  obtain ⟨pipelineNum, hpipeline, hearlier, -⟩ := h [.received 1, .refused 0, .stopPipeline reason, .received 1] 1
    (List.prefix_refl _) (by simp)
  cases hpipeline
  have hsent := hearlier 0 Nat.one_pos rfl
  simp at hsent

/-- A batch that is still in the channel is sent although its pipeline was discarded; another one is sent although
the batch before it was refused. -/
theorem leftoverBatch_sent :
    (∃ run, Reached soloManagerConfig (fun _ _ => True) run ∧
      run.events = [.received 1, .sent 0, .discarded 1, .received 1, .sent 1] ∧ ¬SentInOrder run.events) ∧
    ∃ run reason, Reached soloManagerConfig (fun _ _ => True) run ∧
      run.events = [.received 1, .refused 0, .stopPipeline reason, .received 1, .sent 1] ∧ ¬SentInOrder run.events := by
  constructor
  · refine ⟨_, .step _ _ accepts (batchOf 1 3) (.step _ _ {} (.discardPipeline 1) (.step soloManager _ accepts
      (batchOf 1 2) (.start _ _ _ _ _) trivial rfl) trivial rfl) trivial rfl, rfl, fun h => ?_⟩
    obtain ⟨pipelineNum, hpipeline, -, hdiscarded⟩ := h [.received 1, .sent 0, .discarded 1, .received 1] 1
      (List.prefix_refl _) (by decide)
    cases hpipeline
    exact hdiscarded 1 (by decide) le_rfl
  · refine ⟨_, _, .step _ _ accepts (batchOf 1 3) (.step soloManager _ rejects (batchOf 1 2) (.start _ _ _ _ _)
      trivial rfl) trivial rfl, rfl, ?_⟩
    exact not_sentInOrder_refused _

end ManagerRun

end HermezRollup
