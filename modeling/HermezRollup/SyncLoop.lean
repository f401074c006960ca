import HermezRollup.CommonPrefix
import HermezRollup.Coordinator

/-! The loop of the node that calls `Sync` and tells the coordinator what came of it (`node/node.go`).  Each
message has only what its iteration changed, so an iteration that changes the HistoryDB and returns an error
leaves a change that no message will ever have. -/

namespace HermezRollup

open Fallible

/-! ### Messages -/

inductive SyncMsg where
  | syncBlock (stats : Stats) (vars : ContractVariablesPtr) (batches : List BatchData)
  | syncReorg (stats : Stats) (vars : ContractVariablesPtr)

def SyncMsg.vars : SyncMsg → ContractVariablesPtr
  | .syncBlock _ vars _ => vars
  | .syncReorg _ vars => vars

/-- What becomes of batches, and what the coordinator is told. -/
inductive BatchEvent where
  | stored (batch : Batch)
  | removed (batch : Batch)
  | syncBlock (batches : List Batch)
  | syncReorg
  deriving DecidableEq, Repr

def SyncMsg.event : SyncMsg → BatchEvent
  | .syncBlock _ _ batches => .syncBlock (batches.map BatchData.batch)
  | .syncReorg _ _ => .syncReorg

/-- The batches that are new and the batches that are gone. -/
def batchEvents (before after : List Batch) : List BatchEvent :=
  (after.filter (· ∉ before)).map .stored ++ (before.filter (· ∉ after)).map .removed

/-! ### The loop -/

/-- The node.  `coordVars` are the variables of the coordinator, which takes its messages from the channel in the
order of their sending.  `synced` says whether the last call of `Sync` succeeded, and `log` has the events of the
loop, the last one first. -/
structure SyncLoop (σ : Type) where
  sync : Synchronizer σ
  lastBlock : Option Block := none
  msgCh : List SyncMsg
  coordVars : ContractVariables
  synced : Bool := true
  log : List BatchEvent := []

namespace SyncLoop

variable {σ ι : Type}

def sendMsg (l : SyncLoop σ) (msg : SyncMsg) : SyncLoop σ :=
  { l with msgCh := l.msgCh ++ [msg], log := msg.event :: l.log }

/-- The synchronizer after a call, with what the call did to the batches. -/
def record (l : SyncLoop σ) (sync : Synchronizer σ) (synced : Bool) : SyncLoop σ :=
  { l with
    sync := sync
    synced := synced
    log := batchEvents l.sync.historyDB.batches sync.historyDB.batches ++ l.log }

/-- `StartSynchronizer`: the loaded state is sent in a first message. -/
def startSynchronizer (sync : Synchronizer σ) (coordVars : ContractVariables) : SyncLoop σ where
  sync := sync
  msgCh := [.syncBlock sync.stats sync.vars.asPtr []]
  coordVars := coordVars

/-- `syncLoopFn`.  `store` is an error of the state of the API, which is stored after the message is sent. -/
def syncLoopFn (logic : StateLogic σ ι) (cfg : SyncConfig) (answers : SyncAnswers σ ι) (store : Option String)
    (l : SyncLoop σ) : SyncLoop σ :=
  match l.sync.sync logic cfg answers l.lastBlock with
  | .error _ sync => { l.record sync false with lastBlock := none }
  | .ok (.reorg _) sync => { (l.record sync true).sendMsg (.syncReorg sync.stats sync.vars.asPtr) with lastBlock := none }
  | .ok (.block data) sync =>
    { (l.record sync true).sendMsg (.syncBlock sync.stats data.vars data.batches) with
      lastBlock := if store.isSome then none else some data.block }
  | .ok .noBlock sync => l.record sync true

def handleMsg (l : SyncLoop σ) : SyncLoop σ :=
  match l.msgCh with
  | [] => l
  | msg :: msgs => { l with msgCh := msgs, coordVars := l.coordVars.update msg.vars }

/-! ### What the coordinator has been told -/

/-- The messages since a batch was last stored that have it. -/
def deliveries (batch : Batch) : List BatchEvent → Option Nat
  | [] => none
  | .stored stored :: log => if stored = batch then some 0 else deliveries batch log
  | .syncBlock batches :: log => (deliveries batch log).map fun n => if batch ∈ batches then n + 1 else n
  | .removed _ :: log => deliveries batch log
  | .syncReorg :: log => deliveries batch log

/-- A message had the batch. -/
def WasDelivered (batch : Batch) (log : List BatchEvent) : Prop :=
  ∃ batches, .syncBlock batches ∈ log ∧ batch ∈ batches

/-- The coordinator knows what the synchronizer knows. -/
structure Informed (l : SyncLoop σ) : Prop where
  vars : l.coordVars = l.sync.vars
  delivered : ∀ batch ∈ l.sync.historyDB.batches, .stored batch ∈ l.log → deliveries batch l.log = some 1
  reorg : ∀ newer batch older, l.log = newer ++ .removed batch :: older → WasDelivered batch older → .syncReorg ∈ newer

/-- No error falls between a change of the HistoryDB and the end of the call, and the reset after a failed block
finds the last block.  A reorganization goes back to a batch whose checkpoint is left. -/
structure NothingLost (cfg : SyncConfig) (l : SyncLoop σ) (answers : SyncAnswers σ ι) : Prop where
  deferred : answers.deferred.getLastBlock = none
  slots : answers.block.slots.Agree
  reset : answers.reorg.reset.Fine
  checkpoints : ∀ uncleBlock block, l.lastBlock.or l.sync.historyDB.getLastBlock = some uncleBlock →
    Synchronizer.ForkPoint answers.reorg l.sync.historyDB cfg.startBlockNum uncleBlock.num block →
    Synchronizer.HasLast (l.sync.reorganized block.num)

/-- Runs of the loop after any earlier history of the node.  The coordinator takes messages and checkpoints are
deleted at any time. -/
inductive Reached (logic : StateLogic σ ι) (cfg : SyncConfig) (allowed : SyncLoop σ → SyncAnswers σ ι → Prop) :
    SyncLoop σ → Prop
  | start {s s' : Synchronizer σ} {answers : Synchronizer.StartAnswers σ} (coordVars : ContractVariables)
      (hstopped : Synchronizer.Runs logic cfg (fun _ => True) .stopped s)
      (hrun : Synchronizer.start logic cfg answers s = .ok () s') :
      Reached logic cfg allowed (startSynchronizer s' coordVars)
  | iterate {l : SyncLoop σ} {answers : SyncAnswers σ ι} (h : Reached logic cfg allowed l) (hanswers : allowed l answers)
      (store : Option String) : Reached logic cfg allowed (l.syncLoopFn logic cfg answers store)
  | handle {l : SyncLoop σ} (h : Reached logic cfg allowed l) : Reached logic cfg allowed l.handleMsg
  | prune {l : SyncLoop σ} (h : Reached logic cfg allowed l) (keep : Nat → Bool) :
      Reached logic cfg allowed { l with sync := { l.sync with stateDB := l.sync.stateDB.prune keep } }

section Log

variable {batch : Batch} {batches : List Batch} {log : List BatchEvent}

theorem batchEvents_self (batches : List Batch) : batchEvents batches batches = [] := by
  have hnone : batches.filter (· ∉ batches) = [] := by simp
  rw [batchEvents, hnone]
  rfl

theorem batchEvents_append {old new : List Batch} (h : ∀ batch ∈ new, batch ∉ old) :
    batchEvents old (old ++ new) = new.map .stored := by
  have hnew : (old ++ new).filter (· ∉ old) = new := by
    rw [List.filter_append, List.filter_eq_nil_iff.mpr (by simp), List.nil_append,
      List.filter_eq_self.mpr fun batch hmem => decide_eq_true (h batch hmem)]
  have hgone : old.filter (· ∉ old ++ new) = [] := by
    rw [List.filter_eq_nil_iff]
    intro batch hmem
    simp [hmem]
  rw [batchEvents, hnew, hgone, List.map_nil, List.append_nil]

theorem batchEvents_filter (batches : List Batch) (p : Batch → Bool) :
    ∃ gone : List Batch, batchEvents batches (batches.filter p) = gone.map .removed := by
  have hnew : (batches.filter p).filter (· ∉ batches) = [] := by
    rw [List.filter_eq_nil_iff]
    intro batch hmem
    simp [List.mem_of_mem_filter hmem]
  refine ⟨batches.filter (· ∉ batches.filter p), ?_⟩
  rw [batchEvents, hnew]
  rfl

theorem deliveries_removed (gone : List Batch) : deliveries batch (gone.map .removed ++ log) = deliveries batch log := by
  induction gone with
  | nil => rfl
  | cons _ gone ih => exact ih

theorem deliveries_stored_of_mem {new : List Batch} (h : batch ∈ new) :
    deliveries batch (new.map .stored ++ log) = some 0 := by
  induction new with
  | nil => cases h
  | cons first new ih =>
    rw [List.map_cons, List.cons_append, deliveries]
    split
    · rfl
    next hne => exact ih ((List.mem_cons.mp h).resolve_left fun heq => hne heq.symm)

theorem deliveries_stored_of_notMem {new : List Batch} (h : batch ∉ new) :
    deliveries batch (new.map .stored ++ log) = deliveries batch log := by
  induction new with
  | nil => rfl
  | cons first new ih =>
    rw [List.mem_cons, not_or] at h
    rw [List.map_cons, List.cons_append, deliveries, if_neg fun heq => h.1 heq.symm]
    exact ih h.2

theorem deliveries_of_stored (h : .stored batch ∈ log) : ∃ n, deliveries batch log = some n := by
  induction log with
  | nil => cases h
  | cons event log ih =>
    cases event with
    | stored first =>
      rw [deliveries]
      split
      · exact ⟨0, rfl⟩
      next hne =>
        rcases List.mem_cons.mp h with heq | h
        · cases heq
          exact absurd rfl hne
        · exact ih h
    | removed _ => exact ih ((List.mem_cons.mp h).resolve_left nofun)
    | syncReorg => exact ih ((List.mem_cons.mp h).resolve_left nofun)
    | syncBlock batches =>
      obtain ⟨n, hn⟩ := ih ((List.mem_cons.mp h).resolve_left nofun)
      rw [deliveries, hn]
      exact ⟨_, rfl⟩

/-- A message about a reorganization follows every removal. -/
def RemovalsTold (log : List BatchEvent) : Prop :=
  ∀ newer batch older, log = newer ++ .removed batch :: older → .syncReorg ∈ newer

theorem removalsTold_nil : RemovalsTold [] := by
  intro newer batch older h
  cases newer <;> cases h

theorem removalsTold_reorg (log : List BatchEvent) : RemovalsTold (.syncReorg :: log) := by
  intro newer batch older h
  cases newer with
  | nil => cases h
  | cons event newer =>
    cases h
    exact List.mem_cons_self

theorem RemovalsTold.cons (h : RemovalsTold log) {event : BatchEvent} (hevent : ∀ batch, event ≠ .removed batch) :
    RemovalsTold (event :: log) := by
  intro newer batch older heq
  cases newer with
  | nil =>
    cases heq
    exact absurd rfl (hevent batch)
  | cons first newer =>
    cases heq
    exact List.mem_cons_of_mem _ (h newer batch older rfl)

theorem RemovalsTold.stored (h : RemovalsTold log) (new : List Batch) : RemovalsTold (new.map .stored ++ log) := by
  induction new with
  | nil => exact h
  | cons first new ih => exact ih.cons nofun

end Log

/-! ### One iteration -/

section Iteration

open Synchronizer

variable {logic : StateLogic σ ι} {cfg : SyncConfig} {l : SyncLoop σ} {answers : SyncAnswers σ ι} {s s₁ s' : Synchronizer σ}

theorem lastBatchNum_reorg_le (h : Rooted logic s) (n : Nat) :
    (s.historyDB.reorg n).lastBatchNum ≤ s.historyDB.lastBatchNum := by
  rw [HistoryDB.lastBatchNum]
  cases hlast : (s.historyDB.reorg n).getLastBatch with
  | none => exact Nat.zero_le _
  | some batch => exact h.le_last (List.mem_of_mem_filter (List.mem_of_getLast? hlast))

theorem hasLast_ready (hready : Ready logic s s₁) (hrooted : Rooted logic s) (hdb : s₁.historyDB = s.historyDB) {n : Nat}
    (h : HasLast (s.reorganized n)) : HasLast (s₁.reorganized n) := by
  intro hpos
  change s₁.stateDB.checkpoints (s₁.historyDB.reorg n).lastBatchNum ≠ none
  change (s₁.historyDB.reorg n).lastBatchNum ≠ 0 at hpos
  rw [hdb] at hpos ⊢
  rw [hready.kept _ (lastBatchNum_reorg_le hrooted n)]
  exact h hpos

theorem sync_error {e : String} (hsound : Sound logic l.sync) (hexact : Exact logic l.sync)
    (hvars : l.sync.historyDB.getSCVars ≠ none)
    (hanswers : NothingLost cfg l answers) (hrun : l.sync.sync logic cfg answers l.lastBlock = .error e s') :
    Sound logic s' ∧ Exact logic s' ∧ s'.historyDB = l.sync.historyDB := by
  have hsound' := hsound.sync cfg answers l.lastBlock
  have hexact' := hexact.sync hsound cfg hanswers.deferred l.lastBlock
  rw [hrun] at hsound' hexact'
  refine ⟨hsound', hexact', ?_⟩
  rcases (ends_sync answers l.lastBlock hsound).of_error hrun with ⟨hreset, _⟩ | ⟨s₁, hready, hfailed⟩
  · exact hreset.historyDB hvars
  · have hdb := hready.historyDB hvars
    rw [← hdb] at hvars
    rcases hfailed.historyDB hvars with hsame | hslots | ⟨uncleBlock, huncle, found, hfind, hfine⟩
    · exact hsame.trans hdb
    · exact absurd hanswers.slots hslots
    · rw [hdb] at huncle hfind
      have hfork := findValidBlock_forkPoint (startBlockNum_le hfind) hfind
      have hlast := hanswers.checkpoints uncleBlock found huncle hfork
      exact absurd ⟨hanswers.reset, hasLast_ready hready hsound.rooted hdb hlast⟩ hfine

structure Invariant (logic : StateLogic σ ι) (l : SyncLoop σ) : Prop where
  sound : Sound logic l.sync
  exact : Exact logic l.sync
  inStep : l.synced = true → InStep logic l.sync
  vars : l.sync.historyDB.getSCVars = some (l.msgCh.foldl (fun vars msg => vars.update msg.vars) l.coordVars)
  delivered : ∀ batch ∈ l.sync.historyDB.batches, ∀ n, deliveries batch l.log = some n → n = 1
  removals : RemovalsTold l.log

theorem Invariant.lastBlock (h : Invariant logic l) (lastBlock : Option Block) :
    Invariant logic { l with lastBlock := lastBlock } :=
  ⟨h.sound, h.exact, h.inStep, h.vars, h.delivered, h.removals⟩

theorem Invariant.record_same (h : Invariant logic l) (synced : Bool) (hsound : Sound logic s') (hexact : Exact logic s')
    (hinStep : synced = true → InStep logic s') (hdb : s'.historyDB = l.sync.historyDB) :
    Invariant logic (l.record s' synced) := by
  have hlog : (l.record s' synced).log = l.log := by
    rw [record, hdb, batchEvents_self]
    rfl
  refine ⟨hsound, hexact, hinStep, ?_, ?_, ?_⟩
  · exact (congrArg HistoryDB.getSCVars hdb).trans h.vars
  · rw [hlog]
    change ∀ batch ∈ s'.historyDB.batches, _
    rw [hdb]
    exact h.delivered
  · rw [hlog]
    exact h.removals

theorem Invariant.reorg (h : Invariant logic l) (hsound : Sound logic s') (hinStep : InStep logic s') {n : Nat}
    (hbatches : s'.historyDB.batches = (l.sync.historyDB.reorg n).batches) (stats : Stats) :
    Invariant logic ((l.record s' true).sendMsg (.syncReorg stats s'.vars.asPtr)) := by
  obtain ⟨gone, hgone⟩ := batchEvents_filter l.sync.historyDB.batches fun batch => batch.ethBlockNum ≤ n
  refine ⟨hsound, .inr hinStep, fun _ => hinStep, ?_, ?_, removalsTold_reorg _⟩
  · rw [sendMsg, List.foldl_append]
    exact hinStep.vars
  · intro batch hmem k hk
    change deliveries batch (batchEvents l.sync.historyDB.batches s'.historyDB.batches ++ l.log) = some k at hk
    rw [hbatches, HistoryDB.reorg, hgone, deliveries_removed] at hk
    change batch ∈ s'.historyDB.batches at hmem
    rw [hbatches] at hmem
    exact h.delivered batch (List.mem_of_mem_filter hmem) k hk

theorem Invariant.block (h : Invariant logic l) (hsound : Sound logic s') (hinStep : InStep logic s') {data : BlockData}
    (hstored : l.sync.historyDB.BlockStored data s'.historyDB) (stats : Stats) :
    Invariant logic ((l.record s' true).sendMsg (.syncBlock stats data.vars data.batches)) := by
  -- the new batches are above the old ones
  have hnew : ∀ batch ∈ data.batches.map BatchData.batch, batch ∉ l.sync.historyDB.batches := by
    intro batch hnew hold
    have hascending := hsound.rooted.ascending
    rw [hstored.batches, List.pairwise_append] at hascending
    exact lt_irrefl _ (hascending.2.2 batch hold batch hnew)
  have hlog := batchEvents_append hnew
  rw [← hstored.batches] at hlog
  refine ⟨hsound, .inr hinStep, fun _ => hinStep, ?_, ?_, ?_⟩
  · rw [sendMsg, List.foldl_append]
    exact hstored.getSCVars h.vars
  · intro batch hmem k hk
    change batch ∈ s'.historyDB.batches at hmem
    change deliveries batch (.syncBlock (data.batches.map BatchData.batch) ::
      (batchEvents l.sync.historyDB.batches s'.historyDB.batches ++ l.log)) = some k at hk
    rw [hlog, deliveries] at hk
    by_cases hdelivered : batch ∈ data.batches.map BatchData.batch
    · rw [deliveries_stored_of_mem hdelivered, Option.map_some, if_pos hdelivered] at hk
      cases hk
      rfl
    · rw [deliveries_stored_of_notMem hdelivered] at hk
      rw [hstored.batches, List.mem_append] at hmem
      obtain ⟨k', hk', heq⟩ := Option.map_eq_some_iff.mp hk
      rw [if_neg hdelivered] at heq
      rw [← heq]
      exact h.delivered batch (hmem.resolve_right hdelivered) k' hk'
  · have htold := h.removals.stored (data.batches.map BatchData.batch)
    rw [← hlog] at htold
    exact htold.cons nofun

theorem Invariant.syncLoopFn (h : Invariant logic l) (hanswers : NothingLost cfg l answers) (store : Option String) :
    Invariant logic (l.syncLoopFn logic cfg answers store) := by
  have hvars : l.sync.historyDB.getSCVars ≠ none := by
    rw [h.vars]
    exact Option.some_ne_none _
  rw [SyncLoop.syncLoopFn]
  cases hrun : l.sync.sync logic cfg answers l.lastBlock with
  | error e s' =>
    obtain ⟨hsound, hexact, hdb⟩ := sync_error h.sound h.exact hvars hanswers hrun
    exact (h.record_same false hsound hexact (fun h => nomatch h) hdb).lastBlock none
  | ok out s' =>
    obtain ⟨hsettled, hinStep, s₁, hready, hout⟩ := (ends_sync answers l.lastBlock h.sound).of_ok hrun
    have hinStep := hinStep h.exact
    have hsound := hsettled.sound
    have hdb := hready.historyDB hvars
    cases out with
    | noBlock =>
      exact h.record_same true hsound (.inr hinStep) (fun _ => hinStep) (hout.trans hdb)
    | reorg discarded =>
      obtain ⟨n, hreset⟩ := hout
      have hbatches : s'.historyDB.batches = (l.sync.historyDB.reorg n).batches := by
        rw [← hdb]
        exact hreset.batches
      exact (h.reorg hsound hinStep hbatches s'.stats).lastBlock none
    | block data =>
      have hstored : l.sync.historyDB.BlockStored data s'.historyDB := by
        rw [← hdb]
        exact hout
      exact (h.block hsound hinStep hstored s'.stats).lastBlock _

theorem Invariant.handleMsg (h : Invariant logic l) : Invariant logic l.handleMsg := by
  rw [SyncLoop.handleMsg]
  cases hmsgs : l.msgCh with
  | nil => exact h
  | cons msg msgs =>
    refine ⟨h.sound, h.exact, h.inStep, ?_, h.delivered, h.removals⟩
    have hvars := h.vars
    rw [hmsgs] at hvars
    exact hvars

theorem Reached.invariant (h : Reached logic cfg (NothingLost cfg) l) : Invariant logic l := by
  induction h with
  | start coordVars hstopped hrun =>
    obtain ⟨hinStep, hsettled⟩ := (ends_start _ hstopped.sound.1).of_ok hrun
    refine ⟨hsettled.sound, .inr hinStep, fun _ => hinStep, hinStep.vars, ?_, removalsTold_nil⟩
    intro _ _ _ hn
    cases hn
  | iterate _ hanswers store ih => exact ih.syncLoopFn hanswers store
  | handle _ ih => exact ih.handleMsg
  | prune _ keep ih =>
    exact ⟨⟨ih.sound.rooted.prune keep, ih.sound.ahead⟩, ih.exact.imp_right fun h => h.prune keep,
      fun hsynced => (ih.inStep hsynced).prune keep, ih.vars, ih.delivered, ih.removals⟩

/-- **Nothing is hidden from the coordinator.**  When no error falls between a change of the HistoryDB and the end
of the call, then after every call that succeeded and whose messages have been taken the coordinator has the
variables of the synchronizer, each batch stored since the start was in one message since it was last
stored, and a message about a reorganization followed every removed batch. -/
theorem coordinator_informed (h : Reached logic cfg (NothingLost cfg) l) (hsynced : l.synced = true)
    (hhandled : l.msgCh = []) : Informed l := by
  have hinv := h.invariant
  refine ⟨?_, ?_, ?_⟩
  · have hvars := hinv.vars
    rw [hhandled, (hinv.inStep hsynced).vars] at hvars
    exact (Option.some.inj hvars).symm
  · intro batch hmem hstored
    obtain ⟨n, hn⟩ := deliveries_of_stored hstored
    rw [hn, hinv.delivered batch hmem n hn]
  · intro newer batch older hlog _
    exact hinv.removals newer batch older hlog

end Iteration

/-! #### The sample node -/

section Sample

open Synchronizer

theorem runs_newNode : Synchronizer.Runs sampleLogic sampleConfig (fun _ => True) .stopped newNode :=
  .create rfl rfl

theorem reached_sample (allowed : SyncLoop Nat → SyncAnswers Nat Nat → Prop) :
    Reached sampleLogic sampleConfig allowed (startSynchronizer startedNode sampleConfig.initVars) := by
  have hrun : start sampleLogic sampleConfig { updateEth := .ok 1 } newNode = .ok () startedNode := rfl
  exact .start sampleConfig.initVars runs_newNode hrun

theorem nothingLost_sample :
    NothingLost sampleConfig (startSynchronizer startedNode sampleConfig.initVars) (blockWithBatch none none) := by
  refine ⟨rfl, ⟨rfl, fun _ _ => rfl⟩, ⟨rfl, rfl, rfl, rfl, rfl, rfl, rfl, ⟨rfl, fun _ _ => rfl⟩⟩, ?_⟩
  intro uncleBlock block huncle hfork
  cases huncle
  exact absurd (hfork.start_le.trans hfork.le) (by decide)

theorem coordinator_informed_oneBlock :
    ∃ l, Reached sampleLogic sampleConfig (NothingLost sampleConfig) l ∧ l.sync.historyDB.lastBatchNum = 1 ∧ Informed l := by
  have hreached := (((reached_sample _).iterate nothingLost_sample none).handle).handle
  exact ⟨_, hreached, rfl, coordinator_informed hreached rfl rfl⟩

/-- Block 1 is stored, and then the query about the slots fails. -/
def slotsFail : SyncAnswers Nat Nat :=
  { blockWithBatch none none with
    block := { (blockWithBatch none none).block with slots := { query := some "connection" } } }

def noNewBlock : SyncAnswers Nat Nat where
  ethBlockByNumber := .ok none
  updateEth := .ok 1
  reorg := { ethBlockByNumber := fun _ => .error "not found" }

/-- The block is in the HistoryDB and the call returns an error, so no message has its batch.  The next call
succeeds without a new block, and the coordinator has taken every message. -/
theorem storedBatch_notDelivered :
    ∃ l, Reached sampleLogic sampleConfig (fun _ _ => True) l ∧ l.synced = true ∧ l.msgCh = [] ∧
      l.log = [.stored ⟨1, 1, 3, 7, 0, none⟩] ∧ l.sync.historyDB.lastBatchNum = 1 ∧ ¬Informed l := by
  have hfailed : Reached sampleLogic sampleConfig (fun _ _ => True)
      ((startSynchronizer startedNode sampleConfig.initVars).syncLoopFn sampleLogic sampleConfig slotsFail none) :=
    (reached_sample _).iterate trivial none
  have hreached : Reached sampleLogic sampleConfig (fun _ _ => True)
      (((startSynchronizer startedNode sampleConfig.initVars).syncLoopFn sampleLogic sampleConfig slotsFail none).syncLoopFn
        sampleLogic sampleConfig noNewBlock none).handleMsg :=
    (hfailed.iterate trivial none).handle
  refine ⟨_, hreached, rfl, rfl, rfl, rfl, ?_⟩
  intro hinformed
  have hone := hinformed.delivered ⟨1, 1, 3, 7, 0, none⟩ List.mem_cons_self List.mem_cons_self
  cases hone

end Sample

end SyncLoop

/-! ### The coordinator -/

def ContractVariables.toSCVariables (vars : ContractVariables) : SCVariables :=
  ⟨vars.auction, vars.rollup.forgeL1L2BatchTimeout⟩

def ContractVariablesPtr.toSCVariablesPtr (vars : ContractVariablesPtr) : SCVariablesPtr :=
  ⟨vars.auction, vars.rollup.map RollupVariables.forgeL1L2BatchTimeout⟩

theorem ContractVariables.toSCVariables_update (vars : ContractVariables) (update : ContractVariablesPtr) :
    (vars.update update).toSCVariables = updateSCVars vars.toSCVariables update.toSCVariablesPtr := by
  obtain ⟨rollup, auction, wDelayer⟩ := update
  cases rollup <;> rfl

def SyncMsg.toCoordinatorMsg : SyncMsg → CoordinatorMsg
  | .syncBlock stats vars batches =>
    .syncBlock ⟨stats, batches.map fun data => (data.batch.batchNum, data.batch.forgerAddr), vars.toSCVariablesPtr⟩
  | .syncReorg stats vars => .syncReorg ⟨stats, vars.toSCVariablesPtr⟩

namespace Coordinator

variable {τ : Type} {vars : SCVariables}

/-- The variables change only when a message comes. -/
def HasVars (vars : SCVariables) (c : Coordinator τ) : Prop :=
  c.vars = vars

theorem hasVars_modifyNode (f : Node τ → Node τ) : Keeps (HasVars vars) (modifyNode f) :=
  Keeps.modify fun _ h => h

theorem hasVars_modifyPool (f : Pool → Except String Pool) : Keeps (HasVars (τ := τ) vars) (modifyPool f) :=
  Keeps.bind (Keeps.fromState _) fun _ => hasVars_modifyNode _

theorem hasVars_handleStopPipeline (env : CoordinatorEnv) (failedBatchNum : Nat) :
    Keeps (HasVars (τ := τ) vars) (handleStopPipeline env failedBatchNum) := by
  refine Keeps.bind Keeps.get fun c => ?_
  refine Keeps.bind (hasVars_modifyNode _) fun _ => Keeps.bind (hasVars_modifyNode _) fun _ => ?_
  exact Keeps.modify fun _ h => h

variable [Checkpoints.Numbered τ] (cfg : CoordinatorConfig) (env : CoordinatorEnv) (root : τ → Nat)

theorem hasVars_startFrom (batchNum : Nat) : Keeps (HasVars vars) (startFrom root batchNum) := by
  intro c h
  rw [startFrom]
  split
  · exact h
  · exact h

theorem hasVars_startPipeline : Keeps (HasVars vars) (startPipeline cfg env root) := by
  refine Keeps.bind Keeps.get fun c => Keeps.bind (hasVars_modifyNode _) fun _ => ?_
  split
  · exact Keeps.throw _
  · exact Keeps.bind (Keeps.modify fun _ h => h) fun _ => hasVars_startFrom root _

theorem hasVars_switchPipeline : Keeps (HasVars vars) (switchPipeline cfg env root) := by
  refine Keeps.bind Keeps.get fun c => ?_
  dsimp only
  split
  · split
    · exact Keeps.pure _
    · split
      · exact hasVars_startPipeline cfg env root
      · exact Keeps.pure _
  · split
    · exact hasVars_modifyNode _
    · exact Keeps.pure _

theorem hasVars_syncStats : Keeps (HasVars vars) (syncStats cfg env root) := by
  refine Keeps.bind (hasVars_switchPipeline cfg env root) fun _ => Keeps.bind Keeps.get fun c => ?_
  split
  · exact Keeps.bind (hasVars_modifyPool _) fun _ => hasVars_modifyPool _
  · exact Keeps.pure _

omit [Checkpoints.Numbered τ] in
theorem ends_handleExternalBatches (msg : MsgSyncBlock) {c : Coordinator τ}
    (h : HasVars vars (receive msg.stats msg.vars c)) :
    Ends (handleExternalBatches cfg env msg) c (fun _ => HasVars vars) (HasVars vars) := by
  refine ends_modify_bind (Keeps.ends ?_ h)
  split
  · exact Keeps.pure _
  · refine Keeps.bind Keeps.get fun c => ?_
    split
    · exact hasVars_handleStopPipeline env _
    · exact hasVars_modifyNode _

/-- A message of the loop changes the variables of the coordinator as the loop says, also when the coordinator
fails on it. -/
theorem handleMsg_vars (msg : SyncMsg) (coordVars : ContractVariables) {c : Coordinator τ}
    (h : c.vars = coordVars.toSCVariables) :
    (finalState (handleMsg cfg env root msg.toCoordinatorMsg c)).vars = (coordVars.update msg.vars).toSCVariables := by
  have hreceived : ∀ stats, HasVars (coordVars.update msg.vars).toSCVariables
      (receive stats msg.vars.toSCVariablesPtr c) := by
    intro stats
    rw [ContractVariables.toSCVariables_update, ← h]
    rfl
  suffices hends : Ends (handleMsg cfg env root msg.toCoordinatorMsg) c
      (fun _ => HasVars (coordVars.update msg.vars).toSCVariables) (HasVars (coordVars.update msg.vars).toSCVariables) from
    hends.at_end (fun _ _ h => h) fun _ h => h
  cases msg with
  | syncBlock stats vars batches =>
    refine Ends.bind (ends_handleExternalBatches cfg env _ (hreceived stats)) ?_
    intro _ c' hc'
    refine Keeps.ends (Keeps.bind Keeps.get fun c'' => ?_) hc'
    split
    · exact Keeps.pure _
    · exact hasVars_syncStats cfg env root
  | syncReorg stats vars =>
    refine ends_modify_bind (Keeps.ends (Keeps.bind Keeps.get fun c' => ?_) (hreceived stats))
    split
    · exact hasVars_handleStopPipeline env 0
    · exact Keeps.pure _

theorem hasVars_handleTimer : Keeps (HasVars vars) (handleTimer cfg env root) := by
  refine Keeps.bind Keeps.get fun c => ?_
  split
  · exact Keeps.pure _
  · exact hasVars_syncStats cfg env root

end Coordinator

namespace SyncLoop

section Beside

variable {σ ι τ : Type} [Checkpoints.Numbered τ] (logic : StateLogic σ ι) (cfg : SyncConfig) (coordCfg : CoordinatorConfig)
  (root : τ → Nat)

/-- The loop and the coordinator beside it.  The coordinator takes the messages of the loop in order, and in between
those of its pipeline and its timer; it goes on after an error, from the state that the error left. -/
inductive RunsBeside : SyncLoop σ → Coordinator τ → Prop
  | start {s s' : Synchronizer σ} {answers : Synchronizer.StartAnswers σ} {coordVars : ContractVariables}
      {c : Coordinator τ} (hc : c.vars = coordVars.toSCVariables)
      (hstopped : Synchronizer.Runs logic cfg (fun _ => True) .stopped s)
      (hrun : Synchronizer.start logic cfg answers s = .ok () s') : RunsBeside (startSynchronizer s' coordVars) c
  | iterate {l : SyncLoop σ} {c : Coordinator τ} {answers : SyncAnswers σ ι} (h : RunsBeside l c)
      (hanswers : NothingLost cfg l answers) (store : Option String) :
      RunsBeside (l.syncLoopFn logic cfg answers store) c
  | prune {l : SyncLoop σ} {c : Coordinator τ} (h : RunsBeside l c) (keep : Nat → Bool) :
      RunsBeside { l with sync := { l.sync with stateDB := l.sync.stateDB.prune keep } } c
  | handle {l : SyncLoop σ} {c : Coordinator τ} {msg : SyncMsg} {msgs : List SyncMsg} (h : RunsBeside l c)
      (hmsg : l.msgCh = msg :: msgs) (env : CoordinatorEnv) :
      RunsBeside l.handleMsg (finalState (Coordinator.handleMsg coordCfg env root msg.toCoordinatorMsg c))
  | stopPipeline {l : SyncLoop σ} {c : Coordinator τ} (h : RunsBeside l c) (env : CoordinatorEnv) (failedBatchNum : Nat) :
      RunsBeside l (finalState (Coordinator.handleMsg coordCfg env root (.stopPipeline failedBatchNum) c))
  | timer {l : SyncLoop σ} {c : Coordinator τ} (h : RunsBeside l c) (env : CoordinatorEnv) :
      RunsBeside l (finalState (Coordinator.handleTimer coordCfg env root c))

variable {logic cfg coordCfg root} {l : SyncLoop σ} {c : Coordinator τ}

theorem RunsBeside.reached (h : RunsBeside logic cfg coordCfg root l c) :
    Reached logic cfg (NothingLost cfg) l ∧ c.vars = l.coordVars.toSCVariables := by
  induction h with
  | start hc hstopped hrun => exact ⟨.start _ hstopped hrun, hc⟩
  | @iterate l _ answers _ hanswers store ih =>
    refine ⟨ih.1.iterate hanswers store, ih.2.trans ?_⟩
    rw [SyncLoop.syncLoopFn]
    rcases l.sync.sync logic cfg answers l.lastBlock with ⟨_ | _ | _, _⟩ | _ <;> rfl
  | prune _ keep ih => exact ⟨ih.1.prune keep, ih.2⟩
  | handle _ hmsg env ih =>
    refine ⟨ih.1.handle, (Coordinator.handleMsg_vars coordCfg env root _ _ ih.2).trans ?_⟩
    rw [SyncLoop.handleMsg, hmsg]
  | stopPipeline _ env failedBatchNum ih =>
    exact ⟨ih.1, Coordinator.hasVars_handleStopPipeline env failedBatchNum _ ih.2⟩
  | timer _ env ih => exact ⟨ih.1, Coordinator.hasVars_handleTimer coordCfg env root _ ih.2⟩

/-- **The coordinator follows the contracts.**  In runs in which nothing is lost (`NothingLost`), and whatever its
messages lead to, a stop or a start of the pipeline or an error, once the coordinator has taken the messages of a
successful iteration its variables are those of the synchronizer. -/
theorem coordinator_vars_synced (h : RunsBeside logic cfg coordCfg root l c) (hsynced : l.synced = true)
    (hhandled : l.msgCh = []) : c.vars = l.sync.vars.toSCVariables := by
  obtain ⟨hreached, hvars⟩ := h.reached
  have hinv := hreached.invariant
  have hsame := hinv.vars
  rw [hhandled, (hinv.inStep hsynced).vars] at hsame
  rw [hvars, Option.some.inj hsame]
  rfl

end Beside

open Synchronizer Coordinator

/-- The node syncs block 1, and the coordinator takes both messages. -/
theorem coordinator_vars_synced_oneBlock :
    ∃ l c, RunsBeside sampleLogic sampleConfig soloConfig (fun _ : Store => 0) l c ∧ l.sync.historyDB.lastBatchNum = 1 ∧
      c.vars = l.sync.vars.toSCVariables := by
  have hstart : Synchronizer.start sampleLogic sampleConfig { updateEth := .ok 1 } newNode = .ok () startedNode := rfl
  have hbeside : RunsBeside sampleLogic sampleConfig soloConfig (fun _ : Store => 0)
      (startSynchronizer startedNode sampleConfig.initVars)
      { soloCoordinator none [] with vars := sampleConfig.initVars.toSCVariables } := .start rfl runs_newNode hstart
  have hrun := ((hbeside.iterate nothingLost_sample none).handle rfl {}).handle rfl {}
  exact ⟨_, _, hrun, rfl, coordinator_vars_synced hrun rfl rfl⟩

end SyncLoop

end HermezRollup
