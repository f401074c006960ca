import HermezRollup.PipelineRuns

/-! Which queue an L1 batch takes its transactions from.

A pipeline counts the queues it has passed, from the last one that the synchronizer had reported when the
pipeline was started.  It may have been started from a batch that is not synchronized yet, and the batches
before may have passed queues that the synchronizer does not know of: the new pipeline passes them again. -/

namespace HermezRollup

open Checkpoints (DB Numbered)
open Fallible

variable {σ : Type} [Numbered σ] {comps : Components σ}

/-! ### Runs of the coordinator -/

namespace Coordinator

variable (comps)

/-- States of a coordinator that was started at some time on a node. -/
inductive Reached : Coordinator σ → Prop
  | init (c : Coordinator σ) (node : Node σ) (hnode : Node.Reached comps node) (hc : c.toNode = node.restart) : Reached c
  | message (c : Coordinator σ) (env : CoordinatorEnv) (msg : CoordinatorMsg) (h : Reached c) :
      Reached (finalState (handleMsg comps.cfg env comps.root msg c))
  | timer (c : Coordinator σ) (env : CoordinatorEnv) (h : Reached c) :
      Reached (finalState (handleTimer comps.cfg env comps.root c))
  | background (c : Coordinator σ) (node : Node σ) (h : Reached c) (hstep : Node.Background comps c.toNode node) :
      Reached { c with toNode := node }

/-- However the call ends, the node was reached. -/
abbrev KeepsReached {α : Type} (x : CoordM σ α) : Prop :=
  Keeps (fun c => Node.Reached comps c.toNode) x

variable {comps} {env : CoordinatorEnv} {cfg : CoordinatorConfig}

theorem keeps_reached_modifyNode {f : Node σ → Node σ} (hf : ∀ node, Node.Reached comps node → Node.Reached comps (f node)) :
    KeepsReached comps (modifyNode f) :=
  fun c hc => hf c.toNode hc

theorem keeps_reached_modifyPool (f : Pool → Except String Pool) :
    KeepsReached comps (modifyPool f) := by
  refine Keeps.bind (Keeps.fromState _) fun pool => ?_
  exact keeps_reached_modifyNode fun node hnode => hnode.tail (.background (.pool node pool))

theorem reached_stop {node : Node σ} (hnode : Node.Reached comps node) (reverted : List Nat) :
    Node.Reached comps (node.stop reverted) := by
  rw [Node.stop]
  split
  · exact hnode
  · exact (hnode.tail (.background (.pool node _))).tail (.stop _)

theorem keeps_reached_handleStopPipeline (env : CoordinatorEnv) (failedBatchNum : Nat) :
    KeepsReached comps (handleStopPipeline env failedBatchNum) := by
  refine Keeps.bind Keeps.get fun c => ?_
  refine Keeps.bind (keeps_reached_modifyNode fun node hnode => reached_stop hnode env.reverted) fun _ => ?_
  refine Keeps.bind (keeps_reached_modifyNode fun node hnode => hnode.tail (.background (.pool node _))) fun _ => ?_
  exact Keeps.modify fun c hc => hc

theorem reached_receive {c : Coordinator σ} (hc : Node.Reached comps c.toNode) (stats : Stats) (vars : SCVariablesPtr) :
    Node.Reached comps (receive stats vars c).toNode :=
  hc.tail (.setSyncStatsVars c.toNode stats vars)

omit [Numbered σ] in
theorem modifyNode_run (f : Node σ → Node σ) (c : Coordinator σ) :
    modifyNode f c = .ok () { c with toNode := f c.toNode } :=
  rfl

theorem startFrom_toNode (root : σ → Nat) (batchNum : Nat) (c : Coordinator σ) :
    (finalState (startFrom root batchNum c)).toNode = finalState (Node.start root batchNum c.stats c.vars c.toNode) := by
  rw [startFrom]
  cases Node.start root batchNum c.stats c.vars c.toNode with
  | ok _ node => rfl
  | error e node => rfl

theorem reached_startPipeline (cfg : CoordinatorConfig) (env : CoordinatorEnv) {c : Coordinator σ}
    (hc : Node.Reached comps c.toNode) (hidle : c.pipeline = none) :
    Node.Reached comps (finalState (startPipeline cfg env comps.root c)).toNode := by
  have hpool := hc.tail (.background (.pool c.toNode (c.pool.reorg (c.fromBatch cfg).batchNum)))
  rw [startPipeline, bind_of_ok (get_run c), bind_of_ok (modifyNode_run _ c)]
  split
  · exact hpool.tail (.new _ hidle)
  · rw [bind_of_ok (modify_run _ _), startFrom_toNode]
    exact hpool.tail (.start { c.toNode with pool := c.pool.reorg (c.fromBatch cfg).batchNum } hidle _ c.stats c.vars)

theorem keeps_reached_purge (env : CoordinatorEnv) :
    KeepsReached comps (purge env) := by
  refine Keeps.bind Keeps.get fun c => ?_
  split
  · exact Keeps.bind (keeps_reached_modifyPool _) fun _ => keeps_reached_modifyPool _
  · exact Keeps.pure _

theorem keeps_reached_switchPipeline (cfg : CoordinatorConfig) (env : CoordinatorEnv) :
    KeepsReached comps (switchPipeline cfg env comps.root) := by
  intro c hc
  rw [switchPipeline, bind_of_ok (get_run c)]
  cases hpipeline : c.pipeline with
  | none =>
    dsimp only
    split
    · exact hc
    · split
      · exact reached_startPipeline cfg env hc hpipeline
      · exact hc
  | some p =>
    dsimp only
    split
    · exact reached_stop hc env.reverted
    · exact hc

theorem keeps_reached_syncStats (cfg : CoordinatorConfig) (env : CoordinatorEnv) :
    KeepsReached comps (syncStats cfg env comps.root) :=
  Keeps.bind (keeps_reached_switchPipeline cfg env) fun _ => keeps_reached_purge env

theorem keeps_reached_handleExternalBatches (cfg : CoordinatorConfig) (env : CoordinatorEnv) (msg : MsgSyncBlock) :
    KeepsReached comps (handleExternalBatches cfg env msg) := by
  refine Keeps.bind (Keeps.modify fun c hc => reached_receive hc msg.stats msg.vars) fun _ => ?_
  split
  · exact Keeps.pure _
  · refine Keeps.bind Keeps.get fun c => ?_
    split
    · exact keeps_reached_handleStopPipeline env _
    · exact keeps_reached_modifyNode fun node hnode => hnode.tail (.background (.pool node _))

theorem keeps_reached_handleTimer (cfg : CoordinatorConfig) (env : CoordinatorEnv) :
    KeepsReached comps (handleTimer cfg env comps.root) := by
  refine Keeps.bind Keeps.get fun c => ?_
  split
  · exact Keeps.pure _
  · exact keeps_reached_syncStats cfg env

theorem keeps_reached_handleMsg (cfg : CoordinatorConfig) (env : CoordinatorEnv) (msg : CoordinatorMsg) :
    KeepsReached comps (handleMsg cfg env comps.root msg) := by
  cases msg with
  | syncBlock msg =>
    exact Keeps.bind (keeps_reached_handleExternalBatches cfg env msg) fun _ => keeps_reached_handleTimer cfg env
  | syncReorg msg =>
    refine Keeps.bind (Keeps.modify fun c hc => reached_receive hc msg.stats msg.vars) fun _ => ?_
    refine Keeps.bind Keeps.get fun c => ?_
    split
    · exact keeps_reached_handleStopPipeline env 0
    · exact Keeps.pure _
  | stopPipeline failedBatchNum => exact keeps_reached_handleStopPipeline env failedBatchNum

theorem Reached.node {c : Coordinator σ} (h : Reached comps c) : Node.Reached comps c.toNode := by
  induction h with
  | init c node hnode hc =>
    rw [hc]
    exact hnode.tail (.restart node)
  | message c env msg _ ih => exact keeps_reached_handleMsg comps.cfg env msg c ih
  | timer c env _ ih => exact keeps_reached_handleTimer comps.cfg env c ih
  | background c node _ hstep ih => exact ih.tail (.background hstep)

end Coordinator

/-! ### Queues -/

def Built.isL1 (built : Built) : Bool :=
  built.queue.isSome

/-- The locally built batches below the next one that the synchronizer has not reported to the pipeline. -/
def Pipeline.chain (p : Pipeline) (lineage : List Built) : List Built :=
  lineage.takeWhile fun built => p.stats.lastBatch.batchNum < built.batchNum

/-- The last queue forged below the next batch: by its chain, or else as the synchronizer has reported. -/
def Pipeline.lastQueue (p : Pipeline) (lineage : List Built) : Option Int :=
  match (p.chain lineage).find? Built.isL1 with
  | some built => built.queue
  | none => some p.stats.lastForgeL1TxsNum

/-- The last L1 batch of a pipeline took the last queue that the pipeline has passed. -/
def Pipeline.OwnQueue (p : Pipeline) (lineage : List Built) : Prop :=
  ∀ built, lineage.find? Built.isL1 = some built → built.pipelineNum = p.num → built.queue = some p.state.lastForgeL1TxsNum

theorem Pipeline.OwnQueue.built {p p' : Pipeline} {lineage : List Built} (h : p.OwnQueue lineage) (hnum : p'.num = p.num)
    {batchNum : Nat} {l1Batch : Bool}
    (hforged : p'.state.lastForgeL1TxsNum = (p.forged l1Batch).state.lastForgeL1TxsNum) :
    p'.OwnQueue (p.built batchNum l1Batch :: lineage) := by
  intro built hfind hown
  cases l1Batch with
  | true =>
    cases hfind
    rw [hforged]
    rfl
  | false =>
    rw [hnum] at hown
    rw [hforged]
    exact h built hfind hown

/-- The batches that led to the contents of a database of the builder. -/
def queueInvariant (comps : Components σ) : NodeInvariant comps where
  Synced s := s.lineage = []
  Built n s := ∀ built ∈ s.lineage, built.pipelineNum ≤ n
  Running p s := (∀ built ∈ s.lineage, built.pipelineNum ≤ p.num) ∧ (p.errAtBatchNum = 0 → p.OwnQueue s.lineage)
  synced_empty := rfl
  synced_sync _ _ _ _ := rfl
  built_of_synced n s hs := by simp [hs]
  built_succ n s h built hbuilt := Nat.le_succ_of_le (h built hbuilt)
  running_start n s batchNum stats vars h := by
    refine ⟨fun built hbuilt => Nat.le_succ_of_le (h built hbuilt), fun _ built hfind hown => ?_⟩
    -- the new pipeline has not built any batch
    have hle := h built (List.mem_of_find?_eq_some hfind)
    rw [hown] at hle
    exact absurd hle (Nat.not_succ_le_self n)
  running_informed p p' s h hnum hstate herr := by
    refine ⟨fun built hbuilt => hnum ▸ h.1 built hbuilt, fun herr' built hfind hown => ?_⟩
    rw [hstate]
    exact h.2 (herr ▸ herr') built hfind (hnum ▸ hown)
  running_failed p p' s content h hnum herr := ⟨fun built hbuilt => hnum ▸ h.1 built hbuilt, fun herr' => absurd herr' herr⟩
  running_built env p p' s l1Batch sel content _ h herr _ hnum hforged := by
    have hall : ∀ built ∈ p.built (p.state.batchNum + 1) l1Batch :: s.lineage, built.pipelineNum ≤ p.num := by
      intro built hbuilt
      rcases List.mem_cons.mp hbuilt with rfl | hbuilt
      · exact le_rfl
      · exact h.1 built hbuilt
    exact ⟨⟨fun built hbuilt => hnum ▸ hall built hbuilt, fun _ => (h.2 herr).built hnum hforged⟩, hall⟩

variable {c : Coordinator σ} {p : Pipeline} {env : ForgeEnv σ} {info : BatchInfo} {w : Workspace σ}

/-- **Queues.**  An L1 batch takes the queue after the last one forged below it, exactly when the last L1 batch of
its chain was built by the same pipeline or its queue was already reported by the synchronizer. -/
theorem l1Batch_takesNextQueue (h : Coordinator.Reached comps c) (hp : c.pipeline = some p) (herr : p.errAtBatchNum = 0)
    (hforge : ForgeM.forgeBatch comps.cfg env (p.state.batchNum + 1) ⟨p, c.pool, c.dbs⟩ = .ok info w)
    (hl1Batch : info.l1Batch = true) :
    ∃ queue sel, env.Selects queue c.dbs.txSelector.current.content sel ∧ info.l1UserTxs = sel.l1UserTxs ∧
      w.dbs.batchBuilder.current.lineage =
        ⟨p.state.batchNum + 1, p.num, some queue⟩ :: c.dbs.batchBuilder.current.lineage ∧
      (p.lastQueue c.dbs.batchBuilder.current.lineage = some (queue - 1) ↔
        ∀ built, (p.chain c.dbs.batchBuilder.current.lineage).find? Built.isL1 = some built → built.pipelineNum ≠ p.num →
          built.queue = some p.stats.lastForgeL1TxsNum) := by
  obtain ⟨-, -, hown⟩ := ((queueInvariant comps).holds_of_reached h.node).running p hp
  obtain ⟨sel, content, hl1UserTxs, hselects, -, hview⟩ := ForgeM.forgeBatch_ok hforge
  obtain ⟨hlast, hselects⟩ := hselects hl1Batch
  have hbuilder : w.dbs.batchBuilder = _ := congrArg (fun v => v.2.1) hview
  dsimp only at hlast
  refine ⟨p.nextQueue, sel, hselects, hl1UserTxs, ?_, ?_⟩
  · rw [hbuilder, hl1Batch]
    rfl
  · rw [Pipeline.lastQueue, Pipeline.nextQueue, add_sub_cancel_right, hlast]
    cases hfind : (p.chain c.dbs.batchBuilder.current.lineage).find? Built.isL1 with
    | none => simp
    | some built =>
      refine ⟨fun hqueue built' hbuilt' _ => Option.some.inj hbuilt' ▸ hqueue, fun hinherited => ?_⟩
      by_cases hnum : built.pipelineNum = p.num
      · rw [← hlast]
        exact hown herr built ((List.takeWhile_prefix _).find?_eq_some hfind) hnum
      · exact hinherited built rfl hnum

def quietComponents : Components Store where
  cfg := Coordinator.soloConfig
  root _ := 0
  Builds _ := True
  Syncs _ _ := True

namespace Coordinator

def booted : Coordinator Store where
  toNode := Node.initial.restart
  consts := ⟨0⟩
  vars := soloVars
  stats := { soloStats 0 0 with ethLastBlock := -1 }

def emptyBlock : CoordinatorMsg :=
  .syncBlock ⟨soloStats 0 0, [], {}⟩

def started : Coordinator Store :=
  finalState (handleMsg soloConfig {} quietComponents.root emptyBlock booted)

def builtFirst : Coordinator Store :=
  { started with toNode := started.toNode.iterate soloConfig quietEnv }

/-- The first batch is synced, and the deadline of the next L1 batch is over. -/
def laterStats : Stats :=
  { soloStats 1 7 with ethLastBlock := 20, syncLastBlock := 20, lastL1BatchBlock := 11, lastForgeL1TxsNum := 0 }

def told : Coordinator Store :=
  finalState (handleMsg soloConfig {} quietComponents.root (.syncBlock ⟨laterStats, [(1, 7)], {}⟩) builtFirst)

def continued : Coordinator Store :=
  { told with toNode := told.toNode.receiveStatsVars }

/-- The pipeline before its second batch. -/
def runningPipeline : Pipeline :=
  ⟨1, ⟨1, 11, 0, 0⟩, 0, some 0, laterStats, soloVars, []⟩

/-- Its second batch fails, and another pipeline is started from the first batch. -/
def startedAgain : Coordinator Store :=
  finalState (handleMsg soloConfig {} quietComponents.root emptyBlock
    (finalState (handleMsg soloConfig {} quietComponents.root (.stopPipeline 2) builtFirst)))

theorem reached_started : Reached quietComponents started :=
  .message booted {} emptyBlock (.init booted Node.initial .refl rfl)

theorem reached_builtFirst : Reached quietComponents builtFirst :=
  .background started _ reached_started (.iterate _ quietEnv trivial)

theorem reached_continued : Reached quietComponents continued :=
  .background told _ (.message _ {} _ reached_builtFirst) (.receiveStatsVars _)

theorem reached_startedAgain : Reached quietComponents startedAgain :=
  .message _ {} emptyBlock (.message _ {} (.stopPipeline 2) reached_builtFirst)

theorem continued_pipeline : continued.pipeline = some runningPipeline := rfl

theorem startedAgain_pipeline : startedAgain.pipeline = some (Pipeline.start 2 1 (soloStats 0 0) soloVars) := rfl

theorem forgeBatch_lineage (c : Coordinator Store) (p : Pipeline) (lineage : List Built)
    (h : succeedsWith (fun info w => info.l1Batch && decide (w.dbs.batchBuilder.current.lineage = lineage))
      (ForgeM.forgeBatch soloConfig quietEnv (p.state.batchNum + 1) ⟨p, c.pool, c.dbs⟩) = true) :
    ∃ info w, ForgeM.forgeBatch soloConfig quietEnv (p.state.batchNum + 1) ⟨p, c.pool, c.dbs⟩ = .ok info w ∧
      info.l1Batch = true ∧ w.dbs.batchBuilder.current.lineage = lineage := by
  obtain ⟨info, w, hforge, htest⟩ := exists_of_succeedsWith h
  rw [Bool.and_eq_true, decide_eq_true_eq] at htest
  exact ⟨info, w, hforge, htest⟩

/-- The second L1 batch takes queue 1, after queue 0 of the first one. -/
theorem l1Batch_takesNextQueue_second :
    ∃ info w queue, ForgeM.forgeBatch soloConfig quietEnv 2 ⟨runningPipeline, continued.pool, continued.dbs⟩ = .ok info w ∧
      w.dbs.batchBuilder.current.lineage = [⟨2, 1, some queue⟩, ⟨1, 1, some 0⟩] ∧ queue = 1 ∧
      runningPipeline.lastQueue [⟨1, 1, some 0⟩] = some (queue - 1) := by
  obtain ⟨info, w, hforge, hl1Batch, hsecond⟩ := forgeBatch_lineage continued runningPipeline
    [⟨2, 1, some 1⟩, ⟨1, 1, some 0⟩] (by decide +kernel)
  obtain ⟨queue, sel, -, -, hlineage, hiff⟩ :=
    l1Batch_takesNextQueue reached_continued continued_pipeline rfl hforge hl1Batch
  have hqueue : queue = 1 := by
    rw [hsecond] at hlineage
    cases hlineage
    rfl
  refine ⟨info, w, queue, hforge, hlineage, hqueue, hiff.mpr ?_⟩
  -- the first batch is synced, so the chain of the pipeline begins above it
  intro built hbuilt
  cases hbuilt

/-- The second pipeline takes queue 0 again, on top of the batch that has taken it. -/
theorem startedAgain_takesQueueTwice :
    Reached quietComponents startedAgain ∧ ∃ p info w, startedAgain.pipeline = some p ∧ p.errAtBatchNum = 0 ∧
      ForgeM.forgeBatch soloConfig quietEnv (p.state.batchNum + 1) ⟨p, startedAgain.pool, startedAgain.dbs⟩ = .ok info w ∧
      info.l1Batch = true ∧ w.dbs.batchBuilder.current.lineage = [⟨2, 2, some 0⟩, ⟨1, 1, some 0⟩] ∧
      p.lastQueue startedAgain.dbs.batchBuilder.current.lineage = some 0 := by
  obtain ⟨info, w, hforge, hl1Batch, hlineage⟩ := forgeBatch_lineage startedAgain
    (Pipeline.start 2 1 (soloStats 0 0) soloVars) [⟨2, 2, some 0⟩, ⟨1, 1, some 0⟩] (by decide +kernel)
  exact ⟨reached_startedAgain, _, info, w, startedAgain_pipeline, rfl, hforge, hl1Batch, hlineage, by decide +kernel⟩

end Coordinator

end HermezRollup
