import HermezRollup.Coordinator

/-! Runs of a node that forges: pipelines are started from any batch and stopped at any time, batches are
built, skipped and fail, the synchronizer goes on and back, old checkpoints are deleted.  An iteration of
a pipeline leaves the database of the builder alone, or changes its contents and ends the forging, or makes
a checkpoint for a new batch; what holds of all checkpoints follows from these three. -/

namespace HermezRollup

open Checkpoints (DB Numbered Missing)
open Fallible

variable {σ : Type}

/-! ### What a batch changes -/

namespace Workspace

/-- All but the pool and the database of the selector. -/
def builderView (w : Workspace σ) : Pipeline × DB (LocalState σ) × DB (LocalState σ) × (Nat → Option Nat) :=
  (w.pipeline, w.dbs.batchBuilder, w.dbs.synchronizer, w.dbs.stateRoot)

theorem builderView_eq {w : Workspace σ} {pipeline : Pipeline} {builder synchronizer : DB (LocalState σ)}
    {root : Nat → Option Nat} : w.builderView = (pipeline, builder, synchronizer, root) ↔
      w.pipeline = pipeline ∧ w.dbs.batchBuilder = builder ∧ w.dbs.synchronizer = synchronizer ∧ w.dbs.stateRoot = root := by
  rw [builderView, Prod.mk.injEq, Prod.mk.injEq, Prod.mk.injEq]

def withTxSelector (w : Workspace σ) (db : DB (LocalState σ)) : Workspace σ :=
  { w with dbs := { w.dbs with txSelector := db } }

end Workspace

variable [Numbered σ] {P : Workspace σ → Prop}

/-- What neither the pool nor a selection can change. -/
structure Framed (P : Workspace σ → Prop) : Prop where
  pool : ∀ (w : Workspace σ) pool, P w → P { w with pool := pool }
  edit : ∀ w s, P w → P (w.withTxSelector (w.dbs.txSelector.edit s))
  checkpoint : ∀ w s, P w → P (w.withTxSelector (w.dbs.txSelector.checkpoint s))
  reset : ∀ w n, P w → P (w.withTxSelector (finalState (DB.reset n w.dbs.txSelector)))

theorem framed_builderView (v : Pipeline × DB (LocalState σ) × DB (LocalState σ) × (Nat → Option Nat)) :
    Framed fun w : Workspace σ => w.builderView = v :=
  ⟨fun _ _ h => h, fun _ _ h => h, fun _ _ h => h, fun _ _ h => h⟩

/-- A selection with the transactions of a queue. -/
def ForgeEnv.Selects (env : ForgeEnv σ) (queue : Int) (content : σ) (sel : SelectionOut) : Prop :=
  ∃ l1UserTxs l1UserFutureTxs, env.getUnforgedL1UserTxs queue = .ok l1UserTxs ∧
    env.getUnforgedL1UserFutureTxs queue = .ok l1UserFutureTxs ∧
    (env.getL1L2TxSelection l1UserTxs l1UserFutureTxs content).1 = .ok sel

namespace WorkM

theorem keeps_modifyPool (hP : Framed P) (f : Pool → Except String Pool) : Keeps P (modifyPool f) := by
  refine Keeps.bind (Keeps.fromState _) fun pool => ?_
  exact Keeps.modify fun w hw => hP.pool w pool hw

theorem keeps_runTxSelector (hP : Framed P) (select : σ → Except String SelectionOut × σ) :
    Keeps P (runTxSelector select) := by
  intro w hw
  rw [runTxSelector]
  rcases select w.dbs.txSelector.current.content with ⟨_ | _, content⟩
  · exact hP.edit w _ hw
  · exact hP.checkpoint w _ hw

theorem runTxSelector_ok {select : σ → Except String SelectionOut × σ} {w w' : Workspace σ} {sel : SelectionOut}
    (h : runTxSelector select w = .ok sel w') : (select w.dbs.txSelector.current.content).1 = .ok sel := by
  rw [runTxSelector] at h
  rcases hrun : select w.dbs.txSelector.current.content with ⟨_ | _, content⟩
  · rw [hrun] at h
    cases h
  · rw [hrun] at h
    cases h
    rfl

theorem keeps_resetTxSelector (hP : Framed P) (batchNum : Nat) : Keeps P (resetTxSelector batchNum) := by
  intro w hw
  have hreset := hP.reset w batchNum hw
  rw [resetTxSelector]
  cases hrun : DB.reset batchNum w.dbs.txSelector with
  | ok _ db =>
    rw [hrun] at hreset
    exact hreset
  | error e db =>
    rw [hrun] at hreset
    exact hreset

theorem keeps_markPool (hP : Framed P) (env : ForgeEnv σ) (batchNum : Nat) (sel : SelectionOut) :
    Keeps P (markPool env batchNum sel) := by
  refine Keeps.bind (Keeps.fromState _) fun _ => ?_
  refine Keeps.bind (keeps_modifyPool hP _) fun _ => ?_
  refine Keeps.bind (Keeps.fromState _) fun _ => ?_
  refine Keeps.bind (keeps_modifyPool hP _) fun _ => ?_
  refine Keeps.bind (Keeps.fromState _) fun _ => ?_
  exact keeps_modifyPool hP _

end WorkM

namespace ForgeM

theorem keeps_selectL1L2 (hP : Framed P) (env : ForgeEnv σ) : Keeps P (selectL1L2 env) := by
  refine Keeps.bind Keeps.get fun w => ?_
  dsimp only
  split
  · exact Keeps.throw _
  · refine Keeps.withError ?_ _
    refine Keeps.bind (Keeps.fromState _) fun l1UserTxs => ?_
    refine Keeps.bind (Keeps.fromState _) fun l1UserFutureTxs => ?_
    exact WorkM.keeps_runTxSelector hP _

theorem keeps_selectL2 (hP : Framed P) (env : ForgeEnv σ) : Keeps P (selectL2 env) := by
  refine Keeps.withError ?_ _
  refine Keeps.bind Keeps.get fun w => ?_
  refine Keeps.bind (Keeps.fromState _) fun l1UserFutureTxs => ?_
  refine Keeps.bind (WorkM.keeps_runTxSelector hP _) fun sel => ?_
  exact Keeps.pure _

theorem keeps_select (hP : Framed P) (env : ForgeEnv σ) (l1Batch : Bool) : Keeps P (select env l1Batch) := by
  cases l1Batch with
  | true => exact keeps_selectL1L2 hP env
  | false => exact keeps_selectL2 hP env

theorem keeps_prepare (hP : Framed P) (cfg : CoordinatorConfig) (env : ForgeEnv σ) (batchNum : Nat) :
    Keeps P (prepare cfg env batchNum) := by
  refine Keeps.bind ((WorkM.keeps_modifyPool hP _).withError _) fun _ => ?_
  refine Keeps.bind ((WorkM.keeps_modifyPool hP _).withError _) fun _ => ?_
  refine Keeps.bind Keeps.get fun w => ?_
  dsimp only
  cases w.pipeline.forgePolicySkipPreSelection cfg env.now with
  | some reason => exact Keeps.throw _
  | none =>
    refine Keeps.bind (keeps_select hP env _) fun sel => ?_
    refine Keeps.bind ((Keeps.fromState _).withError _) fun skip => ?_
    cases skip with
    | none => exact Keeps.pure _
    | some reason =>
      refine Keeps.bind ((WorkM.keeps_resetTxSelector hP _).withError _) fun _ => ?_
      exact Keeps.throw _

variable {cfg : CoordinatorConfig} {env : ForgeEnv σ} {batchNum : Nat} {w w' : Workspace σ}

omit [Numbered σ] in
theorem modifyPool_ok {f : Pool → Except String Pool} (h : withError ForgeStop.failed (WorkM.modifyPool f) w = .ok () w') :
    ∃ pool, w' = { w with pool := pool } := by
  obtain ⟨pool, w₁, hpool, hset⟩ := bind_ok.mp (withError_ok.mp h)
  obtain ⟨-, rfl⟩ := fromState_ok.mp hpool
  cases hset
  exact ⟨pool, rfl⟩

/-- An L1 batch is forged only when the synchronizer has reported the queue of the one before, and with the
transactions of the next queue. -/
theorem prepare_l1Batch {sel : SelectionOut} (h : prepare cfg env batchNum w = .ok (true, sel) w') :
    w.pipeline.state.lastForgeL1TxsNum = w.pipeline.stats.lastForgeL1TxsNum ∧
      env.Selects w.pipeline.nextQueue w.dbs.txSelector.current.content sel := by
  obtain ⟨_, w₁, hinvalidate, h⟩ := bind_ok.mp h
  obtain ⟨_, w₂, hpurge, h⟩ := bind_ok.mp h
  obtain ⟨pool₁, rfl⟩ := modifyPool_ok hinvalidate
  obtain ⟨pool₂, rfl⟩ := modifyPool_ok hpurge
  rw [bind_of_ok (get_run _)] at h
  dsimp only at h
  cases hpre : w.pipeline.forgePolicySkipPreSelection cfg env.now with
  | some reason =>
    rw [hpre] at h
    cases h
  | none =>
    rw [hpre] at h
    obtain ⟨sel', w₃, hsel, h⟩ := bind_ok.mp h
    obtain ⟨skip, w₄, -, h⟩ := bind_ok.mp h
    cases skip with
    | some reason =>
      obtain ⟨_, w₅, -, h⟩ := bind_ok.mp h
      cases h
    | none =>
      rw [pure_ok, Prod.mk.injEq] at h
      obtain ⟨⟨hl1Batch, rfl⟩, -⟩ := h
      rw [hl1Batch, select, if_pos rfl, selectL1L2, bind_of_ok (get_run _)] at hsel
      split at hsel
      · cases hsel
      next hsynced =>
        refine ⟨not_not.mp hsynced, ?_⟩
        obtain ⟨l1UserTxs, w₅, hanswer, hsel⟩ := bind_ok.mp (withError_ok.mp hsel)
        obtain ⟨hl1UserTxs, rfl⟩ := fromState_ok.mp hanswer
        obtain ⟨l1UserFutureTxs, w₆, hanswer', hsel⟩ := bind_ok.mp hsel
        obtain ⟨hl1UserFutureTxs, rfl⟩ := fromState_ok.mp hanswer'
        have hrun := WorkM.runTxSelector_ok hsel
        exact ⟨l1UserTxs, l1UserFutureTxs, hl1UserTxs, hl1UserFutureTxs, hrun⟩

end ForgeM

/-! ### A batch is built -/

def Pipeline.forged (p : Pipeline) (l1Batch : Bool) : Pipeline :=
  { p with state := { p.state with
      lastScheduledL1BatchBlockNum := if l1Batch then p.stats.ethLastBlock + 1 else p.state.lastScheduledL1BatchBlockNum
      lastForgeL1TxsNum := if l1Batch then p.nextQueue else p.state.lastForgeL1TxsNum
      lastSlotForged := p.stats.currentSlot.slotNum } }

def Pipeline.built (p : Pipeline) (batchNum : Nat) (l1Batch : Bool) : Built :=
  ⟨batchNum, p.num, if l1Batch then some p.nextQueue else none⟩

namespace WorkM

variable {cfg : CoordinatorConfig} {env : ForgeEnv σ} {batchNum : Nat} {l1Batch : Bool} {sel : SelectionOut}
  {w w' : Workspace σ}

omit [Numbered σ] in
theorem scheduleL1Batch_run (l1Batch : Bool) (w : Workspace σ) :
    scheduleL1Batch l1Batch w = .ok () { w with pipeline := { w.pipeline with state := { w.pipeline.state with
      lastScheduledL1BatchBlockNum :=
        if l1Batch then w.pipeline.stats.ethLastBlock + 1 else w.pipeline.state.lastScheduledL1BatchBlockNum
      lastForgeL1TxsNum := if l1Batch then w.pipeline.nextQueue else w.pipeline.state.lastForgeL1TxsNum } } } := by
  cases l1Batch with
  | false => rfl
  | true => rfl

theorem forgeSelected_ok {info : BatchInfo} (h : forgeSelected cfg env batchNum l1Batch sel w = .ok info w') :
    info.l1Batch = l1Batch ∧ info.l1UserTxs = sel.l1UserTxs ∧
      ∃ content, env.buildBatch sel w.dbs.batchBuilder.current.content = (.ok (), content) ∧
      w'.builderView = (w.pipeline.forged l1Batch, w.dbs.batchBuilder.checkpoint
        ⟨content, w.pipeline.built batchNum l1Batch :: w.dbs.batchBuilder.current.lineage⟩,
        w.dbs.synchronizer, w.dbs.stateRoot) := by
  rw [forgeSelected, bind_of_ok (get_run w), bind_of_ok (scheduleL1Batch_run l1Batch w)] at h
  obtain ⟨_, w₁, hmark, h⟩ := bind_ok.mp h
  have hview := (keeps_markPool (framed_builderView _) env batchNum sel).ok rfl hmark
  obtain ⟨_, w₂, hbuild, h⟩ := bind_ok.mp h
  obtain ⟨hpipeline, hbuilder, hsynchronizer, hroot⟩ := Workspace.builderView_eq.mp hview
  dsimp only at hpipeline hbuilder hsynchronizer hroot
  rw [runBatchBuilder, hbuilder] at hbuild
  rcases hrun : env.buildBatch sel w.dbs.batchBuilder.current.content with ⟨_ | _, content⟩
  · rw [hrun] at hbuild
    cases hbuild
  · rw [hrun] at hbuild
    cases hbuild
    cases h
    refine ⟨rfl, rfl, content, rfl, ?_⟩
    rw [Workspace.builderView]
    dsimp only
    rw [hpipeline, hsynchronizer, hroot]
    rfl

theorem forgeSelected_error {e : String} (h : forgeSelected cfg env batchNum l1Batch sel w = .error e w') :
    ∃ content, w'.pipeline.num = w.pipeline.num ∧
      w'.dbs.batchBuilder = w.dbs.batchBuilder.edit { w.dbs.batchBuilder.current with content := content } ∧
      w'.dbs.synchronizer = w.dbs.synchronizer ∧ w'.dbs.stateRoot = w.dbs.stateRoot := by
  rw [forgeSelected, bind_of_ok (get_run w), bind_of_ok (scheduleL1Batch_run l1Batch w)] at h
  rcases bind_error.mp h with hmark | ⟨_, w₁, hmark, h⟩
  · have hview := (keeps_markPool (framed_builderView _) env batchNum sel).error rfl hmark
    obtain ⟨hpipeline, hbuilder, hsynchronizer, hroot⟩ := Workspace.builderView_eq.mp hview
    exact ⟨_, by rw [hpipeline], hbuilder, hsynchronizer, hroot⟩
  · have hview := (keeps_markPool (framed_builderView _) env batchNum sel).ok rfl hmark
    obtain ⟨hpipeline, hbuilder, hsynchronizer, hroot⟩ := Workspace.builderView_eq.mp hview
    rcases bind_error.mp h with hbuild | ⟨_, w₂, -, h⟩
    · rw [runBatchBuilder] at hbuild
      rcases hrun : env.buildBatch sel w₁.dbs.batchBuilder.current.content with ⟨_ | _, content⟩
      · rw [hrun] at hbuild
        cases hbuild
        refine ⟨content, by rw [hpipeline], ?_, hsynchronizer, hroot⟩
        dsimp only
        rw [hbuilder]
      · rw [hrun] at hbuild
        cases hbuild
    · cases h

end WorkM

/-- What an iteration makes of a pipeline and of the database of the builder. -/
inductive Outcome (env : ForgeEnv σ) (p : Pipeline) (db : DB (LocalState σ)) : Pipeline → DB (LocalState σ) → Prop
  | skipped : Outcome env p db p db
  | failed (p' : Pipeline) (content : σ) (hnum : p'.num = p.num) (herr : p'.errAtBatchNum ≠ 0) :
      Outcome env p db p' (db.edit { db.current with content := content })
  | built (l1Batch : Bool) (sel : SelectionOut) (content : σ) (p' : Pipeline)
      (hbuild : env.buildBatch sel db.current.content = (.ok (), content)) (hnum : p'.num = p.num)
      (hforged : p'.state.lastForgeL1TxsNum = (p.forged l1Batch).state.lastForgeL1TxsNum) :
      Outcome env p db p'
        (db.checkpoint ⟨content, p.built (p.state.batchNum + 1) l1Batch :: db.current.lineage⟩)

namespace ForgeM

variable {cfg : CoordinatorConfig} {env : ForgeEnv σ} {batchNum : Nat} {w w' : Workspace σ}

theorem forgeBatch_ok {info : BatchInfo} (h : forgeBatch cfg env batchNum w = .ok info w') :
    ∃ sel content, info.l1UserTxs = sel.l1UserTxs ∧
      (info.l1Batch → w.pipeline.state.lastForgeL1TxsNum = w.pipeline.stats.lastForgeL1TxsNum ∧
        env.Selects w.pipeline.nextQueue w.dbs.txSelector.current.content sel) ∧
      env.buildBatch sel w.dbs.batchBuilder.current.content = (.ok (), content) ∧
      w'.builderView = (w.pipeline.forged info.l1Batch, w.dbs.batchBuilder.checkpoint
        ⟨content, w.pipeline.built batchNum info.l1Batch :: w.dbs.batchBuilder.current.lineage⟩,
        w.dbs.synchronizer, w.dbs.stateRoot) := by
  obtain ⟨⟨l1Batch, sel⟩, w₁, hprepare, h⟩ := bind_ok.mp h
  obtain ⟨rfl, hl1UserTxs, content, hbuild, hview⟩ := WorkM.forgeSelected_ok (withError_ok.mp h)
  have hview₁ := (keeps_prepare (framed_builderView _) cfg env batchNum).ok rfl hprepare
  obtain ⟨hpipeline, hbuilder, hsynchronizer, hroot⟩ := Workspace.builderView_eq.mp hview₁
  rw [hbuilder] at hbuild
  rw [hpipeline, hbuilder, hsynchronizer, hroot] at hview
  refine ⟨sel, content, hl1UserTxs, fun hl1Batch => ?_, hbuild, hview⟩
  rw [hl1Batch] at hprepare
  exact prepare_l1Batch hprepare

/-- A batch that is not forged: nothing happens, or the builder fails in some state. -/
theorem forgeBatch_error {stop : ForgeStop} (h : forgeBatch cfg env batchNum w = .error stop w') :
    w'.builderView = w.builderView ∨ (∃ e, stop = .failed e) ∧ ∃ content, w'.pipeline.num = w.pipeline.num ∧
      w'.dbs.batchBuilder = w.dbs.batchBuilder.edit { w.dbs.batchBuilder.current with content := content } ∧
      w'.dbs.synchronizer = w.dbs.synchronizer ∧ w'.dbs.stateRoot = w.dbs.stateRoot := by
  rcases bind_error.mp h with hprepare | ⟨⟨l1Batch, sel⟩, w₁, hprepare, h⟩
  · exact .inl ((keeps_prepare (framed_builderView _) cfg env batchNum).error rfl hprepare)
  · obtain ⟨e, hselected, rfl⟩ := withError_error.mp h
    have hview := (keeps_prepare (framed_builderView _) cfg env batchNum).ok rfl hprepare
    obtain ⟨hpipeline, hbuilder, hsynchronizer, hroot⟩ := Workspace.builderView_eq.mp hview
    have hfailed := WorkM.forgeSelected_error hselected
    rw [hpipeline, hbuilder, hsynchronizer, hroot] at hfailed
    exact .inr ⟨⟨e, rfl⟩, hfailed⟩

omit [Numbered σ] in
theorem answer_ok {α : Type} {x : Except String α} {a : α} (h : x = .ok a) (w : Workspace σ) :
    withError ForgeStop.failed (WorkM.answer x) w = .ok a w := by
  rw [h]
  rfl

omit [Numbered σ] in
theorem answer_error {α : Type} {x : Except String α} {e : String} (h : x = .error e) (w : Workspace σ) :
    withError ForgeStop.failed (WorkM.answer x) w = .error (.failed e) w := by
  rw [h]
  rfl

theorem handleForgeBatch_run (cfg : CoordinatorConfig) (env : ForgeEnv σ) (batchNum : Nat) (w : Workspace σ) :
    handleForgeBatch cfg env batchNum w = match env.serverProof with
      | .error e => .error (.failed e) w
      | .ok () => match forgeBatch cfg env batchNum w with
        | .error stop w' => .error stop w'
        | .ok info w' => match env.calculateProof with
          | .error e => .error (.failed e) w'
          | .ok () => .ok info w' := by
  cases hserver : env.serverProof with
  | error e => exact bind_error.mpr (.inl (answer_error hserver w))
  | ok =>
    rw [handleForgeBatch, bind_of_ok (answer_ok hserver w)]
    dsimp only
    cases hforge : forgeBatch cfg env batchNum w with
    | error stop w' => exact bind_error.mpr (.inl hforge)
    | ok info w' =>
      rw [bind_of_ok hforge]
      dsimp only
      cases env.calculateProof with
      | error e => exact bind_error.mpr (.inl (answer_error rfl w'))
      | ok => exact bind_of_ok (answer_ok rfl w')

end ForgeM

namespace Workspace

variable {cfg : CoordinatorConfig} {env : ForgeEnv σ} {w : Workspace σ}

theorem iterate_outcome (cfg : CoordinatorConfig) (env : ForgeEnv σ) (w : Workspace σ) (herr : w.pipeline.errAtBatchNum = 0) :
    Outcome env w.pipeline w.dbs.batchBuilder (w.iterate cfg env).pipeline (w.iterate cfg env).dbs.batchBuilder ∧
      (w.iterate cfg env).dbs.synchronizer = w.dbs.synchronizer ∧
      (w.iterate cfg env).dbs.stateRoot = w.dbs.stateRoot := by
  rw [iterate, if_neg (not_not.mpr herr)]
  dsimp only
  rw [ForgeM.handleForgeBatch_run]
  cases env.serverProof with
  | error e => exact ⟨.failed _ w.dbs.batchBuilder.current.content rfl (Nat.succ_ne_zero _), rfl, rfl⟩
  | ok =>
    dsimp only
    cases hforge : ForgeM.forgeBatch cfg env (w.pipeline.state.batchNum + 1) w with
    | error stop w' =>
      rcases ForgeM.forgeBatch_error hforge with hview | ⟨⟨e, rfl⟩, content, hnum, hbuilder, hsynchronizer, hroot⟩
      · obtain ⟨hpipeline, hbuilder, hsynchronizer, hroot⟩ := Workspace.builderView_eq.mp hview
        cases stop with
        | failed e =>
          refine ⟨?_, hsynchronizer, hroot⟩
          show Outcome env w.pipeline w.dbs.batchBuilder { w'.pipeline with errAtBatchNum := _ } w'.dbs.batchBuilder
          rw [hpipeline, hbuilder]
          exact .failed _ w.dbs.batchBuilder.current.content rfl (Nat.succ_ne_zero _)
        | skip reason =>
          refine ⟨?_, hsynchronizer, hroot⟩
          show Outcome env w.pipeline w.dbs.batchBuilder w'.pipeline w'.dbs.batchBuilder
          rw [hpipeline, hbuilder]
          exact .skipped
        | lastL1BatchNotSynced =>
          refine ⟨?_, hsynchronizer, hroot⟩
          show Outcome env w.pipeline w.dbs.batchBuilder w'.pipeline w'.dbs.batchBuilder
          rw [hpipeline, hbuilder]
          exact .skipped
      · refine ⟨?_, hsynchronizer, hroot⟩
        show Outcome env w.pipeline w.dbs.batchBuilder { w'.pipeline with errAtBatchNum := _ } w'.dbs.batchBuilder
        rw [hbuilder]
        exact .failed _ content hnum (Nat.succ_ne_zero _)
    | ok info w' =>
      obtain ⟨sel, content, -, -, hbuild, hview⟩ := ForgeM.forgeBatch_ok hforge
      obtain ⟨hpipeline, hbuilder, hsynchronizer, hroot⟩ := Workspace.builderView_eq.mp hview
      dsimp only
      cases env.calculateProof with
      | error e =>
        refine ⟨?_, hsynchronizer, hroot⟩
        show Outcome env w.pipeline w.dbs.batchBuilder { w'.pipeline with errAtBatchNum := _ } w'.dbs.batchBuilder
        rw [hpipeline, hbuilder]
        exact .built info.l1Batch sel content _ hbuild rfl rfl
      | ok =>
        refine ⟨?_, hsynchronizer, hroot⟩
        show Outcome env w.pipeline w.dbs.batchBuilder { w'.pipeline with
          lastForgeTime := _, state := { w'.pipeline.state with batchNum := _ } } w'.dbs.batchBuilder
        rw [hpipeline, hbuilder]
        exact .built info.l1Batch sel content _ hbuild rfl rfl

end Workspace

/-! ### Runs of a node -/

/-- What a node is made of: the state root of a database, the builds that can be, and what the synchronizer
can make of its contents with a batch. -/
structure Components (σ : Type) where
  cfg : CoordinatorConfig
  root : σ → Nat
  Builds : ForgeEnv σ → Prop
  Syncs : σ → σ → Prop

namespace Node

variable (comps : Components σ)

/-- A batch of the block chain: a checkpoint of the synchronizer and a row of the HistoryDB. -/
def sync (node : Node σ) (content : σ) : Node σ :=
  { node with dbs := { node.dbs with
      synchronizer := node.dbs.synchronizer.checkpoint ⟨content, []⟩
      stateRoot := Function.update node.dbs.stateRoot (Numbered.number content) (some (comps.root content)) } }

def syncReorg (node : Node σ) (batchNum : Nat) : Node σ :=
  { node with dbs := { node.dbs with
      synchronizer := finalState (DB.reset batchNum node.dbs.synchronizer)
      stateRoot := fun n => if n ≤ batchNum then node.dbs.stateRoot n else none } }

/-- Old checkpoints are deleted. -/
def prune (node : Node σ) (keep keep' keep'' : Nat → Bool) : Node σ :=
  { node with dbs := { node.dbs with
      txSelector := node.dbs.txSelector.prune keep
      batchBuilder := node.dbs.batchBuilder.prune keep'
      synchronizer := node.dbs.synchronizer.prune keep'' } }

/-- The node is started again: the database of the builder is emptied, that of the selector is reset to its last
checkpoint. -/
def restart (node : Node σ) : Node σ :=
  { node with
    pipelineNum := 0
    pipeline := none
    dbs := { node.dbs with
      batchBuilder := .new
      txSelector := finalState (DB.reset (Numbered.number node.dbs.txSelector.current) node.dbs.txSelector) } }

/-- What happens beside the coordinator. -/
inductive Background : Node σ → Node σ → Prop
  | iterate (node : Node σ) (env : ForgeEnv σ) (henv : comps.Builds env) : Background node (node.iterate comps.cfg env)
  | receiveStatsVars (node : Node σ) : Background node node.receiveStatsVars
  | failProof (node : Node σ) (failedBatch batchNum : Nat) (hpos : failedBatch ≠ 0) :
      Background node (node.failProof failedBatch batchNum)
  | pool (node : Node σ) (pool : Pool) : Background node { node with pool := pool }
  | sync (node : Node σ) (content : σ) (hsync : comps.Syncs node.dbs.synchronizer.current.content content) :
      Background node (node.sync comps content)
  | syncReorg (node : Node σ) (batchNum : Nat) : Background node (node.syncReorg batchNum)
  | prune (node : Node σ) (keep keep' keep'' : Nat → Bool) : Background node (node.prune keep keep' keep'')

/-- A step of a node under any coordinator. -/
inductive Step : Node σ → Node σ → Prop
  | background {node node' : Node σ} (h : Background comps node node') : Step node node'
  | setSyncStatsVars (node : Node σ) (stats : Stats) (vars : SCVariablesPtr) :
      Step node { node with pipeline := node.pipeline.map (·.setSyncStatsVars stats vars) }
  | new (node : Node σ) (hidle : node.pipeline = none) : Step node { node with pipelineNum := node.pipelineNum + 1 }
  | start (node : Node σ) (hidle : node.pipeline = none) (batchNum : Nat) (stats : Stats) (vars : SCVariables) :
      Step node (finalState (Node.start comps.root batchNum stats vars { node with pipelineNum := node.pipelineNum + 1 }))
  | stop (node : Node σ) : Step node { node with pipeline := none }
  | restart (node : Node σ) : Step node node.restart

def initial : Node σ where
  dbs := ⟨.new, .new, .new, fun _ => none⟩

def Reached (node : Node σ) : Prop :=
  Relation.ReflTransGen (Step comps) initial node

end Node

/-! ### Resets -/

namespace LocalDBs

variable {τ : Type} [Numbered τ] {synchronizer : DB τ} {stateRoot : Nat → Option Nat} {Q Q' : Nat → τ → Prop}

structure Kept (synchronizer : DB τ) (stateRoot : Nat → Option Nat) (Q Q' : Nat → τ → Prop) (dbs : LocalDBs τ) : Prop where
  synchronizer : dbs.synchronizer = synchronizer
  stateRoot : dbs.stateRoot = stateRoot
  txSelector : dbs.txSelector.All Q
  batchBuilder : dbs.batchBuilder.All Q'

theorem keeps_localReset (hsynchronizer : synchronizer.All Q) (batchNum : Nat) (fromSynchronizer : Bool) :
    Keeps (DB.All Q) (localReset synchronizer batchNum fromSynchronizer) := by
  cases fromSynchronizer with
  | true => exact DB.All.resetFrom hsynchronizer batchNum
  | false => exact DB.All.reset batchNum

variable {x : EStateM Missing (DB τ) Unit}

omit [Numbered τ] in
theorem keeps_onTxSelector (hx : Keeps (DB.All Q) x) :
    Keeps (Kept synchronizer stateRoot Q Q') (onTxSelector x) := by
  intro dbs h
  have hdb := hx _ h.txSelector
  rw [onTxSelector]
  cases hrun : x dbs.txSelector with
  | ok _ db =>
    rw [hrun] at hdb
    exact { h with txSelector := hdb }
  | error e db =>
    rw [hrun] at hdb
    exact { h with txSelector := hdb }

omit [Numbered τ] in
theorem keeps_onBatchBuilder (hx : Keeps (DB.All Q') x) :
    Keeps (Kept synchronizer stateRoot Q Q') (onBatchBuilder x) := by
  intro dbs h
  have hdb := hx _ h.batchBuilder
  rw [onBatchBuilder]
  cases hrun : x dbs.batchBuilder with
  | ok _ db =>
    rw [hrun] at hdb
    exact { h with batchBuilder := hdb }
  | error e db =>
    rw [hrun] at hdb
    exact { h with batchBuilder := hdb }

theorem keeps_forceReset (hQ : synchronizer.All Q) (hQ' : synchronizer.All Q') (root : τ → Nat) (batchNum : Nat) :
    Keeps (Kept synchronizer stateRoot Q Q') (forceReset root batchNum) := by
  intro dbs h
  rw [forceReset, bind_of_ok (get_run dbs)]
  cases dbs.stateRoot batchNum with
  | none => exact h
  | some r =>
    dsimp only
    split
    · exact h
    · rw [h.synchronizer]
      refine Keeps.bind (keeps_onTxSelector (keeps_localReset hQ batchNum true)) (fun _ => ?_) dbs h
      exact keeps_onBatchBuilder (keeps_localReset hQ' batchNum true)

theorem keeps_reset (stateRoot : Nat → Option Nat) (hQ : synchronizer.All Q) (hQ' : synchronizer.All Q')
    (root : τ → Nat) (batchNum : Nat) :
    Keeps (Kept synchronizer stateRoot Q Q') (reset root batchNum) := by
  intro dbs h
  rw [reset, bind_of_ok (get_run dbs), h.synchronizer]
  refine Keeps.bind (keeps_onTxSelector (keeps_localReset hQ batchNum _)) (fun _ => ?_) dbs h
  refine Keeps.bind (keeps_onBatchBuilder (keeps_localReset hQ' batchNum _)) fun _ => ?_
  exact keeps_forceReset hQ hQ' root batchNum

theorem localReset_current {Q : τ → Prop} (hempty : Q Numbered.empty) (hsynchronizer : synchronizer.All fun _ => Q)
    {db db' : DB τ} (h : db.All fun _ => Q) {batchNum : Nat} {fromSynchronizer : Bool}
    (hrun : localReset synchronizer batchNum fromSynchronizer db = .ok () db') : Q db'.current := by
  cases fromSynchronizer with
  | true => exact DB.All.resetFrom_current hempty hsynchronizer hrun
  | false => exact h.reset_current hempty hrun

variable {dbs dbs' : LocalDBs τ}

omit [Numbered τ] in
theorem onTxSelector_ok :
    onTxSelector x dbs = .ok () dbs' ↔ ∃ db, x dbs.txSelector = .ok () db ∧ dbs' = { dbs with txSelector := db } := by
  rw [onTxSelector]
  cases x dbs.txSelector with
  | ok _ db => simp [eq_comm]
  | error e db => simp

omit [Numbered τ] in
theorem onBatchBuilder_ok :
    onBatchBuilder x dbs = .ok () dbs' ↔ ∃ db, x dbs.batchBuilder = .ok () db ∧ dbs' = { dbs with batchBuilder := db } := by
  rw [onBatchBuilder]
  cases x dbs.batchBuilder with
  | ok _ db => simp [eq_comm]
  | error e db => simp

/-- A reset is one of both databases and then, if the batch has another state root, one from the synchronizer. -/
theorem reset_ok {root : τ → Nat} {batchNum : Nat} (h : reset root batchNum dbs = .ok () dbs') :
    ∃ txSelector batchBuilder,
      localReset dbs.synchronizer batchNum (!dbs.txSelector.checkpointExists batchNum) dbs.txSelector = .ok () txSelector ∧
      localReset dbs.synchronizer batchNum (!dbs.batchBuilder.checkpointExists batchNum) dbs.batchBuilder =
        .ok () batchBuilder ∧
      (if ∀ r ∈ dbs.stateRoot batchNum, r = root batchBuilder.current then
        dbs' = { dbs with txSelector := txSelector, batchBuilder := batchBuilder }
      else ∃ txSelector' batchBuilder', localReset dbs.synchronizer batchNum true txSelector = .ok () txSelector' ∧
        localReset dbs.synchronizer batchNum true batchBuilder = .ok () batchBuilder' ∧
        dbs' = { dbs with txSelector := txSelector', batchBuilder := batchBuilder' }) := by
  rw [reset, bind_of_ok (get_run dbs)] at h
  obtain ⟨_, dbs₁, htxSelector, h⟩ := bind_ok.mp h
  obtain ⟨txSelector, hselector, rfl⟩ := onTxSelector_ok.mp htxSelector
  obtain ⟨_, dbs₂, hbatchBuilder, h⟩ := bind_ok.mp h
  obtain ⟨batchBuilder, hbuilder, rfl⟩ := onBatchBuilder_ok.mp hbatchBuilder
  refine ⟨txSelector, batchBuilder, hselector, hbuilder, ?_⟩
  rw [forceReset, bind_of_ok (get_run _)] at h
  dsimp only at h
  cases hroot : dbs.stateRoot batchNum with
  | none =>
    rw [hroot] at h
    cases h
    rw [if_pos (by simp)]
  | some r =>
    rw [hroot] at h
    dsimp only at h
    by_cases heq : r = root batchBuilder.current
    · rw [if_pos heq] at h
      cases h
      rw [if_pos (by simpa using heq)]
    · rw [if_neg heq] at h
      rw [if_neg (by simpa using heq)]
      obtain ⟨_, dbs₃, htxSelector', h⟩ := bind_ok.mp h
      obtain ⟨txSelector', hselector', rfl⟩ := onTxSelector_ok.mp htxSelector'
      obtain ⟨batchBuilder', hbuilder', rfl⟩ := onBatchBuilder_ok.mp h
      exact ⟨txSelector', batchBuilder', hselector', hbuilder', rfl⟩

theorem reset_current {Q : τ → Prop} (hempty : Q Numbered.empty) {root : τ → Nat} {batchNum : Nat}
    (hsynchronizer : dbs.synchronizer.All fun _ => Q) (h : dbs.batchBuilder.All fun _ => Q)
    (hrun : reset root batchNum dbs = .ok () dbs') : Q dbs'.batchBuilder.current := by
  obtain ⟨txSelector, batchBuilder, -, hbuilder, hforce⟩ := reset_ok hrun
  split at hforce
  · cases hforce
    exact localReset_current hempty hsynchronizer h hbuilder
  · obtain ⟨txSelector', batchBuilder', -, hbuilder', rfl⟩ := hforce
    exact DB.All.resetFrom_current hempty hsynchronizer hbuilder'

end LocalDBs

/-! ### Invariants -/

/-- An invariant of the contents of the databases: what holds of those of the synchronizer, of those of the
builder under pipelines up to a number, and of what a running pipeline builds on. -/
structure NodeInvariant (comps : Components σ) where
  Synced : LocalState σ → Prop
  Built : Nat → LocalState σ → Prop
  Running : Pipeline → LocalState σ → Prop
  synced_empty : Synced Numbered.empty
  synced_sync : ∀ s content, Synced s → comps.Syncs s.content content → Synced ⟨content, []⟩
  built_of_synced : ∀ n s, Synced s → Built n s
  built_succ : ∀ n s, Built n s → Built (n + 1) s
  running_start : ∀ n s batchNum stats vars, Built n s → Running (Pipeline.start (n + 1) batchNum stats vars) s
  running_informed : ∀ p p' s, Running p s → p'.num = p.num → p'.state = p.state → p'.errAtBatchNum = p.errAtBatchNum →
    Running p' s
  running_failed : ∀ p p' s content, Running p s → p'.num = p.num → p'.errAtBatchNum ≠ 0 →
    Running p' { s with content := content }
  running_built : ∀ env p p' s l1Batch sel content, comps.Builds env → Running p s → p.errAtBatchNum = 0 →
    env.buildBatch sel s.content = (.ok (), content) → p'.num = p.num →
    p'.state.lastForgeL1TxsNum = (p.forged l1Batch).state.lastForgeL1TxsNum →
    Running p' ⟨content, p.built (p.state.batchNum + 1) l1Batch :: s.lineage⟩ ∧
      Built p.num ⟨content, p.built (p.state.batchNum + 1) l1Batch :: s.lineage⟩

namespace NodeInvariant

variable {comps : Components σ} (inv : NodeInvariant comps) {node node' : Node σ}

structure Holds (node : Node σ) : Prop where
  synchronizer : node.dbs.synchronizer.All fun _ => inv.Synced
  current : inv.Synced node.dbs.synchronizer.current
  batchBuilder : node.dbs.batchBuilder.All fun _ => inv.Built node.pipelineNum
  running : ∀ p, node.pipeline = some p → p.num = node.pipelineNum ∧ inv.Running p node.dbs.batchBuilder.current

variable {inv}

theorem Holds.idle (h : inv.Holds node) {pipelineNum : Nat} (hnum : node.pipelineNum ≤ pipelineNum) (pool : Pool) :
    inv.Holds { node with pipeline := none, pipelineNum := pipelineNum, pool := pool } := by
  refine { h with batchBuilder := ?_, running := ?_ }
  · intro n s hs
    exact Nat.le_induction (h.batchBuilder n s hs) (fun m _ hm => inv.built_succ m s hm) pipelineNum hnum
  · intro p hp
    cases hp

theorem Holds.informed (h : inv.Holds node) {f : Pipeline → Pipeline}
    (hf : ∀ p, (f p).num = p.num ∧ (f p).state = p.state ∧ (f p).errAtBatchNum = p.errAtBatchNum) :
    inv.Holds { node with pipeline := node.pipeline.map f } := by
  refine { h with running := ?_ }
  intro p' hp'
  obtain ⟨p, hp, rfl⟩ := Option.map_eq_some_iff.mp hp'
  obtain ⟨hnum, hrunning⟩ := h.running p hp
  obtain ⟨hfnum, hstate, herr⟩ := hf p
  exact ⟨hfnum.trans hnum, inv.running_informed p (f p) _ hrunning hfnum hstate herr⟩

theorem Holds.outcome (h : inv.Holds node) {p p' : Pipeline} {db : DB (LocalState σ)} {env : ForgeEnv σ}
    (henv : comps.Builds env) (hp : node.pipeline = some p) (herr : p.errAtBatchNum = 0)
    (hout : Outcome env p node.dbs.batchBuilder p' db) :
    db.All (fun _ => inv.Built node.pipelineNum) ∧ p'.num = node.pipelineNum ∧ inv.Running p' db.current := by
  obtain ⟨hnum, hrunning⟩ := h.running p hp
  cases hout with
  | skipped => exact ⟨h.batchBuilder, hnum, hrunning⟩
  | failed p' content hnum' herr' =>
    exact ⟨h.batchBuilder.edit _, hnum'.trans hnum, inv.running_failed p p' _ content hrunning hnum' herr'⟩
  | built l1Batch sel content p' hbuild hnum' hforged =>
    obtain ⟨hrunning', hbuilt⟩ := inv.running_built env p p' _ l1Batch sel content henv hrunning herr hbuild hnum' hforged
    rw [hnum] at hbuilt
    exact ⟨h.batchBuilder.checkpoint hbuilt, hnum'.trans hnum, hrunning'⟩

theorem Holds.iterate (h : inv.Holds node) {env : ForgeEnv σ} (henv : comps.Builds env) :
    inv.Holds (node.iterate comps.cfg env) := by
  rw [Node.iterate]
  cases hp : node.pipeline with
  | none => exact h
  | some p =>
    by_cases herr : p.errAtBatchNum = 0
    · obtain ⟨hout, hsynchronizer, hroot⟩ := Workspace.iterate_outcome comps.cfg env ⟨p, node.pool, node.dbs⟩ herr
      obtain ⟨hbatchBuilder, hnum, hrunning⟩ := h.outcome henv hp herr hout
      refine ⟨?_, ?_, hbatchBuilder, ?_⟩
      · show (Workspace.iterate comps.cfg env ⟨p, node.pool, node.dbs⟩).dbs.synchronizer.All _
        rw [hsynchronizer]
        exact h.synchronizer
      · show inv.Synced (Workspace.iterate comps.cfg env ⟨p, node.pool, node.dbs⟩).dbs.synchronizer.current
        rw [hsynchronizer]
        exact h.current
      · intro p' hp'
        cases hp'
        exact ⟨hnum, hrunning⟩
    · have hsame : Workspace.iterate comps.cfg env ⟨p, node.pool, node.dbs⟩ = ⟨p, node.pool, node.dbs⟩ := if_pos herr
      dsimp only
      rw [hsame]
      refine ⟨h.synchronizer, h.current, h.batchBuilder, ?_⟩
      intro p' hp'
      cases hp'
      exact h.running p hp

theorem Holds.failProof (h : inv.Holds node) {failedBatch : Nat} (hpos : failedBatch ≠ 0) (batchNum : Nat) :
    inv.Holds (node.failProof failedBatch batchNum) := by
  rw [Node.failProof]
  cases hp : node.pipeline with
  | none => exact h
  | some p =>
    refine ⟨h.synchronizer, h.current, h.batchBuilder, ?_⟩
    intro p' hp'
    cases hp'
    obtain ⟨hnum, hrunning⟩ := h.running p hp
    exact ⟨hnum, inv.running_failed p _ _ _ hrunning rfl hpos⟩

theorem Holds.syncReorg (h : inv.Holds node) (batchNum : Nat) : inv.Holds (node.syncReorg batchNum) := by
  refine ⟨DB.All.reset batchNum _ h.synchronizer, ?_, h.batchBuilder, h.running⟩
  show inv.Synced (finalState (DB.reset batchNum node.dbs.synchronizer)).current
  cases hrun : DB.reset batchNum node.dbs.synchronizer with
  | ok _ db => exact h.synchronizer.reset_current inv.synced_empty hrun
  | error e db =>
    rw [DB.reset] at hrun
    split at hrun
    · cases hrun
    · split at hrun
      · cases hrun
      · cases hrun
        exact h.current

theorem Holds.reset (h : inv.Holds node) {dbs : LocalDBs (LocalState σ)}
    (hdbs : LocalDBs.Kept node.dbs.synchronizer node.dbs.stateRoot (fun _ _ => True)
      (fun _ => inv.Built node.pipelineNum) dbs) :
    inv.Holds { node with dbs := dbs, pipeline := none, pipelineNum := node.pipelineNum + 1 } := by
  refine ⟨?_, ?_, fun n s hs => inv.built_succ _ s (hdbs.batchBuilder n s hs), ?_⟩
  · show dbs.synchronizer.All _
    rw [hdbs.synchronizer]
    exact h.synchronizer
  · show inv.Synced dbs.synchronizer.current
    rw [hdbs.synchronizer]
    exact h.current
  · intro p hp
    cases hp

theorem Holds.start (h : inv.Holds node) (batchNum : Nat) (stats : Stats) (vars : SCVariables) :
    inv.Holds (finalState (Node.start comps.root batchNum stats vars { node with pipelineNum := node.pipelineNum + 1 })) := by
  have hsynced : node.dbs.synchronizer.All fun _ => inv.Built node.pipelineNum :=
    fun n s hs => inv.built_of_synced node.pipelineNum s (h.synchronizer n s hs)
  have hkept : LocalDBs.Kept node.dbs.synchronizer node.dbs.stateRoot (fun _ _ => True) (fun _ => inv.Built node.pipelineNum)
      node.dbs := ⟨rfl, rfl, fun _ _ _ => trivial, h.batchBuilder⟩
  have hkeeps := LocalDBs.keeps_reset node.dbs.stateRoot (fun _ _ _ => trivial) hsynced
    (fun s => comps.root s.content) batchNum
  rw [Node.start]
  cases hrun : LocalDBs.reset (fun s : LocalState σ => comps.root s.content) batchNum node.dbs with
  | ok _ dbs =>
    have hempty := inv.built_of_synced node.pipelineNum _ inv.synced_empty
    have hcurrent := LocalDBs.reset_current hempty hsynced h.batchBuilder hrun
    refine { h.reset (hkeeps.ok hkept hrun) with running := ?_ }
    intro p hp
    cases hp
    exact ⟨rfl, inv.running_start _ _ batchNum stats vars hcurrent⟩
  | error e dbs => exact h.reset (hkeeps.error hkept hrun)

theorem Holds.restart (h : inv.Holds node) : inv.Holds node.restart := by
  refine ⟨h.synchronizer, h.current, DB.All.new, ?_⟩
  intro p hp
  cases hp

theorem receiveStatsVars_informs (p : Pipeline) :
    p.receiveStatsVars.num = p.num ∧ p.receiveStatsVars.state = p.state ∧
      p.receiveStatsVars.errAtBatchNum = p.errAtBatchNum := by
  rw [Pipeline.receiveStatsVars]
  split
  · exact ⟨rfl, rfl, rfl⟩
  · exact ⟨rfl, rfl, rfl⟩

theorem Holds.background (h : inv.Holds node) (hstep : Node.Background comps node node') : inv.Holds node' := by
  cases hstep with
  | iterate env henv => exact h.iterate henv
  | receiveStatsVars => exact h.informed receiveStatsVars_informs
  | failProof failedBatch batchNum hpos => exact h.failProof hpos batchNum
  | pool pool => exact ⟨h.synchronizer, h.current, h.batchBuilder, h.running⟩
  | sync content hsync =>
    have hsynced := inv.synced_sync _ content h.current hsync
    exact ⟨h.synchronizer.checkpoint hsynced, hsynced, h.batchBuilder, h.running⟩
  | syncReorg batchNum => exact h.syncReorg batchNum
  | prune keep keep' keep'' => exact ⟨h.synchronizer.prune keep'', h.current, h.batchBuilder.prune keep', h.running⟩

theorem Holds.step (h : inv.Holds node) (hstep : Node.Step comps node node') : inv.Holds node' := by
  cases hstep with
  | background hbackground => exact h.background hbackground
  | setSyncStatsVars stats vars => exact h.informed fun _ => ⟨rfl, rfl, rfl⟩
  | new hidle =>
    have hnew := h.idle (Nat.le_succ node.pipelineNum) node.pool
    rw [← hidle] at hnew
    exact hnew
  | start hidle batchNum stats vars => exact h.start batchNum stats vars
  | stop => exact h.idle le_rfl node.pool
  | restart => exact h.restart

variable (inv)

theorem holds_initial : inv.Holds Node.initial := by
  refine ⟨DB.All.new, inv.synced_empty, DB.All.new, ?_⟩
  intro p hp
  cases hp

theorem holds_of_reached (h : Node.Reached comps node) : inv.Holds node := by
  induction h with
  | refl => exact inv.holds_initial
  | tail _ hstep ih => exact ih.step hstep

end NodeInvariant

/-- Components that answer at once, and batches without transactions. -/
def quietEnv : ForgeEnv Store where
  now := 0
  later := 0
  serverProof := .ok ()
  invalidateMaybe := .ok
  purgeMaybe := .ok
  getUnforgedL1UserTxs _ := .ok []
  getUnforgedL1UserFutureTxs _ := .ok []
  getUnforgedL1UserTxsCount := .ok 0
  getL1L2TxSelection l1UserTxs _ s :=
    (.ok { l1UserTxs, discardedL2Txs := [] }, { s with currentBatch := s.currentBatch + 1 })
  startForging := .ok ()
  updateTxsInfo := .ok ()
  invalidateOldNonces := .ok ()
  buildBatch _ s := (.ok (), { s with currentBatch := s.currentBatch + 1 })
  calculateProof := .ok ()

end HermezRollup
