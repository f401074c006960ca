import HermezRollup.PipelineRuns

/-! What `Pipeline.reset` leaves in the databases of the selector and of the builder.

The database of the builder is compared with the synchronizer by its state root, and then it has the same
accounts and, as indexes are given out one after the other, the same last index.  The database of the selector
has no root: a checkpoint that it made for a batch that was never forged stays when another batch gets the same
number. -/

namespace HermezRollup

open Checkpoints (DB Numbered)
open Fallible Simulation Spec

/-! ### Indexes of accounts -/

/-- The indexes of the accounts are those after the reserved ones, up to a last one. -/
def AccountTree.UpTo (tree : AccountTree) (last : Nat) : Prop :=
  ∀ idx, idx ∈ tree ↔ rollupConstReservedIDx < idx ∧ idx ≤ last

theorem AccountTree.UpTo.write {tree : AccountTree} {last idx : Nat} (h : tree.UpTo last) (hidx : idx ∈ tree)
    (a : StoredAccount) : AccountTree.UpTo (tree.insert idx a) last := by
  intro other
  rw [Finmap.mem_insert, h other]
  constructor
  · rintro (rfl | hother)
    · exact (h other).mp hidx
    · exact hother
  · exact Or.inr

theorem AccountTree.UpTo.open {tree : AccountTree} {last : Nat} (h : tree.UpTo last) (hlast : rollupConstReservedIDx ≤ last)
    (a : StoredAccount) : AccountTree.UpTo (tree.insert (last + 1) a) (last + 1) := by
  intro other
  rw [Finmap.mem_insert, h other]
  omega

/-- The last index is that of the last account. -/
structure Store.Contiguous (s : Store) : Prop where
  reserved : rollupConstReservedIDx ≤ s.currentIdx
  upTo : s.accounts.UpTo s.currentIdx

theorem Store.contiguous_empty : ({} : Store).Contiguous := by
  refine ⟨le_rfl, fun idx => ?_⟩
  show idx ∈ (∅ : AccountTree) ↔ rollupConstReservedIDx < idx ∧ idx ≤ rollupConstReservedIDx
  simp only [Finmap.notMem_empty, false_iff]
  omega

theorem Store.Contiguous.currentIdx_eq {s s' : Store} (h : s.Contiguous) (h' : s'.Contiguous)
    (haccounts : s.accounts = s'.accounts) : s.currentIdx = s'.currentIdx := by
  have hreserved := h.reserved
  have hreserved' := h'.reserved
  have hmem := h.upTo s'.currentIdx
  have hmem' := h'.upTo s.currentIdx
  rw [haccounts, h'.upTo s'.currentIdx] at hmem
  rw [← haccounts, h.upTo s.currentIdx] at hmem'
  omega

namespace Rollup

/-- A batch keeps the indexes in order. -/
def Numbers (r r' : Rollup) : Prop :=
  r.Contiguous → r'.Contiguous

variable [Libraries] {r r' : Rollup} {idx last : Nat} {amount : Int} {acc : Account} {u : Unit}

theorem give_upTo (h : give idx amount r = some (u, r')) (hr : r.accounts.UpTo last) : r'.accounts.UpTo last := by
  obtain ⟨acc, hget, hencodable, rfl⟩ := give_some.mp h
  obtain ⟨-, a, ha, -⟩ := getAccountInTreeDB_ok.mp hget
  exact hr.write (Finmap.mem_of_lookup_eq_some ha) _

theorem give_numbers : Within Numbers (give idx amount) := by
  intro r u r' h hr
  have hidx := currentIdx_give h
  exact ⟨hidx ▸ hr.reserved, hidx ▸ give_upTo h hr.upTo⟩

theorem take_numbers : Within Numbers (take idx amount) := by
  intro r acc r' h hr
  obtain ⟨tree, ⟨a, a', ha, rfl, -⟩, rfl, -⟩ := take_moved h
  exact ⟨hr.reserved, hr.upTo.write (Finmap.mem_of_lookup_eq_some ha) a'⟩

theorem pay_numbers {coordIdxsMap : CoordIdxsMap} {feeSel : FeeSelector} :
    Within Numbers (pay coordIdxsMap idx amount feeSel) := by
  intro r acc r' h hr
  obtain ⟨fee, r₁, tree, -, howe, ⟨a, a', ha, rfl, -⟩, rfl, -⟩ := pay_moved h
  obtain ⟨fees, rfl⟩ := owe_fees howe
  exact ⟨hr.reserved, hr.upTo.write (Finmap.mem_of_lookup_eq_some ha) a'⟩

theorem leave_numbers {original : Int} : Within Numbers (leave idx acc amount original) := by
  intro r exit r' h hr
  obtain ⟨exits, -, rfl⟩ := leave_exits h
  exact ⟨hr.reserved, hr.upTo⟩

theorem openAccount_upTo (h : openAccount acc r = some (u, r')) (hr : r.Contiguous) :
    r'.accounts.UpTo (r.currentIdx + 1) := by
  obtain ⟨-, -, _, _, _, rfl⟩ := openAccount_inserts h
  exact hr.upTo.open hr.reserved _

theorem applyL1_numbers (tx : L1Tx) (amount depositAmount : Int) : Within Numbers (applyL1 tx amount depositAmount) := by
  intro r exit r' h hr
  cases applyL1_step h with
  | forceTransfer _ htake hgive => exact give_numbers _ _ _ hgive (take_numbers _ _ _ htake hr)
  | createAccountDeposit _ hopen hadvance =>
    have hidx := currentIdx_openAccount hopen
    obtain ⟨-, rfl⟩ := advance_some.mp hadvance
    refine ⟨Nat.le_succ_of_le (hidx ▸ hr.reserved), ?_⟩
    have hupTo := openAccount_upTo hopen hr
    rw [← hidx] at hupTo
    exact hupTo
  | deposit _ htake => exact take_numbers _ _ _ htake hr
  | depositTransfer _ htake hgive => exact give_numbers _ _ _ hgive (take_numbers _ _ _ htake hr)
  | createAccountDepositTransfer _ _ hopen hgive hadvance =>
    have hidx := (currentIdx_give hgive).trans (currentIdx_openAccount hopen)
    obtain ⟨-, rfl⟩ := advance_some.mp hadvance
    refine ⟨Nat.le_succ_of_le (hidx ▸ hr.reserved), ?_⟩
    have hupTo := give_upTo hgive (openAccount_upTo hopen hr)
    rw [← hidx] at hupTo
    exact hupTo
  | forceExit _ htake hleave => exact leave_numbers _ _ _ hleave (take_numbers _ _ _ htake hr)
  | unknown => exact hr

theorem l1Tx_numbers (tx : L1Tx) : Within Numbers (l1Tx tx) := by
  intro r out r' h
  obtain ⟨happly, -⟩ := l1Tx_some.mp h
  exact applyL1_numbers tx _ _ r _ r' happly

theorem l2Tx_numbers (coordIdxsMap : CoordIdxsMap) (tx : PoolL2Tx) : Within Numbers (l2Tx coordIdxsMap tx) := by
  intro r exit r' h hr
  cases l2Tx_step h with
  | transfer _ hpay hgive => exact give_numbers _ _ _ hgive (pay_numbers _ _ _ hpay hr)
  | exit _ hpay hleave => exact leave_numbers _ _ _ hleave (pay_numbers _ _ _ hpay hr)
  | unknown _ => exact hr

omit [Libraries] in
theorem forEach_numbers {α β : Type} {step : α → RollupM β} (hstep : ∀ a, Within Numbers (step a)) (as : List α) :
    Within Numbers (forEach step as) :=
  Within.forEach (fun _ hr => hr) (fun _ _ _ h h' hr => h' (h hr)) hstep as

theorem batch_numbers (coordIdxs : List Nat) (l1UserTxs l1CoordinatorTxs : List L1Tx) (l2Txs : List PoolL2Tx) :
    Within Numbers (batch coordIdxs l1UserTxs l1CoordinatorTxs l2Txs) := by
  intro r out r' h hr
  obtain ⟨r₁, r₂, r₃, us, husers, hcoordinators, -, -, hl2, hfees⟩ := batch_some.mp h
  have hr₁ := forEach_numbers l1Tx_numbers l1UserTxs _ _ _ husers hr
  have hr₂ := forEach_numbers l1Tx_numbers l1CoordinatorTxs _ _ _ hcoordinators hr₁
  have hr₃ := forEach_numbers (l2Tx_numbers out.coordIdxsMap) l2Txs _ _ _ hl2 ⟨hr₂.reserved, hr₂.upTo⟩
  refine forEach_numbers (fun idx => ?_) out.coordIdxs _ _ _ hfees hr₃
  intro r u r' h
  obtain ⟨_, _, hget, hgive⟩ := bind_some.mp h
  cases hget
  exact give_numbers _ _ _ hgive

end Rollup

theorem processTxs_contiguous [Libraries] {coordIdxs : List Nat} {l1UserTxs l1CoordinatorTxs : List L1Tx}
    {l2Txs : List PoolL2Tx} {state : StateDB} {config : Config} {out : ProcessTxOutput} {s' : TxProcessor}
    (h : TxProcessor.processTxs coordIdxs l1UserTxs l1CoordinatorTxs l2Txs (newTxProcessor state config) = .ok out s')
    (hstate : state.Contiguous) : s'.state.Contiguous ∧ s'.state.currentBatch ≠ 0 := by
  obtain ⟨bout, r', hbatch, hs', -⟩ := TxProcessor.processTxs_ok h
  have hr' := Rollup.batch_numbers _ _ _ _ _ _ _ hbatch ⟨hstate.reserved, hstate.upTo⟩
  rw [hs']
  exact ⟨⟨hr'.reserved, hr'.upTo⟩, Nat.succ_ne_zero _⟩

/-! ### The components of a node -/

section Components

variable [Libraries]

/-- `BuildBatch`, on the contents of the database of the builder. -/
def buildBatch (config : Config) (sel : SelectionOut) (store : Store) : Except String Unit × Store :=
  match TxProcessor.processTxs sel.coordIdxs sel.l1UserTxs sel.l1CoordinatorTxs sel.l2Txs
      (newTxProcessor { toStore := store, typ := .batchBuilder } config) with
  | .ok _ s => (.ok (), s.state.toStore)
  | .error e s => (.error e.message, s.state.toStore)

/-- A batch of the block chain, on the contents of the database of the synchronizer. -/
def SyncsBatch (store store' : Store) : Prop :=
  ∃ config coordIdxs l1UserTxs l1CoordinatorTxs l2Txs out s,
    TxProcessor.processTxs coordIdxs l1UserTxs l1CoordinatorTxs l2Txs
      (newTxProcessor { toStore := store, typ := .synchronizer } config) = .ok out s ∧ store' = s.state.toStore

def nodeComponents (cfg : CoordinatorConfig) : Components Store where
  cfg := cfg
  root s := s.accounts.root
  Builds env := ∃ config, env.buildBatch = buildBatch config
  Syncs := SyncsBatch

theorem SyncsBatch.contiguous {store store' : Store} (h : SyncsBatch store store') (hstore : store.Contiguous) :
    store'.Contiguous := by
  obtain ⟨config, coordIdxs, l1UserTxs, l1CoordinatorTxs, l2Txs, out, s, hrun, rfl⟩ := h
  exact (processTxs_contiguous hrun hstore).1

theorem SyncsBatch.currentBatch_ne {store store' : Store} (h : SyncsBatch store store') : store'.currentBatch ≠ 0 := by
  obtain ⟨config, coordIdxs, l1UserTxs, l1CoordinatorTxs, l2Txs, out, s, hrun, rfl⟩ := h
  obtain ⟨bout, r', -, hs, -⟩ := TxProcessor.processTxs_ok hrun
  rw [hs]
  exact Nat.succ_ne_zero _

theorem buildBatch_contiguous {config : Config} {sel : SelectionOut} {store store' : Store}
    (h : buildBatch config sel store = (.ok (), store')) (hstore : store.Contiguous) : store'.Contiguous := by
  rw [buildBatch] at h
  split at h
  next out s hrun =>
    cases h
    exact (processTxs_contiguous hrun hstore).1
  next => cases h

/-- Checkpoints of the synchronizer and of the builder keep the indexes in order; a build that failed may not. -/
def contiguousInvariant (cfg : CoordinatorConfig) : NodeInvariant (nodeComponents cfg) where
  Synced s := s.content.Contiguous
  Built _ s := s.content.Contiguous
  Running p s := p.errAtBatchNum = 0 → s.content.Contiguous
  synced_empty := Store.contiguous_empty
  synced_sync s content hs hsync := hsync.contiguous hs
  built_of_synced _ _ hs := hs
  built_succ _ _ hs := hs
  running_start _ _ _ _ _ hs _ := hs
  running_informed p p' s hs _ _ herr herr' := hs (herr ▸ herr')
  running_failed p p' s content _ _ herr herr' := absurd herr' herr
  running_built env p p' s l1Batch sel content henv hs herr hbuild _ _ := by
    obtain ⟨config, henv⟩ := henv
    rw [henv] at hbuild
    have hcontent := buildBatch_contiguous hbuild (hs herr)
    exact ⟨fun _ => hcontent, hcontent⟩

end Components

/-! ### Numbers of checkpoints -/

section Numbers

variable {σ : Type} [Numbered σ]

def Checkpointed (n : Nat) (s : LocalState σ) : Prop :=
  Numbered.number s.content = n

theorem framed_txSelector : Framed fun w : Workspace σ => w.dbs.txSelector.All Checkpointed where
  pool _ _ h := h
  edit _ s h := h.edit s
  checkpoint _ _ h := h.checkpoint rfl
  reset w n h := DB.All.reset n w.dbs.txSelector h

theorem keeps_txSelector_forgeSelected (cfg : CoordinatorConfig) (env : ForgeEnv σ) (batchNum : Nat) (l1Batch : Bool)
    (sel : SelectionOut) :
    Keeps (fun w : Workspace σ => w.dbs.txSelector.All Checkpointed) (WorkM.forgeSelected cfg env batchNum l1Batch sel) := by
  refine Keeps.bind Keeps.get fun w => ?_
  refine Keeps.bind (Keeps.modify fun w hw => ?_) fun _ => ?_
  · split
    · exact hw
    · exact hw
  refine Keeps.bind (WorkM.keeps_markPool framed_txSelector env batchNum sel) fun _ => ?_
  refine Keeps.bind (fun w hw => ?_) fun _ => ?_
  · rw [WorkM.runBatchBuilder]
    rcases env.buildBatch sel w.dbs.batchBuilder.current.content with ⟨_ | _, content⟩
    · exact hw
    · exact hw
  exact Keeps.bind (Keeps.modify fun w hw => hw) fun _ => Keeps.pure _

theorem keeps_txSelector_handleForgeBatch (cfg : CoordinatorConfig) (env : ForgeEnv σ) (batchNum : Nat) :
    Keeps (fun w : Workspace σ => w.dbs.txSelector.All Checkpointed) (ForgeM.handleForgeBatch cfg env batchNum) := by
  refine Keeps.bind ((Keeps.fromState _).withError _) fun _ => ?_
  refine Keeps.bind (Keeps.bind (ForgeM.keeps_prepare framed_txSelector cfg env batchNum) fun out => ?_) fun info => ?_
  · exact (keeps_txSelector_forgeSelected cfg env batchNum out.1 out.2).withError _
  · exact Keeps.bind ((Keeps.fromState _).withError _) fun _ => Keeps.pure _

theorem iterate_txSelector (cfg : CoordinatorConfig) (env : ForgeEnv σ) {w : Workspace σ}
    (h : w.dbs.txSelector.All Checkpointed) : (w.iterate cfg env).dbs.txSelector.All Checkpointed := by
  rw [Workspace.iterate]
  split
  · exact h
  · dsimp only
    split
    next info w' hrun =>
      have hkept : w'.dbs.txSelector.All Checkpointed := (keeps_txSelector_handleForgeBatch cfg env _).ok h hrun
      exact hkept
    next e w' hrun =>
      have hkept : w'.dbs.txSelector.All Checkpointed := (keeps_txSelector_handleForgeBatch cfg env _).error h hrun
      exact hkept
    next e w' _ hrun =>
      have hkept : w'.dbs.txSelector.All Checkpointed := (keeps_txSelector_handleForgeBatch cfg env _).error h hrun
      exact hkept

variable {comps : Components σ} {node node' : Node σ}

theorem Outcome.batchBuilder {env : ForgeEnv σ} {p p' : Pipeline} {db db' : DB (LocalState σ)} (h : Outcome env p db p' db')
    (hdb : db.All Checkpointed) : db'.All Checkpointed := by
  cases h with
  | skipped => exact hdb
  | failed p' content => exact hdb.edit _
  | built l1Batch sel content p' => exact hdb.checkpoint rfl

/-- Checkpoints have their numbers, and the HistoryDB has the state roots of the checkpoints of the synchronizer. -/
structure Node.Recorded (comps : Components σ) (node : Node σ) : Prop where
  txSelector : node.dbs.txSelector.All Checkpointed
  batchBuilder : node.dbs.batchBuilder.All Checkpointed
  synchronizer : node.dbs.synchronizer.All Checkpointed
  batchNum_ne : ∀ n r, node.dbs.stateRoot n = some r → n ≠ 0
  stateRoot : ∀ n r s, node.dbs.stateRoot n = some r → node.dbs.synchronizer.checkpoints n = some s → r = comps.root s.content

namespace Node.Recorded

theorem of_dbs (h : node.Recorded comps) (hdbs : node'.dbs = node.dbs) : node'.Recorded comps := by
  obtain ⟨h₁, h₂, h₃, h₄, h₅⟩ := h
  rw [← hdbs] at h₁ h₂ h₃ h₄ h₅
  exact ⟨h₁, h₂, h₃, h₄, h₅⟩

theorem iterate (h : node.Recorded comps) (env : ForgeEnv σ) : (node.iterate comps.cfg env).Recorded comps := by
  rw [Node.iterate]
  cases node.pipeline with
  | none => exact h
  | some p =>
    have htxSelector := iterate_txSelector comps.cfg env (w := ⟨p, node.pool, node.dbs⟩) h.txSelector
    by_cases herr : p.errAtBatchNum = 0
    · obtain ⟨hout, hsynchronizer, hroot⟩ := Workspace.iterate_outcome comps.cfg env ⟨p, node.pool, node.dbs⟩ herr
      refine ⟨htxSelector, hout.batchBuilder h.batchBuilder, ?_, ?_, ?_⟩
      · show (Workspace.iterate comps.cfg env ⟨p, node.pool, node.dbs⟩).dbs.synchronizer.All _
        rw [hsynchronizer]
        exact h.synchronizer
      · intro n r hr
        exact h.batchNum_ne n r ((congrFun hroot n).symm.trans hr)
      · intro n r s hr hs
        refine h.stateRoot n r s ((congrFun hroot n).symm.trans hr) ?_
        exact (congrFun (congrArg DB.checkpoints hsynchronizer) n).symm.trans hs
    · have hsame : Workspace.iterate comps.cfg env ⟨p, node.pool, node.dbs⟩ = ⟨p, node.pool, node.dbs⟩ := if_pos herr
      refine h.of_dbs ?_
      dsimp only [Node.withWorkspace]
      rw [hsame]

theorem sync (h : node.Recorded comps) {content : σ} (hpos : Numbered.number content ≠ 0) :
    (node.sync comps content).Recorded comps := by
  refine ⟨h.txSelector, h.batchBuilder, h.synchronizer.checkpoint rfl, fun n r hr => ?_, fun n r s hr hs => ?_⟩
  · change Function.update node.dbs.stateRoot (Numbered.number content) (some (comps.root content)) n = some r at hr
    by_cases heq : n = Numbered.number content
    · rw [heq]
      exact hpos
    · rw [Function.update_of_ne heq] at hr
      exact h.batchNum_ne n r hr
  · change Function.update node.dbs.stateRoot (Numbered.number content) (some (comps.root content)) n = some r at hr
    change Function.update node.dbs.synchronizer.checkpoints (Numbered.number content) (some ⟨content, []⟩) n = some s at hs
    by_cases heq : n = Numbered.number content
    · rw [heq, Function.update_self] at hr hs
      cases hr
      cases hs
      rfl
    · rw [Function.update_of_ne heq] at hr hs
      exact h.stateRoot n r s hr hs

theorem syncReorg (h : node.Recorded comps) (batchNum : Nat) : (node.syncReorg batchNum).Recorded comps := by
  have hroot : ∀ n r, (if n ≤ batchNum then node.dbs.stateRoot n else none) = some r → node.dbs.stateRoot n = some r := by
    intro n r hr
    split at hr
    · exact hr
    · cases hr
  refine ⟨h.txSelector, h.batchBuilder, DB.All.reset batchNum _ h.synchronizer, ?_, ?_⟩
  · intro n r hr
    exact h.batchNum_ne n r (hroot n r hr)
  · intro n r s hr hs
    -- what is left is a part of what there was
    have hold : node.dbs.synchronizer.All fun n s => ∀ r, node.dbs.stateRoot n = some r → r = comps.root s.content :=
      fun n s hs r hr => h.stateRoot n r s hr hs
    exact DB.All.reset batchNum _ hold n s hs r (hroot n r hr)

theorem prune (h : node.Recorded comps) (keep keep' keep'' : Nat → Bool) : (node.prune keep keep' keep'').Recorded comps := by
  have hold : node.dbs.synchronizer.All fun n s => ∀ r, node.dbs.stateRoot n = some r → r = comps.root s.content :=
    fun n s hs r hr => h.stateRoot n r s hr hs
  exact ⟨h.txSelector.prune keep, h.batchBuilder.prune keep', h.synchronizer.prune keep'', h.batchNum_ne,
    fun n r s hr hs => hold.prune keep'' n s hs r hr⟩

theorem of_kept (h : node.Recorded comps)
    (hdbs : LocalDBs.Kept node.dbs.synchronizer node.dbs.stateRoot Checkpointed Checkpointed node'.dbs) :
    node'.Recorded comps := by
  obtain ⟨-, -, h₃, h₄, h₅⟩ := h
  rw [← hdbs.synchronizer] at h₃ h₅
  rw [← hdbs.stateRoot] at h₄ h₅
  exact ⟨hdbs.txSelector, hdbs.batchBuilder, h₃, h₄, h₅⟩

theorem start (h : node.Recorded comps) (batchNum : Nat) (stats : Stats) (vars : SCVariables) :
    (finalState (Node.start comps.root batchNum stats vars { node with pipelineNum := node.pipelineNum + 1 })).Recorded
      comps := by
  have hkept : LocalDBs.Kept node.dbs.synchronizer node.dbs.stateRoot Checkpointed Checkpointed node.dbs :=
    ⟨rfl, rfl, h.txSelector, h.batchBuilder⟩
  have hkeeps := LocalDBs.keeps_reset node.dbs.stateRoot h.synchronizer h.synchronizer (fun s => comps.root s.content) batchNum
  rw [Node.start]
  cases hrun : LocalDBs.reset (fun s : LocalState σ => comps.root s.content) batchNum node.dbs with
  | ok _ dbs => exact h.of_kept (hkeeps.ok hkept hrun)
  | error e dbs => exact h.of_kept (hkeeps.error hkept hrun)

theorem step (hsyncs : ∀ s s', comps.Syncs s s' → Numbered.number s' ≠ 0) (h : node.Recorded comps)
    (hstep : Node.Step comps node node') : node'.Recorded comps := by
  cases hstep with
  | background hbackground =>
    cases hbackground with
    | iterate env => exact h.iterate env
    | receiveStatsVars => exact h.of_dbs rfl
    | failProof failedBatch batchNum =>
      refine h.of_dbs ?_
      rw [Node.failProof]
      split
      · rfl
      · rfl
    | pool => exact h.of_dbs rfl
    | sync content hsync => exact h.sync (hsyncs _ _ hsync)
    | syncReorg batchNum => exact h.syncReorg batchNum
    | prune keep keep' keep'' => exact h.prune keep keep' keep''
  | setSyncStatsVars stats vars => exact h.of_dbs rfl
  | new => exact h.of_dbs rfl
  | start _ batchNum stats vars => exact h.start batchNum stats vars
  | stop => exact h.of_dbs rfl
  | restart =>
    exact ⟨DB.All.reset _ _ h.txSelector, DB.All.new, h.synchronizer, h.batchNum_ne, h.stateRoot⟩

theorem of_reached (hsyncs : ∀ s s', comps.Syncs s s' → Numbered.number s' ≠ 0) (h : Node.Reached comps node) :
    node.Recorded comps := by
  induction h with
  | refl =>
    refine ⟨DB.All.new, DB.All.new, DB.All.new, ?_, ?_⟩
    · intro n r hr
      cases hr
    · intro n r s hr
      cases hr
  | tail _ hstep ih => exact ih.step hsyncs hstep

end Node.Recorded

end Numbers

/-! ### The reset -/

/-- A database has the accounts and the last index of another one, at a batch. -/
structure Store.IsStateOf (s synced : Store) (batchNum : Nat) : Prop where
  accounts : s.accounts = synced.accounts
  currentIdx : s.currentIdx = synced.currentIdx
  currentBatch : s.currentBatch = batchNum

section Reset

variable {τ : Type} [Numbered τ] {synchronizer db db' : DB τ} {batchNum : Nat} {s : τ}

theorem LocalDBs.localReset_eq (hpos : batchNum ≠ 0) (hsync : synchronizer.checkpoints batchNum = some s)
    (h : localReset synchronizer batchNum (!db.checkpointExists batchNum) db = .ok () db') :
    db'.current = (db.checkpoints batchNum).getD s := by
  cases hcheckpoint : db.checkpoints batchNum with
  | none =>
    rw [DB.checkpointExists, hcheckpoint] at h
    obtain ⟨s', hs', rfl⟩ := (DB.resetFrom_ok hpos).mp h
    rw [hsync] at hs'
    cases hs'
    rfl
  | some s' =>
    rw [DB.checkpointExists, hcheckpoint] at h
    obtain ⟨s'', hs'', rfl⟩ := (DB.reset_ok hpos).mp h
    rw [hcheckpoint] at hs''
    cases hs''
    rfl

theorem LocalDBs.localReset_true_eq (hpos : batchNum ≠ 0) (hsync : synchronizer.checkpoints batchNum = some s)
    (h : localReset synchronizer batchNum true db = .ok () db') : db'.current = s := by
  obtain ⟨s', hs', rfl⟩ := (DB.resetFrom_ok hpos).mp h
  rw [hsync] at hs'
  cases hs'
  rfl

end Reset

section Consistent

variable [Libraries] {cfg : CoordinatorConfig} {node : Node Store} {batchNum stateRoot : Nat} {synced : LocalState Store}
  {dbs : LocalDBs (LocalState Store)}

/-- **`Pipeline.reset`**, after any history of a node, at a batch of the HistoryDB that the synchronizer has: both
databases are those of the synchronizer at the batch, exactly when the selector has no checkpoint of its own for the batch,
or one that is the same, or when the builder has one with another state root. -/
theorem pipelineReset_consistent (h : Node.Reached (nodeComponents cfg) node)
    (hbatch : node.dbs.stateRoot batchNum = some stateRoot)
    (hsync : node.dbs.synchronizer.checkpoints batchNum = some synced)
    (hfree : ∀ built, node.dbs.batchBuilder.checkpoints batchNum = some built →
      built.content.accounts.root = synced.content.accounts.root → built.content.accounts = synced.content.accounts)
    (hreset : LocalDBs.reset (fun s => s.content.accounts.root) batchNum node.dbs = .ok () dbs) :
    (dbs.txSelector.current.content.IsStateOf synced.content batchNum ∧
        dbs.batchBuilder.current.content.IsStateOf synced.content batchNum) ↔
      ∀ selected, node.dbs.txSelector.checkpoints batchNum = some selected →
        (selected.content.accounts = synced.content.accounts ∧ selected.content.currentIdx = synced.content.currentIdx) ∨
        ∃ built, node.dbs.batchBuilder.checkpoints batchNum = some built ∧ built.content.accounts.root ≠ stateRoot := by
  have hrecorded := Node.Recorded.of_reached (fun _ _ => SyncsBatch.currentBatch_ne) h
  have hcontiguous := (contiguousInvariant cfg).holds_of_reached h
  have hpos := hrecorded.batchNum_ne _ _ hbatch
  have hroot : stateRoot = synced.content.accounts.root := hrecorded.stateRoot _ _ _ hbatch hsync
  have hsynced : synced.content.IsStateOf synced.content batchNum := ⟨rfl, rfl, hrecorded.synchronizer _ _ hsync⟩
  obtain ⟨txSelector, batchBuilder, hselector, hbuilder, hforce⟩ := LocalDBs.reset_ok hreset
  have htxSelector := LocalDBs.localReset_eq hpos hsync hselector
  have hbatchBuilder := LocalDBs.localReset_eq hpos hsync hbuilder
  rw [hbatch] at hforce
  by_cases hsame : stateRoot = batchBuilder.current.content.accounts.root
  · rw [if_pos (by simpa using hsame)] at hforce
    subst hforce
    have hbuilt : batchBuilder.current.content.IsStateOf synced.content batchNum := by
      cases hcheckpoint : node.dbs.batchBuilder.checkpoints batchNum with
      | none =>
        rw [hbatchBuilder, hcheckpoint]
        exact hsynced
      | some built =>
        rw [hbatchBuilder, hcheckpoint, Option.getD_some] at hsame ⊢
        have haccounts := hfree built hcheckpoint (hsame.symm.trans hroot)
        have hidx := Store.Contiguous.currentIdx_eq (hcontiguous.batchBuilder _ _ hcheckpoint)
          (hcontiguous.synchronizer _ _ hsync) haccounts
        exact ⟨haccounts, hidx, hrecorded.batchBuilder _ _ hcheckpoint⟩
    cases hcheckpoint : node.dbs.txSelector.checkpoints batchNum with
    | none =>
      rw [hcheckpoint] at htxSelector
      constructor
      · intro _ selected hselected
        cases hselected
      · intro _
        refine ⟨?_, hbuilt⟩
        rw [htxSelector]
        exact hsynced
    | some selected =>
      rw [hcheckpoint] at htxSelector
      rw [htxSelector]
      constructor
      · rintro ⟨hselected, -⟩ selected' hselected'
        cases hselected'
        exact .inl ⟨hselected.accounts, hselected.currentIdx⟩
      · intro hcondition
        refine ⟨?_, hbuilt⟩
        obtain ⟨haccounts, hidx⟩ | ⟨built, hcheckpoint', hne⟩ := hcondition selected rfl
        · exact ⟨haccounts, hidx, hrecorded.txSelector _ _ hcheckpoint⟩
        · rw [hbatchBuilder, hcheckpoint'] at hsame
          exact absurd hsame.symm hne
  · rw [if_neg (by simpa using hsame)] at hforce
    obtain ⟨txSelector', batchBuilder', hselector', hbuilder', rfl⟩ := hforce
    refine ⟨fun _ selected _ => .inr ?_, fun _ => ?_⟩
    · cases hcheckpoint : node.dbs.batchBuilder.checkpoints batchNum with
      | none =>
        rw [hbatchBuilder, hcheckpoint] at hsame
        exact absurd hroot hsame
      | some built =>
        rw [hbatchBuilder, hcheckpoint] at hsame
        exact ⟨built, rfl, fun heq => hsame heq.symm⟩
    · dsimp only
      rw [LocalDBs.localReset_true_eq hpos hsync hselector', LocalDBs.localReset_true_eq hpos hsync hbuilder']
      exact ⟨hsynced, hsynced⟩

end Consistent

theorem syncsBatch_empty : @SyncsBatch plainLibraries {} { currentBatch := 1 } := by
  let := plainLibraries
  exact ⟨smallConfig, [], [], [], [], _, _, rfl, rfl⟩

def openingTx : L1Tx :=
  { userOrigin := true, fromEthAddr := 7, fromBJJ := 1, depositAmount := 10, type := some .createAccountDeposit }

def openedStore : Store :=
  { (oneAccountState .synchronizer).toStore with currentBatch := 1 }

theorem syncsBatch_opened : @SyncsBatch plainLibraries {} openedStore := by
  let := plainLibraries
  exact ⟨smallConfig, [], [openingTx], [], [], _, _, rfl, rfl⟩

def syncedNode : Node Store :=
  @Node.sync _ _ (@nodeComponents plainLibraries Coordinator.soloConfig) Node.initial openedStore

theorem reached_syncedNode : Node.Reached (@nodeComponents plainLibraries Coordinator.soloConfig) syncedNode :=
  Relation.ReflTransGen.refl.tail (.background (.sync Node.initial _ syncsBatch_opened))

/-- Batch 1 opens an account, which both databases have after the reset. -/
theorem pipelineReset_consistent_synced :
    ∃ dbs, LocalDBs.reset (fun s => @AccountTree.root plainLibraries s.content.accounts) 1 syncedNode.dbs = .ok () dbs ∧
      dbs.txSelector.current.content.IsStateOf openedStore 1 ∧
      dbs.batchBuilder.current.content.IsStateOf openedStore 1 := by
  let := plainLibraries
  obtain ⟨_, dbs, hreset, -⟩ := exists_of_succeedsWith (show succeedsWith (fun _ _ => true)
    (LocalDBs.reset (fun s => s.content.accounts.root) 1 syncedNode.dbs) = true by decide +kernel)
  refine ⟨dbs, hreset, (pipelineReset_consistent reached_syncedNode rfl rfl ?_ hreset).mpr ?_⟩
  · intro built hbuilt
    cases hbuilt
  · intro selected hselected
    cases hselected

/-- A selection that opens an account, and then the pool cannot be written. -/
def openingEnv : ForgeEnv Store :=
  { quietEnv with
    getL1L2TxSelection := fun l1UserTxs _ _ =>
      (.ok { l1UserTxs, discardedL2Txs := [] }, { (oneAccountState .txSelector).toStore with currentBatch := 1 })
    startForging := .error "connection refused"
    buildBatch := @buildBatch plainLibraries smallConfig }

/-- The pipeline has failed at batch 1, and another coordinator has forged it. -/
def overtakenNode : Node Store :=
  let root := @AccountTree.root plainLibraries
  let started := finalState (Node.start (fun s => root s.accounts) 0 (Coordinator.soloStats 0 0) Coordinator.soloVars
    { Node.initial with pipelineNum := 1 })
  let failed := started.iterate Coordinator.soloConfig openingEnv
  @Node.sync _ _ (@nodeComponents plainLibraries Coordinator.soloConfig) { failed with pipeline := none } { currentBatch := 1 }

theorem reached_overtakenNode : Node.Reached (@nodeComponents plainLibraries Coordinator.soloConfig) overtakenNode := by
  let := plainLibraries
  have hstarted : Node.Reached (nodeComponents Coordinator.soloConfig) _ :=
    Relation.ReflTransGen.refl.tail (.start Node.initial rfl 0 (Coordinator.soloStats 0 0) Coordinator.soloVars)
  have hfailed := (hstarted.tail (.background (.iterate _ openingEnv ⟨smallConfig, rfl⟩))).tail (.stop _)
  exact hfailed.tail (.background (.sync _ _ syncsBatch_empty))

/-- The account of the selection that was given up stays in the database of the selector. -/
theorem overtakenNode_keepsSelection :
    Node.Reached (@nodeComponents plainLibraries Coordinator.soloConfig) overtakenNode ∧
      overtakenNode.dbs.stateRoot 1 = some 0 ∧
      overtakenNode.dbs.synchronizer.checkpoints 1 = some ⟨{ currentBatch := 1 }, []⟩ ∧
      overtakenNode.dbs.batchBuilder.checkpoints 1 = none ∧
      ∃ dbs, LocalDBs.reset (fun s => @AccountTree.root plainLibraries s.content.accounts) 1 overtakenNode.dbs = .ok () dbs ∧
        dbs.txSelector.current.content.currentIdx = 256 ∧
        ¬ dbs.txSelector.current.content.IsStateOf { currentBatch := 1 } 1 := by
  obtain ⟨_, dbs, hreset, hidx⟩ := exists_of_succeedsWith (show succeedsWith
    (fun _ dbs => decide (dbs.txSelector.current.content.currentIdx = 256))
    (LocalDBs.reset (fun s => @AccountTree.root plainLibraries s.content.accounts) 1 overtakenNode.dbs) = true by
      decide +kernel)
  have hidx : dbs.txSelector.current.content.currentIdx = 256 := of_decide_eq_true hidx
  refine ⟨reached_overtakenNode, by decide +kernel, rfl, rfl, dbs, hreset, hidx, ?_⟩
  intro h
  have hsame := hidx.symm.trans h.currentIdx
  exact absurd hsame (by decide)

end HermezRollup
