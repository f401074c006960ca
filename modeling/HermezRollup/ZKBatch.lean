import HermezRollup.ZKLoops

/-! The circuit inputs of a whole batch: the metadata from which it is published, and the slots of the
intermediate states. -/

namespace HermezRollup

open Bytes Fallible Simulation Slots

namespace TxProcessor

variable [Libraries]

section Parts

variable {s s' : TxProcessor} {zki zki' : ZKInputs} {coordIdxs : List Nat} {coordIdxsMap : CoordIdxsMap}

omit [Libraries] in
theorem fillFeePlan_ok (hcoords : CoordPlan s.state.toStore coordIdxs coordIdxsMap)
    (hlength : coordIdxs.length ≤ zki.feePlanTokens.length) (h : fillFeePlan coordIdxs s zki = .ok zki') :
    ∃ tokens, zki' = { zki with feePlanTokens := tokens } ∧ tokens.length = zki.feePlanTokens.length ∧
      FeePlan coordIdxs coordIdxsMap tokens := by
  obtain ⟨tokens, htokens, hret⟩ := except_bind_ok.mp h
  cases hret
  rw [getFeePlanTokens, mapM_ok] at htokens
  have hsame := htokens.length_eq
  have htake : tokens.take zki.feePlanTokens.length = tokens := List.take_of_length_le (by omega)
  refine ⟨_, rfl, ?_, ?_, ?_⟩
  · exact length_copySlice _ _
  · rw [length_copySlice]
    exact hlength
  · intro j idx hidx
    obtain ⟨hj, rfl⟩ := List.getElem?_eq_some_iff.mp hidx
    have hread := List.forall₂_iff_get.mp htokens |>.2 j hj (by omega)
    obtain ⟨acc, hacc, heq⟩ := except_bind_ok.mp hread
    refine ⟨acc.tokenID.toNat, ?_, ?_⟩
    · rw [copySlice, htake, List.getElem?_append_left (by omega), List.getElem?_eq_getElem (by omega)]
      exact congrArg some (Except.ok.inj heq).symm
    · rw [BitVec.ofNat_toNat, BitVec.setWidth_eq, hcoords.lookup_iff]
      exact ⟨List.getElem_mem hj, acc, hacc, rfl⟩

omit [Libraries] in
theorem startFees_collects (hcoords : CoordPlan s.state.toStore coordIdxs coordIdxsMap)
    (hkeeps : keepsExits s.state.typ = true) : CollectsFees coordIdxsMap (startFees coordIdxs coordIdxsMap s) := by
  intro tokenID idx hlookup
  obtain ⟨-, acc, hacc, htoken⟩ := (hcoords.lookup_iff tokenID idx).mp hlookup
  refine ⟨acc, hacc, htoken, ?_⟩
  have hmem : tokenID ∈ coordIdxsMap := Finmap.mem_of_lookup_eq_some hlookup
  rw [startFees_rollup]
  show (if keepsExits s.state.typ ∧ tokenID ∈ coordIdxsMap then some 0 else none) = some 0
  rw [if_pos ⟨hkeeps, hmem⟩]

theorem distributeFees_zki {indexFee : Nat} (hzki : s.zki = some zki) {u : Unit}
    (h : distributeFees indexFee coordIdxs s = .ok u s') :
    ∃ roots, s'.zki = some { zki with isStateRootFee := roots } := by
  induction coordIdxs generalizing s zki indexFee with
  | nil =>
    obtain ⟨-, rfl⟩ := pure_ok.mp h
    exact ⟨_, hzki⟩
  | cons idx rest ih =>
    obtain ⟨_, s₁, hfee, hrest⟩ := bind_ok.mp h
    obtain ⟨fee, t, hread, h₁⟩ := bind_ok.mp hfee
    obtain ⟨-, rfl⟩ := fromState_ok.mp hread
    obtain ⟨acc, t', hget, h₂⟩ := bind_ok.mp h₁
    obtain ⟨-, rfl⟩ := fromState_ok.mp hget
    obtain ⟨_, s₂, hupdate, hfill⟩ := bind_ok.mp h₂
    obtain ⟨⟨-, hzki₂⟩, -⟩ := books_eq.mp (KeepsBooks.updateAccount _ _ _ _ _ hupdate)
    obtain ⟨_, hfilled, rfl⟩ := onZKInputs_some (hzki₂.trans hzki) hfill
    cases hfilled
    obtain ⟨roots, hroots⟩ := ih rfl hrest
    exact ⟨roots, hroots⟩

theorem fillFees_ok (h : fillFees coordIdxs s zki = .ok zki') :
    ∃ roots, zki' = { zki with isStateRootFee := roots, feeIdxs := copySlice zki.feeIdxs coordIdxs } := by
  obtain ⟨roots, -, hret⟩ := except_bind_ok.mp h
  split at hret
  · cases hret
    exact ⟨roots, rfl⟩
  · cases hret

theorem fillEmptySlots_ok (hplan : FeePlan coordIdxs coordIdxsMap zki.feePlanTokens) (hcollects : CollectsFees coordIdxsMap s)
    (hsized : s.config.maxTx = 0 ∨ Sized (s.config.maxTx - 1) zki) (h : fillEmptySlots coordIdxs s zki = .ok zki') :
    ∃ fees root, zki'.withoutTxData =
      { tailFilled coordIdxs s.rollup (s.txIndex - 1) (s.config.maxTx - (s.txIndex - 1)) zki.withoutTxData with
        isFinalAccFee := fees, isInitStateRootFee := root } := by
  obtain ⟨zki₁, hfold, h⟩ := except_bind_ok.mp h
  obtain ⟨fees, -, hret⟩ := except_bind_ok.mp h
  cases hret
  have htail : TailFills coordIdxs s.rollup (s.txIndex - 1) (s.config.maxTx - (s.txIndex - 1)) zki zki₁ := by
    rcases hsized with hzero | hsized
    · rw [hzero, Nat.zero_sub] at hfold ⊢
      cases hfold
      exact .zero _ _ _ _
    · exact fillEmptySlots_fold hcollects hplan hsized hfold
  rw [← htail]
  exact ⟨_, _, rfl⟩

end Parts

section Batch

variable {s s' : TxProcessor} {coordIdxs : List Nat} {l1UserTxs l1CoordinatorTxs : List L1Tx} {l2Txs : List PoolL2Tx}
  {out : ProcessTxOutput}

namespace BatchRun

variable (run : BatchRun coordIdxs l1UserTxs l1CoordinatorTxs l2Txs s out s')

def l1States : List ((L1Tx × ExitOut) × Rollup) :=
  Spec.trace Rollup.l1Tx l1UserTxs s.rollup ++ Spec.trace Rollup.l1Tx l1CoordinatorTxs run.s₁.rollup

def l2States : List (ExitOut × Rollup) :=
  Spec.trace (Rollup.l2Tx run.map) run.txs run.s₃.rollup

/-- What the parts of a run in the batch builder are in terms of the specification. -/
structure Parts (run : BatchRun coordIdxs l1UserTxs l1CoordinatorTxs l2Txs s out s') : Prop where
  users : ∃ os, Spec.forEach Rollup.l1Tx l1UserTxs s.rollup = some (os, run.s₁.rollup)
  coordinators : ∃ os, Spec.forEach Rollup.l1Tx l1CoordinatorTxs run.s₁.rollup = some (os, run.s₂.rollup)
  coords : CoordPlan run.s₂.state.toStore run.idxs run.map
  start : run.s₃.rollup = { run.s₂.rollup with fees := fun _ => 0 }
  l2 : ∃ os, Spec.forEach (Rollup.l2Tx run.map) run.txs run.s₃.rollup = some (os, run.s₄.rollup)
  length : run.txs.length = l2Txs.length
  typ₁ : run.s₁.state.typ = .batchBuilder
  typ₂ : run.s₂.state.typ = .batchBuilder
  config : run.s₄.config = s.config
  currentIdx : s'.state.currentIdx = run.s₂.state.currentIdx
  fees : ∃ os, Spec.forEach Rollup.payFee run.idxs run.s₄.rollup = some (os, s'.rollup)
  txIndex₁ : run.s₁.txIndex = s.txIndex + l1UserTxs.length
  txIndex₂ : run.s₂.txIndex = run.s₁.txIndex + l1CoordinatorTxs.length
  txIndex₄ : run.s₄.txIndex = run.s₂.txIndex + l2Txs.length

theorem parts (hbuilder : s.state.typ = .batchBuilder) (hzki : s.zki.isSome = true) : run.Parts := by
  obtain ⟨_, _, _, idxs, map, txs, _, s₁, s₂, s₃, s₄, s₅, s₆, husers, hcoordinators, hfilter, hmap, hplan, hl2, hempty, hfees,
    hfilled, -⟩ := run
  obtain ⟨userOuts, hspecUsers, hkeptUsers, hindexUsers, -⟩ := processL1UserTxs_ok husers
  obtain ⟨coordOuts, hspecCoords, hkeptCoords, hindexCoords, -⟩ := processL1CoordinatorTxs_ok hcoordinators
  obtain ⟨hcoords, -⟩ := coordPlan_of_filter hfilter hmap
  obtain ⟨zki₃, rfl⟩ := onZKInputs_zki hplan
  obtain ⟨zki₅, rfl⟩ := onZKInputs_zki hempty
  obtain ⟨zki₆, rfl⟩ := onZKInputs_zki hfilled
  obtain ⟨exitOuts, hspecL2, hkeptL2, hindexL2, hfilledIn, -⟩ :=
    processL2Txs_ok (s := { startFees idxs map s₂ with zki := zki₃ }) (startFees_ready hcoords) hl2
  obtain ⟨⟨feeOuts, hspecFees⟩, hkeptFees⟩ := distributeFees_ok hfees
  have htyp₁ : s₁.state.typ = .batchBuilder := hkeptUsers.typ.trans hbuilder
  have htyp₂ : s₂.state.typ = .batchBuilder := hkeptCoords.typ.trans htyp₁
  have hzki₁ : s₁.zki.isSome = true := by
    have hshape := congrArg Option.isSome hkeptUsers.shape
    simp only [Option.isSome_map] at hshape
    exact hshape.trans hzki
  have hindex₁ : s₁.txIndex = s.txIndex + l1UserTxs.length := by
    rw [hindexUsers, hbuilder]
    simp [slotStep, keepsExits]
  have hindex₂ : s₂.txIndex = s₁.txIndex + l1CoordinatorTxs.length := by
    rw [hindexCoords, hzki₁, if_pos rfl, Nat.mul_one]
  have hindex₄ : s₄.txIndex = s₂.txIndex + l2Txs.length := by
    rw [hindexL2, show ({ startFees idxs map s₂ with zki := zki₃ } : TxProcessor).state.typ = .batchBuilder from htyp₂]
    simp [slotStep, keepsExits, startFees]
  have hl2Idx : s₄.state.currentIdx = s₂.state.currentIdx :=
    Spec.Within.forEach (R := fun r r' : Rollup => r'.currentIdx = r.currentIdx) (fun _ => rfl)
      (fun _ _ _ h h' => h'.trans h) (fun _ _ _ _ => Rollup.l2Tx_currentIdx) _ _ _ _ hspecL2
  have hfeesIdx : s₆.state.currentIdx = s₄.state.currentIdx :=
    Spec.Within.forEach (R := fun r r' : Rollup => r'.currentIdx = r.currentIdx) (fun _ => rfl)
      (fun _ _ _ h h' => h'.trans h) (fun _ _ _ _ => Rollup.currentIdx_give) _ _ _ _ hspecFees
  exact ⟨⟨userOuts, hspecUsers⟩, ⟨coordOuts, hspecCoords⟩, hcoords, startFees_rollup idxs map, ⟨exitOuts, hspecL2⟩,
    hfilledIn.length_eq.symm, htyp₁, htyp₂, hkeptL2.config.trans (hkeptCoords.config.trans hkeptUsers.config),
    hfeesIdx.trans hl2Idx, ⟨feeOuts, hspecFees⟩, hindex₁, hindex₂, hindex₄⟩

theorem Parts.batch {run : BatchRun coordIdxs l1UserTxs l1CoordinatorTxs l2Txs s out s'} (hparts : run.Parts) :
    ∃ bout, Rollup.batch coordIdxs l1UserTxs l1CoordinatorTxs run.txs s.rollup = some (bout, s'.rollup) ∧
      bout.coordIdxs = run.idxs ∧ bout.coordIdxsMap = run.map := by
  obtain ⟨users, husers⟩ := hparts.users
  obtain ⟨coordinators, hcoordinators⟩ := hparts.coordinators
  obtain ⟨exits, hl2⟩ := hparts.l2
  obtain ⟨us, hfees⟩ := hparts.fees
  rw [hparts.start] at hl2
  exact ⟨⟨users, coordinators, run.idxs, run.map, exits⟩, Rollup.batch_some.mpr ⟨run.s₁.rollup, run.s₂.rollup, run.s₄.rollup,
    us, husers, hcoordinators, run.hfilter, run.hmap, hl2, hfees⟩, rfl, rfl⟩

/-- The number of transactions, those of L1 and all. -/
def nL1Tx (_ : BatchRun coordIdxs l1UserTxs l1CoordinatorTxs l2Txs s out s') : Nat :=
  l1UserTxs.length + l1CoordinatorTxs.length

def nTx (_ : BatchRun coordIdxs l1UserTxs l1CoordinatorTxs l2Txs s out s') : Nat :=
  l1UserTxs.length + l1CoordinatorTxs.length + l2Txs.length

/-- The entries of a part of the state behind the L2 transactions, but for the last one. -/
def l2Entries {γ : Type} (value : Rollup → γ) : List (Option γ) :=
  rows (fun i p => if i + 1 < run.nTx then some (value p.2) else none) run.nL1Tx run.l2States

/-- The entries of a part of the state behind all transactions. -/
def entries {γ : Type} (value : Rollup → γ) : List (Option γ) :=
  (run.l1States.map fun p => some (value p.2)) ++ run.l2Entries value

def exitRootEntries : List (Option Nat) :=
  ((Spec.trace Rollup.l1Tx l1UserTxs s.rollup).map fun p => exitRootEntry false (p.1.2, p.2)) ++
    ((Spec.trace Rollup.l1Tx l1CoordinatorTxs run.s₁.rollup).map fun p => exitRootEntry true (p.1.2, p.2)) ++
    rows (l2ExitRootEntry run.nTx) run.nL1Tx run.l2States

/-- Slots that hold the last state from the last transaction on. -/
def filledUp {γ : Type} (slots : List γ) (value : γ) : List γ :=
  fill slots (run.nTx - 1) (List.replicate (s.config.maxTx - (run.nTx - 1)) (some value))

/-- **The circuit inputs of a batch**, from those at its start. -/
structure Inputs (zki zki' : ZKInputs) : Prop where
  room : run.nL1Tx = 0 ∨ run.nL1Tx ≤ zki.isOutIdx.length
  l1TxsData : (run.users.txs ++ run.coordinatorTxs).mapM L1Tx.bytesGeneric = .ok zki'.metadata.l1TxsData
  l1TxsDataAvailability : (run.users.txs ++ run.coordinatorTxs).mapM
    (L1Tx.bytesDataAvailability · zki.metadata.nLevels) = .ok zki'.metadata.l1TxsDataAvailability
  l2TxsData : run.txs.mapM (fun tx => tx.l2Tx.bytesDataAvailability zki.metadata.nLevels) = .ok zki'.metadata.l2TxsData
  metadata : zki'.metadata = { zki.metadata with
    l1TxsData := zki'.metadata.l1TxsData, l1TxsDataAvailability := zki'.metadata.l1TxsDataAvailability
    l2TxsData := zki'.metadata.l2TxsData, newLastIdxRaw := s'.state.currentIdx }
  oldState : (zki'.currentNumBatch, zki'.oldLastIdx, zki'.oldStateRoot) =
    (zki.currentNumBatch, zki.oldLastIdx, zki.oldStateRoot)
  feeIdxs : zki'.feeIdxs = copySlice zki.feeIdxs run.idxs
  isOnChain : zki'.isOnChain = fill zki.isOnChain 0 (run.l1States.map fun _ => some 1)
  isOutIdx : zki'.isOutIdx = run.filledUp (fill zki.isOutIdx 0 (run.entries (·.currentIdx))) run.s₄.rollup.currentIdx
  isStateRoot : zki'.isStateRoot =
    run.filledUp (fill zki.isStateRoot 0 (run.entries (·.accounts.root))) run.s₄.rollup.accounts.root
  isAccFeeOut : zki'.isAccFeeOut =
    run.filledUp (fill zki.isAccFeeOut run.nL1Tx (run.l2Entries (feeRow zki.feePlanTokens.length run.idxs)))
      (feeRow zki.feePlanTokens.length run.idxs run.s₄.rollup)
  isExitRoot : zki'.isExitRoot = run.filledUp (fill zki.isExitRoot 0 run.exitRootEntries) run.s₄.rollup.exitRoot

theorem inputs {zki : ZKInputs} (hbuilder : s.state.typ = .batchBuilder) (hzki : s.zki = some zki) (hindex : s.txIndex = 0)
    (hdata : zki.metadata.l1TxsData = [] ∧ zki.metadata.l1TxsDataAvailability = [] ∧ zki.metadata.l2TxsData = [])
    (hlast : zki.metadata.newLastIdxRaw = s.state.currentIdx) (hfees : coordIdxs.length ≤ zki.feePlanTokens.length)
    (hsized : s.config.maxTx = 0 ∨ Sized (s.config.maxTx - 1) zki) :
    ∃ zki', s'.zki = some zki' ∧ run.Inputs zki zki' := by
  have hparts := run.parts hbuilder (by rw [hzki]; rfl)
  obtain ⟨zki₁, data₁, availability₁, lastIdx₁, hzki₁, houts₁, hdata₁, havailability₁, hfills₁, hroom₁, hlast₁⟩ :=
    processL1UserTxs_run hbuilder hzki run.husers
  obtain ⟨zki₂, data₂, availability₂, lastIdx₂, hzki₂, houts₂, hdata₂, havailability₂, hfills₂, hroom₂, hlast₂⟩ :=
    processL1CoordinatorTxs_run hparts.typ₁ hzki₁ run.hcoordinators
  obtain ⟨zki₃, hplanned, hs₃⟩ := onZKInputs_some (s := startFees run.idxs run.map run.s₂) hzki₂ run.hplan
  have htokens₂ : zki₂.feePlanTokens = zki.feePlanTokens :=
    (congrArg (fun zki => zki.feePlanTokens) hfills₂).trans (congrArg (fun zki => zki.feePlanTokens) hfills₁)
  have hidxs : run.idxs.length ≤ zki₂.feePlanTokens.length := by
    rw [htokens₂]
    exact (hparts.coords.nodup.subperm (filterCoordIdxs_subset run.hfilter)).length_le.trans hfees
  obtain ⟨tokens, rfl, htokens, hplan⟩ := fillFeePlan_ok (s := startFees run.idxs run.map run.s₂) hparts.coords hidxs hplanned
  rw [htokens₂] at htokens
  have hkeeps : keepsExits run.s₂.state.typ = true := by rw [hparts.typ₂]; rfl
  have hl2 : L2Run run.map run.idxs run.nTx run.s₃ { zki₂ with feePlanTokens := tokens } run.txs run.s₄ :=
    processL2Txs_run (by rw [hs₃]; exact hparts.typ₂) hplan (by rw [hs₃]; exact startFees_collects hparts.coords hkeeps)
      (by rw [hs₃]) run.hl2
  obtain ⟨zki₄, data₄, hzki₄, hdata₄, hfills₄, hcollects⟩ := hl2
  -- the circuit inputs after the transactions, in terms of those at the start
  have hindex₁ : run.s₁.txIndex = l1UserTxs.length := by rw [hparts.txIndex₁, hindex, Nat.zero_add]
  have hindex₂ : run.s₂.txIndex = run.nL1Tx := by rw [hparts.txIndex₂, hindex₁]; rfl
  have hindex₃ : run.s₃.txIndex = run.nL1Tx := by rw [hs₃]; exact hindex₂
  have hindex₄ : run.s₄.txIndex = run.nTx := by rw [hparts.txIndex₄, hindex₂]; rfl
  have hlevels₁ : zki₁.metadata.nLevels = zki.metadata.nLevels := congrArg (fun zki => zki.metadata.nLevels) hfills₁
  have hlevels₂ : zki₂.metadata.nLevels = zki.metadata.nLevels :=
    (congrArg (fun zki => zki.metadata.nLevels) hfills₂).trans hlevels₁
  rw [L1Fills, hindex] at hfills₁
  rw [L1Fills, hindex₁, hfills₁] at hfills₂
  have hfills₄ : zki₄.withoutTxData = l2Filled run.nTx run.idxs run.nL1Tx run.l2States data₄
      { zki₂.withoutTxData with feePlanTokens := tokens } := by
    rw [← hindex₃]
    exact hfills₄
  rw [hfills₂] at hfills₄
  have hsized₄ : run.s₄.config.maxTx = 0 ∨ Sized (run.s₄.config.maxTx - 1) zki₄ := by
    rw [hparts.config]
    refine hsized.imp_right fun hsized => .of_withoutTxData ?_
    have hl1 : Sized (s.config.maxTx - 1) zki₂.withoutTxData := by
      rw [hfills₂]
      refine Sized.l1Filled (Sized.l1Filled ?_)
      exact ⟨hsized.1, hsized.2, hsized.3, hsized.4⟩
    rw [hfills₄, ← hfills₂]
    refine Sized.l2Filled ?_
    exact ⟨hl1.1, hl1.2, hl1.3, hl1.4⟩
  obtain ⟨zki₅, hempty, hs₅⟩ := onZKInputs_some hzki₄ run.hempty
  have htokens₄ : zki₄.feePlanTokens = tokens := congrArg (fun zki => zki.feePlanTokens) hfills₄
  obtain ⟨fees, root, hfills₅⟩ := fillEmptySlots_ok (by rw [htokens₄]; exact hplan) hcollects hsized₄ hempty
  rw [hindex₄, hparts.config, hfills₄] at hfills₅
  obtain ⟨roots₆, hzki₆⟩ := distributeFees_zki (s := run.s₅) (by rw [hs₅]) run.hfees
  obtain ⟨zki₇, hfilled, hs'⟩ := onZKInputs_some hzki₆ run.hfilled
  obtain ⟨roots₇, rfl⟩ := fillFees_ok hfilled
  refine ⟨_, by rw [hs'], ?_⟩
  obtain ⟨hempty₁, hempty₂, hempty₃⟩ := hdata
  have hlast₁ := hlast₁ hlast
  have hlast₂ := hlast₂ (by rw [← hlast₁]; exact congrArg (fun zki => zki.metadata.newLastIdxRaw) hfills₁)
  have hl1Data : zki₅.metadata.l1TxsData = data₁ ++ data₂ :=
    (congrArg (fun zki => zki.metadata.l1TxsData) hfills₅).trans
      (show zki.metadata.l1TxsData ++ data₁ ++ data₂ = _ by rw [hempty₁, List.nil_append])
  have hl1Availability : zki₅.metadata.l1TxsDataAvailability = availability₁ ++ availability₂ :=
    (congrArg (fun zki => zki.metadata.l1TxsDataAvailability) hfills₅).trans
      (show zki.metadata.l1TxsDataAvailability ++ availability₁ ++ availability₂ = _ by rw [hempty₂, List.nil_append])
  have hl2Data : zki₅.metadata.l2TxsData = data₄ :=
    (congrArg (fun zki => zki.metadata.l2TxsData) hfills₅).trans
      (show zki.metadata.l2TxsData ++ data₄ = _ by rw [hempty₃, List.nil_append])
  have hl1Length : (Spec.trace Rollup.l1Tx l1UserTxs s.rollup).length = l1UserTxs.length := by
    obtain ⟨os, hspec⟩ := hparts.users
    exact Spec.length_trace hspec
  have hcoordsLength : (Spec.trace Rollup.l1Tx l1CoordinatorTxs run.s₁.rollup).length = l1CoordinatorTxs.length := by
    obtain ⟨os, hspec⟩ := hparts.coordinators
    exact Spec.length_trace hspec
  have hslots : ∀ (slots : List Nat) (value : Rollup → Nat),
      fill (fill (fill slots 0 ((Spec.trace Rollup.l1Tx l1UserTxs s.rollup).map fun p => some (value p.2))) l1UserTxs.length
        ((Spec.trace Rollup.l1Tx l1CoordinatorTxs run.s₁.rollup).map fun p => some (value p.2))) run.nL1Tx
        (run.l2Entries value) = fill slots 0 (run.entries value) := by
    intro slots value
    rw [fill_fill _ (by rw [List.length_map, hl1Length]), ← List.map_append,
      fill_fill _ (by rw [List.length_map, List.length_append, hl1Length, hcoordsLength]; rfl)]
    rfl
  have hlength₁ : zki₁.isOutIdx.length = zki.isOutIdx.length :=
    (congrArg (fun zki => zki.isOutIdx.length) hfills₁).trans (length_fill _ _ _)
  constructor
  · rw [hindex] at hroom₁
    rw [hindex₁, hlength₁] at hroom₂
    show l1UserTxs.length + l1CoordinatorTxs.length = 0 ∨ l1UserTxs.length + l1CoordinatorTxs.length ≤ _
    rcases hroom₁ with rfl | hroom₁ <;> rcases hroom₂ with rfl | hroom₂ <;> simp_all
  · rw [List.mapM_append, hdata₁, except_ok_bind, hdata₂, except_ok_bind]
    exact congrArg Except.ok hl1Data.symm
  · rw [hlevels₁] at havailability₂
    rw [List.mapM_append, havailability₁, except_ok_bind, havailability₂, except_ok_bind]
    exact congrArg Except.ok hl1Availability.symm
  · change run.txs.mapM (fun tx => tx.l2Tx.bytesDataAvailability zki₂.metadata.nLevels) = _ at hdata₄
    rw [hlevels₂] at hdata₄
    exact hdata₄.trans (congrArg Except.ok hl2Data.symm)
  · show zki₅.metadata = _
    rw [hl1Data, hl1Availability, hl2Data, hparts.currentIdx, ← hlast₂]
    refine (congrArg ZKInputs.metadata hfills₅).trans ?_
    show ({ zki.metadata with
      l1TxsData := zki.metadata.l1TxsData ++ data₁ ++ data₂
      l1TxsDataAvailability := zki.metadata.l1TxsDataAvailability ++ availability₁ ++ availability₂
      l2TxsData := zki.metadata.l2TxsData ++ data₄
      newLastIdxRaw := lastIdx₂ } : ZKMetadata) = _
    rw [hempty₁, hempty₂, hempty₃]
    rfl
  · exact congrArg (fun zki => (zki.currentNumBatch, zki.oldLastIdx, zki.oldStateRoot)) hfills₅
  · exact congrArg (fun zki => copySlice zki.feeIdxs run.idxs) hfills₅
  · refine (congrArg ZKInputs.isOnChain hfills₅).trans ?_
    show fill (fill zki.isOnChain 0 _) l1UserTxs.length _ = _
    rw [fill_fill _ (by rw [List.length_map, hl1Length]), l1States, List.map_append]
  · exact (congrArg ZKInputs.isOutIdx hfills₅).trans
      (congrArg (run.filledUp · _) (hslots zki.isOutIdx fun r => r.currentIdx))
  · exact (congrArg ZKInputs.isStateRoot hfills₅).trans
      (congrArg (run.filledUp · _) (hslots zki.isStateRoot fun r => r.accounts.root))
  · refine (congrArg ZKInputs.isAccFeeOut hfills₅).trans ?_
    rw [← htokens]
    rfl
  · refine (congrArg ZKInputs.isExitRoot hfills₅).trans (congrArg (run.filledUp · _) ?_)
    show fill (fill (fill zki.isExitRoot 0 _) l1UserTxs.length _) run.nL1Tx _ = _
    rw [fill_fill _ (by rw [List.length_map, hl1Length]),
      fill_fill _ (by rw [List.length_append, List.length_map, List.length_map, hl1Length, hcoordsLength]; rfl)]
    rfl

end BatchRun

/-- **The circuit inputs of a run of the batch builder**, with the run of the specification. -/
theorem processTxs_inputs {state : StateDB} {config : Config} (hbuilder : state.typ = .batchBuilder)
    (hlt : config.maxTx < 2 ^ 32)
    (h : processTxs coordIdxs l1UserTxs l1CoordinatorTxs l2Txs (newTxProcessor state config) = .ok out s') :
    ∃ (s₁ : TxProcessor)
      (run : BatchRun coordIdxs l1UserTxs l1CoordinatorTxs l2Txs (startBatch (newTxProcessor state config)) out s₁)
      (zki : ZKInputs), run.Parts ∧ run.Inputs (newTxProcessor state config).startZKInputs zki ∧
      out.zkInputs = some (s₁.finishZKInputs zki) ∧ out.l2Txs = run.txs ∧ run.idxs.length ≤ config.maxFeeTx ∧
      s'.state = s₁.state.makeCheckpoint ∧ s'.exitTree = s₁.exitTree := by
  obtain ⟨⟨hcoords, hmax, -⟩, s₁, hbatch, rfl⟩ := processTxs_batch h
  obtain ⟨run⟩ := processBatch_run hbatch
  have hzki : (startBatch (newTxProcessor state config)).zki = some (newTxProcessor state config).startZKInputs :=
    if_pos hbuilder
  have hparts := run.parts hbuilder (by rw [hzki]; rfl)
  have hsized : config.maxTx = 0 ∨ Sized (config.maxTx - 1) (newTxProcessor state config).startZKInputs := by
    refine (Nat.eq_zero_or_pos config.maxTx).imp_right fun hpos => ?_
    have hpred := uint32Pred_eq hpos hlt
    constructor <;> simp only [startZKInputs, newZKInputs, newSlice, List.length_replicate] <;> exact hpred
  obtain ⟨zki, hzki₁, hinputs⟩ := run.inputs hbuilder hzki rfl ⟨rfl, rfl, rfl⟩ rfl
    (hcoords.trans_eq List.length_replicate.symm) hsized
  have hbuilder₁ : s₁.state.typ = .batchBuilder := by
    obtain ⟨-, -, ⟨-, htyp, -⟩, -⟩ := processBatch_ok hbatch
    exact htyp.trans hbuilder
  refine ⟨s₁, run, zki, hparts, hinputs, ?_, ?_, ?_, rfl, rfl⟩
  · rw [run.hout, batchOutput, hbuilder₁, hzki₁]
    rfl
  · exact (congrArg ProcessTxOutput.l2Txs run.hout).trans (batchOutput_txs _ _ _).2.2
  · exact (hparts.coords.nodup.subperm (filterCoordIdxs_subset run.hfilter)).length_le.trans hcoords

end Batch

end TxProcessor

end HermezRollup
