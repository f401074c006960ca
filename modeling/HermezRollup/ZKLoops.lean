import HermezRollup.ZKSteps

/-! The circuit inputs along the loops of a batch.  The slots of the intermediate states are filled one after
the other, with the states that the transactions lead to; the metadata get the data of the transactions. -/

namespace HermezRollup

open Bytes Fallible Simulation Slots

/-- An exit without a leaf: its amount is zero. -/
def ExitOut.isEmpty (exit : ExitOut) : Bool :=
  exit.exitIdx.isSome && exit.exitAccount.isNone

namespace Rollup

def exitRoot [Libraries] (r : Rollup) : Nat :=
  (r.exits.getD ∅).root

end Rollup

namespace TxProcessor

variable [Libraries]

/-- The entries of a transaction in the slots of the exit roots: the slot of an exit without a leaf is left as
it is, unless the root is written whatever the transaction. -/
def exitRootEntry (always : Bool) (p : ExitOut × Rollup) : Option Nat :=
  if always || !p.1.isEmpty then some p.2.exitRoot else none

/-- The circuit inputs with those of L1 transactions, from slot `k` on. -/
def l1Filled (always : Bool) (k : Nat) (states : List ((L1Tx × ExitOut) × Rollup)) (data availability : List Bytes)
    (lastIdx : Nat) (zki : ZKInputs) : ZKInputs :=
  { zki with
    metadata := { zki.metadata with
      l1TxsData := zki.metadata.l1TxsData ++ data
      l1TxsDataAvailability := zki.metadata.l1TxsDataAvailability ++ availability
      newLastIdxRaw := lastIdx }
    isOnChain := fill zki.isOnChain k (states.map fun _ => some 1)
    isOutIdx := fill zki.isOutIdx k (states.map fun p => some p.2.currentIdx)
    isStateRoot := fill zki.isStateRoot k (states.map fun p => some p.2.accounts.root)
    isExitRoot := fill zki.isExitRoot k (states.map fun p => exitRootEntry always (p.1.2, p.2)) }

/-- What L1 transactions do to the circuit inputs. -/
def L1Fills (always : Bool) (k : Nat) (states : List ((L1Tx × ExitOut) × Rollup)) (data availability : List Bytes)
    (lastIdx : Nat) (zki zki' : ZKInputs) : Prop :=
  zki'.withoutTxData = l1Filled always k states data availability lastIdx zki.withoutTxData

theorem L1Fills.nil (always : Bool) (k : Nat) (zki : ZKInputs) :
    L1Fills always k [] [] [] zki.metadata.newLastIdxRaw zki zki := by
  simp [L1Fills, l1Filled, ZKInputs.withoutTxData]

variable {k : Nat} {always : Bool}

theorem L1Fills.append {states states' : List ((L1Tx × ExitOut) × Rollup)}
    {data data' availability availability' : List Bytes} {lastIdx lastIdx' : Nat} {zki zki₁ zki' : ZKInputs}
    (h : L1Fills always k states data availability lastIdx zki zki₁)
    (h' : L1Fills always (k + states.length) states' data' availability' lastIdx' zki₁ zki') :
    L1Fills always k (states ++ states') (data ++ data') (availability ++ availability') lastIdx' zki zki' := by
  rw [L1Fills, h', h]
  simp only [l1Filled, List.map_append, ← fill_append, List.length_map, List.append_assoc]

section L1

variable {s s₁ s' : TxProcessor} {zki zki₁ zki' : ZKInputs}

omit [Libraries] in
theorem setAt_ok {α : Type} {xs ys : List α} {i : Nat} {x : α} (h : setAt xs i (.ok x) = .ok ys) :
    i < xs.length ∧ ys = xs.set i x := by
  rw [setAt] at h
  split at h
  · cases h
    exact ⟨by assumption, rfl⟩
  · cases h

omit [Libraries] in
theorem setIfLt_eq_set {α : Type} (xs : List α) (i : Nat) (x : α) : setIfLt xs i x = xs.set i x := by
  rw [setIfLt]
  split
  · rfl
  · rw [List.set_eq_of_length_le (by omega)]

theorem exitRoot_rollup (s : TxProcessor) : s.exitRoot = s.rollup.exitRoot := rfl

omit [Libraries] in
theorem withoutTxData_update (zki : ZKInputs) (metadata : ZKMetadata) (isOutIdx isStateRoot isExitRoot : List Nat) :
    { zki with metadata, isOutIdx, isStateRoot, isExitRoot }.withoutTxData =
      { zki.withoutTxData with metadata, isOutIdx, isStateRoot, isExitRoot } := rfl

theorem exitRoots_filled {exit : ExitOut} {roots old : List Nat}
    (hold : zki.isExitRoot = if exit.exitAccount.isSome then setIfLt old s.txIndex s.exitRoot else old)
    (hroots : fillExitRootAfter (always || exit.exitIdx.isNone) s zki = .ok roots) :
    roots = fill old s.txIndex [exitRootEntry always (exit, s.rollup)] := by
  rw [fillExitRootAfter, hold] at hroots
  rw [exitRootEntry, ExitOut.isEmpty, ← exitRoot_rollup]
  cases hexit : always || exit.exitIdx.isNone with
  | true =>
    rw [hexit, if_pos rfl] at hroots
    obtain ⟨-, rfl⟩ := setAt_ok hroots
    have hentry : (always || !(exit.exitIdx.isSome && exit.exitAccount.isNone)) = true := by
      cases always <;> simp_all
    rw [if_pos hentry, fill_singleton]
    split
    · rw [setIfLt_eq_set, List.set_set]
    · rfl
  | false =>
    rw [hexit] at hroots
    cases hroots
    obtain ⟨halways, hsome⟩ : always = false ∧ exit.exitIdx.isSome = true := by
      cases always <;> simp_all
    rw [halways, hsome]
    cases exit.exitAccount with
    | none => simp [fill_none]
    | some acc => simp [fill_singleton, setIfLt_eq_set]

/-- **One L1 transaction** and its slot. -/
theorem l1Tx_fills {tx : L1Tx} {out : L1TxOut} (hbuilder : s.state.typ ≠ .txSelector)
    (hzki : s.zki = some zki) (hprocess : processL1Tx tx s = .ok out s₁) (hzki₁ : s₁.zki = some zki₁)
    (hfill : fillL1TxData out.tx (always || out.exit.exitIdx.isNone) s₁ zki₁ = .ok zki') :
    ∃ data availability lastIdx, out.tx.bytesGeneric = .ok data ∧
      out.tx.bytesDataAvailability zki.metadata.nLevels = .ok availability ∧
      L1Fills always s.txIndex [((out.tx, out.exit), s₁.rollup)] [data] [availability] lastIdx zki zki' ∧
      s.txIndex < zki.isOutIdx.length ∧
      (zki.metadata.newLastIdxRaw = s.state.currentIdx → lastIdx = s₁.state.currentIdx) := by
  obtain ⟨_, hsame, hslots⟩ := processL1Tx_zki hbuilder hzki hprocess
  rw [hzki₁] at hsame
  cases hsame
  obtain ⟨hspec, hkept⟩ := processL1Tx_ok hprocess
  have hcurrent := Rollup.applyL1_currentIdx (Rollup.l1Tx_some.mp hspec).1
  obtain ⟨data, hdata, hfill⟩ := except_bind_ok.mp hfill
  obtain ⟨availability, havailability, hfill⟩ := except_bind_ok.mp hfill
  obtain ⟨_, hout, hfill⟩ := except_bind_ok.mp hfill
  obtain ⟨_, hstate, hfill⟩ := except_bind_ok.mp hfill
  obtain ⟨roots, hroots, hfill⟩ := except_bind_ok.mp hfill
  cases hfill
  have hindex := hkept.txIndex
  obtain ⟨lastIdx, hlastIdx⟩ : ∃ lastIdx, lastIdx =
      if Rollup.creates tx = 1 then s.state.currentIdx + 1 else zki.metadata.newLastIdxRaw := ⟨_, rfl⟩
  rw [← hlastIdx] at hslots
  have hmetadata := congrArg ZKInputs.metadata hslots
  have hOutIdx := congrArg ZKInputs.isOutIdx hslots
  have hStateRoot := congrArg ZKInputs.isStateRoot hslots
  have hExitRoot := congrArg ZKInputs.isExitRoot hslots
  change zki₁.metadata = { zki.metadata with newLastIdxRaw := lastIdx } at hmetadata
  change zki₁.isOutIdx = zki.isOutIdx at hOutIdx
  change zki₁.isStateRoot = zki.isStateRoot at hStateRoot
  change zki₁.isExitRoot = (if out.exit.exitAccount.isSome then setIfLt zki.isExitRoot s₁.txIndex s₁.exitRoot
    else zki.isExitRoot) at hExitRoot
  obtain ⟨hlt, rfl⟩ := setAt_ok hout
  obtain ⟨-, rfl⟩ := setAt_ok hstate
  have hroots := exitRoots_filled hExitRoot hroots
  rw [hindex] at hroots
  rw [hOutIdx, hindex] at hlt
  refine ⟨data, availability, lastIdx, hdata, ?_, ?_, hlt, fun hlast => ?_⟩
  · rw [hmetadata] at havailability
    exact havailability
  · rw [L1Fills, l1Filled, hroots, hOutIdx, hStateRoot, hmetadata, withoutTxData_update, hslots]
    simp only [exitSlots, List.map_cons, List.map_nil, fill_singleton, setIfLt_eq_set, hindex]
    rfl
  · rw [hlastIdx, hlast]
    have hcases : Rollup.creates tx = 0 ∨ Rollup.creates tx = 1 := by
      rw [Rollup.creates]
      split <;> simp
    change s₁.state.currentIdx = s.state.currentIdx + Rollup.creates tx at hcurrent
    split <;> omega

/-- What a loop over L1 transactions does to the circuit inputs. -/
def L1Run (always : Bool) (s : TxProcessor) (zki : ZKInputs) (txs outs : List L1Tx) (s' : TxProcessor) : Prop :=
  ∃ zki' data availability lastIdx, s'.zki = some zki' ∧
    outs = (Spec.trace Rollup.l1Tx txs s.rollup).map (fun p => p.1.1) ∧
    outs.mapM L1Tx.bytesGeneric = .ok data ∧
    outs.mapM (L1Tx.bytesDataAvailability · zki.metadata.nLevels) = .ok availability ∧
    L1Fills always s.txIndex (Spec.trace Rollup.l1Tx txs s.rollup) data availability lastIdx zki zki' ∧
    (txs = [] ∨ s.txIndex + txs.length ≤ zki.isOutIdx.length) ∧
    (zki.metadata.newLastIdxRaw = s.state.currentIdx → lastIdx = s'.state.currentIdx)

theorem L1Run.nil (always : Bool) (hzki : s.zki = some zki) : L1Run always s zki [] [] s :=
  ⟨zki, [], [], _, hzki, rfl, rfl, rfl, .nil always _ zki, Or.inl rfl, id⟩

theorem L1Run.cons {tx : L1Tx} {out : L1TxOut} {rest outs : List L1Tx}
    (hbuilder : s.state.typ ≠ .txSelector) (hzki : s.zki = some zki) (hprocess : processL1Tx tx s = .ok out s₁)
    (hzki₁ : s₁.zki = some zki₁) (hfill : fillL1TxData out.tx (always || out.exit.exitIdx.isNone) s₁ zki₁ = .ok zki')
    (hrest : L1Run always { s₁ with zki := some zki', txIndex := s₁.txIndex + 1 } zki' rest outs s') :
    L1Run always s zki (tx :: rest) (out.tx :: outs) s' := by
  obtain ⟨data, availability, lastIdx, hdata, havailability, hfills, hlt, hlast⟩ :=
    l1Tx_fills hbuilder hzki hprocess hzki₁ hfill
  obtain ⟨zki₂, datas, availabilities, lastIdx', hzki₂, houts, hdatas, havailabilities, hfills', hle, hlast'⟩ := hrest
  obtain ⟨hspec, hkept⟩ := processL1Tx_ok hprocess
  have htrace := Spec.trace_cons hspec rest
  have hlevels : zki'.metadata.nLevels = zki.metadata.nLevels := congrArg (fun zki => zki.metadata.nLevels) hfills
  have hlength : zki'.isOutIdx.length = zki.isOutIdx.length :=
    (congrArg (fun zki => zki.isOutIdx.length) hfills).trans (length_fill _ _ _)
  have hraw : zki'.metadata.newLastIdxRaw = lastIdx := congrArg (fun zki => zki.metadata.newLastIdxRaw) hfills
  have hindex : s₁.txIndex + 1 = s.txIndex + 1 := by rw [hkept.txIndex]
  refine ⟨zki₂, data :: datas, availability :: availabilities, lastIdx', hzki₂, ?_, ?_, ?_, ?_, ?_, ?_⟩
  · rw [htrace, houts]
    rfl
  · rw [List.mapM_cons, hdata, except_ok_bind, hdatas]
    rfl
  · rw [hlevels] at havailabilities
    rw [List.mapM_cons, havailability, except_ok_bind, havailabilities]
    rfl
  · rw [htrace]
    change L1Fills always (s₁.txIndex + 1) _ _ _ _ _ _ at hfills'
    rw [hindex] at hfills'
    exact hfills.append hfills'
  · right
    obtain rfl | hle := hle
    · exact hlt
    · change s₁.txIndex + 1 + rest.length ≤ _ at hle
      rw [hindex, hlength] at hle
      rw [List.length_cons]
      omega
  · intro hzero
    exact hlast' (hraw.trans (hlast hzero))

omit [Libraries] in
theorem setEffectiveFromIdx_builder {typ : TypeStateDB} (htyp : typ = .batchBuilder) {out : L1TxOut} :
    setEffectiveFromIdx typ out = out.tx := by
  subst htyp
  rfl

/-- **The transactions of users** and the circuit inputs. -/
theorem processL1UserTxs_run {txs : List L1Tx} {exits : List (Option ProcessedExit)} {outs : L1TxsOut}
    (hbuilder : s.state.typ = .batchBuilder) (hzki : s.zki = some zki)
    (h : processL1UserTxs txs exits s = .ok outs s') : L1Run false s zki txs outs.txs s' := by
  induction txs generalizing s zki exits outs with
  | nil =>
    obtain ⟨rfl, rfl⟩ := pure_ok.mp h
    exact .nil false hzki
  | cons tx rest ih =>
    obtain ⟨out, s₁, hprocess, h₁⟩ := bind_ok.mp h
    obtain ⟨_, s₂, hfill, h₂⟩ := bind_ok.mp h₁
    obtain ⟨exits₁, s₃, hclose, h₃⟩ := bind_ok.mp h₂
    obtain ⟨_, _, hget, h₄⟩ := bind_ok.mp h₃
    cases hget
    obtain ⟨outs₁, s₄, hrest, hret⟩ := bind_ok.mp h₄
    obtain ⟨rfl, rfl⟩ := pure_ok.mp hret
    have hbuilder' : s.state.typ ≠ .txSelector := by rw [hbuilder]; simp
    obtain ⟨zki₁, hzki₁, -⟩ := processL1Tx_zki hbuilder' hzki hprocess
    obtain ⟨zki', hfilled, rfl⟩ := onZKInputs_some hzki₁ hfill
    have htyp : s₁.state.typ = .batchBuilder := (processL1Tx_ok hprocess).2.typ.trans hbuilder
    have hs₃ := closeTx_ok hclose
    have hstep : slotStep s₁.state.typ = 1 := by rw [htyp]; rfl
    subst hs₃
    rw [hstep] at hrest
    show L1Run false s zki (tx :: rest) (setEffectiveFromIdx s₁.state.typ out :: outs₁.txs) s₄
    rw [setEffectiveFromIdx_builder htyp]
    exact .cons hbuilder' hzki hprocess hzki₁ hfilled (ih htyp rfl hrest)

/-- **The transactions of the coordinator** and the circuit inputs. -/
theorem processL1CoordinatorTxs_run {txs txs' : List L1Tx} {accs : List Account}
    (hbuilder : s.state.typ = .batchBuilder) (hzki : s.zki = some zki)
    (h : processL1CoordinatorTxs txs s = .ok (txs', accs) s') : L1Run true s zki txs txs' s' := by
  induction txs generalizing s zki txs' accs with
  | nil =>
    obtain ⟨heq, rfl⟩ := pure_ok.mp h
    cases heq
    exact .nil true hzki
  | cons tx rest ih =>
    obtain ⟨out, s₁, hprocess, h₁⟩ := bind_ok.mp h
    obtain ⟨_, s₂, hfill, h₂⟩ := bind_ok.mp h₁
    obtain ⟨_, s₃, hmodify, h₃⟩ := bind_ok.mp h₂
    cases hmodify
    obtain ⟨_, _, hget, h₄⟩ := bind_ok.mp h₃
    cases hget
    obtain ⟨⟨txs₁, accs₁⟩, s₄, hrest, hret⟩ := bind_ok.mp h₄
    obtain ⟨heq, rfl⟩ := pure_ok.mp hret
    cases heq
    have hbuilder' : s.state.typ ≠ .txSelector := by rw [hbuilder]; simp
    obtain ⟨zki₁, hzki₁, -⟩ := processL1Tx_zki hbuilder' hzki hprocess
    obtain ⟨zki', hfilled, rfl⟩ := onZKInputs_some hzki₁ hfill
    have htyp : s₁.state.typ = .batchBuilder := (processL1Tx_ok hprocess).2.typ.trans hbuilder
    have hclose : closeCoordinatorTx { s₁ with zki := some zki' } =
        { s₁ with zki := some zki', txIndex := s₁.txIndex + 1 } := rfl
    rw [hclose] at hrest
    show L1Run true s zki (tx :: rest) (setEffectiveFromIdx s₁.state.typ out :: txs₁) s₄
    rw [setEffectiveFromIdx_builder htyp]
    exact .cons hbuilder' hzki hprocess hzki₁ hfilled (ih htyp rfl hrest)

end L1

/-- The fees owed to the coordinator accounts, in their order, filled up with zeros. -/
def feeRow (maxFeeTx : Nat) (coordIdxs : List Nat) (r : Rollup) : List Int :=
  coordIdxs.map r.fees ++ List.replicate (maxFeeTx - coordIdxs.length) 0

/-- The tokens of the fee plan are those of the coordinator accounts. -/
structure FeePlan (coordIdxs : List Nat) (coordIdxsMap : CoordIdxsMap) (tokens : List Nat) : Prop where
  length_le : coordIdxs.length ≤ tokens.length
  token : ∀ j idx : Nat, coordIdxs[j]? = some idx →
    ∃ token : Nat, tokens[j]? = some token ∧ coordIdxsMap.lookup (BitVec.ofNat 32 token) = some idx

/-- The entry of a transaction in the slots of the exit roots, when `nTx` transactions are in the batch: the last
one leaves its slot to `applyExit`. -/
def l2ExitRootEntry (nTx i : Nat) (p : ExitOut × Rollup) : Option Nat :=
  if i + 1 < nTx then exitRootEntry false p else if p.1.exitAccount.isSome then some p.2.exitRoot else none

/-- The circuit inputs with those of L2 transactions, from slot `k` on. -/
def l2Filled (nTx : Nat) (coordIdxs : List Nat) (k : Nat) (states : List (ExitOut × Rollup)) (data : List Bytes)
    (zki : ZKInputs) : ZKInputs :=
  { zki with
    metadata := { zki.metadata with l2TxsData := zki.metadata.l2TxsData ++ data }
    isOutIdx := fill zki.isOutIdx k (rows (fun i p => if i + 1 < nTx then some p.2.currentIdx else none) k states)
    isStateRoot :=
      fill zki.isStateRoot k (rows (fun i p => if i + 1 < nTx then some p.2.accounts.root else none) k states)
    isAccFeeOut := fill zki.isAccFeeOut k
      (rows (fun i p => if i + 1 < nTx then some (feeRow zki.feePlanTokens.length coordIdxs p.2) else none) k states)
    isExitRoot := fill zki.isExitRoot k (rows (l2ExitRootEntry nTx) k states) }

/-- What L2 transactions do to the circuit inputs. -/
def L2Fills (nTx : Nat) (coordIdxs : List Nat) (k : Nat) (states : List (ExitOut × Rollup)) (data : List Bytes)
    (zki zki' : ZKInputs) : Prop :=
  zki'.withoutTxData = l2Filled nTx coordIdxs k states data zki.withoutTxData

section L2

variable {s s₁ s' : TxProcessor} {zki zki₁ zki' : ZKInputs} {coordIdxs : List Nat} {coordIdxsMap : CoordIdxsMap} {nTx : Nat}

omit [Libraries] in
theorem formatAccumulatedFees_ok {tokens : List Nat} (hplan : FeePlan coordIdxs coordIdxsMap tokens)
    (hcollects : CollectsFees coordIdxsMap s) :
    formatAccumulatedFees s.collectedFees tokens coordIdxs = .ok (feeRow tokens.length coordIdxs s.rollup) := by
  rw [formatAccumulatedFees, if_pos hplan.length_le, Except.ok.injEq]
  refine List.ext_getElem? fun j => ?_
  rw [List.getElem?_mapIdx, feeRow]
  by_cases hj : j < coordIdxs.length
  · obtain ⟨token, htoken, hlookup⟩ := hplan.token j (coordIdxs[j]) (List.getElem?_eq_getElem hj)
    obtain ⟨-, -, -, hfees⟩ := hcollects _ _ hlookup
    rw [htoken, List.getElem?_append_left (by rw [List.length_map]; exact hj), List.getElem?_map,
      List.getElem?_eq_getElem hj, Option.map_some, Option.map_some, if_pos hj, hfees, Option.getD_some]
  · rw [List.getElem?_append_right (by rw [List.length_map]; omega), List.length_map, List.getElem?_replicate]
    by_cases hlt : j < tokens.length
    · rw [List.getElem?_eq_getElem hlt, Option.map_some, if_neg hj, if_pos (by omega)]
    · rw [List.getElem?_eq_none (by omega), Option.map_none, if_neg (by omega)]

omit [Libraries] in
theorem CollectsFees.ready (h : CollectsFees coordIdxsMap s) : FeesReady coordIdxsMap s := by
  refine Or.inr fun tokenID idx hlookup => ?_
  obtain ⟨acc, hacc, htoken, hfees⟩ := h tokenID idx hlookup
  exact ⟨acc, hacc, by rw [htoken, hfees]; rfl⟩

theorem L2Fills.nil (nTx : Nat) (coordIdxs : List Nat) (k : Nat) (zki : ZKInputs) : L2Fills nTx coordIdxs k [] [] zki zki := by
  simp [L2Fills, l2Filled, ZKInputs.withoutTxData]

theorem L2Fills.cons {p : ExitOut × Rollup} {states : List (ExitOut × Rollup)} {data : Bytes} {datas : List Bytes}
    (h : L2Fills nTx coordIdxs k [p] [data] zki zki₁) (h' : L2Fills nTx coordIdxs (k + 1) states datas zki₁ zki') :
    L2Fills nTx coordIdxs k (p :: states) (data :: datas) zki zki' := by
  rw [L2Fills, h', h]
  simp only [l2Filled, rows_cons, rows_nil, ← fill_cons, List.append_assoc, List.singleton_append]

/-- **One L2 transaction** and its slot. -/
theorem l2Tx_fills {tx tx' : PoolL2Tx} {exit : ExitOut} (hbuilder : s.state.typ ≠ .txSelector)
    (hplan : FeePlan coordIdxs coordIdxsMap zki.feePlanTokens) (hcollects : CollectsFees coordIdxsMap s)
    (hzki : s.zki = some zki) (hprocess : processL2Tx coordIdxsMap tx s = .ok (tx', exit) s₁) (hzki₁ : s₁.zki = some zki₁)
    (hfill : fillL2TxData tx' coordIdxs nTx exit.exitIdx.isNone s₁ zki₁ = .ok zki') :
    ∃ data, tx'.l2Tx.bytesDataAvailability zki.metadata.nLevels = .ok data ∧
      L2Fills nTx coordIdxs s.txIndex [(exit, s₁.rollup)] [data] zki zki' ∧ CollectsFees coordIdxsMap s₁ := by
  obtain ⟨⟨_, hsame, hslots⟩, hfees⟩ := processL2Tx_zki hbuilder hzki hprocess
  rw [hzki₁] at hsame
  cases hsame
  obtain ⟨-, hspec, hkept⟩ := processL2Tx_ok hcollects.ready hprocess
  have hcollects₁ := hfees hcollects (Rollup.l2Tx_evolves _ _ _ _ _ hspec).persists
  have hindex := hkept.txIndex
  have hmetadata := congrArg ZKInputs.metadata hslots
  have hOutIdx := congrArg ZKInputs.isOutIdx hslots
  have hStateRoot := congrArg ZKInputs.isStateRoot hslots
  have hAccFee := congrArg ZKInputs.isAccFeeOut hslots
  have hExitRoot := congrArg ZKInputs.isExitRoot hslots
  have htokens := congrArg ZKInputs.feePlanTokens hslots
  change zki₁.metadata = zki.metadata at hmetadata
  change zki₁.isOutIdx = zki.isOutIdx at hOutIdx
  change zki₁.isStateRoot = zki.isStateRoot at hStateRoot
  change zki₁.isAccFeeOut = zki.isAccFeeOut at hAccFee
  change zki₁.feePlanTokens = zki.feePlanTokens at htokens
  change zki₁.isExitRoot = (if exit.exitAccount.isSome then setIfLt zki.isExitRoot s₁.txIndex s₁.exitRoot
    else zki.isExitRoot) at hExitRoot
  obtain ⟨data, hdata, hfill⟩ := except_bind_ok.mp hfill
  rw [hmetadata] at hdata
  refine ⟨data, hdata, ?_, hcollects₁⟩
  rw [L2Fills]
  simp only [l2Filled, rows_cons, rows_nil, ← hindex]
  split at hfill
  next hlt =>
    obtain ⟨_, hout, hfill⟩ := except_bind_ok.mp hfill
    obtain ⟨_, hstate, hfill⟩ := except_bind_ok.mp hfill
    obtain ⟨_, hfee, hfill⟩ := except_bind_ok.mp hfill
    obtain ⟨roots, hroots, hfill⟩ := except_bind_ok.mp hfill
    cases hfill
    obtain ⟨-, rfl⟩ := setAt_ok hout
    obtain ⟨-, rfl⟩ := setAt_ok hstate
    rw [htokens, formatAccumulatedFees_ok hplan hcollects₁] at hfee
    obtain ⟨-, rfl⟩ := setAt_ok hfee
    have hroots : roots = fill zki.isExitRoot s₁.txIndex [exitRootEntry false (exit, s₁.rollup)] :=
      exitRoots_filled hExitRoot hroots
    simp only [if_pos hlt, fill_singleton, hroots, hOutIdx, hStateRoot, hAccFee, hmetadata, l2ExitRootEntry]
    exact congrArg (fun zki₂ : ZKInputs => { zki₂ with
      metadata := { zki.metadata with l2TxsData := zki.metadata.l2TxsData ++ [data] }
      isOutIdx := zki.isOutIdx.set s₁.txIndex s₁.state.currentIdx
      isStateRoot := zki.isStateRoot.set s₁.txIndex s₁.state.accounts.root
      isAccFeeOut := zki.isAccFeeOut.set s₁.txIndex (feeRow zki.feePlanTokens.length coordIdxs s₁.rollup)
      isExitRoot := fill zki.isExitRoot s₁.txIndex [exitRootEntry false (exit, s₁.rollup)] }) hslots
  next hlt =>
    cases hfill
    simp only [if_neg hlt, fill_none, l2ExitRootEntry, hmetadata]
    have hroots : (if exit.exitAccount.isSome then setIfLt zki.isExitRoot s₁.txIndex s₁.exitRoot else zki.isExitRoot) =
        fill zki.withoutTxData.isExitRoot s₁.txIndex
          [if exit.exitAccount.isSome then some s₁.rollup.exitRoot else none] := by
      split
      · rw [setIfLt_eq_set, fill_singleton, exitRoot_rollup]
        rfl
      · rw [fill_none]
        rfl
    rw [← hroots]
    exact congrArg (fun zki₂ : ZKInputs => { zki₂ with
      metadata := { zki.metadata with l2TxsData := zki.metadata.l2TxsData ++ [data] } }) hslots

/-- What the loop over the L2 transactions does to the circuit inputs. -/
def L2Run (coordIdxsMap : CoordIdxsMap) (coordIdxs : List Nat) (nTx : Nat) (s : TxProcessor) (zki : ZKInputs)
    (txs : List PoolL2Tx) (s' : TxProcessor) : Prop :=
  ∃ zki' data, s'.zki = some zki' ∧ txs.mapM (fun tx => tx.l2Tx.bytesDataAvailability zki.metadata.nLevels) = .ok data ∧
    L2Fills nTx coordIdxs s.txIndex (Spec.trace (Rollup.l2Tx coordIdxsMap) txs s.rollup) data zki zki' ∧
    CollectsFees coordIdxsMap s'

/-- **The L2 transactions** and the circuit inputs. -/
theorem processL2Txs_run {txs txs' : List PoolL2Tx} {exits exits' : List (Option ProcessedExit)}
    (hbuilder : s.state.typ = .batchBuilder) (hplan : FeePlan coordIdxs coordIdxsMap zki.feePlanTokens)
    (hcollects : CollectsFees coordIdxsMap s) (hzki : s.zki = some zki)
    (h : processL2Txs coordIdxsMap coordIdxs nTx txs exits s = .ok (txs', exits') s') :
    L2Run coordIdxsMap coordIdxs nTx s zki txs' s' := by
  induction txs generalizing s zki exits txs' exits' with
  | nil =>
    obtain ⟨heq, rfl⟩ := pure_ok.mp h
    cases heq
    exact ⟨zki, [], hzki, rfl, .nil _ _ _ zki, hcollects⟩
  | cons tx rest ih =>
    obtain ⟨⟨tx', exit⟩, s₁, hprocess, h₁⟩ := bind_ok.mp h
    obtain ⟨_, s₂, hfill, h₂⟩ := bind_ok.mp h₁
    obtain ⟨exits₁, s₃, hclose, h₃⟩ := bind_ok.mp h₂
    obtain ⟨⟨rest', exits₂⟩, s₄, hrest, hret⟩ := bind_ok.mp h₃
    obtain ⟨heq, rfl⟩ := pure_ok.mp hret
    cases heq
    have hbuilder' : s.state.typ ≠ .txSelector := by rw [hbuilder]; simp
    obtain ⟨⟨zki₁, hzki₁, -⟩, -⟩ := processL2Tx_zki hbuilder' hzki hprocess
    obtain ⟨zki', hfilled, rfl⟩ := onZKInputs_some hzki₁ hfill
    obtain ⟨data, hdata, hfills, hcollects₁⟩ := l2Tx_fills hbuilder' hplan hcollects hzki hprocess hzki₁ hfilled
    obtain ⟨-, hspec, hkept⟩ := processL2Tx_ok hcollects.ready hprocess
    have htyp : s₁.state.typ = .batchBuilder := hkept.typ.trans hbuilder
    have hstep : slotStep s₁.state.typ = 1 := by rw [htyp]; rfl
    have hs₃ := closeTx_ok hclose
    subst hs₃
    rw [hstep] at hrest
    have htokens : zki'.feePlanTokens = zki.feePlanTokens := congrArg (fun zki => zki.feePlanTokens) hfills
    have hlevels : zki'.metadata.nLevels = zki.metadata.nLevels := congrArg (fun zki => zki.metadata.nLevels) hfills
    obtain ⟨zki₂, datas, hzki₂, hdatas, hfills₂, hcollects₂⟩ := 
      ih (s := { s₁ with zki := some zki', txIndex := s₁.txIndex + 1 }) htyp (htokens ▸ hplan) hcollects₁ rfl hrest
    refine ⟨zki₂, data :: datas, hzki₂, ?_, ?_, hcollects₂⟩
    · rw [hlevels] at hdatas
      rw [List.mapM_cons, hdata, except_ok_bind, hdatas]
      rfl
    · rw [Spec.trace_cons hspec]
      change L2Fills nTx coordIdxs (s₁.txIndex + 1) _ _ _ _ at hfills₂
      rw [hkept.txIndex] at hfills₂
      exact hfills.cons hfills₂

end L2

structure Sized (n : Nat) (zki : ZKInputs) : Prop where
  isOutIdx : zki.isOutIdx.length = n
  isStateRoot : zki.isStateRoot.length = n
  isAccFeeOut : zki.isAccFeeOut.length = n
  isExitRoot : zki.isExitRoot.length = n

/-- The circuit inputs with the same state in every slot from `k` to the `n`-th one behind it. -/
def tailFilled (coordIdxs : List Nat) (r : Rollup) (k n : Nat) (zki : ZKInputs) : ZKInputs :=
  { zki with
    isOutIdx := fill zki.isOutIdx k (List.replicate n (some r.currentIdx))
    isStateRoot := fill zki.isStateRoot k (List.replicate n (some r.accounts.root))
    isAccFeeOut := fill zki.isAccFeeOut k (List.replicate n (some (feeRow zki.feePlanTokens.length coordIdxs r)))
    isExitRoot := fill zki.isExitRoot k (List.replicate n (some r.exitRoot)) }

def TailFills (coordIdxs : List Nat) (r : Rollup) (k n : Nat) (zki zki' : ZKInputs) : Prop :=
  zki'.withoutTxData = tailFilled coordIdxs r k n zki.withoutTxData

namespace Sized

variable {m : Nat} {zki : ZKInputs}

omit [Libraries] in
theorem of_withoutTxData (h : Sized m zki.withoutTxData) : Sized m zki :=
  ⟨h.1, h.2, h.3, h.4⟩

theorem l1Filled (h : Sized m zki) {states : List ((L1Tx × ExitOut) × Rollup)}
    {data availability : List Bytes} {lastIdx : Nat} : Sized m (l1Filled always k states data availability lastIdx zki) :=
  ⟨(length_fill _ _ _).trans h.1, (length_fill _ _ _).trans h.2, h.3, (length_fill _ _ _).trans h.4⟩

theorem l2Filled (h : Sized m zki) {nTx : Nat} {coordIdxs : List Nat} {states : List (ExitOut × Rollup)}
    {data : List Bytes} : Sized m (l2Filled nTx coordIdxs k states data zki) :=
  ⟨(length_fill _ _ _).trans h.1, (length_fill _ _ _).trans h.2, (length_fill _ _ _).trans h.3, (length_fill _ _ _).trans h.4⟩

theorem tailFilled (h : Sized m zki) {coordIdxs : List Nat} {r : Rollup} {n : Nat} :
    Sized m (tailFilled coordIdxs r k n zki.withoutTxData) :=
  ⟨(length_fill _ _ _).trans h.1, (length_fill _ _ _).trans h.2, (length_fill _ _ _).trans h.3, (length_fill _ _ _).trans h.4⟩

end Sized

section Tail

variable {s s' : TxProcessor} {zki zki₁ zki' : ZKInputs} {coordIdxs : List Nat} {coordIdxsMap : CoordIdxsMap}

theorem TailFills.zero (coordIdxs : List Nat) (r : Rollup) (k : Nat) (zki : ZKInputs) : TailFills coordIdxs r k 0 zki zki := by
  simp [TailFills, tailFilled, ZKInputs.withoutTxData]

theorem TailFills.succ {r : Rollup} {n : Nat} (h : TailFills coordIdxs r k 1 zki zki₁)
    (h' : TailFills coordIdxs r (k + 1) n zki₁ zki') : TailFills coordIdxs r k (n + 1) zki zki' := by
  rw [TailFills, h', h]
  simp only [tailFilled, List.replicate_succ, List.replicate_zero, ← fill_cons]

theorem TailFills.sized {r : Rollup} {n m : Nat} (h : TailFills coordIdxs r k n zki zki') (hsized : Sized m zki) :
    Sized m zki' :=
  Sized.of_withoutTxData (h ▸ hsized.tailFilled)

theorem fillEmptySlot_fills (hplan : FeePlan coordIdxs coordIdxsMap zki.feePlanTokens)
    (hcollects : CollectsFees coordIdxsMap s) (hsized : Sized (s.config.maxTx - 1) zki) {i : Nat} (h : fillEmptySlot coordIdxs s zki i = .ok zki') :
    TailFills coordIdxs s.rollup i 1 zki zki' := by
  obtain ⟨zki₁, hstates, h⟩ := except_bind_ok.mp h
  have hdata : zki'.withoutTxData = zki₁.withoutTxData := by
    split at h
    · obtain ⟨_, -, hret⟩ := except_bind_ok.mp h
      cases hret
      rfl
    · cases h
      rfl
  rw [TailFills, hdata]
  simp only [tailFilled, List.replicate_one, fill_singleton]
  rw [fillEmptyState] at hstates
  split at hstates
  next hlt =>
    obtain ⟨_, hout, hstates⟩ := except_bind_ok.mp hstates
    obtain ⟨_, hstate, hstates⟩ := except_bind_ok.mp hstates
    obtain ⟨_, hfee, hstates⟩ := except_bind_ok.mp hstates
    obtain ⟨_, hexit, hstates⟩ := except_bind_ok.mp hstates
    cases hstates
    obtain ⟨-, rfl⟩ := setAt_ok hout
    obtain ⟨-, rfl⟩ := setAt_ok hstate
    rw [formatAccumulatedFees_ok hplan hcollects] at hfee
    obtain ⟨-, rfl⟩ := setAt_ok hfee
    obtain ⟨-, rfl⟩ := setAt_ok hexit
    rfl
  next hlt =>
    cases hstates
    have hle : ∀ {α : Type} {xs : List α}, xs.length = s.config.maxTx - 1 → xs.length ≤ i := by
      intro α xs hlength
      omega
    have hsized : Sized (s.config.maxTx - 1) zki.withoutTxData := ⟨hsized.1, hsized.2, hsized.3, hsized.4⟩
    rw [List.set_eq_of_length_le (hle hsized.isOutIdx), List.set_eq_of_length_le (hle hsized.isStateRoot),
      List.set_eq_of_length_le (hle hsized.isAccFeeOut), List.set_eq_of_length_le (hle hsized.isExitRoot)]

theorem fillEmptySlots_fold (hcollects : CollectsFees coordIdxsMap s) {n : Nat}
    (hplan : FeePlan coordIdxs coordIdxsMap zki.feePlanTokens) (hsized : Sized (s.config.maxTx - 1) zki)
    (h : (List.range' k n).foldlM (fillEmptySlot coordIdxs s) zki = .ok zki') :
    TailFills coordIdxs s.rollup k n zki zki' := by
  induction n generalizing k zki with
  | zero =>
    cases h
    exact .zero _ _ _ _
  | succ n ih =>
    rw [List.range'_succ, List.foldlM_cons] at h
    obtain ⟨zki₁, hslot, hrest⟩ := except_bind_ok.mp h
    have hfirst := fillEmptySlot_fills hplan hcollects hsized hslot
    have htokens : zki₁.feePlanTokens = zki.feePlanTokens := congrArg (fun zki => zki.feePlanTokens) hfirst
    exact hfirst.succ (ih (htokens ▸ hplan) (hfirst.sized hsized) hrest)

end Tail

end TxProcessor

end HermezRollup
