import HermezRollup.CoordIdxs
import HermezRollup.Refinement

/-! `ProcessTxs` carries out the batch that `Rollup.batch` describes, in each mode.  The loops of the
processor are followed transaction by transaction; what they add is the index of the transaction, a slot
for every exit and the receivers of L2 transactions that name none. -/

namespace HermezRollup

open Bytes Fallible Simulation

namespace TxProcessor

/-- What the loops over transactions keep: everything but the index of the transaction. -/
def LoopKept (s s' : TxProcessor) : Prop :=
  Kept { s with txIndex := s'.txIndex } s'

theorem LoopKept.refl (s : TxProcessor) : LoopKept s s :=
  Kept.refl s

theorem LoopKept.trans {s s' s'' : TxProcessor} (h : LoopKept s s') (h' : LoopKept s' s'') : LoopKept s s'' :=
  ⟨h'.config.trans h.config, h'.typ.trans h.typ, h'.checkpoints.trans h.checkpoints, rfl, h'.shape.trans h.shape,
    fun tokenID => (h'.collected tokenID).trans (h.collected tokenID), fun idx hidx => h'.owed idx (h.owed idx hidx)⟩

theorem Kept.loopKept {s s' : TxProcessor} (h : Kept s s') : LoopKept s s' :=
  ⟨h.config, h.typ, h.checkpoints, rfl, h.shape, h.collected, h.owed⟩

theorem loopKept_txIndex (s : TxProcessor) (i : Nat) : LoopKept s { s with txIndex := i } :=
  ⟨rfl, rfl, rfl, rfl, rfl, fun _ => rfl, fun _ h => h⟩

theorem loopKept_zki {s : TxProcessor} {zki : Option ZKInputs}
    (hshape : zki.map ZKInputs.shape = s.zki.map ZKInputs.shape) : LoopKept s { s with zki } :=
  (kept_zki hshape).loopKept

def slotStep (typ : TypeStateDB) : Nat :=
  if keepsExits typ then 1 else 0

def recordOf (exit : ExitOut) : Option ProcessedExit :=
  match exit.exitIdx, exit.exitAccount with
  | some idx, some acc => some { newExit := exit.newExit, idx, acc }
  | _, _ => none

section Slots

variable {s s' : TxProcessor} {exits exits' : List (Option ProcessedExit)} {exit : ExitOut}

theorem closeTx_ok (h : closeTx exits exit s = .ok exits' s') :
    s' = { s with txIndex := s.txIndex + slotStep s.state.typ } := by
  rw [closeTx, bind_of_ok (get_run s)] at h
  by_cases htyp : keepsExits s.state.typ
  · rw [if_pos htyp] at h
    obtain ⟨_, _, hrecord, h₁⟩ := bind_ok.mp h
    obtain ⟨-, rfl⟩ := fromState_ok.mp hrecord
    obtain ⟨-, rfl⟩ := pure_ok.mp h₁
    rw [slotStep, if_pos htyp]
  · rw [if_neg htyp] at h
    obtain ⟨-, rfl⟩ := pure_ok.mp h
    rw [slotStep, if_neg htyp, Nat.add_zero]

theorem closeTx_records (htyp : keepsExits s.state.typ = true) (htree : s.exitTree.isSome = true)
    {done : List (Option ProcessedExit)} {k : Nat} (hexits : exits = done ++ List.replicate (k + 1) none)
    (hdone : done.length = s.txIndex) (h : closeTx exits exit s = .ok exits' s') :
    exits' = (done ++ [recordOf exit]) ++ List.replicate k none := by
  rw [closeTx, bind_of_ok (get_run s), if_pos htyp] at h
  obtain ⟨_, t, hread, h₁⟩ := bind_ok.mp h
  obtain ⟨hrecord, rfl⟩ := fromState_ok.mp hread
  obtain ⟨rfl, -⟩ := pure_ok.mp h₁
  obtain ⟨tree, htree⟩ := Option.isSome_iff_exists.mp htree
  have hsplit : done ++ List.replicate (k + 1) none = done ++ none :: List.replicate k none := by
    rw [List.replicate_succ]
  have hset : ∀ record, (done ++ none :: List.replicate k none).set t.txIndex (some record) =
      (done ++ [some record]) ++ List.replicate k (none : Option ProcessedExit) := by
    intro record
    rw [← hdone, List.set_append_right _ _ (Nat.le_refl _), Nat.sub_self, List.set_cons_zero]
    simp
  rw [recordExit, htree] at hrecord
  cases hidx : exit.exitIdx with
  | none =>
    simp only [hidx] at hrecord
    cases hrecord
    simp [recordOf, hidx, hexits, hsplit]
  | some idx =>
    cases hacc : exit.exitAccount with
    | none =>
      simp only [hidx, hacc] at hrecord
      cases hrecord
      simp [recordOf, hidx, hacc, hexits, hsplit]
    | some acc =>
      simp only [hidx, hacc] at hrecord
      rw [setAt, if_pos (by rw [hexits, List.length_append, List.length_replicate]; omega)] at hrecord
      cases hrecord
      rw [recordOf, hidx, hacc, hexits, hsplit]
      exact hset _

end Slots

section Loops

variable {s s' : TxProcessor}

theorem fillExitRootAfter_length {withExitRoot : Bool} {zki : ZKInputs} {roots : List Nat} [Libraries]
    (h : fillExitRootAfter withExitRoot s zki = .ok roots) : roots.length = zki.isExitRoot.length := by
  rw [fillExitRootAfter] at h
  split at h
  · exact setAt_length h
  · cases h
    rfl

theorem fillL1TxData_shape [Libraries] {tx : L1Tx} {withExitRoot : Bool} {zki zki' : ZKInputs}
    (h : fillL1TxData tx withExitRoot s zki = .ok zki') : zki'.shape = zki.shape := by
  obtain ⟨_, -, h⟩ := except_bind_ok.mp h
  obtain ⟨_, -, h⟩ := except_bind_ok.mp h
  obtain ⟨_, hout, h⟩ := except_bind_ok.mp h
  obtain ⟨_, hstate, h⟩ := except_bind_ok.mp h
  obtain ⟨_, hexit, h⟩ := except_bind_ok.mp h
  cases h
  simp only [ZKInputs.shape, setAt_length hout, setAt_length hstate, fillExitRootAfter_length hexit]

theorem fillL2TxData_shape [Libraries] {tx : PoolL2Tx} {coordIdxs : List Nat} {nTx : Nat} {withExitRoot : Bool}
    {zki zki' : ZKInputs} (h : fillL2TxData tx coordIdxs nTx withExitRoot s zki = .ok zki') : zki'.shape = zki.shape := by
  obtain ⟨_, -, h⟩ := except_bind_ok.mp h
  dsimp only at h
  split at h
  · obtain ⟨_, hout, h⟩ := except_bind_ok.mp h
    obtain ⟨_, hstate, h⟩ := except_bind_ok.mp h
    obtain ⟨_, hfees, h⟩ := except_bind_ok.mp h
    obtain ⟨_, hexit, h⟩ := except_bind_ok.mp h
    cases h
    simp only [ZKInputs.shape, setAt_length hout, setAt_length hstate, setAt_length hfees,
      fillExitRootAfter_length hexit]
  · cases h
    rfl

theorem closeCoordinatorTx_eq (s : TxProcessor) :
    closeCoordinatorTx s = { s with txIndex := s.txIndex + if s.zki.isSome then 1 else 0 } := by
  rw [closeCoordinatorTx]
  split <;> rfl

/-- A transaction as the processor returns it, apart from the index that only the synchronizer sets. -/
def withoutEffectiveFromIdx (tx : L1Tx) : L1Tx :=
  { tx with effectiveFromIdx := 0 }

theorem eq_of_withoutEffectiveFromIdx {β : Type} {f : List L1Tx → β}
    (hf : ∀ txs, f (txs.map withoutEffectiveFromIdx) = f txs) {txs txs' : List L1Tx}
    (h : txs.map withoutEffectiveFromIdx = txs'.map withoutEffectiveFromIdx) : f txs = f txs' := by
  rw [← hf txs, h, hf]

theorem withoutEffectiveFromIdx_set (typ : TypeStateDB) (out : L1TxOut) :
    withoutEffectiveFromIdx (setEffectiveFromIdx typ out) = withoutEffectiveFromIdx out.tx := by
  rw [setEffectiveFromIdx]
  split <;> rfl

def Records (s : TxProcessor) (exits : List (Option ProcessedExit)) (outs : List ExitOut)
    (exits' : List (Option ProcessedExit)) : Prop :=
  keepsExits s.state.typ = true → s.exitTree.isSome = true → ∀ done k,
    exits = done ++ List.replicate (outs.length + k) none → done.length = s.txIndex →
    exits' = (done ++ outs.map recordOf) ++ List.replicate k none

theorem Records.nil (s : TxProcessor) (exits : List (Option ProcessedExit)) : Records s exits [] exits := by
  intro _ _ done k hexits _
  simpa using hexits

variable {exits : List (Option ProcessedExit)}

theorem Records.cons (s₁ : TxProcessor) {exits₁ exits' : List (Option ProcessedExit)} {out : ExitOut}
    {outs : List ExitOut} (htyp : s₁.state.typ = s.state.typ) (htree : s₁.exitTree.isSome = s.exitTree.isSome)
    (hindex : s₁.txIndex = s.txIndex) {s₂ : TxProcessor} (hclose : closeTx exits out s₁ = .ok exits₁ s₂)
    (h : Records s₂ exits₁ outs exits') : Records s exits (out :: outs) exits' := by
  intro hkeeps hexits done k hslots hdone
  have hs₂ := closeTx_ok hclose
  rw [← htyp] at hkeeps
  rw [← htree] at hexits
  have hslots' : exits = done ++ List.replicate (outs.length + k + 1) none := by
    rw [hslots, List.length_cons, Nat.add_right_comm]
  have hexits₁ := closeTx_records hkeeps hexits hslots' (hdone.trans hindex.symm) hclose
  have hdone₁ : (done ++ [recordOf out]).length = s₂.txIndex := by
    rw [hs₂, List.length_append, List.length_singleton, hdone, slotStep, if_pos hkeeps, hindex]
  subst hs₂
  rw [h hkeeps hexits _ k hexits₁ hdone₁, List.map_cons, List.append_assoc done, List.singleton_append]

variable [Libraries]

/-- **The transactions of users**: each one is processed as specified, and its exit recorded. -/
theorem processL1UserTxs_ok {txs : List L1Tx} {outs : L1TxsOut} (h : processL1UserTxs txs exits s = .ok outs s') :
    ∃ os, Spec.forEach Rollup.l1Tx txs s.rollup = some (os, s'.rollup) ∧ LoopKept s s' ∧
      s'.txIndex = s.txIndex + txs.length * slotStep s.state.typ ∧
      outs.txs.map withoutEffectiveFromIdx = os.map (fun o => withoutEffectiveFromIdx o.1) ∧
      Records s exits (os.map Prod.snd) outs.exits := by
  induction txs generalizing s exits outs with
  | nil =>
    obtain ⟨rfl, rfl⟩ := pure_ok.mp h
    exact ⟨[], rfl, .refl _, by simp, rfl, .nil _ _⟩
  | cons tx rest ih =>
    obtain ⟨out, s₁, hprocess, h₁⟩ := bind_ok.mp h
    obtain ⟨_, s₂, hfill, h₂⟩ := bind_ok.mp h₁
    obtain ⟨exits₁, s₃, hclose, h₃⟩ := bind_ok.mp h₂
    obtain ⟨_, _, hget, h₄⟩ := bind_ok.mp h₃
    cases hget
    obtain ⟨outs₁, s₄, hrest, hret⟩ := bind_ok.mp h₄
    obtain ⟨rfl, rfl⟩ := pure_ok.mp hret
    obtain ⟨hspec, hkept⟩ := processL1Tx_ok hprocess
    obtain ⟨zki, rfl, hshape⟩ := onZKInputs_ok (fun _ _ => fillL1TxData_shape) hfill
    have hs₃ := closeTx_ok hclose
    obtain ⟨os, hspecs, hkepts, hindex, htxs, hrecords⟩ := ih hrest
    subst hs₃
    refine ⟨(out.tx, out.exit) :: os, Spec.forEach_cons_some.mpr ⟨_, _, os, hspec, hspecs, rfl⟩, ?_, ?_, ?_, ?_⟩
    · exact hkept.loopKept.trans ((loopKept_zki hshape).trans ((loopKept_txIndex _ _).trans hkepts))
    · rw [hindex, List.length_cons]
      show s₁.txIndex + slotStep s₁.state.typ + rest.length * slotStep s₁.state.typ = _
      rw [hkept.txIndex, hkept.typ]
      ring
    · simp only [List.map_cons, withoutEffectiveFromIdx_set, htxs]
    · exact .cons { s₁ with zki } hkept.typ (Rollup.l1Tx_evolves tx _ _ _ hspec).exits hkept.txIndex hclose hrecords

/-- **The transactions of the coordinator**: each one is processed as specified. -/
theorem processL1CoordinatorTxs_ok {txs txs' : List L1Tx} {accs : List Account}
    (h : processL1CoordinatorTxs txs s = .ok (txs', accs) s') :
    ∃ os, Spec.forEach Rollup.l1Tx txs s.rollup = some (os, s'.rollup) ∧ LoopKept s s' ∧
      s'.txIndex = s.txIndex + txs.length * (if s.zki.isSome then 1 else 0) ∧
      txs'.map withoutEffectiveFromIdx = os.map (fun o => withoutEffectiveFromIdx o.1) := by
  induction txs generalizing s txs' accs with
  | nil =>
    obtain ⟨heq, rfl⟩ := pure_ok.mp h
    cases heq
    exact ⟨[], rfl, .refl _, by simp, rfl⟩
  | cons tx rest ih =>
    obtain ⟨out, s₁, hprocess, h₁⟩ := bind_ok.mp h
    obtain ⟨_, s₂, hfill, h₂⟩ := bind_ok.mp h₁
    obtain ⟨_, s₃, hmodify, h₃⟩ := bind_ok.mp h₂
    cases hmodify
    obtain ⟨_, _, hget, h₄⟩ := bind_ok.mp h₃
    cases hget
    obtain ⟨⟨txs₁, accs₁⟩, s₄, hrest, hret⟩ := bind_ok.mp h₄
    obtain ⟨heq, rfl⟩ := pure_ok.mp hret
    cases heq
    obtain ⟨hspec, hkept⟩ := processL1Tx_ok hprocess
    obtain ⟨zki, rfl, hshape⟩ := onZKInputs_ok (fun _ _ => fillL1TxData_shape) hfill
    obtain ⟨os, hspecs, hkepts, hindex, htxs⟩ := ih hrest
    have hsome : zki.isSome = s.zki.isSome := by
      rw [← Option.isSome_map (f := ZKInputs.shape), ← Option.isSome_map (f := ZKInputs.shape) (x := s.zki), hshape,
        hkept.shape]
    rw [closeCoordinatorTx_eq] at hspecs hkepts hindex
    refine ⟨(out.tx, out.exit) :: os, Spec.forEach_cons_some.mpr ⟨_, _, os, hspec, hspecs, rfl⟩, ?_, ?_, ?_⟩
    · exact hkept.loopKept.trans ((loopKept_zki hshape).trans ((loopKept_txIndex _ _).trans hkepts))
    · rw [hindex, List.length_cons]
      show s₁.txIndex + (if zki.isSome then 1 else 0) + rest.length * (if zki.isSome then 1 else 0) = _
      rw [hkept.txIndex, hsome]
      ring
    · simp only [List.map_cons, withoutEffectiveFromIdx_set, htxs]

omit [Libraries] in
/-- What the processor fills in of an L2 transaction: the receiver, where none was named, and for the
synchronizer what it reads from the sender. -/
structure FilledIn (typ : TypeStateDB) (tx tx' : PoolL2Tx) : Prop where
  eq : tx' = { tx with auxToIdx := tx'.auxToIdx, nonce := tx'.nonce, tokenID := tx'.tokenID }
  auxToIdx : ¬(tx.toIdx = 0 ∧ tx.auxToIdx = 0) → tx'.auxToIdx = tx.auxToIdx
  sender : typ ≠ .synchronizer → tx'.nonce = tx.nonce ∧ tx'.tokenID = tx.tokenID

omit [Libraries] in
theorem filledIn_of_completes {state : StateDB} {tx tx₁ tx' : PoolL2Tx} (hfinds : Finds state tx tx₁)
    (hcompletes : Completes state tx₁ tx') : FilledIn state.typ tx tx' := by
  have htx₁ : tx₁ = { tx with auxToIdx := tx₁.auxToIdx } ∧
      (¬(tx.toIdx = 0 ∧ tx.auxToIdx = 0) → tx₁.auxToIdx = tx.auxToIdx) := by
    rw [Finds] at hfinds
    split at hfinds
    next hzero =>
      obtain ⟨-, acc, aux, -, -, rfl⟩ := hfinds
      exact ⟨rfl, fun h => absurd hzero h⟩
    next =>
      subst hfinds
      exact ⟨rfl, fun _ => rfl⟩
  rw [Completes] at hcompletes
  split at hcompletes
  next htyp =>
    obtain ⟨acc, -, rfl⟩ := hcompletes
    refine ⟨?_, htx₁.2, fun h => absurd htyp h⟩
    rw [htx₁.1]
  next =>
    subst hcompletes
    refine ⟨?_, htx₁.2, fun _ => ?_⟩
    · rw [htx₁.1]
    · rw [htx₁.1]
      exact ⟨rfl, rfl⟩

omit [Libraries] in
theorem filledIn_amounts {typ : TypeStateDB} {txs txs' : List PoolL2Tx} (h : List.Forall₂ (FilledIn typ) txs txs')
    (hamounts : ∀ tx ∈ txs, 0 ≤ tx.amount) : ∀ tx ∈ txs', 0 ≤ tx.amount := by
  intro tx' htx'
  obtain ⟨tx, htx, hfilled⟩ := forall₂_of_mem_right h htx'
  rw [hfilled.eq]
  exact hamounts tx htx

/-- **The L2 transactions**: each one is processed as specified, with the receiver that was found. -/
theorem processL2Txs_ok {coordIdxsMap : CoordIdxsMap} (hready : FeesReady coordIdxsMap s) {coordIdxs : List Nat}
    {nTx : Nat} {txs txs' : List PoolL2Tx} {exits' : List (Option ProcessedExit)}
    (h : processL2Txs coordIdxsMap coordIdxs nTx txs exits s = .ok (txs', exits') s') :
    ∃ os, Spec.forEach (Rollup.l2Tx coordIdxsMap) txs' s.rollup = some (os, s'.rollup) ∧ LoopKept s s' ∧
      s'.txIndex = s.txIndex + txs.length * slotStep s.state.typ ∧
      List.Forall₂ (FilledIn s.state.typ) txs txs' ∧ Records s exits os exits' := by
  induction txs generalizing s exits txs' exits' with
  | nil =>
    obtain ⟨heq, rfl⟩ := pure_ok.mp h
    cases heq
    exact ⟨[], rfl, .refl _, by simp, .nil, .nil _ _⟩
  | cons tx rest ih =>
    obtain ⟨⟨tx₁, exit⟩, s₁, hprocess, h₁⟩ := bind_ok.mp h
    obtain ⟨_, s₂, hfill, h₂⟩ := bind_ok.mp h₁
    obtain ⟨exits₁, s₃, hclose, h₃⟩ := bind_ok.mp h₂
    obtain ⟨⟨txs₁, exits₂⟩, s₄, hrest, hret⟩ := bind_ok.mp h₃
    obtain ⟨heq, rfl⟩ := pure_ok.mp hret
    cases heq
    obtain ⟨⟨tx₀, hfinds, hcompletes⟩, hspec, hkept⟩ := processL2Tx_ok hready hprocess
    obtain ⟨zki, rfl, hshape⟩ := onZKInputs_ok (fun _ _ => fillL2TxData_shape) hfill
    have hevolves := Rollup.l2Tx_evolves coordIdxsMap tx₁ _ _ _ hspec
    have hs₃ := closeTx_ok hclose
    have hready₁ := hready.kept hkept hevolves
    have hready₃ : FeesReady coordIdxsMap s₃ := by
      rw [hs₃]
      exact hready₁
    obtain ⟨os, hspecs, hkepts, hindex, htxs, hrecords⟩ := ih hready₃ hrest
    subst hs₃
    refine ⟨exit :: os, Spec.forEach_cons_some.mpr ⟨_, _, os, hspec, hspecs, rfl⟩, ?_, ?_, ?_, ?_⟩
    · exact hkept.loopKept.trans ((loopKept_zki hshape).trans ((loopKept_txIndex _ _).trans hkepts))
    · rw [hindex, List.length_cons]
      show s₁.txIndex + slotStep s₁.state.typ + rest.length * slotStep s₁.state.typ = _
      rw [hkept.txIndex, hkept.typ]
      ring
    · refine .cons (filledIn_of_completes hfinds hcompletes) ?_
      rw [← hkept.typ]
      exact htxs
    · exact .cons { s₁ with zki } hkept.typ hevolves.exits hkept.txIndex hclose hrecords

theorem fillStateRootFee_shape {indexFee : Nat} {zki zki' : ZKInputs}
    (h : fillStateRootFee indexFee s zki = .ok zki') : zki'.shape = zki.shape := by
  cases h
  simp only [ZKInputs.shape, setIfLt]
  split <;> simp

omit [Libraries] in
theorem accumulatedFee_ok {idx : Nat} {fee : Int} (h : accumulatedFee idx s = .ok fee) : s.rollup.fees idx = fee := by
  rw [accumulatedFee] at h
  show (s.accumulatedFees.lookup idx).getD 0 = fee
  cases hlookup : s.accumulatedFees.lookup idx with
  | none => rw [hlookup] at h; cases h
  | some owed => rw [hlookup] at h; exact Except.ok.inj h

theorem distributeFee_ok {indexFee idx : Nat} {u : Unit} (h : distributeFee indexFee idx s = .ok u s') :
    Rollup.payFee idx s.rollup = some ((), s'.rollup) ∧ Kept s s' := by
  obtain ⟨fee, s₁, hread, h₁⟩ := bind_ok.mp h
  obtain ⟨acc, s₂, hget, h₂⟩ := bind_ok.mp h₁
  obtain ⟨_, s₃, hupdate, hfill⟩ := bind_ok.mp h₂
  obtain ⟨hfee, rfl⟩ := fromState_ok.mp hread
  obtain ⟨hacc, rfl⟩ := fromState_ok.mp hget
  obtain ⟨hput, hkept⟩ := (updateAccount_meets idx _).refines _ _ hupdate
  obtain ⟨zki, rfl, hshape⟩ := onZKInputs_ok (fun _ _ => fillStateRootFee_shape) hfill
  refine ⟨?_, hkept.trans (kept_zki hshape)⟩
  rw [Rollup.payFee, Spec.bind_of_some (Spec.get_run _), accumulatedFee_ok hfee, Rollup.give,
    Spec.bind_of_some (Rollup.account_some.mpr ⟨hacc, rfl⟩)]
  exact hput

/-- **The fees**: each coordinator account gets what it is owed. -/
theorem distributeFees_ok {indexFee : Nat} {coordIdxs : List Nat} {u : Unit}
    (h : distributeFees indexFee coordIdxs s = .ok u s') :
    (∃ os, Spec.forEach Rollup.payFee coordIdxs s.rollup = some (os, s'.rollup)) ∧ Kept s s' := by
  induction coordIdxs generalizing s indexFee with
  | nil =>
    obtain ⟨-, rfl⟩ := pure_ok.mp h
    exact ⟨⟨[], rfl⟩, .refl _⟩
  | cons idx rest ih =>
    obtain ⟨_, s₁, hpay, hrest⟩ := bind_ok.mp h
    obtain ⟨hspec, hkept⟩ := distributeFee_ok hpay
    obtain ⟨⟨os, hspecs⟩, hkepts⟩ := ih hrest
    exact ⟨⟨() :: os, Spec.forEach_cons_some.mpr ⟨_, _, os, hspec, hspecs, rfl⟩⟩, hkept.trans hkepts⟩

end Loops

section Batch

variable {s s' : TxProcessor}

theorem onZKInputs_zki {fill : TxProcessor → ZKInputs → Except Err ZKInputs} {u : Unit}
    (h : onZKInputs fill s = .ok u s') : ∃ zki, s' = { s with zki } := by
  rw [onZKInputs] at h
  cases hzki : s.zki with
  | none =>
    rw [hzki] at h
    cases h
    exact ⟨none, by rw [← hzki]⟩
  | some zki =>
    simp only [hzki] at h
    cases hfill : fill s zki with
    | error e => rw [hfill] at h; cases h
    | ok zki' =>
      rw [hfill] at h
      cases h
      exact ⟨some zki', rfl⟩

variable [Libraries]

theorem batchOutput_txs (s : TxProcessor) (out : ProcessTxOutput) (exits : List (Option ProcessedExit)) :
    (s.batchOutput out exits).l1UserTxs = out.l1UserTxs ∧
      (s.batchOutput out exits).l1CoordinatorTxs = out.l1CoordinatorTxs ∧
      (s.batchOutput out exits).l2Txs = out.l2Txs := by
  rw [batchOutput]
  cases s.state.typ <;> exact ⟨rfl, rfl, rfl⟩

omit [Libraries] in
theorem startFees_rollup (coordIdxs : List Nat) (coordIdxsMap : CoordIdxsMap) :
    (startFees coordIdxs coordIdxsMap s).rollup = { s.rollup with fees := fun _ => 0 } := by
  have hzero : ∀ (idxs : List Nat) (fees : Finmap fun _ : Nat => Int), (∀ idx, (fees.lookup idx).getD 0 = 0) →
      ∀ idx, ((idxs.foldl (fun fees idx => fees.insert idx 0) fees).lookup idx).getD 0 = 0 := by
    intro idxs
    induction idxs with
    | nil => exact fun _ h => h
    | cons i rest ih =>
      intro fees hfees
      refine ih _ fun idx => ?_
      by_cases heq : idx = i
      · subst heq
        rw [Finmap.lookup_insert]
        rfl
      · rw [Finmap.lookup_insert_of_ne _ heq]
        exact hfees idx
  rw [rollup, Rollup.mk.injEq]
  exact ⟨rfl, rfl, funext (hzero coordIdxs ∅ fun idx => by rw [Finmap.lookup_empty]; rfl)⟩

omit [Libraries] in
theorem startFees_ready {coordIdxs : List Nat} {coordIdxsMap : CoordIdxsMap}
    (hplan : CoordPlan s.state.toStore coordIdxs coordIdxsMap) :
    FeesReady coordIdxsMap (startFees coordIdxs coordIdxsMap s) := by
  by_cases htyp : s.state.typ = .txSelector
  · exact Or.inl htyp
  · refine Or.inr fun tokenID idx hlookup => ?_
    obtain ⟨-, acc, hacc, htoken⟩ := (hplan.lookup_iff tokenID idx).mp hlookup
    have hkeeps : keepsExits s.state.typ = true := by
      cases hcase : s.state.typ with
      | txSelector => exact absurd hcase htyp
      | synchronizer => rfl
      | batchBuilder => rfl
    refine ⟨acc, hacc, ?_⟩
    show (if keepsExits s.state.typ ∧ acc.tokenID ∈ coordIdxsMap then some 0 else none).isSome = true
    rw [if_pos ⟨hkeeps, htoken ▸ Finmap.mem_of_lookup_eq_some hlookup⟩]
    rfl

/-- The parts of a batch, with the states between them. -/
structure BatchRun (coordIdxs : List Nat) (l1UserTxs l1CoordinatorTxs : List L1Tx) (l2Txs : List PoolL2Tx)
    (s : TxProcessor) (out : ProcessTxOutput) (s' : TxProcessor) where
  users : L1TxsOut
  coordinatorTxs : List L1Tx
  createdAccounts : List Account
  idxs : List Nat
  map : CoordIdxsMap
  txs : List PoolL2Tx
  exits : List (Option ProcessedExit)
  (s₁ s₂ s₃ s₄ s₅ s₆ : TxProcessor)
  husers : processL1UserTxs l1UserTxs
    (List.replicate (l1UserTxs.length + l1CoordinatorTxs.length + l2Txs.length) none) s = .ok users s₁
  hcoordinators : processL1CoordinatorTxs l1CoordinatorTxs s₁ = .ok (coordinatorTxs, createdAccounts) s₂
  hfilter : filterCoordIdxs s₂.state.toStore coordIdxs [] = .ok idxs
  hmap : s₂.state.getTokenIDsFromIdxs idxs = .ok map
  hplan : onZKInputs (fillFeePlan idxs) (startFees idxs map s₂) = .ok () s₃
  hl2 : processL2Txs map idxs (l1UserTxs.length + l1CoordinatorTxs.length + l2Txs.length) l2Txs users.exits s₃ =
    .ok (txs, exits) s₄
  hempty : onZKInputs (fillEmptySlots idxs) s₄ = .ok () s₅
  hfees : distributeFees 0 idxs s₅ = .ok () s₆
  hfilled : onZKInputs (fillFees idxs) s₆ = .ok () s'
  hout : out = s'.batchOutput
    { createdAccounts := users.createdAccounts ++ createdAccounts, coordinatorIdxsMap := map
      l1UserTxs := users.txs, l1CoordinatorTxs := coordinatorTxs, l2Txs := txs } exits

theorem processBatch_run {coordIdxs : List Nat} {l1UserTxs l1CoordinatorTxs : List L1Tx} {l2Txs : List PoolL2Tx}
    {out : ProcessTxOutput} (h : processBatch coordIdxs l1UserTxs l1CoordinatorTxs l2Txs s = .ok out s') :
    Nonempty (BatchRun coordIdxs l1UserTxs l1CoordinatorTxs l2Txs s out s') := by
  obtain ⟨users, s₁, husers, h₁⟩ := bind_ok.mp h
  obtain ⟨⟨coordinatorTxs, createdAccounts⟩, s₂, hcoordinators, h₂⟩ := bind_ok.mp h₁
  obtain ⟨idxs, t, hreadIdxs, h₃⟩ := bind_ok.mp h₂
  obtain ⟨hfilter, rfl⟩ := fromState_ok.mp hreadIdxs
  obtain ⟨map, t', hreadMap, h₄⟩ := bind_ok.mp h₃
  obtain ⟨hmap, rfl⟩ := fromState_ok.mp hreadMap
  obtain ⟨_, _, hstart, h₅⟩ := bind_ok.mp h₄
  cases hstart
  obtain ⟨_, s₃, hplan, h₆⟩ := bind_ok.mp h₅
  obtain ⟨⟨txs, exits⟩, s₄, hl2, h₇⟩ := bind_ok.mp h₆
  obtain ⟨_, s₅, hempty, h₈⟩ := bind_ok.mp h₇
  obtain ⟨_, s₆, hfees, h₉⟩ := bind_ok.mp h₈
  obtain ⟨_, s₇, hfilled, h₁₀⟩ := bind_ok.mp h₉
  obtain ⟨_, _, hget, hret⟩ := bind_ok.mp h₁₀
  cases hget
  obtain ⟨rfl, rfl⟩ := pure_ok.mp hret
  exact ⟨⟨users, coordinatorTxs, createdAccounts, idxs, map, txs, exits, s₁, t', s₃, s₄, s₅, s₆, husers, hcoordinators,
    hfilter, hmap, hplan, hl2, hempty, hfees, hfilled, rfl⟩⟩

/-- **A batch**, whatever the mode: a successful run is the run of the specification. -/
theorem processBatch_ok {coordIdxs : List Nat} {l1UserTxs l1CoordinatorTxs : List L1Tx} {l2Txs : List PoolL2Tx}
    {out : ProcessTxOutput} (h : processBatch coordIdxs l1UserTxs l1CoordinatorTxs l2Txs s = .ok out s') :
    ∃ bout, Rollup.batch coordIdxs l1UserTxs l1CoordinatorTxs out.l2Txs s.rollup = some (bout, s'.rollup) ∧
      (s'.config = s.config ∧ s'.state.typ = s.state.typ ∧ s'.state.checkpoints = s.state.checkpoints) ∧
      out.l1UserTxs.map withoutEffectiveFromIdx = bout.users.map (fun o => withoutEffectiveFromIdx o.1) ∧
      out.l1CoordinatorTxs.map withoutEffectiveFromIdx = bout.coordinators.map (fun o => withoutEffectiveFromIdx o.1) ∧
      List.Forall₂ (FilledIn s.state.typ) l2Txs out.l2Txs ∧
      (s.state.typ = .synchronizer → s.txIndex = 0 → s.zki = none → s.exitTree.isSome = true →
        out.exitInfos = exitInfos (s'.exitTree.getD ∅) ((bout.users.map Prod.snd ++ bout.exits).filterMap recordOf)) := by
  obtain ⟨⟨users, coordinatorTxs, createdAccounts, coordIdxs', coordIdxsMap, txs, exits, s₁, s₄, s₆, s₇, s₈, s₉, husers,
    hcoordinators, hfilter, hmap, hplanned, hl2, hempty, hfees, hfilled, rfl⟩⟩ := processBatch_run h
  obtain ⟨zki₆, rfl⟩ := onZKInputs_zki hplanned
  obtain ⟨zki₈, rfl⟩ := onZKInputs_zki hempty
  obtain ⟨zki₁₀, rfl⟩ := onZKInputs_zki hfilled
  obtain ⟨userOuts, hspecUsers, hkeptUsers, hindexUsers, htxsUsers, hrecordsUsers⟩ := processL1UserTxs_ok husers
  obtain ⟨coordOuts, hspecCoords, hkeptCoords, hindexCoords, htxsCoords⟩ := processL1CoordinatorTxs_ok hcoordinators
  obtain ⟨hplan, -⟩ := coordPlan_of_filter hfilter hmap
  have hready := startFees_ready hplan
  obtain ⟨exitOuts, hspecL2, hkeptL2, -, hfilledIn, hrecordsL2⟩ :=
    processL2Txs_ok (s := { startFees coordIdxs' coordIdxsMap s₄ with zki := zki₆ }) hready hl2
  obtain ⟨⟨feeOuts, hspecFees⟩, hkeptFees⟩ := distributeFees_ok hfees
  obtain ⟨houtUsers, houtCoords, houtL2⟩ := batchOutput_txs { s₉ with zki := zki₁₀ }
    { createdAccounts := users.createdAccounts ++ createdAccounts, coordinatorIdxsMap := coordIdxsMap
      l1UserTxs := users.txs, l1CoordinatorTxs := coordinatorTxs, l2Txs := txs } exits
  refine ⟨⟨userOuts, coordOuts, coordIdxs', coordIdxsMap, exitOuts⟩, ?_, ?_, ?_, ?_, ?_, ?_⟩
  · have hl2Part : Rollup.l2Part coordIdxs' coordIdxsMap txs s₄.rollup = some (exitOuts, s₉.rollup) := by
      have hstart : Spec.updates (fun r : Rollup => some { r with fees := fun _ => 0 }) s₄.rollup =
          some ((), (startFees coordIdxs' coordIdxsMap s₄).rollup) := by
        rw [startFees_rollup]
        rfl
      exact Spec.bind_some.mpr ⟨(), _, hstart, Spec.bind_some.mpr ⟨exitOuts, _, hspecL2,
        Spec.bind_some.mpr ⟨feeOuts, _, hspecFees, rfl⟩⟩⟩
    rw [houtL2]
    exact Spec.bind_some.mpr ⟨userOuts, _, hspecUsers, Spec.bind_some.mpr ⟨coordOuts, _, hspecCoords,
      Spec.bind_some.mpr ⟨coordIdxs', _, Spec.reads_some.mpr ⟨toOption_some.mpr hfilter, rfl⟩,
        Spec.bind_some.mpr ⟨coordIdxsMap, _, Spec.reads_some.mpr ⟨toOption_some.mpr hmap, rfl⟩,
          Spec.bind_some.mpr ⟨exitOuts, _, hl2Part, rfl⟩⟩⟩⟩⟩
  · exact ⟨hkeptFees.config.trans (hkeptL2.config.trans (hkeptCoords.config.trans hkeptUsers.config)),
      hkeptFees.typ.trans (hkeptL2.typ.trans (hkeptCoords.typ.trans hkeptUsers.typ)),
      hkeptFees.checkpoints.trans (hkeptL2.checkpoints.trans (hkeptCoords.checkpoints.trans hkeptUsers.checkpoints))⟩
  · rw [houtUsers]
    exact htxsUsers
  · rw [houtCoords]
    exact htxsCoords
  · rw [houtL2, ← show s₄.state.typ = s.state.typ from hkeptCoords.typ.trans hkeptUsers.typ]
    exact hfilledIn
  · intro htyp hindex hzki htree
    have hkeeps : keepsExits s.state.typ = true := by rw [htyp]; rfl
    have hlength : (userOuts.map Prod.snd).length = l1UserTxs.length := by
      rw [List.length_map, Spec.forEach_length hspecUsers]
    have hexitsLength : exitOuts.length = l2Txs.length :=
      (Spec.forEach_length hspecL2).trans hfilledIn.length_eq.symm
    -- the users fill the first slots, the L2 transactions those that follow
    have hexitsUsers := hrecordsUsers hkeeps htree [] (l1CoordinatorTxs.length + l2Txs.length)
      (by rw [List.nil_append, hlength, Nat.add_assoc]) hindex.symm
    have htyp₄ : s₄.state.typ = s.state.typ := hkeptCoords.typ.trans hkeptUsers.typ
    have hevolves : s.rollup.Evolves s₄.rollup :=
      Rollup.Evolves.trans _ _ _
        (Spec.Within.forEach Rollup.Evolves.refl Rollup.Evolves.trans Rollup.l1Tx_evolves _ _ _ _ hspecUsers)
        (Spec.Within.forEach Rollup.Evolves.refl Rollup.Evolves.trans Rollup.l1Tx_evolves _ _ _ _ hspecCoords)
    have hzki₁ : s₁.zki = none := by
      have hshape : s₁.zki.map ZKInputs.shape = s.zki.map ZKInputs.shape := hkeptUsers.shape
      rw [hzki] at hshape
      exact Option.map_eq_none_iff.mp hshape
    have hindex₄ : ([] ++ (userOuts.map Prod.snd).map recordOf).length = s₄.txIndex := by
      rw [hindexCoords, hindexUsers, hindex, hzki₁, slotStep, if_pos hkeeps, List.nil_append, List.length_map, hlength]
      simp
    have hexits := hrecordsL2 (htyp₄ ▸ hkeeps) (hevolves.exits.trans htree) _ l1CoordinatorTxs.length
      (by rw [hexitsUsers, hexitsLength, Nat.add_comm l2Txs.length]) hindex₄
    have htyp₉ : s₉.state.typ = .synchronizer := (hkeptFees.typ.trans hkeptL2.typ).trans (htyp₄.trans htyp)
    rw [batchOutput, htyp₉, hexits]
    simp [List.reduceOption, List.filterMap_append, List.filterMap_map]

omit [Libraries] in
theorem thenReset_ok {α : Type} {x : TxProc α} {a : α} (h : thenReset x s = .ok a s') :
    ∃ s₁, x s = .ok a s₁ ∧ s' = s₁.resetZKInputs := by
  rw [thenReset] at h
  cases hx : x s with
  | error e s₁ => rw [hx] at h; cases h
  | ok b s₁ =>
    rw [hx] at h
    cases h
    exact ⟨s₁, rfl, rfl⟩

variable {state : StateDB} {config : Config} {coordIdxs : List Nat} {l1UserTxs l1CoordinatorTxs : List L1Tx}
  {l2Txs : List PoolL2Tx} {out : ProcessTxOutput}

omit [Libraries] in
theorem checkSizes_ok {u : Unit} (h : checkSizes coordIdxs l1UserTxs l1CoordinatorTxs l2Txs s = .ok u s') :
    s' = s ∧ coordIdxs.length ≤ s.config.maxFeeTx ∧
      l1UserTxs.length + l1CoordinatorTxs.length + l2Txs.length ≤ s.config.maxTx ∧
      l1UserTxs.length + l1CoordinatorTxs.length ≤ s.config.maxL1Tx := by
  obtain ⟨hsizes, rfl⟩ := fromState_ok.mp h
  dsimp only at hsizes
  split_ifs at hsizes with hcoords hmax hmaxL1
  exact ⟨rfl, by omega, by omega, by omega⟩

theorem processTxs_batch
    (h : processTxs coordIdxs l1UserTxs l1CoordinatorTxs l2Txs (newTxProcessor state config) = .ok out s') :
    (coordIdxs.length ≤ config.maxFeeTx ∧ l1UserTxs.length + l1CoordinatorTxs.length + l2Txs.length ≤ config.maxTx ∧
      l1UserTxs.length + l1CoordinatorTxs.length ≤ config.maxL1Tx) ∧
    ∃ s₁, processBatch coordIdxs l1UserTxs l1CoordinatorTxs l2Txs (startBatch (newTxProcessor state config)) = .ok out s₁ ∧
      s' = resetZKInputs { s₁ with state := s₁.state.makeCheckpoint } := by
  obtain ⟨_, s₁, hempty, h₁⟩ := bind_ok.mp h
  obtain ⟨-, rfl⟩ := fromState_ok.mp hempty
  obtain ⟨s₂, hrun, rfl⟩ := thenReset_ok h₁
  obtain ⟨_, s₃, hcheck, h₂⟩ := bind_ok.mp hrun
  obtain ⟨rfl, hsizes⟩ := checkSizes_ok hcheck
  obtain ⟨_, s₄, hstart, h₃⟩ := bind_ok.mp h₂
  cases hstart
  obtain ⟨out', s₅, hbatch, h₄⟩ := bind_ok.mp h₃
  obtain ⟨_, s₆, hcheckpoint, hret⟩ := bind_ok.mp h₄
  cases hcheckpoint
  obtain ⟨rfl, rfl⟩ := pure_ok.mp hret
  exact ⟨hsizes, s₅, hbatch, rfl⟩

theorem startBatch_rollup (state : StateDB) (config : Config) :
    (startBatch (newTxProcessor state config)).rollup = Rollup.start state := by
  rw [rollup, Rollup.start, Rollup.mk.injEq]
  exact ⟨rfl, rfl, funext fun idx => by rw [startBatch, newTxProcessor, Finmap.lookup_empty]; rfl⟩

/-- **`ProcessTxs`**, whatever the mode: a successful run is the run of the specification and ends with a
checkpoint of its state. -/
theorem processTxs_ok
    (h : processTxs coordIdxs l1UserTxs l1CoordinatorTxs l2Txs (newTxProcessor state config) = .ok out s') :
    ∃ bout r', Rollup.batch coordIdxs l1UserTxs l1CoordinatorTxs out.l2Txs (Rollup.start state) = some (bout, r') ∧
      s'.state = StateDB.makeCheckpoint { state with toStore := r'.toStore } ∧ s'.exitTree = r'.exits ∧
      out.l1UserTxs.map withoutEffectiveFromIdx = bout.users.map (fun o => withoutEffectiveFromIdx o.1) ∧
      out.l1CoordinatorTxs.map withoutEffectiveFromIdx = bout.coordinators.map (fun o => withoutEffectiveFromIdx o.1) ∧
      List.Forall₂ (FilledIn state.typ) l2Txs out.l2Txs ∧
      (state.typ = .synchronizer → out.exitInfos =
        exitInfos (r'.exits.getD ∅) ((bout.users.map Prod.snd ++ bout.exits).filterMap recordOf)) := by
  obtain ⟨-, s₁, hbatch, rfl⟩ := processTxs_batch h
  obtain ⟨bout, hspec, ⟨-, htyp, hcheckpoints⟩, husers, hcoordinators, hl2, hexits⟩ := processBatch_ok hbatch
  rw [startBatch_rollup] at hspec
  refine ⟨bout, s₁.rollup, hspec, ?_, rfl, husers, hcoordinators, hl2, fun hsync => ?_⟩
  · have hstate : s₁.state = { state with toStore := s₁.state.toStore } := by
      have htyp' : s₁.state.typ = state.typ := htyp
      have hcheckpoints' : s₁.state.checkpoints = state.checkpoints := hcheckpoints
      rw [← htyp', ← hcheckpoints']
    exact congrArg StateDB.makeCheckpoint hstate
  · refine hexits hsync rfl ?_ ?_
    · show (if state.typ = .batchBuilder then _ else _) = _
      rw [hsync]
      rfl
    · show (if keepsExits state.typ then some ∅ else none).isSome = true
      rw [hsync]
      rfl

end Batch

end TxProcessor

/-- A state with one account, at index 256 and with a balance of 10. -/
def oneAccountState (typ : TypeStateDB) : StateDB :=
  { typ
    accounts := (∅ : AccountTree).insert 256
      { tokenID := 0, bjj := 1, ethAddr := 7, nonce := 0, balance := 10, nonce_le := by decide, balance_lt := by decide
        ay_lt := by decide }
    idxByEthAddrBJJ := (∅ : Finmap fun _ => Nat).insert (7, 1, 0) 256
    idxByEthAddr := (∅ : Finmap fun _ => Nat).insert (7, 0) 256
    currentIdx := 256 }

def smallConfig : Config :=
  { nLevels := 32, maxFeeTx := 2, maxTx := 4, maxL1Tx := 4, chainID := 0 }

end HermezRollup
