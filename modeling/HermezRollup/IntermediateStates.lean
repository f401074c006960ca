import HermezRollup.Bounds
import HermezRollup.ZKBatch

/-! The intermediate states that the circuit is given.  For every slot they should be the state after the
transactions up to it.  They are, unless the L1 transactions fill the whole batch, which leaves no slot for the
last one, or an exit of amount zero follows an exit, which leaves the exit root of its slot at zero. -/

namespace HermezRollup

open Bytes Fallible Simulation Slots

/-- A transaction of a batch. -/
inductive BatchTx where
  | user (tx : L1Tx)
  | coordinator (tx : L1Tx)
  | l2 (tx : PoolL2Tx)

namespace BatchTx

def isL1 : BatchTx → Bool
  | user _ | coordinator _ => true
  | l2 _ => false

/-- An exit of amount zero, other than one sent by the coordinator. -/
def isEmptyExit : BatchTx → Bool
  | user tx => tx.type = some .forceExit ∧ tx.amount = 0
  | coordinator _ => false
  | l2 tx => tx.type = some .exit ∧ tx.amount = 0

/-- An exit that leaves a leaf in the exit tree. -/
def leavesExit : BatchTx → Bool
  | user tx | coordinator tx => tx.type = some .forceExit ∧ tx.amount ≠ 0
  | l2 tx => tx.type = some .exit ∧ tx.amount ≠ 0

theorem leavesExit_of_isEmptyExit (t : BatchTx) (h : t.isEmptyExit = true) : t.leavesExit = false := by
  cases t <;> simp_all [isEmptyExit, leavesExit]

end BatchTx

/-- The transactions of a batch in the order in which they are processed. -/
def batchTxs (l1UserTxs l1CoordinatorTxs : List L1Tx) (l2Txs : List PoolL2Tx) : List BatchTx :=
  (l1UserTxs.map .user ++ l1CoordinatorTxs.map .coordinator) ++ l2Txs.map .l2

theorem length_batchTxs (l1UserTxs l1CoordinatorTxs : List L1Tx) (l2Txs : List PoolL2Tx) :
    (batchTxs l1UserTxs l1CoordinatorTxs l2Txs).length = l1UserTxs.length + l1CoordinatorTxs.length + l2Txs.length := by
  simp [batchTxs, Nat.add_assoc]

variable {tree : AccountTree}

theorem AccountTree.root_eq_zero [Libraries] (hhash : ∀ x xs, Libraries.poseidon (x :: xs) ≠ 0) :
    tree.root = 0 ↔ tree = ∅ := by
  constructor
  · intro hzero
    by_contra hne
    obtain ⟨x, xs, hroot⟩ := tree.root_of_ne_empty hne
    exact hhash x xs (hroot.symm.trans hzero)
  · rintro rfl
    exact root_empty

namespace Rollup

variable [Libraries]

def tx (coordIdxsMap : CoordIdxsMap) : BatchTx → RollupM ExitOut
  | .user tx | .coordinator tx => do
    let out ← l1Tx tx
    return out.2
  | .l2 tx => l2Tx coordIdxsMap tx

section Exits

theorem exitLeaf_inserts {idx : Nat} {acc : Account} {amount : Int} {out : AccountTree × ExitOut}
    (h : exitLeaf tree idx acc amount = .ok out) : ∃ a, out.1 = tree.insert idx a := by
  rw [exitLeaf] at h
  split at h
  · obtain ⟨tree', hcreate, hret⟩ := except_bind_ok.mp h
    cases hret
    obtain ⟨-, -, hencodable, rfl⟩ := createAccountInTreeDB_ok.mp hcreate
    exact ⟨_, rfl⟩
  · cases h
  · obtain ⟨tree', hupdate, hret⟩ := except_bind_ok.mp h
    cases hret
    obtain ⟨-, hencodable, rfl⟩ := updateAccountInTreeDB_ok.mp hupdate
    exact ⟨_, rfl⟩

variable {coordIdxsMap : CoordIdxsMap} {r r' : Rollup} {exit : ExitOut}

theorem leave_tree {idx : Nat} {acc : Account} {amount original : Int} (htree : r.exits = some tree)
    (h : leave idx acc amount original r = some (exit, r')) :
    ∃ tree', r'.exits = some tree' ∧ (tree' = ∅ ↔ tree = ∅ ∧ original = 0) ∧ (exit.isEmpty = true ↔ original = 0) := by
  simp only [leave, htree] at h
  split at h
  next hzero =>
    cases h
    exact ⟨tree, htree, by simp [hzero], by simp [ExitOut.isEmpty, hzero]⟩
  next hne =>
    obtain ⟨out, hleaf, hout⟩ := Option.map_eq_some_iff.mp h
    cases hout
    refine ⟨out.1, rfl, ?_, ?_⟩
    · simp only [hne, and_false, iff_false]
      obtain ⟨a, ha⟩ := exitLeaf_inserts (toOption_some.mp hleaf)
      rw [ha]
      intro hempty
      exact Finmap.notMem_empty (hempty ▸ Finmap.mem_insert.mpr (Or.inl rfl))
    · obtain ⟨acc', hacc⟩ := Option.isSome_iff_exists.mp (exitLeaf_account (toOption_some.mp hleaf))
      simp [ExitOut.isEmpty, hacc, hne]

theorem l1Tx_exits {l1 : L1Tx} {out : L1Tx × ExitOut} (htree : r.exits = some tree) (h : l1Tx l1 r = some (out, r')) :
    ∃ tree', r'.exits = some tree' ∧ (tree' = ∅ ↔ tree = ∅ ∧ ¬(l1.type = some .forceExit ∧ l1.amount ≠ 0)) ∧
      (out.2.isEmpty = true ↔ l1.type = some .forceExit ∧ l1.amount = 0) := by
  obtain ⟨happly, -⟩ := l1Tx_some.mp h
  have hother : l1.type ≠ some .forceExit → r'.exits = r.exits → out.2 = {} →
      ∃ tree', r'.exits = some tree' ∧ (tree' = ∅ ↔ tree = ∅ ∧ ¬(l1.type = some .forceExit ∧ l1.amount ≠ 0)) ∧
        (out.2.isEmpty = true ↔ l1.type = some .forceExit ∧ l1.amount = 0) := by
    intro htype hexits hout
    exact ⟨tree, hexits.trans htree, by simp [htype], by simp [htype, hout, ExitOut.isEmpty]⟩
  obtain ⟨l1', exit'⟩ := out
  cases applyL1_step happly with
  | forceTransfer htype htake hgive => exact hother (by simp [htype]) ((give_keeps hgive).1.trans (take_keeps htake).1) rfl
  | createAccountDeposit htype hopen hadvance =>
    exact hother (by simp [htype]) ((advance_keeps hadvance).1.trans (openAccount_keeps hopen).1) rfl
  | deposit htype htake => exact hother (by simp [htype]) (take_keeps htake).1 rfl
  | depositTransfer htype htake hgive => exact hother (by simp [htype]) ((give_keeps hgive).1.trans (take_keeps htake).1) rfl
  | createAccountDepositTransfer htype _ hopen hgive hadvance =>
    exact hother (by simp [htype])
      ((advance_keeps hadvance).1.trans ((give_keeps hgive).1.trans (openAccount_keeps hopen).1)) rfl
  | forceExit htype htake hleave =>
    obtain ⟨tree', htree', hempty, hisEmpty⟩ := leave_tree ((take_keeps htake).1.trans htree) hleave
    exact ⟨tree', htree', by simp [hempty, htype], by simp [hisEmpty, htype]⟩
  | unknown htype => exact hother (by rintro heq; simp [heq, knownL1Type] at htype) rfl rfl

theorem l2Tx_exits {l2 : PoolL2Tx} (htree : r.exits = some tree) (h : l2Tx coordIdxsMap l2 r = some (exit, r')) :
    ∃ tree', r'.exits = some tree' ∧ (tree' = ∅ ↔ tree = ∅ ∧ ¬(l2.type = some .exit ∧ l2.amount ≠ 0)) ∧
      (exit.isEmpty = true ↔ l2.type = some .exit ∧ l2.amount = 0) := by
  cases l2Tx_step h with
  | transfer htype hpay hgive =>
    have hne : l2.type ≠ some .exit := by
      intro heq
      simp [heq, isTransfer] at htype
    have hkept := pay_exits hpay
    obtain ⟨_, -, _, rfl⟩ := give_some.mp hgive
    exact ⟨tree, hkept.trans htree, by simp [hne], by simp [hne, ExitOut.isEmpty]⟩
  | exit htype hpay hleave =>
    obtain ⟨tree', htree', hempty, hisEmpty⟩ := leave_tree ((pay_exits hpay).trans htree) hleave
    exact ⟨tree', htree', by simp [hempty, htype], by simp [hisEmpty, htype]⟩
  | unknown htype =>
    have hne : l2.type ≠ some .exit := by
      intro heq
      simp [heq, charges] at htype
    exact ⟨tree, htree, by simp [hne], by simp [hne, ExitOut.isEmpty]⟩

/-- **One transaction**: when the exit tree stays empty, and which exits have no leaf. -/
theorem tx_exits {t : BatchTx} (htree : r.exits = some tree) (h : tx coordIdxsMap t r = some (exit, r')) :
    ∃ tree', r'.exits = some tree' ∧ (tree' = ∅ ↔ tree = ∅ ∧ t.leavesExit = false) ∧
      ((∀ l1, t ≠ .coordinator l1) → (exit.isEmpty = true ↔ t.isEmptyExit = true)) := by
  have hl1 : ∀ {l1 : L1Tx}, (do let out ← l1Tx l1; return out.2 : RollupM ExitOut) r = some (exit, r') →
      ∃ out, l1Tx l1 r = some (out, r') ∧ exit = out.2 := by
    intro l1 hrun
    obtain ⟨out, _, hstep, hret⟩ := Spec.bind_some.mp hrun
    cases hret
    exact ⟨out, hstep, rfl⟩
  cases t with
  | user l1 | coordinator l1 =>
    obtain ⟨out, hstep, rfl⟩ := hl1 h
    obtain ⟨tree', htree', hempty, hisEmpty⟩ := l1Tx_exits htree hstep
    exact ⟨tree', htree', by simp [hempty, BatchTx.leavesExit], fun _ => by simp_all [BatchTx.isEmptyExit]⟩
  | l2 l2 =>
    obtain ⟨tree', htree', hempty, hisEmpty⟩ := l2Tx_exits htree h
    exact ⟨tree', htree', by simp [hempty, BatchTx.leavesExit], fun _ => by simp [hisEmpty, BatchTx.isEmptyExit]⟩

/-- **A run of transactions** leaves the exit tree empty when none of them leaves an exit. -/
theorem txs_exits {txs : List BatchTx} {exits : List ExitOut} (htree : r.exits = some tree)
    (h : Spec.forEach (tx coordIdxsMap) txs r = some (exits, r')) :
    ∃ tree', r'.exits = some tree' ∧ (tree' = ∅ ↔ tree = ∅ ∧ ∀ t ∈ txs, t.leavesExit = false) := by
  induction txs generalizing r exits tree with
  | nil =>
    cases h
    exact ⟨tree, htree, by simp⟩
  | cons t rest ih =>
    obtain ⟨exit, r₁, exits₁, hfirst, hrest, rfl⟩ := Spec.forEach_cons_some.mp h
    obtain ⟨tree₁, htree₁, hempty₁, -⟩ := tx_exits htree hfirst
    obtain ⟨tree', htree', hempty⟩ := ih htree₁ hrest
    exact ⟨tree', htree', by rw [hempty, hempty₁, List.forall_mem_cons, and_assoc]⟩

theorem txs_fees {txs : List BatchTx} {exits : List ExitOut} (hl1 : ∀ t ∈ txs, t.isL1 = true)
    (h : Spec.forEach (tx coordIdxsMap) txs r = some (exits, r')) : r'.fees = r.fees := by
  induction txs generalizing r exits with
  | nil =>
    cases h
    rfl
  | cons t rest ih =>
    obtain ⟨exit, r₁, exits₁, hfirst, hrest, rfl⟩ := Spec.forEach_cons_some.mp h
    obtain ⟨ht, hl1⟩ := List.forall_mem_cons.mp hl1
    have hsame : r₁.fees = r.fees := by
      cases t with
      | user l1 | coordinator l1 =>
        obtain ⟨out, _, hstep, hret⟩ := Spec.bind_some.mp hfirst
        cases hret
        exact applyL1_fees (l1Tx_some.mp hstep).1
      | l2 l2 => cases ht
    exact (ih hl1 hrest).trans hsame

end Exits

end Rollup

namespace TxProcessor

variable [Libraries]

section Run

variable {s s' : TxProcessor} {coordIdxs : List Nat} {l1UserTxs l1CoordinatorTxs : List L1Tx} {l2Txs : List PoolL2Tx}
  {out : ProcessTxOutput}

namespace BatchRun

variable (run : BatchRun coordIdxs l1UserTxs l1CoordinatorTxs l2Txs s out s')

/-- The transactions of a run, with the receivers that were found. -/
def batchTxs : List BatchTx :=
  HermezRollup.batchTxs l1UserTxs l1CoordinatorTxs run.txs

def states : List (ExitOut × Rollup) :=
  (run.l1States.map fun p => (p.1.2, p.2)) ++ run.l2States

variable {run} {zki zki' : ZKInputs} {i : Nat}

theorem Parts.states (hparts : run.Parts) (hfees : s.rollup.fees = fun _ => 0) :
    Spec.trace (Rollup.tx run.map) run.batchTxs s.rollup = run.states ∧
      ∃ exits, Spec.forEach (Rollup.tx run.map) run.batchTxs s.rollup = some (exits, run.s₄.rollup) := by
  obtain ⟨us, husers⟩ := hparts.users
  obtain ⟨cs, hcoordinators⟩ := hparts.coordinators
  obtain ⟨os, hl2⟩ := hparts.l2
  have hkeeps : ∀ {txs : List L1Tx} {outs : List (L1Tx × ExitOut)} {r r' : Rollup},
      Spec.forEach Rollup.l1Tx txs r = some (outs, r') → r'.fees = r.fees := by
    intro txs outs r r' h
    exact Spec.Within.forEach (R := fun r r' : Rollup => r'.fees = r.fees) (fun _ => rfl) (fun _ _ _ h h' => h'.trans h)
      (fun tx r o r' hstep => Rollup.applyL1_fees (Rollup.l1Tx_some.mp hstep).1) _ _ _ _ h
  -- no fees are owed yet when the L2 transactions start
  have hstart : run.s₃.rollup = run.s₂.rollup := by
    rw [hparts.start, ← hfees, ← hkeeps husers, ← hkeeps hcoordinators]
  have hl1Users : Spec.forEach (Rollup.tx run.map) (l1UserTxs.map .user) s.rollup =
      some (us.map Prod.snd, run.s₁.rollup) := by
    rw [Spec.forEach_comp]
    exact Spec.forEach_result Prod.snd husers
  have hl1Coordinators : Spec.forEach (Rollup.tx run.map) (l1CoordinatorTxs.map .coordinator) run.s₁.rollup =
      some (cs.map Prod.snd, run.s₂.rollup) := by
    rw [Spec.forEach_comp]
    exact Spec.forEach_result Prod.snd hcoordinators
  have hl1 := Spec.forEach_append hl1Users hl1Coordinators
  have hl2Txs : Spec.forEach (Rollup.tx run.map) (run.txs.map .l2) run.s₂.rollup = some (os, run.s₄.rollup) := by
    rw [Spec.forEach_comp, ← hstart]
    exact hl2
  refine ⟨?_, _, Spec.forEach_append hl1 hl2Txs⟩
  rw [batchTxs, HermezRollup.batchTxs, Spec.trace_append hl1, Spec.trace_append hl1Users, Spec.trace_comp, Spec.trace_comp,
    Spec.trace_comp, BatchRun.states, l1States, List.map_append, l2States, hstart]
  exact congrArg (· ++ _) (congrArg₂ _ (Spec.trace_result Prod.snd _ _) (Spec.trace_result Prod.snd _ _))

theorem Parts.length_l1States (hparts : run.Parts) : run.l1States.length = run.nL1Tx := by
  obtain ⟨us, husers⟩ := hparts.users
  obtain ⟨cs, hcoordinators⟩ := hparts.coordinators
  rw [l1States, List.length_append, Spec.length_trace husers, Spec.length_trace hcoordinators]
  rfl

theorem Parts.entries (hparts : run.Parts) {γ : Type} (value : Rollup → γ) (hi : i + 1 < run.nTx) :
    (run.entries value)[i]? = run.states[i]?.map fun p => some (value p.2) := by
  have hlength := hparts.length_l1States
  rw [BatchRun.entries, BatchRun.states]
  by_cases hlt : i < run.l1States.length
  · rw [List.getElem?_append_left (by simpa using hlt), List.getElem?_append_left (by simpa using hlt), List.getElem?_map,
      List.getElem?_map, Option.map_map]
    rfl
  · rw [List.getElem?_append_right (by simpa using hlt), List.getElem?_append_right (by simpa using hlt), List.length_map,
      List.length_map, l2Entries, getElem?_rows, hlength, Nat.add_sub_cancel' (by omega)]
    simp only [if_pos hi]

theorem getElem?_filledUp {γ : Type} {slots : List γ} {value : γ} (hi : i < slots.length) (hmax : i + 1 < s.config.maxTx) :
    (run.filledUp slots value)[i]? = if i + 1 < run.nTx then slots[i]? else some value := by
  rw [filledUp]
  split
  next hlt => exact getElem?_fill_none (Or.inl (by omega))
  next hge =>
    refine getElem?_fill_some hi (by omega) ?_
    rw [List.getElem?_replicate, if_pos (by omega)]

theorem Parts.exitRootEntries (hparts : run.Parts) (hi : i + 1 < run.nTx) :
    run.exitRootEntries[i]? =
      run.states[i]?.map (exitRootEntry (decide (l1UserTxs.length ≤ i ∧ i < run.nL1Tx))) := by
  obtain ⟨us, husers⟩ := hparts.users
  obtain ⟨cs, hcoordinators⟩ := hparts.coordinators
  have hlengthUsers := Spec.length_trace husers
  have hlengthCoordinators := Spec.length_trace hcoordinators
  have hnL1 : run.nL1Tx = l1UserTxs.length + l1CoordinatorTxs.length := rfl
  simp only [BatchRun.exitRootEntries, BatchRun.states, l1States, List.map_append, List.getElem?_append, List.length_append,
    List.length_map, hlengthUsers, hlengthCoordinators, List.getElem?_map, getElem?_rows, ← hnL1]
  by_cases hl1 : i < run.nL1Tx
  · by_cases huser : i < l1UserTxs.length
    · simp [hl1, huser, Nat.not_le.mpr huser, Function.comp_def]
    · simp [hl1, huser, Nat.not_lt.mp huser, Function.comp_def]
  · have hsum : run.nL1Tx + (i - run.nL1Tx) = i := by omega
    simp only [hl1, if_false, hsum, and_false, decide_false]
    congr 1
    funext p
    rw [l2ExitRootEntry, if_pos hi]

theorem coordinator_of_slot {t : BatchTx} (h : run.batchTxs[i]? = some t) :
    (∃ l1, t = .coordinator l1) ↔ l1UserTxs.length ≤ i ∧ i < run.nL1Tx := by
  have hnL1 : run.nL1Tx = l1UserTxs.length + l1CoordinatorTxs.length := rfl
  simp only [batchTxs, HermezRollup.batchTxs, List.getElem?_append, List.length_append, List.length_map, List.getElem?_map,
    ← hnL1] at h
  by_cases hl1 : i < run.nL1Tx
  · by_cases huser : i < l1UserTxs.length
    · rw [if_pos hl1, if_pos huser, Option.map_eq_some_iff] at h
      obtain ⟨l1, -, rfl⟩ := h
      simp [huser]
    · rw [if_pos hl1, if_neg huser, Option.map_eq_some_iff] at h
      obtain ⟨l1, -, rfl⟩ := h
      simp [hl1, Nat.not_lt.mp huser]
  · rw [if_neg hl1, Option.map_eq_some_iff] at h
    obtain ⟨l2, -, rfl⟩ := h
    simp [hl1]

theorem Parts.feeSlot (hparts : run.Parts) (hfees : s.rollup.fees = fun _ => 0) {n : Nat}
    (hidxs : run.idxs.length ≤ n) (hi : i + 1 < run.nTx) {m : Nat}
    (hsize : i < (List.replicate m (List.replicate n (0 : Int))).length) {o : ExitOut} {r' : Rollup} {os : List ExitOut}
    (hstate : run.states[i]? = some (o, r'))
    (hleading : Spec.forEach (Rollup.tx run.map) (run.batchTxs.take (i + 1)) s.rollup = some (os, r')) :
    (fill (List.replicate m (List.replicate n 0)) run.nL1Tx (run.l2Entries (feeRow n run.idxs)))[i]? =
      some (feeRow n run.idxs r') := by
  have hlength := hparts.length_l1States
  by_cases hl1 : i < run.nL1Tx
  · have hzero : r'.fees = fun _ => 0 := by
      rw [← hfees]
      refine Rollup.txs_fees (fun t ht => ?_) hleading
      rw [batchTxs, HermezRollup.batchTxs, List.take_append_of_le_length (by simp; exact hl1)] at ht
      simp only [List.take_append, List.mem_append, List.map_take.symm, List.mem_map] at ht
      rcases ht with ⟨l1, -, rfl⟩ | ⟨l1, -, rfl⟩ <;> rfl
    have hrow : feeRow n run.idxs r' = List.replicate n 0 := by
      rw [feeRow, hzero, List.map_const', ← List.replicate_add, Nat.add_sub_cancel' hidxs]
    rw [getElem?_fill_none (Or.inl hl1), hrow, List.getElem?_replicate, if_pos (by simpa using hsize)]
  · refine getElem?_fill_some hsize (by omega) ?_
    have hentry := hparts.entries (feeRow n run.idxs) hi
    rw [BatchRun.entries, List.getElem?_append_right (by rw [List.length_map]; omega), List.length_map, hlength,
      hstate] at hentry
    exact hentry

/-- The slot of the exit root: an exit of amount zero leaves it at zero. -/
theorem Parts.exitSlot (hparts : run.Parts) (hi : i + 1 < run.nTx) {m : Nat} (hsize : i < (List.replicate m 0).length)
    {o : ExitOut} {r' : Rollup} (hstate : run.states[i]? = some (o, r')) {t : BatchTx} (ht : run.batchTxs[i]? = some t)
    (hempty : (∀ l1, t ≠ .coordinator l1) → (o.isEmpty = true ↔ t.isEmptyExit = true)) :
    (fill (List.replicate m 0) 0 run.exitRootEntries)[i]? = some (if t.isEmptyExit then 0 else r'.exitRoot) := by
  have hentry := hparts.exitRootEntries hi
  rw [hstate, Option.map_some] at hentry
  have hcoordinator := coordinator_of_slot ht
  have hskip : exitRootEntry (decide (l1UserTxs.length ≤ i ∧ i < run.nL1Tx)) (o, r') =
      if t.isEmptyExit then none else some r'.exitRoot := by
    rw [exitRootEntry]
    by_cases hslot : l1UserTxs.length ≤ i ∧ i < run.nL1Tx
    · obtain ⟨l1, rfl⟩ := hcoordinator.mpr hslot
      simp [hslot, BatchTx.isEmptyExit]
    · have hne : ∀ l1, t ≠ .coordinator l1 := fun l1 heq => hslot (hcoordinator.mp ⟨l1, heq⟩)
      have hsame : o.isEmpty = t.isEmptyExit := Bool.eq_iff_iff.mpr (hempty hne)
      rw [decide_eq_false hslot, hsame]
      cases t.isEmptyExit <;> rfl
  rw [hskip] at hentry
  cases hexit : t.isEmptyExit with
  | true =>
    rw [hexit] at hentry
    rw [getElem?_fill_none (Or.inr hentry), List.getElem?_replicate, if_pos (by simpa using hsize)]
    rfl
  | false =>
    rw [hexit] at hentry
    exact getElem?_fill_some hsize (Nat.zero_le i) hentry

end BatchRun

end Run

/-- **The intermediate states of the circuit inputs** are those of the batch: the state after the transactions up to
the slot, or after all of them. -/
structure IntermediateStates (config : Config) (coordIdxs : List Nat) (coordIdxsMap : CoordIdxsMap) (txs : List BatchTx)
    (r : Rollup) (zki : ZKInputs) : Prop where
  states : ∀ i, i + 1 < config.maxTx → ∃ exits r',
    Spec.forEach (Rollup.tx coordIdxsMap) (txs.take (i + 1)) r = some (exits, r') ∧
      zki.isOutIdx[i]? = some r'.currentIdx ∧ zki.isStateRoot[i]? = some r'.accounts.root ∧
      zki.isExitRoot[i]? = some r'.exitRoot ∧ zki.isAccFeeOut[i]? = some (feeRow config.maxFeeTx coordIdxs r')
  isOnChain : ∀ i, i + 1 < config.maxTx →
    zki.isOnChain[i]? = some (if (txs[i]?.map BatchTx.isL1).getD false then 1 else 0)

/-- Some exit of amount zero follows an exit, and a transaction follows it. -/
def EmptyExitFollowsExit (txs : List BatchTx) : Prop :=
  ∃ i j t t', j < i ∧ i + 1 < txs.length ∧ txs[i]? = some t ∧ txs[j]? = some t' ∧ t.isEmptyExit = true ∧
    t'.leavesExit = true

section Run

variable {s s' : TxProcessor} {coordIdxs : List Nat} {l1UserTxs l1CoordinatorTxs : List L1Tx} {l2Txs : List PoolL2Tx}
  {out : ProcessTxOutput} {run : BatchRun coordIdxs l1UserTxs l1CoordinatorTxs l2Txs s out s'} {zki zki' : ZKInputs}

/-- The slots of a run, but for the exit roots, which an exit of amount zero leaves as they were. -/
theorem BatchRun.Inputs.slot (hinputs : run.Inputs zki zki') (hparts : run.Parts) (hfees : s.rollup.fees = fun _ => 0)
    (hexits : s.rollup.exits = some ∅) (hzki : zki = s.startZKInputs) (hidxs : run.idxs.length ≤ s.config.maxFeeTx)
    (hlt : s.config.maxTx < 2 ^ 32) {i : Nat} (hi : i + 1 < s.config.maxTx) :
    ∃ exits r', Spec.forEach (Rollup.tx run.map) (run.batchTxs.take (i + 1)) s.rollup = some (exits, r') ∧
      zki'.isOutIdx[i]? = some r'.currentIdx ∧ zki'.isStateRoot[i]? = some r'.accounts.root ∧
      zki'.isAccFeeOut[i]? = some (feeRow s.config.maxFeeTx run.idxs r') ∧
      zki'.isExitRoot[i]? = some (if i + 1 < run.nTx ∧ (run.batchTxs[i]?.map BatchTx.isEmptyExit).getD false then 0
        else r'.exitRoot) := by
  obtain ⟨htrace, exits, hall⟩ := hparts.states hfees
  have hlength : run.batchTxs.length = run.nTx := by
    rw [BatchRun.batchTxs, length_batchTxs, hparts.length]
    rfl
  have hsize : ∀ {γ : Type} (x : γ), i < (List.replicate (uint32Pred s.config.maxTx) x).length := by
    intro γ x
    rw [List.length_replicate, uint32Pred_eq (by omega) hlt]
    omega
  have htokens : zki.feePlanTokens.length = s.config.maxFeeTx := by
    rw [hzki]
    exact List.length_replicate
  have hOutIdx := hinputs.isOutIdx
  have hStateRoot := hinputs.isStateRoot
  have hAccFee := hinputs.isAccFeeOut
  have hExitRoot := hinputs.isExitRoot
  rw [htokens] at hAccFee
  simp only [hzki, startZKInputs, newZKInputs, newSlice] at hOutIdx hStateRoot hAccFee hExitRoot
  rw [hOutIdx, hStateRoot, hAccFee, hExitRoot, BatchRun.getElem?_filledUp (by rw [length_fill]; exact hsize _) hi,
    BatchRun.getElem?_filledUp (by rw [length_fill]; exact hsize _) hi,
    BatchRun.getElem?_filledUp (by rw [length_fill]; exact hsize _) hi,
    BatchRun.getElem?_filledUp (by rw [length_fill]; exact hsize _) hi]
  by_cases hlast : i + 1 < run.nTx
  · obtain ⟨os, o, r', hleading, hstate⟩ := Spec.getElem?_trace hall (by omega : i < run.batchTxs.length)
    rw [htrace] at hstate
    have hentry : ∀ {γ : Type} (x : γ) (value : Rollup → γ),
        (fill (List.replicate (uint32Pred s.config.maxTx) x) 0 (run.entries value))[i]? = some (value r') := by
      intro γ x value
      refine getElem?_fill_some (hsize x) (Nat.zero_le i) ?_
      rw [Nat.sub_zero, hparts.entries value hlast, hstate]
      rfl
    simp only [if_pos hlast, hentry]
    refine ⟨os, r', hleading, rfl, rfl, ?_, ?_⟩
    · exact hparts.feeSlot hfees hidxs hlast (hsize _) hstate hleading
    · rw [← htrace] at hstate
      obtain ⟨t, os₀, r₀, ht, hbefore, hstep⟩ := Spec.step_of_trace hstate
      obtain ⟨tree, htree, -⟩ := Rollup.txs_exits hexits hbefore
      obtain ⟨-, -, -, hempty⟩ := Rollup.tx_exits htree hstep
      rw [htrace] at hstate
      rw [hparts.exitSlot hlast (hsize _) hstate ht hempty]
      simp [ht, hlast]
  · refine ⟨exits, run.s₄.rollup, ?_, ?_⟩
    · rw [List.take_of_length_le (by omega)]
      exact hall
    · simp [hlast]

theorem BatchRun.isL1_slot (i : Nat) :
    (run.batchTxs[i]?.map BatchTx.isL1).getD false = decide (i < run.nL1Tx) := by
  have hnL1 : run.nL1Tx = l1UserTxs.length + l1CoordinatorTxs.length := rfl
  simp only [BatchRun.batchTxs, HermezRollup.batchTxs, List.getElem?_append, List.length_append, List.length_map,
    List.getElem?_map, ← hnL1]
  by_cases hl1 : i < run.nL1Tx
  · by_cases huser : i < l1UserTxs.length
    · simp [hl1, huser, BatchTx.isL1]
    · simp [hl1, huser, BatchTx.isL1, show i - l1UserTxs.length < l1CoordinatorTxs.length by omega]
  · cases run.txs[i - run.nL1Tx]? <;> simp [hl1, BatchTx.isL1]

theorem BatchRun.Inputs.onChain (hinputs : run.Inputs zki zki') (hparts : run.Parts) (hzki : zki = s.startZKInputs)
    (hlt : s.config.maxTx < 2 ^ 32) {i : Nat} (hi : i + 1 < s.config.maxTx) :
    zki'.isOnChain[i]? = some (if (run.batchTxs[i]?.map BatchTx.isL1).getD false then 1 else 0) := by
  have hsize : i < (List.replicate (uint32Pred s.config.maxTx) 0).length := by
    rw [List.length_replicate, uint32Pred_eq (by omega) hlt]
    omega
  have honChain := hinputs.isOnChain
  simp only [hzki, startZKInputs, newZKInputs, newSlice] at honChain
  have hlength := hparts.length_l1States
  rw [honChain, isL1_slot]
  by_cases hl1 : i < run.nL1Tx
  · have hentry : (run.l1States.map fun _ => some 1)[i]? = some (some 1) := by
      rw [List.getElem?_map, List.getElem?_eq_getElem (by omega)]
      rfl
    rw [getElem?_fill_some hsize (Nat.zero_le i) hentry]
    simp [hl1]
  · rw [getElem?_fill, List.getElem?_eq_none (by rw [List.length_map]; omega), List.getElem?_replicate,
      if_pos (by simpa using hsize)]
    simp [hl1]

/-- **The intermediate states of a run** are right unless an exit of amount zero follows an exit. -/
theorem BatchRun.Inputs.intermediateStates_iff (hinputs : run.Inputs zki zki') (hparts : run.Parts)
    (hfees : s.rollup.fees = fun _ => 0) (hexits : s.rollup.exits = some ∅) (hzki : zki = s.startZKInputs)
    (hidxs : run.idxs.length ≤ s.config.maxFeeTx) (hmax : run.nTx ≤ s.config.maxTx) (hlt : s.config.maxTx < 2 ^ 32)
    (hhash : ∀ x xs, Libraries.poseidon (x :: xs) ≠ 0) :
    IntermediateStates s.config run.idxs run.map run.batchTxs s.rollup zki' ↔ ¬EmptyExitFollowsExit run.batchTxs := by
  have hslot := fun i hi => hinputs.slot hparts hfees hexits hzki hidxs hlt (i := i) hi
  have hlength : run.batchTxs.length = run.nTx := by
    rw [BatchRun.batchTxs, length_batchTxs, hparts.length]
    rfl
  have hroot : ∀ {i exits r'}, Spec.forEach (Rollup.tx run.map) (run.batchTxs.take (i + 1)) s.rollup = some (exits, r') →
      (r'.exitRoot = 0 ↔ ∀ t ∈ run.batchTxs.take (i + 1), t.leavesExit = false) := by
    intro i exits r' hleading
    obtain ⟨tree, htree, hempty⟩ := Rollup.txs_exits hexits hleading
    rw [Rollup.exitRoot, htree, Option.getD_some, AccountTree.root_eq_zero hhash, hempty]
    simp
  constructor
  · rintro hstates ⟨i, j, t, t', hji, hi, ht, ht', hempty, hleaves⟩
    have hi' : i + 1 < s.config.maxTx := by omega
    obtain ⟨exits, r', hleading, -, -, -, hexit⟩ := hslot i hi'
    obtain ⟨exits', r'', hleading', -, -, hexit', -⟩ := hstates.states i hi'
    rw [hleading] at hleading'
    cases hleading'
    rw [if_pos ⟨by omega, by simp [ht, hempty]⟩] at hexit
    have hzero : r'.exitRoot = 0 := Option.some.inj (hexit'.symm.trans hexit)
    have hmem : t' ∈ run.batchTxs.take (i + 1) := by
      rw [List.mem_take_iff_getElem]
      obtain ⟨hj, rfl⟩ := List.getElem?_eq_some_iff.mp ht'
      exact ⟨j, by omega, rfl⟩
    rw [(hroot hleading).mp hzero t' hmem] at hleaves
    cases hleaves
  · intro hnone
    refine ⟨fun i hi => ?_, fun i hi => hinputs.onChain hparts hzki hlt hi⟩
    obtain ⟨exits, r', hleading, hout, hstate, hfee, hexit⟩ := hslot i hi
    refine ⟨exits, r', hleading, hout, hstate, ?_, hfee⟩
    rw [hexit]
    split
    next hbad =>
      obtain ⟨hlast, hempty⟩ := hbad
      cases ht : run.batchTxs[i]? with
      | none => simp [ht] at hempty
      | some t =>
        rw [ht, Option.map_some, Option.getD_some] at hempty
        rw [Option.some.injEq, eq_comm, hroot hleading]
        intro t' hmem
        obtain ⟨j, hj, rfl⟩ := List.mem_take_iff_getElem.mp hmem
        rw [← Bool.not_eq_true]
        intro hleaves
        rcases Nat.lt_or_ge j i with hji | hji
        · exact hnone ⟨i, j, t, _, hji, by omega, ht, List.getElem?_eq_getElem (by omega), hempty, hleaves⟩
        · have heq : j = i := by omega
          subst heq
          rw [List.getElem?_eq_some_iff] at ht
          rw [ht.2, t.leavesExit_of_isEmptyExit hempty] at hleaves
          cases hleaves
    next => rfl

omit [Libraries] in
theorem emptyExitFollowsExit_congr {txs txs' : List BatchTx}
    (h : txs.map (fun t => (t.isEmptyExit, t.leavesExit)) = txs'.map fun t => (t.isEmptyExit, t.leavesExit)) :
    EmptyExitFollowsExit txs → EmptyExitFollowsExit txs' := by
  rintro ⟨i, j, t, t', hji, hi, ht, ht', hempty, hleaves⟩
  have hlength : txs.length = txs'.length := by simpa using congrArg List.length h
  have hflags : ∀ {k : Nat} {t : BatchTx}, txs[k]? = some t → ∃ u, txs'[k]? = some u ∧ u.isEmptyExit = t.isEmptyExit ∧
      u.leavesExit = t.leavesExit := by
    intro k t hk
    have hk' := congrArg (·[k]?) h
    simp only [List.getElem?_map, hk, Option.map_some] at hk'
    obtain ⟨u, hu, heq⟩ := Option.map_eq_some_iff.mp hk'.symm
    exact ⟨u, hu, Prod.mk.inj heq⟩
  obtain ⟨u, hu, hempty', -⟩ := hflags ht
  obtain ⟨u', hu', -, hleaves'⟩ := hflags ht'
  exact ⟨i, j, u, u', hji, hlength ▸ hi, hu, hu', hempty'.trans hempty, hleaves'.trans hleaves⟩

omit [Libraries] in
theorem emptyExitFollowsExit_filledIn {typ : TypeStateDB} {l2Txs' : List PoolL2Tx}
    (h : List.Forall₂ (FilledIn typ) l2Txs l2Txs') :
    EmptyExitFollowsExit (batchTxs l1UserTxs l1CoordinatorTxs l2Txs') ↔
      EmptyExitFollowsExit (batchTxs l1UserTxs l1CoordinatorTxs l2Txs) := by
  have hflags : (l2Txs.map BatchTx.l2).map (fun t => (t.isEmptyExit, t.leavesExit)) =
      (l2Txs'.map BatchTx.l2).map fun t => (t.isEmptyExit, t.leavesExit) := by
    rw [List.map_map, List.map_map]
    induction h with
    | nil => rfl
    | cons hfilled _ ih =>
      rw [List.map_cons, List.map_cons, ih, hfilled.eq]
      rfl
  have hall : (batchTxs l1UserTxs l1CoordinatorTxs l2Txs).map (fun t => (t.isEmptyExit, t.leavesExit)) =
      (batchTxs l1UserTxs l1CoordinatorTxs l2Txs').map fun t => (t.isEmptyExit, t.leavesExit) := by
    rw [batchTxs, batchTxs, List.map_append, hflags, ← List.map_append]
  exact ⟨emptyExitFollowsExit_congr hall.symm, emptyExitFollowsExit_congr hall⟩

variable {state : StateDB} {config : Config}

theorem processTxs_intermediateStates_of_ok (hbuilder : state.typ = .batchBuilder) (hlt : config.maxTx < 2 ^ 32)
    (hhash : ∀ x xs, Libraries.poseidon (x :: xs) ≠ 0)
    (hok : processTxs coordIdxs l1UserTxs l1CoordinatorTxs l2Txs (newTxProcessor state config) = .ok out s') :
    (l1UserTxs.length + l1CoordinatorTxs.length = 0 ∨ l1UserTxs.length + l1CoordinatorTxs.length < config.maxTx) ∧
    ∃ zki bout r', out.zkInputs = some zki ∧
      Rollup.batch coordIdxs l1UserTxs l1CoordinatorTxs out.l2Txs (Rollup.start state) = some (bout, r') ∧
      (IntermediateStates config bout.coordIdxs bout.coordIdxsMap (batchTxs l1UserTxs l1CoordinatorTxs out.l2Txs)
        (Rollup.start state) zki ↔ ¬EmptyExitFollowsExit (batchTxs l1UserTxs l1CoordinatorTxs l2Txs)) := by
  obtain ⟨⟨-, hmax, -⟩, -⟩ := processTxs_batch hok
  obtain ⟨_, _, -, -, -, -, -, hfilled, -⟩ := processTxs_ok hok
  obtain ⟨s₁, run, zki, hparts, hinputs, hout, hl2, hidxs, -⟩ := processTxs_inputs hbuilder hlt hok
  obtain ⟨bout, hbatch, hcoordIdxs, hmap⟩ := hparts.batch
  have hstart := startBatch_rollup state config
  have hiff := hinputs.intermediateStates_iff hparts (by rw [hstart]; rfl)
    (by rw [hstart, Rollup.start, hbuilder]; rfl) rfl hidxs hmax hlt hhash
  rw [BatchRun.batchTxs, ← hl2, emptyExitFollowsExit_filledIn hfilled, ← hcoordIdxs, ← hmap, hstart] at hiff
  refine ⟨?_, s₁.finishZKInputs zki, bout, s₁.rollup, hout, by rw [hl2, ← hstart]; exact hbatch, ?_⟩
  · have hroom : l1UserTxs.length + l1CoordinatorTxs.length = 0 ∨
        l1UserTxs.length + l1CoordinatorTxs.length ≤ uint32Pred config.maxTx := by
      have hroom := hinputs.room
      simp only [startZKInputs, newZKInputs, newSlice, List.length_replicate] at hroom
      exact hroom
    rcases hroom with hzero | hroom
    · exact Or.inl hzero
    · rcases Nat.eq_zero_or_pos config.maxTx with hzero | hpos
      · exact Or.inl (by omega)
      · rw [uint32Pred_eq hpos hlt] at hroom
        exact Or.inr (by omega)
  · rw [← hiff]
    exact ⟨fun h => ⟨h.states, h.isOnChain⟩, fun h => ⟨h.states, h.isOnChain⟩⟩

/-- **The circuit inputs of an accepted batch hold its intermediate states**, when the L1 transactions do not fill
the batch and no exit of amount zero follows an exit, and only then. -/
theorem processTxs_intermediateStates (hbuilder : state.typ = .batchBuilder)
    (hlt : config.maxTx < 2 ^ 32) (hltFee : config.maxFeeTx < 2 ^ 32)
    (hhash : ∀ x xs, Libraries.poseidon (x :: xs) ≠ 0)
    (haccepts : ∀ e s', processTxs coordIdxs l1UserTxs l1CoordinatorTxs l2Txs (newTxProcessor state config) = .error e s' →
      e = .indexOutOfRange) :
    (∃ out s' zki bout r',
      processTxs coordIdxs l1UserTxs l1CoordinatorTxs l2Txs (newTxProcessor state config) = .ok out s' ∧
      out.zkInputs = some zki ∧
      Rollup.batch coordIdxs l1UserTxs l1CoordinatorTxs out.l2Txs (Rollup.start state) = some (bout, r') ∧
      IntermediateStates config bout.coordIdxs bout.coordIdxsMap (batchTxs l1UserTxs l1CoordinatorTxs out.l2Txs)
        (Rollup.start state) zki) ↔
    (l1UserTxs.length + l1CoordinatorTxs.length = 0 ∨ l1UserTxs.length + l1CoordinatorTxs.length < config.maxTx) ∧
      ¬EmptyExitFollowsExit (batchTxs l1UserTxs l1CoordinatorTxs l2Txs) := by
  constructor
  · rintro ⟨out, s', zki, bout, r', hok, hzki, hbatch, hstates⟩
    obtain ⟨hroom, zki', bout', r'', hzki', hbatch', hiff⟩ := processTxs_intermediateStates_of_ok hbuilder hlt hhash hok
    rw [hzki] at hzki'
    rw [hbatch] at hbatch'
    cases hzki'
    cases hbatch'
    exact ⟨hroom, hiff.mp hstates⟩
  · rintro ⟨hroom, hnone⟩
    have hroom' : l1UserTxs.length + l1CoordinatorTxs.length ≤ uint32Pred config.maxTx := by
      rcases hroom with hzero | hroom
      · omega
      · rw [uint32Pred_eq (by omega) hlt]
        omega
    have hbounds : InBoundsAt (newTxProcessor state config) (processTxs coordIdxs l1UserTxs l1CoordinatorTxs l2Txs) :=
      processTxs_inBounds hbuilder hroom' hlt hltFee
    cases hresult : processTxs coordIdxs l1UserTxs l1CoordinatorTxs l2Txs (newTxProcessor state config) with
    | error e s' =>
      cases haccepts e s' hresult
      exact absurd hresult (hbounds s')
    | ok out s' =>
      obtain ⟨-, zki, bout, r', hzki, hbatch, hiff⟩ := processTxs_intermediateStates_of_ok hbuilder hlt hhash hresult
      exact ⟨out, s', zki, bout, r', rfl, hzki, hbatch, hiff.mpr hnone⟩

end Run

end TxProcessor

def forcedExitOf (amount : Int) : L1Tx :=
  { fromIdx := 256, toIdx := 1, fromEthAddr := 7, amount, userOrigin := true, type := some .forceExit }

theorem forcedExits_intermediateStates :
    ∃ out s' zki bout r',
      @TxProcessor.processTxs plainLibraries [] [forcedExitOf 0, forcedExitOf 3] [] []
        (newTxProcessor (oneAccountState .batchBuilder) smallConfig) = .ok out s' ∧ out.zkInputs = some zki ∧
      @Rollup.batch plainLibraries [] [forcedExitOf 0, forcedExitOf 3] [] out.l2Txs
        (Rollup.start (oneAccountState .batchBuilder)) = some (bout, r') ∧
      @TxProcessor.IntermediateStates plainLibraries smallConfig bout.coordIdxs bout.coordIdxsMap
        (batchTxs [forcedExitOf 0, forcedExitOf 3] [] out.l2Txs) (Rollup.start (oneAccountState .batchBuilder)) zki := by
  have hrun : succeedsWith (fun _ _ => true) (@TxProcessor.processTxs plainLibraries [] [forcedExitOf 0, forcedExitOf 3] [] []
      (newTxProcessor (oneAccountState .batchBuilder) smallConfig)) = true := by decide +kernel
  obtain ⟨out, s', hout, -⟩ := exists_of_succeedsWith hrun
  refine (@TxProcessor.processTxs_intermediateStates plainLibraries _ _ _ _ _ _ rfl (by decide) (by decide)
    (fun _ _ => Nat.succ_ne_zero _) (fun e s' herror => ?_)).mpr ⟨Or.inr (by decide), ?_⟩
  · rw [hout] at herror
    cases herror
  · rintro ⟨i, j, t, t', hji, hi, -⟩
    rw [length_batchTxs] at hi
    simp at hi
    omega

/-- A forced exit of amount zero between two others leaves a zero among the exit roots, and forced exits that fill the
batch have no slot for the last one. -/
theorem forcedExits_break_intermediateStates :
    ((∃ out s', @TxProcessor.processTxs plainLibraries [] [forcedExitOf 3, forcedExitOf 0, forcedExitOf 3] [] []
        (newTxProcessor (oneAccountState .batchBuilder) smallConfig) = .ok out s') ∧
      ¬∃ out s' zki bout r',
        @TxProcessor.processTxs plainLibraries [] [forcedExitOf 3, forcedExitOf 0, forcedExitOf 3] [] []
          (newTxProcessor (oneAccountState .batchBuilder) smallConfig) = .ok out s' ∧ out.zkInputs = some zki ∧
        @Rollup.batch plainLibraries [] [forcedExitOf 3, forcedExitOf 0, forcedExitOf 3] [] out.l2Txs
          (Rollup.start (oneAccountState .batchBuilder)) = some (bout, r') ∧
        @TxProcessor.IntermediateStates plainLibraries smallConfig bout.coordIdxs bout.coordIdxsMap
          (batchTxs [forcedExitOf 3, forcedExitOf 0, forcedExitOf 3] [] out.l2Txs)
          (Rollup.start (oneAccountState .batchBuilder)) zki) ∧
    ∃ s', @TxProcessor.processTxs plainLibraries [] (List.replicate 4 (forcedExitOf 1)) [] []
        (newTxProcessor (oneAccountState .batchBuilder) smallConfig) = .error .indexOutOfRange s' := by
  have hrun : succeedsWith (fun _ _ => true) (@TxProcessor.processTxs plainLibraries []
      [forcedExitOf 3, forcedExitOf 0, forcedExitOf 3] [] []
      (newTxProcessor (oneAccountState .batchBuilder) smallConfig)) = true := by decide +kernel
  have hfull : failsWith .indexOutOfRange (@TxProcessor.processTxs plainLibraries [] (List.replicate 4 (forcedExitOf 1)) [] []
      (newTxProcessor (oneAccountState .batchBuilder) smallConfig)) = true := by decide +kernel
  obtain ⟨out, s', hout, -⟩ := exists_of_succeedsWith hrun
  refine ⟨⟨⟨out, s', hout⟩, ?_⟩, exists_of_failsWith hfull⟩
  rintro ⟨out, s', zki, bout, r', hok, hzki, hbatch, hstates⟩
  obtain ⟨-, zki', bout', r'', hzki', hbatch', hiff⟩ :=
    @TxProcessor.processTxs_intermediateStates_of_ok plainLibraries s' _ _ _ _ out _ _ rfl (by decide) (fun _ _ => Nat.succ_ne_zero _) hok
  rw [hzki] at hzki'
  rw [hbatch] at hbatch'
  cases hzki'
  cases hbatch'
  exact hiff.mp hstates ⟨1, 0, _, _, by decide, by decide, rfl, rfl, rfl, rfl⟩

end HermezRollup
