import HermezRollup.Endings
import HermezRollup.Synchronizer

/-! When the HistoryDB and the StateDB are in step, and how resets and reorganizations put them there.  The
HistoryDB says which batches there are; the StateDB goes back to the checkpoint of the last one. -/

namespace HermezRollup

open Fallible Checkpoints

namespace HistoryDB

variable {db db' : HistoryDB}

def lastBatchNum (db : HistoryDB) : Nat :=
  (db.getLastBatch.map Batch.batchNum).getD 0

theorem getSCVars_some {vars : ContractVariables} :
    db.getSCVars = some vars ↔ db.rollupVars.getLast? = some vars.rollup ∧ db.auctionVars.getLast? = some vars.auction ∧
      db.wDelayerVars.getLast? = some vars.wDelayer := by
  rw [getSCVars]
  cases db.rollupVars.getLast? with
  | none => simp
  | some rollup =>
    cases db.auctionVars.getLast? with
    | none => simp
    | some auction =>
      cases db.wDelayerVars.getLast? with
      | none => simp
      | some wDelayer =>
        obtain ⟨r, a, w⟩ := vars
        simp

theorem getSCVars_setSCVars (db : HistoryDB) (vars : ContractVariables) : (db.setSCVars vars).getSCVars = some vars := by
  rw [getSCVars_some]
  simp [setSCVars]

end HistoryDB

/-- The queries about slots succeed, and the contract agrees on who forges. -/
structure SlotAnswers.Agree (answers : SlotAnswers) : Prop where
  query : answers.query = none
  auctionCanForge : ∀ addr n, answers.auctionCanForge addr n = .ok true

/-- A reset meets no failure outside. -/
structure ResetAnswers.Fine {σ : Type} (answers : ResetAnswers σ) : Prop where
  getSCVars : answers.getSCVars = none
  setInitialSCVars : answers.setInitialSCVars = none
  addCoordinators : answers.addCoordinators = none
  getLastBatch : answers.getLastBatch = none
  stateDBReset : answers.stateDBReset.isNone
  getLastL1BatchBlockNum : answers.getLastL1BatchBlockNum = none
  getLastL1TxsNum : answers.getLastL1TxsNum = none
  slots : answers.slots.Agree

namespace Synchronizer

variable {σ ι : Type} {logic : StateLogic σ ι} {cfg : SyncConfig} {s s' : Synchronizer σ}

/-! ### The two stores -/

/-- The HistoryDB and the StateDB are in step. -/
structure InStep (logic : StateLogic σ ι) (s : Synchronizer σ) : Prop where
  batchNum : s.stateDB.current.batchNum = s.historyDB.lastBatchNum
  root : ∀ batch, s.historyDB.getLastBatch = some batch → logic.root s.stateDB.current.contents = batch.stateRoot
  vars : s.historyDB.getSCVars = some s.vars

/-- The batches of the HistoryDB have the roots of the checkpoints that are left of them. -/
structure Rooted (logic : StateLogic σ ι) (s : Synchronizer σ) : Prop where
  positive : ∀ batch ∈ s.historyDB.batches, 0 < batch.batchNum
  ascending : s.historyDB.batches.Pairwise fun batch batch' => batch.batchNum < batch'.batchNum
  roots : ∀ batch ∈ s.historyDB.batches, ∀ c, s.stateDB.checkpoints batch.batchNum = some c →
    c.batchNum = batch.batchNum ∧ logic.root c.contents = batch.stateRoot

/-- Checkpoints are only deleted. -/
def Fewer (s s' : Synchronizer σ) : Prop :=
  ∀ n c, s'.stateDB.checkpoints n = some c → s.stateDB.checkpoints n = some c

theorem Rooted.fewer (h : Rooted logic s) (hbatches : s'.historyDB.batches = s.historyDB.batches) (hfewer : Fewer s s') :
    Rooted logic s' := by
  refine ⟨?_, ?_, ?_⟩
  · rw [hbatches]
    exact h.positive
  · rw [hbatches]
    exact h.ascending
  · intro batch hmem c hc
    rw [hbatches] at hmem
    exact h.roots batch hmem c (hfewer _ _ hc)

theorem le_getLast {α : Type} {f : α → Nat} {l : List α} (h : l.Pairwise fun a b => f a < f b) {last a : α}
    (hlast : l.getLast? = some last) (hmem : a ∈ l) : f a ≤ f last := by
  obtain ⟨front, rfl⟩ := List.getLast?_eq_some_iff.mp hlast
  rw [List.pairwise_append] at h
  rcases List.mem_append.mp hmem with hfront | hlast
  · exact (h.2.2 a hfront last List.mem_cons_self).le
  · rw [List.mem_singleton] at hlast
    rw [hlast]

theorem Rooted.le_last (h : Rooted logic s) {batch : Batch} (hmem : batch ∈ s.historyDB.batches) :
    batch.batchNum ≤ s.historyDB.lastBatchNum := by
  have hlast := List.getLast?_eq_some_getLast (List.ne_nil_of_mem hmem)
  rw [HistoryDB.lastBatchNum, HistoryDB.getLastBatch, hlast]
  exact le_getLast h.ascending hlast hmem

/-! ### Resets -/

theorem ends_check_bind {β : Type} {fault : Option String} {f : Unit → SyncM σ β} {Q : β → Synchronizer σ → Prop}
    {E : Synchronizer σ → Prop} (herror : ∀ e, fault = some e → E s) (hok : fault = none → Ends (f ()) s Q E) :
    Ends (check fault >>= f) s Q E := by
  cases fault with
  | none => exact hok rfl
  | some e => exact herror e rfl

theorem ends_answer_bind {α β : Type} {x : Except String α} {f : α → SyncM σ β} {Q : β → Synchronizer σ → Prop}
    {E : Synchronizer σ → Prop} (herror : ∀ e, x = .error e → E s) (hok : ∀ a, x = .ok a → Ends (f a) s Q E) :
    Ends (answer x >>= f) s Q E :=
  ends_fromState_bind herror hok

/-- Only the statistics change. -/
def OnlyStats (s s' : Synchronizer σ) : Prop :=
  ∃ stats, s' = { s with stats := stats }

theorem InStep.onlyStats (h : InStep logic s) (hstats : OnlyStats s s') : InStep logic s' := by
  obtain ⟨stats, rfl⟩ := hstats
  exact ⟨h.batchNum, h.root, h.vars⟩

theorem checkedCoordinator_error {c : AuctionConstants} {vars : AuctionVariables} {tables : AuctionTables} {eth : EthView}
    {blockNum atBlock : Int} {slot : Slot} {e : String}
    (h : checkedCoordinator c vars tables eth blockNum slot atBlock = .error e) :
    ¬∀ addr n, eth.auctionCanForge addr n = .ok true := by
  intro hforge
  rw [checkedCoordinator] at h
  split at h
  · dsimp only at h
    rw [hforge] at h
    cases h
  · cases h

theorem ends_updateCurrentNextSlotIfSync (answers : SlotAnswers) (reset hasBatch : Bool) (s : Synchronizer σ) :
    Ends (updateCurrentNextSlotIfSync cfg answers reset hasBatch) s (fun _ => OnlyStats s)
      fun s' => OnlyStats s s' ∧ ¬answers.Agree := by
  rw [updateCurrentNextSlotIfSync]
  refine ends_get_bind (ends_check_bind ?_ fun _ => ends_answer_bind ?_ fun current _ => ends_answer_bind ?_ fun next _ => ?_)
  · intro e he
    refine ⟨⟨_, rfl⟩, fun hagree => ?_⟩
    rw [hagree.query, ite_self] at he
    cases he
  · intro e he
    exact ⟨⟨_, rfl⟩, fun hagree => checkedCoordinator_error he hagree.auctionCanForge⟩
  · intro e he
    exact ⟨⟨_, rfl⟩, fun hagree => checkedCoordinator_error he hagree.auctionCanForge⟩
  · exact Ends.modify ⟨_, rfl⟩

/-- The checkpoints of the batches in the HistoryDB are left. -/
def KeepsLast (s s' : Synchronizer σ) : Prop :=
  ∀ n ≤ s.historyDB.lastBatchNum, s'.stateDB.checkpoints n = s.stateDB.checkpoints n

/-- What a reset leaves alone: the blocks and the batches of the HistoryDB, and all of it once it has
variables. -/
structure WasReset (s s' : Synchronizer σ) : Prop where
  blocks : s'.historyDB.blocks = s.historyDB.blocks
  batches : s'.historyDB.batches = s.historyDB.batches
  historyDB : s.historyDB.getSCVars ≠ none → s'.historyDB = s.historyDB
  fewer : Fewer s s'

theorem WasReset.refl (s : Synchronizer σ) : WasReset s s :=
  ⟨rfl, rfl, fun _ => rfl, fun _ _ h => h⟩

theorem WasReset.onlyStats {s'' : Synchronizer σ} (h : WasReset s s') (hstats : OnlyStats s' s'') : WasReset s s'' := by
  obtain ⟨stats, rfl⟩ := hstats
  exact ⟨h.blocks, h.batches, h.historyDB, h.fewer⟩

theorem WasReset.rooted (h : WasReset s s') (hrooted : Rooted logic s) : Rooted logic s' :=
  hrooted.fewer h.batches h.fewer

theorem not_of_fault {P : Prop} {fault : Option String} (hpass : P → fault = none) {e : String} (he : fault = some e) :
    ¬P := by
  intro h
  rw [hpass h] at he
  cases he

theorem ends_resetVars (answers : ResetAnswers σ) (s : Synchronizer σ) :
    Ends (resetVars cfg answers) s
      (fun _ s' => s'.historyDB.getSCVars = some s'.vars ∧ WasReset s s' ∧ s'.stateDB = s.stateDB)
      fun s' => WasReset s s' ∧ ¬answers.Fine := by
  rw [resetVars]
  refine ends_check_bind (fun _ he => ⟨.refl s, not_of_fault (fun h => h.getSCVars) he⟩) fun _ => ends_get_bind ?_
  cases hvars : s.historyDB.getSCVars with
  | some vars => exact Ends.modify ⟨hvars, ⟨rfl, rfl, fun _ => rfl, fun _ _ h => h⟩, rfl⟩
  | none =>
    have hset := HistoryDB.getSCVars_setSCVars s.historyDB (HistoryDB.initialSCVars cfg.initVars)
    refine ends_check_bind (fun _ he => ⟨.refl s, not_of_fault (fun h => h.setInitialSCVars) he⟩) fun _ => ?_
    refine ends_modify_bind (ends_check_bind (fun _ he => ?_) fun _ => Ends.modify ?_)
    · exact ⟨⟨rfl, rfl, fun h => absurd hvars h, fun _ _ h => h⟩, not_of_fault (fun h => h.addCoordinators) he⟩
    · exact ⟨hset, ⟨rfl, rfl, fun h => absurd hvars h, fun _ _ h => h⟩, rfl⟩

/-- The StateDB after a reset to a batch. -/
structure AtCheckpoint (logic : StateLogic σ ι) (batchNum : Nat) (s s' : Synchronizer σ) : Prop where
  historyDB : s'.historyDB = s.historyDB
  vars : s'.vars = s.vars
  fewer : Fewer s s'
  kept : ∀ n ≤ batchNum, s'.stateDB.checkpoints n = s.stateDB.checkpoints n
  empty : batchNum = 0 → s'.stateDB.current = ⟨0, logic.empty⟩
  current : batchNum ≠ 0 → s.stateDB.checkpoints batchNum = some s'.stateDB.current

theorem prune_fewer (db : DB (AtBatch σ)) (keep : Nat → Bool) (n : Nat) (c : AtBatch σ)
    (h : (db.prune keep).checkpoints n = some c) : db.checkpoints n = some c := by
  rw [DB.prune] at h
  dsimp only at h
  split at h
  · exact h
  · cases h

theorem prune_kept (db : DB (AtBatch σ)) (batchNum n : Nat) (hn : n ≤ batchNum) :
    (db.prune (· ≤ batchNum)).checkpoints n = db.checkpoints n :=
  if_pos (decide_eq_true hn)

theorem ends_resetStateDB (fault : Option (ResetFault σ)) (batchNum : Nat) (s : Synchronizer σ) :
    Ends (resetStateDB logic fault batchNum) s (fun _ => AtCheckpoint logic batchNum s) fun s' =>
      s'.historyDB = s.historyDB ∧ Fewer s s' ∧ (fault.isNone → batchNum ≠ 0 ∧ s.stateDB.checkpoints batchNum = none) := by
  cases fault with
  | some f => exact ⟨rfl, prune_fewer s.stateDB f.kept, fun h => nomatch h⟩
  | none =>
    unfold Ends
    dsimp only [resetStateDB, DB.reset]
    by_cases hzero : batchNum = 0
    · rw [if_pos hzero]
      exact ⟨rfl, rfl, prune_fewer s.stateDB _, prune_kept s.stateDB batchNum, fun _ => rfl, fun h => absurd hzero h⟩
    · rw [if_neg hzero]
      cases hc : s.stateDB.checkpoints batchNum with
      | some c =>
        exact ⟨rfl, rfl, prune_fewer s.stateDB _, prune_kept s.stateDB batchNum, fun h => absurd h hzero, fun _ => hc⟩
      | none => exact ⟨rfl, prune_fewer s.stateDB _, fun _ => ⟨hzero, rfl⟩⟩

theorem AtCheckpoint.inStep (h : AtCheckpoint logic s.historyDB.lastBatchNum s s') (hrooted : Rooted logic s)
    (hvars : s.historyDB.getSCVars = some s.vars) : InStep logic s' := by
  have hat : s'.stateDB.current.batchNum = s.historyDB.lastBatchNum ∧
      ∀ batch, s.historyDB.getLastBatch = some batch → logic.root s'.stateDB.current.contents = batch.stateRoot := by
    cases hlast : s.historyDB.getLastBatch with
    | none =>
      have hnum : s.historyDB.lastBatchNum = 0 := by
        rw [HistoryDB.lastBatchNum, hlast]
        rfl
      refine ⟨?_, fun _ h => nomatch h⟩
      rw [h.empty hnum, hnum]
    | some batch =>
      have hmem : batch ∈ s.historyDB.batches := List.mem_of_getLast? hlast
      have hnum : s.historyDB.lastBatchNum = batch.batchNum := by
        rw [HistoryDB.lastBatchNum, hlast]
        rfl
      have hpositive := hrooted.positive batch hmem
      have hc := h.current (by omega)
      rw [hnum] at hc ⊢
      obtain ⟨hbatchNum, hroot⟩ := hrooted.roots batch hmem _ hc
      refine ⟨hbatchNum, ?_⟩
      rintro _ ⟨rfl⟩
      exact hroot
  refine ⟨?_, ?_, ?_⟩
  · rw [h.historyDB]
    exact hat.1
  · rw [h.historyDB]
    exact hat.2
  · rw [h.historyDB, h.vars]
    exact hvars

/-- The checkpoint of the last batch is there. -/
def HasLast (s : Synchronizer σ) : Prop :=
  s.historyDB.lastBatchNum ≠ 0 → s.stateDB.checkpoints s.historyDB.lastBatchNum ≠ none

theorem WasReset.lastBatchNum (h : WasReset s s') : s'.historyDB.lastBatchNum = s.historyDB.lastBatchNum := by
  rw [HistoryDB.lastBatchNum, HistoryDB.lastBatchNum, HistoryDB.getLastBatch, HistoryDB.getLastBatch, h.batches]

/-- A reset that went through. -/
structure ResetDone (logic : StateLogic σ ι) (s s' : Synchronizer σ) : Prop extends WasReset s s' where
  inStep : Rooted logic s → InStep logic s'
  kept : KeepsLast s s'

theorem ends_resetState (answers : ResetAnswers σ) (block : Block) (s : Synchronizer σ) :
    Ends (resetState logic cfg answers block) s (fun _ => ResetDone logic s)
      fun s' => WasReset s s' ∧ ¬(answers.Fine ∧ HasLast s) := by
  rw [resetState]
  refine Ends.bind ((ends_resetVars answers s).mono (fun _ _ h => h) fun _ h => ⟨h.1, fun hfine => h.2 hfine.1⟩) ?_
  rintro _ s₁ ⟨hvars, hreset, hstateDB⟩
  refine ends_check_bind (fun _ he => ⟨hreset, not_of_fault (fun h => h.1.getLastBatch) he⟩) fun _ => ends_get_bind ?_
  have hreset' : ∀ s', s'.historyDB = s₁.historyDB → Fewer s₁ s' → WasReset s s' := by
    intro s' hhistory hfewer
    refine ⟨?_, ?_, ?_, ?_⟩
    · rw [hhistory, hreset.blocks]
    · rw [hhistory, hreset.batches]
    · intro hsome
      rw [hhistory, hreset.historyDB hsome]
    · intro n c hc
      rw [← hstateDB]
      exact hfewer n c hc
  refine Ends.bind ((ends_resetStateDB answers.stateDBReset s₁.historyDB.lastBatchNum s₁).mono (fun _ _ h => h) ?_) ?_
  · rintro s' ⟨hhistory, hfewer, hmissing⟩
    refine ⟨hreset' s' hhistory hfewer, ?_⟩
    rintro ⟨hfine, hhas⟩
    obtain ⟨hpos, hnone⟩ := hmissing hfine.stateDBReset
    rw [hreset.lastBatchNum] at hpos hnone
    rw [hstateDB] at hnone
    exact hhas hpos hnone
  · intro _ s₂ hat
    have hreset₂ := hreset' s₂ hat.historyDB hat.fewer
    refine ends_check_bind (fun _ he => ⟨hreset₂, not_of_fault (fun h => h.1.getLastL1BatchBlockNum) he⟩) fun _ => ?_
    refine ends_check_bind (fun _ he => ⟨hreset₂, not_of_fault (fun h => h.1.getLastL1TxsNum) he⟩) fun _ => ?_
    refine ends_get_bind (ends_modify_bind ((ends_updateCurrentNextSlotIfSync answers.slots true false _).mono ?_ ?_))
    · rintro _ s' ⟨stats, rfl⟩
      refine ⟨hreset₂.onlyStats ⟨_, rfl⟩, ?_, ?_⟩
      · intro hrooted
        exact (hat.inStep (hreset.rooted hrooted) hvars).onlyStats ⟨_, rfl⟩
      · intro n hn
        rw [← hstateDB]
        exact hat.kept n (hn.trans hreset.lastBatchNum.ge)
    · rintro s' ⟨⟨stats, rfl⟩, hslots⟩
      exact ⟨hreset₂.onlyStats ⟨_, rfl⟩, fun h => hslots h.1.slots⟩

theorem ends_tryResetState (answers : ResetAnswers σ) (block : Block) (s : Synchronizer σ) :
    Ends (tryResetState logic cfg answers block) s
      (fun _ s' => ResetDone logic s s' ∧ s'.resetStateFailed = false)
      fun s' => WasReset s s' ∧ s'.resetStateFailed = true ∧ ¬(answers.Fine ∧ HasLast s) := by
  rw [tryResetState]
  refine Ends.bind (Q := fun result s' => match result with
    | .ok _ => ResetDone logic s s'
    | .error _ => WasReset s s' ∧ ¬(answers.Fine ∧ HasLast s)) (Ends.attempt ?_) ?_
  · exact (ends_resetState answers block s).mono (fun _ _ h => h) fun _ h _ => h
  · intro result s₁ hresult
    have hreset : ∀ failed, WasReset s s₁ → WasReset s { s₁ with resetStateFailed := failed } := fun _ h =>
      ⟨h.blocks, h.batches, h.historyDB, h.fewer⟩
    cases result with
    | ok a =>
      refine Ends.modify ⟨⟨hreset false hresult.toWasReset, ?_, hresult.kept⟩, rfl⟩
      intro hrooted
      have hinStep := hresult.inStep hrooted
      exact ⟨hinStep.batchNum, hinStep.root, hinStep.vars⟩
    | error e => exact ends_modify_bind (Ends.throw ⟨hreset true hresult.1, rfl, hresult.2⟩)

theorem ends_resetIntermediateState (answers : ResetAnswers σ) (s : Synchronizer σ) :
    Ends (resetIntermediateState logic cfg answers) s (fun _ s' => ResetDone logic s s' ∧ s'.resetStateFailed = false)
      fun s' => WasReset s s' ∧ (s'.resetStateFailed = true ∨ answers.getLastBlock ≠ none ∧ s' = s) := by
  rw [resetIntermediateState]
  cases hlast : answers.getLastBlock with
  | some e =>
    refine Ends.bind (Q := fun _ _ => False) (Ends.throw ⟨.refl s, .inr ⟨Option.some_ne_none e, rfl⟩⟩) ?_
    intro _ _ h
    exact h.elim
  | none =>
    rw [check, pure_bind]
    refine ends_get_bind ((ends_tryResetState answers _ s).mono (fun _ _ h => h) ?_)
    rintro s' ⟨hreset, hfailed, _⟩
    exact ⟨hreset, .inl hfailed⟩

/-- The HistoryDB of a reorganization, before the reset. -/
def reorganized (s : Synchronizer σ) (lastValidBlock : Nat) : Synchronizer σ :=
  { s with historyDB := s.historyDB.reorg lastValidBlock }

theorem Rooted.reorganized (h : Rooted logic s) (lastValidBlock : Nat) : Rooted logic (s.reorganized lastValidBlock) := by
  refine ⟨?_, ?_, ?_⟩
  · intro batch hmem
    exact h.positive batch (List.mem_of_mem_filter hmem)
  · exact h.ascending.filter _
  · intro batch hmem
    exact h.roots batch (List.mem_of_mem_filter hmem)

theorem ends_reorg (answers : ReorgAnswers σ) (uncleBlock : Block) (s : Synchronizer σ) :
    Ends (reorg logic cfg answers uncleBlock) s
      (fun n s' => ∃ block, findValidBlock answers s.historyDB cfg.startBlockNum uncleBlock.num none = .ok (some block) ∧
        n = block.num ∧ ResetDone logic (s.reorganized n) s' ∧ s'.resetStateFailed = false)
      fun s' => s' = s ∨ ∃ block, findValidBlock answers s.historyDB cfg.startBlockNum uncleBlock.num none = .ok (some block) ∧
        WasReset (s.reorganized block.num) s' ∧ s'.resetStateFailed = true ∧
        ¬(answers.reset.Fine ∧ HasLast (s.reorganized block.num)) := by
  rw [reorg]
  refine ends_fromState_bind (fun _ _ => .inl rfl) ?_
  intro found hfound
  cases found with
  | none => exact Ends.throw (.inl rfl)
  | some block =>
    refine ends_check_bind (fun _ _ => .inl rfl) fun _ => ends_modify_bind ?_
    refine Ends.bind ((ends_tryResetState answers.reset block (s.reorganized block.num)).mono (fun _ _ h => h) ?_) ?_
    · intro s' h
      exact .inr ⟨block, hfound, h⟩
    · intro _ s' h
      exact Ends.pure ⟨block, hfound, rfl, h⟩

end Synchronizer

end HermezRollup
