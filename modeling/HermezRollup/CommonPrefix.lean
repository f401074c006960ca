import HermezRollup.StoresInStep

/-! A reorganization of the HistoryDB against the canonical chain of Ethereum.  The search goes down from
the uncle block to the highest stored block with the hash of the canonical chain.  When there is none it ends at
the first block to sync, and keeps it. -/

namespace HermezRollup

open Fallible

namespace Synchronizer

variable {σ ι : Type} {logic : StateLogic σ ι} {cfg : SyncConfig} {s s' : Synchronizer σ} {canonical : Nat → Nat}
  {startBlockNum : Nat} {db : HistoryDB}

/-- A stored block has the hash of the canonical chain at its height. -/
def Canonical (canonical : Nat → Nat) (block : Block) : Prop :=
  block.hash = canonical block.num

/-- Blocks in the order of their numbers that agree with the canonical chain below a block that does. -/
structure Chain (canonical : Nat → Nat) (startBlockNum : Nat) (blocks : List Block) : Prop where
  ascending : blocks.Pairwise fun block block' => block.num < block'.num
  ancestors : ∀ block ∈ blocks, ∀ block' ∈ blocks, startBlockNum ≤ block.num → block.num ≤ block'.num →
    Canonical canonical block' → Canonical canonical block

/-- The Ethereum node answers from the canonical chain. -/
def AnswersFrom (canonical : Nat → Nat) (answers : ReorgAnswers σ) : Prop :=
  ∀ n hash, answers.ethBlockByNumber n = .ok hash → hash = canonical n

/-- A stored block that is not canonical, or the last one. -/
def Uncle (canonical : Nat → Nat) (db : HistoryDB) (block : Block) : Prop :=
  block ∈ db.blocks ∧ (¬Canonical canonical block ∨ db.getLastBlock = some block)

variable {block : Block}

theorem eq_of_num {blocks : List Block} (h : blocks.Pairwise fun block block' => block.num < block'.num)
    {block' : Block} (hmem : block ∈ blocks) (hmem' : block' ∈ blocks) (hnum : block.num = block'.num) :
    block = block' := by
  have hnodup : (blocks.map Block.num).Nodup := List.pairwise_map.mpr (h.imp fun hlt => hlt.ne)
  exact List.inj_on_of_nodup_map hnodup hmem hmem' hnum

theorem getBlock_some {n : Nat} (h : db.getBlock n = some block) : block ∈ db.blocks ∧ block.num = n := by
  rw [HistoryDB.getBlock] at h
  refine ⟨List.mem_of_find?_eq_some h, ?_⟩
  have hnum := List.find?_some h
  exact of_decide_eq_true hnum

/-! ### The search -/

/-- A stored block whose hash is not the one Ethereum has at its height. -/
def Replaced (answers : ReorgAnswers σ) (db : HistoryDB) (n : Nat) : Prop :=
  ∃ block hash, db.getBlock n = some block ∧ answers.ethBlockByNumber n = .ok hash ∧ block.hash ≠ hash

/-- Where the search from a height ends: at the first block that was not replaced, or at the start. -/
structure ForkPoint (answers : ReorgAnswers σ) (db : HistoryDB) (startBlockNum n : Nat) (block : Block) : Prop where
  stored : db.getBlock block.num = some block
  start_le : startBlockNum ≤ block.num
  le : block.num ≤ n
  above : ∀ m, block.num < m → m ≤ n → Replaced answers db m
  ends : answers.ethBlockByNumber block.num = .ok block.hash ∨ block.num = startBlockNum

variable {answers : ReorgAnswers σ}

theorem findValidBlock_round {n : Nat} {read : Option Block} {found : Block}
    (hstart : startBlockNum ≤ n) (h : findValidBlock answers db startBlockNum n read = .ok (some found)) :
    ∃ block, db.getBlock n = some block ∧ (answers.ethBlockByNumber n = .ok block.hash ∧ found = block ∨
      Replaced answers db n ∧ (n = 0 ∧ found = block ∨
        ∃ m, n = m + 1 ∧ findValidBlock answers db startBlockNum m (some block) = .ok (some found))) := by
  rw [findValidBlock.eq_def, if_neg (by omega)] at h
  obtain ⟨ethHash, heth, h⟩ := except_bind_ok.mp h
  split at h
  · cases h
  · cases h
  next block _ hblock =>
    refine ⟨block, hblock, ?_⟩
    split at h
    next heq =>
      cases h
      rw [heq]
      exact .inl ⟨heth, rfl⟩
    next hne =>
      refine .inr ⟨⟨block, ethHash, hblock, heth, hne⟩, ?_⟩
      cases n with
      | zero =>
        cases h
        exact .inl ⟨rfl, rfl⟩
      | succ m => exact .inr ⟨m, rfl, h⟩

theorem ForkPoint.here {n : Nat} (hblock : db.getBlock n = some block)
    (hstart : startBlockNum ≤ n) (hend : answers.ethBlockByNumber n = .ok block.hash ∨ n = startBlockNum) :
    ForkPoint answers db startBlockNum n block := by
  have hnum := (getBlock_some hblock).2
  subst hnum
  refine ⟨hblock, hstart, le_rfl, ?_, hend⟩
  intro m hlt hle
  omega

theorem ForkPoint.step {n : Nat} {found : Block} (hreplaced : Replaced answers db (n + 1))
    (h : ForkPoint answers db startBlockNum n found) : ForkPoint answers db startBlockNum (n + 1) found where
  stored := h.stored
  start_le := h.start_le
  le := h.le.trans (Nat.le_succ n)
  above := by
    intro m hlt hle
    rcases Nat.lt_or_ge n m with habove | hbelow
    · rwa [show m = n + 1 by omega]
    · exact h.above m hlt hbelow
  ends := h.ends

theorem findValidBlock_forkPoint {n : Nat} {read : Option Block} {found : Block}
    (hstart : startBlockNum ≤ n) (h : findValidBlock answers db startBlockNum n read = .ok (some found)) :
    ForkPoint answers db startBlockNum n found := by
  induction n generalizing read with
  | zero =>
    obtain ⟨block, hblock, ⟨hmatch, rfl⟩ | ⟨_, ⟨_, rfl⟩ | ⟨m, hm, _⟩⟩⟩ := findValidBlock_round hstart h
    · exact .here hblock hstart (.inl hmatch)
    · exact .here hblock hstart (.inr (by omega))
    · cases hm
  | succ n ih =>
    obtain ⟨block, hblock, ⟨hmatch, rfl⟩ | ⟨hreplaced, ⟨hzero, _⟩ | ⟨m, ⟨⟩, hrest⟩⟩⟩ := findValidBlock_round hstart h
    · exact .here hblock hstart (.inl hmatch)
    · cases hzero
    · by_cases hbelow : n < startBlockNum
      · -- the loop ends below the start, with the block it read last
        rw [findValidBlock.eq_def, if_pos hbelow] at hrest
        cases hrest
        exact .here hblock hstart (.inr (by omega))
      · exact (ih (not_lt.mp hbelow) hrest).step hreplaced

theorem Replaced.not_canonical (hanswers : AnswersFrom canonical answers)
    (hchain : Chain canonical startBlockNum db.blocks) (hmem : block ∈ db.blocks)
    (h : Replaced answers db block.num) : ¬Canonical canonical block := by
  obtain ⟨block', hash, hblock, heth, hne⟩ := h
  obtain ⟨hmem', hnum⟩ := getBlock_some hblock
  rw [eq_of_num hchain.ascending hmem' hmem hnum] at hne
  rw [Canonical, ← hanswers block.num hash heth]
  exact hne

theorem startBlockNum_le {n : Nat} {found : Block}
    (h : findValidBlock answers db startBlockNum n none = .ok (some found)) : startBlockNum ≤ n := by
  by_contra hlt
  rw [findValidBlock.eq_def, if_pos (not_le.mp hlt)] at h
  cases h

theorem Uncle.above {uncleBlock : Block} (h : Uncle canonical db uncleBlock)
    (hchain : Chain canonical startBlockNum db.blocks) (hstart : startBlockNum ≤ uncleBlock.num)
    (hmem : block ∈ db.blocks) (hlt : uncleBlock.num < block.num) : ¬Canonical canonical block := by
  intro hmatch
  rcases h.2 with hno | hlast
  · exact hno (hchain.ancestors uncleBlock h.1 block hmem hstart hlt.le hmatch)
  · exact absurd (le_getLast hchain.ascending hlast hmem) (not_le.mpr hlt)

/-- What a reorganization that returns `n` should leave of the blocks. -/
structure CommonPrefix (canonical : Nat → Nat) (startBlockNum : Nat) (before : HistoryDB) (n : Nat) (after : HistoryDB) :
    Prop where
  left : ∀ block ∈ after.blocks, startBlockNum ≤ block.num → Canonical canonical block
  last : after.getLastBlock.map Block.num = some n
  kept : ∀ block ∈ before.blocks, Canonical canonical block → block ∈ after.blocks

theorem getLastBlock_reorg (hchain : Chain canonical startBlockNum db.blocks) (hmem : block ∈ db.blocks) :
    (db.reorg block.num).getLastBlock = some block := by
  have hmem' : block ∈ (db.reorg block.num).blocks := List.mem_filter.mpr ⟨hmem, decide_eq_true le_rfl⟩
  have hlast := List.getLast?_eq_some_getLast (List.ne_nil_of_mem hmem')
  have hlastMem := List.mem_filter.mp (List.mem_of_getLast? hlast)
  have hle := le_getLast (hchain.ascending.filter _) hlast hmem'
  have hge := of_decide_eq_true hlastMem.2
  rw [HistoryDB.getLastBlock, hlast]
  exact congrArg some (eq_of_num hchain.ascending hmem hlastMem.1 (le_antisymm hle hge)).symm

/-- A reorganization keeps exactly the common part with the canonical chain when there is one, that is when a
stored block at or after the first block to sync is canonical. -/
theorem reorg_commonPrefix_iff {answers : ReorgAnswers σ} {uncleBlock : Block} {n : Nat}
    (hchain : Chain canonical cfg.startBlockNum s.historyDB.blocks) (hanswers : AnswersFrom canonical answers)
    (huncle : Uncle canonical s.historyDB uncleBlock) (hrun : reorg logic cfg answers uncleBlock s = .ok n s') :
    CommonPrefix canonical cfg.startBlockNum s.historyDB n s'.historyDB ↔
      ∃ block ∈ s.historyDB.blocks, cfg.startBlockNum ≤ block.num ∧ Canonical canonical block := by
  obtain ⟨found, hfind, rfl, hdone, _⟩ := (ends_reorg answers uncleBlock s).of_ok hrun
  have hstart := startBlockNum_le hfind
  have hfork := findValidBlock_forkPoint hstart hfind
  have hstored := (getBlock_some hfork.stored).1
  have hblocks : s'.historyDB.blocks = (s.historyDB.reorg found.num).blocks := hdone.blocks
  have hleft : ∀ block, block ∈ s'.historyDB.blocks ↔ block ∈ s.historyDB.blocks ∧ block.num ≤ found.num := by
    intro block
    rw [hblocks, HistoryDB.reorg, List.mem_filter, decide_eq_true_iff]
  constructor
  · intro h
    exact ⟨found, hstored, hfork.start_le, h.left found ((hleft found).mpr ⟨hstored, le_rfl⟩) hfork.start_le⟩
  · rintro ⟨block, hmem, hge, hmatch⟩
    -- a canonical block above the one found would have ended the search
    have hnone : ∀ block ∈ s.historyDB.blocks, found.num < block.num → ¬Canonical canonical block := by
      intro block hmem hlt
      rcases Nat.lt_or_ge uncleBlock.num block.num with habove | hbelow
      · exact huncle.above hchain hstart hmem habove
      · exact (hfork.above block.num hlt hbelow).not_canonical hanswers hchain hmem
    have hcanonical : Canonical canonical found := by
      rcases hfork.ends with hmatch | hfirst
      · exact hanswers found.num found.hash hmatch
      · rcases Nat.lt_or_ge found.num block.num with hlt | hle
        · exact absurd hmatch (hnone block hmem hlt)
        · rwa [eq_of_num hchain.ascending hstored hmem (by omega)]
    refine ⟨?_, ?_, ?_⟩
    · intro block hmem hge
      obtain ⟨hmem, hle⟩ := (hleft block).mp hmem
      exact hchain.ancestors block hmem found hstored hge hle hcanonical
    · rw [HistoryDB.getLastBlock, hblocks]
      exact congrArg (Option.map Block.num) (getLastBlock_reorg hchain hstored)
    · intro block hmem hmatch
      refine (hleft block).mpr ⟨hmem, not_lt.mp fun hlt => ?_⟩
      exact hnone block hmem hlt hmatch

def emptyBlock (num hash parentHash : Nat) : SyncAnswers Nat Nat where
  ethBlockByNumber := .ok (some ⟨⟨num, hash⟩, parentHash⟩)
  updateEth := .ok num
  reorg := { ethBlockByNumber := fun _ => .error "not found" }

def twoBlocks : Synchronizer Nat :=
  finalState (sync sampleLogic sampleConfig (emptyBlock 2 22 11) none
    (finalState (sync sampleLogic sampleConfig (blockWithBatch none none) none startedNode)))

theorem twoBlocks_blocks : twoBlocks.historyDB.blocks = [⟨0, 0⟩, ⟨1, 11⟩, ⟨2, 22⟩] := rfl

theorem twoBlocks_chain (h : canonical 2 ≠ 22) : Chain canonical 1 twoBlocks.historyDB.blocks := by
  rw [twoBlocks_blocks]
  refine ⟨by decide, ?_⟩
  intro block hmem block' hmem' hge hle hmatch
  simp only [List.mem_cons, List.not_mem_nil, or_false] at hmem hmem'
  rcases hmem with rfl | rfl | rfl
  · cases hge
  · rcases hmem' with rfl | rfl | rfl
    · cases hle
    · exact hmatch
    · exact absurd hmatch.symm h
  · rcases hmem' with rfl | rfl | rfl
    · cases hle
    · exact absurd hle (by decide)
    · exact hmatch

theorem reorg_commonPrefix_iff_lastReplaced :
    ∃ s', reorg sampleLogic sampleConfig { ethBlockByNumber := fun n => .ok (n + 10) } ⟨2, 22⟩ twoBlocks = .ok 1 s' ∧
      CommonPrefix (· + 10) 1 twoBlocks.historyDB 1 s'.historyDB := by
  have hchain : Chain (· + 10) sampleConfig.startBlockNum twoBlocks.historyDB.blocks := twoBlocks_chain (by decide)
  have hanswers : AnswersFrom (· + 10) ({ ethBlockByNumber := fun n => .ok (n + 10) } : ReorgAnswers Nat) := by
    intro n hash h
    cases h
    rfl
  have hmem : (⟨2, 22⟩ : Block) ∈ twoBlocks.historyDB.blocks := by
    rw [twoBlocks_blocks]
    decide
  obtain ⟨s', hrun⟩ : ∃ s', reorg sampleLogic sampleConfig { ethBlockByNumber := fun n => .ok (n + 10) } ⟨2, 22⟩ twoBlocks =
      .ok 1 s' := ⟨_, rfl⟩
  refine ⟨s', hrun, (reorg_commonPrefix_iff hchain hanswers ⟨hmem, .inr rfl⟩ hrun).mpr ?_⟩
  rw [twoBlocks_blocks]
  exact ⟨⟨1, 11⟩, by decide, by decide, rfl⟩

/-- Both blocks were replaced.  The reorganization returns 1 and keeps block 1. -/
theorem reorg_keeps_replacedBlock :
    ∃ s', reorg sampleLogic sampleConfig { ethBlockByNumber := fun _ => .ok 99 } ⟨2, 22⟩ twoBlocks = .ok 1 s' ∧
      Chain (fun _ => 99) 1 twoBlocks.historyDB.blocks ∧ Uncle (fun _ => 99) twoBlocks.historyDB ⟨2, 22⟩ ∧
      ⟨1, 11⟩ ∈ s'.historyDB.blocks ∧ ¬CommonPrefix (fun _ => 99) 1 twoBlocks.historyDB 1 s'.historyDB := by
  refine ⟨_, rfl, twoBlocks_chain (by decide), ⟨?_, .inr rfl⟩, ?_, ?_⟩
  · rw [twoBlocks_blocks]
    decide
  · exact List.mem_cons_of_mem _ List.mem_cons_self
  · intro h
    have hmatch := h.left ⟨1, 11⟩ (List.mem_cons_of_mem _ List.mem_cons_self) le_rfl
    exact absurd hmatch (by decide : (11 : Nat) ≠ 99)

end Synchronizer

end HermezRollup
