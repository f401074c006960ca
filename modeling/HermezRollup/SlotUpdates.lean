import HermezRollup.AuctionWinner

/-! The current and the next slot as the node keeps them from block to block, against the slots that it
computes from nothing after a restart.  Each look-up of a winner writes only some fields of the slot that
is kept, so what the fields hold depends on the results of the look-ups before. -/

namespace HermezRollup

open Fallible

/-! ### Results of the look-up of a winner -/

/-- What `setSlotCoordinator` finds for a slot; `unset` when it is not called. -/
inductive SlotResult
  | unset
  | noBid
  | belowDefault
  | won
  deriving DecidableEq, Repr

def slotResult (c : AuctionConstants) (db : AuctionTables) (eth : EthView) (blockNum slotNum : Int) : SlotResult :=
  if eth.synced ∧ c.genesisBlockNum ≤ blockNum then
    match db.getBestBidCoordinator slotNum with
    | none => .noBid
    | some bidCoord =>
      if bidCoord.defaultSlotSetBid (Fin.ofNat 6 (slotNum.tmod 6).toNat) ≤ bidCoord.bidValue then .won else .belowDefault
  else .unset

/-- A result writes every field that the result before it may have left different from zero. -/
def SlotResult.overwrites : SlotResult → SlotResult → Bool
  | _, .unset | .noBid, .noBid | .belowDefault, .noBid | .belowDefault, .belowDefault | .won, .won => true
  | _, _ => false

namespace Slot

/-- The fields that are still zero after a result. -/
def ZeroAfter (slot : Slot) : SlotResult → Prop
  | .unset => slot.bidValue = 0 ∧ slot.defaultSlotBid = 0 ∧ slot.bootCoord = false ∧ slot.bidder = 0 ∧
      slot.forger = 0 ∧ slot.url = ""
  | .noBid => slot.bidValue = 0 ∧ slot.defaultSlotBid = 0 ∧ slot.bidder = 0
  | .belowDefault => slot.bidder = 0
  | .won => slot.bootCoord = false

theorem ZeroAfter.place {slot : Slot} {result : SlotResult} (h : slot.ZeroAfter result) (slotNum startBlock endBlock : Int)
    (forgerCommitment : Bool) :
    { slot with slotNum, startBlock, endBlock, forgerCommitment }.ZeroAfter result := by
  cases result <;> exact h

theorem zeroAfter_unset : ({} : Slot).ZeroAfter .unset :=
  ⟨rfl, rfl, rfl, rfl, rfl, rfl⟩

/-- Slots with the same number, blocks and commitment. -/
structure SamePlace (slot slot' : Slot) : Prop where
  slotNum : slot.slotNum = slot'.slotNum
  startBlock : slot.startBlock = slot'.startBlock
  endBlock : slot.endBlock = slot'.endBlock
  forgerCommitment : slot.forgerCommitment = slot'.forgerCommitment

end Slot

section Lookup

variable {c : AuctionConstants} {vars : AuctionVariables} {db : AuctionTables} {eth : EthView} {blockNum atBlock : Int}
  {slot slot' : Slot} {old : SlotResult}

theorem setSlotCoordinator_overwrites (hsame : slot.SamePlace slot') (hold : slot.ZeroAfter old)
    (hzero : slot'.ZeroAfter .unset) (hset : eth.synced = true ∧ c.genesisBlockNum ≤ blockNum)
    (hover : (slotResult c db eth blockNum slot.slotNum).overwrites old = true) :
    setSlotCoordinator vars db slot = setSlotCoordinator vars db slot' := by
  obtain ⟨slotNum, defaultSlotBid, startBlock, endBlock, forgerCommitment, bidValue, bootCoord, bidder, forger, url⟩ := slot
  obtain ⟨slotNum', defaultSlotBid', startBlock', endBlock', forgerCommitment', bidValue', bootCoord', bidder',
    forger', url'⟩ := slot'
  obtain ⟨rfl, rfl, rfl, rfl⟩ := hsame
  obtain ⟨rfl, rfl, rfl, rfl, rfl, rfl⟩ := hzero
  rw [slotResult, if_pos hset] at hover
  simp only [setSlotCoordinator]
  cases hbid : db.getBestBidCoordinator slotNum with
  | none =>
    rw [hbid] at hover
    cases old with
    | unset | noBid => simp_all [withBootCoordinator, Slot.ZeroAfter]
    | belowDefault | won => cases hover
  | some bidCoord =>
    rw [hbid] at hover
    dsimp only at hover ⊢
    by_cases hwon : bidCoord.defaultSlotSetBid (Fin.ofNat 6 (slotNum.tmod 6).toNat) ≤ bidCoord.bidValue
    · rw [if_pos hwon] at hover
      rw [if_pos hwon, if_pos hwon]
      cases old with
      | unset | won => simp_all [Slot.ZeroAfter]
      | noBid | belowDefault => cases hover
    · rw [if_neg hwon] at hover
      rw [if_neg hwon, if_neg hwon]
      cases old with
      | unset | noBid | belowDefault => simp_all [withBootCoordinator, Slot.ZeroAfter]
      | won => cases hover

theorem checkedCoordinator_overwrites (hsame : slot.SamePlace slot') (hold : slot.ZeroAfter old)
    (hzero : slot'.ZeroAfter .unset) (hover : (slotResult c db eth blockNum slot.slotNum).overwrites old = true) :
    checkedCoordinator c vars db eth blockNum slot atBlock = checkedCoordinator c vars db eth blockNum slot' atBlock := by
  rw [checkedCoordinator, checkedCoordinator]
  by_cases hset : eth.synced = true ∧ c.genesisBlockNum ≤ blockNum
  · rw [if_pos hset, if_pos hset, setSlotCoordinator_overwrites hsame hold hzero hset hover]
  · rw [slotResult, if_neg hset] at hover
    rw [if_neg hset, if_neg hset]
    cases old with
    | unset =>
      refine congrArg Except.ok ?_
      cases slot
      cases slot'
      obtain ⟨rfl, rfl, rfl, rfl⟩ := hsame
      obtain ⟨rfl, rfl, rfl, rfl, rfl, rfl⟩ := hold
      obtain ⟨rfl, rfl, rfl, rfl, rfl, rfl⟩ := hzero
      rfl
    | noBid | belowDefault | won => cases hover

theorem checkedCoordinator_zeroAfter (hzero : slot.ZeroAfter .unset)
    (h : checkedCoordinator c vars db eth blockNum slot atBlock = .ok slot') :
    slot'.ZeroAfter (slotResult c db eth blockNum slot.slotNum) := by
  rw [checkedCoordinator] at h
  rw [slotResult]
  by_cases hset : eth.synced = true ∧ c.genesisBlockNum ≤ blockNum
  · rw [if_pos hset] at h ⊢
    obtain ⟨canForge, -, h⟩ := except_bind_ok.mp h
    have hslot : slot' = setSlotCoordinator vars db slot := by
      split at h
      · cases h
        rfl
      · cases h
    obtain ⟨hbid, hdefault, hboot, hbidder, -, -⟩ := hzero
    rw [hslot, setSlotCoordinator]
    cases db.getBestBidCoordinator slot.slotNum with
    | none => exact ⟨hbid, hdefault, hbidder⟩
    | some bidCoord =>
      dsimp only
      by_cases hwon : bidCoord.defaultSlotSetBid (Fin.ofNat 6 (slot.slotNum.tmod 6).toNat) ≤ bidCoord.bidValue
      · rw [if_pos hwon, if_pos hwon]
        exact hboot
      · rw [if_neg hwon, if_neg hwon]
        exact hbidder
  · rw [if_neg hset] at h ⊢
    cases h
    exact hzero

end Lookup

/-! ### Runs of a node -/

namespace ForgingSystem

variable {sys sys' : ForgingSystem} {txs : List AuctionTx} {eth eth' : EthView} {nextSlot nextSlot' : Slot}

/-- The current and the next slot are those that the node computes from zero-valued slots with the reset
flag. -/
def FromScratch (sys : ForgingSystem) (nextSlot : Slot) (eth : EthView) : Prop :=
  updateCurrentSlot sys.constants sys.vars sys.db eth (sys.nextBlock - 1) {} true false = .ok sys.slot ∧
    updateNextSlot sys.constants sys.vars sys.db eth (sys.nextBlock - 1) {} = .ok nextSlot

/-- What the look-ups before block `nextBlock` find for the current slot and for the next one. -/
def slotResults (sys : ForgingSystem) (eth : EthView) : SlotResult × SlotResult :=
  let slotNum := sys.constants.slotNum sys.nextBlock
  (slotResult sys.constants sys.db eth sys.nextBlock slotNum, slotResult sys.constants sys.db eth sys.nextBlock (slotNum + 1))

/-- The winners found after a block overwrite those found before it, for the current and for the next
slot. -/
def Overwrites (sys : ForgingSystem) (eth : EthView) (sys' : ForgingSystem) (eth' : EthView) : Prop :=
  (sys'.slotResults eth').1.overwrites (sys.slotResults eth).1 = true ∧
    (sys'.slotResults eth').2.overwrites (sys.slotResults eth).2 = true

/-- A node with the slot it keeps for the next slot and its last view of Ethereum.  It is started after
some block, and syncs blocks one by one, some of them with a reset; the slot deadline is constant and
smaller than a slot.  Once in sync, the node stays in sync.  `allowed` limits the blocks. -/
inductive Kept (allowed : ForgingSystem → EthView → ForgingSystem → EthView → Prop) :
    ForgingSystem → Slot → EthView → Prop
  | start (sys : ForgingSystem) (slot nextSlot : Slot) (eth : EthView) (hsys : FromInit (fun _ _ => True) sys)
      (hdeadline : sys.vars.slotDeadline.toNat < blocksPerSlot)
      (hscratch : FromScratch { sys with slot := slot } nextSlot eth) :
      Kept allowed { sys with slot := slot } nextSlot eth
  | block (sys sys' : ForgingSystem) (slot nextSlot nextSlot' : Slot) (eth eth' : EthView) (txs : List AuctionTx)
      (reset : Bool) (hkept : Kept allowed sys nextSlot eth) (hallowed : allowed sys eth { sys' with slot := slot } eth')
      (hblocks : ∀ tx ∈ txs, tx.msg.blockNumber = sys.nextBlock) (hfits : sys.nextBlock < 2 ^ 63)
      (hsenders : ∀ tx ∈ txs, tx.msg.sender ≠ 0) (hadd : sys.addBlock txs = .ok sys')
      (hdeadline : sys'.vars.slotDeadline = sys.vars.slotDeadline) (hsynced : eth.synced = true → eth'.synced = true)
      (hslot : updateCurrentSlot sys'.constants sys'.vars sys'.db eth' sys.nextBlock sys.slot reset (sys.hasBatch txs) =
        .ok slot)
      (hnext : updateNextSlot sys'.constants sys'.vars sys'.db eth' sys.nextBlock nextSlot = .ok nextSlot') :
      Kept allowed { sys' with slot := slot } nextSlot' eth'

/-! ### Batches in the tables -/

theorem addBlock_batches (hblocks : ∀ tx ∈ txs, tx.msg.blockNumber = sys.nextBlock) (hfits : sys.nextBlock < 2 ^ 63)
    (h : sys.addBlock txs = .ok sys') : sys.BatchesAdded txs sys' := by
  have hfollows := AuctionView.follows_runBlock (sys.auction.view_tracks _) hblocks (by omega)
  obtain ⟨⟨vars, data⟩, -, h⟩ := except_bind_ok.mp h
  cases h
  refine ⟨rfl, ?_, ⟨_, rfl, batchRows_ne_nil, ?_⟩, fun hbatch => hfollows.1.genesis_le hbatch⟩
  · rw [← hfollows.2.genesisBlock, AuctionView.foldl_record_genesisBlock]
    rfl
  · intro row hmem
    obtain ⟨i, -, rfl⟩ := List.mem_map.mp hmem
    exact ⟨rfl, rfl⟩

theorem FromInit.batchesOrdered {allowed : ForgingSystem → List AuctionTx → Prop} (h : FromInit allowed sys) :
    sys.BatchesOrdered := by
  induction h with
  | init g a slot hinit => exact ⟨List.Pairwise.nil, fun row hmem => absurd hmem List.not_mem_nil⟩
  | block sys sys' txs hsys hallowed hblocks hfits hsenders hadd ih => exact ih.addBlock (addBlock_batches hblocks hfits hadd)

/-! ### The commitment of the forger -/

/-- A batch of the slot of the next block met the deadline. -/
def HasTimelyBatch (sys : ForgingSystem) : Prop :=
  ∃ row ∈ sys.db.batches, row.slotNum = sys.constants.slotNum sys.nextBlock ∧
    sys.constants.relativeBlock row.ethBlockNum < sys.vars.slotDeadline.toNat

/-- With the reset flag the commitment tells whether there is one. -/
theorem updateCommitment_reset_iff (h : sys.BatchesOrdered) {lastBlockNum : Int} (hlast : lastBlockNum + 1 = sys.nextBlock)
    (slot : Slot) (hasBatch : Bool) :
    (updateCommitment sys.constants sys.vars sys.db lastBlockNum slot true hasBatch).forgerCommitment = true ↔
      sys.HasTimelyBatch := by
  rw [HasTimelyBatch, h.first_iff]
  simp only [updateCommitment, hlast, if_true, true_or, Bool.false_or, Bool.and_eq_true, decide_eq_true_eq]
  cases sys.db.getFirstBatchBlockNumBySlot (sys.constants.slotNum sys.nextBlock) with
  | none => simp
  | some block => simp

theorem relative_lastBlock {genesis block : Nat} (h : genesis ≤ block)
    (hlast : (block - genesis) / blocksPerSlot < (block + 1 - genesis) / blocksPerSlot) :
    block - ((block - genesis) / blocksPerSlot * blocksPerSlot + genesis) = blocksPerSlot - 1 := by
  rw [blocksPerSlot] at *
  omega

theorem updateCommitment_kept (h : sys.BatchesOrdered) (hadded : sys.BatchesAdded txs sys')
    (hdeadline : sys.vars.slotDeadline.toNat < blocksPerSlot) (hconst : sys'.vars.slotDeadline = sys.vars.slotDeadline)
    (hnum : sys.slot.slotNum = sys.constants.slotNum sys.nextBlock)
    (hcommitment : sys.slot.forgerCommitment = true ↔ sys.HasTimelyBatch) :
    (updateCommitment sys'.constants sys'.vars sys'.db sys.nextBlock sys.slot false
        (sys.hasBatch txs)).forgerCommitment = true ↔ sys'.HasTimelyBatch := by
  obtain ⟨rows, hbatches, hrows, hrow⟩ := hadded.batches
  rw [HasTimelyBatch] at hcommitment ⊢
  have hconstants : sys'.constants = sys.constants := by rw [constants, constants, hadded.genesisBlock]
  have hnext : (sys.nextBlock : Int) + 1 = sys'.nextBlock := by
    rw [hadded.nextBlock]
    push_cast
    rfl
  simp only [updateCommitment, hnext, hconstants, hconst, hnum, hbatches, Bool.false_eq_true, if_false, false_or,
    Option.getD_none, Bool.or_eq_true, Bool.and_eq_true, decide_eq_true_eq, List.mem_append, or_and_right, exists_or]
  by_cases hgenesis : sys.auction.genesisBlock ≤ sys.nextBlock
  · have hslot : sys.constants.slotNum sys.nextBlock = ((sys.nextBlock - sys.auction.genesisBlock) / blocksPerSlot : Nat) :=
      slotNum_natCast hgenesis
    have hslot' : sys.constants.slotNum sys'.nextBlock =
        ((sys.nextBlock + 1 - sys.auction.genesisBlock) / blocksPerSlot : Nat) := by
      rw [hadded.nextBlock]
      exact slotNum_natCast (hgenesis.trans (Nat.le_succ _))
    have hnewRow : (∃ row ∈ rows, row.slotNum = sys.constants.slotNum sys'.nextBlock ∧
        sys.constants.relativeBlock row.ethBlockNum < sys.vars.slotDeadline.toNat) ↔
        sys.hasBatch txs = true ∧ sys.constants.slotNum sys.nextBlock = sys.constants.slotNum sys'.nextBlock ∧
          sys.constants.relativeBlock sys.nextBlock < sys.vars.slotDeadline.toNat := by
      constructor
      · rintro ⟨row, hmem, hsame, hlt⟩
        rw [(hrow row hmem).2] at hsame
        rw [(hrow row hmem).1] at hlt
        exact ⟨hrows.mp (List.ne_nil_of_mem hmem), hsame, hlt⟩
      · rintro ⟨hbatch, hsame, hlt⟩
        obtain ⟨row, hmem⟩ := List.exists_mem_of_ne_nil _ (hrows.mpr hbatch)
        refine ⟨row, hmem, (hrow row hmem).2.trans hsame, ?_⟩
        rwa [(hrow row hmem).1]
    rw [hnewRow]
    by_cases hnew : sys.constants.slotNum sys.nextBlock < sys.constants.slotNum sys'.nextBlock
    · -- a new slot begins: no batch is of it, and the last block of a slot is after the deadline
      have hnone : ¬∃ row ∈ sys.db.batches, row.slotNum = sys.constants.slotNum sys'.nextBlock ∧
          sys.constants.relativeBlock row.ethBlockNum < sys.vars.slotDeadline.toNat := by
        rintro ⟨row, hmem, hsame, -⟩
        obtain ⟨block, hge, hlt, -, hrowSlot⟩ := h.rows row hmem
        have hle : (block - sys.auction.genesisBlock) / blocksPerSlot ≤
            (sys.nextBlock - sys.auction.genesisBlock) / blocksPerSlot := Nat.div_le_div_right (by omega)
        omega
      have hlate : ¬sys.constants.relativeBlock sys.nextBlock < sys.vars.slotDeadline.toNat := by
        have hrelative : sys.constants.relativeBlock sys.nextBlock =
            (sys.nextBlock - ((sys.nextBlock - sys.auction.genesisBlock) / blocksPerSlot * blocksPerSlot +
              sys.auction.genesisBlock) : Nat) := relativeBlock_natCast hgenesis
        rw [hslot, hslot', Nat.cast_lt] at hnew
        rw [hrelative, relative_lastBlock hgenesis hnew, Nat.cast_lt, not_lt]
        exact Nat.le_pred_of_lt hdeadline
      rw [if_pos hnew]
      simp only [hnone, hlate, Bool.false_eq_true, and_false, or_self]
    · have hsame : sys.constants.slotNum sys'.nextBlock = sys.constants.slotNum sys.nextBlock := by
        rw [hslot, hslot', Nat.cast_lt] at hnew
        rw [hslot, hslot', Nat.cast_inj]
        rw [blocksPerSlot] at *
        omega
      rw [hsame, if_neg (lt_irrefl _), hcommitment]
      simp only [true_and]
  · -- before genesis there are no batches
    have hold : sys.db.batches = [] := by
      refine List.eq_nil_iff_forall_not_mem.mpr fun row hmem => ?_
      obtain ⟨block, hge, hlt, -, -⟩ := h.rows row hmem
      omega
    have hbatch : sys.hasBatch txs ≠ true := fun hbatch => hgenesis (hadded.genesis_le hbatch)
    have hnil : rows = [] := not_not.mp fun hne => hbatch (hrows.mp hne)
    have hfalse : sys.slot.forgerCommitment = false := by
      rw [← Bool.not_eq_true, hcommitment, hold]
      simp
    rw [hold, hnil, hfalse]
    simp [hbatch]

/-! ### One block -/

theorem FromScratch.zeroAfter (h : sys.FromScratch nextSlot eth) :
    sys.slot.ZeroAfter (sys.slotResults eth).1 ∧ nextSlot.ZeroAfter (sys.slotResults eth).2 := by
  have hlast : (sys.nextBlock : Int) - 1 + 1 = sys.nextBlock := by omega
  have hcurrent := checkedCoordinator_zeroAfter (Slot.zeroAfter_unset.place _ _ _ _) h.1
  have hnext := checkedCoordinator_zeroAfter (Slot.zeroAfter_unset.place _ _ _ _) h.2
  rw [hlast] at hcurrent hnext
  exact ⟨hcurrent, hnext⟩

theorem FromScratch.place (hordered : sys.BatchesOrdered) (h : sys.FromScratch nextSlot eth) :
    sys.slot.slotNum = sys.constants.slotNum sys.nextBlock ∧
      (sys.slot.forgerCommitment = true ↔ sys.HasTimelyBatch) := by
  have hlast : (sys.nextBlock : Int) - 1 + 1 = sys.nextBlock := by omega
  obtain ⟨hnum, -, -, hcommit⟩ := checkedCoordinator_ok h.1
  refine ⟨hnum.trans ?_, ?_⟩
  · rw [updateCommitment, hlast]
  · rw [hcommit, updateCommitment_reset_iff hordered hlast]

/-- A block whose results overwrite those before it keeps the slots as computed from nothing. -/
theorem FromScratch.block {slot : Slot} {reset : Bool} (h : sys.FromScratch nextSlot eth) (hordered : sys.BatchesOrdered)
    (hadded : sys.BatchesAdded txs sys') (hdeadline : sys.vars.slotDeadline.toNat < blocksPerSlot)
    (hconst : sys'.vars.slotDeadline = sys.vars.slotDeadline) (hover : Overwrites sys eth sys' eth')
    (hslot : updateCurrentSlot sys'.constants sys'.vars sys'.db eth' sys.nextBlock sys.slot reset (sys.hasBatch txs) =
      .ok slot)
    (hnext : updateNextSlot sys'.constants sys'.vars sys'.db eth' sys.nextBlock nextSlot = .ok nextSlot') :
    { sys' with slot := slot }.FromScratch nextSlot' eth' := by
  have hordered' := hordered.addBlock hadded
  have hlast : (sys'.nextBlock : Int) - 1 = sys.nextBlock := by
    rw [hadded.nextBlock]
    push_cast
    omega
  have hsucc : (sys.nextBlock : Int) + 1 = sys'.nextBlock := by omega
  obtain ⟨hcurrentZero, hnextZero⟩ := h.zeroAfter
  obtain ⟨hnum, hcommitment⟩ := h.place hordered
  rw [FromScratch]
  dsimp only
  rw [hlast]
  refine ⟨Eq.trans ?_ hslot, Eq.trans ?_ hnext⟩
  · have hsame : (updateCommitment sys'.constants sys'.vars sys'.db sys.nextBlock sys.slot reset
        (sys.hasBatch txs)).forgerCommitment =
        (updateCommitment sys'.constants sys'.vars sys'.db sys.nextBlock {} true false).forgerCommitment := by
      rw [Bool.eq_iff_iff, updateCommitment_reset_iff hordered' hsucc]
      cases reset with
      | true => exact updateCommitment_reset_iff hordered' hsucc _ _
      | false => exact updateCommitment_kept hordered hadded hdeadline hconst hnum hcommitment
    symm
    refine checkedCoordinator_overwrites ⟨rfl, rfl, rfl, hsame⟩ (hcurrentZero.place _ _ _ _)
      (Slot.zeroAfter_unset.place _ _ _ _) ?_
    dsimp only [updateCommitment]
    rw [hsucc]
    exact hover.1
  · symm
    refine checkedCoordinator_overwrites ⟨rfl, rfl, rfl, rfl⟩ (hnextZero.place _ _ _ _)
      (Slot.zeroAfter_unset.place _ _ _ _) ?_
    dsimp only
    rw [hsucc]
    exact hover.2

theorem Kept.fromScratch (h : Kept Overwrites sys nextSlot eth) :
    sys.BatchesOrdered ∧ sys.vars.slotDeadline.toNat < blocksPerSlot ∧ sys.FromScratch nextSlot eth := by
  induction h with
  | start sys slot nextSlot eth hsys hdeadline hscratch => exact ⟨{ hsys.batchesOrdered with }, hdeadline, hscratch⟩
  | block sys sys' slot nextSlot nextSlot' eth eth' txs reset hkept hallowed hblocks hfits hsenders hadd hdeadline
      hsynced hslot hnext ih =>
      obtain ⟨hordered, hshort, hscratch⟩ := ih
      have hadded := addBlock_batches hblocks hfits hadd
      refine ⟨{ hordered.addBlock hadded with }, ?_, ?_⟩
      · dsimp only
        rwa [hdeadline]
      · exact hscratch.block hordered hadded hshort hdeadline hallowed hslot hnext

end ForgingSystem

/-- **Slots do not depend on how they were reached**, over every run in which the winners found after each
block overwrite those found before. -/
theorem keptSlots_fromScratch {sys : ForgingSystem} {nextSlot : Slot} {eth : EthView}
    (h : ForgingSystem.Kept ForgingSystem.Overwrites sys nextSlot eth) : sys.FromScratch nextSlot eth :=
  h.fromScratch.2.2

/-! ### A slot with a winner after one without -/

namespace ForgingSystem

variable {sys sys' : ForgingSystem} {txs : List AuctionTx} {nextSlot nextSlot' : Slot}
  {allowed : ForgingSystem → EthView → ForgingSystem → EthView → Prop}

def startNode (sys : ForgingSystem) : Except String (ForgingSystem × Slot) := do
  if sys.vars.slotDeadline.toNat < blocksPerSlot then
    let eth := liveView sys.auction
    let slot ← updateCurrentSlot sys.constants sys.vars sys.db eth (sys.nextBlock - 1) {} true false
    let nextSlot ← updateNextSlot sys.constants sys.vars sys.db eth (sys.nextBlock - 1) {}
    return ({ sys with slot := slot }, nextSlot)
  else .error "a deadline of a whole slot"

def syncNode (sys : ForgingSystem) (nextSlot : Slot) (txs : List AuctionTx) : Except String (ForgingSystem × Slot) := do
  if txs.all (fun tx => tx.msg.blockNumber = sys.nextBlock ∧ tx.msg.sender ≠ 0) ∧ sys.nextBlock < 2 ^ 63 then
    let sys' ← sys.addBlock txs
    let eth := liveView sys'.auction
    let slot ← updateCurrentSlot sys'.constants sys'.vars sys'.db eth sys.nextBlock sys.slot false (sys.hasBatch txs)
    let nextSlot ← updateNextSlot sys'.constants sys'.vars sys'.db eth sys.nextBlock nextSlot
    return ({ sys' with slot := slot }, nextSlot)
  else .error "another block"

theorem kept_startNode (hsys : FromInit (fun _ _ => True) sys) (h : sys.startNode = .ok (sys', nextSlot)) :
    Kept allowed sys' nextSlot (liveView sys'.auction) := by
  rw [startNode] at h
  split at h
  · rename_i hdeadline
    obtain ⟨slot, hslot, h⟩ := except_bind_ok.mp h
    obtain ⟨next, hnext, h⟩ := except_bind_ok.mp h
    cases h
    exact .start sys slot nextSlot (liveView sys.auction) hsys hdeadline ⟨hslot, hnext⟩
  · cases h

theorem Kept.syncNode (h : Kept allowed sys nextSlot (liveView sys.auction))
    (hallowed : allowed sys (liveView sys.auction) sys' (liveView sys'.auction))
    (hdeadline : sys'.vars.slotDeadline = sys.vars.slotDeadline)
    (hsync : sys.syncNode nextSlot txs = .ok (sys', nextSlot')) : Kept allowed sys' nextSlot' (liveView sys'.auction) := by
  rw [ForgingSystem.syncNode] at hsync
  split at hsync
  next hcalls =>
    have hall := fun tx hmem => of_decide_eq_true (List.all_eq_true.mp hcalls.1 tx hmem)
    obtain ⟨added, hadd, hsync⟩ := except_bind_ok.mp hsync
    obtain ⟨slot, hslot, hsync⟩ := except_bind_ok.mp hsync
    obtain ⟨next, hnext, hsync⟩ := except_bind_ok.mp hsync
    cases hsync
    exact .block sys added slot nextSlot nextSlot' _ (liveView added.auction) txs false h hallowed
      (fun tx hmem => (hall tx hmem).1) hcalls.2 (fun tx hmem => (hall tx hmem).2) hadd hdeadline (fun _ => rfl) hslot hnext
  next => cases hsync

/-- A coordinator bids for slot 3 in block 1.  A node is started after some more blocks and syncs another
one. -/
def bidThenBlock (idle : Nat) (txs : List AuctionTx) :
    Except String ((ForgingSystem × Slot) × (ForgingSystem × Slot)) := do
  let sys ← start lateGenesis
  let bid := firstBid.map fun tx => { tx with msg := { tx.msg with blockNumber := 1 } }
  let sys ← ([[], bid] ++ List.replicate idle []).foldlM addCalls sys
  let (sys, nextSlot) ← sys.startNode
  let (sys', nextSlot') ← sys.syncNode nextSlot txs
  return ((sys, nextSlot), (sys', nextSlot'))

theorem kept_bidThenBlock {idle : Nat} (h : bidThenBlock idle txs = .ok ((sys, nextSlot), (sys', nextSlot')))
    (hallowed : allowed sys (liveView sys.auction) sys' (liveView sys'.auction))
    (hdeadline : sys'.vars.slotDeadline = sys.vars.slotDeadline) : Kept allowed sys' nextSlot' (liveView sys'.auction) := by
  obtain ⟨first, hfirst, h⟩ := except_bind_ok.mp h
  obtain ⟨last, hlast, h⟩ := except_bind_ok.mp h
  obtain ⟨started, hstarted, h⟩ := except_bind_ok.mp h
  obtain ⟨synced, hsynced, h⟩ := except_bind_ok.mp h
  cases h
  exact (kept_startNode ((fromInit_start hfirst).foldlM_addCalls hlast) hstarted).syncNode hallowed hdeadline hsynced

end ForgingSystem

theorem keptSlots_fromScratch_bootForge :
    ∃ before sys nextSlot, ForgingSystem.bidThenBlock 0 (ForgingSystem.bootForge 2) = .ok (before, (sys, nextSlot)) ∧
      sys.slot.forgerCommitment = true ∧ sys.FromScratch nextSlot (ForgingSystem.liveView sys.auction) := by
  have hrun : (ForgingSystem.bidThenBlock 0 (ForgingSystem.bootForge 2)).map (fun ((sys, _), (sys', _)) =>
      (sys.vars.slotDeadline, sys'.vars.slotDeadline, sys'.slot.forgerCommitment,
        sys.slotResults (ForgingSystem.liveView sys.auction), sys'.slotResults (ForgingSystem.liveView sys'.auction))) =
      .ok (20, 20, true, (.noBid, .noBid), (.noBid, .noBid)) := by
    decide +kernel
  obtain ⟨⟨⟨sys, nextSlot⟩, ⟨sys', nextSlot'⟩⟩, hsys, hvalues⟩ := exists_of_map_ok hrun
  simp only [Prod.mk.injEq] at hvalues
  obtain ⟨hdeadline, hdeadline', hcommitment, hresults, hresults'⟩ := hvalues
  refine ⟨_, sys', nextSlot', hsys, hcommitment, keptSlots_fromScratch ?_⟩
  refine ForgingSystem.kept_bidThenBlock hsys ?_ (hdeadline'.trans hdeadline.symm)
  rw [ForgingSystem.Overwrites, hresults, hresults']
  exact ⟨rfl, rfl⟩

/-- In the first block of slot 2 the next slot becomes slot 3, which has a winner.  The slot kept from the
block before still says that the boot coordinator forges. -/
theorem wonSlot_keeps_bootCoord :
    ∃ sys nextSlot scratch, ForgingSystem.Kept (fun _ _ _ _ => True) sys nextSlot (ForgingSystem.liveView sys.auction) ∧
      updateNextSlot sys.constants sys.vars sys.db (ForgingSystem.liveView sys.auction) (sys.nextBlock - 1) {} = .ok scratch ∧
      nextSlot.slotNum = 3 ∧ nextSlot.bidder = 7 ∧ nextSlot.bootCoord = true ∧
      scratch.slotNum = 3 ∧ scratch.bidder = 7 ∧ scratch.bootCoord = false := by
  have hrun : (ForgingSystem.bidThenBlock 78 []).map (fun ((sys, _), (sys', nextSlot')) =>
      (decide (sys'.vars.slotDeadline = sys.vars.slotDeadline), (nextSlot'.slotNum, nextSlot'.bidder, nextSlot'.bootCoord),
        (updateNextSlot sys'.constants sys'.vars sys'.db (ForgingSystem.liveView sys'.auction) (sys'.nextBlock - 1)
          {}).toOption.map fun scratch => (scratch.slotNum, scratch.bidder, scratch.bootCoord))) =
      .ok (true, (3, 7, true), some (3, 7, false)) := by
    decide +kernel
  obtain ⟨⟨⟨sys, nextSlot⟩, ⟨sys', nextSlot'⟩⟩, hsys, hvalues⟩ := exists_of_map_ok hrun
  simp only [Prod.mk.injEq] at hvalues
  obtain ⟨hdeadline, ⟨hnum, hbidder, hboot⟩, hscratch⟩ := hvalues
  obtain ⟨scratch, hupdate, hfields⟩ := Option.map_eq_some_iff.mp hscratch
  simp only [Prod.mk.injEq] at hfields
  refine ⟨sys', nextSlot', scratch, ?_, toOption_some.mp hupdate, hnum, hbidder, hboot, hfields⟩
  exact ForgingSystem.kept_bidThenBlock hsys trivial (of_decide_eq_true hdeadline)

end HermezRollup
