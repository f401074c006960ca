import HermezRollup.AuctionSync

/-! The commitment of the forger, in the contract and in the node.  The contract records it in the slot of
the block that forges.  The node keeps it for the slot of the next block: from block to block by a flag
that tells whether the last block had a batch, after a reset by a query for the first batch of the slot. -/

namespace HermezRollup

open Fallible

/-! ### Slots of the node and of the contract -/

variable {block : Nat}

theorem slotNum_natCast {genesis : Nat} (h : genesis ≤ block) :
    (AuctionConstants.mk genesis).slotNum block = ((block - genesis) / blocksPerSlot : Nat) := by
  have hsub : (block : Int) - genesis = (block - genesis : Nat) := by omega
  rw [AuctionConstants.slotNum, hsub, Int.ofNat_tdiv]

theorem relativeBlock_natCast {genesis : Nat} (h : genesis ≤ block) :
    (AuctionConstants.mk genesis).relativeBlock block =
      (block - ((block - genesis) / blocksPerSlot * blocksPerSlot + genesis) : Nat) := by
  rw [AuctionConstants.relativeBlock, slotNum_natCast h]
  have hmul := Nat.div_mul_le_self (block - genesis) blocksPerSlot
  rw [blocksPerSlot] at hmul ⊢
  dsimp only
  omega

/-! ### Blocks with batches -/

def AuctionEvent.isForge : AuctionEvent → Bool
  | .newForge _ _ => true
  | _ => false

/-- The rows of the batches of a block: each batch makes the auction contract emit one `NewForge`. -/
def batchRows (c : AuctionConstants) (lastBatchNum : Nat) (blockNum : Int) (events : List AuctionEvent) : List BatchRow :=
  (List.range (events.countP AuctionEvent.isForge)).map fun i => ⟨lastBatchNum + 1 + i, blockNum, c.slotNum blockNum⟩

/-- The contract and what the node has synced of it, before block `nextBlock`. -/
structure ForgingSystem where
  auction : Auction
  vars : AuctionVariables
  db : AuctionTables
  slot : Slot
  nextBlock : Nat

namespace ForgingSystem

def constants (sys : ForgingSystem) : AuctionConstants :=
  ⟨sys.auction.genesisBlock⟩

/-- The contract after a block, and the node's variables and tables with its events. -/
def addBlock (sys : ForgingSystem) (txs : List AuctionTx) : Except String ForgingSystem := do
  let (auction, events) := sys.auction.runBlock txs
  let (vars, data) ← auctionSync sys.constants sys.vars sys.nextBlock events
  let db := sys.db.addAuctionData data
  return { sys with
    auction := auction
    vars := vars
    db := { db with
      batches := db.batches ++
        batchRows sys.constants ((db.batches.getLast?.map BatchRow.batchNum).getD 0) sys.nextBlock events }
    nextBlock := sys.nextBlock + 1 }

/-- The events of a block set no other deadline. -/
def KeepsDeadline (sys : ForgingSystem) (txs : List AuctionTx) : Prop :=
  ∀ newSlotDeadline, .newSlotDeadline newSlotDeadline ∈ (sys.auction.runBlock txs).2 →
    newSlotDeadline = sys.auction.slotDeadline

def hasBatch (sys : ForgingSystem) (txs : List AuctionTx) : Bool :=
  (sys.auction.runBlock txs).2.any AuctionEvent.isForge

/-- The states from genesis on, with a constant slot deadline.  Blocks come one after the other; the
current slot is updated from block to block, or reset after an error, or reset again.  `allowed` limits
the blocks that update it without a reset. -/
inductive Reached (allowed : ForgingSystem → List AuctionTx → Prop) : ForgingSystem → Prop
  | genesis (sys : ForgingSystem) (slot : Slot) (eth : EthView) (lastBlock : Nat)
      (hreach : Auction.Reachable sys.auction lastBlock) (hbefore : lastBlock < sys.auction.genesisBlock)
      (hnext : sys.nextBlock = sys.auction.genesisBlock) (hfits : sys.nextBlock < 2 ^ 63)
      (hdeadline : sys.vars.slotDeadline = sys.auction.slotDeadline) (hbatches : sys.db.batches = [])
      (hslot : updateCurrentSlot sys.constants sys.vars sys.db eth (sys.nextBlock - 1) slot true false = .ok sys.slot) :
      Reached allowed sys
  | sync (sys sys' : ForgingSystem) (slot : Slot) (eth : EthView) (txs : List AuctionTx) (reset : Bool)
      (hreached : Reached allowed sys) (hallowed : reset = false → allowed sys txs)
      (hblocks : ∀ tx ∈ txs, tx.msg.blockNumber = sys.nextBlock) (hfits : sys.nextBlock < 2 ^ 63)
      (hdeadline : sys.KeepsDeadline txs) (hadd : sys.addBlock txs = .ok sys')
      (hslot : updateCurrentSlot sys'.constants sys'.vars sys'.db eth sys.nextBlock sys.slot reset (sys.hasBatch txs) =
        .ok slot) :
      Reached allowed { sys' with slot := slot }
  | reset (sys : ForgingSystem) (slot : Slot) (eth : EthView) (hreached : Reached allowed sys)
      (hslot : updateCurrentSlot sys.constants sys.vars sys.db eth (sys.nextBlock - 1) sys.slot true false = .ok slot) :
      Reached allowed { sys with slot := slot }

def nextSlotNumber (sys : ForgingSystem) : Nat :=
  sys.auction.getSlotNumber sys.nextBlock

/-- The current slot of the node and the slot of the contract agree on the commitment of the forger, and
with it on whether anyone can forge in the next block. -/
structure CommitmentSynced (sys : ForgingSystem) : Prop where
  commitment : sys.slot.forgerCommitment = (sys.auction.slots sys.nextSlotNumber).forgerCommitment
  slotOfNextBlock : ∀ nextSlot, slotOfBlock sys.slot nextSlot sys.nextBlock = some sys.slot
  anyone : anyoneForge sys.constants sys.vars sys.slot sys.nextBlock = true ↔
    (sys.auction.slots sys.nextSlotNumber).forgerCommitment = false ∧
      sys.auction.slotDeadline.toNat ≤
        sys.nextBlock - (sys.nextSlotNumber * blocksPerSlot + sys.auction.genesisBlock)

/-! ### What the tables say about commitments -/

/-- The batches in the tables decide the commitments of the contract. -/
structure BatchesSynced (sys : ForgingSystem) : Prop where
  genesis_le : sys.auction.genesisBlock ≤ sys.nextBlock
  deadline : sys.vars.slotDeadline = sys.auction.slotDeadline
  sorted : sys.db.batches.Pairwise fun row row' => row.ethBlockNum ≤ row'.ethBlockNum
  rows : ∀ row ∈ sys.db.batches, ∃ block : Nat, sys.auction.genesisBlock ≤ block ∧ block < sys.nextBlock ∧
    row.ethBlockNum = block ∧ row.slotNum = ((block - sys.auction.genesisBlock) / blocksPerSlot : Nat)
  commitment : ∀ slot : Nat, (sys.auction.slots slot).forgerCommitment = true ↔
    ∃ row ∈ sys.db.batches, row.slotNum = slot ∧ sys.constants.relativeBlock row.ethBlockNum < sys.vars.slotDeadline.toNat

end ForgingSystem

variable {events : List AuctionEvent}

namespace AuctionView

theorem foldl_record_commitment {v : AuctionView} (haccepts : v.AcceptsAll block events)
    (hdeadline : ∀ newSlotDeadline, .newSlotDeadline newSlotDeadline ∈ events → newSlotDeadline = v.slotDeadline) :
    (events.foldl (record block) v).slotDeadline = v.slotDeadline ∧
      ∀ slot, (events.foldl (record block) v).forgerCommitment slot = true ↔
        v.forgerCommitment slot = true ∨ events.any AuctionEvent.isForge = true ∧ v.genesisBlock ≤ block ∧
          slot = v.slotNumber block ∧ v.relativeBlock block slot < v.slotDeadline.toNat := by
  induction events generalizing v with
  | nil => simp
  | cons event events ih =>
    have hsame : (v.record block event).slotDeadline = v.slotDeadline := by
      cases event with
      | newSlotDeadline newSlotDeadline => exact hdeadline newSlotDeadline List.mem_cons_self
      | _ => rfl
    obtain ⟨hkept, hslots⟩ := ih haccepts.2 fun d hmem => hsame.symm ▸ hdeadline d (List.mem_cons_of_mem _ hmem)
    refine ⟨hkept.trans hsame, fun slot => ?_⟩
    have hnumber : (v.record block event).slotNumber block = v.slotNumber block := by
      rw [slotNumber, slotNumber, record_genesisBlock]
    have hrelative : (v.record block event).relativeBlock block slot = v.relativeBlock block slot := by
      rw [relativeBlock, relativeBlock, record_genesisBlock]
    rw [List.foldl_cons, hslots slot, hsame, hnumber, hrelative, record_genesisBlock, List.any_cons]
    cases event with
    | newForge forger slotToForge =>
      obtain ⟨⟨hgenesis, rfl⟩, -⟩ := haccepts
      by_cases heq : slot = v.slotNumber block
      · subst heq
        simp [record, AuctionEvent.isForge, hgenesis]
        tauto
      · simp [record, AuctionEvent.isForge, heq]
    | _ => simp [record, AuctionEvent.isForge]

theorem foldl_record_commitment_before {v : AuctionView}
    (haccepts : v.AcceptsAll block events) (hbefore : block < v.genesisBlock) :
    (events.foldl (record block) v).forgerCommitment = v.forgerCommitment := by
  induction events generalizing v with
  | nil => rfl
  | cons event events ih =>
    rw [List.foldl_cons, ih haccepts.2 (by rwa [record_genesisBlock])]
    cases event with
    | newForge forger slotToForge => exact absurd haccepts.1.1 (Nat.not_le.mpr hbefore)
    | _ => rfl

theorem AcceptsAll.genesis_le {v : AuctionView}
    (haccepts : v.AcceptsAll block events) (hforge : events.any AuctionEvent.isForge = true) : v.genesisBlock ≤ block := by
  induction events generalizing v with
  | nil => cases hforge
  | cons event events ih =>
    rw [List.any_cons, Bool.or_eq_true] at hforge
    rcases hforge with hhead | htail
    · cases event with
      | newForge forger slotToForge => exact haccepts.1.1
      | _ => cases hhead
    · have hle := ih haccepts.2 htail
      rwa [record_genesisBlock] at hle

end AuctionView

theorem Auction.Reachable.uncommitted {a : Auction} (h : Auction.Reachable a block) (hfits : block < 2 ^ 128)
    (hbefore : block < a.genesisBlock) : ∀ slot, (a.slots slot).forgerCommitment = false := by
  induction h with
  | init g a hinit =>
    obtain ⟨-, hinit⟩ := Auction.auctionRequire_bind_ok.mp hinit
    obtain ⟨-, hinit⟩ := Auction.auctionRequire_bind_ok.mp hinit
    cases hinit
    exact fun _ => rfl
  | step a block tx hreach hblock ih =>
    rw [Auction.step] at hbefore ⊢
    cases hexec : a.exec tx with
    | error e =>
      rw [hexec] at hbefore
      exact ih (hblock.trans_lt hfits) (hblock.trans_lt hbefore)
    | ok result =>
      obtain ⟨a', events⟩ := result
      obtain ⟨haccepts, htracks⟩ := AuctionView.follows_exec (a.view_tracks _) hfits hexec
      have hgenesis : a'.genesisBlock = a.genesisBlock := by
        rw [← htracks.genesisBlock, AuctionView.foldl_record_genesisBlock]
        rfl
      rw [hexec] at hbefore
      dsimp only at hbefore ⊢
      rw [hgenesis] at hbefore
      intro slot
      rw [← (htracks.slots slot).forgerCommitment, AuctionView.foldl_record_commitment_before haccepts hbefore]
      exact ih (hblock.trans_lt hfits) (hblock.trans_lt hbefore) slot

theorem foldl_keeps {α β γ : Type} {f : β → α → β} {g : β → γ} (h : ∀ b a, g (f b a) = g b) (xs : List α) (b : β) :
    g (xs.foldl f b) = g b := by
  induction xs generalizing b with
  | nil => rfl
  | cons x xs ih => rw [List.foldl_cons, ih, h]

variable {vars : AuctionVariables}

namespace AuctionVariables

theorem foldl_applySlotDeadline
    (hdeadline : ∀ newSlotDeadline, .newSlotDeadline newSlotDeadline ∈ events → newSlotDeadline = vars.slotDeadline) :
    (events.foldl applySlotDeadline vars).slotDeadline = vars.slotDeadline := by
  induction events generalizing vars with
  | nil => rfl
  | cons event events ih =>
    have hsame : (vars.applySlotDeadline event).slotDeadline = vars.slotDeadline := by
      cases event with
      | newSlotDeadline newSlotDeadline => exact hdeadline newSlotDeadline List.mem_cons_self
      | _ => rfl
    rw [List.foldl_cons, ih (fun d hmem => hsame.symm ▸ hdeadline d (List.mem_cons_of_mem _ hmem)), hsame]

theorem applyParameters_slotDeadline (vars : AuctionVariables) (events : List AuctionEvent) :
    (vars.applyParameters events).slotDeadline = (events.foldl applySlotDeadline vars).slotDeadline := by
  rw [applyParameters]
  iterate 6 rw [foldl_keeps (g := slotDeadline) (fun b e => by cases e <;> rfl)]

theorem applyDefaultSlotSetBid_slotDeadline {slotNum : Int} {vars' : AuctionVariables} {event : AuctionEvent}
    (h : vars.applyDefaultSlotSetBid slotNum event = .ok vars') : vars'.slotDeadline = vars.slotDeadline := by
  cases event with
  | newDefaultSlotSetBid slotSet newInitialMinBid =>
    rw [applyDefaultSlotSetBid] at h
    split at h
    · cases h
    · split at h
      · cases h
      · cases h
        rfl
  | _ =>
    cases h
    rfl

end AuctionVariables

theorem auctionSync_slotDeadline {c : AuctionConstants} {vars' : AuctionVariables} {blockNum : Int}
    {data : AuctionData} (h : auctionSync c vars blockNum events = .ok (vars', data))
    (hdeadline : ∀ newSlotDeadline, .newSlotDeadline newSlotDeadline ∈ events → newSlotDeadline = vars.slotDeadline) :
    vars'.slotDeadline = vars.slotDeadline := by
  obtain ⟨vars₁, hfold, h⟩ := except_bind_ok.mp h
  have hfolded : vars₁.slotDeadline = vars.slotDeadline := by
    refine foldlM_invariant (P := fun vars₁ => vars₁.slotDeadline = vars.slotDeadline) ?_ ?_ hfold
    · intro b a b' hb hstep
      exact (AuctionVariables.applyDefaultSlotSetBid_slotDeadline hstep).trans hb
    · rw [AuctionVariables.applyParameters_slotDeadline, AuctionVariables.foldl_applySlotDeadline hdeadline]
  cases h
  split
  · exact hfolded
  · exact hfolded

namespace ForgingSystem

variable {sys sys' : ForgingSystem} {txs : List AuctionTx}

/-- What a block adds: the commitments of its batches, and one row for each of them. -/
structure BlockAdded (sys : ForgingSystem) (txs : List AuctionTx) (sys' : ForgingSystem) : Prop where
  nextBlock : sys'.nextBlock = sys.nextBlock + 1
  genesisBlock : sys'.auction.genesisBlock = sys.auction.genesisBlock
  deadline : sys'.auction.slotDeadline = sys.auction.slotDeadline
  varsDeadline : sys'.vars.slotDeadline = sys.vars.slotDeadline
  batches : ∃ rows : List BatchRow, sys'.db.batches = sys.db.batches ++ rows ∧
    (rows ≠ [] ↔ sys.hasBatch txs = true) ∧
    ∀ row ∈ rows, row.ethBlockNum = sys.nextBlock ∧ row.slotNum = sys.constants.slotNum sys.nextBlock
  commitment : ∀ slot, (sys'.auction.slots slot).forgerCommitment = true ↔
    (sys.auction.slots slot).forgerCommitment = true ∨ sys.hasBatch txs = true ∧
      sys.auction.genesisBlock ≤ sys.nextBlock ∧ slot = sys.nextSlotNumber ∧
      sys.nextBlock - (slot * blocksPerSlot + sys.auction.genesisBlock) < sys.auction.slotDeadline.toNat

theorem batchRows_ne_nil {c : AuctionConstants} {lastBatchNum : Nat} {blockNum : Int} :
    batchRows c lastBatchNum blockNum events ≠ [] ↔ events.any AuctionEvent.isForge = true := by
  rw [batchRows, ne_eq, List.map_eq_nil_iff, List.range_eq_nil, List.countP_eq_zero, List.any_eq_true]
  simp

theorem addBlock_ok (hblocks : ∀ tx ∈ txs, tx.msg.blockNumber = sys.nextBlock) (hfits : sys.nextBlock < 2 ^ 63)
    (hdeadline : sys.KeepsDeadline txs) (hvars : sys.vars.slotDeadline = sys.auction.slotDeadline)
    (h : sys.addBlock txs = .ok sys') : sys.BlockAdded txs sys' := by
  have hfollows := AuctionView.follows_runBlock (sys.auction.view_tracks _) hblocks (by omega)
  obtain ⟨hkept, hcommitment⟩ := AuctionView.foldl_record_commitment hfollows.1 hdeadline
  have htracks := hfollows.2
  obtain ⟨⟨vars, data⟩, hsync, h⟩ := except_bind_ok.mp h
  have hsynced := auctionSync_slotDeadline hsync fun d hmem => (hdeadline d hmem).trans hvars.symm
  cases h
  refine ⟨rfl, ?_, ?_, hsynced, ⟨_, rfl, batchRows_ne_nil, ?_⟩, ?_⟩
  · rw [← htracks.genesisBlock, AuctionView.foldl_record_genesisBlock]
    rfl
  · rw [← htracks.slotDeadline, hkept]
    rfl
  · intro row hmem
    obtain ⟨i, -, rfl⟩ := List.mem_map.mp hmem
    exact ⟨rfl, rfl⟩
  · intro slot
    rw [← (htracks.slots slot).forgerCommitment, hcommitment slot]
    rfl

theorem nextSlotNumber_eq (h : sys.auction.genesisBlock ≤ sys.nextBlock) :
    sys.nextSlotNumber = (sys.nextBlock - sys.auction.genesisBlock) / blocksPerSlot :=
  if_pos h

theorem slotNum_nextBlock (h : sys.auction.genesisBlock ≤ sys.nextBlock) :
    sys.constants.slotNum sys.nextBlock = sys.nextSlotNumber := by
  rw [nextSlotNumber_eq h]
  exact slotNum_natCast h

theorem relativeBlock_nextBlock (h : sys.auction.genesisBlock ≤ sys.nextBlock) :
    sys.constants.relativeBlock sys.nextBlock =
      (sys.nextBlock - (sys.nextSlotNumber * blocksPerSlot + sys.auction.genesisBlock) : Nat) := by
  rw [nextSlotNumber_eq h]
  exact relativeBlock_natCast h

/-- The batches in the tables come in order, each with its block and the slot of that block. -/
structure BatchesOrdered (sys : ForgingSystem) : Prop where
  sorted : sys.db.batches.Pairwise fun row row' => row.ethBlockNum ≤ row'.ethBlockNum
  rows : ∀ row ∈ sys.db.batches, ∃ block : Nat, sys.auction.genesisBlock ≤ block ∧ block < sys.nextBlock ∧
    row.ethBlockNum = block ∧ row.slotNum = ((block - sys.auction.genesisBlock) / blocksPerSlot : Nat)

theorem BatchesSynced.ordered (h : sys.BatchesSynced) : sys.BatchesOrdered :=
  ⟨h.sorted, h.rows⟩

/-- What a block adds to the batches, whatever it does to the deadline. -/
structure BatchesAdded (sys : ForgingSystem) (txs : List AuctionTx) (sys' : ForgingSystem) : Prop where
  nextBlock : sys'.nextBlock = sys.nextBlock + 1
  genesisBlock : sys'.auction.genesisBlock = sys.auction.genesisBlock
  batches : ∃ rows : List BatchRow, sys'.db.batches = sys.db.batches ++ rows ∧
    (rows ≠ [] ↔ sys.hasBatch txs = true) ∧
    ∀ row ∈ rows, row.ethBlockNum = sys.nextBlock ∧ row.slotNum = sys.constants.slotNum sys.nextBlock
  genesis_le : sys.hasBatch txs = true → sys.auction.genesisBlock ≤ sys.nextBlock

theorem BatchesOrdered.addBlock (h : sys.BatchesOrdered) (hadded : sys.BatchesAdded txs sys') : sys'.BatchesOrdered := by
  obtain ⟨rows, hbatches, hrows, hrow⟩ := hadded.batches
  refine ⟨?_, ?_⟩
  · rw [hbatches, List.pairwise_append]
    refine ⟨h.sorted, ?_, ?_⟩
    · apply List.pairwise_of_forall_mem_list
      intro row hmem row' hmem'
      rw [(hrow row hmem).1, (hrow row' hmem').1]
    · intro row hmem row' hmem'
      obtain ⟨block, -, hlt, hblock, -⟩ := h.rows row hmem
      rw [hblock, (hrow row' hmem').1]
      omega
  · intro row hmem
    rw [hadded.genesisBlock, hadded.nextBlock]
    rw [hbatches, List.mem_append] at hmem
    rcases hmem with hold | hnew
    · obtain ⟨block, hge, hlt, hblock, hslot⟩ := h.rows row hold
      exact ⟨block, hge, by omega, hblock, hslot⟩
    · have hgenesis := hadded.genesis_le (hrows.mp (List.ne_nil_of_mem hnew))
      refine ⟨sys.nextBlock, hgenesis, by omega, (hrow row hnew).1, (hrow row hnew).2.trans ?_⟩
      exact slotNum_natCast hgenesis

theorem BatchesSynced.addBlock (h : sys.BatchesSynced) (hadded : sys.BlockAdded txs sys') : sys'.BatchesSynced := by
  have hordered := h.ordered.addBlock ⟨hadded.nextBlock, hadded.genesisBlock, hadded.batches, fun _ => h.genesis_le⟩
  obtain ⟨rows, hbatches, hrows, hrow⟩ := hadded.batches
  have hconstants : sys'.constants = sys.constants := by rw [constants, constants, hadded.genesisBlock]
  refine ⟨?_, ?_, hordered.sorted, hordered.rows, ?_⟩
  · rw [hadded.genesisBlock, hadded.nextBlock]
    exact h.genesis_le.trans (Nat.le_succ _)
  · rw [hadded.varsDeadline, hadded.deadline, h.deadline]
  · intro slot
    rw [hadded.commitment slot, h.commitment slot, hbatches, hadded.varsDeadline, hconstants]
    simp only [List.mem_append, or_and_right, exists_or]
    refine or_congr Iff.rfl ⟨?_, ?_⟩
    · rintro ⟨hbatch, -, rfl, hlt⟩
      obtain ⟨row, hmem⟩ := List.exists_mem_of_ne_nil _ (hrows.mpr hbatch)
      refine ⟨row, hmem, (hrow row hmem).2.trans (slotNum_nextBlock h.genesis_le), ?_⟩
      rw [(hrow row hmem).1, relativeBlock_nextBlock h.genesis_le, h.deadline]
      exact_mod_cast hlt
    · rintro ⟨row, hmem, hslot, hlt⟩
      rw [(hrow row hmem).2, slotNum_nextBlock h.genesis_le] at hslot
      obtain rfl : sys.nextSlotNumber = slot := by exact_mod_cast hslot
      rw [(hrow row hmem).1, relativeBlock_nextBlock h.genesis_le, h.deadline] at hlt
      exact ⟨hrows.mp (List.ne_nil_of_mem hmem), h.genesis_le, rfl, by exact_mod_cast hlt⟩

/-! ### The current slot of the node -/

theorem checkedCoordinator_ok {c : AuctionConstants} {db : AuctionTables} {eth : EthView}
    {blockNum atBlock : Int} {slot slot' : Slot} (h : checkedCoordinator c vars db eth blockNum slot atBlock = .ok slot') :
    slot'.slotNum = slot.slotNum ∧ slot'.startBlock = slot.startBlock ∧ slot'.endBlock = slot.endBlock ∧
      slot'.forgerCommitment = slot.forgerCommitment := by
  have hset : (setSlotCoordinator vars db slot).slotNum = slot.slotNum ∧
      (setSlotCoordinator vars db slot).startBlock = slot.startBlock ∧
      (setSlotCoordinator vars db slot).endBlock = slot.endBlock ∧
      (setSlotCoordinator vars db slot).forgerCommitment = slot.forgerCommitment := by
    rw [setSlotCoordinator]
    split
    · exact ⟨rfl, rfl, rfl, rfl⟩
    · dsimp only
      split <;> exact ⟨rfl, rfl, rfl, rfl⟩
  rw [checkedCoordinator] at h
  split at h
  · obtain ⟨canForge, -, h⟩ := except_bind_ok.mp h
    split at h
    · cases h
      exact hset
    · cases h
  · cases h
    exact ⟨rfl, rfl, rfl, rfl⟩

/-- The current slot of the node is that of the next block, with the commitment of the contract. -/
structure SlotSynced (sys : ForgingSystem) : Prop where
  slotNum : sys.slot.slotNum = sys.nextSlotNumber
  startBlock : sys.slot.startBlock = sys.auction.genesisBlock + sys.nextSlotNumber * blocksPerSlot
  endBlock : sys.slot.endBlock = sys.auction.genesisBlock + sys.nextSlotNumber * blocksPerSlot + blocksPerSlot - 1
  commitment : sys.slot.forgerCommitment = (sys.auction.slots sys.nextSlotNumber).forgerCommitment

theorem slotSynced_of_update (h : sys.BatchesSynced) {slot slot' : Slot} {eth : EthView} {reset hasBatch : Bool}
    {lastBlockNum : Int} (hlast : lastBlockNum + 1 = sys.nextBlock)
    (hslot : updateCurrentSlot sys.constants sys.vars sys.db eth lastBlockNum slot reset hasBatch = .ok slot')
    (hcommitment : (updateCommitment sys.constants sys.vars sys.db lastBlockNum slot reset hasBatch).forgerCommitment =
      (sys.auction.slots sys.nextSlotNumber).forgerCommitment) :
    { sys with slot := slot' }.SlotSynced := by
  obtain ⟨hnum, hstart, hend, hcommit⟩ := checkedCoordinator_ok hslot
  have hnumber : sys.constants.slotNum (lastBlockNum + 1) = sys.nextSlotNumber := by
    rw [hlast, slotNum_nextBlock h.genesis_le]
  refine ⟨hnum.trans hnumber, hstart.trans ?_, hend.trans ?_, hcommit.trans hcommitment⟩
  · simp only [updateCommitment, AuctionConstants.slotBlocks, hnumber]
    rfl
  · simp only [updateCommitment, AuctionConstants.slotBlocks, hnumber]
    rfl

theorem BatchesOrdered.relativeBlock (h : sys.BatchesOrdered) {row : BatchRow} (hmem : row ∈ sys.db.batches) :
    sys.constants.relativeBlock row.ethBlockNum =
      row.ethBlockNum - (sys.auction.genesisBlock + row.slotNum * blocksPerSlot) := by
  obtain ⟨block, hge, -, hblock, hslot⟩ := h.rows row hmem
  have hnum : sys.constants.slotNum row.ethBlockNum = row.slotNum := by
    rw [hblock, hslot]
    exact slotNum_natCast hge
  rw [AuctionConstants.relativeBlock, hnum]
  rfl

theorem find?_le {rows : List BatchRow} (hsorted : rows.Pairwise fun row row' => row.ethBlockNum ≤ row'.ethBlockNum)
    {p : BatchRow → Bool} {first row : BatchRow} (hfirst : rows.find? p = some first) (hmem : row ∈ rows)
    (hp : p row = true) : first.ethBlockNum ≤ row.ethBlockNum := by
  obtain ⟨-, before, after, rfl, hbefore⟩ := List.find?_eq_some_iff_append.mp hfirst
  rw [List.pairwise_append, List.pairwise_cons] at hsorted
  rw [List.mem_append, List.mem_cons] at hmem
  rcases hmem with hmem | rfl | hmem
  · have := hbefore row hmem
    simp [hp] at this
  · exact le_rfl
  · exact hsorted.2.1.1 row hmem

/-- Among the batches of a slot the first one is the earliest, so it decides whether one met the deadline. -/
theorem BatchesOrdered.first_iff (h : sys.BatchesOrdered) (slot deadline : Int) :
    (∃ row ∈ sys.db.batches, row.slotNum = slot ∧ sys.constants.relativeBlock row.ethBlockNum < deadline) ↔
      ∃ block, sys.db.getFirstBatchBlockNumBySlot slot = some block ∧ sys.constants.relativeBlock block < deadline := by
  rw [AuctionTables.getFirstBatchBlockNumBySlot]
  constructor
  · rintro ⟨row, hmem, hslot, hlt⟩
    have hsome : (sys.db.batches.find? fun row => decide (row.slotNum = slot)).isSome := by
      rw [List.find?_isSome]
      exact ⟨row, hmem, by simpa using hslot⟩
    obtain ⟨first, hfirst⟩ := Option.isSome_iff_exists.mp hsome
    refine ⟨first.ethBlockNum, by rw [hfirst]; rfl, lt_of_le_of_lt ?_ hlt⟩
    have hfirstSlot : first.slotNum = slot := by simpa using List.find?_some hfirst
    rw [h.relativeBlock (List.mem_of_find?_eq_some hfirst), h.relativeBlock hmem, hfirstSlot, hslot]
    have hle := find?_le h.sorted hfirst hmem (by simpa using hslot)
    omega
  · rintro ⟨block, hfirst, hlt⟩
    obtain ⟨row, hrow, rfl⟩ := Option.map_eq_some_iff.mp hfirst
    exact ⟨row, List.mem_of_find?_eq_some hrow, by simpa using List.find?_some hrow, hlt⟩

theorem commitment_of_first (h : sys.BatchesSynced) (slot : Nat) :
    (sys.auction.slots slot).forgerCommitment = true ↔
      ∃ block, sys.db.getFirstBatchBlockNumBySlot slot = some block ∧
        sys.constants.relativeBlock block < sys.vars.slotDeadline.toNat := by
  rw [h.commitment slot, h.ordered.first_iff]

theorem updateCommitment_reset (h : sys.BatchesSynced) {lastBlockNum : Int} (hlast : lastBlockNum + 1 = sys.nextBlock)
    (slot : Slot) (hasBatch : Bool) :
    (updateCommitment sys.constants sys.vars sys.db lastBlockNum slot true hasBatch).forgerCommitment =
      (sys.auction.slots sys.nextSlotNumber).forgerCommitment := by
  rw [Bool.eq_iff_iff, commitment_of_first h]
  simp only [updateCommitment, hlast, slotNum_nextBlock h.genesis_le, if_true, true_or, Bool.false_or,
    Bool.and_eq_true, decide_eq_true_eq]
  cases sys.db.getFirstBatchBlockNumBySlot sys.nextSlotNumber with
  | none => simp
  | some block => simp

theorem BatchesSynced.commitment_later (h : sys.BatchesSynced) {slot : Nat} (hlater : sys.nextSlotNumber < slot) :
    (sys.auction.slots slot).forgerCommitment = false := by
  rw [← Bool.not_eq_true, h.commitment slot]
  rintro ⟨row, hmem, hslot, -⟩
  obtain ⟨block, hge, hlt, -, hnum⟩ := h.rows row hmem
  rw [nextSlotNumber_eq h.genesis_le] at hlater
  have hle : (block - sys.auction.genesisBlock) / blocksPerSlot ≤
      (sys.nextBlock - sys.auction.genesisBlock) / blocksPerSlot := Nat.div_le_div_right (by omega)
  rw [hslot] at hnum
  have heq : slot = (block - sys.auction.genesisBlock) / blocksPerSlot := by exact_mod_cast hnum
  omega

/-- Blocks that the update from block to block gets right: with a deadline below the length of a slot all
of them, otherwise those that are not the last of their slot or have no batch. -/
def Regular (sys : ForgingSystem) (txs : List AuctionTx) : Prop :=
  sys.auction.slotDeadline.toNat < blocksPerSlot ∨
    (sys.nextBlock + 1 - sys.auction.genesisBlock) % blocksPerSlot ≠ 0 ∨ sys.hasBatch txs = false

theorem updateCommitment_block (h : sys.BatchesSynced) (hslot : sys.SlotSynced) (hregular : sys.Regular txs)
    (hadded : sys.BlockAdded txs sys') :
    (updateCommitment sys'.constants sys'.vars sys'.db sys.nextBlock sys.slot false (sys.hasBatch txs)).forgerCommitment =
      (sys'.auction.slots sys'.nextSlotNumber).forgerCommitment := by
  have hsynced := h.addBlock hadded
  have hgenesis := h.genesis_le
  have hconstants : sys'.constants = sys.constants := by rw [constants, constants, hadded.genesisBlock]
  have hnext : (sys.nextBlock : Int) + 1 = sys'.nextBlock := by
    rw [hadded.nextBlock]
    push_cast
    rfl
  have hnumber' : sys'.nextSlotNumber = (sys.nextBlock + 1 - sys.auction.genesisBlock) / blocksPerSlot := by
    rw [nextSlotNumber_eq hsynced.genesis_le, hadded.nextBlock, hadded.genesisBlock]
  have hnumber := nextSlotNumber_eq hgenesis
  have hrelative := relativeBlock_nextBlock hgenesis
  have hslotNum : sys.constants.slotNum sys'.nextBlock = sys'.nextSlotNumber :=
    hconstants ▸ slotNum_nextBlock hsynced.genesis_le
  rw [Bool.eq_iff_iff, hadded.commitment]
  simp only [updateCommitment, hnext, hconstants, hslotNum, hrelative, hslot.slotNum, hslot.commitment,
    hadded.varsDeadline, h.deadline, Bool.false_eq_true, if_false, false_or, Option.getD_none]
  by_cases hnew : sys.nextSlotNumber < sys'.nextSlotNumber
  · -- a new slot begins: it has no batches yet, and a batch in the last block does not count for it
    have hnone := h.commitment_later hnew
    have hlate : sys.hasBatch txs = true → ¬sys.nextBlock -
        (sys.nextSlotNumber * blocksPerSlot + sys.auction.genesisBlock) < sys.auction.slotDeadline.toNat := by
      intro hbatch hlt
      rcases hregular with hdeadline | hlast | hnoBatch
      · rw [blocksPerSlot] at *
        omega
      · rw [blocksPerSlot] at *
        omega
      · exact Bool.false_ne_true (hnoBatch.symm.trans hbatch)
    have hcast : (sys.nextSlotNumber : Int) < sys'.nextSlotNumber := by exact_mod_cast hnew
    rw [if_pos hcast]
    simp only [Bool.false_or, Bool.and_eq_true, decide_eq_true_eq, Nat.cast_lt, hnone, Bool.false_eq_true, false_or,
      hnew.ne', false_and, and_false, iff_false]
    rintro ⟨hbatch, hlt⟩
    exact hlate hbatch hlt
  · have hsame : sys'.nextSlotNumber = sys.nextSlotNumber := by
      rw [blocksPerSlot] at *
      omega
    simp only [hsame, lt_irrefl, if_false, Bool.or_eq_true, Bool.and_eq_true, decide_eq_true_eq, Nat.cast_lt, hgenesis,
      true_and]

theorem SlotSynced.commitmentSynced (h : sys.BatchesSynced) (hslot : sys.SlotSynced) : sys.CommitmentSynced := by
  have hgenesis := h.genesis_le
  have hnumber := nextSlotNumber_eq hgenesis
  refine ⟨hslot.commitment, fun nextSlot => if_pos ?_, ?_⟩
  · rw [hslot.startBlock, hslot.endBlock]
    rw [blocksPerSlot] at *
    omega
  · rw [anyoneForge, decide_eq_true_eq, relativeBlock_nextBlock hgenesis, hslot.commitment, h.deadline, Nat.cast_le]

theorem Reached.synced (h : Reached Regular sys) : sys.BatchesSynced ∧ sys.SlotSynced := by
  induction h with
  | genesis sys slot eth lastBlock hreach hbefore hnext hfits hdeadline hbatches hslot =>
    have hsynced : sys.BatchesSynced := by
      refine ⟨hnext.ge, hdeadline, by simp [hbatches], by simp [hbatches], fun slot => ?_⟩
      rw [hreach.uncommitted (by omega) hbefore slot]
      simp [hbatches]
    have hlast : (sys.nextBlock : Int) - 1 + 1 = sys.nextBlock := by omega
    exact ⟨hsynced, slotSynced_of_update hsynced hlast hslot (updateCommitment_reset hsynced hlast _ _)⟩
  | sync sys sys' slot eth txs reset hreached hallowed hblocks hfits hdeadline hadd hslot ih =>
    have hadded := addBlock_ok hblocks hfits hdeadline ih.1.deadline hadd
    have hsynced := ih.1.addBlock hadded
    have hlast : (sys.nextBlock : Int) + 1 = sys'.nextBlock := by
      rw [hadded.nextBlock]
      push_cast
      rfl
    refine ⟨{ hsynced with }, slotSynced_of_update hsynced hlast hslot ?_⟩
    cases reset with
    | true => exact updateCommitment_reset hsynced hlast _ _
    | false => exact updateCommitment_block ih.1 ih.2 (hallowed rfl) hadded
  | reset sys slot eth hreached hslot ih =>
    have hlast : (sys.nextBlock : Int) - 1 + 1 = sys.nextBlock := by omega
    exact ⟨{ ih.1 with }, slotSynced_of_update ih.1 hlast hslot (updateCommitment_reset ih.1 hlast _ _)⟩

end ForgingSystem

/-- **The forger commitment is synced** after every block, over every run in which no batch in the last
block of a slot meets a deadline of the whole slot. -/
theorem forgerCommitment_synced {sys : ForgingSystem} (h : ForgingSystem.Reached ForgingSystem.Regular sys) :
    sys.CommitmentSynced :=
  h.synced.2.commitmentSynced h.synced.1

/-! ### A deadline of the whole slot -/

namespace ForgingSystem

/-- A synced node that asks the contract. -/
def liveView (a : Auction) : EthView :=
  ⟨true, fun forger blockNum => (a.canForge forger blockNum.toNat).mapError fun _ => "revert"⟩

def syncBlock (sys : ForgingSystem) (txs : List AuctionTx) : Except String ForgingSystem := do
  if txs.all (fun tx => tx.msg.blockNumber = sys.nextBlock) ∧ sys.nextBlock < 2 ^ 63 ∧
      (sys.auction.runBlock txs).2.all (fun event => event ≠ .newSlotDeadline sys.auction.slotDeadline → event.isForge) then
    let sys' ← sys.addBlock txs
    let slot ← updateCurrentSlot sys'.constants sys'.vars sys'.db (liveView sys'.auction) sys.nextBlock sys.slot false
      (sys.hasBatch txs)
    return { sys' with slot := slot }
  else .error "another block"

theorem Reached.syncBlock (h : Reached allowed sys) (hallowed : allowed sys txs) (hsync : sys.syncBlock txs = .ok sys') :
    Reached allowed sys' := by
  rw [ForgingSystem.syncBlock] at hsync
  split at hsync
  · rename_i hblock
    obtain ⟨hblocks, hfits, hevents⟩ := hblock
    obtain ⟨added, hadd, hsync⟩ := except_bind_ok.mp hsync
    obtain ⟨slot, hslot, hsync⟩ := except_bind_ok.mp hsync
    cases hsync
    refine .sync sys added slot (liveView added.auction) txs false h (fun _ => hallowed) ?_ hfits ?_ hadd hslot
    · simpa using hblocks
    · intro newSlotDeadline hmem
      by_contra hne
      have hforge := of_decide_eq_true (List.all_eq_true.mp hevents _ hmem)
      simp [AuctionEvent.isForge, hne] at hforge
  · cases hsync

theorem Reached.syncBlocks (h : Reached (fun _ _ => True) sys) (blocks : List (List AuctionTx))
    (hsync : blocks.foldlM ForgingSystem.syncBlock sys = .ok sys') : Reached (fun _ _ => True) sys' :=
  foldlM_invariant (fun _ _ _ hprev hblock => hprev.syncBlock trivial hblock) h hsync

def lateGenesis : Auction.Genesis :=
  ⟨1, 0, 1, 2, 3, 4, 5, "boot", 0⟩

/-- The governance sets the deadline in the block before the auction starts. -/
def deadlineTx (newDeadline : BitVec 8) : AuctionTx :=
  { msg := { sender := 3, origin := 3 }, call := .setSlotDeadline newDeadline }

def atGenesis (newDeadline : BitVec 8) : Except String ForgingSystem := do
  let a ← lateGenesis.init.mapError fun _ => "revert"
  let a := a.step (deadlineTx newDeadline)
  let vars : AuctionVariables := ⟨0, 4, 5, "boot", a.defaultSlotSetBid, 0, 2, 4320, a.allocationRatio, 1000, a.slotDeadline⟩
  let db : AuctionTables := ⟨[], [⟨0, 5, 0, "boot"⟩], [vars], []⟩
  let slot ← updateCurrentSlot ⟨1⟩ vars db (liveView a) 0 {} true false
  return ⟨a, vars, db, slot, 1⟩

theorem reached_atGenesis {newDeadline : BitVec 8} (h : atGenesis newDeadline = .ok sys) : Reached allowed sys := by
  obtain ⟨a, ha, h⟩ := except_bind_ok.mp h
  have hreach : Auction.Reachable a 0 := by
    cases ha
    exact .init lateGenesis _ rfl
  have hgenesis : (a.step (deadlineTx newDeadline)).genesisBlock = 1 := by
    cases ha
    by_cases hdeadline : newDeadline.toNat ≤ blocksPerSlot <;>
      simp [deadlineTx, Auction.step, Auction.exec, Auction.setSlotDeadline, Auction.onlyGovernance,
        auctionRequire, hdeadline] <;> rfl
  obtain ⟨slot, hslot, h⟩ := except_bind_ok.mp h
  cases h
  refine .genesis _ {} (liveView (a.step (deadlineTx newDeadline))) 0 (.step a 0 _ hreach le_rfl) ?_ hgenesis.symm ?_
    rfl rfl ?_
  · exact hgenesis ▸ Nat.zero_lt_one
  · exact Nat.one_lt_two_pow (by decide)
  · rw [constants]
    dsimp only
    rw [hgenesis]
    exact hslot

def bootForge (blockNumber : Nat) : List AuctionTx :=
  [{ msg := { sender := 2, origin := 2, blockNumber := blockNumber }, call := .forge 5 }]

def forgeAfter (newDeadline : BitVec 8) (idle : Nat) : Except String ForgingSystem := do
  let sys ← atGenesis newDeadline
  (List.replicate idle [] ++ [bootForge (idle + 1)]).foldlM syncBlock sys

end ForgingSystem

theorem forgerCommitment_synced_firstBlock :
    ∃ sys, ForgingSystem.forgeAfter 20 0 = .ok sys ∧ sys.slot.forgerCommitment = true ∧ sys.CommitmentSynced := by
  have hrun : (ForgingSystem.forgeAfter 20 0).map (fun sys => sys.slot.forgerCommitment) = .ok true := by decide +kernel
  obtain ⟨sys, hsys, hcommitment⟩ := exists_of_map_ok hrun
  refine ⟨sys, hsys, hcommitment, forgerCommitment_synced ?_⟩
  obtain ⟨start, hstart, hblocks⟩ := except_bind_ok.mp hsys
  obtain ⟨sys', hblock, hlast⟩ := except_bind_ok.mp hblocks
  cases hlast
  refine (ForgingSystem.reached_atGenesis hstart).syncBlock (.inl ?_) hblock
  cases hstart
  decide

/-- With a deadline of 40 blocks, a batch in the last block of slot 0 commits the forger of slot 0 in the
contract and that of slot 1 in the node. -/
theorem lastBlock_commitsNextSlot :
    ∃ sys, ForgingSystem.Reached (fun _ _ => True) sys ∧ sys.auction.slotDeadline = 40 ∧ sys.nextBlock = 41 ∧
      sys.slot.forgerCommitment = true ∧ (sys.auction.slots sys.nextSlotNumber).forgerCommitment = false := by
  have hrun : (ForgingSystem.forgeAfter 40 39).map (fun sys => (sys.auction.slotDeadline, sys.nextBlock,
      sys.slot.forgerCommitment, (sys.auction.slots sys.nextSlotNumber).forgerCommitment)) = .ok (40, 41, true, false) := by
    decide +kernel
  obtain ⟨sys, hsys, hvalues⟩ := exists_of_map_ok hrun
  simp only [Prod.mk.injEq] at hvalues
  obtain ⟨start, hstart, hblocks⟩ := except_bind_ok.mp hsys
  exact ⟨sys, (ForgingSystem.reached_atGenesis hstart).syncBlocks _ hblocks, hvalues⟩

end HermezRollup
