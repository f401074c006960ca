import HermezRollup.AuctionMinBids

/-! What the events of the auction contract tell.  An observer that starts with the parameters of the
contract and records its events knows the bids, the registered coordinators, the parameters, the minimum
bids of the slots from the current one on, and in which slots the forger is committed. -/

namespace HermezRollup

open Fallible

/-- The auction as its events show it. -/
structure AuctionView where
  genesisBlock : Nat
  bids : Nat → Address × Nat
  closedMinBid : Nat → Nat
  defaultSlotSetBid : Fin 6 → Nat
  coordinators : Address → AuctionCoordinator
  bootCoordinator : Address
  bootCoordinatorURL : String
  closedAuctionSlots : BitVec 16
  slotDeadline : BitVec 8
  forgerCommitment : Nat → Bool

variable {slot : Nat} {msg : Msg}

namespace AuctionView

def slotNumber (v : AuctionView) (block : Nat) : Nat :=
  if v.genesisBlock ≤ block then (block - v.genesisBlock) / blocksPerSlot else 0

def relativeBlock (v : AuctionView) (block slot : Nat) : Nat :=
  block - (slot * blocksPerSlot + v.genesisBlock)

def minBid (v : AuctionView) (slot : Nat) : Nat :=
  if v.closedMinBid slot = 0 then v.defaultSlotSetBid (Auction.getSlotSet slot) else v.closedMinBid slot

/-- The minimum bids after the present ones were saved for the closed slots. -/
def savedMinBids (v : AuctionView) (block slot : Nat) : Nat :=
  if v.slotNumber block ≤ slot ∧ slot ≤ v.slotNumber block + v.closedAuctionSlots.toNat ∧ v.closedMinBid slot = 0 then
    v.defaultSlotSetBid (Auction.getSlotSet slot)
  else v.closedMinBid slot

def record (block : Nat) (v : AuctionView) : AuctionEvent → AuctionView
  | .newBid slot bidAmount bidder => { v with bids := Function.update v.bids slot (bidder, bidAmount) }
  | .newSlotDeadline newSlotDeadline => { v with slotDeadline := newSlotDeadline }
  | .newClosedAuctionSlots newClosedAuctionSlots => { v with closedAuctionSlots := newClosedAuctionSlots }
  | .newBootCoordinator newBootCoordinator newBootCoordinatorURL =>
    { v with bootCoordinator := newBootCoordinator, bootCoordinatorURL := newBootCoordinatorURL }
  | .setCoordinator bidder forger coordinatorURL =>
    { v with coordinators := Function.update v.coordinators bidder ⟨forger, coordinatorURL⟩ }
  | .newDefaultSlotSetBid slotSet newInitialMinBid =>
    { v with
      closedMinBid := v.savedMinBids block
      defaultSlotSetBid := Function.update v.defaultSlotSetBid (Fin.ofNat 6 slotSet) newInitialMinBid }
  | .newForge _ slotToForge =>
    { v with
      forgerCommitment := Function.update v.forgerCommitment slotToForge
        (v.forgerCommitment slotToForge || v.relativeBlock block slotToForge < v.slotDeadline.toNat) }
  | .newOutbidding _ | .newDonationAddress _ | .newOpenAuctionSlots _ | .newAllocationRatio _
  | .newForgeAllocated _ _ _ _ _ _ | .hezClaimed _ _ => v

/-- What the contract has checked when it emits an event. -/
def Accepts (block : Nat) (v : AuctionView) : AuctionEvent → Prop
  | .newBid _ bidAmount bidder => 0 < bidAmount ∧ (v.coordinators bidder).forger ≠ 0
  | .newDefaultSlotSetBid slotSet _ => slotSet < 6 ∧ v.defaultSlotSetBid (Fin.ofNat 6 slotSet) ≠ 0
  | .newForge _ slotToForge => v.genesisBlock ≤ block ∧ slotToForge = v.slotNumber block
  | _ => True

def AcceptsAll (block : Nat) : AuctionView → List AuctionEvent → Prop
  | _, [] => True
  | v, event :: events => v.Accepts block event ∧ (v.record block event).AcceptsAll block events

theorem acceptsAll_append {block : Nat} {v : AuctionView} {events events' : List AuctionEvent} :
    v.AcceptsAll block (events ++ events') ↔
      v.AcceptsAll block events ∧ (events.foldl (record block) v).AcceptsAll block events' := by
  induction events generalizing v with
  | nil => simp [AcceptsAll]
  | cons event events ih => rw [List.cons_append, AcceptsAll, AcceptsAll, ih, and_assoc, List.foldl_cons]

@[simp] theorem record_genesisBlock (block : Nat) (v : AuctionView) (event : AuctionEvent) :
    (v.record block event).genesisBlock = v.genesisBlock := by
  cases event <;> rfl

theorem foldl_record_genesisBlock (block : Nat) (v : AuctionView) (events : List AuctionEvent) :
    (events.foldl (record block) v).genesisBlock = v.genesisBlock := by
  induction events generalizing v with
  | nil => rfl
  | cons event events ih => rw [List.foldl_cons, ih, record_genesisBlock]

/-- The view shows a slot; the minimum bid is known from slot `first` on. -/
structure TracksSlot (v : AuctionView) (first slot : Nat) (s : SlotState) : Prop where
  bids : v.bids slot = (s.bidder, s.bidAmount)
  closedMinBid : first ≤ slot → v.closedMinBid slot = s.closedMinBid
  forgerCommitment : v.forgerCommitment slot = s.forgerCommitment

/-- The view shows a state of the contract. -/
structure Tracks (v : AuctionView) (a : Auction) (first : Nat) : Prop where
  genesisBlock : v.genesisBlock = a.genesisBlock
  slots : ∀ slot, v.TracksSlot first slot (a.slots slot)
  defaultSlotSetBid : v.defaultSlotSetBid = a.defaultSlotSetBid
  coordinators : v.coordinators = a.coordinators
  bootCoordinator : v.bootCoordinator = a.bootCoordinator
  bootCoordinatorURL : v.bootCoordinatorURL = a.bootCoordinatorURL
  closedAuctionSlots : v.closedAuctionSlots = a.closedAuctionSlots
  slotDeadline : v.slotDeadline = a.slotDeadline

variable {v : AuctionView} {a : Auction} {first : Nat}

theorem Tracks.mono (h : v.Tracks a first) {later : Nat} (hle : first ≤ later) : v.Tracks a later :=
  { h with slots := fun slot => { h.slots slot with
      closedMinBid := fun hslot => (h.slots slot).closedMinBid (hle.trans hslot) } }

theorem Tracks.minBid (h : v.Tracks a first) (hslot : first ≤ slot) : v.minBid slot = a.minBid slot := by
  rw [AuctionView.minBid, Auction.minBid, (h.slots slot).closedMinBid hslot, h.defaultSlotSetBid]

theorem Tracks.slotNumber (h : v.Tracks a first) (hblock : msg.blockNumber < 2 ^ 128) :
    v.slotNumber msg.blockNumber = a.getCurrentSlotNumber msg := by
  rw [AuctionView.slotNumber, Auction.getCurrentSlotNumber, Auction.getSlotNumber, Nat.mod_eq_of_lt hblock,
    h.genesisBlock]

end AuctionView

variable {token : HEZToken}

namespace Auction

open AuctionView

/-! ### Pieces of calls -/

/-- Two states that differ in pending balances and in the HEZ of the contract only. -/
def OnlyFunds (a a' : Auction) : Prop :=
  ∃ pendingBalances hezBalance, a' = { a with pendingBalances := pendingBalances, hezBalance := hezBalance }

variable {a a' : Auction}

theorem OnlyFunds.refl (a : Auction) : a.OnlyFunds a :=
  ⟨_, _, rfl⟩

theorem OnlyFunds.trans {a'' : Auction} (h : a.OnlyFunds a') (h' : a'.OnlyFunds a'') : a.OnlyFunds a'' := by
  obtain ⟨_, _, rfl⟩ := h
  obtain ⟨_, _, rfl⟩ := h'
  exact ⟨_, _, rfl⟩

theorem OnlyFunds.tracks {v : AuctionView} {first : Nat} (hfunds : a.OnlyFunds a') (h : v.Tracks a first) :
    v.Tracks a' first := by
  obtain ⟨_, _, rfl⟩ := hfunds
  exact { h with }

theorem transferFrom_ok {amount : Nat} {message : String}
    (h : a.transferFrom token amount message = .ok a') : a.OnlyFunds a' := by
  obtain ⟨-, h⟩ := auctionRequire_bind_ok.mp h
  cases h
  exact ⟨_, _, rfl⟩

theorem payOut_ok {passes : Bool} {amount : Nat} {message : String} (h : a.payOut passes amount message = .ok a') :
    a.OnlyFunds a' := by
  rw [payOut] at h
  split at h
  · cases h
  · obtain ⟨-, h⟩ := auctionRequire_bind_ok.mp h
    cases h
    exact ⟨_, _, rfl⟩

theorem addPending_ok {owner : Address} {amount : Nat} (h : a.addPending owner amount = .ok a') : a.OnlyFunds a' := by
  obtain ⟨pending, -, h⟩ := except_bind_ok.mp h
  cases h
  exact ⟨_, _, rfl⟩

theorem subPending_ok {owner : Address} {amount : Nat} (h : a.subPending owner amount = .ok a') : a.OnlyFunds a' := by
  obtain ⟨pending, -, h⟩ := except_bind_ok.mp h
  cases h
  exact ⟨_, _, rfl⟩

theorem refundPrevious_ok {previous : SlotState} (h : a.refundPrevious previous = .ok a') : a.OnlyFunds a' := by
  rw [refundPrevious] at h
  split at h
  · exact addPending_ok h
  · cases h
    exact .refl a

theorem OnlyFunds.modifySlot (h : a.OnlyFunds a') (slot : Nat) (f : SlotState → SlotState) :
    (a.modifySlot slot f).OnlyFunds (a'.modifySlot slot f) := by
  obtain ⟨_, _, rfl⟩ := h
  exact ⟨_, _, rfl⟩

theorem OnlyFunds.coordinators (h : a.OnlyFunds a') : a'.coordinators = a.coordinators := by
  obtain ⟨_, _, rfl⟩ := h
  rfl

theorem doBid_ok {bidAmount : Nat} {bidder : Address} {events : List AuctionEvent}
    (h : a.doBid slot bidAmount bidder = .ok (a', events)) :
    0 < bidAmount ∧ events = [.newBid slot bidAmount bidder] ∧
      (a.modifySlot slot fun s => { s with bidder := bidder, bidAmount := bidAmount }).OnlyFunds a' := by
  obtain ⟨hhigher, h⟩ := auctionRequire_bind_ok.mp h
  obtain ⟨a₁, hsub, h⟩ := except_bind_ok.mp h
  obtain ⟨a₂, hrefund, h⟩ := except_bind_ok.mp h
  cases h
  have hlt : (a.slots slot).bidAmount < bidAmount := of_decide_eq_true hhigher
  exact ⟨by omega, rfl, ((subPending_ok hsub).modifySlot _ _).trans (refundPrevious_ok hrefund)⟩

theorem checked_ok {result : Except String Nat} {n : Nat} : checked result = .ok n ↔ result = .ok n := by
  cases result with
  | error message => simp [checked, Except.mapError]
  | ok m => simp [checked, Except.mapError]

theorem relativeBlock_ok {block n : Nat} (h : a.relativeBlock block slot = .ok n) :
    n = block - (slot * blocksPerSlot + a.genesisBlock) := by
  obtain ⟨slotBlocks, hmul, h⟩ := except_bind_ok.mp h
  obtain ⟨slotStart, hadd, h⟩ := except_bind_ok.mp h
  obtain ⟨-, rfl⟩ := SafeMath.mul_ok.mp (checked_ok.mp hmul)
  obtain ⟨-, rfl⟩ := SafeMath.add_ok.mp (checked_ok.mp hadd)
  exact (SafeMath.sub_ok.mp (checked_ok.mp h)).2.symm

theorem commitForger_ok {block : Nat} (h : a.commitForger block slot = .ok a') :
    a' = a.modifySlot slot fun s => { s with
      forgerCommitment := s.forgerCommitment ||
        decide (block - (slot * blocksPerSlot + a.genesisBlock) < a.slotDeadline.toNat) } := by
  have hsame : ∀ committed, committed = (a.slots slot).forgerCommitment →
      a = a.modifySlot slot fun s => { s with forgerCommitment := committed } := by
    rintro _ rfl
    rw [modifySlot]
    exact congrArg (fun slots => { a with slots := slots }) (Function.update_eq_self slot a.slots).symm
  rw [commitForger] at h
  split at h
  next hopen =>
    obtain ⟨n, hrelative, h⟩ := except_bind_ok.mp h
    rw [relativeBlock_ok hrelative] at h
    split at h
    next hlt =>
      cases h
      simp [modifySlot, hlt]
    next hge =>
      cases h
      simpa [modifySlot, hopen, hge] using hsame false hopen.symm
  next hcommitted =>
    cases h
    have htrue : (a.slots slot).forgerCommitment = true := by simpa using hcommitted
    simpa [modifySlot, htrue] using hsame true htrue.symm

theorem fulfillSlot_ok {forger : Address} {events : List AuctionEvent}
    (h : a.fulfillSlot token forger slot = .ok (a', events)) :
    (∃ fulfilled, (a.modifySlot slot fun s => { s with fulfilled := fulfilled }).OnlyFunds a') ∧
      ∀ event ∈ events, ∃ bidder burnAmount donationAmount governanceAmount,
        event = .newForgeAllocated bidder forger slot burnAmount donationAmount governanceAmount := by
  rw [fulfillSlot] at h
  split at h
  · cases h
    refine ⟨⟨(a.slots slot).fulfilled, ?_⟩, by simp⟩
    rw [modifySlot]
    refine ⟨a.pendingBalances, a.hezBalance, ?_⟩
    exact congrArg (fun slots => { a with slots := slots }) (Function.update_eq_self slot a.slots).symm
  · dsimp only at h
    split at h
    · cases h
      exact ⟨⟨true, .refl _⟩, by simp⟩
    · split at h
      · obtain ⟨a₁, hadd, h⟩ := except_bind_ok.mp h
        cases h
        exact ⟨⟨true, addPending_ok hadd⟩, by simp⟩
      · obtain ⟨burn, -, h⟩ := except_bind_ok.mp h
        obtain ⟨donation, -, h⟩ := except_bind_ok.mp h
        obtain ⟨governance, -, h⟩ := except_bind_ok.mp h
        obtain ⟨a₁, hburn, h⟩ := except_bind_ok.mp h
        obtain ⟨a₂, hdonate, h⟩ := except_bind_ok.mp h
        obtain ⟨a₃, hgovern, h⟩ := except_bind_ok.mp h
        cases h
        refine ⟨⟨true, (payOut_ok hburn).trans ((addPending_ok hdonate).trans (addPending_ok hgovern))⟩, ?_⟩
        intro event hmem
        cases List.mem_singleton.mp hmem
        exact ⟨_, _, _, _, rfl⟩

end Auction

/-! ### Calls and their events -/

namespace AuctionView

open Auction

variable {v : AuctionView} {a a' : Auction} {first block : Nat}

theorem Tracks.modifySlot (h : v.Tracks a first) {slot : Nat} {f : SlotState → SlotState} {bids : Nat → Address × Nat}
    {closedMinBid : Nat → Nat} {forgerCommitment : Nat → Bool}
    (hother : ∀ other ≠ slot, bids other = v.bids other ∧ closedMinBid other = v.closedMinBid other ∧
      forgerCommitment other = v.forgerCommitment other)
    (hslot : { v with bids := bids, closedMinBid := closedMinBid, forgerCommitment := forgerCommitment }.TracksSlot first slot
      (f (a.slots slot))) :
    { v with bids := bids, closedMinBid := closedMinBid, forgerCommitment := forgerCommitment }.Tracks
      (a.modifySlot slot f) first := by
  refine { h with slots := fun other => ?_ }
  by_cases heq : other = slot
  · subst heq
    rwa [slots_modifySlot_self]
  · obtain ⟨hbids, hclosed, hcommitment⟩ := hother other heq
    rw [slots_modifySlot_of_ne _ _ heq]
    exact ⟨hbids.trans (h.slots other).bids, fun hle => hclosed.trans ((h.slots other).closedMinBid hle),
      hcommitment.trans (h.slots other).forgerCommitment⟩

theorem Tracks.newBid (h : v.Tracks a first) (slot bidAmount : Nat) (bidder : Address) :
    (v.record block (.newBid slot bidAmount bidder)).Tracks
      (a.modifySlot slot fun s => { s with bidder := bidder, bidAmount := bidAmount }) first :=
  h.modifySlot (fun _ hne => ⟨Function.update_of_ne hne _ _, rfl, rfl⟩)
    { h.slots slot with bids := Function.update_self _ _ _ }

theorem Tracks.fulfilled (h : v.Tracks a first) (slot : Nat) (fulfilled : Bool) :
    v.Tracks (a.modifySlot slot fun s => { s with fulfilled := fulfilled }) first :=
  h.modifySlot (fun _ _ => ⟨rfl, rfl, rfl⟩) { h.slots slot with }

theorem Tracks.newForge (h : v.Tracks a first) (slot : Nat) (forger : Address) :
    (v.record block (.newForge forger slot)).Tracks
      (a.modifySlot slot fun s => { s with
        forgerCommitment := s.forgerCommitment ||
          decide (block - (slot * blocksPerSlot + a.genesisBlock) < a.slotDeadline.toNat) }) first := by
  refine h.modifySlot (fun _ hne => ⟨rfl, rfl, Function.update_of_ne hne _ _⟩)
    { h.slots slot with forgerCommitment := ?_ }
  dsimp only
  rw [Function.update_self, (h.slots slot).forgerCommitment, relativeBlock, h.genesisBlock, h.slotDeadline]

theorem Tracks.claimed (h : v.Tracks a first) (hpast : slot < first) (minBid : Nat) :
    v.Tracks (a.modifySlot slot fun s => { s with closedMinBid := minBid, fulfilled := true }) first :=
  h.modifySlot (fun _ _ => ⟨rfl, rfl, rfl⟩)
    { h.slots slot with closedMinBid := fun hle => absurd hle (Nat.not_le.mpr hpast) }

variable {tx : AuctionTx} {events : List AuctionEvent}

/-- The events of a call are accepted, and the view that records them shows the new state. -/
def Follows (v : AuctionView) (block first : Nat) (result : Auction × List AuctionEvent) : Prop :=
  v.AcceptsAll block result.2 ∧ (result.2.foldl (record block) v).Tracks result.1 first

theorem follows_singleton {event : AuctionEvent} (haccepts : v.Accepts block event)
    (htracks : (v.record block event).Tracks a' first) : v.Follows block first (a', [event]) :=
  ⟨⟨haccepts, trivial⟩, htracks⟩

theorem savedMinBids_record (v : AuctionView) (block slotSet newInitialMinBid slot : Nat) :
    (v.record block (.newDefaultSlotSetBid slotSet newInitialMinBid)).closedMinBid slot =
      if v.slotNumber block ≤ slot ∧ slot ≤ v.slotNumber block + v.closedAuctionSlots.toNat ∧ v.closedMinBid slot = 0
      then v.defaultSlotSetBid (getSlotSet slot) else v.closedMinBid slot :=
  rfl

theorem follows_changeDefaultSlotSetBid {slotSet newInitialMinBid : BitVec 128}
    (h : v.Tracks a first) (hblock : msg.blockNumber < 2 ^ 128)
    (hok : a.changeDefaultSlotSetBid msg slotSet newInitialMinBid = .ok (a', events)) :
    v.Follows msg.blockNumber first (a', events) := by
  obtain ⟨-, hok⟩ := auctionRequire_bind_ok.mp hok
  obtain ⟨hset, hok⟩ := auctionRequire_bind_ok.mp hok
  obtain ⟨hne, hok⟩ := auctionRequire_bind_ok.mp hok
  dsimp only at hok
  rw [foldl_saveClosedMinBid] at hok
  cases hok
  refine follows_singleton ⟨of_decide_eq_true hset, ?_⟩ { h with slots := fun slot => ?_, defaultSlotSetBid := ?_ }
  · rw [h.defaultSlotSetBid]
    exact of_decide_eq_true hne
  · have hrange : slot ∈ List.range' (a.getCurrentSlotNumber msg) (a.closedAuctionSlots.toNat + 1) ↔
        v.slotNumber msg.blockNumber ≤ slot ∧ slot ≤ v.slotNumber msg.blockNumber + v.closedAuctionSlots.toNat := by
      rw [List.mem_range'_1, h.slotNumber hblock, h.closedAuctionSlots]
      omega
    have hslot := h.slots slot
    simp only [hrange]
    split
    next hin =>
      refine ⟨?_, fun hle => ?_, ?_⟩
      · rw [savedSlot, SlotState.withMinBid]
        split <;> exact hslot.bids
      · rw [savedMinBids_record, savedSlot, SlotState.withMinBid, ← hslot.closedMinBid hle, h.defaultSlotSetBid]
        by_cases hzero : v.closedMinBid slot = 0
        · rw [if_pos ⟨hin.1, hin.2, hzero⟩, if_pos hzero]
        · rw [if_neg (fun hall => hzero hall.2.2), if_neg hzero]
          exact hslot.closedMinBid hle
      · rw [savedSlot, SlotState.withMinBid]
        split <;> exact hslot.forgerCommitment
    next hout =>
      refine ⟨hslot.bids, fun hle => ?_, hslot.forgerCommitment⟩
      rw [savedMinBids_record, if_neg (fun hall => hout ⟨hall.1, hall.2.1⟩)]
      exact hslot.closedMinBid hle
  · rw [record, h.defaultSlotSetBid]

theorem follows_doBid {bidAmount : Nat} {bidder : Address} (h : v.Tracks a first)
    (hregistered : (a.coordinators bidder).forger ≠ 0) (hok : a.doBid slot bidAmount bidder = .ok (a', events)) :
    v.Follows block first (a', events) := by
  obtain ⟨hpos, rfl, hfunds⟩ := doBid_ok hok
  exact follows_singleton ⟨hpos, h.coordinators ▸ hregistered⟩ (hfunds.tracks (h.newBid slot bidAmount bidder))

theorem follows_processBid {amount slot bidAmount : BitVec 128} {permit : Option Permit}
    (h : v.Tracks a first) (hok : a.processBid token msg amount slot bidAmount permit = .ok (a', events)) :
    v.Follows block first (a', events) := by
  obtain ⟨hregistered, hok⟩ := auctionRequire_bind_ok.mp hok
  obtain ⟨-, hok⟩ := auctionRequire_bind_ok.mp hok
  obtain ⟨_, -, hok⟩ := except_bind_ok.mp hok
  obtain ⟨-, hok⟩ := auctionRequire_bind_ok.mp hok
  obtain ⟨-, hok⟩ := auctionRequire_bind_ok.mp hok
  obtain ⟨_, -, hok⟩ := except_bind_ok.mp hok
  obtain ⟨a₁, htransfer, hok⟩ := except_bind_ok.mp hok
  obtain ⟨a₂, hadd, hok⟩ := except_bind_ok.mp hok
  obtain ⟨-, hok⟩ := auctionRequire_bind_ok.mp hok
  have hfunds := (transferFrom_ok htransfer).trans (addPending_ok hadd)
  exact follows_doBid (hfunds.tracks h) (hfunds.coordinators ▸ of_decide_eq_true hregistered) hok

theorem Follows.append {a₁ : Auction} (h : v.Follows block first (a₁, events)) {events' : List AuctionEvent}
    (h' : (events.foldl (record block) v).Follows block first (a', events')) :
    v.Follows block first (a', events ++ events') :=
  ⟨acceptsAll_append.mpr ⟨h.1, h'.1⟩, by rw [List.foldl_append]; exact h'.2⟩

theorem follows_multiBidSlot {slotSets : Fin 6 → Bool} {maxBid minBid : Nat}
    {result result' : Auction × List AuctionEvent}
    (h : v.Follows block first result ∧ (result.1.coordinators msg.sender).forger ≠ 0)
    (hok : multiBidSlot msg slotSets maxBid minBid result slot = .ok result') :
    v.Follows block first result' ∧ (result'.1.coordinators msg.sender).forger ≠ 0 := by
  obtain ⟨a, events⟩ := result
  obtain ⟨minBidBySlot, -, hok⟩ := except_bind_ok.mp hok
  cases hamount : multiBidAmount minBidBySlot minBid maxBid with
  | none =>
    rw [hamount] at hok
    cases hok
    exact h
  | some bidAmount =>
    rw [hamount] at hok
    dsimp only at hok
    split at hok
    · obtain ⟨-, hok⟩ := auctionRequire_bind_ok.mp hok
      obtain ⟨⟨a₁, bidEvents⟩, hbid, hok⟩ := except_bind_ok.mp hok
      cases hok
      refine ⟨h.1.append (follows_doBid h.1.2 h.2 hbid), ?_⟩
      rw [(doBid_ok hbid).2.2.coordinators]
      exact h.2
    · cases hok
      exact h

theorem follows_processMultiBid {amount startingSlot endingSlot : BitVec 128}
    {slotSets : Fin 6 → Bool} {maxBid minBid : BitVec 128} {permit : Option Permit} (h : v.Tracks a first)
    (hok : a.processMultiBid token msg amount startingSlot endingSlot slotSets maxBid minBid permit = .ok (a', events)) :
    v.Follows block first (a', events) := by
  obtain ⟨-, hok⟩ := auctionRequire_bind_ok.mp hok
  obtain ⟨-, hok⟩ := auctionRequire_bind_ok.mp hok
  obtain ⟨-, hok⟩ := auctionRequire_bind_ok.mp hok
  obtain ⟨hregistered, hok⟩ := auctionRequire_bind_ok.mp hok
  obtain ⟨_, -, hok⟩ := except_bind_ok.mp hok
  obtain ⟨a₁, htransfer, hok⟩ := except_bind_ok.mp hok
  obtain ⟨a₂, hadd, hok⟩ := except_bind_ok.mp hok
  have hfunds := (transferFrom_ok htransfer).trans (addPending_ok hadd)
  refine (foldlM_invariant (P := fun result => v.Follows block first result ∧
    (result.1.coordinators msg.sender).forger ≠ 0) (fun _ _ _ => follows_multiBidSlot) ?_ hok).1
  exact ⟨⟨trivial, hfunds.tracks h⟩, hfunds.coordinators ▸ of_decide_eq_true hregistered⟩

theorem quiet_of_allocations (v : AuctionView) (block : Nat) {forger : Address}
    (hevents : ∀ event ∈ events, ∃ bidder burnAmount donationAmount governanceAmount,
      event = .newForgeAllocated bidder forger slot burnAmount donationAmount governanceAmount) :
    v.AcceptsAll block events ∧ events.foldl (record block) v = v := by
  induction events with
  | nil => exact ⟨trivial, rfl⟩
  | cons event events ih =>
    obtain ⟨_, _, _, _, rfl⟩ := hevents event List.mem_cons_self
    obtain ⟨haccepts, hfold⟩ := ih fun e he => hevents e (List.mem_cons_of_mem _ he)
    exact ⟨⟨trivial, haccepts⟩, hfold⟩

theorem follows_forge {forger : Address} (h : v.Tracks a first)
    (hblock : msg.blockNumber < 2 ^ 128) (hok : a.forge token msg forger = .ok (a', events)) :
    v.Follows msg.blockNumber first (a', events) := by
  obtain ⟨-, hok⟩ := auctionRequire_bind_ok.mp hok
  obtain ⟨allowed, hcan, hok⟩ := except_bind_ok.mp hok
  obtain ⟨-, hcan⟩ := auctionRequire_bind_ok.mp hcan
  obtain ⟨hgenesis, -⟩ := auctionRequire_bind_ok.mp hcan
  obtain ⟨-, hok⟩ := auctionRequire_bind_ok.mp hok
  obtain ⟨a₁, hcommit, hok⟩ := except_bind_ok.mp hok
  obtain ⟨⟨a₂, fulfillEvents⟩, hfulfill, hok⟩ := except_bind_ok.mp hok
  cases hok
  rw [Nat.mod_eq_of_lt hblock] at hcommit
  obtain rfl := commitForger_ok hcommit
  obtain ⟨⟨fulfilled, hfunds⟩, hevents⟩ := fulfillSlot_ok hfulfill
  have hquiet := quiet_of_allocations v msg.blockNumber hevents
  have hslot : a.getCurrentSlotNumber msg = v.slotNumber msg.blockNumber := (h.slotNumber hblock).symm
  refine ⟨acceptsAll_append.mpr ⟨hquiet.1, ?_⟩, ?_⟩
  · rw [hquiet.2]
    exact ⟨⟨h.genesisBlock ▸ of_decide_eq_true hgenesis, hslot⟩, trivial⟩
  · rw [List.foldl_append, hquiet.2]
    exact hfunds.tracks ((h.newForge _ forger).fulfilled _ fulfilled)

theorem follows_claimPendingHEZ {slot : BitVec 128} (h : v.Tracks a first)
    (hfirst : first = a.getCurrentSlotNumber msg) (hok : a.claimPendingHEZ msg slot = .ok (a', events)) :
    v.Follows block first (a', events) := by
  obtain ⟨hpast, hok⟩ := auctionRequire_bind_ok.mp hok
  obtain ⟨-, hok⟩ := auctionRequire_bind_ok.mp hok
  obtain ⟨-, hok⟩ := auctionRequire_bind_ok.mp hok
  obtain ⟨a₁, hadd, hok⟩ := except_bind_ok.mp hok
  cases hok
  exact ⟨trivial, (addPending_ok hadd).tracks (h.claimed (hfirst ▸ of_decide_eq_true hpast) _)⟩

theorem follows_claimHEZ (h : v.Tracks a first)
    (hok : a.claimHEZ token msg = .ok (a', events)) : v.Follows block first (a', events) := by
  obtain ⟨-, hok⟩ := auctionRequire_bind_ok.mp hok
  obtain ⟨a₁, hpay, hok⟩ := except_bind_ok.mp hok
  cases hok
  refine follows_singleton trivial ((payOut_ok hpay).tracks ?_)
  exact { h with }

/-- **The events tell the state**: a call that succeeds emits events that the view accepts, and the view
that records them shows the new state. -/
theorem follows_exec (h : v.Tracks a (a.getCurrentSlotNumber tx.msg)) (hblock : tx.msg.blockNumber < 2 ^ 128)
    (hok : a.exec tx = .ok (a', events)) :
    v.Follows tx.msg.blockNumber (a.getCurrentSlotNumber tx.msg) (a', events) := by
  obtain ⟨token, msg, call⟩ := tx
  rw [exec] at hok
  cases call with
  | setSlotDeadline =>
    obtain ⟨-, hok⟩ := auctionRequire_bind_ok.mp hok
    obtain ⟨-, hok⟩ := auctionRequire_bind_ok.mp hok
    cases hok
    exact follows_singleton trivial { h with slots := fun slot => { h.slots slot with }, slotDeadline := rfl }
  | setOpenAuctionSlots =>
    obtain ⟨-, hok⟩ := auctionRequire_bind_ok.mp hok
    cases hok
    exact follows_singleton trivial { h with }
  | setClosedAuctionSlots =>
    obtain ⟨-, hok⟩ := auctionRequire_bind_ok.mp hok
    cases hok
    exact follows_singleton trivial { h with slots := fun slot => { h.slots slot with }, closedAuctionSlots := rfl }
  | setOutbidding | setAllocationRatio | setDonationAddress =>
    obtain ⟨-, hok⟩ := auctionRequire_bind_ok.mp hok
    obtain ⟨-, hok⟩ := auctionRequire_bind_ok.mp hok
    cases hok
    exact follows_singleton trivial { h with }
  | setBootCoordinator =>
    obtain ⟨-, hok⟩ := auctionRequire_bind_ok.mp hok
    cases hok
    exact follows_singleton trivial { h with
      slots := fun slot => { h.slots slot with }, bootCoordinator := rfl, bootCoordinatorURL := rfl }
  | changeDefaultSlotSetBid => exact follows_changeDefaultSlotSetBid h hblock hok
  | setCoordinator =>
    obtain ⟨-, hok⟩ := auctionRequire_bind_ok.mp hok
    cases hok
    refine follows_singleton trivial { h with slots := fun slot => { h.slots slot with }, coordinators := ?_ }
    rw [record, h.coordinators]
  | processBid => exact follows_processBid h hok
  | processMultiBid => exact follows_processMultiBid h hok
  | forge => exact follows_forge h hblock hok
  | claimPendingHEZ => exact follows_claimPendingHEZ h rfl hok
  | claimHEZ => exact follows_claimHEZ h hok

end AuctionView

/-! ### Blocks -/

namespace Auction

/-- The calls of a block one after the other, with the events of those that succeed. -/
def runBlock (a : Auction) : List AuctionTx → Auction × List AuctionEvent
  | [] => (a, [])
  | tx :: txs =>
    match a.exec tx with
    | .error _ => a.runBlock txs
    | .ok (a', events) => ((a'.runBlock txs).1, events ++ (a'.runBlock txs).2)

/-- Everything the events of a contract can have told. -/
def view (a : Auction) : AuctionView where
  genesisBlock := a.genesisBlock
  bids := fun slot => ((a.slots slot).bidder, (a.slots slot).bidAmount)
  closedMinBid := fun slot => (a.slots slot).closedMinBid
  defaultSlotSetBid := a.defaultSlotSetBid
  coordinators := a.coordinators
  bootCoordinator := a.bootCoordinator
  bootCoordinatorURL := a.bootCoordinatorURL
  closedAuctionSlots := a.closedAuctionSlots
  slotDeadline := a.slotDeadline
  forgerCommitment := fun slot => (a.slots slot).forgerCommitment

theorem view_tracks (a : Auction) (first : Nat) : a.view.Tracks a first :=
  ⟨rfl, fun _ => ⟨rfl, fun _ => rfl, rfl⟩, rfl, rfl, rfl, rfl, rfl, rfl⟩

end Auction

namespace AuctionView

variable {v : AuctionView} {a : Auction} {block : Nat}

theorem follows_runBlock {txs : List AuctionTx} (h : v.Tracks a (v.slotNumber block))
    (hblocks : ∀ tx ∈ txs, tx.msg.blockNumber = block) (hfits : block < 2 ^ 128) :
    v.Follows block (v.slotNumber block) (a.runBlock txs) := by
  induction txs generalizing a v with
  | nil => exact ⟨trivial, h⟩
  | cons tx txs ih =>
    have hrest : ∀ tx ∈ txs, tx.msg.blockNumber = block := fun tx hmem => hblocks tx (List.mem_cons_of_mem _ hmem)
    have hblock := hblocks tx List.mem_cons_self
    rw [Auction.runBlock]
    cases hexec : a.exec tx with
    | error e => exact ih h hrest
    | ok result =>
      obtain ⟨a', events⟩ := result
      have hcurrent : a.getCurrentSlotNumber tx.msg = v.slotNumber block := by
        rw [← h.slotNumber (hblock ▸ hfits), hblock]
      have hfollows := follows_exec (hcurrent ▸ h) (hblock ▸ hfits) hexec
      rw [hcurrent, hblock] at hfollows
      have hslot : (events.foldl (record block) v).slotNumber block = v.slotNumber block := by
        rw [slotNumber, slotNumber, foldl_record_genesisBlock]
      have hlater := ih (hslot.symm ▸ hfollows.2) hrest
      rw [hslot] at hlater
      exact hfollows.append hlater

end AuctionView

end HermezRollup
