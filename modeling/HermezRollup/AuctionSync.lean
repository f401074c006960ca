import HermezRollup.AuctionEvents

/-! The auction as the node keeps it: what `auctionSync` reads from the events of a block, the tables of the
HistoryDB it ends in, and the current and next slot that `updateCurrentSlot` and `updateNextSlot` derive
from them.  Block and slot numbers are the signed integers of the node; Go rounds quotients towards
zero. -/

namespace HermezRollup

open Fallible

/-! ### Slots -/

structure AuctionConstants where
  genesisBlockNum : Int
  deriving DecidableEq, Repr

namespace AuctionConstants

/-- `SlotNum`; both branches of the source compute the same quotient. -/
def slotNum (c : AuctionConstants) (blockNum : Int) : Int :=
  (blockNum - c.genesisBlockNum).tdiv blocksPerSlot

def slotBlocks (c : AuctionConstants) (slotNum : Int) : Int × Int :=
  let startBlock := c.genesisBlockNum + slotNum * blocksPerSlot
  (startBlock, startBlock + blocksPerSlot - 1)

def relativeBlock (c : AuctionConstants) (blockNum : Int) : Int :=
  blockNum - (c.genesisBlockNum + c.slotNum blockNum * blocksPerSlot)

end AuctionConstants

structure AuctionVariables where
  ethBlockNum : Int
  donationAddress : Address
  bootCoordinator : Address
  bootCoordinatorURL : String
  defaultSlotSetBid : Fin 6 → Nat
  defaultSlotSetBidSlotNum : Int
  closedAuctionSlots : BitVec 16
  openAuctionSlots : BitVec 16
  allocationRatio : Fin 3 → BitVec 16
  outbidding : BitVec 16
  slotDeadline : BitVec 8

/-- A slot with the winner of its auction. -/
structure Slot where
  slotNum : Int := 0
  defaultSlotBid : Nat := 0
  startBlock : Int := 0
  endBlock : Int := 0
  forgerCommitment : Bool := false
  bidValue : Nat := 0
  bootCoord : Bool := false
  bidder : Address := 0
  forger : Address := 0
  url : String := ""
  deriving DecidableEq, Repr

/-! ### Tables -/

structure BidRow where
  slotNum : Int
  bidValue : Nat
  ethBlockNum : Int
  bidder : Address
  deriving DecidableEq, Repr

structure CoordinatorRow where
  bidder : Address
  forger : Address
  ethBlockNum : Int
  url : String
  deriving DecidableEq, Repr

structure BatchRow where
  batchNum : Nat
  ethBlockNum : Int
  slotNum : Int
  deriving DecidableEq, Repr

/-- The tables of the HistoryDB about auctions, in the order of insertion.  Blocks come in order, so the
variables are ordered by block and the batches by number. -/
structure AuctionTables where
  bids : List BidRow
  coordinators : List CoordinatorRow
  auctionVars : List AuctionVariables
  batches : List BatchRow := []

structure BidCoordinator where
  defaultSlotSetBid : Fin 6 → Nat
  slotNum : Int
  bidValue : Nat
  bidder : Address
  forger : Address
  url : String

namespace AuctionTables

def coordinatorOf (db : AuctionTables) (bidder : Address) : Option CoordinatorRow :=
  (db.coordinators.filter fun row => row.bidder = bidder).getLast?

/-- The variables of the last row whose default bids apply to a slot. -/
def varsForSlot (db : AuctionTables) (slotNum : Int) : Option AuctionVariables :=
  (db.auctionVars.filter fun row => row.defaultSlotSetBidSlotNum ≤ slotNum).getLast?

/-- `GetBestBidCoordinator`: the last bid for a slot whose bidder is registered.  `none` is the error
of a query without rows; the first row of variables applies to all slots from 0 on. -/
def getBestBidCoordinator (db : AuctionTables) (slotNum : Int) : Option BidCoordinator := do
  let bid ← (db.bids.filter fun row => row.slotNum = slotNum ∧ (db.coordinatorOf row.bidder).isSome).getLast?
  let coordinator ← db.coordinatorOf bid.bidder
  let vars ← db.varsForSlot slotNum
  return ⟨vars.defaultSlotSetBid, bid.slotNum, bid.bidValue, bid.bidder, coordinator.forger, coordinator.url⟩

def getFirstBatchBlockNumBySlot (db : AuctionTables) (slotNum : Int) : Option Int :=
  (db.batches.find? fun row => row.slotNum = slotNum).map BatchRow.ethBlockNum

end AuctionTables

/-! ### Events of a block -/

structure AuctionData where
  bids : List BidRow
  coordinators : List CoordinatorRow
  vars : Option AuctionVariables

def AuctionEvent.bidRow (blockNum : Int) : AuctionEvent → Option BidRow
  | .newBid slot bidAmount bidder => some ⟨slot, bidAmount, blockNum, bidder⟩
  | _ => none

def AuctionEvent.coordinatorRow (blockNum : Int) : AuctionEvent → Option CoordinatorRow
  | .setCoordinator bidder forger coordinatorURL => some ⟨bidder, forger, blockNum, coordinatorURL⟩
  | _ => none

/-- The boot coordinator is stored without a bidder. -/
def AuctionEvent.bootCoordinatorRow (blockNum : Int) : AuctionEvent → Option CoordinatorRow
  | .newBootCoordinator forger url => some ⟨0, forger, blockNum, url⟩
  | _ => none

def AuctionEvent.updatesVars : AuctionEvent → Bool
  | .newSlotDeadline _ | .newClosedAuctionSlots _ | .newOutbidding _ | .newDonationAddress _
  | .newBootCoordinator _ _ | .newOpenAuctionSlots _ | .newAllocationRatio _ | .newDefaultSlotSetBid _ _ => true
  | _ => false

namespace AuctionVariables

/-! The loops of `auctionSync`, one for each kind of event. -/

def applySlotDeadline (vars : AuctionVariables) : AuctionEvent → AuctionVariables
  | .newSlotDeadline newSlotDeadline => { vars with slotDeadline := newSlotDeadline }
  | _ => vars

def applyClosedAuctionSlots (vars : AuctionVariables) : AuctionEvent → AuctionVariables
  | .newClosedAuctionSlots newClosedAuctionSlots => { vars with closedAuctionSlots := newClosedAuctionSlots }
  | _ => vars

def applyOutbidding (vars : AuctionVariables) : AuctionEvent → AuctionVariables
  | .newOutbidding newOutbidding => { vars with outbidding := newOutbidding }
  | _ => vars

def applyDonationAddress (vars : AuctionVariables) : AuctionEvent → AuctionVariables
  | .newDonationAddress newDonationAddress => { vars with donationAddress := newDonationAddress }
  | _ => vars

def applyBootCoordinator (vars : AuctionVariables) : AuctionEvent → AuctionVariables
  | .newBootCoordinator newBootCoordinator newBootCoordinatorURL =>
    { vars with bootCoordinator := newBootCoordinator, bootCoordinatorURL := newBootCoordinatorURL }
  | _ => vars

def applyOpenAuctionSlots (vars : AuctionVariables) : AuctionEvent → AuctionVariables
  | .newOpenAuctionSlots newOpenAuctionSlots => { vars with openAuctionSlots := newOpenAuctionSlots }
  | _ => vars

def applyAllocationRatio (vars : AuctionVariables) : AuctionEvent → AuctionVariables
  | .newAllocationRatio newAllocationRatio => { vars with allocationRatio := newAllocationRatio }
  | _ => vars

/-- The change of a default bid.  The check lets slot set 6 pass, which is out of the range of the
array. -/
def applyDefaultSlotSetBid (slotNum : Int) (vars : AuctionVariables) : AuctionEvent → Except String AuctionVariables
  | .newDefaultSlotSetBid slotSet newInitialMinBid =>
    if 6 < slotSet then .error "unexpected SlotSet in auctionEvents.NewDefaultSlotSetBid"
    else if slotSet = 6 then .error "index out of range"
    else .ok { vars with
      defaultSlotSetBid := Function.update vars.defaultSlotSetBid (Fin.ofNat 6 slotSet) newInitialMinBid
      defaultSlotSetBidSlotNum := slotNum + vars.closedAuctionSlots.toNat }
  | _ => .ok vars

def applyParameters (vars : AuctionVariables) (events : List AuctionEvent) : AuctionVariables :=
  let vars := events.foldl applySlotDeadline vars
  let vars := events.foldl applyClosedAuctionSlots vars
  let vars := events.foldl applyOutbidding vars
  let vars := events.foldl applyDonationAddress vars
  let vars := events.foldl applyBootCoordinator vars
  let vars := events.foldl applyOpenAuctionSlots vars
  events.foldl applyAllocationRatio vars

end AuctionVariables

/-- `auctionSync`: the new variables and the data of a block. -/
def auctionSync (c : AuctionConstants) (vars : AuctionVariables) (blockNum : Int) (events : List AuctionEvent) :
    Except String (AuctionVariables × AuctionData) := do
  let vars ← events.foldlM (AuctionVariables.applyDefaultSlotSetBid (c.slotNum blockNum)) (vars.applyParameters events)
  let varsUpdate := events.any AuctionEvent.updatesVars
  let vars := if varsUpdate then { vars with ethBlockNum := blockNum } else vars
  return (vars,
    { bids := events.filterMap (AuctionEvent.bidRow blockNum)
      coordinators := events.filterMap (AuctionEvent.coordinatorRow blockNum) ++
        events.filterMap (AuctionEvent.bootCoordinatorRow blockNum)
      vars := if varsUpdate then some vars else none })

/-- The part of `AddBlockSCData` about auctions. -/
def AuctionTables.addAuctionData (db : AuctionTables) (data : AuctionData) : AuctionTables :=
  { db with
    bids := db.bids ++ data.bids
    coordinators := db.coordinators ++ data.coordinators
    auctionVars := db.auctionVars ++ data.vars.toList }

/-! ### Current and next slot -/

section Slots

variable (c : AuctionConstants) (vars : AuctionVariables) (db : AuctionTables)

def withBootCoordinator (slot : Slot) : Slot :=
  { slot with bootCoord := true, forger := vars.bootCoordinator, url := vars.bootCoordinatorURL }

def setSlotCoordinator (slot : Slot) : Slot :=
  match db.getBestBidCoordinator slot.slotNum with
  | none => withBootCoordinator vars slot
  | some bidCoord =>
    let slot := { slot with
      bidValue := bidCoord.bidValue
      defaultSlotBid := bidCoord.defaultSlotSetBid (Fin.ofNat 6 (slot.slotNum.tmod 6).toNat) }
    if slot.defaultSlotBid ≤ slot.bidValue then
      { slot with bidder := bidCoord.bidder, forger := bidCoord.forger, url := bidCoord.url }
    else withBootCoordinator vars slot

/-- What the checks against the contract in `updateCurrentSlot` and `updateNextSlot` see: whether the node
is synced, and `AuctionCanForge`. -/
structure EthView where
  synced : Bool
  auctionCanForge : Address → Int → Except String Bool

def checkedCoordinator (eth : EthView) (blockNum : Int) (slot : Slot) (atBlock : Int) : Except String Slot :=
  if eth.synced ∧ c.genesisBlockNum ≤ blockNum then do
    let slot := setSlotCoordinator vars db slot
    let canForge ← eth.auctionCanForge slot.forger atBlock
    if canForge then return slot
    else .error "Synchronized value of forger address for closed slot differs from smart contract"
  else .ok slot

/-- The commitment of the forger, before the winner of the slot is set. -/
def updateCommitment (lastBlockNum : Int) (slot : Slot) (reset hasBatch : Bool) : Slot :=
  let slotNum := c.slotNum (lastBlockNum + 1)
  let firstBatch := if reset then db.getFirstBatchBlockNumBySlot slotNum else none
  let hasBatch := if reset then firstBatch.isSome else hasBatch
  let syncLastBlockNum := firstBatch.getD lastBlockNum
  let forgerCommitment := if reset ∨ slot.slotNum < slotNum then false else slot.forgerCommitment
  let (startBlock, endBlock) := c.slotBlocks slotNum
  { slot with
    slotNum := slotNum
    startBlock := startBlock
    endBlock := endBlock
    forgerCommitment := forgerCommitment ||
      (hasBatch && decide (c.relativeBlock syncLastBlockNum < vars.slotDeadline.toNat)) }

def updateCurrentSlot (eth : EthView) (lastBlockNum : Int) (slot : Slot) (reset hasBatch : Bool) : Except String Slot :=
  let blockNum := lastBlockNum + 1
  checkedCoordinator c vars db eth blockNum (updateCommitment c vars db lastBlockNum slot reset hasBatch) blockNum

def updateNextSlot (eth : EthView) (lastBlockNum : Int) (slot : Slot) : Except String Slot :=
  let blockNum := lastBlockNum + 1
  let slotNum := c.slotNum blockNum + 1
  let (startBlock, endBlock) := c.slotBlocks slotNum
  let slot := { slot with slotNum := slotNum, forgerCommitment := false, startBlock := startBlock, endBlock := endBlock }
  checkedCoordinator c vars db eth blockNum slot startBlock

def slotOfBlock (currentSlot nextSlot : Slot) (blockNum : Int) : Option Slot :=
  if currentSlot.startBlock ≤ blockNum ∧ blockNum ≤ currentSlot.endBlock then some currentSlot
  else if nextSlot.startBlock ≤ blockNum ∧ blockNum ≤ nextSlot.endBlock then some nextSlot
  else none

/-- Whether the coordinator takes it that anyone can forge in a block of a slot. -/
def anyoneForge (slot : Slot) (blockNum : Int) : Bool :=
  slot.forgerCommitment = false ∧ vars.slotDeadline.toNat ≤ c.relativeBlock blockNum

/-- `canForge` of the coordinator. -/
def coordinatorCanForge (currentSlot nextSlot : Slot) (addr : Address) (blockNum : Int) (mustForgeAtDeadline : Bool) :
    Bool :=
  if blockNum < c.genesisBlockNum then false
  else match slotOfBlock currentSlot nextSlot blockNum with
    | none => false
    | some slot => slot.forger = addr ∨ (anyoneForge c vars slot blockNum ∧ mustForgeAtDeadline)

end Slots

end HermezRollup
