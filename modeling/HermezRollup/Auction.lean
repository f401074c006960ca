import HermezRollup.Contract
import HermezRollup.SafeMath
import Mathlib.Data.Fin.VecNotation

/-! The auction contract (`HermezAuctionProtocol.sol`).  Time is divided in slots of 40 blocks; the right
to forge in a slot is sold for HEZ, with six minimum bids that take turns.  A call reverts or returns the
new state and its events.  Amounts are `uint128` values held as numbers, with the checked operations of
the source; slot numbers are quotients by 40 of `uint128` block numbers, so the unchecked sums with the
16-bit parameters stay in range.

The HEZ token is outside: it lets a transfer or a burn through or not, and moves exactly the amount.
Of its balances only that of the auction contract matters, which never calls itself. -/

namespace HermezRollup

/-! ### State -/

-- the six slot sets and the three allocations are numbered from zero
instance neZero_slotSets : NeZero 6 :=
  ⟨by decide⟩

instance neZero_allocations : NeZero 3 :=
  ⟨by decide⟩

structure SlotState where
  bidder : Address := 0
  fulfilled : Bool := false
  forgerCommitment : Bool := false
  bidAmount : Nat := 0
  closedMinBid : Nat := 0
  deriving DecidableEq, Repr

structure AuctionCoordinator where
  forger : Address := 0
  coordinatorURL : String := ""
  deriving DecidableEq, Repr

structure Auction where
  thisAddress : Address
  hermezRollup : Address
  governanceAddress : Address
  donationAddress : Address
  bootCoordinator : Address
  bootCoordinatorURL : String
  defaultSlotSetBid : Fin 6 → Nat
  genesisBlock : Nat
  closedAuctionSlots : BitVec 16
  openAuctionSlots : BitVec 16
  allocationRatio : Fin 3 → BitVec 16
  outbidding : BitVec 16
  slotDeadline : BitVec 8
  slots : Nat → SlotState
  pendingBalances : Address → Nat
  coordinators : Address → AuctionCoordinator
  /-- The HEZ that belong to the contract. -/
  hezBalance : Nat

inductive AuctionEvent where
  | newBid (slot bidAmount : Nat) (bidder : Address)
  | newSlotDeadline (newSlotDeadline : BitVec 8)
  | newClosedAuctionSlots (newClosedAuctionSlots : BitVec 16)
  | newOutbidding (newOutbidding : BitVec 16)
  | newDonationAddress (newDonationAddress : Address)
  | newBootCoordinator (newBootCoordinator : Address) (newBootCoordinatorURL : String)
  | newOpenAuctionSlots (newOpenAuctionSlots : BitVec 16)
  | newAllocationRatio (newAllocationRatio : Fin 3 → BitVec 16)
  | setCoordinator (bidder forger : Address) (coordinatorURL : String)
  | newForgeAllocated (bidder forger : Address) (slotToForge burnAmount donationAmount governanceAmount : Nat)
  | newDefaultSlotSetBid (slotSet newInitialMinBid : Nat)
  | newForge (forger : Address) (slotToForge : Nat)
  | hezClaimed (owner : Address) (amount : Nat)
  deriving DecidableEq

/-- Why a call fails.  That the contract has too few HEZ for a transfer or a burn is kept apart. -/
inductive AuctionError where
  | revert (message : String)
  | lackOfHEZ
  deriving DecidableEq, Repr

/-- Whether the token lets an operation through, for reasons other than the balance of the auction. -/
structure HEZToken where
  transferFrom : Bool := true
  transfer : Bool := true
  burn : Bool := true

/-- The decoded data of a `permit` call that comes with a bid. -/
structure Permit where
  sig : BitVec 32
  owner : Address
  spender : Address
  value : Nat
  deriving DecidableEq, Repr

def auctionRequire (condition : Bool) (message : String) : Except AuctionError Unit :=
  if condition then .ok () else .error (.revert message)

/-- An operation of `SafeMath128`. -/
def checked (result : Except String Nat) : Except AuctionError Nat :=
  result.mapError .revert

def blocksPerSlot : Nat := 40

def initialMinimalBidding : Nat := 1000000 * 10 ^ 18

def permitSignature : BitVec 32 := 0xd505accf

namespace Auction

/-- `hermezAuctionProtocolInitializer`. -/
def hermezAuctionProtocolInitializer (thisAddress : Address) (blockNumber : Nat) (genesis : BitVec 128)
    (hermezRollupAddress governanceAddress donationAddress bootCoordinatorAddress : Address)
    (bootCoordinatorURL : String) (hezBalance : Nat) : Except AuctionError Auction := do
  auctionRequire (hermezRollupAddress ≠ 0) "HermezAuctionProtocol::hermezAuctionProtocolInitializer ADDRESS_0_NOT_VALID"
  auctionRequire (blockNumber ≤ genesis.toNat) "HermezAuctionProtocol::hermezAuctionProtocolInitializer GENESIS_BELOW_MINIMAL"
  return {
    thisAddress := thisAddress
    hermezRollup := hermezRollupAddress
    governanceAddress := governanceAddress
    donationAddress := donationAddress
    bootCoordinator := bootCoordinatorAddress
    bootCoordinatorURL := bootCoordinatorURL
    defaultSlotSetBid := fun _ => initialMinimalBidding
    genesisBlock := genesis.toNat
    closedAuctionSlots := 2
    openAuctionSlots := 4320
    allocationRatio := ![4000, 4000, 2000]
    outbidding := 1000
    slotDeadline := 20
    slots := fun _ => {}
    pendingBalances := fun _ => 0
    coordinators := fun _ => {}
    hezBalance := hezBalance }

/-! ### Slots -/

def getSlotNumber (a : Auction) (blockNumber : Nat) : Nat :=
  if a.genesisBlock ≤ blockNumber then (blockNumber - a.genesisBlock) / blocksPerSlot else 0

def getCurrentSlotNumber (a : Auction) (msg : Msg) : Nat :=
  a.getSlotNumber (msg.blockNumber % 2 ^ 128)

def getSlotSet (slot : Nat) : Fin 6 :=
  Fin.ofNat 6 slot

/-- The minimum bid that decides a slot: the one saved for it, or the default of its slot set. -/
def minBid (a : Auction) (slot : Nat) : Nat :=
  if (a.slots slot).closedMinBid = 0 then a.defaultSlotSetBid (getSlotSet slot) else (a.slots slot).closedMinBid

/-- The last slot that is no longer open for bids. -/
def lastClosedSlot (a : Auction) (msg : Msg) : Nat :=
  a.getCurrentSlotNumber msg + a.closedAuctionSlots.toNat

def getMinBidBySlot (a : Auction) (msg : Msg) (slot : Nat) : Except AuctionError Nat := do
  auctionRequire (a.lastClosedSlot msg < slot) "HermezAuctionProtocol::getMinBidBySlot: AUCTION_CLOSED"
  let previous := if (a.slots slot).bidAmount = 0 then a.defaultSlotSetBid (getSlotSet slot) else (a.slots slot).bidAmount
  let raise ← checked (SafeMath.mul 128 previous a.outbidding.toNat)
  checked (SafeMath.add 128 previous (raise / 10000))

def modifySlot (a : Auction) (slot : Nat) (f : SlotState → SlotState) : Auction :=
  { a with slots := Function.update a.slots slot (f (a.slots slot)) }

@[simp] theorem slots_modifySlot_self (a : Auction) (slot : Nat) (f : SlotState → SlotState) :
    (a.modifySlot slot f).slots slot = f (a.slots slot) :=
  Function.update_self _ _ _

theorem slots_modifySlot_of_ne (a : Auction) {slot other : Nat} (f : SlotState → SlotState) (h : other ≠ slot) :
    (a.modifySlot slot f).slots other = a.slots other :=
  Function.update_of_ne h _ _

def addPending (a : Auction) (owner : Address) (amount : Nat) : Except AuctionError Auction := do
  let pending ← checked (SafeMath.add 128 (a.pendingBalances owner) amount)
  return { a with pendingBalances := Function.update a.pendingBalances owner pending }

def subPending (a : Auction) (owner : Address) (amount : Nat) : Except AuctionError Auction := do
  let pending ← checked (SafeMath.sub (a.pendingBalances owner) amount)
  return { a with pendingBalances := Function.update a.pendingBalances owner pending }

/-! ### HEZ -/

/-- `tokenHEZ.transferFrom(msg.sender, address(this), amount)`. -/
def transferFrom (a : Auction) (token : HEZToken) (amount : Nat) (message : String) : Except AuctionError Auction := do
  auctionRequire token.transferFrom message
  return { a with hezBalance := a.hezBalance + amount }

/-- HEZ that leave the contract, by a burn or by a transfer. -/
def payOut (a : Auction) (passes : Bool) (amount : Nat) (message : String) : Except AuctionError Auction :=
  if a.hezBalance < amount then .error .lackOfHEZ
  else do
    auctionRequire passes message
    return { a with hezBalance := a.hezBalance - amount }

/-! ### Governance -/

def onlyGovernance (a : Auction) (msg : Msg) : Except AuctionError Unit :=
  auctionRequire (a.governanceAddress = msg.sender) "HermezAuctionProtocol::onlyGovernance: ONLY_GOVERNANCE"

def setSlotDeadline (a : Auction) (msg : Msg) (newDeadline : BitVec 8) :
    Except AuctionError (Auction × List AuctionEvent) := do
  a.onlyGovernance msg
  auctionRequire (newDeadline.toNat ≤ blocksPerSlot) "HermezAuctionProtocol::setSlotDeadline: GREATER_THAN_BLOCKS_PER_SLOT"
  return ({ a with slotDeadline := newDeadline }, [.newSlotDeadline newDeadline])

def setOpenAuctionSlots (a : Auction) (msg : Msg) (newOpenAuctionSlots : BitVec 16) :
    Except AuctionError (Auction × List AuctionEvent) := do
  a.onlyGovernance msg
  return ({ a with openAuctionSlots := newOpenAuctionSlots }, [.newOpenAuctionSlots newOpenAuctionSlots])

def setClosedAuctionSlots (a : Auction) (msg : Msg) (newClosedAuctionSlots : BitVec 16) :
    Except AuctionError (Auction × List AuctionEvent) := do
  a.onlyGovernance msg
  return ({ a with closedAuctionSlots := newClosedAuctionSlots }, [.newClosedAuctionSlots newClosedAuctionSlots])

def setOutbidding (a : Auction) (msg : Msg) (newOutbidding : BitVec 16) :
    Except AuctionError (Auction × List AuctionEvent) := do
  a.onlyGovernance msg
  auctionRequire (1 < newOutbidding.toNat ∧ newOutbidding.toNat < 10000)
    "HermezAuctionProtocol::setOutbidding: OUTBIDDING_NOT_VALID"
  return ({ a with outbidding := newOutbidding }, [.newOutbidding newOutbidding])

/-- `setAllocationRatio`; the sum is one of 16 bits. -/
def setAllocationRatio (a : Auction) (msg : Msg) (newAllocationRatio : Fin 3 → BitVec 16) :
    Except AuctionError (Auction × List AuctionEvent) := do
  a.onlyGovernance msg
  auctionRequire (newAllocationRatio 0 ≤ 10000 ∧ newAllocationRatio 1 ≤ 10000 ∧ newAllocationRatio 2 ≤ 10000 ∧
      newAllocationRatio 0 + newAllocationRatio 1 + newAllocationRatio 2 = 10000)
    "HermezAuctionProtocol::setAllocationRatio: ALLOCATION_RATIO_NOT_VALID"
  return ({ a with allocationRatio := newAllocationRatio }, [.newAllocationRatio newAllocationRatio])

def setDonationAddress (a : Auction) (msg : Msg) (newDonationAddress : Address) :
    Except AuctionError (Auction × List AuctionEvent) := do
  a.onlyGovernance msg
  auctionRequire (newDonationAddress ≠ 0) "HermezAuctionProtocol::setDonationAddress: NOT_VALID_ADDRESS"
  return ({ a with donationAddress := newDonationAddress }, [.newDonationAddress newDonationAddress])

def setBootCoordinator (a : Auction) (msg : Msg) (newBootCoordinator : Address) (newBootCoordinatorURL : String) :
    Except AuctionError (Auction × List AuctionEvent) := do
  a.onlyGovernance msg
  return ({ a with bootCoordinator := newBootCoordinator, bootCoordinatorURL := newBootCoordinatorURL },
    [.newBootCoordinator newBootCoordinator newBootCoordinatorURL])

/-- One round of the loop of `changeDefaultSlotSetBid`. -/
def saveClosedMinBid (a : Auction) (slot : Nat) : Auction :=
  if (a.slots slot).closedMinBid = 0 then
    a.modifySlot slot fun s => { s with closedMinBid := a.defaultSlotSetBid (getSlotSet slot) }
  else a

def changeDefaultSlotSetBid (a : Auction) (msg : Msg) (slotSet newInitialMinBid : BitVec 128) :
    Except AuctionError (Auction × List AuctionEvent) := do
  a.onlyGovernance msg
  auctionRequire (slotSet.toNat < 6) "HermezAuctionProtocol::changeDefaultSlotSetBid: NOT_VALID_SLOT_SET"
  auctionRequire (a.defaultSlotSetBid (Fin.ofNat 6 slotSet.toNat) ≠ 0)
    "HermezAuctionProtocol::changeDefaultSlotSetBid: SLOT_DECENTRALIZED"
  let current := a.getCurrentSlotNumber msg
  let a' := (List.range' current (a.closedAuctionSlots.toNat + 1)).foldl saveClosedMinBid a
  return ({ a' with
      defaultSlotSetBid := Function.update a'.defaultSlotSetBid (Fin.ofNat 6 slotSet.toNat) newInitialMinBid.toNat },
    [.newDefaultSlotSetBid slotSet.toNat newInitialMinBid.toNat])

/-! ### Bids -/

/-- `setCoordinator`; hashes of the two strings are compared in place of the strings. -/
def setCoordinator (a : Auction) (msg : Msg) (forger : Address) (coordinatorURL : String) :
    Except AuctionError (Auction × List AuctionEvent) := do
  auctionRequire (coordinatorURL ≠ "") "HermezAuctionProtocol::setCoordinator: NOT_VALID_URL"
  return ({ a with coordinators := Function.update a.coordinators msg.sender ⟨forger, coordinatorURL⟩ },
    [.setCoordinator msg.sender forger coordinatorURL])

/-- `_permit`.  The call of the token is not checked, and only sets an allowance. -/
def checkPermit (a : Auction) (msg : Msg) (amount : Nat) : Option Permit → Except AuctionError Unit
  | none => .ok ()
  | some permit => do
    auctionRequire (permit.sig = permitSignature) "HermezAuctionProtocol::_permit: NOT_VALID_CALL"
    auctionRequire (permit.owner = msg.sender) "HermezAuctionProtocol::_permit: OWNER_NOT_EQUAL_SENDER"
    auctionRequire (permit.spender = a.thisAddress) "HermezAuctionProtocol::_permit: SPENDER_NOT_EQUAL_THIS"
    auctionRequire (permit.value = amount) "HermezAuctionProtocol::_permit: WRONG_AMOUNT"

/-- The return of the previous bid in `_doBid`. -/
def refundPrevious (a : Auction) (previous : SlotState) : Except AuctionError Auction :=
  if previous.bidder ≠ 0 ∧ previous.bidAmount ≠ 0 then a.addPending previous.bidder previous.bidAmount
  else .ok a

/-- `_doBid`. -/
def doBid (a : Auction) (slot bidAmount : Nat) (bidder : Address) :
    Except AuctionError (Auction × List AuctionEvent) := do
  let previous := a.slots slot
  auctionRequire (previous.bidAmount < bidAmount) "HermezAuctionProtocol::_doBid: BID_MUST_BE_HIGHER"
  let a ← a.subPending bidder bidAmount
  let a := a.modifySlot slot fun s => { s with bidder := bidder, bidAmount := bidAmount }
  let a ← a.refundPrevious previous
  return (a, [.newBid slot bidAmount bidder])

def processBid (a : Auction) (token : HEZToken) (msg : Msg) (amount slot bidAmount : BitVec 128)
    (permit : Option Permit) : Except AuctionError (Auction × List AuctionEvent) := do
  auctionRequire ((a.coordinators msg.sender).forger ≠ 0) "HermezAuctionProtocol::processBid: COORDINATOR_NOT_REGISTERED"
  auctionRequire (a.lastClosedSlot msg < slot.toNat) "HermezAuctionProtocol::processBid: AUCTION_CLOSED"
  let minBidBySlot ← a.getMinBidBySlot msg slot.toNat
  auctionRequire (minBidBySlot ≤ bidAmount.toNat) "HermezAuctionProtocol::processBid: BELOW_MINIMUM"
  auctionRequire (slot.toNat ≤ a.lastClosedSlot msg + a.openAuctionSlots.toNat)
    "HermezAuctionProtocol::processBid: AUCTION_NOT_OPEN"
  a.checkPermit msg amount.toNat permit
  let a ← a.transferFrom token amount.toNat "HermezAuctionProtocol::processBid: TOKEN_TRANSFER_FAILED"
  let a ← a.addPending msg.sender amount.toNat
  auctionRequire (bidAmount.toNat ≤ a.pendingBalances msg.sender) "HermezAuctionProtocol::processBid: NOT_ENOUGH_BALANCE"
  a.doBid slot.toNat bidAmount.toNat msg.sender

/-- The bid for one slot of `processMultiBid`, unless its minimum is too high. -/
def multiBidAmount (minBidBySlot minBid maxBid : Nat) : Option Nat :=
  if minBidBySlot ≤ minBid then some minBid
  else if minBidBySlot ≤ maxBid then some minBidBySlot
  else none

/-- One round of the loop of `processMultiBid`. -/
def multiBidSlot (msg : Msg) (slotSets : Fin 6 → Bool) (maxBid minBid : Nat) (result : Auction × List AuctionEvent)
    (slot : Nat) : Except AuctionError (Auction × List AuctionEvent) := do
  let (a, events) := result
  let minBidBySlot ← a.getMinBidBySlot msg slot
  match multiBidAmount minBidBySlot minBid maxBid with
  | none => return (a, events)
  | some bidAmount =>
    if slotSets (getSlotSet slot) then
      auctionRequire (bidAmount ≤ a.pendingBalances msg.sender) "HermezAuctionProtocol::processMultiBid NOT_ENOUGH_BALANCE"
      let (a, bidEvents) ← a.doBid slot bidAmount msg.sender
      return (a, events ++ bidEvents)
    else return (a, events)

def processMultiBid (a : Auction) (token : HEZToken) (msg : Msg) (amount startingSlot endingSlot : BitVec 128)
    (slotSets : Fin 6 → Bool) (maxBid minBid : BitVec 128) (permit : Option Permit) :
    Except AuctionError (Auction × List AuctionEvent) := do
  auctionRequire (a.lastClosedSlot msg < startingSlot.toNat) "HermezAuctionProtocol::processMultiBid AUCTION_CLOSED"
  auctionRequire (endingSlot.toNat ≤ a.lastClosedSlot msg + a.openAuctionSlots.toNat)
    "HermezAuctionProtocol::processMultiBid AUCTION_NOT_OPEN"
  auctionRequire (minBid ≤ maxBid) "HermezAuctionProtocol::processMultiBid MAXBID_GREATER_THAN_MINBID"
  auctionRequire ((a.coordinators msg.sender).forger ≠ 0) "HermezAuctionProtocol::processMultiBid COORDINATOR_NOT_REGISTERED"
  a.checkPermit msg amount.toNat permit
  let a ← a.transferFrom token amount.toNat "HermezAuctionProtocol::processMultiBid: TOKEN_TRANSFER_FAILED"
  let a ← a.addPending msg.sender amount.toNat
  (List.range' startingSlot.toNat (endingSlot.toNat + 1 - startingSlot.toNat)).foldlM
    (multiBidSlot msg slotSets maxBid.toNat minBid.toNat) (a, [])

/-! ### Forging -/

/-- The position of a block in its slot, for a block not before genesis. -/
def relativeBlock (a : Auction) (blockNumber slotToForge : Nat) : Except AuctionError Nat := do
  let slotBlocks ← checked (SafeMath.mul 128 slotToForge blocksPerSlot)
  let slotStart ← checked (SafeMath.add 128 slotBlocks a.genesisBlock)
  checked (SafeMath.sub blockNumber slotStart)

/-- `_canForge`. -/
def canForge (a : Auction) (forger : Address) (blockNumber : Nat) : Except AuctionError Bool := do
  auctionRequire (blockNumber < 2 ^ 128) "HermezAuctionProtocol::canForge WRONG_BLOCKNUMBER"
  auctionRequire (a.genesisBlock ≤ blockNumber) "HermezAuctionProtocol::canForge AUCTION_NOT_STARTED"
  let slotToForge := a.getSlotNumber blockNumber
  let slot := a.slots slotToForge
  let relativeBlock ← a.relativeBlock blockNumber slotToForge
  let minBid := a.minBid slotToForge
  if slot.forgerCommitment = false ∧ a.slotDeadline.toNat ≤ relativeBlock then return true
  else if (a.coordinators slot.bidder).forger = forger ∧ minBid ≤ slot.bidAmount then return true
  else if a.bootCoordinator = forger ∧ (slot.bidAmount < minBid ∨ slot.bidAmount = 0) then return true
  else return false

/-- A batch before the deadline commits the forger of the slot. -/
def commitForger (a : Auction) (blockNumber slotToForge : Nat) : Except AuctionError Auction :=
  if (a.slots slotToForge).forgerCommitment = false then do
    let relativeBlock ← a.relativeBlock blockNumber slotToForge
    if relativeBlock < a.slotDeadline.toNat then
      return a.modifySlot slotToForge fun s => { s with forgerCommitment := true }
    else return a
  else .ok a

/-- A share of a bid, in hundredths of a percent. -/
def allocationShare (a : Auction) (bidAmount : Nat) (share : Fin 3) : Except AuctionError Nat := do
  let product ← checked (SafeMath.mul 128 bidAmount (a.allocationRatio share).toNat)
  return product / 10000

def allocateBid (a : Auction) (token : HEZToken) (forger : Address) (slotToForge : Nat) :
    Except AuctionError (Auction × List AuctionEvent) := do
  let slot := a.slots slotToForge
  let amountToBurn ← a.allocationShare slot.bidAmount 0
  let donationAmount ← a.allocationShare slot.bidAmount 1
  let governanceAmount ← a.allocationShare slot.bidAmount 2
  let a ← a.payOut token.burn amountToBurn "HermezAuctionProtocol::forge: TOKEN_BURN_FAILED"
  let a ← a.addPending a.donationAddress donationAmount
  let a ← a.addPending a.governanceAddress governanceAmount
  return (a, [.newForgeAllocated slot.bidder forger slotToForge amountToBurn donationAmount governanceAmount])

/-- The first batch of a slot settles its bid: a bid below the minimum is returned. -/
def fulfillSlot (a : Auction) (token : HEZToken) (forger : Address) (slotToForge : Nat) :
    Except AuctionError (Auction × List AuctionEvent) :=
  if (a.slots slotToForge).fulfilled then .ok (a, [])
  else
    let a := a.modifySlot slotToForge fun s => { s with fulfilled := true }
    let slot := a.slots slotToForge
    if slot.bidAmount = 0 then .ok (a, [])
    else if slot.bidAmount < a.minBid slotToForge then do
      let a ← a.addPending slot.bidder slot.bidAmount
      return (a, [])
    else a.allocateBid token forger slotToForge

def forge (a : Auction) (token : HEZToken) (msg : Msg) (forger : Address) :
    Except AuctionError (Auction × List AuctionEvent) := do
  auctionRequire (msg.sender = a.hermezRollup) "HermezAuctionProtocol::forge: ONLY_HERMEZ_ROLLUP"
  let allowed ← a.canForge forger msg.blockNumber
  auctionRequire allowed "HermezAuctionProtocol::forge: CANNOT_FORGE"
  let slotToForge := a.getCurrentSlotNumber msg
  let a ← a.commitForger (msg.blockNumber % 2 ^ 128) slotToForge
  let (a, events) ← a.fulfillSlot token forger slotToForge
  return (a, events ++ [.newForge forger slotToForge])

/-! ### Claims -/

def claimPendingHEZ (a : Auction) (msg : Msg) (slot : BitVec 128) :
    Except AuctionError (Auction × List AuctionEvent) := do
  auctionRequire (slot.toNat < a.getCurrentSlotNumber msg) "HermezAuctionProtocol::claimPendingHEZ: ONLY_IF_PREVIOUS_SLOT"
  auctionRequire ((a.slots slot.toNat).fulfilled = false) "HermezAuctionProtocol::claimPendingHEZ: ONLY_IF_NOT_FULFILLED"
  let minBid := a.minBid slot.toNat
  auctionRequire ((a.slots slot.toNat).bidAmount < minBid) "HermezAuctionProtocol::claimPendingHEZ: ONLY_IF_NOT_FULFILLED"
  let a := a.modifySlot slot.toNat fun s => { s with closedMinBid := minBid, fulfilled := true }
  let a ← a.addPending (a.slots slot.toNat).bidder (a.slots slot.toNat).bidAmount
  return (a, [])

def claimHEZ (a : Auction) (token : HEZToken) (msg : Msg) : Except AuctionError (Auction × List AuctionEvent) := do
  let pending := a.pendingBalances msg.sender
  auctionRequire (0 < pending) "HermezAuctionProtocol::claimHEZ: NOT_ENOUGH_BALANCE"
  let a := { a with pendingBalances := Function.update a.pendingBalances msg.sender 0 }
  let a ← a.payOut token.transfer pending "HermezAuctionProtocol::claimHEZ: TOKEN_TRANSFER_FAILED"
  return (a, [.hezClaimed msg.sender pending])

end Auction

/-! ### Calls -/

inductive AuctionCall where
  | setSlotDeadline (newDeadline : BitVec 8)
  | setOpenAuctionSlots (newOpenAuctionSlots : BitVec 16)
  | setClosedAuctionSlots (newClosedAuctionSlots : BitVec 16)
  | setOutbidding (newOutbidding : BitVec 16)
  | setAllocationRatio (newAllocationRatio : Fin 3 → BitVec 16)
  | setDonationAddress (newDonationAddress : Address)
  | setBootCoordinator (newBootCoordinator : Address) (newBootCoordinatorURL : String)
  | changeDefaultSlotSetBid (slotSet newInitialMinBid : BitVec 128)
  | setCoordinator (forger : Address) (coordinatorURL : String)
  | processBid (amount slot bidAmount : BitVec 128) (permit : Option Permit)
  | processMultiBid (amount startingSlot endingSlot : BitVec 128) (slotSets : Fin 6 → Bool)
      (maxBid minBid : BitVec 128) (permit : Option Permit)
  | forge (forger : Address)
  | claimPendingHEZ (slot : BitVec 128)
  | claimHEZ

/-- A call with its sender and block and the answers of the token. -/
structure AuctionTx where
  token : HEZToken := {}
  msg : Msg
  call : AuctionCall

namespace Auction

def exec (a : Auction) (tx : AuctionTx) : Except AuctionError (Auction × List AuctionEvent) :=
  match tx.call with
  | .setSlotDeadline newDeadline => a.setSlotDeadline tx.msg newDeadline
  | .setOpenAuctionSlots newOpenAuctionSlots => a.setOpenAuctionSlots tx.msg newOpenAuctionSlots
  | .setClosedAuctionSlots newClosedAuctionSlots => a.setClosedAuctionSlots tx.msg newClosedAuctionSlots
  | .setOutbidding newOutbidding => a.setOutbidding tx.msg newOutbidding
  | .setAllocationRatio newAllocationRatio => a.setAllocationRatio tx.msg newAllocationRatio
  | .setDonationAddress newDonationAddress => a.setDonationAddress tx.msg newDonationAddress
  | .setBootCoordinator newBootCoordinator newBootCoordinatorURL =>
    a.setBootCoordinator tx.msg newBootCoordinator newBootCoordinatorURL
  | .changeDefaultSlotSetBid slotSet newInitialMinBid => a.changeDefaultSlotSetBid tx.msg slotSet newInitialMinBid
  | .setCoordinator forger coordinatorURL => a.setCoordinator tx.msg forger coordinatorURL
  | .processBid amount slot bidAmount permit => a.processBid tx.token tx.msg amount slot bidAmount permit
  | .processMultiBid amount startingSlot endingSlot slotSets maxBid minBid permit =>
    a.processMultiBid tx.token tx.msg amount startingSlot endingSlot slotSets maxBid minBid permit
  | .forge forger => a.forge tx.token tx.msg forger
  | .claimPendingHEZ slot => a.claimPendingHEZ tx.msg slot
  | .claimHEZ => a.claimHEZ tx.token tx.msg

def step (a : Auction) (tx : AuctionTx) : Auction :=
  match a.exec tx with
  | .ok (a', _) => a'
  | .error _ => a

structure Genesis where
  thisAddress : Address
  blockNumber : Nat
  genesis : BitVec 128
  hermezRollupAddress : Address
  governanceAddress : Address
  donationAddress : Address
  bootCoordinatorAddress : Address
  bootCoordinatorURL : String
  hezBalance : Nat

def Genesis.init (g : Genesis) : Except AuctionError Auction :=
  hermezAuctionProtocolInitializer g.thisAddress g.blockNumber g.genesis g.hermezRollupAddress g.governanceAddress
    g.donationAddress g.bootCoordinatorAddress g.bootCoordinatorURL g.hezBalance

/-- The states the contract reaches, each with the last block in which it was called. -/
inductive Reachable : Auction → Nat → Prop
  | init (g : Genesis) (a : Auction) (hinit : g.init = .ok a) : Reachable a g.blockNumber
  | step (a : Auction) (blockNumber : Nat) (tx : AuctionTx) (hreach : Reachable a blockNumber)
      (hblock : blockNumber ≤ tx.msg.blockNumber) : Reachable (a.step tx) tx.msg.blockNumber

theorem Reachable.foldl {a : Auction} {blockNumber : Nat} (h : Reachable a blockNumber) (txs : List AuctionTx)
    (hblocks : (blockNumber :: txs.map fun tx => tx.msg.blockNumber).Pairwise (· ≤ ·)) :
    ∃ last ∈ blockNumber :: txs.map fun tx => tx.msg.blockNumber, Reachable (txs.foldl Auction.step a) last := by
  induction txs generalizing a blockNumber with
  | nil => exact ⟨blockNumber, List.mem_cons_self, h⟩
  | cons tx txs ih =>
    obtain ⟨hfirst, hrest⟩ := List.pairwise_cons.mp hblocks
    obtain ⟨last, hmem, hlast⟩ := ih (.step a blockNumber tx h (hfirst _ List.mem_cons_self)) hrest
    exact ⟨last, List.mem_cons_of_mem _ hmem, hlast⟩

end Auction

/-- An auction that starts at block 0, with its rollup at 2, its governance at 3 and its boot coordinator
at 5. -/
def auctionGenesis : Auction.Genesis :=
  ⟨1, 0, 0, 2, 3, 4, 5, "boot", 0⟩

/-- A coordinator registers and bids for slot 3 in the first block. -/
def firstBid : List AuctionTx :=
  [{ msg := { sender := 7, origin := 7 }, call := .setCoordinator 8 "url" },
    { msg := { sender := 7, origin := 7 },
      call := .processBid (BitVec.ofNat 128 (2 * 10 ^ 24)) 3 (BitVec.ofNat 128 (11 * 10 ^ 23)) none }]

end HermezRollup
