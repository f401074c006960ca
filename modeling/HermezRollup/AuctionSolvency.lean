import HermezRollup.Auction
import HermezRollup.Fallible
import HermezRollup.FinmapTotal
import Mathlib.Tactic.Linarith

/-! The auction contract can pay what it owes.  It owes the pending balances and, for every slot not yet
fulfilled, the bid; what it holds beyond that is its surplus.  Each operation on the state has one lemma
about the surplus, and a call keeps it from going below zero, so that no burn or transfer fails for lack
of HEZ. -/

namespace HermezRollup

open Fallible

/-- The HEZ that a slot still ties up. -/
def SlotState.due (slot : SlotState) : Nat :=
  if slot.fulfilled then 0 else slot.bidAmount

namespace Auction

/-- The pending balances and the bids of the slots not yet fulfilled. -/
def owed (a : Auction) : Nat :=
  ∑ owner, a.pendingBalances owner + ∑ slot ∈ Finset.range (2 ^ 128), (a.slots slot).due

def surplus (a : Auction) : Int :=
  a.hezBalance - a.owed

/-- The shares of a winning bid add up to the whole. -/
def RatiosValid (a : Auction) : Prop :=
  (a.allocationRatio 0).toNat + (a.allocationRatio 1).toNat + (a.allocationRatio 2).toNat = 10000

structure Solvent (a : Auction) : Prop where
  surplus_nonneg : 0 ≤ a.surplus
  ratios : a.RatiosValid

/-! ### Operations on the state -/

theorem surplus_pendingBalances (a : Auction) (owner : Address) (pending : Nat) :
    { a with pendingBalances := Function.update a.pendingBalances owner pending }.surplus =
      a.surplus + a.pendingBalances owner - pending := by
  have hsum : (∑ i, Function.update a.pendingBalances owner pending i) + a.pendingBalances owner =
      (∑ i, a.pendingBalances i) + pending :=
    BitVec.sum_apply_update (fun _ => id) a.pendingBalances owner pending
  simp only [surplus, owed]
  omega

variable {slot : Nat}

theorem surplus_modifySlot (a : Auction) (hslot : slot < 2 ^ 128) (f : SlotState → SlotState) :
    (a.modifySlot slot f).surplus = a.surplus + (a.slots slot).due - (f (a.slots slot)).due := by
  have hsum : (∑ i ∈ Finset.range (2 ^ 128), (Function.update a.slots slot (f (a.slots slot)) i).due) +
      (a.slots slot).due = (∑ i ∈ Finset.range (2 ^ 128), (a.slots i).due) + (f (a.slots slot)).due :=
    Finset.sum_apply_update (fun _ => SlotState.due) a.slots (Finset.mem_range.mpr hslot) (f (a.slots slot))
  simp only [surplus, owed, modifySlot]
  omega

section Ensures

variable {a : Auction} {α : Type} {Q : α → Prop}

theorem ensures_demand {condition : Bool} {message : String} {f : Unit → Except AuctionError α}
    (hf : condition = true → Ensures .lackOfHEZ (f ()) Q) :
    Ensures .lackOfHEZ (auctionRequire condition message >>= f) Q := by
  cases condition with
  | false => exact .error (by simp)
  | true => exact hf rfl

theorem ensures_checked {result : Except String Nat} {f : Nat → Except AuctionError α}
    (hf : ∀ n, result = .ok n → Ensures .lackOfHEZ (f n) Q) : Ensures .lackOfHEZ (checked result >>= f) Q := by
  cases result with
  | error message => exact .error (by simp)
  | ok n => exact hf n rfl

theorem ensures_of_checked {result : Except String Nat} : Ensures .lackOfHEZ (checked result) fun _ => True := by
  cases result with
  | error message => exact .error (by simp)
  | ok n => exact .ok trivial

theorem ensures_addPending (owner : Address) (amount : Nat) :
    Ensures .lackOfHEZ (a.addPending owner amount) fun a' =>
      ∃ pending, a' = { a with pendingBalances := pending } ∧ a'.surplus = a.surplus - amount := by
  refine ensures_checked fun n hadd => .ok ⟨_, rfl, ?_⟩
  obtain ⟨-, rfl⟩ := SafeMath.add_ok.mp hadd
  rw [surplus_pendingBalances]
  omega

theorem ensures_subPending (owner : Address) (amount : Nat) :
    Ensures .lackOfHEZ (a.subPending owner amount) fun a' =>
      ∃ pending, a' = { a with pendingBalances := pending } ∧ a'.surplus = a.surplus + amount := by
  refine ensures_checked fun n hsub => .ok ⟨_, rfl, ?_⟩
  obtain ⟨hle, rfl⟩ := SafeMath.sub_ok.mp hsub
  rw [surplus_pendingBalances]
  omega

theorem ensures_transferFrom (token : HEZToken) (amount : Nat) (message : String) :
    Ensures .lackOfHEZ (a.transferFrom token amount message) fun a' =>
      a'.surplus = a.surplus + amount ∧ a'.RatiosValid = a.RatiosValid := by
  refine ensures_demand fun _ => .ok ⟨?_, rfl⟩
  simp only [surplus, owed]
  omega

theorem ensures_payOut {passes : Bool} {amount : Nat} {message : String} (hamount : (amount : Int) ≤ a.surplus) :
    Ensures .lackOfHEZ (a.payOut passes amount message) fun a' =>
      ∃ balance, a' = { a with hezBalance := balance } ∧ a'.surplus = a.surplus - amount := by
  have hle : amount ≤ a.hezBalance := by
    rw [surplus] at hamount
    omega
  rw [payOut, if_neg (by omega)]
  refine ensures_demand fun _ => .ok ⟨_, rfl, ?_⟩
  simp only [surplus, owed]
  omega

end Ensures

/-! ### Bids -/

variable {a : Auction}

/-- What a bid ensures, and the calls around it: the surplus does not shrink. -/
def NotPoorer (a a' : Auction) : Prop :=
  a.surplus ≤ a'.surplus ∧ a'.RatiosValid = a.RatiosValid

theorem ensures_refundPrevious (previous : SlotState) :
    Ensures .lackOfHEZ (a.refundPrevious previous) fun a' =>
      a.surplus - previous.bidAmount ≤ a'.surplus ∧ a'.RatiosValid = a.RatiosValid := by
  rw [refundPrevious]
  split
  · refine (ensures_addPending _ _).mono ?_
    rintro a' ⟨pending, rfl, hsurplus⟩
    exact ⟨hsurplus.ge, rfl⟩
  · exact .ok ⟨by omega, rfl⟩

/-- The new bid takes the place of the old one, which goes back to its bidder.  On a fulfilled slot the
new bid would not be owed to anyone, which is only better for the contract. -/
theorem ensures_doBid (hslot : slot < 2 ^ 128) (bidAmount : Nat) (bidder : Address) :
    Ensures .lackOfHEZ (a.doBid slot bidAmount bidder) fun result => a.NotPoorer result.1 := by
  refine ensures_demand fun hhigher => ?_
  refine (ensures_subPending bidder bidAmount).bind ?_
  rintro a₁ ⟨pending, rfl, hsurplus⟩
  refine (ensures_refundPrevious (a.slots slot)).bind ?_
  rintro a₂ ⟨hrefund, hratios⟩
  refine .ok ⟨?_, hratios⟩
  rw [surplus_modifySlot _ hslot, hsurplus] at hrefund
  have hdue : ((a.slots slot).bidAmount : Int) - (a.slots slot).due ≤
      bidAmount - { a.slots slot with bidder := bidder, bidAmount := bidAmount : SlotState }.due := by
    have hlt : (a.slots slot).bidAmount < bidAmount := of_decide_eq_true hhigher
    simp only [SlotState.due]
    split <;> omega
  dsimp only at hrefund hdue ⊢
  omega

theorem ensures_checkPermit {α : Type} {Q : α → Prop} (msg : Msg) (amount : Nat) (permit : Option Permit)
    {f : Unit → Except AuctionError α} (hf : Ensures .lackOfHEZ (f ()) Q) :
    Ensures .lackOfHEZ (a.checkPermit msg amount permit >>= f) Q := by
  cases permit with
  | none => exact hf
  | some permit =>
    have hpermit : Ensures .lackOfHEZ (a.checkPermit msg amount (some permit)) fun _ => True := by
      refine ensures_demand fun _ => ensures_demand fun _ => ensures_demand fun _ => ?_
      rw [auctionRequire]
      split
      · exact .ok trivial
      · exact .error (by simp)
    exact hpermit.bind fun _ _ => hf

theorem ensures_deposit {α : Type} {Q : α → Prop} (token : HEZToken) (owner : Address) (amount : Nat) (message : String)
    {f : Auction → Except AuctionError α} (hf : ∀ a', a.NotPoorer a' → Ensures .lackOfHEZ (f a') Q) :
    Ensures .lackOfHEZ (a.transferFrom token amount message >>= fun a' => a'.addPending owner amount >>= f) Q := by
  refine (ensures_transferFrom token amount message).bind ?_
  rintro a₁ ⟨htransfer, hratios⟩
  refine (ensures_addPending owner amount).bind ?_
  rintro a₂ ⟨pending, rfl, hpending⟩
  exact hf _ ⟨by omega, hratios⟩

theorem NotPoorer.trans {a' a'' : Auction} (h : a.NotPoorer a') (h' : a'.NotPoorer a'') : a.NotPoorer a'' :=
  ⟨h.1.trans h'.1, h'.2.trans h.2⟩

theorem ensures_getMinBidBySlot {α : Type} {Q : α → Prop} (msg : Msg) (slot : Nat) {f : Nat → Except AuctionError α}
    (hf : ∀ n, Ensures .lackOfHEZ (f n) Q) : Ensures .lackOfHEZ (a.getMinBidBySlot msg slot >>= f) Q := by
  have hmin : Ensures .lackOfHEZ (a.getMinBidBySlot msg slot) fun _ => True :=
    ensures_demand fun _ => ensures_checked fun _ _ => ensures_of_checked
  exact hmin.bind fun n _ => hf n

theorem ensures_processBid (token : HEZToken) (msg : Msg) (amount slot bidAmount : BitVec 128) (permit : Option Permit) :
    Ensures .lackOfHEZ (a.processBid token msg amount slot bidAmount permit) fun result => a.NotPoorer result.1 := by
  refine ensures_demand fun _ => ensures_demand fun _ => ensures_getMinBidBySlot _ _ fun _ => ?_
  refine ensures_demand fun _ => ensures_demand fun _ => ensures_checkPermit _ _ _ ?_
  refine ensures_deposit _ _ _ _ fun a' hdeposit => ensures_demand fun _ => ?_
  exact (ensures_doBid slot.isLt _ _).mono fun result hbid => hdeposit.trans hbid

theorem ensures_multiBidSlot (msg : Msg) (slotSets : Fin 6 → Bool) (maxBid minBid : Nat)
    (result : Auction × List AuctionEvent) (hslot : slot < 2 ^ 128) (h : a.NotPoorer result.1) :
    Ensures .lackOfHEZ (multiBidSlot msg slotSets maxBid minBid result slot) fun result' => a.NotPoorer result'.1 := by
  obtain ⟨b, events⟩ := result
  refine ensures_getMinBidBySlot _ _ fun minBidBySlot => ?_
  cases multiBidAmount minBidBySlot minBid maxBid with
  | none => exact .ok h
  | some bidAmount =>
    dsimp only
    split
    · refine ensures_demand fun _ => (ensures_doBid hslot _ _).bind ?_
      rintro ⟨b', bidEvents⟩ hbid
      exact .ok (h.trans hbid)
    · exact .ok h

theorem ensures_processMultiBid (token : HEZToken) (msg : Msg) (amount startingSlot endingSlot : BitVec 128)
    (slotSets : Fin 6 → Bool) (maxBid minBid : BitVec 128) (permit : Option Permit) :
    Ensures .lackOfHEZ (a.processMultiBid token msg amount startingSlot endingSlot slotSets maxBid minBid permit)
      fun result => a.NotPoorer result.1 := by
  refine ensures_demand fun _ => ensures_demand fun _ => ensures_demand fun _ => ensures_demand fun _ => ?_
  refine ensures_checkPermit _ _ _ (ensures_deposit _ _ _ _ fun a' hdeposit => ?_)
  refine Ensures.foldlM ?_ hdeposit
  intro result slot hmem h
  have hrange := List.mem_range'_1.mp hmem
  have hend := endingSlot.isLt
  exact ensures_multiBidSlot _ _ _ _ _ (by omega) h

/-! ### Forging and claims -/

theorem getCurrentSlotNumber_lt (a : Auction) (msg : Msg) : a.getCurrentSlotNumber msg < 2 ^ 128 := by
  have hblock := Nat.mod_lt msg.blockNumber (Nat.two_pow_pos 128)
  rw [getCurrentSlotNumber, getSlotNumber]
  split
  · exact lt_of_le_of_lt ((Nat.div_le_self _ _).trans (Nat.sub_le _ _)) hblock
  · exact Nat.two_pow_pos 128

theorem ensures_relativeBlock {α : Type} {Q : α → Prop} (blockNumber slot : Nat) {f : Nat → Except AuctionError α}
    (hf : ∀ n, Ensures .lackOfHEZ (f n) Q) : Ensures .lackOfHEZ (a.relativeBlock blockNumber slot >>= f) Q := by
  have hrelative : Ensures .lackOfHEZ (a.relativeBlock blockNumber slot) fun _ => True :=
    ensures_checked fun _ _ => ensures_checked fun _ _ => ensures_of_checked
  exact hrelative.bind fun n _ => hf n

theorem ensures_canForge {α : Type} {Q : α → Prop} (forger : Address) (blockNumber : Nat)
    {f : Bool → Except AuctionError α} (hf : ∀ allowed, Ensures .lackOfHEZ (f allowed) Q) :
    Ensures .lackOfHEZ (a.canForge forger blockNumber >>= f) Q := by
  have hcan : Ensures .lackOfHEZ (a.canForge forger blockNumber) fun _ => True := by
    refine ensures_demand fun _ => ensures_demand fun _ => ensures_relativeBlock _ _ fun _ => ?_
    dsimp only
    split
    · exact .ok trivial
    · split
      · exact .ok trivial
      · split
        · exact .ok trivial
        · exact .ok trivial
  exact hcan.bind fun allowed _ => hf allowed

theorem ensures_commitForger (blockNumber : Nat) (hslot : slot < 2 ^ 128) :
    Ensures .lackOfHEZ (a.commitForger blockNumber slot) fun a' => a.NotPoorer a' := by
  rw [commitForger]
  split
  · refine ensures_relativeBlock _ _ fun _ => ?_
    split
    · refine .ok ⟨?_, rfl⟩
      rw [surplus_modifySlot _ hslot]
      simp only [SlotState.due]
      omega
    · exact .ok ⟨le_rfl, rfl⟩
  · exact .ok ⟨le_rfl, rfl⟩

theorem ensures_allocationShare (bidAmount : Nat) (share : Fin 3) :
    Ensures .lackOfHEZ (a.allocationShare bidAmount share) fun amount =>
      amount = bidAmount * (a.allocationRatio share).toNat / 10000 := by
  refine ensures_checked fun product hmul => .ok ?_
  rw [(SafeMath.mul_ok.mp hmul).2]

theorem shares_le (bid : Nat) {r₀ r₁ r₂ : Nat} (h : r₀ + r₁ + r₂ = 10000) :
    bid * r₀ / 10000 + bid * r₁ / 10000 + bid * r₂ / 10000 ≤ bid := by
  have hsum : bid * r₀ + bid * r₁ + bid * r₂ = bid * 10000 := by
    rw [← Nat.mul_add, ← Nat.mul_add, h]
  omega

theorem ensures_allocateBid {token : HEZToken} {forger : Address} (hratios : a.RatiosValid)
    (hbid : ((a.slots slot).bidAmount : Int) ≤ a.surplus) :
    Ensures .lackOfHEZ (a.allocateBid token forger slot) fun result =>
      a.surplus - (a.slots slot).bidAmount ≤ result.1.surplus ∧ result.1.RatiosValid = a.RatiosValid := by
  have hshares := shares_le (a.slots slot).bidAmount hratios
  refine (ensures_allocationShare _ 0).bind fun burn hburn => ?_
  refine (ensures_allocationShare _ 1).bind fun donation hdonation => ?_
  refine (ensures_allocationShare _ 2).bind fun governance hgovernance => ?_
  rw [← hburn, ← hdonation, ← hgovernance] at hshares
  refine (ensures_payOut (by omega)).bind ?_
  rintro a₁ ⟨balance, rfl, hpay⟩
  refine (ensures_addPending _ _).bind ?_
  rintro a₂ ⟨pending, rfl, hdonate⟩
  refine (ensures_addPending _ _).bind ?_
  rintro a₃ ⟨pending', rfl, hgovern⟩
  refine .ok ⟨?_, rfl⟩
  dsimp only at hpay hdonate hgovern ⊢
  linarith

theorem ensures_fulfillSlot {token : HEZToken} {forger : Address} (hslot : slot < 2 ^ 128) (h : a.Solvent) :
    Ensures .lackOfHEZ (a.fulfillSlot token forger slot) fun result => a.NotPoorer result.1 := by
  rw [fulfillSlot]
  split
  · exact .ok ⟨le_rfl, rfl⟩
  next hopen =>
    have hsurplus : (a.modifySlot slot fun s => { s with fulfilled := true }).surplus =
        a.surplus + (a.slots slot).bidAmount := by
      rw [surplus_modifySlot _ hslot]
      simp only [SlotState.due, hopen, if_true]
      simp
    simp only [slots_modifySlot_self]
    split
    · exact .ok ⟨by dsimp only; omega, rfl⟩
    · split
      · refine (ensures_addPending _ _).bind ?_
        rintro a₁ ⟨pending, rfl, hrefund⟩
        refine .ok ⟨?_, rfl⟩
        dsimp only at hrefund ⊢
        omega
      · have hnonneg := h.surplus_nonneg
        refine (ensures_allocateBid ?_ ?_).mono ?_
        · exact h.ratios
        · rw [slots_modifySlot_self]
          dsimp only
          omega
        · rintro result ⟨hresult, hratios⟩
          rw [slots_modifySlot_self] at hresult
          dsimp only at hresult
          exact ⟨by omega, hratios⟩

theorem ensures_forge (h : a.Solvent) (token : HEZToken) (msg : Msg) (forger : Address) :
    Ensures .lackOfHEZ (a.forge token msg forger) fun result => a.NotPoorer result.1 := by
  have hslot := a.getCurrentSlotNumber_lt msg
  refine ensures_demand fun _ => ensures_canForge _ _ fun _ => ensures_demand fun _ => ?_
  refine (ensures_commitForger _ hslot).bind fun a₁ hcommit => ?_
  refine (ensures_fulfillSlot hslot ⟨h.surplus_nonneg.trans hcommit.1, hcommit.2 ▸ h.ratios⟩).bind ?_
  rintro ⟨a₂, events⟩ hfulfill
  exact .ok (hcommit.trans hfulfill)

theorem ensures_claimPendingHEZ (msg : Msg) (slot : BitVec 128) :
    Ensures .lackOfHEZ (a.claimPendingHEZ msg slot) fun result => a.NotPoorer result.1 := by
  refine ensures_demand fun _ => ensures_demand fun hopen => ensures_demand fun _ => ?_
  refine (ensures_addPending _ _).bind ?_
  rintro a₁ ⟨pending, rfl, hrefund⟩
  refine .ok ⟨?_, rfl⟩
  rw [surplus_modifySlot _ slot.isLt] at hrefund
  have hfulfilled : (a.slots slot.toNat).fulfilled = false := of_decide_eq_true hopen
  simp only [slots_modifySlot_self, SlotState.due, hfulfilled] at hrefund ⊢
  simp only [Bool.false_eq_true, if_false, if_true] at hrefund
  omega

theorem ensures_claimHEZ (h : a.Solvent) (token : HEZToken) (msg : Msg) :
    Ensures .lackOfHEZ (a.claimHEZ token msg) fun result => a.NotPoorer result.1 := by
  have hnonneg := h.surplus_nonneg
  have hsurplus := a.surplus_pendingBalances msg.sender 0
  refine ensures_demand fun _ => (ensures_payOut ?_).bind ?_
  · rw [hsurplus]
    omega
  · rintro a₁ ⟨balance, rfl, hpay⟩
    refine .ok ⟨?_, rfl⟩
    rw [hsurplus] at hpay
    dsimp only at hpay ⊢
    omega

/-! ### Governance -/

theorem ensures_onlyGovernance {α : Type} {Q : α → Prop} (msg : Msg) {f : Unit → Except AuctionError α}
    (hf : Ensures .lackOfHEZ (f ()) Q) : Ensures .lackOfHEZ (a.onlyGovernance msg >>= f) Q :=
  ensures_demand fun _ => hf

theorem saveClosedMinBid_notPoorer (hslot : slot < 2 ^ 128) : a.NotPoorer (a.saveClosedMinBid slot) := by
  rw [saveClosedMinBid]
  split
  · refine ⟨?_, rfl⟩
    rw [surplus_modifySlot _ hslot]
    simp only [SlotState.due]
    omega
  · exact ⟨le_rfl, rfl⟩

theorem foldl_saveClosedMinBid_notPoorer {slots : List Nat} (hslots : ∀ slot ∈ slots, slot < 2 ^ 128) :
    a.NotPoorer (slots.foldl saveClosedMinBid a) := by
  induction slots generalizing a with
  | nil => exact ⟨le_rfl, rfl⟩
  | cons slot slots ih =>
    rw [List.foldl_cons]
    exact (saveClosedMinBid_notPoorer (hslots slot List.mem_cons_self)).trans
      (ih fun s hs => hslots s (List.mem_cons_of_mem _ hs))

theorem lastClosedSlot_lt (a : Auction) (msg : Msg) : a.lastClosedSlot msg < 2 ^ 128 := by
  have hblock := Nat.mod_lt msg.blockNumber (Nat.two_pow_pos 128)
  have hclosed := a.closedAuctionSlots.isLt
  have hcurrent : a.getCurrentSlotNumber msg ≤ (2 ^ 128 - 1) / 40 := by
    rw [getCurrentSlotNumber, getSlotNumber]
    split
    · exact Nat.div_le_div_right (by omega)
    · exact Nat.zero_le _
  rw [lastClosedSlot]
  omega

theorem ensures_changeDefaultSlotSetBid (msg : Msg) (slotSet newInitialMinBid : BitVec 128) :
    Ensures .lackOfHEZ (a.changeDefaultSlotSetBid msg slotSet newInitialMinBid) fun result => a.NotPoorer result.1 := by
  refine ensures_onlyGovernance _ (ensures_demand fun _ => ensures_demand fun _ => .ok ?_)
  have hlast := a.lastClosedSlot_lt msg
  refine foldl_saveClosedMinBid_notPoorer fun slot hmem => ?_
  have hrange := List.mem_range'_1.mp hmem
  rw [lastClosedSlot] at hlast
  omega

theorem ensures_setAllocationRatio (h : a.Solvent) (msg : Msg) (newAllocationRatio : Fin 3 → BitVec 16) :
    Ensures .lackOfHEZ (a.setAllocationRatio msg newAllocationRatio) fun result => result.1.Solvent := by
  refine ensures_onlyGovernance _ (ensures_demand fun hvalid => .ok ⟨h.surplus_nonneg, ?_⟩)
  obtain ⟨h₀, h₁, h₂, hsum⟩ := of_decide_eq_true hvalid
  have hsum := congrArg BitVec.toNat hsum
  simp only [BitVec.toNat_add] at hsum
  rw [BitVec.le_def] at h₀ h₁ h₂
  rw [RatiosValid]
  simp at h₀ h₁ h₂ hsum ⊢
  omega

/-! ### Whole runs -/

theorem NotPoorer.solvent {a' : Auction} (h : a.NotPoorer a') (hsolvent : a.Solvent) : a'.Solvent :=
  ⟨hsolvent.surplus_nonneg.trans h.1, h.2 ▸ hsolvent.ratios⟩

/-- Every call keeps the contract solvent, and does not fail for lack of HEZ. -/
theorem ensures_exec (h : a.Solvent) (tx : AuctionTx) :
    Ensures .lackOfHEZ (a.exec tx) fun result => result.1.Solvent := by
  have hof : ∀ {x : Except AuctionError (Auction × List AuctionEvent)},
      Ensures .lackOfHEZ x (fun result => a.NotPoorer result.1) → Ensures .lackOfHEZ x fun result => result.1.Solvent :=
    fun hx => hx.mono fun _ hnot => hnot.solvent h
  obtain ⟨token, msg, call⟩ := tx
  rw [exec]
  cases call with
  | setSlotDeadline => exact hof (ensures_onlyGovernance _ (ensures_demand fun _ => .ok ⟨le_rfl, rfl⟩))
  | setOpenAuctionSlots => exact hof (ensures_onlyGovernance _ (.ok ⟨le_rfl, rfl⟩))
  | setClosedAuctionSlots => exact hof (ensures_onlyGovernance _ (.ok ⟨le_rfl, rfl⟩))
  | setOutbidding => exact hof (ensures_onlyGovernance _ (ensures_demand fun _ => .ok ⟨le_rfl, rfl⟩))
  | setAllocationRatio newAllocationRatio => exact ensures_setAllocationRatio h _ _
  | setDonationAddress => exact hof (ensures_onlyGovernance _ (ensures_demand fun _ => .ok ⟨le_rfl, rfl⟩))
  | setBootCoordinator => exact hof (ensures_onlyGovernance _ (.ok ⟨le_rfl, rfl⟩))
  | changeDefaultSlotSetBid => exact hof (ensures_changeDefaultSlotSetBid _ _ _)
  | setCoordinator => exact hof (ensures_demand fun _ => .ok ⟨le_rfl, rfl⟩)
  | processBid => exact hof (ensures_processBid _ _ _ _ _ _)
  | processMultiBid => exact hof (ensures_processMultiBid _ _ _ _ _ _ _ _ _)
  | forge => exact hof (ensures_forge h _ _ _)
  | claimPendingHEZ => exact hof (ensures_claimPendingHEZ _ _)
  | claimHEZ => exact hof (ensures_claimHEZ h _ _)

theorem solvent_init {g : Genesis} (hinit : g.init = .ok a) : a.Solvent := by
  have hensures : Ensures .lackOfHEZ g.init Solvent := by
    refine ensures_demand fun _ => ensures_demand fun _ => .ok ⟨?_, rfl⟩
    simp [surplus, owed, SlotState.due]
  exact hensures.2 a hinit

theorem Reachable.solvent {blockNumber : Nat} (h : Reachable a blockNumber) : a.Solvent := by
  induction h with
  | init g a hinit => exact solvent_init hinit
  | step a blockNumber tx hreach hblock ih =>
    rw [Auction.step]
    cases hexec : a.exec tx with
    | error e => exact ih
    | ok result => exact (ensures_exec ih tx).2 result hexec

end Auction

/-- **The auction can pay**: in every reachable state the contract holds the pending balances and the
bids of all slots not yet fulfilled, and no call fails for lack of HEZ. -/
theorem auction_solvent {a : Auction} {blockNumber : Nat} (h : Auction.Reachable a blockNumber) :
    ∑ owner, a.pendingBalances owner +
        ∑ slot ∈ Finset.range (2 ^ 128), (if (a.slots slot).fulfilled then 0 else (a.slots slot).bidAmount) ≤
      a.hezBalance ∧
    ∀ tx : AuctionTx, blockNumber ≤ tx.msg.blockNumber → a.exec tx ≠ .error .lackOfHEZ := by
  refine ⟨?_, fun tx _ => (Auction.ensures_exec h.solvent tx).1⟩
  have hsurplus := h.solvent.surplus_nonneg
  rw [Auction.surplus, Auction.owed] at hsurplus
  simp only [SlotState.due] at hsurplus
  omega

theorem auction_solvent_firstBid :
    ∃ a, auctionGenesis.init = .ok a ∧ ((firstBid.foldl Auction.step a).slots 3).bidAmount = 11 * 10 ^ 23 ∧
      ∑ owner, (firstBid.foldl Auction.step a).pendingBalances owner +
          ∑ slot ∈ Finset.range (2 ^ 128), (if ((firstBid.foldl Auction.step a).slots slot).fulfilled then 0
            else ((firstBid.foldl Auction.step a).slots slot).bidAmount) ≤
        (firstBid.foldl Auction.step a).hezBalance := by
  have hinit : ∃ a, auctionGenesis.init = .ok a ∧
      ((firstBid.foldl Auction.step a).slots 3).bidAmount = 11 * 10 ^ 23 := ⟨_, rfl, by decide +kernel⟩
  obtain ⟨a, hinit, hbid⟩ := hinit
  obtain ⟨last, -, hreach⟩ := (Auction.Reachable.init auctionGenesis a hinit).foldl firstBid (by decide)
  exact ⟨a, hinit, hbid, (auction_solvent hreach).1⟩

end HermezRollup
