import HermezRollup.Auction
import HermezRollup.Fallible

/-! The minimum bids of slots that are no longer open.  `changeDefaultSlotSetBid` saves the minimum bid of
the current slot and the closed ones after it before it changes a default.  Slots before the current one
are not saved: their minimum follows the default as long as nothing was saved for them. -/

namespace HermezRollup

open Fallible

def SlotState.withMinBid (slot : SlotState) (minBid : Nat) : SlotState :=
  if slot.closedMinBid = 0 then { slot with closedMinBid := minBid } else slot

theorem SlotState.withMinBid_twice (slot : SlotState) (minBid : Nat) :
    (slot.withMinBid minBid).withMinBid minBid = slot.withMinBid minBid := by
  by_cases hzero : slot.closedMinBid = 0
  · simp [withMinBid, hzero]
  · simp [withMinBid, hzero]

namespace Auction

theorem auctionRequire_bind_ok {α : Type} {condition : Bool} {message : String} {f : Unit → Except AuctionError α} {x : α} :
    (auctionRequire condition message >>= f) = .ok x ↔ condition = true ∧ f () = .ok x := by
  cases condition with
  | false => simp [auctionRequire]
  | true => simp [auctionRequire]

/-! ### The loop -/

def savedSlot (a : Auction) (slot : Nat) : SlotState :=
  (a.slots slot).withMinBid (a.defaultSlotSetBid (getSlotSet slot))

theorem saveClosedMinBid_eq (a : Auction) (slot : Nat) :
    a.saveClosedMinBid slot = a.modifySlot slot fun s => s.withMinBid (a.defaultSlotSetBid (getSlotSet slot)) := by
  rw [saveClosedMinBid]
  by_cases hzero : (a.slots slot).closedMinBid = 0
  · simp only [modifySlot, SlotState.withMinBid, if_pos hzero]
  · simp only [modifySlot, SlotState.withMinBid, if_neg hzero, Function.update_eq_self]

theorem foldl_saveClosedMinBid (slots : List Nat) (a : Auction) :
    slots.foldl saveClosedMinBid a =
      { a with slots := fun slot => if slot ∈ slots then a.savedSlot slot else a.slots slot } := by
  induction slots generalizing a with
  | nil => simp
  | cons first slots ih =>
    rw [List.foldl_cons, ih, saveClosedMinBid_eq, modifySlot]
    refine congrArg (fun slots => { a with slots := slots }) (funext fun slot => ?_)
    by_cases hfirst : slot = first
    · -- saving twice is saving once, also when the default is 0
      subst hfirst
      simp only [savedSlot, Function.update_self, SlotState.withMinBid_twice, ite_self, List.mem_cons_self, if_true]
    · simp only [savedSlot, Function.update_of_ne hfirst, List.mem_cons, hfirst, false_or]

/-! ### The change of a default -/

variable {a a' : Auction} {msg : Msg} {slotSet newInitialMinBid : BitVec 128} {events : List AuctionEvent}

/-- What a successful change does to the slots and the defaults. -/
structure DefaultChanged (a : Auction) (msg : Msg) (slotSet : Fin 6) (newInitialMinBid : Nat) (a' : Auction) : Prop where
  default_ne : a.defaultSlotSetBid slotSet ≠ 0
  default : a'.defaultSlotSetBid = Function.update a.defaultSlotSetBid slotSet newInitialMinBid
  saved : ∀ slot, a.getCurrentSlotNumber msg ≤ slot → slot ≤ a.lastClosedSlot msg → a'.slots slot = a.savedSlot slot
  kept : ∀ slot, slot < a.getCurrentSlotNumber msg → a'.slots slot = a.slots slot

theorem changeDefaultSlotSetBid_ok
    (h : a.changeDefaultSlotSetBid msg slotSet newInitialMinBid = .ok (a', events)) :
    a.DefaultChanged msg (Fin.ofNat 6 slotSet.toNat) newInitialMinBid.toNat a' := by
  obtain ⟨-, h⟩ := auctionRequire_bind_ok.mp h
  obtain ⟨-, h⟩ := auctionRequire_bind_ok.mp h
  obtain ⟨hne, h⟩ := auctionRequire_bind_ok.mp h
  dsimp only at h
  rw [foldl_saveClosedMinBid] at h
  cases h
  refine ⟨of_decide_eq_true hne, rfl, ?_, ?_⟩
  · intro slot hfirst hlast
    rw [lastClosedSlot] at hlast
    exact if_pos (List.mem_range'_1.mpr ⟨hfirst, by omega⟩)
  · intro slot hlt
    refine if_neg fun hmem => ?_
    have := (List.mem_range'_1.mp hmem).1
    omega

theorem minBid_eq (a : Auction) (slot : Nat) :
    a.minBid slot = if (a.slots slot).closedMinBid = 0 then a.defaultSlotSetBid (getSlotSet slot)
      else (a.slots slot).closedMinBid :=
  rfl

/-- The minimum bids that were saved stay as they were: a default of 0, which is saved as "nothing
saved", cannot be changed. -/
theorem DefaultChanged.minBid_saved {set : Fin 6} {new : Nat} (h : a.DefaultChanged msg set new a') {slot : Nat}
    (hfirst : a.getCurrentSlotNumber msg ≤ slot) (hlast : slot ≤ a.lastClosedSlot msg) :
    a'.minBid slot = a.minBid slot := by
  rw [minBid_eq, minBid_eq, h.saved slot hfirst hlast, savedSlot, SlotState.withMinBid, h.default]
  by_cases hzero : (a.slots slot).closedMinBid = 0
  · rw [if_pos hzero, if_pos hzero]
    split
    next hdefault =>
      have hset : getSlotSet slot ≠ set := by
        rintro rfl
        exact h.default_ne hdefault
      rw [Function.update_of_ne hset]
    · rfl
  · rw [if_neg hzero, if_neg hzero, if_neg hzero]

theorem DefaultChanged.minBid_past {set : Fin 6} {new : Nat} (h : a.DefaultChanged msg set new a') {slot : Nat}
    (hpast : slot < a.getCurrentSlotNumber msg) :
    a'.minBid slot = a.minBid slot ↔
      (getSlotSet slot = set → (a.slots slot).closedMinBid = 0 → new = a.defaultSlotSetBid set) := by
  rw [minBid_eq, minBid_eq, h.kept slot hpast, h.default]
  by_cases hzero : (a.slots slot).closedMinBid = 0
  · rw [if_pos hzero, if_pos hzero]
    by_cases hset : getSlotSet slot = set
    · subst hset
      rw [Function.update_self]
      exact ⟨fun heq _ _ => heq, fun heq => heq rfl hzero⟩
    · rw [Function.update_of_ne hset]
      exact ⟨fun _ hsame => absurd hsame hset, fun _ => rfl⟩
  · rw [if_neg hzero, if_neg hzero]
    exact ⟨fun _ _ hsaved => absurd hsaved hzero, fun _ => rfl⟩

/-- The bid of a slot that was not fulfilled goes back to its bidder. -/
def Refundable (a : Auction) (slot : Nat) : Prop :=
  (a.slots slot).fulfilled = false ∧ (a.slots slot).bidAmount < a.minBid slot

/-- The outcome of the slots up to `last` does not change. -/
structure KeepsOutcomes (a a' : Auction) (last : Nat) : Prop where
  minBid : ∀ slot ≤ last, a'.minBid slot = a.minBid slot
  refundable : ∀ slot ≤ last, a'.Refundable slot ↔ a.Refundable slot

theorem DefaultChanged.bids {set : Fin 6} {new : Nat} (h : a.DefaultChanged msg set new a') {slot : Nat}
    (hlast : slot ≤ a.lastClosedSlot msg) :
    (a'.slots slot).fulfilled = (a.slots slot).fulfilled ∧ (a'.slots slot).bidAmount = (a.slots slot).bidAmount := by
  rcases Nat.lt_or_ge slot (a.getCurrentSlotNumber msg) with hpast | hfirst
  · rw [h.kept slot hpast]
    exact ⟨rfl, rfl⟩
  · rw [h.saved slot hfirst hlast, savedSlot, SlotState.withMinBid]
    split <;> exact ⟨rfl, rfl⟩

end Auction

/-- **Closed auctions keep their minimum bid** exactly when the default does not change, or every past
slot of its slot set has a minimum bid saved. -/
theorem closedAuctions_keepMinBid {a a' : Auction} {tx : AuctionTx} {slotSet newInitialMinBid : BitVec 128}
    {events : List AuctionEvent} (hcall : tx.call = .changeDefaultSlotSetBid slotSet newInitialMinBid)
    (h : a.exec tx = .ok (a', events)) :
    a.KeepsOutcomes a' (a.getCurrentSlotNumber tx.msg + a.closedAuctionSlots.toNat) ↔
      newInitialMinBid.toNat = a.defaultSlotSetBid (Fin.ofNat 6 slotSet.toNat) ∨
        ∀ slot < a.getCurrentSlotNumber tx.msg, Auction.getSlotSet slot = Fin.ofNat 6 slotSet.toNat →
          (a.slots slot).closedMinBid ≠ 0 := by
  rw [Auction.exec, hcall] at h
  have hchanged := Auction.changeDefaultSlotSetBid_ok h
  constructor
  · intro hkeeps
    by_cases hsame : newInitialMinBid.toNat = a.defaultSlotSetBid (Fin.ofNat 6 slotSet.toNat)
    · exact Or.inl hsame
    · refine Or.inr fun slot hpast hset hzero => hsame ?_
      exact (hchanged.minBid_past hpast).mp (hkeeps.minBid slot (by omega)) hset hzero
  · intro hcondition
    have hminBid : ∀ slot ≤ a.getCurrentSlotNumber tx.msg + a.closedAuctionSlots.toNat,
        a'.minBid slot = a.minBid slot := by
      intro slot hlast
      rcases Nat.lt_or_ge slot (a.getCurrentSlotNumber tx.msg) with hpast | hfirst
      · refine (hchanged.minBid_past hpast).mpr fun hset hzero => ?_
        rcases hcondition with hsame | hsaved
        · exact hsame
        · exact absurd hzero (hsaved slot hpast hset)
      · exact hchanged.minBid_saved hfirst hlast
    refine ⟨hminBid, fun slot hlast => ?_⟩
    obtain ⟨hfulfilled, hbid⟩ := hchanged.bids hlast
    rw [Auction.Refundable, Auction.Refundable, hfulfilled, hbid, hminBid slot hlast]

def doubleDefault : AuctionTx :=
  { msg := { sender := 3, origin := 3, blockNumber := 160 },
    call := .changeDefaultSlotSetBid 3 (BitVec.ofNat 128 (2 * 10 ^ 24)) }

/-- Governance raises it in slot 1, when slot 3 is closed and not yet past. -/
def raiseDefault : AuctionTx :=
  { msg := { sender := 3, origin := 3, blockNumber := 40 },
    call := .changeDefaultSlotSetBid 3 (BitVec.ofNat 128 (15 * 10 ^ 23)) }

/-- The raise has saved the minimum bid of slot 3, so its outcome stays when the default is doubled in slot 4. -/
theorem closedAuctions_keepMinBid_saved :
    ∃ a a' events, (auctionGenesis.init.map fun a => (firstBid ++ [raiseDefault]).foldl Auction.step a) = .ok a ∧
      a.exec doubleDefault = .ok (a', events) ∧ a.getCurrentSlotNumber doubleDefault.msg = 4 ∧
      a.defaultSlotSetBid 3 = 15 * 10 ^ 23 ∧ (a.slots 3).closedMinBid = 10 ^ 24 ∧
      a.KeepsOutcomes a' (a.getCurrentSlotNumber doubleDefault.msg + a.closedAuctionSlots.toNat) := by
  have hrun : ∃ a a' events, (auctionGenesis.init.map fun a => (firstBid ++ [raiseDefault]).foldl Auction.step a) = .ok a ∧
      a.exec doubleDefault = .ok (a', events) ∧ a.getCurrentSlotNumber doubleDefault.msg = 4 ∧
      a.defaultSlotSetBid 3 = 15 * 10 ^ 23 ∧ (a.slots 3).closedMinBid = 10 ^ 24 :=
    ⟨_, _, _, rfl, rfl, by decide +kernel, by decide +kernel, by decide +kernel⟩
  obtain ⟨a, a', events, hinit, hexec, hcurrent, hdefault, hsaved⟩ := hrun
  refine ⟨a, a', events, hinit, hexec, hcurrent, hdefault, hsaved, (closedAuctions_keepMinBid rfl hexec).mpr (Or.inr ?_)⟩
  intro slot hpast hset
  have hslots : ∀ slot < 4, Auction.getSlotSet slot = Fin.ofNat 6 3 → slot = 3 := by decide
  rw [hslots slot (hcurrent ▸ hpast) hset, hsaved]
  decide

/-- **The minimum bid of a past slot changes**: the winning bid of slot 3, in which nobody forged, can be
claimed back after the default was raised. -/
theorem pastMinBid_changes :
    ∃ a a' events, auctionGenesis.init = .ok a ∧
      Auction.Reachable (firstBid.foldl Auction.step a) 0 ∧
      (firstBid.foldl Auction.step a).exec doubleDefault = .ok (a', events) ∧
      (firstBid.foldl Auction.step a).minBid 3 = 10 ^ 24 ∧ a'.minBid 3 = 2 * 10 ^ 24 ∧
      ¬(firstBid.foldl Auction.step a).Refundable 3 ∧ a'.Refundable 3 := by
  have hinit : ∃ a a' events, auctionGenesis.init = .ok a ∧
      (firstBid.foldl Auction.step a).exec doubleDefault = .ok (a', events) ∧
      (firstBid.foldl Auction.step a).minBid 3 = 10 ^ 24 ∧ a'.minBid 3 = 2 * 10 ^ 24 ∧
      ¬((firstBid.foldl Auction.step a).slots 3).bidAmount < (firstBid.foldl Auction.step a).minBid 3 ∧
      ((a'.slots 3).fulfilled = false ∧ (a'.slots 3).bidAmount < a'.minBid 3) := by
    exact ⟨_, _, _, rfl, rfl, by decide +kernel, by decide +kernel, by decide +kernel, by decide +kernel⟩
  obtain ⟨a, a', events, hinit, hexec, hbefore, hafter, hwins, hrefund⟩ := hinit
  obtain ⟨last, hmem, hreach⟩ := (Auction.Reachable.init auctionGenesis a hinit).foldl firstBid (by decide)
  have hlast : last = 0 := by simpa [auctionGenesis, firstBid] using hmem
  exact ⟨a, a', events, hinit, hlast ▸ hreach, hexec, hbefore, hafter, fun h => hwins h.2, hrefund⟩

end HermezRollup
