import HermezRollup.ForgerCommitment

/-! The winner of a slot, in the contract and in the node.  The contract compares the highest bid with the
minimum bid it has saved for the slot, or else with the present default.  The node looks the default up in
the history of the auction's variables, by the slot from which each row applies. -/

namespace HermezRollup

open Fallible

/-- The forger with the right to a slot: the one its highest bidder has registered, if the bid reaches the
minimum bid of the slot, and otherwise the boot coordinator. -/
def Auction.winner (a : Auction) (slot : Nat) : Address :=
  if (a.slots slot).bidAmount ≠ 0 ∧ a.minBid slot ≤ (a.slots slot).bidAmount then
    (a.coordinators (a.slots slot).bidder).forger
  else a.bootCoordinator

/-! ### Who registers -/

variable {slot : Nat}

namespace Auction

/-- Events in which only `sender` registers a forger. -/
def RegisteredBy (sender : Address) (events : List AuctionEvent) : Prop :=
  ∀ bidder forger coordinatorURL, .setCoordinator bidder forger coordinatorURL ∈ events → bidder = sender

variable {a a' : Auction} {sender : Address} {events events' : List AuctionEvent}

theorem RegisteredBy.append (h : RegisteredBy sender events) (h' : RegisteredBy sender events') :
    RegisteredBy sender (events ++ events') := by
  intro bidder forger coordinatorURL hmem
  rcases List.mem_append.mp hmem with hmem | hmem
  · exact h _ _ _ hmem
  · exact h' _ _ _ hmem

/-- A call in whose events, if it succeeds, only `sender` registers a forger. -/
def Registers (sender : Address) (x : Except AuctionError (Auction × List AuctionEvent)) : Prop :=
  ∀ result, x = .ok result → RegisteredBy sender result.2

theorem Registers.ok (h : RegisteredBy sender events) : Registers sender (.ok (a, events)) := by
  rintro _ ⟨⟩
  exact h

theorem Registers.bind {α : Type} {x : Except AuctionError α} {f : α → Except AuctionError (Auction × List AuctionEvent)}
    (hf : ∀ b, x = .ok b → Registers sender (f b)) : Registers sender (x >>= f) := by
  intro result h
  obtain ⟨b, hb, h⟩ := except_bind_ok.mp h
  exact hf b hb result h

theorem registers_doBid {bidAmount : Nat} {bidder : Address} : Registers sender (a.doBid slot bidAmount bidder) := by
  intro result h
  obtain ⟨-, hevents, -⟩ := doBid_ok h
  rw [hevents]
  simp [RegisteredBy]

theorem registers_processBid {token : HEZToken} {msg : Msg} {amount slot bidAmount : BitVec 128} {permit : Option Permit} :
    Registers sender (a.processBid token msg amount slot bidAmount permit) :=
  .bind fun _ _ => .bind fun _ _ => .bind fun _ _ => .bind fun _ _ => .bind fun _ _ => .bind fun _ _ => .bind fun _ _ =>
    .bind fun _ _ => .bind fun _ _ => registers_doBid

theorem registers_multiBidSlot {msg : Msg} {slotSets : Fin 6 → Bool} {maxBid minBid : Nat}
    {result : Auction × List AuctionEvent} (hresult : RegisteredBy sender result.2) :
    Registers sender (multiBidSlot msg slotSets maxBid minBid result slot) := by
  refine .bind fun minBidBySlot _ => ?_
  cases multiBidAmount minBidBySlot minBid maxBid with
  | none => exact .ok hresult
  | some bidAmount =>
    dsimp only
    split
    · exact .bind fun _ _ => .bind fun bid hbid => .ok (hresult.append (registers_doBid bid hbid))
    · exact .ok hresult

theorem registers_processMultiBid {token : HEZToken} {msg : Msg} {amount startingSlot endingSlot : BitVec 128}
    {slotSets : Fin 6 → Bool} {maxBid minBid : BitVec 128} {permit : Option Permit} :
    Registers sender (a.processMultiBid token msg amount startingSlot endingSlot slotSets maxBid minBid permit) := by
  refine .bind fun _ _ => .bind fun _ _ => .bind fun _ _ => .bind fun _ _ => .bind fun _ _ => .bind fun _ _ =>
    .bind fun _ _ result h => ?_
  refine foldlM_invariant (P := fun result => RegisteredBy sender result.2) ?_ ?_ h
  · exact fun _ _ result hresult => registers_multiBidSlot hresult result
  · simp [RegisteredBy]

theorem registers_forge {token : HEZToken} {msg : Msg} {forger : Address} :
    Registers sender (a.forge token msg forger) := by
  refine .bind fun _ _ => .bind fun _ _ => .bind fun _ _ => .bind fun _ _ => .bind fun fulfilled hfulfill => .ok ?_
  refine RegisteredBy.append (fun bidder forger' coordinatorURL hmem => ?_) (by simp [RegisteredBy])
  obtain ⟨_, _, _, _, heq⟩ := (fulfillSlot_ok hfulfill).2 _ hmem
  cases heq

theorem registers_exec (tx : AuctionTx) : Registers tx.msg.sender (a.exec tx) := by
  obtain ⟨token, msg, call⟩ := tx
  cases call with
  | setCoordinator => exact .bind fun _ _ => .ok (by simp +contextual [RegisteredBy])
  | processBid => exact registers_processBid
  | processMultiBid => exact registers_processMultiBid
  | forge => exact registers_forge
  | claimPendingHEZ => exact .bind fun _ _ => .bind fun _ _ => .bind fun _ _ => .bind fun _ _ => .ok (by simp [RegisteredBy])
  | changeDefaultSlotSetBid => exact .bind fun _ _ => .bind fun _ _ => .bind fun _ _ => .ok (by simp [RegisteredBy])
  | setOpenAuctionSlots | setClosedAuctionSlots | setBootCoordinator =>
    exact .bind fun _ _ => .ok (by simp [RegisteredBy])
  | claimHEZ | setSlotDeadline | setOutbidding | setAllocationRatio | setDonationAddress =>
    exact .bind fun _ _ => .bind fun _ _ => .ok (by simp [RegisteredBy])

theorem runBlock_registers {txs : List AuctionTx} (hsenders : ∀ tx ∈ txs, tx.msg.sender ≠ 0) (bidder forger : Address)
    (coordinatorURL : String) (hmem : .setCoordinator bidder forger coordinatorURL ∈ (a.runBlock txs).2) : bidder ≠ 0 := by
  induction txs generalizing a with
  | nil => cases hmem
  | cons tx txs ih =>
    have hrest : ∀ tx ∈ txs, tx.msg.sender ≠ 0 := fun tx htx => hsenders tx (List.mem_cons_of_mem _ htx)
    rw [runBlock] at hmem
    cases hexec : a.exec tx with
    | error e =>
      rw [hexec] at hmem
      exact ih hrest hmem
    | ok result =>
      rw [hexec] at hmem
      rcases List.mem_append.mp hmem with hmem | hmem
      · rw [registers_exec tx _ hexec _ _ _ hmem]
        exact hsenders tx List.mem_cons_self
      · exact ih hrest hmem

end Auction

/-! ### Bids and registrations in the tables -/

/-- The tables tell the highest bids and the registered forgers.  Rows without a bidder belong to boot
coordinators. -/
structure RowsSynced (v : AuctionView) (bids : List BidRow) (coordinators : List CoordinatorRow) : Prop where
  highest : ∀ slot : Nat,
    ((bids.filter fun row => row.slotNum = (slot : Int)).getLast?.map fun row => (row.bidder, row.bidValue)) =
    if (v.bids slot).2 = 0 then none else some (v.bids slot)
  noBid : ∀ slot, (v.bids slot).2 = 0 → (v.bids slot).1 = 0
  forgers : ∀ bidder ≠ 0, ((coordinators.filter fun row => row.bidder = bidder).getLast?.map CoordinatorRow.forger).getD 0 =
    (v.coordinators bidder).forger
  nobody : (v.coordinators 0).forger = 0
  registered : ∀ row ∈ bids, row.bidder ≠ 0 ∧ ∃ coordinator ∈ coordinators, coordinator.bidder = row.bidder

namespace RowsSynced

variable {v : AuctionView} {bids : List BidRow} {coordinators : List CoordinatorRow} {block : Nat} {blockNum : Int}

theorem registered_of_forger (h : RowsSynced v bids coordinators) {bidder : Address}
    (hforger : (v.coordinators bidder).forger ≠ 0) :
    bidder ≠ 0 ∧ ∃ coordinator ∈ coordinators, coordinator.bidder = bidder := by
  have hbidder : bidder ≠ 0 := by
    rintro rfl
    exact hforger h.nobody
  refine ⟨hbidder, ?_⟩
  rw [← h.forgers bidder hbidder] at hforger
  cases hlast : (coordinators.filter fun row => row.bidder = bidder).getLast? with
  | none =>
    rw [hlast] at hforger
    exact absurd rfl hforger
  | some coordinator =>
    obtain ⟨hmem, hsame⟩ := List.mem_filter.mp (List.mem_of_getLast? hlast)
    exact ⟨coordinator, hmem, of_decide_eq_true hsame⟩

theorem newBid (h : RowsSynced v bids coordinators) (slot bidAmount : Nat) (bidder : Address) (hpos : 0 < bidAmount)
    (hforger : (v.coordinators bidder).forger ≠ 0) :
    RowsSynced (v.record block (.newBid slot bidAmount bidder))
      (bids ++ [⟨slot, bidAmount, blockNum, bidder⟩]) coordinators := by
  refine { h with highest := ?_, noBid := ?_, registered := ?_ }
  · intro other
    by_cases heq : other = slot
    · subst heq
      simp [AuctionView.record, hpos.ne']
    · have hne : (slot : Int) ≠ other := fun hcast => heq (Int.ofNat_inj.mp hcast).symm
      simpa [AuctionView.record, heq, hne] using h.highest other
  · intro other hzero
    by_cases heq : other = slot
    · subst heq
      simp [AuctionView.record, hpos.ne'] at hzero
    · simp only [AuctionView.record, Function.update_of_ne heq] at hzero ⊢
      exact h.noBid other hzero
  · intro row hmem
    rcases List.mem_append.mp hmem with hold | hnew
    · exact h.registered row hold
    · cases List.mem_singleton.mp hnew
      exact h.registered_of_forger hforger

theorem setCoordinator (h : RowsSynced v bids coordinators) (bidder forger : Address) (coordinatorURL : String)
    (hbidder : bidder ≠ 0) :
    RowsSynced (v.record block (.setCoordinator bidder forger coordinatorURL)) bids
      (coordinators ++ [⟨bidder, forger, blockNum, coordinatorURL⟩]) := by
  refine { h with forgers := ?_, nobody := ?_, registered := ?_ }
  · intro other hother
    by_cases heq : other = bidder
    · subst heq
      simp [AuctionView.record]
    · simpa [AuctionView.record, heq, Ne.symm heq] using h.forgers other hother
  · rw [AuctionView.record]
    dsimp only
    rw [Function.update_of_ne hbidder.symm]
    exact h.nobody
  · intro row hmem
    obtain ⟨hne, coordinator, hcoordinator, hsame⟩ := h.registered row hmem
    exact ⟨hne, coordinator, List.mem_append_left _ hcoordinator, hsame⟩

theorem record (h : RowsSynced v bids coordinators) {event : AuctionEvent} (haccepts : v.Accepts block event)
    (hregisters : ∀ bidder forger coordinatorURL, event = .setCoordinator bidder forger coordinatorURL → bidder ≠ 0) :
    RowsSynced (v.record block event) (bids ++ (event.bidRow blockNum).toList)
      (coordinators ++ (event.coordinatorRow blockNum).toList) := by
  cases event with
  | newBid slot bidAmount bidder =>
    simp only [AuctionEvent.coordinatorRow, Option.toList_none, List.append_nil]
    exact h.newBid slot bidAmount bidder haccepts.1 haccepts.2
  | setCoordinator bidder forger coordinatorURL =>
    simp only [AuctionEvent.bidRow, Option.toList_none, List.append_nil]
    exact h.setCoordinator bidder forger coordinatorURL (hregisters _ _ _ rfl)
  | _ =>
    simp only [AuctionEvent.bidRow, AuctionEvent.coordinatorRow, Option.toList_none, List.append_nil]
    exact { h with }

theorem foldl (h : RowsSynced v bids coordinators) {events : List AuctionEvent} (haccepts : v.AcceptsAll block events)
    (hregisters : ∀ bidder forger coordinatorURL, .setCoordinator bidder forger coordinatorURL ∈ events → bidder ≠ 0) :
    RowsSynced (events.foldl (AuctionView.record block) v) (bids ++ events.filterMap (AuctionEvent.bidRow blockNum))
      (coordinators ++ events.filterMap (AuctionEvent.coordinatorRow blockNum)) := by
  induction events generalizing v bids coordinators with
  | nil => simpa using h
  | cons event events ih =>
    have hcons : ∀ {α : Type} (f : AuctionEvent → Option α),
        (event :: events).filterMap f = (f event).toList ++ events.filterMap f := by
      intro α f
      cases hf : f event with
      | none => rw [List.filterMap_cons_none hf, Option.toList_none, List.nil_append]
      | some row => rw [List.filterMap_cons_some hf, Option.toList_some, List.singleton_append]
    rw [List.foldl_cons, hcons, hcons, ← List.append_assoc, ← List.append_assoc]
    refine ih (h.record haccepts.1 fun bidder forger coordinatorURL heq => ?_) haccepts.2 fun _ _ _ hmem =>
      hregisters _ _ _ (List.mem_cons_of_mem _ hmem)
    exact hregisters bidder forger coordinatorURL (heq ▸ List.mem_cons_self)

theorem bootCoordinators (h : RowsSynced v bids coordinators) (events : List AuctionEvent) :
    RowsSynced v bids (coordinators ++ events.filterMap (AuctionEvent.bootCoordinatorRow blockNum)) := by
  have hboot : ∀ row ∈ events.filterMap (AuctionEvent.bootCoordinatorRow blockNum), row.bidder = 0 := by
    intro row hmem
    obtain ⟨event, -, hrow⟩ := List.mem_filterMap.mp hmem
    cases event with
    | newBootCoordinator forger url =>
      cases hrow
      rfl
    | _ => cases hrow
  refine { h with forgers := ?_, registered := ?_ }
  · intro bidder hbidder
    have hnone : (events.filterMap (AuctionEvent.bootCoordinatorRow blockNum)).filter
        (fun row => row.bidder = bidder) = [] := by
      refine List.filter_eq_nil_iff.mpr fun row hmem => ?_
      rw [hboot row hmem, decide_eq_true_eq]
      exact hbidder.symm
    rw [List.filter_append, hnone, List.append_nil]
    exact h.forgers bidder hbidder
  · intro row hmem
    obtain ⟨hne, coordinator, hcoordinator, hsame⟩ := h.registered row hmem
    exact ⟨hne, coordinator, List.mem_append_left _ hcoordinator, hsame⟩

end RowsSynced

/-! ### Variables -/

def AuctionEvent.changesDefault : AuctionEvent → Bool
  | .newDefaultSlotSetBid _ _ => true
  | _ => false

/-- The variables of the node that decide winners are those of the contract. -/
structure VarsSynced (v : AuctionView) (vars : AuctionVariables) : Prop where
  bootCoordinator : vars.bootCoordinator = v.bootCoordinator
  closedAuctionSlots : vars.closedAuctionSlots = v.closedAuctionSlots
  defaultSlotSetBid : vars.defaultSlotSetBid = v.defaultSlotSetBid

section Variables

variable {v : AuctionView} {vars : AuctionVariables} {block : Nat} {events : List AuctionEvent}

theorem applyParameters_bootCoordinator (h : vars.bootCoordinator = v.bootCoordinator) :
    (vars.applyParameters events).bootCoordinator = (events.foldl (AuctionView.record block) v).bootCoordinator := by
  rw [AuctionVariables.applyParameters]
  iterate 2 rw [foldl_keeps (g := AuctionVariables.bootCoordinator) (fun b e => by cases e <;> rfl)]
  refine List.foldl_rel
    (r := fun (vars : AuctionVariables) (v : AuctionView) => vars.bootCoordinator = v.bootCoordinator) ?_ ?_
  · iterate 4 rw [foldl_keeps (g := AuctionVariables.bootCoordinator) (fun b e => by cases e <;> rfl)]
    exact h
  · intro event _ vars v h
    cases event with
    | newBootCoordinator => rfl
    | _ => exact h

theorem applyParameters_closedAuctionSlots (h : vars.closedAuctionSlots = v.closedAuctionSlots) :
    (vars.applyParameters events).closedAuctionSlots = (events.foldl (AuctionView.record block) v).closedAuctionSlots := by
  rw [AuctionVariables.applyParameters]
  iterate 5 rw [foldl_keeps (g := AuctionVariables.closedAuctionSlots) (fun b e => by cases e <;> rfl)]
  refine List.foldl_rel
    (r := fun (vars : AuctionVariables) (v : AuctionView) => vars.closedAuctionSlots = v.closedAuctionSlots) ?_ ?_
  · rw [foldl_keeps (g := AuctionVariables.closedAuctionSlots) (fun b e => by cases e <;> rfl)]
    exact h
  · intro event _ vars v h
    cases event with
    | newClosedAuctionSlots => rfl
    | _ => exact h

theorem applyParameters_default (vars : AuctionVariables) (events : List AuctionEvent) :
    (vars.applyParameters events).defaultSlotSetBid = vars.defaultSlotSetBid ∧
      (vars.applyParameters events).defaultSlotSetBidSlotNum = vars.defaultSlotSetBidSlotNum := by
  let g (vars : AuctionVariables) := (vars.defaultSlotSetBid, vars.defaultSlotSetBidSlotNum)
  suffices h : g (vars.applyParameters events) = g vars from Prod.mk.inj h
  rw [AuctionVariables.applyParameters]
  iterate 7 rw [foldl_keeps (g := g) (fun b e => by cases e <;> rfl)]

theorem foldlM_applyDefaultSlotSetBid (slotNum : Int) (h : vars.defaultSlotSetBid = v.defaultSlotSetBid)
    (haccepts : v.AcceptsAll block events) :
    ∃ vars', events.foldlM (AuctionVariables.applyDefaultSlotSetBid slotNum) vars = .ok vars' ∧
      vars'.bootCoordinator = vars.bootCoordinator ∧ vars'.closedAuctionSlots = vars.closedAuctionSlots ∧
      vars'.defaultSlotSetBid = (events.foldl (AuctionView.record block) v).defaultSlotSetBid ∧
      vars'.defaultSlotSetBidSlotNum = if events.any AuctionEvent.changesDefault then
        slotNum + vars.closedAuctionSlots.toNat else vars.defaultSlotSetBidSlotNum := by
  induction events generalizing v vars with
  | nil => exact ⟨vars, rfl, rfl, rfl, h, rfl⟩
  | cons event events ih =>
    obtain ⟨hevent, hrest⟩ := haccepts
    rw [List.foldlM_cons, List.foldl_cons, List.any_cons]
    cases event with
    | newDefaultSlotSetBid slotSet newInitialMinBid =>
      have hset : slotSet < 6 := hevent.1
      have happly : vars.applyDefaultSlotSetBid slotNum (.newDefaultSlotSetBid slotSet newInitialMinBid) = .ok { vars with
          defaultSlotSetBid := Function.update vars.defaultSlotSetBid (Fin.ofNat 6 slotSet) newInitialMinBid
          defaultSlotSetBidSlotNum := slotNum + vars.closedAuctionSlots.toNat } := by
        rw [AuctionVariables.applyDefaultSlotSetBid, if_neg (by omega), if_neg (by omega)]
      rw [happly]
      have hset : Function.update vars.defaultSlotSetBid (Fin.ofNat 6 slotSet) newInitialMinBid =
          (v.record block (.newDefaultSlotSetBid slotSet newInitialMinBid)).defaultSlotSetBid := by
        rw [h]
        rfl
      obtain ⟨vars', hfold, hboot, hclosed, hdefault, hslotNum⟩ := @ih (v.record block _) { vars with
        defaultSlotSetBid := Function.update vars.defaultSlotSetBid (Fin.ofNat 6 slotSet) newInitialMinBid
        defaultSlotSetBidSlotNum := slotNum + vars.closedAuctionSlots.toNat } hset hrest
      refine ⟨vars', hfold, hboot, hclosed, hdefault, hslotNum.trans ?_⟩
      simp [AuctionEvent.changesDefault]
    | _ => exact ih h hrest

theorem auctionSync_ok (c : AuctionConstants) (blockNum : Int) (h : VarsSynced v vars) (haccepts : v.AcceptsAll block events) :
    ∃ vars' data, auctionSync c vars blockNum events = .ok (vars', data) ∧
      VarsSynced (events.foldl (AuctionView.record block) v) vars' ∧
      (vars'.defaultSlotSetBidSlotNum = if events.any AuctionEvent.changesDefault then
        c.slotNum blockNum + (events.foldl (AuctionView.record block) v).closedAuctionSlots.toNat
        else vars.defaultSlotSetBidSlotNum) ∧
      data.bids = events.filterMap (AuctionEvent.bidRow blockNum) ∧
      data.coordinators = events.filterMap (AuctionEvent.coordinatorRow blockNum) ++
        events.filterMap (AuctionEvent.bootCoordinatorRow blockNum) ∧
      data.vars = if events.any AuctionEvent.updatesVars then some vars' else none := by
  obtain ⟨hdefault, hslotNum⟩ := applyParameters_default vars events
  obtain ⟨vars', hfold, hboot, hclosed, hdefault', hslotNum'⟩ := foldlM_applyDefaultSlotSetBid (c.slotNum blockNum)
    (hdefault.trans h.defaultSlotSetBid) haccepts
  have hsynced : VarsSynced (events.foldl (AuctionView.record block) v) vars' :=
    ⟨hboot.trans (applyParameters_bootCoordinator h.bootCoordinator),
      hclosed.trans (applyParameters_closedAuctionSlots h.closedAuctionSlots), hdefault'⟩
  rw [← hclosed, hsynced.closedAuctionSlots, hslotNum] at hslotNum'
  rw [auctionSync, hfold]
  refine ⟨_, _, rfl, ?_, ?_, rfl, rfl, rfl⟩
  · split
    · exact { hsynced with }
    · exact hsynced
  · split
    · exact hslotNum'
    · exact hslotNum'

end Variables

/-! ### Minimum bids -/

namespace AuctionView

variable {v : AuctionView} {block : Nat} {events : List AuctionEvent}

theorem foldl_record_minBids (hnone : events.any AuctionEvent.changesDefault = false) :
    (events.foldl (record block) v).closedMinBid = v.closedMinBid ∧
      (events.foldl (record block) v).defaultSlotSetBid = v.defaultSlotSetBid := by
  induction events generalizing v with
  | nil => exact ⟨rfl, rfl⟩
  | cons event events ih =>
    rw [List.any_cons, Bool.or_eq_false_iff] at hnone
    rw [List.foldl_cons]
    cases event with
    | newDefaultSlotSetBid => cases hnone.1
    | _ => exact ih hnone.2

/-- A change of a default keeps the minimum bids of the current and the closed slots, and saves none of
a later slot. -/
theorem minBid_newDefaultSlotSetBid {slotSet newInitialMinBid : Nat} (haccepts : v.Accepts block
    (.newDefaultSlotSetBid slotSet newInitialMinBid)) (hfirst : v.slotNumber block ≤ slot)
    (hlast : slot ≤ v.slotNumber block + v.closedAuctionSlots.toNat) :
    (v.record block (.newDefaultSlotSetBid slotSet newInitialMinBid)).minBid slot = v.minBid slot := by
  have hsaved : (v.record block (.newDefaultSlotSetBid slotSet newInitialMinBid)).closedMinBid slot =
      if v.closedMinBid slot = 0 then v.defaultSlotSetBid (Auction.getSlotSet slot) else v.closedMinBid slot := by
    simp [savedMinBids_record, hfirst, hlast]
  rw [minBid, hsaved, minBid]
  by_cases hzero : v.closedMinBid slot = 0
  · rw [if_pos hzero]
    split
    next hdefault =>
      have hset : Auction.getSlotSet slot ≠ Fin.ofNat 6 slotSet := by
        intro heq
        exact haccepts.2 (heq ▸ hdefault)
      exact Function.update_of_ne hset _ _
    · rfl
  · rw [if_neg hzero, if_neg hzero]

/-- What the events of a block that does not change the number of closed slots do to minimum bids. -/
theorem foldl_record_changes (haccepts : v.AcceptsAll block events)
    (hclosed : ∀ newClosedAuctionSlots, .newClosedAuctionSlots newClosedAuctionSlots ∉ events) :
    (events.foldl (record block) v).closedAuctionSlots = v.closedAuctionSlots ∧
      (∀ slot, v.slotNumber block ≤ slot → slot ≤ v.slotNumber block + v.closedAuctionSlots.toNat →
        (events.foldl (record block) v).minBid slot = v.minBid slot) ∧
      (∀ slot, v.slotNumber block + v.closedAuctionSlots.toNat < slot →
        (events.foldl (record block) v).closedMinBid slot = v.closedMinBid slot) ∧
      ∀ set : Fin 6, (∀ slotSet newInitialMinBid, .newDefaultSlotSetBid slotSet newInitialMinBid ∈ events →
        slotSet ≠ set.val) → (events.foldl (record block) v).defaultSlotSetBid set = v.defaultSlotSetBid set := by
  induction events generalizing v with
  | nil => exact ⟨rfl, fun _ _ _ => rfl, fun _ _ => rfl, fun _ _ => rfl⟩
  | cons event events ih =>
    obtain ⟨hevent, hrest⟩ := haccepts
    have hnumber : (v.record block event).slotNumber block = v.slotNumber block := by
      rw [slotNumber, slotNumber, record_genesisBlock]
    have hkept : (v.record block event).closedAuctionSlots = v.closedAuctionSlots := by
      cases event with
      | newClosedAuctionSlots n => exact absurd List.mem_cons_self (hclosed n)
      | _ => rfl
    have hlater := ih hrest fun n hmem => hclosed n (List.mem_cons_of_mem _ hmem)
    rw [hnumber, hkept] at hlater
    obtain ⟨hclosed', hminBid, hsaved, hdefault⟩ := hlater
    rw [List.foldl_cons]
    refine ⟨hclosed', fun slot hfirst hlast => (hminBid slot hfirst hlast).trans ?_,
      fun slot hlast => (hsaved slot hlast).trans ?_, fun set hset =>
        (hdefault set fun n m hmem => hset n m (List.mem_cons_of_mem _ hmem)).trans ?_⟩
    · cases event with
      | newDefaultSlotSetBid => exact minBid_newDefaultSlotSetBid hevent hfirst hlast
      | _ => rfl
    · cases event with
      | newDefaultSlotSetBid =>
        rw [savedMinBids_record, if_neg]
        intro hall
        omega
      | _ => rfl
    · cases event with
      | newDefaultSlotSetBid slotSet newInitialMinBid =>
        have hne := hset slotSet newInitialMinBid List.mem_cons_self
        refine Function.update_of_ne (fun heq => hne ?_) _ _
        rw [heq, Fin.val_ofNat, Nat.mod_eq_of_lt hevent.1]
      | _ => rfl

end AuctionView

/-- The history of the variables tells the minimum bids from slot `first` on. -/
structure MinBidsSynced (v : AuctionView) (vars : AuctionVariables) (rows : List AuctionVariables) (first : Nat) : Prop where
  last : ∃ row, rows.getLast? = some row ∧ row.defaultSlotSetBid = vars.defaultSlotSetBid ∧
    row.defaultSlotSetBidSlotNum = vars.defaultSlotSetBidSlotNum
  unsaved : ∀ slot : Nat, vars.defaultSlotSetBidSlotNum < slot → v.closedMinBid slot = 0
  minBid : ∀ slot : Nat, first ≤ slot → ∃ row,
    (rows.filter fun row => row.defaultSlotSetBidSlotNum ≤ (slot : Int)).getLast? = some row ∧
      row.defaultSlotSetBid (Auction.getSlotSet slot) = v.minBid slot

namespace MinBidsSynced

variable {v v' : AuctionView} {vars vars' : AuctionVariables} {rows : List AuctionVariables} {first : Nat}

theorem mono (h : MinBidsSynced v vars rows first) {later : Nat} (hle : first ≤ later) : MinBidsSynced v vars rows later :=
  { h with minBid := fun slot hslot => h.minBid slot (hle.trans hslot) }

theorem filter_getLast?_append (rows : List AuctionVariables) (row : AuctionVariables) (slot : Int) :
    ((rows ++ [row]).filter fun row => row.defaultSlotSetBidSlotNum ≤ slot).getLast? =
      if row.defaultSlotSetBidSlotNum ≤ slot then some row
      else (rows.filter fun row => row.defaultSlotSetBidSlotNum ≤ slot).getLast? := by
  rw [List.filter_append]
  by_cases hle : row.defaultSlotSetBidSlotNum ≤ slot
  · simp [hle]
  · simp [hle]

/-- From the slot of the last change on, the minimum bids are the present defaults. -/
theorem minBid_eq_default (h : MinBidsSynced v vars rows first) (hfirst : first ≤ slot)
    (hlast : vars.defaultSlotSetBidSlotNum ≤ slot) :
    v.minBid slot = vars.defaultSlotSetBid (Auction.getSlotSet slot) := by
  obtain ⟨last, hget, hdefault, hslotNum⟩ := h.last
  obtain ⟨row, hrow, hminBid⟩ := h.minBid slot hfirst
  obtain ⟨before, rfl⟩ := List.getLast?_eq_some_iff.mp hget
  rw [filter_getLast?_append, if_pos (hslotNum.trans_le hlast)] at hrow
  cases hrow
  rw [← hminBid, hdefault]

theorem append_same (h : MinBidsSynced v vars rows first) (hclosed : v'.closedMinBid = v.closedMinBid)
    (hdefault : v'.defaultSlotSetBid = v.defaultSlotSetBid) (hvars : vars'.defaultSlotSetBid = vars.defaultSlotSetBid)
    (hslotNum : vars'.defaultSlotSetBidSlotNum = vars.defaultSlotSetBidSlotNum) (updates : Bool) :
    MinBidsSynced v' vars' (rows ++ (if updates then some vars' else none).toList) first := by
  have hminBid : ∀ slot, v'.minBid slot = v.minBid slot := fun slot => by
    rw [AuctionView.minBid, AuctionView.minBid, hclosed, hdefault]
  refine ⟨?_, fun slot hlt => hclosed ▸ h.unsaved slot (hslotNum ▸ hlt), fun slot hfirst => ?_⟩
  · cases updates with
    | false => simpa [hvars, hslotNum] using h.last
    | true => exact ⟨vars', by simp, rfl, rfl⟩
  · rw [hminBid]
    cases updates with
    | false => simpa using h.minBid slot hfirst
    | true =>
      rw [if_pos rfl, Option.toList_some, filter_getLast?_append]
      split
      next hle => exact ⟨vars', rfl, by rw [hvars, h.minBid_eq_default hfirst (hslotNum ▸ hle)]⟩
      next => exact h.minBid slot hfirst

/-- A change of defaults: the minimum bids up to slot `last` stay, and the defaults apply after it.  The
new row applies to `last` as well, so the default of its slot set must stay. -/
theorem append_changed (h : MinBidsSynced v vars rows first) (hvars : vars.defaultSlotSetBid = v.defaultSlotSetBid)
    (hvars' : vars'.defaultSlotSetBid = v'.defaultSlotSetBid) {last : Nat} (hfirst : first ≤ last)
    (hslotNum : vars'.defaultSlotSetBidSlotNum = last) (hmono : vars.defaultSlotSetBidSlotNum ≤ last)
    (hminBid : ∀ slot, first ≤ slot → slot ≤ last → v'.minBid slot = v.minBid slot)
    (hsaved : ∀ slot, last < slot → v'.closedMinBid slot = v.closedMinBid slot)
    (hset : v'.defaultSlotSetBid (Auction.getSlotSet last) = v.defaultSlotSetBid (Auction.getSlotSet last)) :
    MinBidsSynced v' vars' (rows ++ [vars']) first := by
  have hunsaved : ∀ slot, last < slot → v'.closedMinBid slot = 0 := by
    intro slot hlt
    rw [hsaved slot hlt]
    exact h.unsaved slot (hmono.trans_lt (Int.ofNat_lt.mpr hlt))
  refine ⟨⟨vars', by simp, rfl, rfl⟩, fun slot hlt => hunsaved slot ?_, fun slot hslot => ?_⟩
  · rw [hslotNum] at hlt
    exact Int.ofNat_lt.mp hlt
  · rw [filter_getLast?_append, hslotNum]
    rcases Nat.lt_trichotomy slot last with hlt | rfl | hgt
    · rw [if_neg (by omega), hminBid slot hslot hlt.le]
      exact h.minBid slot hslot
    · rw [if_pos le_rfl, hminBid slot hslot le_rfl, h.minBid_eq_default hslot hmono]
      exact ⟨vars', rfl, by rw [hvars', hset, hvars]⟩
    · rw [if_pos (by omega), AuctionView.minBid, if_pos (hunsaved slot hgt)]
      exact ⟨vars', rfl, by rw [hvars']⟩

end MinBidsSynced

/-! ### Runs -/

/-- The variables of the node before the first block, from the event of the initializer. -/
def Auction.initialVariables (a : Auction) : AuctionVariables :=
  ⟨0, a.donationAddress, a.bootCoordinator, a.bootCoordinatorURL, fun _ => initialMinimalBidding, 0,
    a.closedAuctionSlots, a.openAuctionSlots, a.allocationRatio, a.outbidding, a.slotDeadline⟩

def Auction.initialTables (a : Auction) : AuctionTables :=
  ⟨[], [⟨0, a.bootCoordinator, 0, a.bootCoordinatorURL⟩], [a.initialVariables], []⟩

namespace ForgingSystem

/-- The states from the initializer of the contract on, synced block by block.  No call is sent by the
zero address.  `allowed` limits the blocks. -/
inductive FromInit (allowed : ForgingSystem → List AuctionTx → Prop) : ForgingSystem → Prop
  | init (g : Auction.Genesis) (a : Auction) (slot : Slot) (hinit : g.init = .ok a) :
      FromInit allowed ⟨a, a.initialVariables, a.initialTables, slot, g.blockNumber⟩
  | block (sys sys' : ForgingSystem) (txs : List AuctionTx) (hsys : FromInit allowed sys) (hallowed : allowed sys txs)
      (hblocks : ∀ tx ∈ txs, tx.msg.blockNumber = sys.nextBlock) (hfits : sys.nextBlock < 2 ^ 63)
      (hsenders : ∀ tx ∈ txs, tx.msg.sender ≠ 0) (hadd : sys.addBlock txs = .ok sys') : FromInit allowed sys'

def lastClosedSlot (sys : ForgingSystem) : Nat :=
  sys.nextSlotNumber + sys.auction.closedAuctionSlots.toNat

/-- Blocks whose changes of default bids the node gets right.  Their slot sets are not that of the last
closed slot, the number of closed slots does not change in the block, the last closed slot is not before
that of the last change, and genesis is less than a slot away. -/
def KeepsLastClosed (sys : ForgingSystem) (txs : List AuctionTx) : Prop :=
  ∀ slotSet newInitialMinBid, .newDefaultSlotSetBid slotSet newInitialMinBid ∈ (sys.auction.runBlock txs).2 →
    slotSet ≠ sys.lastClosedSlot % 6 ∧
      (∀ newClosedAuctionSlots, .newClosedAuctionSlots newClosedAuctionSlots ∉ (sys.auction.runBlock txs).2) ∧
      sys.vars.defaultSlotSetBidSlotNum ≤ sys.lastClosedSlot ∧
      sys.auction.genesisBlock < sys.nextBlock + blocksPerSlot

/-- The node and the contract agree on who can forge in a slot before the deadline. -/
structure WinnerSynced (sys : ForgingSystem) (slot : Nat) : Prop where
  forger : ∀ s : Slot, s.slotNum = slot → (setSlotCoordinator sys.vars sys.db s).forger = sys.auction.winner slot
  accepted : ∀ block, block < 2 ^ 128 → sys.auction.genesisBlock ≤ block → sys.auction.getSlotNumber block = slot →
    block - (slot * blocksPerSlot + sys.auction.genesisBlock) < sys.auction.slotDeadline.toNat →
    ∀ forger ≠ 0, sys.auction.canForge forger block = .ok (decide (forger = sys.auction.winner slot))

/-- The winners of the slot of the next block and of the slot after it are synced, and the next block can
be. -/
structure WinnersSynced (sys : ForgingSystem) : Prop where
  slotNum : sys.auction.genesisBlock ≤ sys.nextBlock → sys.constants.slotNum sys.nextBlock = sys.nextSlotNumber
  current : sys.WinnerSynced sys.nextSlotNumber
  next : sys.WinnerSynced (sys.nextSlotNumber + 1)
  proceeds : ∀ txs : List AuctionTx, (∀ tx ∈ txs, tx.msg.blockNumber = sys.nextBlock) → sys.nextBlock < 2 ^ 63 →
    ∃ sys', sys.addBlock txs = .ok sys'

/-- A view of the contract that the tables and the variables of the node tell. -/
structure ViewSynced (sys : ForgingSystem) (v : AuctionView) : Prop where
  tracks : v.Tracks sys.auction sys.nextSlotNumber
  rows : RowsSynced v sys.db.bids sys.db.coordinators
  vars : VarsSynced v sys.vars
  minBids : MinBidsSynced v sys.vars sys.db.auctionVars sys.nextSlotNumber

variable {sys sys' : ForgingSystem} {v : AuctionView} {txs : List AuctionTx}

theorem ViewSynced.slotNumber (h : sys.ViewSynced v) : v.slotNumber sys.nextBlock = sys.nextSlotNumber := by
  rw [AuctionView.slotNumber, h.tracks.genesisBlock]
  rfl

theorem getSlotNumber_mono {a a' : Auction} (h : a'.genesisBlock = a.genesisBlock) (block : Nat) :
    a.getSlotNumber block ≤ a'.getSlotNumber (block + 1) := by
  rw [Auction.getSlotNumber, Auction.getSlotNumber, h]
  split
  · rw [if_pos (by omega)]
    exact Nat.div_le_div_right (by omega)
  · exact Nat.zero_le _

theorem viewSynced_init (g : Auction.Genesis) (a : Auction) (slot : Slot) (hinit : g.init = .ok a) :
    ViewSynced ⟨a, a.initialVariables, a.initialTables, slot, g.blockNumber⟩ a.view := by
  have hempty : a.slots = (fun _ => {}) ∧ a.coordinators = (fun _ => {}) ∧
      a.defaultSlotSetBid = fun _ => initialMinimalBidding := by
    obtain ⟨-, hinit⟩ := Auction.auctionRequire_bind_ok.mp hinit
    obtain ⟨-, hinit⟩ := Auction.auctionRequire_bind_ok.mp hinit
    cases hinit
    exact ⟨rfl, rfl, rfl⟩
  obtain ⟨hslots, hcoordinators, hdefault⟩ := hempty
  refine ⟨Auction.view_tracks _ _, ⟨?_, ?_, ?_, ?_, ?_⟩, ⟨rfl, rfl, hdefault.symm⟩, ⟨⟨_, rfl, rfl, rfl⟩, ?_, ?_⟩⟩
  · intro slot
    simp [Auction.initialTables, Auction.view, hslots]
  · intro slot _
    simp [Auction.view, hslots]
  · intro bidder hbidder
    have hne : ¬(0#160 = bidder) := hbidder ∘ Eq.symm
    simp [Auction.initialTables, Auction.view, hcoordinators, hne]
  · simp [Auction.view, hcoordinators]
  · intro row hmem
    cases hmem
  · intro slot _
    simp [Auction.view, hslots]
  · intro slot _
    refine ⟨a.initialVariables, ?_, ?_⟩
    · simp [Auction.initialTables, Auction.initialVariables]
    · simp [Auction.initialVariables, AuctionView.minBid, Auction.view, hslots, hdefault]

theorem slotNum_of_lt (h : sys.auction.genesisBlock < sys.nextBlock + blocksPerSlot) :
    sys.constants.slotNum sys.nextBlock = sys.nextSlotNumber := by
  rcases Nat.lt_or_ge sys.nextBlock sys.auction.genesisBlock with hbefore | hafter
  · have hzero : sys.nextSlotNumber = 0 := if_neg (Nat.not_le.mpr hbefore)
    rw [hzero, AuctionConstants.slotNum, constants]
    dsimp only
    rw [blocksPerSlot] at h ⊢
    rw [← Int.neg_sub, Int.neg_tdiv, Int.tdiv_eq_zero_of_lt (by omega) (by omega)]
    rfl
  · exact slotNum_nextBlock hafter

theorem ViewSynced.addBlock (h : sys.ViewSynced v) (hblocks : ∀ tx ∈ txs, tx.msg.blockNumber = sys.nextBlock)
    (hfits : sys.nextBlock < 2 ^ 63) :
    ∃ sys', sys.addBlock txs = .ok sys' ∧ ((∀ tx ∈ txs, tx.msg.sender ≠ 0) → sys.KeepsLastClosed txs →
      ∃ v', sys'.ViewSynced v') := by
  have hnumber := h.slotNumber
  have hfollows := AuctionView.follows_runBlock (hnumber.symm ▸ h.tracks) hblocks (by omega)
  have hregisters := @Auction.runBlock_registers sys.auction txs
  rw [KeepsLastClosed, ForgingSystem.addBlock]
  rw [hnumber] at hfollows
  generalize sys.auction.runBlock txs = result at hfollows hregisters ⊢
  obtain ⟨auction, events⟩ := result
  obtain ⟨haccepts, htracks⟩ := hfollows
  obtain ⟨vars', data, hsync, hvars', hslotNum, hbids, hcoordinators, hrow⟩ :=
    auctionSync_ok sys.constants sys.nextBlock h.vars haccepts
  have hgenesis : auction.genesisBlock = sys.auction.genesisBlock := by
    rw [← htracks.genesisBlock, AuctionView.foldl_record_genesisBlock, h.tracks.genesisBlock]
  dsimp only
  rw [hsync]
  refine ⟨_, rfl, fun hsenders hkeeps => ⟨_, htracks.mono (getSlotNumber_mono hgenesis _), ?_, hvars', ?_⟩⟩
  · rw [AuctionTables.addAuctionData, hbids, hcoordinators, ← List.append_assoc]
    exact (h.rows.foldl haccepts (hregisters hsenders)).bootCoordinators _
  · refine @MinBidsSynced.mono _ _ _ sys.nextSlotNumber ?_ _ (getSlotNumber_mono hgenesis _)
    rw [AuctionTables.addAuctionData, hrow]
    dsimp only
    cases hchanges : events.any AuctionEvent.changesDefault with
    | false =>
      obtain ⟨hclosed, hdefault⟩ := @AuctionView.foldl_record_minBids v sys.nextBlock _ hchanges
      rw [hchanges] at hslotNum
      refine h.minBids.append_same hclosed hdefault ?_ hslotNum _
      rw [hvars'.defaultSlotSetBid, hdefault, h.vars.defaultSlotSetBid]
    | true =>
      obtain ⟨event, hmem, hevent⟩ := List.any_eq_true.mp hchanges
      cases event with
      | newDefaultSlotSetBid slotSet newInitialMinBid =>
        obtain ⟨-, hclosed, hmono, hnear⟩ := hkeeps slotSet newInitialMinBid hmem
        obtain ⟨hkept, hminBid, hsaved, hdefault⟩ := AuctionView.foldl_record_changes haccepts hclosed
        have hlast : v.slotNumber sys.nextBlock + v.closedAuctionSlots.toNat = sys.lastClosedSlot := by
          rw [hnumber, h.tracks.closedAuctionSlots, lastClosedSlot]
        rw [hlast] at hsaved
        have hupdates : events.any AuctionEvent.updatesVars = true := List.any_eq_true.mpr ⟨_, hmem, rfl⟩
        rw [if_pos hupdates, Option.toList_some]
        have hfirst : sys.nextSlotNumber ≤ sys.lastClosedSlot := Nat.le_add_right _ _
        refine h.minBids.append_changed h.vars.defaultSlotSetBid hvars'.defaultSlotSetBid hfirst ?_ hmono ?_ hsaved ?_
        · rw [hslotNum, if_pos hchanges, hkept, slotNum_of_lt hnear, ← hlast, hnumber]
          push_cast
          rfl
        · exact fun slot hfirst hle => hminBid slot (hnumber ▸ hfirst) (hlast ▸ hle)
        · refine hdefault _ fun slotSet' newInitialMinBid' hmem' => ?_
          exact (hkeeps slotSet' newInitialMinBid' hmem').1
      | _ => cases hevent

theorem FromInit.viewSynced (h : FromInit KeepsLastClosed sys) : ∃ v, sys.ViewSynced v := by
  induction h with
  | init g a slot hinit => exact ⟨a.view, viewSynced_init g a slot hinit⟩
  | block sys sys' txs hsys hkeeps hblocks hfits hsenders hadd ih =>
    obtain ⟨v, hv⟩ := ih
    obtain ⟨added, hadded, hsynced⟩ := hv.addBlock hblocks hfits
    cases hadd.symm.trans hadded
    exact hsynced hsenders hkeeps

/-! ### Winners -/

theorem ViewSynced.bestBid (h : sys.ViewSynced v) (slot : Nat) :
    ((sys.db.bids.filter fun row => row.slotNum = (slot : Int) ∧ (sys.db.coordinatorOf row.bidder).isSome).getLast?.map
      fun row => (row.bidder, row.bidValue)) = if (v.bids slot).2 = 0 then none else some (v.bids slot) := by
  rw [← h.rows.highest slot]
  refine congrArg (fun rows => (List.getLast? rows).map _) (List.filter_congr fun row hmem => ?_)
  obtain ⟨-, coordinator, hcoordinator, hsame⟩ := h.rows.registered row hmem
  have hsome : (sys.db.coordinatorOf row.bidder).isSome := by
    rw [AuctionTables.coordinatorOf, List.getLast?_isSome]
    exact List.ne_nil_of_mem (List.mem_filter.mpr ⟨hcoordinator, decide_eq_true hsame⟩)
  simp [hsome]

theorem slotSet_natCast (slot : Nat) : Fin.ofNat 6 (((slot : Int).tmod 6).toNat) = Auction.getSlotSet slot := by
  rw [show ((slot : Int).tmod 6).toNat = slot % 6 from rfl, Auction.getSlotSet]
  exact Fin.ext (Nat.mod_mod slot 6)

theorem ViewSynced.forger (h : sys.ViewSynced v) (hslot : sys.nextSlotNumber ≤ slot) (s : Slot)
    (hnum : s.slotNum = slot) : (setSlotCoordinator sys.vars sys.db s).forger = sys.auction.winner slot := by
  have hbest := h.bestBid slot
  have hbid := (h.tracks.slots slot).bids
  have hboot : sys.vars.bootCoordinator = sys.auction.bootCoordinator :=
    h.vars.bootCoordinator.trans h.tracks.bootCoordinator
  rw [setSlotCoordinator, AuctionTables.getBestBidCoordinator, hnum, Auction.winner]
  cases hlast : (sys.db.bids.filter fun row =>
      row.slotNum = (slot : Int) ∧ (sys.db.coordinatorOf row.bidder).isSome).getLast? with
  | none =>
    have hzero : (sys.auction.slots slot).bidAmount = 0 := by
      by_contra hne
      rw [hlast, hbid, if_neg hne] at hbest
      cases hbest
    rw [if_neg (fun hwin => hwin.1 hzero)]
    exact hboot
  | some row =>
    have hpos : (sys.auction.slots slot).bidAmount ≠ 0 := by
      intro hzero
      rw [hlast, hbid, if_pos hzero] at hbest
      cases hbest
    rw [hlast, hbid, if_neg hpos] at hbest
    obtain ⟨hbidder, hvalue⟩ := Prod.mk.inj (Option.some.inj hbest)
    obtain ⟨hmem, hrow⟩ := List.mem_filter.mp (List.mem_of_getLast? hlast)
    obtain ⟨coordinator, hcoordinator⟩ := Option.isSome_iff_exists.mp (of_decide_eq_true hrow).2
    have hforger := h.rows.forgers row.bidder (h.rows.registered row hmem).1
    rw [← AuctionTables.coordinatorOf, hcoordinator, h.tracks.coordinators, hbidder] at hforger
    obtain ⟨vars, hvars, hminBid⟩ := h.minBids.minBid slot hslot
    rw [h.tracks.minBid hslot] at hminBid
    rw [← AuctionTables.varsForSlot] at hvars
    simp only [hcoordinator, hvars, Option.pure_def, Option.bind_eq_bind, Option.bind_some, slotSet_natCast,
      hminBid, hvalue]
    by_cases hwin : sys.auction.minBid slot ≤ (sys.auction.slots slot).bidAmount
    · rw [if_pos hwin, if_pos ⟨hpos, hwin⟩]
      exact hforger
    · rw [if_neg hwin, if_neg (fun hboth => hwin hboth.2)]
      exact hboot

theorem relativeBlock_of_slot {a : Auction} {block : Nat} (hfits : block < 2 ^ 128) (hgenesis : a.genesisBlock ≤ block)
    (hslot : a.getSlotNumber block = slot) :
    a.relativeBlock block slot = .ok (block - (slot * blocksPerSlot + a.genesisBlock)) := by
  have hle : slot * blocksPerSlot + a.genesisBlock ≤ block := by
    rw [← hslot, Auction.getSlotNumber, if_pos hgenesis]
    have := Nat.div_mul_le_self (block - a.genesisBlock) blocksPerSlot
    omega
  have hmul : checked (SafeMath.mul 128 slot blocksPerSlot) = .ok (slot * blocksPerSlot) :=
    Auction.checked_ok.mpr (SafeMath.mul_ok.mpr ⟨by omega, rfl⟩)
  have hadd : checked (SafeMath.add 128 (slot * blocksPerSlot) a.genesisBlock) = .ok (slot * blocksPerSlot + a.genesisBlock) :=
    Auction.checked_ok.mpr (SafeMath.add_ok.mpr ⟨by omega, rfl⟩)
  have hsub : checked (SafeMath.sub block (slot * blocksPerSlot + a.genesisBlock)) =
      .ok (block - (slot * blocksPerSlot + a.genesisBlock)) :=
    Auction.checked_ok.mpr (SafeMath.sub_ok.mpr ⟨hle, rfl⟩)
  exact except_bind_ok.mpr ⟨_, hmul, except_bind_ok.mpr ⟨_, hadd, hsub⟩⟩

/-- Before the deadline the contract lets the winner of a slot forge and nobody else. -/
theorem ViewSynced.accepted (h : sys.ViewSynced v) {block : Nat} (hfits : block < 2 ^ 128)
    (hgenesis : sys.auction.genesisBlock ≤ block) (hslot : sys.auction.getSlotNumber block = slot)
    (hdeadline : block - (slot * blocksPerSlot + sys.auction.genesisBlock) < sys.auction.slotDeadline.toNat)
    {forger : Address} (hforger : forger ≠ 0) :
    sys.auction.canForge forger block = .ok (decide (forger = sys.auction.winner slot)) := by
  have hnoBid : (sys.auction.slots slot).bidAmount = 0 →
      (sys.auction.coordinators (sys.auction.slots slot).bidder).forger ≠ forger := by
    intro hzero
    have hbid := (h.tracks.slots slot).bids
    have hbidder := h.rows.noBid slot (by rw [hbid]; exact hzero)
    rw [hbid] at hbidder
    dsimp only at hbidder
    rw [hbidder, ← h.tracks.coordinators, h.rows.nobody]
    exact hforger.symm
  have hrelative := relativeBlock_of_slot hfits hgenesis hslot
  refine Auction.auctionRequire_bind_ok.mpr ⟨decide_eq_true hfits,
    Auction.auctionRequire_bind_ok.mpr ⟨decide_eq_true hgenesis, ?_⟩⟩
  dsimp only
  rw [hslot]
  refine except_bind_ok.mpr ⟨_, hrelative, ?_⟩
  rw [if_neg (fun hopen => Nat.not_le.mpr hdeadline hopen.2), Auction.winner]
  by_cases hwin : (sys.auction.slots slot).bidAmount ≠ 0 ∧ sys.auction.minBid slot ≤ (sys.auction.slots slot).bidAmount
  · have hboot : ¬((sys.auction.slots slot).bidAmount < sys.auction.minBid slot ∨ (sys.auction.slots slot).bidAmount = 0) := by
      omega
    simp only [hwin, and_true, if_true, ne_eq, not_false_eq_true, eq_comm (a := forger)]
    split <;> simp [*]
  · rw [if_neg hwin]
    have hbidder : ¬((sys.auction.coordinators (sys.auction.slots slot).bidder).forger = forger ∧
        sys.auction.minBid slot ≤ (sys.auction.slots slot).bidAmount) := by
      rintro ⟨hsame, hle⟩
      exact hwin ⟨fun hzero => hnoBid hzero hsame, hle⟩
    have hboot : (sys.auction.slots slot).bidAmount < sys.auction.minBid slot ∨ (sys.auction.slots slot).bidAmount = 0 := by
      omega
    rw [if_neg hbidder]
    simp only [hboot, and_true, eq_comm (a := forger)]
    split <;> simp [*]

theorem ViewSynced.winnerSynced (h : sys.ViewSynced v) (hslot : sys.nextSlotNumber ≤ slot) :
    sys.WinnerSynced slot :=
  ⟨fun s hnum => h.forger hslot s hnum, fun _ hfits hgenesis hnumber hdeadline _ hforger =>
    h.accepted hfits hgenesis hnumber hdeadline hforger⟩

end ForgingSystem

/-- **The node and the contract agree on the winners** of the slot of the next block and of the slot after
it, over every run in which no change of default bids touches the slot set of the last closed slot. -/
theorem slotWinners_synced {sys : ForgingSystem} (h : ForgingSystem.FromInit ForgingSystem.KeepsLastClosed sys) :
    sys.WinnersSynced := by
  obtain ⟨v, hv⟩ := h.viewSynced
  refine ⟨ForgingSystem.slotNum_nextBlock, hv.winnerSynced le_rfl, hv.winnerSynced (Nat.le_succ _), ?_⟩
  intro txs hblocks hfits
  obtain ⟨sys', hadd, -⟩ := hv.addBlock hblocks hfits
  exact ⟨sys', hadd⟩

/-! ### A change of the default of the last closed slot -/

namespace ForgingSystem

def start (g : Auction.Genesis) : Except String ForgingSystem := do
  let a ← g.init.mapError fun _ => "revert"
  return ⟨a, a.initialVariables, a.initialTables, {}, g.blockNumber⟩

theorem fromInit_start {allowed : ForgingSystem → List AuctionTx → Prop} {g : Auction.Genesis} (h : start g = .ok sys) :
    FromInit allowed sys := by
  obtain ⟨a, hmap, h⟩ := except_bind_ok.mp h
  cases h
  cases hinit : g.init with
  | error e =>
    rw [hinit] at hmap
    cases hmap
  | ok a' =>
    rw [hinit] at hmap
    cases hmap
    exact .init g a {} hinit

def addCalls (sys : ForgingSystem) (txs : List AuctionTx) : Except String ForgingSystem :=
  if txs.all (fun tx => tx.msg.blockNumber = sys.nextBlock ∧ tx.msg.sender ≠ 0) ∧ sys.nextBlock < 2 ^ 63 then sys.addBlock txs
  else .error "another block"

theorem FromInit.addCalls {allowed : ForgingSystem → List AuctionTx → Prop} (h : FromInit allowed sys)
    (hallowed : allowed sys txs) (hadd : sys.addCalls txs = .ok sys') : FromInit allowed sys' := by
  rw [ForgingSystem.addCalls] at hadd
  split at hadd
  next hcalls =>
    have hall := fun tx hmem => of_decide_eq_true (List.all_eq_true.mp hcalls.1 tx hmem)
    exact .block sys sys' txs h hallowed (fun tx hmem => (hall tx hmem).1) hcalls.2 (fun tx hmem => (hall tx hmem).2) hadd
  next => cases hadd

theorem FromInit.foldlM_addCalls (h : FromInit (fun _ _ => True) sys) {blocks : List (List AuctionTx)}
    (hadd : blocks.foldlM ForgingSystem.addCalls sys = .ok sys') : FromInit (fun _ _ => True) sys' :=
  foldlM_invariant (fun _ _ _ hprev hblock => hprev.addCalls trivial hblock) h hadd

def doubleSlotSet (blockNumber : Nat) (slotSet : BitVec 128) : AuctionTx :=
  { msg := { sender := 3, origin := 3, blockNumber := blockNumber },
    call := .changeDefaultSlotSetBid slotSet (BitVec.ofNat 128 (2 * 10 ^ 24)) }

/-- A coordinator bids for slot 3 in block 1, and the default of a slot set is doubled in block 41. -/
def doubledAfterBid (slotSet : BitVec 128) : List (List AuctionTx) :=
  let bid := firstBid.map fun tx => { tx with msg := { tx.msg with blockNumber := 1 } }
  [[], bid] ++ List.replicate 39 [] ++ [[doubleSlotSet 41 slotSet]] ++ List.replicate 39 []

/-- A test for `KeepsLastClosed`. -/
def keepsLastClosed (sys : ForgingSystem) (txs : List AuctionTx) : Bool :=
  (sys.auction.runBlock txs).2.all fun
    | .newDefaultSlotSetBid slotSet _ => slotSet ≠ sys.lastClosedSlot % 6 ∧
        sys.vars.defaultSlotSetBidSlotNum ≤ sys.lastClosedSlot ∧ sys.auction.genesisBlock < sys.nextBlock + blocksPerSlot
    | .newClosedAuctionSlots _ => false
    | _ => true

theorem keepsLastClosed_of_test {sys : ForgingSystem} {txs : List AuctionTx} (h : sys.keepsLastClosed txs = true) :
    sys.KeepsLastClosed txs := by
  rw [keepsLastClosed, List.all_eq_true] at h
  intro slotSet newInitialMinBid hmem
  obtain ⟨hset, hchange, hgenesis⟩ := of_decide_eq_true (h _ hmem)
  refine ⟨hset, fun _ hclosed => ?_, hchange, hgenesis⟩
  cases h _ hclosed

def addKept (sys : ForgingSystem) (txs : List AuctionTx) : Except String ForgingSystem :=
  if sys.keepsLastClosed txs then sys.addCalls txs else .error "the last closed slot"

theorem FromInit.foldlM_addKept (h : FromInit KeepsLastClosed sys) {blocks : List (List AuctionTx)}
    (hadd : blocks.foldlM ForgingSystem.addKept sys = .ok sys') : FromInit KeepsLastClosed sys' := by
  refine foldlM_invariant (fun _ _ _ hprev hblock => ?_) h hadd
  rw [addKept] at hblock
  split at hblock
  next hkept => exact hprev.addCalls (keepsLastClosed_of_test hkept) hblock
  next => cases hblock

end ForgingSystem

/-- In slot 1 the default of slot set 1 is doubled.  The bidder's forger wins slot 3. -/
theorem slotWinners_synced_bid :
    ∃ sys, (ForgingSystem.start ForgingSystem.lateGenesis >>=
        (ForgingSystem.doubledAfterBid 1).foldlM ForgingSystem.addKept) = .ok sys ∧
      sys.nextSlotNumber + 1 = 3 ∧ sys.vars.defaultSlotSetBid 1 = 2 * 10 ^ 24 ∧ sys.auction.winner 3 = 8 ∧
      sys.WinnersSynced := by
  have hrun : ((ForgingSystem.start ForgingSystem.lateGenesis >>=
      (ForgingSystem.doubledAfterBid 1).foldlM ForgingSystem.addKept).map fun sys =>
        (sys.nextSlotNumber + 1, sys.vars.defaultSlotSetBid 1, sys.auction.winner 3)) = .ok (3, 2 * 10 ^ 24, 8) := by
    decide +kernel
  obtain ⟨sys, hsys, hvalues⟩ := exists_of_map_ok hrun
  simp only [Prod.mk.injEq] at hvalues
  obtain ⟨start, hstart, hblocks⟩ := except_bind_ok.mp hsys
  have hreached := (ForgingSystem.fromInit_start hstart).foldlM_addKept hblocks
  exact ⟨sys, hsys, hvalues.1, hvalues.2.1, hvalues.2.2, slotWinners_synced hreached⟩

/-- In slot 1 the default of slot set 3 is raised above a bid for slot 3, which is the last closed slot.
The contract has saved the minimum bid of slot 3 and lets the bidder's forger forge there; the node
assigns the slot to the boot coordinator. -/
theorem lastClosedSlot_winnersDiffer :
    ∃ sys, ForgingSystem.FromInit (fun _ _ => True) sys ∧ sys.nextBlock = 81 ∧ sys.nextSlotNumber + 1 = 3 ∧
      (setSlotCoordinator sys.vars sys.db { slotNum := 3 }).forger = 5 ∧ sys.auction.winner 3 = 8 ∧
      sys.auction.canForge 8 121 = .ok true ∧ sys.auction.canForge 5 121 = .ok false := by
  have hrun : ((ForgingSystem.start ForgingSystem.lateGenesis >>=
      (ForgingSystem.doubledAfterBid 3).foldlM ForgingSystem.addCalls).map fun sys =>
      (sys.nextBlock, sys.nextSlotNumber, (setSlotCoordinator sys.vars sys.db { slotNum := 3 }).forger,
        sys.auction.winner 3,
        decide (sys.auction.canForge 8 121 = .ok true ∧ sys.auction.canForge 5 121 = .ok false))) = .ok (81, 2, 5, 8, true) := by
    decide +kernel
  obtain ⟨sys, hsys, hvalues⟩ := exists_of_map_ok hrun
  simp only [Prod.mk.injEq, decide_eq_true_eq] at hvalues
  obtain ⟨hnext, hslot, hvalues⟩ := hvalues
  obtain ⟨start, hstart, hblocks⟩ := except_bind_ok.mp hsys
  refine ⟨sys, (ForgingSystem.fromInit_start hstart).foldlM_addCalls hblocks, hnext, ?_, hvalues⟩
  rw [hslot]

end HermezRollup
