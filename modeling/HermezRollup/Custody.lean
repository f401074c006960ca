import HermezRollup.FinmapTotal
import HermezRollup.L1Queue
import HermezRollup.WithdrawProof

/-! Custody of funds.  What the contract holds of each token covers what it owes: the balances of the
accounts in the last forged state, the exits not yet withdrawn, and the deposits in queues not yet
forged.  The contract sees neither accounts nor exits, only the roots of their trees; a run therefore
carries the accounts and exits along, and a batch brings the ones its proof is about. -/

namespace HermezRollup

open Bytes Fallible

/-! ### Trees of accounts -/

/-- A leaf of the state tree or of an exit tree. -/
structure TreeLeaf where
  tokenID : TokenID
  nonce : BitVec 48
  balance : BitVec 192
  ay : BitVec 256
  ethAddr : Address

/-- The accounts of a state, or the exits of a batch, by index. -/
abbrev Ledger := Finmap fun _ : Nat => TreeLeaf

section Trees

variable [Libraries]

def TreeLeaf.value (leaf : TreeLeaf) : Nat :=
  Libraries.poseidon
    (Hermez.buildTreeState leaf.tokenID leaf.nonce (leaf.balance.setWidth 256) leaf.ay leaf.ethAddr)

/-- The root of the tree of a ledger; indexes have 48 bits. -/
def Ledger.root (ledger : Ledger) : Nat :=
  (SparseMerkle.build 48 0 (ledger.sortedEntries.map fun entry => (entry.1, entry.2.value))).hash treeHashing

theorem Ledger.root_empty : Ledger.root ∅ = 0 := by
  simp [Ledger.root, Finmap.sortedEntries_empty, SparseMerkle.build, SparseMerkle.Tree.hash, treeHashing]

end Trees

namespace Ledger

def balance (ledger : Ledger) (tokenID : TokenID) : Nat :=
  ledger.total fun _ leaf => if leaf.tokenID = tokenID then leaf.balance.toNat else 0

/-- What the leaves of a token that are not nullified add up to. -/
def unpaid (ledger : Ledger) (nullifier : BitVec 48 → Bool) (tokenID : TokenID) : Nat :=
  ledger.total fun idx leaf =>
    if leaf.tokenID = tokenID ∧ nullifier (BitVec.ofNat 48 idx) = false then leaf.balance.toNat else 0

end Ledger

/-! ### What the contract owes -/

def l1TxLoad (tokenID : TokenID) (l1Tx : Bytes) : Nat :=
  if BitVec.ofNat 32 (natOfBytesBE (slice l1Tx 68 72)) = tokenID then
    float2Fix (BitVec.ofNat 40 (natOfBytesBE (slice l1Tx 58 63)))
  else 0

def queueLoad (tokenID : TokenID) (queue : Bytes) : Nat :=
  ((queueTxs queue).map (l1TxLoad tokenID)).sum

/-- A payment for an exit: what a call reports as withdrawn, and what it transferred.  A payment that is not direct is
a deposit for the recipient in the withdrawal delayer. -/
structure Payment where
  numExitRoot : BitVec 32
  idx : BitVec 48
  instantWithdraw : Bool
  token : Address
  recipient : Address
  amount : Nat
  direct : Bool
  deriving DecidableEq

def Event.payment (numExitRoot : BitVec 32) (idx : BitVec 48) (instantWithdraw : Bool) : Event → Option Payment
  | .transfer token recipient value => some ⟨numExitRoot, idx, instantWithdraw, token, recipient, value, true⟩
  | .delayerDeposit owner token amount => some ⟨numExitRoot, idx, instantWithdraw, token, owner, amount, false⟩
  | _ => none

/-- The payments of a call: all that it transferred, for each exit it reports. -/
def paymentsOf (events : List Event) : List Payment :=
  events.flatMap fun
    | .withdraw idx numExitRoot instantWithdraw => events.filterMap (Event.payment numExitRoot idx instantWithdraw)
    | _ => []

theorem paymentsOf_payout (token owner : Address) (amount : Nat) (instantWithdraw : Bool) (idx : BitVec 48)
    (numExitRoot : BitVec 32) :
    paymentsOf [Hermez.payout token owner amount instantWithdraw, .withdraw idx numExitRoot instantWithdraw] =
      [⟨numExitRoot, idx, instantWithdraw, token, owner, amount, instantWithdraw⟩] := by
  cases instantWithdraw <;> rfl

/-- The contract with the accounts of the last forged state, the exits of each batch, and the payments
made so far. -/
structure Custody where
  hermez : Hermez
  accounts : Ledger
  exits : BitVec 32 → Ledger
  payments : List Payment

namespace Custody

def start (rollupVerifiers : List VerifierRollup) (forgeL1L2BatchTimeout : BitVec 8) : Custody where
  hermez := Hermez.initializeHermez rollupVerifiers forgeL1L2BatchTimeout
  accounts := ∅
  exits := fun _ => ∅
  payments := []

def unpaidExits (c : Custody) (tokenID : TokenID) : Nat :=
  ∑ batch : BitVec 32, (c.exits batch).unpaid (c.hermez.exitNullifierMap batch) tokenID

def queuedLoad (c : Custody) (tokenID : TokenID) : Nat :=
  ∑ queueIndex : BitVec 32, queueLoad tokenID (c.hermez.mapL1TxQueue queueIndex)

def obligations (c : Custody) (tokenID : TokenID) : Nat :=
  c.accounts.balance tokenID + c.unpaidExits tokenID + c.queuedLoad tokenID

section Step

variable [Libraries]

/-- What an accepted proof of a batch shows: the new roots are those of some accounts and exits, and per
token these add up to at most the old accounts and the deposits the batch includes. -/
structure ProvenBatch (c : Custody) (args : Hermez.ForgeBatchArgs) (accounts exits : Ledger) : Prop where
  stateRoot : args.newStRoot = accounts.root
  exitRoot : args.newExitRoot = exits.root
  conserves : ∀ tokenID, accounts.balance tokenID + exits.balance tokenID ≤ c.accounts.balance tokenID +
    if args.l1Batch then queueLoad tokenID (c.hermez.mapL1TxQueue c.hermez.nextL1ToForgeQueue) else 0

/-- What an accepted proof of the withdrawal circuit shows: the exit tree has the leaf withdrawn. -/
def ProvenWithdrawal (c : Custody) (tx : Transaction) : Prop :=
  ∀ proof tokenID amount numExitRoot idx instantWithdraw,
    tx.call = .withdrawCircuit proof tokenID amount numExitRoot idx instantWithdraw →
      ∃ leaf, (c.exits numExitRoot).lookup idx.toNat = some leaf ∧ leaf.tokenID = tokenID ∧
        leaf.balance = amount ∧ leaf.ethAddr = tx.msg.sender

/-- One call, with the two kinds of proofs accepted only for what they claim. -/
inductive Step (c : Custody) (tx : Transaction) : Custody → Prop
  | reverted (message : String) (hexec : c.hermez.exec tx = .error message) : Step c tx c
  | forged (args : Hermez.ForgeBatchArgs) (s' : Hermez) (events : List Event) (accounts exits : Ledger)
      (hcall : tx.call = .forgeBatch args) (hexec : c.hermez.exec tx = .ok (s', events))
      (hproof : c.ProvenBatch args accounts exits) :
      Step c tx ⟨s', accounts, Function.update c.exits s'.lastForgedBatch exits, c.payments ++ paymentsOf events⟩
  | called (s' : Hermez) (events : List Event) (hcall : ∀ args, tx.call ≠ .forgeBatch args)
      (hexec : c.hermez.exec tx = .ok (s', events)) (hproof : c.ProvenWithdrawal tx) :
      Step c tx ⟨s', c.accounts, c.exits, c.payments ++ paymentsOf events⟩

def Reachable (rollupVerifiers : List VerifierRollup) (forgeL1L2BatchTimeout : BitVec 8) : Custody → Prop :=
  Relation.ReflTransGen (fun c c' => ∃ tx, Step c tx c') (start rollupVerifiers forgeL1L2BatchTimeout)

end Step

end Custody

/-! ### Leaves and proofs -/

variable {tokenID : TokenID}

section Trees

variable [Libraries]

/-- The value of a leaf determines its token, its balance and its owner. -/
theorem TreeLeaf.eq_of_value {leaf : TreeLeaf} (hfree : PoseidonCollisionFree) {amount : BitVec 192}
    {ay : BitVec 256} {sender : Address}
    (h : leaf.value = Libraries.poseidon (Hermez.buildTreeState tokenID 0 (amount.setWidth 256) ay sender)) :
    leaf.tokenID = tokenID ∧ leaf.balance = amount ∧ leaf.ethAddr = sender := by
  rw [TreeLeaf.value, Hermez.buildTreeState_eq, Hermez.buildTreeState_eq] at h
  have hlists := hfree.inj (by simp) (by simp) (by simp) (by simp) h
  simp only [List.cons.injEq, and_true] at hlists
  obtain ⟨hfirst, hbalance, -, haddr⟩ := hlists
  have htoken := leaf.tokenID.isLt
  have htoken' := tokenID.isLt
  refine ⟨BitVec.eq_of_toNat_eq ?_, BitVec.eq_of_toNat_eq ?_, BitVec.eq_of_toNat_eq haddr⟩
  · omega
  · have hleaf := leaf.balance.isLt
    have hamount := amount.isLt
    rw [BitVec.toNat_setWidth, BitVec.toNat_setWidth] at hbalance
    omega

theorem Ledger.lookup_of_smtVerifier (hfree : PoseidonCollisionFree) {ledger : Ledger} {siblings : List Nat}
    {idx value : Nat} (h : Hermez.smtVerifier ledger.root siblings idx value = true) :
    ∃ leaf, ledger.lookup idx = some leaf ∧ leaf.value = value := by
  have hclimb := ((smtVerifier_iff _ _ _ _).mp h).symm
  have hleaf := SparseMerkle.leafAt_of_climb (treeHashing_collisionFree hfree) hclimb
  obtain ⟨⟨key, leaf⟩, hmem, heq⟩ := List.mem_map.mp (SparseMerkle.mem_of_leafAt_build hleaf)
  cases heq
  exact ⟨leaf, Finmap.mem_sortedEntries.mp hmem, rfl⟩

end Trees

/-! ### How obligations change -/

theorem l1TxLoad_encodePacked (tokenID : TokenID) (args : L1UserTxArgs) :
    l1TxLoad tokenID args.encodePacked = if args.tokenID = tokenID then float2Fix args.loadAmountF else 0 := by
  have htoken : BitVec.ofNat 32 (natOfBytesBE (slice args.encodePacked 68 72)) = args.tokenID := by
    rw [L1UserTxArgs.encodePacked]
    simp (disch := simp) only [slice_append_left, slice_append_end]
    rw [natOfBytesBE_bytesBE_of_lt args.tokenID.isLt, BitVec.ofNat_toNat, BitVec.setWidth_eq]
  have hload : BitVec.ofNat 40 (natOfBytesBE (slice args.encodePacked 58 63)) = args.loadAmountF := by
    rw [L1UserTxArgs.encodePacked]
    simp (disch := simp) only [slice_append_left, slice_append_end]
    rw [natOfBytesBE_bytesBE_of_lt args.loadAmountF.isLt, BitVec.ofNat_toNat, BitVec.setWidth_eq]
  rw [l1TxLoad, htoken, hload]

theorem queueLoad_append {queue l1Tx : Bytes} (hqueue : rollupConstL1UserTotalBytes ∣ queue.length)
    (hl1Tx : l1Tx.length = rollupConstL1UserTotalBytes) (tokenID : TokenID) :
    queueLoad tokenID (queue ++ l1Tx) = queueLoad tokenID queue + l1TxLoad tokenID l1Tx := by
  rw [queueLoad, queueTxs_append hqueue hl1Tx, List.map_append, List.sum_append, queueLoad, List.map_singleton,
    List.sum_singleton]

@[simp] theorem queueLoad_nil (tokenID : TokenID) : queueLoad tokenID [] = 0 := by
  simp [queueLoad]

theorem Ledger.unpaid_le_balance (ledger : Ledger) (nullifier : BitVec 48 → Bool) (tokenID : TokenID) :
    ledger.unpaid nullifier tokenID ≤ ledger.balance tokenID := by
  apply Finmap.total_le_total
  intro idx leaf
  split_ifs with h1 h2 h2
  · exact Nat.le_refl _
  · exact absurd h1.1 h2
  · exact Nat.zero_le _
  · exact Nat.le_refl _

theorem Ledger.unpaid_nullify {ledger : Ledger} {nullifier : BitVec 48 → Bool} {idx : BitVec 48} {leaf : TreeLeaf}
    (hleaf : ledger.lookup idx.toNat = some leaf) (hunused : nullifier idx = false) (tokenID : TokenID) :
    ledger.unpaid (Function.update nullifier idx true) tokenID +
        (if leaf.tokenID = tokenID then leaf.balance.toNat else 0) ≤ ledger.unpaid nullifier tokenID := by
  have hidx : BitVec.ofNat 48 idx.toNat = idx := by
    rw [BitVec.ofNat_toNat, BitVec.setWidth_eq]
  refine Finmap.total_add_le_total (fun other otherLeaf => ?_) hleaf ?_
  · rcases eq_or_ne (BitVec.ofNat 48 other) idx with hsame | hne
    · rw [hsame, Function.update_self, if_neg (by simp)]
      exact Nat.zero_le _
    · rw [Function.update_of_ne hne]
  · rw [hidx, Function.update_self, if_neg (by simp), Nat.zero_add, hunused]
    simp

/-- What the contract holds of a token; nothing of one that is not registered. -/
def Hermez.held (s : Hermez) (tokenID : TokenID) : Nat :=
  (s.tokenList[tokenID.toNat]?).elim 0 s.balanceOf

theorem Hermez.held_deposited {s : Hermez} {loadAmount : Nat} {balanceOf : Address → Nat}
    (hdeposited : Deposited s tokenID loadAmount balanceOf) (hether : s.tokenList[0]? = some 0)
    (hregistered : tokenID.toNat < s.tokenList.length) (other : TokenID) :
    s.held other + (if tokenID = other then loadAmount else 0) ≤ ({ s with balanceOf := balanceOf } : Hermez).held other := by
  rw [held, held]
  split
  next heq =>
    subst heq
    rw [List.getElem?_eq_getElem hregistered]
    by_cases hzero : tokenID = 0
    · subst hzero
      have htoken : s.tokenList[(0 : TokenID).toNat] = 0 := by
        have := List.getElem?_eq_getElem hregistered
        exact Option.some.inj (this.symm.trans hether)
      rw [htoken]
      exact hdeposited.ether rfl
    · exact hdeposited.token hzero _ (List.getElem?_eq_getElem hregistered)
  next hne =>
    cases s.tokenList[other.toNat]? with
    | none => exact Nat.le_refl _
    | some token => exact hdeposited.mono token

theorem Hermez.held_paid {s : Hermez} (hnodup : s.tokenList.Nodup) {token : Address}
    (htoken : s.tokenList[tokenID.toNat]? = some token) {amount : Nat} (hfunds : amount ≤ s.balanceOf token)
    (other : TokenID) :
    s.held other ≤ (s.spend token amount).held other + if tokenID = other then amount else 0 := by
  rw [held, held, spend]
  cases hother : s.tokenList[other.toNat]? with
  | none => exact Nat.zero_le _
  | some otherToken =>
    dsimp only [Option.elim_some]
    rcases eq_or_ne otherToken token with rfl | hne
    · -- the list has no duplicates, so this is the token paid
      have hsame : tokenID = other := by
        have hlt := (List.getElem?_eq_some_iff.mp htoken).1
        exact BitVec.eq_of_toNat_eq ((List.getElem?_inj hlt hnodup).mp (htoken.trans hother.symm))
      rw [if_pos hsame, Function.update_self]
      omega
    · rw [Function.update_of_ne hne]
      exact Nat.le_add_right _ _

/-! ### The invariant of custody -/

namespace Custody

variable [Libraries]

structure Invariant (c : Custody) : Prop where
  solvent : ∀ tokenID, c.obligations tokenID ≤ c.hermez.held tokenID
  exitRoots : ∀ batch, c.hermez.exitRootsMap batch = (c.exits batch).root
  stateRoot : c.hermez.stateRootMap c.hermez.lastForgedBatch = c.accounts.root
  aligned : ∀ queueIndex, rollupConstL1UserTotalBytes ∣ (c.hermez.mapL1TxQueue queueIndex).length
  ether : c.hermez.tokenList[0]? = some 0
  tokens : c.hermez.tokenList.Nodup
  registered : ∀ token ∈ c.hermez.tokenList, token = 0 ∨ c.hermez.tokenMap token ≠ 0
  paid : ∀ payment ∈ c.payments, c.hermez.exitNullifierMap payment.numExitRoot payment.idx = true
  paidOnce : (c.payments.map fun payment => (payment.numExitRoot, payment.idx)).Nodup

theorem invariant_start (rollupVerifiers : List VerifierRollup) (forgeL1L2BatchTimeout : BitVec 8) :
    (start rollupVerifiers forgeL1L2BatchTimeout).Invariant where
  solvent := by
    intro tokenID
    simp [obligations, start, Ledger.balance, unpaidExits, Ledger.unpaid, queuedLoad, Hermez.initializeHermez]
  exitRoots := fun _ => Ledger.root_empty.symm
  stateRoot := Ledger.root_empty.symm
  aligned := fun _ => Nat.dvd_zero _
  ether := rfl
  tokens := List.nodup_singleton _
  registered := fun token htoken => .inl (List.mem_singleton.mp htoken)
  paid := fun payment hpayment => by cases hpayment
  paidOnce := List.nodup_nil

variable {c : Custody} {tx : Transaction}

theorem Invariant.queued (hc : c.Invariant) {args : L1UserTxArgs} {balanceOf : Address → Nat}
    (htoken : args.tokenID.toNat < c.hermez.tokenList.length)
    (hdeposited : Deposited c.hermez args.tokenID (float2Fix args.loadAmountF) balanceOf) (sender : Address) :
    Invariant { c with hermez := (({ c.hermez with balanceOf := balanceOf } : Hermez).l1QueueAddTx
      { args with ethAddress := sender }).1 } := by
  rw [Hermez.l1QueueAddTx_fst]
  refine ⟨?_, hc.exitRoots, hc.stateRoot, ?_, hc.ether, hc.tokens, hc.registered, hc.paid, hc.paidOnce⟩
  · intro tokenID
    have hheld := Hermez.held_deposited hdeposited hc.ether htoken tokenID
    have hload := BitVec.sum_apply_update (fun _ => queueLoad tokenID) c.hermez.mapL1TxQueue
      c.hermez.nextL1FillingQueue (c.hermez.mapL1TxQueue c.hermez.nextL1FillingQueue ++
        { args with ethAddress := sender }.encodePacked)
    rw [queueLoad_append (hc.aligned _) (L1UserTxArgs.length_encodePacked _), l1TxLoad_encodePacked] at hload
    have hsolvent := hc.solvent tokenID
    simp only [obligations, unpaidExits, queuedLoad, Hermez.held] at hsolvent hheld hload ⊢
    omega
  · intro queueIndex
    dsimp only
    rcases eq_or_ne queueIndex c.hermez.nextL1FillingQueue with rfl | hne
    · rw [Function.update_self, List.length_append, L1UserTxArgs.length_encodePacked]
      exact Nat.dvd_add (hc.aligned _) (dvd_refl _)
    · rw [Function.update_of_ne hne]
      exact hc.aligned _

theorem Invariant.forged (hc : c.Invariant) {args : Hermez.ForgeBatchArgs} {accounts exits : Ledger}
    (hproof : c.ProvenBatch args accounts exits) (msg : Msg) :
    Invariant
      { hermez := ((c.hermez.updateForged args).clearIfL1Batch msg args.l1Batch).1
        accounts := accounts
        exits := Function.update c.exits
          ((c.hermez.updateForged args).clearIfL1Batch msg args.l1Batch).1.lastForgedBatch exits
        payments := c.payments } := by
  rw [Hermez.clearIfL1Batch_fst]
  refine ⟨?_, ?_, ?_, ?_, hc.ether, hc.tokens, hc.registered, hc.paid, hc.paidOnce⟩
  · intro tokenID
    have hexits := BitVec.sum_apply_update
      (fun batch ledger => Ledger.unpaid ledger (c.hermez.exitNullifierMap batch) tokenID) c.exits
      (c.hermez.lastForgedBatch + 1) exits
    have hunpaid := exits.unpaid_le_balance (c.hermez.exitNullifierMap (c.hermez.lastForgedBatch + 1)) tokenID
    have hload := BitVec.sum_apply_update (fun _ => queueLoad tokenID) c.hermez.mapL1TxQueue
      c.hermez.nextL1ToForgeQueue []
    rw [queueLoad_nil] at hload
    have hconserves := hproof.conserves tokenID
    have hsolvent := hc.solvent tokenID
    simp only [obligations, unpaidExits, queuedLoad, Hermez.held, Hermez.updateForged] at hsolvent hexits ⊢
    cases hl1 : args.l1Batch with
    | true =>
      simp only [hl1, if_true] at hconserves ⊢
      omega
    | false =>
      simp only [hl1, Bool.false_eq_true, if_false] at hconserves ⊢
      omega
  · intro batch
    dsimp only [Hermez.updateForged]
    rcases eq_or_ne batch (c.hermez.lastForgedBatch + 1) with rfl | hne
    · rw [Function.update_self, Function.update_self, hproof.exitRoot]
    · rw [Function.update_of_ne hne, Function.update_of_ne hne, hc.exitRoots]
  · dsimp only [Hermez.updateForged]
    rw [Function.update_self, hproof.stateRoot]
  · intro queueIndex
    dsimp only [Hermez.updateForged]
    split
    · rcases eq_or_ne queueIndex c.hermez.nextL1ToForgeQueue with rfl | hne
      · rw [Function.update_self]
        exact Nat.dvd_zero _
      · rw [Function.update_of_ne hne]
        exact hc.aligned _
    · exact hc.aligned _

omit [Libraries] in
theorem nullifier_kept {nullifiers : BitVec 32 → BitVec 48 → Bool} {batch : BitVec 32} {idx : BitVec 48}
    (numExitRoot : BitVec 32) (other : BitVec 48) (hset : nullifiers batch idx = true) :
    Function.update nullifiers numExitRoot (Function.update (nullifiers numExitRoot) other true) batch idx = true := by
  rcases eq_or_ne batch numExitRoot with rfl | hne
  · rw [Function.update_self]
    rcases eq_or_ne idx other with rfl | hne
    · exact Function.update_self _ _ _
    · rwa [Function.update_of_ne hne]
  · rwa [Function.update_of_ne hne]

/-- An earlier payment for a leaf would have set its nullifier. -/
theorem Invariant.not_paid (hc : c.Invariant) {numExitRoot : BitVec 32} {idx : BitVec 48}
    (hunused : c.hermez.exitNullifierMap numExitRoot idx = false) :
    (numExitRoot, idx) ∉ c.payments.map fun payment => (payment.numExitRoot, payment.idx) := by
  intro hmem
  obtain ⟨payment, hpayment, hsame⟩ := List.mem_map.mp hmem
  have hpaid := hc.paid payment hpayment
  rw [(Prod.mk.inj hsame).1, (Prod.mk.inj hsame).2, hunused] at hpaid
  cases hpaid

theorem Invariant.withdrawn (hc : c.Invariant) {wd : Withdrawal} {token : Address} {leaf : TreeLeaf}
    (hleaf : (c.exits wd.numExitRoot).lookup wd.idx.toNat = some leaf) (hleafToken : leaf.tokenID = wd.tokenID)
    (hleafBalance : leaf.balance = wd.amount) (htoken : c.hermez.tokenList[wd.tokenID.toNat]? = some token)
    (hfunds : wd.amount.toNat ≤ c.hermez.balanceOf token)
    (hunused : c.hermez.exitNullifierMap wd.numExitRoot wd.idx = false) {payment : Payment}
    (hpayment : (payment.numExitRoot, payment.idx) = (wd.numExitRoot, wd.idx)) :
    Invariant
      { c with
        hermez := (c.hermez.setNullifier wd.numExitRoot wd.idx).spend token wd.amount.toNat
        payments := c.payments ++ [payment] } := by
  refine ⟨?_, hc.exitRoots, hc.stateRoot, hc.aligned, hc.ether, hc.tokens, hc.registered, ?_, ?_⟩
  · intro tokenID
    have hheld := Hermez.held_paid hc.tokens htoken hfunds tokenID
    have hleft := Ledger.unpaid_nullify hleaf hunused tokenID
    have hexits := BitVec.sum_apply_update (fun batch nullifier => (c.exits batch).unpaid nullifier tokenID)
      c.hermez.exitNullifierMap wd.numExitRoot
      (Function.update (c.hermez.exitNullifierMap wd.numExitRoot) wd.idx true)
    have hsolvent := hc.solvent tokenID
    rw [hleafToken, hleafBalance] at hleft
    simp only [obligations, unpaidExits, queuedLoad, Hermez.held, Hermez.spend, Hermez.setNullifier] at hsolvent hheld hexits ⊢
    omega
  · intro other hother
    dsimp only [Hermez.spend, Hermez.setNullifier]
    rcases List.mem_append.mp hother with hold | hnew
    · exact nullifier_kept _ _ (hc.paid other hold)
    · obtain rfl := List.mem_singleton.mp hnew
      rw [(Prod.mk.inj hpayment).1, (Prod.mk.inj hpayment).2, Function.update_self, Function.update_self]
  · rw [List.map_append, List.map_singleton]
    refine List.Nodup.append hc.paidOnce (List.nodup_singleton _) ?_
    rw [List.disjoint_singleton, hpayment]
    exact hc.not_paid hunused

theorem Invariant.tokenAdded (hc : c.Invariant) {tokenAddress : Address} (hne : tokenAddress ≠ 0)
    (hnew : c.hermez.tokenMap tokenAddress = 0) :
    Invariant
      { c with
        hermez :=
          { c.hermez with
            tokenList := c.hermez.tokenList ++ [tokenAddress]
            tokenMap := Function.update c.hermez.tokenMap tokenAddress c.hermez.tokenList.length } } := by
  refine ⟨?_, hc.exitRoots, hc.stateRoot, hc.aligned, ?_, ?_, ?_, hc.paid, hc.paidOnce⟩
  · intro tokenID
    refine (hc.solvent tokenID).trans ?_
    rw [Hermez.held, Hermez.held]
    cases htoken : c.hermez.tokenList[tokenID.toNat]? with
    | none => exact Nat.zero_le _
    | some token =>
      rw [List.getElem?_append_left (List.getElem?_eq_some_iff.mp htoken).1, htoken]
  · rw [List.getElem?_append_left (List.getElem?_eq_some_iff.mp hc.ether).1]
    exact hc.ether
  · refine List.Nodup.append hc.tokens (List.nodup_singleton _) ?_
    intro token hold hadded
    obtain rfl := List.mem_singleton.mp hadded
    rcases hc.registered token hold with hzero | hmapped
    · exact hne hzero
    · exact hmapped hnew
  · intro token htoken
    dsimp only at htoken ⊢
    have hpos : c.hermez.tokenList.length ≠ 0 := by
      have := (List.getElem?_eq_some_iff.mp hc.ether).1
      omega
    rcases eq_or_ne token tokenAddress with rfl | hother
    · rw [Function.update_self]
      exact .inr hpos
    · rw [Function.update_of_ne hother]
      rcases List.mem_append.mp htoken with hold | hadded
      · exact hc.registered token hold
      · exact absurd (List.mem_singleton.mp hadded) hother

theorem Invariant.leaf_of_proof (hc : c.Invariant) (hfree : PoseidonCollisionFree) {wd : Withdrawal}
    (hproof : Hermez.WithdrawalProof c.hermez tx wd) (hproven : c.ProvenWithdrawal tx) :
    ∃ leaf, (c.exits wd.numExitRoot).lookup wd.idx.toNat = some leaf ∧ leaf.tokenID = wd.tokenID ∧
      leaf.balance = wd.amount ∧ leaf.ethAddr = tx.msg.sender := by
  cases hproof with
  | merkle babyPubKey siblings hcall hsmt =>
    rw [hc.exitRoots] at hsmt
    obtain ⟨leaf, hleaf, hvalue⟩ := Ledger.lookup_of_smtVerifier hfree hsmt
    exact ⟨leaf, hleaf, TreeLeaf.eq_of_value hfree hvalue⟩
  | circuit proof hcall _ => exact hproven _ _ _ _ _ _ hcall

theorem Invariant.token_paidIn (hc : c.Invariant) {token : Address}
    (h : Hermez.PaidIn c.hermez tokenID token) : c.hermez.tokenList[tokenID.toNat]? = some token := by
  rcases h with hlisted | ⟨rfl, rfl⟩
  · exact hlisted
  · exact hc.ether

theorem Invariant.step (hc : c.Invariant) (hfree : PoseidonCollisionFree) {c' : Custody} (hstep : Step c tx c') :
    c'.Invariant := by
  cases hstep with
  | reverted => exact hc
  | forged args s' events accounts exits hcall hexec hproof =>
    obtain ⟨rfl, _, _, rfl⟩ := Hermez.exec_forgeBatch hcall hexec
    exact (List.append_nil c.payments).symm ▸ hc.forged hproof tx.msg
  | called s' events hnoForge hexec hproven =>
    cases Hermez.exec_step hexec with
    | forged args input hcall => exact absurd hcall (hnoForge args)
    | queued args balanceOf hcall htoken hload haccepted hdeposited =>
      rw [Hermez.l1QueueAddTx_snd]
      exact (List.append_nil c.payments).symm ▸ hc.queued htoken hdeposited tx.msg.sender
    | withdrawn wd token hproof htoken hfunds hunused =>
      obtain ⟨leaf, hleaf, hleafToken, hleafBalance, -⟩ := hc.leaf_of_proof hfree hproof hproven
      rw [paymentsOf_payout]
      exact hc.withdrawn hleaf hleafToken hleafBalance (hc.token_paidIn htoken) hfunds hunused rfl
    | tokenAdded tokenAddress hcall hroom hne hnew =>
      exact (List.append_nil c.payments).symm ▸ hc.tokenAdded hne hnew

theorem invariant_of_reachable (hfree : PoseidonCollisionFree) {rollupVerifiers : List VerifierRollup}
    {forgeL1L2BatchTimeout : BitVec 8} (hreach : Reachable rollupVerifiers forgeL1L2BatchTimeout c) : c.Invariant := by
  induction hreach with
  | refl => exact invariant_start rollupVerifiers forgeL1L2BatchTimeout
  | tail _ hstep ih =>
    obtain ⟨tx, hstep⟩ := hstep
    exact ih.step hfree hstep

/-- A payment for a leaf that was not paid before: in its token, in exactly its balance and to its owner, directly in an
instant withdrawal and through the delayer otherwise.  The contract is left with that much less of the token. -/
structure PaysLeaf (c : Custody) (payment : Payment) (c' : Custody) : Prop where
  leaf : ∃ leaf, (c.exits payment.numExitRoot).lookup payment.idx.toNat = some leaf ∧
    c.hermez.tokenList[leaf.tokenID.toNat]? = some payment.token ∧ payment.amount = leaf.balance.toNat ∧
    payment.recipient = leaf.ethAddr
  direct : payment.direct = payment.instantWithdraw
  unpaid : (payment.numExitRoot, payment.idx) ∉ c.payments.map fun earlier => (earlier.numExitRoot, earlier.idx)
  nullified : c'.hermez.exitNullifierMap =
    (c.hermez.setNullifier payment.numExitRoot payment.idx).exitNullifierMap
  balance : c'.hermez.balanceOf payment.token + payment.amount = c.hermez.balanceOf payment.token
  others : ∀ token ≠ payment.token, c'.hermez.balanceOf token = c.hermez.balanceOf token

/-- A step that nullifies no exit takes nothing from what the contract holds. -/
structure PaysNothing (c c' : Custody) : Prop where
  payments : c'.payments = c.payments
  nullified : c'.hermez.exitNullifierMap = c.hermez.exitNullifierMap
  balances : ∀ token, c.hermez.balanceOf token ≤ c'.hermez.balanceOf token

theorem Invariant.pays (hc : c.Invariant) (hfree : PoseidonCollisionFree) {c' : Custody} (hstep : Step c tx c') :
    PaysNothing c c' ∨ ∃ payment, c'.payments = c.payments ++ [payment] ∧ PaysLeaf c payment c' := by
  cases hstep with
  | reverted => exact .inl ⟨rfl, rfl, fun _ => Nat.le_refl _⟩
  | forged args s' events accounts exits hcall hexec =>
    obtain ⟨rfl, _, _, rfl⟩ := Hermez.exec_forgeBatch hcall hexec
    rw [Hermez.clearIfL1Batch_fst]
    exact .inl ⟨List.append_nil _, rfl, fun _ => Nat.le_refl _⟩
  | called s' events hnoForge hexec hproven =>
    cases Hermez.exec_step hexec with
    | forged args input hcall => exact absurd hcall (hnoForge args)
    | queued args balanceOf hcall htoken hload haccepted hdeposited =>
      rw [Hermez.l1QueueAddTx_fst, Hermez.l1QueueAddTx_snd]
      exact .inl ⟨List.append_nil _, rfl, hdeposited.mono⟩
    | tokenAdded => exact .inl ⟨List.append_nil _, rfl, fun _ => Nat.le_refl _⟩
    | withdrawn wd token hproof htoken hfunds hunused =>
      obtain ⟨leaf, hleaf, hleafToken, hleafBalance, howner⟩ := hc.leaf_of_proof hfree hproof hproven
      rw [paymentsOf_payout]
      refine .inr ⟨_, rfl, ⟨leaf, hleaf, ?_, by rw [hleafBalance], howner.symm⟩, rfl, hc.not_paid hunused, rfl, ?_,
        fun other hother => Function.update_of_ne hother _ _⟩
      · rw [hleafToken]
        exact hc.token_paidIn htoken
      · simp only [Hermez.spend, Hermez.setNullifier, Function.update_self]
        omega

end Custody

/-- What a run guarantees of the state it reaches: the contract holds what it owes of each registered
token, the accounts and exits are those of the forged roots, and every leaf is paid at most once. -/
structure Custody.Solvent [Libraries] (c : Custody) : Prop where
  covered : ∀ tokenID token, c.hermez.tokenList[tokenID.toNat]? = some token →
    c.accounts.balance tokenID + c.unpaidExits tokenID + c.queuedLoad tokenID ≤ c.hermez.balanceOf token
  stateRoot : c.accounts.root = c.hermez.stateRootMap c.hermez.lastForgedBatch
  exitRoots : ∀ batch, (c.exits batch).root = c.hermez.exitRootsMap batch
  paidOnce : (c.payments.map fun payment => (payment.numExitRoot, payment.idx)).Nodup
  pays : ∀ tx c', Custody.Step c tx c' →
    c.PaysNothing c' ∨ ∃ payment, c'.payments = c.payments ++ [payment] ∧ c.PaysLeaf payment c'

/-- **The contract is solvent** in every state that a run reaches. -/
theorem custody_solvent [Libraries] (hfree : PoseidonCollisionFree) (rollupVerifiers : List VerifierRollup)
    (forgeL1L2BatchTimeout : BitVec 8) (c : Custody)
    (hreach : Custody.Reachable rollupVerifiers forgeL1L2BatchTimeout c) : c.Solvent := by
  have hc := Custody.invariant_of_reachable hfree hreach
  refine ⟨fun tokenID token htoken => ?_, hc.stateRoot.symm, fun batch => (hc.exitRoots batch).symm, hc.paidOnce,
    fun tx c' hstep => hc.pays hfree hstep⟩
  have hsolvent := hc.solvent tokenID
  rwa [Hermez.held, htoken] at hsolvent

/-- A deposit of ten units of ether, a batch that forges it as an exit of ten units, and its withdrawal. -/
def depositCall : Transaction where
  world := openWorld
  msg := { sender := 7, origin := 7, value := 10 }
  call := .addL1Transaction { createAccountArgs with loadAmountF := 10 }

def exitLedger : Ledger :=
  Finmap.singleton 256 { tokenID := 0, nonce := 0, balance := 10, ay := 1, ethAddr := 7 }

def forgeExitTx : Transaction where
  world := openWorld
  msg := { sender := 7, origin := 7 }
  call := .forgeBatch
    { forgeEmptyArgs with newExitRoot := 155695165679751744520649631687301710656222841218008146533 }

def withdrawTx : Transaction where
  world := openWorld
  msg := { sender := 7, origin := 7 }
  call := .withdrawMerkleProof 0 10 1 2 [] 256 true

theorem exitLedger_root :
    155695165679751744520649631687301710656222841218008146533 = @Ledger.root plainLibraries exitLedger := by
  let := plainLibraries
  have hentries : exitLedger.sortedEntries =
      [(256, { tokenID := 0, nonce := 0, balance := 10, ay := 1, ethAddr := 7 })] := by
    rw [Finmap.sortedEntries, exitLedger, Finmap.keys_singleton, Finset.sort_singleton, List.filterMap_cons,
      Finmap.lookup_singleton_eq]
    rfl
  rw [Ledger.root, hentries]
  decide

def Hermez.after [Libraries] (s : Hermez) (tx : Transaction) : Hermez :=
  match s.exec tx with
  | .ok (s', _) => s'
  | .error _ => s

def Hermez.emitted [Libraries] (s : Hermez) (tx : Transaction) : List Event :=
  match s.exec tx with
  | .ok (_, events) => events
  | .error _ => []

theorem Hermez.exec_after [Libraries] (s : Hermez) (tx : Transaction) (h : (s.exec tx).isOk = true) :
    s.exec tx = .ok (s.after tx, s.emitted tx) := by
  rw [after, emitted]
  cases hexec : s.exec tx with
  | error => rw [hexec] at h; cases h
  | ok out => rfl

/-- The states after the deposit, after an empty L1 batch, and after the batch that forges the exit. -/
def depositedState : Hermez :=
  @Hermez.after plainLibraries (Hermez.initializeHermez [⟨1, 8⟩] 0) depositCall

def forgedState : Hermez :=
  @Hermez.after plainLibraries depositedState forgeEmptyTx

def exitedState : Hermez :=
  @Hermez.after plainLibraries forgedState forgeExitTx

theorem exitLedger_proven (exits : BitVec 32 → Ledger) (payments : List Payment) :
    @Custody.ProvenBatch plainLibraries ⟨forgedState, ∅, exits, payments⟩
      { forgeEmptyArgs with newExitRoot := 155695165679751744520649631687301710656222841218008146533 } ∅ exitLedger := by
  let := plainLibraries
  refine ⟨Ledger.root_empty.symm, exitLedger_root, fun tokenID => ?_⟩
  have hqueue : forgedState.mapL1TxQueue forgedState.nextL1ToForgeQueue =
      [] ++ { createAccountArgs with loadAmountF := 10 }.encodePacked := by decide
  have hload : queueLoad tokenID (forgedState.mapL1TxQueue forgedState.nextL1ToForgeQueue) =
      if (0 : TokenID) = tokenID then 10 else 0 := by
    rw [hqueue, queueLoad_append (Nat.dvd_zero _) (L1UserTxArgs.length_encodePacked _), l1TxLoad_encodePacked,
      queueLoad_nil, Nat.zero_add]
    exact if_congr Iff.rfl (by decide) rfl
  have hexits : exitLedger.balance tokenID = if (0 : TokenID) = tokenID then 10 else 0 := by
    rw [Ledger.balance, exitLedger, Finmap.total, Finmap.keys_singleton, Finset.sum_singleton,
      Finmap.lookup_singleton_eq]
    rfl
  change (∅ : Ledger).balance tokenID + exitLedger.balance tokenID ≤ (∅ : Ledger).balance tokenID +
    queueLoad tokenID (forgedState.mapL1TxQueue forgedState.nextL1ToForgeQueue)
  rw [hload, hexits]

def withdrawnCustody : Custody where
  hermez := @Hermez.after plainLibraries exitedState withdrawTx
  accounts := ∅
  exits := Function.update (Function.update (fun _ => ∅) forgedState.lastForgedBatch ∅) exitedState.lastForgedBatch
    exitLedger
  payments := [⟨2, 256, true, 0, 7, 10, true⟩]

theorem withdrawnCustody_reachable : @Custody.Reachable plainLibraries [⟨1, 8⟩] 0 withdrawnCustody := by
  let := plainLibraries
  have hdeposit := Hermez.exec_after (Hermez.initializeHermez [⟨1, 8⟩] 0) depositCall (by decide)
  have hforge := Hermez.exec_after depositedState forgeEmptyTx (by decide)
  have hexit := Hermez.exec_after forgedState forgeExitTx (by decide)
  have hwithdraw := Hermez.exec_after exitedState withdrawTx (by decide)
  have hempty : Custody.ProvenBatch ⟨depositedState, ∅, fun _ => ∅, []⟩ forgeEmptyArgs ∅ ∅ :=
    ⟨Ledger.root_empty.symm, Ledger.root_empty.symm, by simp [Ledger.balance]⟩
  have hdeposited := Custody.Step.called (c := Custody.start [⟨1, 8⟩] 0) _ _ (by simp [depositCall]) hdeposit
    (by simp [Custody.ProvenWithdrawal, depositCall])
  have hforged := Custody.Step.forged (c := ⟨depositedState, ∅, fun _ => ∅, []⟩) forgeEmptyArgs forgedState _ ∅ ∅ rfl
    hforge hempty
  have hexited := Custody.Step.forged (c := ⟨forgedState, ∅, _, []⟩) _ exitedState _ ∅ exitLedger rfl hexit
    (exitLedger_proven (Function.update (fun _ => ∅) forgedState.lastForgedBatch ∅) [])
  have hwithdrawn := Custody.Step.called (c := ⟨exitedState, ∅, withdrawnCustody.exits, []⟩) _ _
    (by simp [withdrawTx]) hwithdraw (by simp [Custody.ProvenWithdrawal, withdrawTx])
  rw [show paymentsOf (Hermez.emitted _ depositCall) = [] by decide] at hdeposited
  rw [show paymentsOf (depositedState.emitted forgeEmptyTx) = [] by decide] at hforged
  rw [show paymentsOf (forgedState.emitted forgeExitTx) = [] by decide] at hexited
  rw [show paymentsOf (exitedState.emitted withdrawTx) = withdrawnCustody.payments by decide] at hwithdrawn
  exact (((Relation.ReflTransGen.refl.tail ⟨_, hdeposited⟩).tail ⟨_, hforged⟩).tail ⟨_, hexited⟩).tail ⟨_, hwithdrawn⟩

theorem custody_solvent_withdrawal :
    withdrawnCustody.payments = [⟨2, 256, true, 0, 7, 10, true⟩] ∧ @Custody.Solvent plainLibraries withdrawnCustody :=
  ⟨rfl, @custody_solvent plainLibraries plainLibraries_collisionFree _ _ _ withdrawnCustody_reachable⟩

end HermezRollup
