import HermezRollup.ContractSteps
import HermezRollup.SafeMath
import HermezRollup.TokenBucket

/-! The instant withdrawals of the rollup contract (`InstantWithdrawManager.sol`).  A withdrawal that
skips the delay takes a credit from the bucket of its value in dollars; the six parameters of a bucket
are packed in one word.  A bucket of the contract is a token bucket, from the call that installs it to
the next one that replaces it, so the bounds on token buckets are bounds on what is paid without delay. -/

namespace HermezRollup

open Fallible

/-! ### Buckets -/

structure Bucket where
  ceilUSD : Nat
  blockStamp : Nat
  withdrawals : Nat
  rateBlocks : Nat
  rateWithdrawals : Nat
  maxWithdrawals : Nat
  deriving DecidableEq, Repr

namespace Bucket

def packBucket (b : Bucket) : BitVec 256 :=
  BitVec.ofNat 256 b.ceilUSD |||
    (BitVec.ofNat 256 b.blockStamp <<< 96) |||
    (BitVec.ofNat 256 b.withdrawals <<< 128) |||
    (BitVec.ofNat 256 b.rateBlocks <<< 160) |||
    (BitVec.ofNat 256 b.rateWithdrawals <<< 192) |||
    (BitVec.ofNat 256 b.maxWithdrawals <<< 224)

def unpackBucket (bucket : BitVec 256) : Bucket where
  ceilUSD := (bucket &&& 0xFFFFFFFFFFFFFFFFFFFFFFFF).toNat
  blockStamp := ((bucket >>> 96) &&& 0xFFFFFFFF).toNat
  withdrawals := ((bucket >>> 128) &&& 0xFFFFFFFF).toNat
  rateBlocks := ((bucket >>> 160) &&& 0xFFFFFFFF).toNat
  rateWithdrawals := ((bucket >>> 192) &&& 0xFFFFFFFF).toNat
  maxWithdrawals := ((bucket >>> 224) &&& 0xFFFFFFFF).toNat

structure Fits (b : Bucket) : Prop where
  ceilUSD : b.ceilUSD < 2 ^ 96
  blockStamp : b.blockStamp < 2 ^ 32
  withdrawals : b.withdrawals < 2 ^ 32
  rateBlocks : b.rateBlocks < 2 ^ 32
  rateWithdrawals : b.rateWithdrawals < 2 ^ 32
  maxWithdrawals : b.maxWithdrawals < 2 ^ 32

theorem toNat_and_mask (bucket : BitVec 256) (k n : Nat) (hn : n < 256) :
    ((bucket >>> k) &&& BitVec.ofNat 256 (2 ^ n - 1)).toNat = bucket.toNat / 2 ^ k % 2 ^ n := by
  have hmask : 2 ^ n - 1 < 2 ^ 256 := by
    have := Nat.pow_lt_pow_right (a := 2) (by decide) hn
    omega
  rw [BitVec.toNat_and, BitVec.toNat_ushiftRight, BitVec.toNat_ofNat, Nat.mod_eq_of_lt hmask,
    Nat.shiftRight_eq_div_pow, Nat.and_two_pow_sub_one_eq_mod]

theorem unpackBucket_eq (bucket : BitVec 256) :
    unpackBucket bucket =
      ⟨bucket.toNat % 2 ^ 96, bucket.toNat / 2 ^ 96 % 2 ^ 32, bucket.toNat / 2 ^ 128 % 2 ^ 32,
        bucket.toNat / 2 ^ 160 % 2 ^ 32, bucket.toNat / 2 ^ 192 % 2 ^ 32, bucket.toNat / 2 ^ 224 % 2 ^ 32⟩ := by
  have hceil : (bucket &&& 0xFFFFFFFFFFFFFFFFFFFFFFFF).toNat = bucket.toNat % 2 ^ 96 := by
    have h := toNat_and_mask bucket 0 96 (by decide)
    rwa [BitVec.ushiftRight_zero, Nat.pow_zero, Nat.div_one] at h
  rw [unpackBucket, Bucket.mk.injEq]
  exact ⟨hceil, toNat_and_mask bucket 96 32 (by decide), toNat_and_mask bucket 128 32 (by decide),
    toNat_and_mask bucket 160 32 (by decide), toNat_and_mask bucket 192 32 (by decide),
    toNat_and_mask bucket 224 32 (by decide)⟩

theorem unpackBucket_fits (bucket : BitVec 256) : (unpackBucket bucket).Fits := by
  rw [unpackBucket_eq]
  exact ⟨Nat.mod_lt _ (by decide), Nat.mod_lt _ (by decide), Nat.mod_lt _ (by decide),
    Nat.mod_lt _ (by decide), Nat.mod_lt _ (by decide), Nat.mod_lt _ (by decide)⟩

theorem toNat_or_shiftLeft {low : BitVec 256} (field k : Nat) (hlow : low.toNat < 2 ^ k)
    (hfield : field * 2 ^ k < 2 ^ 256) :
    (low ||| (BitVec.ofNat 256 field <<< k)).toNat = low.toNat + field * 2 ^ k := by
  have hsmall : field < 2 ^ 256 := lt_of_le_of_lt (Nat.le_mul_of_pos_right _ (Nat.two_pow_pos k)) hfield
  rw [BitVec.toNat_or, BitVec.toNat_shiftLeft, BitVec.toNat_ofNat, Nat.mod_eq_of_lt hsmall, Nat.shiftLeft_eq,
    Nat.mod_eq_of_lt hfield, Nat.or_comm, Nat.mul_comm, ← Nat.two_pow_add_eq_or_of_lt hlow, Nat.add_comm]

theorem toNat_packBucket {b : Bucket} (h : b.Fits) :
    b.packBucket.toNat = b.ceilUSD + b.blockStamp * 2 ^ 96 + b.withdrawals * 2 ^ 128 + b.rateBlocks * 2 ^ 160 +
      b.rateWithdrawals * 2 ^ 192 + b.maxWithdrawals * 2 ^ 224 := by
  obtain ⟨hceil, hstamp, hwithdrawals, hblocks, hrate, hmax⟩ := h
  have h₀ : (BitVec.ofNat 256 b.ceilUSD).toNat = b.ceilUSD := by
    rw [BitVec.toNat_ofNat]
    omega
  have h₁ := toNat_or_shiftLeft b.blockStamp 96 (h₀.trans_lt (by omega)) (by omega)
  have h₂ := toNat_or_shiftLeft b.withdrawals 128 (h₁.trans_lt (by omega)) (by omega)
  have h₃ := toNat_or_shiftLeft b.rateBlocks 160 (h₂.trans_lt (by omega)) (by omega)
  have h₄ := toNat_or_shiftLeft b.rateWithdrawals 192 (h₃.trans_lt (by omega)) (by omega)
  have h₅ := toNat_or_shiftLeft b.maxWithdrawals 224 (h₄.trans_lt (by omega)) (by omega)
  rw [packBucket, h₅, h₄, h₃, h₂, h₁, h₀]

theorem unpackBucket_packBucket {b : Bucket} (h : b.Fits) : unpackBucket b.packBucket = b := by
  rw [unpackBucket_eq, toNat_packBucket h]
  obtain ⟨hceil, hstamp, hwithdrawals, hblocks, hrate, hmax⟩ := h
  rw [show b = ⟨b.ceilUSD, b.blockStamp, b.withdrawals, b.rateBlocks, b.rateWithdrawals, b.maxWithdrawals⟩ from rfl,
    Bucket.mk.injEq]
  simp only
  refine ⟨?_, ?_, ?_, ?_, ?_, ?_⟩ <;> omega

def tokenBucket (b : Bucket) : TokenBucket where
  period := b.rateBlocks
  refill := b.rateWithdrawals
  capacity := b.maxWithdrawals
  credit := b.withdrawals
  stamp := b.blockStamp

end Bucket

/-! ### The manager -/

/-- What a static call of `decimals()` on a token gives. -/
inductive DecimalsAnswer where
  | failed
  | undecodable
  | value (decimals : BitVec 8)
  deriving DecidableEq, Repr

structure UpdateBucketWithdraw where
  numBucket : BitVec 8
  blockStamp : Nat
  withdrawals : Nat
  deriving DecidableEq, Repr

structure InstantWithdrawManager where
  nBuckets : Nat
  buckets : Nat → BitVec 256
  hermezGovernanceAddress : Address
  withdrawalDelay : BitVec 64
  tokenExchange : Address → BitVec 64

namespace Bucket

/-- The credits due at a block, with the checked arithmetic of the contract. -/
def update (b : Bucket) (blockNumber : Nat) : Except String Bucket := do
  let differenceBlocks ← SafeMath.sub blockNumber b.blockStamp
  let periods ← SafeMath.div differenceBlocks b.rateBlocks
  let added ← SafeMath.mul 256 periods b.rateWithdrawals
  let withdrawals ← SafeMath.add 256 b.withdrawals added
  if b.maxWithdrawals ≤ withdrawals then
    return { b with withdrawals := b.maxWithdrawals, blockStamp := blockNumber }
  else
    let elapsed ← SafeMath.mul 256 periods b.rateBlocks
    let blockStamp ← SafeMath.add 256 b.blockStamp elapsed
    return { b with withdrawals := withdrawals, blockStamp := blockStamp }

end Bucket

namespace InstantWithdrawManager

def maxBuckets : Nat := 5

def exchangeMultiplier : Nat := 10 ^ 10

def maxWithdrawalDelay : Nat := 2 * 7 * 24 * 60 * 60

def noCeil : Nat := 0xFFFFFFFFFFFFFFFFFFFFFFFF

def tokenDecimals (decimals : Address → DecimalsAnswer) (tokenAddress : Address) : Except String Nat :=
  if tokenAddress = 0 then .ok 18
  else match decimals tokenAddress with
    | .failed => .ok 0
    | .undecodable => .error ""
    | .value d => .ok d.toNat

/-- `_token2USD`.  The product of 192 and 64 bits fits in a word. -/
def token2USD (m : InstantWithdrawManager) (decimals : Address → DecimalsAnswer) (tokenAddress : Address)
    (amount : BitVec 192) : Except String Nat :=
  if m.tokenExchange tokenAddress = 0 then .ok 0
  else do
    let baseUnitTokenUSD := amount.toNat * (m.tokenExchange tokenAddress).toNat / exchangeMultiplier
    let d ← tokenDecimals decimals tokenAddress
    require (d < 77) "InstantWithdrawManager::_token2USD: TOKEN_DECIMALS_OVERFLOW"
    return baseUnitTokenUSD / 10 ^ d

/-- `_findBucketIdx`, with `none` for -1. -/
def findBucketIdx (m : InstantWithdrawManager) (amountUSD : Nat) : Option Nat :=
  (List.range m.nBuckets).find? fun i =>
    let ceilUSD := (Bucket.unpackBucket (m.buckets i)).ceilUSD
    amountUSD ≤ ceilUSD ∨ ceilUSD = noCeil

/-- The part of `_processInstantWithdrawal` that deals with a bucket. -/
def takeFromBucket (m : InstantWithdrawManager) (blockNumber bucketIdx : Nat) :
    Except String (Bool × InstantWithdrawManager × List UpdateBucketWithdraw) := do
  let b ← (Bucket.unpackBucket (m.buckets bucketIdx)).update blockNumber
  if b.withdrawals = 0 then return (false, m, [])
  else
    let withdrawals ← SafeMath.sub b.withdrawals 1
    return (true,
      { m with buckets := Function.update m.buckets bucketIdx { b with withdrawals := withdrawals }.packBucket },
      [⟨BitVec.ofNat 8 bucketIdx, b.blockStamp, withdrawals⟩])

/-- `_processInstantWithdrawal`. -/
def processInstantWithdrawal (m : InstantWithdrawManager) (decimals : Address → DecimalsAnswer)
    (blockNumber : Nat) (tokenAddress : Address) (amount : BitVec 192) :
    Except String (Bool × InstantWithdrawManager × List UpdateBucketWithdraw) := do
  let amountUSD ← m.token2USD decimals tokenAddress amount
  if amountUSD = 0 then return (true, m, [])
  else match m.findBucketIdx amountUSD with
    | none => return (true, m, [])
    | some bucketIdx => m.takeFromBucket blockNumber bucketIdx

/-- The bucket whose credit an instant withdrawal needs: none for a value of less than a dollar, or above every
ceiling. -/
def bucketFor (m : InstantWithdrawManager) (decimals : Address → DecimalsAnswer) (tokenAddress : Address)
    (amount : BitVec 192) : Option Nat :=
  match m.token2USD decimals tokenAddress amount with
  | .ok amountUSD => if amountUSD = 0 then none else m.findBucketIdx amountUSD
  | .error _ => none

def onlyGovernance (m : InstantWithdrawManager) (msg : Msg) : Except String Unit :=
  require (msg.sender = m.hermezGovernanceAddress) "InstantWithdrawManager::onlyGovernance: ONLY_GOVERNANCE_ADDRESS"

/-- The loop of `updateBucketsParameters`, from bucket `i` on. -/
def installBuckets (m : InstantWithdrawManager) (blockNumber : Nat) : Nat → List (BitVec 256) →
    Except String InstantWithdrawManager
  | _, [] => .ok m
  | i, newBucket :: newBuckets => do
    let b := Bucket.unpackBucket newBucket
    require (b.withdrawals ≤ b.maxWithdrawals)
      "InstantWithdrawManager::updateBucketsParameters: WITHDRAWALS_MUST_BE_LESS_THAN_MAXWITHDRAWALS"
    require (0 < b.rateBlocks)
      "InstantWithdrawManager::updateBucketsParameters: RATE_BLOCKS_MUST_BE_MORE_THAN_0"
    let m' := { m with buckets := Function.update m.buckets i { b with blockStamp := blockNumber }.packBucket }
    m'.installBuckets blockNumber (i + 1) newBuckets

def updateBucketsParameters (m : InstantWithdrawManager) (msg : Msg) (newBuckets : List (BitVec 256)) :
    Except String InstantWithdrawManager := do
  m.onlyGovernance msg
  require (newBuckets.length ≤ maxBuckets) "InstantWithdrawManager::updateBucketsParameters: MAX_NUM_BUCKETS"
  { m with nBuckets := newBuckets.length }.installBuckets msg.blockNumber 0 newBuckets

def updateTokenExchange (m : InstantWithdrawManager) (msg : Msg) (addressArray : List Address)
    (valueArray : List (BitVec 64)) : Except String InstantWithdrawManager := do
  m.onlyGovernance msg
  require (addressArray.length = valueArray.length) "InstantWithdrawManager::updateTokenExchange: INVALID_ARRAY_LENGTH"
  return { m with
    tokenExchange := (addressArray.zip valueArray).foldl (fun f entry => Function.update f entry.1 entry.2) m.tokenExchange }

def updateWithdrawalDelay (m : InstantWithdrawManager) (msg : Msg) (newWithdrawalDelay : BitVec 64) :
    Except String InstantWithdrawManager := do
  m.onlyGovernance msg
  require (newWithdrawalDelay.toNat ≤ maxWithdrawalDelay)
    "InstantWithdrawManager::updateWithdrawalDelay: EXCEED_MAX_WITHDRAWAL_DELAY"
  return { m with withdrawalDelay := newWithdrawalDelay }

/-- `safeMode`: one bucket without credits.  The withdrawal delayer may refuse the new delay. -/
def safeMode (m : InstantWithdrawManager) (msg : Msg) (changeWithdrawalDelay : BitVec 64 → Bool) :
    Except String InstantWithdrawManager := do
  m.onlyGovernance msg
  require (changeWithdrawalDelay m.withdrawalDelay) "WithdrawalDelayer::changeWithdrawalDelay"
  return { m with nBuckets := 1, buckets := Function.update m.buckets 0 (Bucket.packBucket ⟨noCeil, 0, 0, 1, 0, 0⟩) }

end InstantWithdrawManager

/-! ### The contract with its buckets -/

/-- The rollup contract with the storage of its instant withdrawals. -/
structure BucketedHermez where
  hermez : Hermez
  manager : InstantWithdrawManager

inductive BucketedCall where
  | transaction (tx : Transaction) (decimals : Address → DecimalsAnswer)
  | updateBucketsParameters (msg : Msg) (newBuckets : List (BitVec 256))
  | updateTokenExchange (msg : Msg) (addressArray : List Address) (valueArray : List (BitVec 64))
  | updateWithdrawalDelay (msg : Msg) (newWithdrawalDelay : BitVec 64)
  | safeMode (msg : Msg) (changeWithdrawalDelay : BitVec 64 → Bool)

namespace BucketedCall

def blockNumber : BucketedCall → Nat
  | transaction tx _ => tx.msg.blockNumber
  | updateBucketsParameters msg _ | updateTokenExchange msg _ _ | updateWithdrawalDelay msg _ | safeMode msg _ =>
    msg.blockNumber

/-- The call does not replace the buckets. -/
def KeepsParameters : BucketedCall → Prop
  | updateBucketsParameters _ _ | safeMode _ _ => False
  | transaction _ _ | updateTokenExchange _ _ _ | updateWithdrawalDelay _ _ => True

end BucketedCall

/-- The token and the amount of an instant withdrawal, for a token that is registered. -/
def Transaction.instantWithdrawal (s : Hermez) (tx : Transaction) : Option (Address × BitVec 192) :=
  match tx.call with
  | .withdrawMerkleProof tokenID amount _ _ _ _ true | .withdrawCircuit _ tokenID amount _ _ true =>
    (s.tokenAddress tokenID).toOption.map fun token => (token, amount)
  | _ => none

namespace BucketedHermez

section Run

variable [Libraries]

/-- A call of the rollup, in which the buckets answer first whether to pay without delay. -/
def execTransaction (c : BucketedHermez) (tx : Transaction) (decimals : Address → DecimalsAnswer) :
    Except String (BucketedHermez × List UpdateBucketWithdraw) :=
  match tx.instantWithdrawal c.hermez with
  | none => do
    let (hermez, _) ← c.hermez.exec tx
    return ({ c with hermez := hermez }, [])
  | some (token, amount) => do
    let (allowed, manager, events) ← c.manager.processInstantWithdrawal decimals tx.msg.blockNumber token amount
    let (hermez, _) ← c.hermez.exec
      { tx with world := { tx.world with processInstantWithdrawal := fun _ _ => allowed } }
    return (⟨hermez, manager⟩, events)

def govern (c : BucketedHermez) (result : Except String InstantWithdrawManager) :
    Except String (BucketedHermez × List UpdateBucketWithdraw) := do
  let manager ← result
  return ({ c with manager := manager }, [])

def exec (c : BucketedHermez) : BucketedCall → Except String (BucketedHermez × List UpdateBucketWithdraw)
  | .transaction tx decimals => c.execTransaction tx decimals
  | .updateBucketsParameters msg newBuckets => c.govern (c.manager.updateBucketsParameters msg newBuckets)
  | .updateTokenExchange msg addressArray valueArray =>
    c.govern (c.manager.updateTokenExchange msg addressArray valueArray)
  | .updateWithdrawalDelay msg newWithdrawalDelay => c.govern (c.manager.updateWithdrawalDelay msg newWithdrawalDelay)
  | .safeMode msg changeWithdrawalDelay => c.govern (c.manager.safeMode msg changeWithdrawalDelay)

/-- The bucket that a call draws on, in the state before it. -/
def bucketOf (c : BucketedHermez) : BucketedCall → Option Nat
  | .transaction tx decimals =>
    (tx.instantWithdrawal c.hermez).bind fun withdrawal => c.manager.bucketFor decimals withdrawal.1 withdrawal.2
  | _ => none

end Run

end BucketedHermez

/-- A call that did not revert: its block, the bucket it had to draw on, and what the buckets reported. -/
structure BucketedReceipt where
  blockNumber : Nat
  bucketIdx : Option Nat
  events : List UpdateBucketWithdraw

namespace BucketedReceipt

/-- The block of an instant withdrawal that bucket `i` had to pay a credit for. -/
def served (receipt : BucketedReceipt) (i : Nat) : List Nat :=
  if receipt.bucketIdx = some i then [receipt.blockNumber] else []

def reported (receipt : BucketedReceipt) (i : Nat) : List Nat :=
  (receipt.events.filter fun event => event.numBucket = BitVec.ofNat 8 i).map fun _ => receipt.blockNumber

end BucketedReceipt

namespace BucketedHermez

/-- The state after a list of calls, and what each of them did.  A call that reverts changes nothing. -/
def run [Libraries] (c : BucketedHermez) : List BucketedCall → BucketedHermez × List BucketedReceipt
  | [] => (c, [])
  | call :: calls =>
    match c.exec call with
    | .error _ => c.run calls
    | .ok (c', events) => ((c'.run calls).1, ⟨call.blockNumber, c.bucketOf call, events⟩ :: (c'.run calls).2)

def bucket (c : BucketedHermez) (i : Nat) : Bucket :=
  Bucket.unpackBucket (c.manager.buckets i)

end BucketedHermez

/-- The blocks of the instant withdrawals that went through and fall under bucket `i`. -/
def servedBlocks (receipts : List BucketedReceipt) (i : Nat) : List Nat :=
  receipts.flatMap (BucketedReceipt.served · i)

/-- The blocks of the `UpdateBucketWithdraw` events of bucket `i`. -/
def reportedBlocks (receipts : List BucketedReceipt) (i : Nat) : List Nat :=
  receipts.flatMap (BucketedReceipt.reported · i)

/-! ### One call -/

namespace Bucket

theorem update_ok {b b' : Bucket} {blockNumber : Nat} (h : b.update blockNumber = .ok b') :
    b.blockStamp ≤ blockNumber ∧ 0 < b.rateBlocks ∧ b'.ceilUSD = b.ceilUSD ∧
      b'.tokenBucket = b.tokenBucket.topUp blockNumber := by
  rw [update, except_bind_ok] at h
  obtain ⟨difference, hsub, h⟩ := h
  obtain ⟨hstamp, rfl⟩ := SafeMath.sub_ok.mp hsub
  obtain ⟨periods, hdiv, h⟩ := except_bind_ok.mp h
  obtain ⟨hpos, rfl⟩ := SafeMath.div_ok.mp hdiv
  obtain ⟨added, hmul, h⟩ := except_bind_ok.mp h
  obtain ⟨-, rfl⟩ := SafeMath.mul_ok.mp hmul
  obtain ⟨withdrawals, hadd, h⟩ := except_bind_ok.mp h
  obtain ⟨-, rfl⟩ := SafeMath.add_ok.mp hadd
  refine ⟨hstamp, hpos, ?_⟩
  by_cases hfull : b.maxWithdrawals ≤ b.withdrawals + (blockNumber - b.blockStamp) / b.rateBlocks * b.rateWithdrawals
  · rw [if_pos hfull] at h
    cases h
    exact ⟨rfl, (if_pos hfull).symm⟩
  · rw [if_neg hfull] at h
    obtain ⟨elapsed, hmul, h⟩ := except_bind_ok.mp h
    obtain ⟨-, rfl⟩ := SafeMath.mul_ok.mp hmul
    obtain ⟨blockStamp, hadd, h⟩ := except_bind_ok.mp h
    obtain ⟨-, rfl⟩ := SafeMath.add_ok.mp hadd
    cases h
    exact ⟨rfl, (if_neg hfull).symm⟩

/-- The bucket after a request at `now` that was served. -/
structure Took (b : Bucket) (now : Nat) (b' : Bucket) : Prop where
  stamp_le : b.blockStamp ≤ now
  rateBlocks_pos : 0 < b.rateBlocks
  ceilUSD : b'.ceilUSD = b.ceilUSD
  take : b.tokenBucket.take now = some b'.tokenBucket

theorem Took.served {b b' : Bucket} {now : Nat} (h : b.Took now b') (hle : b.withdrawals ≤ b.maxWithdrawals) :
    b.tokenBucket.Served now b'.tokenBucket :=
  TokenBucket.take_served ⟨h.rateBlocks_pos, hle, h.stamp_le⟩ h.take

theorem Took.fits {b b' : Bucket} {now : Nat} (h : b.Took now b') (hle : b.withdrawals ≤ b.maxWithdrawals)
    (hfits : b.Fits) (hnow : now < 2 ^ 32) : b'.Fits := by
  have hserved := h.served hle
  have hstamp : b'.blockStamp ≤ now := hserved.stamp_le
  have hcredit : b'.withdrawals < b.maxWithdrawals := hserved.credit_lt
  have hperiod : b'.rateBlocks = b.rateBlocks := hserved.period
  have hrefill : b'.rateWithdrawals = b.rateWithdrawals := hserved.refill
  have hcapacity : b'.maxWithdrawals = b.maxWithdrawals := hserved.capacity
  refine ⟨h.ceilUSD ▸ hfits.ceilUSD, hstamp.trans_lt hnow, hcredit.trans hfits.maxWithdrawals, ?_, ?_, ?_⟩
  · exact hperiod ▸ hfits.rateBlocks
  · exact hrefill ▸ hfits.rateWithdrawals
  · exact hcapacity ▸ hfits.maxWithdrawals

end Bucket

namespace InstantWithdrawManager

variable {m m' : InstantWithdrawManager} {blockNumber : Nat} {events : List UpdateBucketWithdraw}

/-- What an allowed withdrawal did: it took a credit from the bucket it falls under, if there is one. -/
inductive Allowed (m : InstantWithdrawManager) (blockNumber : Nat) :
    Option Nat → InstantWithdrawManager → List UpdateBucketWithdraw → Prop
  | free : Allowed m blockNumber none m []
  | served (bucketIdx : Nat) (b' : Bucket) (hidx : bucketIdx < m.nBuckets)
      (htook : (Bucket.unpackBucket (m.buckets bucketIdx)).Took blockNumber b') :
      Allowed m blockNumber (some bucketIdx) { m with buckets := Function.update m.buckets bucketIdx b'.packBucket }
        [⟨BitVec.ofNat 8 bucketIdx, b'.blockStamp, b'.withdrawals⟩]

theorem takeFromBucket_allowed {bucketIdx : Nat} (hidx : bucketIdx < m.nBuckets)
    (h : m.takeFromBucket blockNumber bucketIdx = .ok (true, m', events)) :
    m.Allowed blockNumber (some bucketIdx) m' events := by
  rw [takeFromBucket, except_bind_ok] at h
  obtain ⟨b, hupdate, h⟩ := h
  obtain ⟨hstamp, hpos, hceil, htopUp⟩ := Bucket.update_ok hupdate
  split at h
  · cases h
  next hcredit =>
    obtain ⟨withdrawals, hsub, h⟩ := except_bind_ok.mp h
    obtain ⟨-, rfl⟩ := SafeMath.sub_ok.mp hsub
    cases h
    refine .served bucketIdx { b with withdrawals := b.withdrawals - 1 } hidx ⟨hstamp, hpos, hceil, ?_⟩
    rw [TokenBucket.take, ← htopUp]
    exact if_neg hcredit

theorem processInstantWithdrawal_allowed {decimals : Address → DecimalsAnswer} {tokenAddress : Address}
    {amount : BitVec 192}
    (h : m.processInstantWithdrawal decimals blockNumber tokenAddress amount = .ok (true, m', events)) :
    m.Allowed blockNumber (m.bucketFor decimals tokenAddress amount) m' events := by
  rw [processInstantWithdrawal, except_bind_ok] at h
  obtain ⟨amountUSD, husd, h⟩ := h
  rw [bucketFor, husd]
  dsimp only
  split at h
  next hzero =>
    cases h
    rw [if_pos hzero]
    exact .free
  next hzero =>
    rw [if_neg hzero]
    cases hfind : m.findBucketIdx amountUSD with
    | none =>
      rw [hfind] at h
      cases h
      exact .free
    | some bucketIdx =>
      rw [hfind] at h
      exact takeFromBucket_allowed (List.mem_range.mp (List.mem_of_find?_eq_some hfind)) h

end InstantWithdrawManager

namespace BucketedHermez

variable [Libraries] {c c' : BucketedHermez} {call : BucketedCall} {events : List UpdateBucketWithdraw}

theorem exec_of_refused {s : Hermez} {tx : Transaction} (hinstant : tx.instantWithdrawal s ≠ none)
    (hrefused : tx.world.processInstantWithdrawal = fun _ _ => false) (result : Hermez × List Event) :
    s.exec tx ≠ .ok result := by
  have hcheck : ∀ amount tokenID message, s.checkInstantWithdraw tx.world amount tokenID true message ≠ .ok () := by
    intro amount tokenID message h
    rw [Hermez.checkInstantWithdraw, if_pos rfl, except_bind_ok] at h
    obtain ⟨token, -, h⟩ := h
    rw [hrefused, require_ok] at h
    cases h
  intro h
  rw [Transaction.instantWithdrawal] at hinstant
  rw [Hermez.exec] at h
  split at hinstant
  next hcall =>
    rw [hcall] at h
    obtain ⟨_, hok, -⟩ := except_bind_ok.mp h
    exact hcheck _ _ _ hok
  next hcall =>
    rw [hcall] at h
    obtain ⟨_, hok, -⟩ := except_bind_ok.mp h
    exact hcheck _ _ _ hok
  · exact hinstant rfl

omit [Libraries] in
theorem govern_ok {result : Except String InstantWithdrawManager} :
    c.govern result = .ok (c', events) ↔ ∃ m, result = .ok m ∧ { c with manager := m } = c' ∧ events = [] := by
  rw [govern, except_bind_ok]
  constructor
  · rintro ⟨m, hm, h⟩
    cases h
    exact ⟨m, hm, rfl, rfl⟩
  · rintro ⟨m, hm, rfl, rfl⟩
    exact ⟨m, hm, rfl⟩

theorem exec_allowed (h : c.exec call = .ok (c', events)) (hkeeps : call.KeepsParameters) :
    ∃ m, c.manager.Allowed call.blockNumber (c.bucketOf call) m events ∧ c'.manager.nBuckets = m.nBuckets ∧
      c'.manager.buckets = m.buckets := by
  cases call with
  | transaction tx decimals =>
    rw [exec, execTransaction] at h
    rw [bucketOf]
    split at h
    next hnone =>
      obtain ⟨⟨hermez, _⟩, -, h⟩ := except_bind_ok.mp h
      cases h
      rw [hnone]
      exact ⟨_, .free, rfl, rfl⟩
    next token amount hinstant =>
      obtain ⟨⟨allowed, manager, _⟩, hprocess, h⟩ := except_bind_ok.mp h
      obtain ⟨⟨hermez, _⟩, hexec, h⟩ := except_bind_ok.mp h
      cases h
      cases allowed with
      | true =>
        rw [hinstant]
        exact ⟨_, InstantWithdrawManager.processInstantWithdrawal_allowed hprocess, rfl, rfl⟩
      | false =>
        refine absurd hexec (exec_of_refused (fun hnone => ?_) ?_ _)
        · exact Option.some_ne_none _ (hinstant.symm.trans hnone)
        · rfl
  | updateBucketsParameters msg newBuckets => cases hkeeps
  | safeMode msg changeWithdrawalDelay => cases hkeeps
  | updateTokenExchange msg addressArray valueArray =>
    obtain ⟨m, hm, rfl, rfl⟩ := govern_ok.mp h
    obtain ⟨_, -, hm⟩ := except_bind_ok.mp hm
    obtain ⟨-, hm⟩ := require_bind_ok.mp hm
    cases hm
    exact ⟨_, .free, rfl, rfl⟩
  | updateWithdrawalDelay msg newWithdrawalDelay =>
    obtain ⟨m, hm, rfl, rfl⟩ := govern_ok.mp h
    obtain ⟨_, -, hm⟩ := except_bind_ok.mp hm
    obtain ⟨-, hm⟩ := require_bind_ok.mp hm
    cases hm
    exact ⟨_, .free, rfl, rfl⟩

theorem exec_bucket {i : Nat} (h : c.exec call = .ok (c', events)) (hkeeps : call.KeepsParameters)
    (hblock : call.blockNumber < 2 ^ 32) (hn : c.manager.nBuckets ≤ InstantWithdrawManager.maxBuckets)
    (hi : i < InstantWithdrawManager.maxBuckets) (hle : (c.bucket i).withdrawals ≤ (c.bucket i).maxWithdrawals) :
    c'.manager.nBuckets = c.manager.nBuckets ∧
      ∃ blocks, BucketedReceipt.served ⟨call.blockNumber, c.bucketOf call, events⟩ i = blocks ∧
        BucketedReceipt.reported ⟨call.blockNumber, c.bucketOf call, events⟩ i = blocks ∧
        (c'.bucket i = c.bucket i ∧ blocks = [] ∨
          (c.bucket i).Took call.blockNumber (c'.bucket i) ∧ blocks = [call.blockNumber]) := by
  obtain ⟨m, hallowed, hcount, hbuckets⟩ := exec_allowed h hkeeps
  rw [hcount, bucket, bucket, hbuckets]
  generalize c.bucketOf call = bucketIdx? at hallowed
  cases hallowed with
  | free => exact ⟨rfl, [], rfl, rfl, Or.inl ⟨rfl, rfl⟩⟩
  | served bucketIdx b' hidx htook =>
    refine ⟨rfl, ?_⟩
    by_cases heq : bucketIdx = i
    · subst heq
      have hfits := htook.fits hle (Bucket.unpackBucket_fits _) hblock
      refine ⟨[call.blockNumber], by simp [BucketedReceipt.served], by simp [BucketedReceipt.reported], .inr ⟨?_, rfl⟩⟩
      dsimp only
      rw [Function.update_self, Bucket.unpackBucket_packBucket hfits]
      exact htook
    · have hother : BitVec.ofNat 8 bucketIdx ≠ BitVec.ofNat 8 i := by
        intro hsame
        have hnat := congrArg BitVec.toNat hsame
        rw [BitVec.toNat_ofNat, BitVec.toNat_ofNat] at hnat
        rw [InstantWithdrawManager.maxBuckets] at hn hi
        omega
      refine ⟨[], by simp [BucketedReceipt.served, heq], by simp [BucketedReceipt.reported, hother], .inl ⟨?_, rfl⟩⟩
      dsimp only
      rw [Function.update_of_ne (Ne.symm heq)]

/-! ### A whole run -/

/-- **A bucket of the contract is a token bucket**: over a run that keeps the parameters it serves
requests at some of the blocks of the run, and nothing else changes it.  Those are the instant withdrawals that fall
under it, each with its event. -/
theorem run_bucket (calls : List BucketedCall) {i now : Nat} (hkeeps : ∀ call ∈ calls, call.KeepsParameters)
    (hblocks : (now :: calls.map BucketedCall.blockNumber).Pairwise (· ≤ ·))
    (hbound : ∀ call ∈ calls, call.blockNumber < 2 ^ 32)
    (hn : c.manager.nBuckets ≤ InstantWithdrawManager.maxBuckets) (hi : i < InstantWithdrawManager.maxBuckets)
    (hvalid : (c.bucket i).tokenBucket.Valid now) :
    ∃ times : List Nat, times.Sublist (calls.map BucketedCall.blockNumber) ∧
      servedBlocks (c.run calls).2 i = (c.bucket i).tokenBucket.served times ∧
      reportedBlocks (c.run calls).2 i = servedBlocks (c.run calls).2 i ∧
      ((c.run calls).1.bucket i).tokenBucket = (c.bucket i).tokenBucket.after times ∧
      ((c.run calls).1.bucket i).ceilUSD = (c.bucket i).ceilUSD := by
  induction calls generalizing c now with
  | nil => exact ⟨[], List.Sublist.slnil, rfl, rfl, rfl, rfl⟩
  | cons call calls ih =>
    obtain ⟨hfirst, hrest⟩ := List.pairwise_cons.mp hblocks
    have hnow : now ≤ call.blockNumber := hfirst _ List.mem_cons_self
    have hblock := hbound call List.mem_cons_self
    have hkeeps' : ∀ call ∈ calls, call.KeepsParameters := fun call hmem => hkeeps call (List.mem_cons_of_mem _ hmem)
    have hbound' : ∀ call ∈ calls, call.blockNumber < 2 ^ 32 :=
      fun call hmem => hbound call (List.mem_cons_of_mem _ hmem)
    rw [run]
    cases hexec : c.exec call with
    | error message =>
      obtain ⟨times, hsub, hserved⟩ := ih hkeeps' hrest hbound' hn (hvalid.mono hnow)
      exact ⟨times, hsub.cons _, hserved⟩
    | ok result =>
      obtain ⟨c', events⟩ := result
      obtain ⟨hcount, blocks, hcalled, hreported, hstep⟩ :=
        exec_bucket hexec (hkeeps call List.mem_cons_self) hblock hn hi hvalid.credit_le
      rw [servedBlocks, reportedBlocks, List.flatMap_cons, List.flatMap_cons, hcalled, hreported]
      rcases hstep with ⟨hsame, rfl⟩ | ⟨htook, rfl⟩
      · obtain ⟨times, hsub, hserved, hevents, hafter, hceil⟩ :=
          ih hkeeps' hrest hbound' (hcount ▸ hn) (hsame ▸ hvalid.mono hnow)
        exact ⟨times, hsub.cons _, hsame ▸ hserved, hevents, hsame ▸ hafter,
          hceil.trans (congrArg Bucket.ceilUSD hsame)⟩
      · have htaken := htook.served hvalid.credit_le
        obtain ⟨times, hsub, hserved, hevents, hafter, hceil⟩ :=
          ih hkeeps' hrest hbound' (hcount ▸ hn) (htaken.valid (hvalid.mono hnow))
        refine ⟨call.blockNumber :: times, hsub.cons_cons _, ?_, congrArg ([call.blockNumber] ++ ·) hevents, ?_,
          hceil.trans htook.ceilUSD⟩
        · rw [TokenBucket.served, htook.take]
          exact congrArg ([call.blockNumber] ++ ·) hserved
        · rw [hafter, TokenBucket.after, htook.take]
          rfl

end BucketedHermez

/-! ### Installation -/

namespace InstantWithdrawManager

/-- Bucket `i` as the list `newBuckets` installs it at a block. -/
def Installed (m : InstantWithdrawManager) (blockNumber i : Nat) (newBucket : BitVec 256) : Prop :=
  m.buckets i = { Bucket.unpackBucket newBucket with blockStamp := blockNumber }.packBucket ∧
    (Bucket.unpackBucket newBucket).withdrawals ≤ (Bucket.unpackBucket newBucket).maxWithdrawals ∧
    0 < (Bucket.unpackBucket newBucket).rateBlocks

theorem installBuckets_ok {m m' : InstantWithdrawManager} {blockNumber start : Nat} {newBuckets : List (BitVec 256)}
    (h : m.installBuckets blockNumber start newBuckets = .ok m') :
    m'.nBuckets = m.nBuckets ∧ (∀ i < start, m'.buckets i = m.buckets i) ∧
      ∀ i newBucket, newBuckets[i]? = some newBucket → m'.Installed blockNumber (start + i) newBucket := by
  induction newBuckets generalizing m start with
  | nil =>
    cases h
    exact ⟨rfl, fun _ _ => rfl, fun i newBucket hget => by simp at hget⟩
  | cons first newBuckets ih =>
    obtain ⟨hle, h⟩ := require_bind_ok.mp h
    obtain ⟨hpos, h⟩ := require_bind_ok.mp h
    obtain ⟨hcount, hbefore, hrest⟩ := ih h
    refine ⟨hcount, ?_, ?_⟩
    · intro i hi
      rw [hbefore i (by omega)]
      exact Function.update_of_ne (by omega) _ _
    · intro i newBucket hget
      cases i with
      | zero =>
        cases hget
        refine ⟨?_, of_decide_eq_true hle, of_decide_eq_true hpos⟩
        rw [Nat.add_zero, hbefore start (by omega)]
        exact Function.update_self _ _ _
      | succ i =>
        rw [← Nat.add_assoc, Nat.add_right_comm]
        exact hrest i newBucket hget

end InstantWithdrawManager

/-- What governs the withdrawals served from a bucket installed at `installedAt`, seen at `now`. -/
structure RateLimited (installed : Bucket) (installedAt now : Nat) (served : List Nat) (bucket : Bucket) : Prop where
  upTo : ∀ last, served.countP (· ≤ last) ≤
    installed.withdrawals + installed.rateWithdrawals * ((last - installedAt) / installed.rateBlocks)
  within : ∀ first last, served.countP (fun block => first ≤ block ∧ block ≤ last) ≤
    installed.maxWithdrawals + installed.rateWithdrawals * ((last - first) / installed.rateBlocks + 1)
  withdrawals_le : bucket.withdrawals ≤ bucket.maxWithdrawals
  blockStamp_le : bucket.blockStamp ≤ now
  ceilUSD : bucket.ceilUSD = installed.ceilUSD
  rateBlocks : bucket.rateBlocks = installed.rateBlocks
  rateWithdrawals : bucket.rateWithdrawals = installed.rateWithdrawals
  maxWithdrawals : bucket.maxWithdrawals = installed.maxWithdrawals

/-- **Instant withdrawals are limited**: from the call that installs the buckets, over every run that
does not replace them, at non-decreasing blocks of 32 bits.  Every instant withdrawal that goes through and falls under
a bucket counts; they are the withdrawals that the events of the bucket report. -/
theorem instantWithdrawals_limited [Libraries] {c c₀ : BucketedHermez} {msg : Msg} {newBuckets : List (BitVec 256)}
    {events : List UpdateBucketWithdraw} (hinstall : c.exec (.updateBucketsParameters msg newBuckets) = .ok (c₀, events))
    (calls : List BucketedCall) (hkeeps : ∀ call ∈ calls, call.KeepsParameters)
    (hblocks : (msg.blockNumber :: calls.map BucketedCall.blockNumber).Pairwise (· ≤ ·))
    (hbound : ∀ block ∈ msg.blockNumber :: calls.map BucketedCall.blockNumber, block < 2 ^ 32)
    {now : Nat} (hnow : ∀ block ∈ msg.blockNumber :: calls.map BucketedCall.blockNumber, block ≤ now)
    {i : Nat} {newBucket : BitVec 256} (hget : newBuckets[i]? = some newBucket) :
    RateLimited (Bucket.unpackBucket newBucket) msg.blockNumber now (servedBlocks (c₀.run calls).2 i)
        ((c₀.run calls).1.bucket i) ∧
      reportedBlocks (c₀.run calls).2 i = servedBlocks (c₀.run calls).2 i := by
  obtain ⟨m, hm, rfl, -⟩ := BucketedHermez.govern_ok.mp hinstall
  obtain ⟨_, -, hm⟩ := except_bind_ok.mp hm
  obtain ⟨hlength, hm⟩ := require_bind_ok.mp hm
  obtain ⟨hcount, -, hinstalled⟩ := InstantWithdrawManager.installBuckets_ok hm
  obtain ⟨hbucket, hle, hpos⟩ := hinstalled i newBucket hget
  rw [Nat.zero_add] at hbucket
  have hn : m.nBuckets ≤ InstantWithdrawManager.maxBuckets := hcount ▸ of_decide_eq_true hlength
  have hi : i < InstantWithdrawManager.maxBuckets :=
    lt_of_lt_of_le (List.getElem?_eq_some_iff.mp hget).1 (of_decide_eq_true hlength)
  have hfits := Bucket.unpackBucket_fits newBucket
  have hunpack : (BucketedHermez.mk c.hermez m).bucket i =
      { Bucket.unpackBucket newBucket with blockStamp := msg.blockNumber } := by
    rw [BucketedHermez.bucket, hbucket]
    exact Bucket.unpackBucket_packBucket
      ⟨hfits.ceilUSD, hbound _ List.mem_cons_self, hfits.withdrawals, hfits.rateBlocks, hfits.rateWithdrawals,
        hfits.maxWithdrawals⟩
  have hvalid : ((BucketedHermez.mk c.hermez m).bucket i).tokenBucket.Valid msg.blockNumber := by
    rw [hunpack]
    exact ⟨hpos, hle, le_rfl⟩
  obtain ⟨times, hsub, hserved, hevents, hafter, hceil⟩ := BucketedHermez.run_bucket calls hkeeps hblocks
    (fun call hmem => hbound _ (List.mem_cons_of_mem _ (List.mem_map_of_mem hmem))) hn hi hvalid
  have hsorted := hblocks.sublist (hsub.cons_cons msg.blockNumber)
  obtain ⟨hvalid', hperiod, hrefill, hcapacity⟩ := TokenBucket.after_valid times hvalid hsorted
    fun time hmem => hnow time ((hsub.cons_cons msg.blockNumber).subset hmem)
  rw [← hafter] at hvalid' hperiod hrefill hcapacity
  refine ⟨?_, hevents⟩
  rw [hserved]
  have hupTo := TokenBucket.countP_served_le times hvalid hsorted
  have hwithin := TokenBucket.countP_served_within times hvalid hsorted
  rw [hunpack] at hupTo hwithin hperiod hrefill hcapacity hceil ⊢
  exact ⟨hupTo, hwithin, hvalid'.credit_le, hvalid'.stamp_le, hceil, hperiod, hrefill, hcapacity⟩

/-- Buckets of one withdrawal, refilled by one every ten blocks up to two. -/
def slowBuckets : List (BitVec 256) :=
  [Bucket.packBucket ⟨InstantWithdrawManager.noCeil, 0, 1, 10, 1, 2⟩]

def fundedHermez : BucketedHermez where
  hermez := { Hermez.initializeHermez [⟨1, 8⟩] 0 with balanceOf := fun _ => 10 ^ 20 }
  manager :=
    { nBuckets := 0, buckets := fun _ => 0, hermezGovernanceAddress := 9, withdrawalDelay := 0,
      tokenExchange := fun _ => 10000000000 }

def governanceMsg : Msg :=
  { sender := 9, origin := 9, blockNumber := 100 }

def slowHermez : BucketedHermez where
  hermez := fundedHermez.hermez
  manager :=
    { fundedHermez.manager with
      nBuckets := 1
      buckets := Function.update (fun _ => 0) 0 (Bucket.packBucket ⟨InstantWithdrawManager.noCeil, 100, 1, 10, 1, 2⟩) }

def withdrawEtherAt (blockNumber : Nat) (idx : BitVec 48) : BucketedCall :=
  .transaction
    { world := openWorld, msg := { sender := 7, origin := 7, blockNumber := blockNumber },
      call := .withdrawCircuit ⟨[], [], []⟩ 0 (10 ^ 18) 1 idx true } fun _ => .failed

def threeWithdrawals : List BucketedCall :=
  [withdrawEtherAt 100 256, withdrawEtherAt 105 257, withdrawEtherAt 112 257]

theorem instantWithdrawals_limited_slowBuckets :
    servedBlocks (@BucketedHermez.run plainLibraries slowHermez threeWithdrawals).2 0 = [100, 112] ∧
      RateLimited ⟨InstantWithdrawManager.noCeil, 0, 1, 10, 1, 2⟩ 100 112
        (servedBlocks (@BucketedHermez.run plainLibraries slowHermez threeWithdrawals).2 0)
        ((@BucketedHermez.run plainLibraries slowHermez threeWithdrawals).1.bucket 0) ∧
      reportedBlocks (@BucketedHermez.run plainLibraries slowHermez threeWithdrawals).2 0 =
        servedBlocks (@BucketedHermez.run plainLibraries slowHermez threeWithdrawals).2 0 := by
  have hinstall : @BucketedHermez.exec plainLibraries fundedHermez (.updateBucketsParameters governanceMsg slowBuckets) =
      .ok (slowHermez, []) := rfl
  have hkeeps : ∀ call ∈ threeWithdrawals, call.KeepsParameters := by
    simp [threeWithdrawals, withdrawEtherAt, BucketedCall.KeepsParameters]
  exact ⟨by decide +kernel, @instantWithdrawals_limited plainLibraries _ _ _ _ _ hinstall threeWithdrawals hkeeps
    (by decide) (by decide) 112 (by decide) 0 _ rfl⟩

end HermezRollup
