import HermezRollup.L2Tx
import HermezRollup.StateDB

/-! The inputs of the circuit (`common/zk.go`) that the batch builder fills in while it processes a batch.
Kept are the inputs whose computation can fail, the intermediate states, and the metadata from which the
batch is published and its global hash is computed.  The inputs that copy a field of a transaction or of
an account have one slot for every transaction, like `txCompressedData`, and nothing reads them here. -/

namespace HermezRollup

/-- The slots of an input. -/
def newSlice (n : Nat) : List Nat :=
  List.replicate n 0

/-- `n - 1` on a `uint32`. -/
def uint32Pred (n : Nat) : Nat :=
  (n + (2 ^ 32 - 1)) % 2 ^ 32

theorem uint32Pred_eq {n : Nat} (hpos : 0 < n) (hlt : n < 2 ^ 32) : uint32Pred n = n - 1 := by
  rw [uint32Pred]
  omega

/-- `xs[i] = x`, where `x` may be an error; an index out of range panics either way. -/
def setAt {α : Type} (xs : List α) (i : Nat) (x : Except Err α) : Except Err (List α) :=
  if i < xs.length then x.map (xs.set i) else .error .indexOutOfRange

/-- `copy(dst, src)`. -/
def copySlice {α : Type} (dst src : List α) : List α :=
  src.take dst.length ++ dst.drop src.length

theorem length_copySlice {α : Type} (dst src : List α) : (copySlice dst src).length = dst.length := by
  rw [copySlice, List.length_append, List.length_take, List.length_drop]
  omega

structure ZKMetadata where
  nLevels : Nat
  maxL1Tx : Nat
  maxTx : Nat
  maxFeeIdxs : Nat
  l1TxsData : List Bytes := []
  l1TxsDataAvailability : List Bytes := []
  l2TxsData : List Bytes := []
  chainID : BitVec 16
  newLastIdxRaw : Nat := 0
  newStateRootRaw : Nat := 0
  newExitRootRaw : Nat := 0

/-- The inputs with a name that starts with `is` are the intermediate states. -/
structure ZKInputs where
  metadata : ZKMetadata
  currentNumBatch : Nat
  oldLastIdx : Nat := 0
  oldStateRoot : Nat := 0
  globalChainID : Nat
  feeIdxs : List Nat
  feePlanTokens : List Nat
  txCompressedData : List Nat
  txCompressedDataV2 : List Nat
  amountF : List Nat
  depositAmountF : List Nat
  rqTxCompressedDataV2 : List Nat
  isOnChain : List Nat
  isOutIdx : List Nat
  isStateRoot : List Nat
  isExitRoot : List Nat
  isAccFeeOut : List (List Int)
  isStateRootFee : List Nat
  isInitStateRootFee : Nat := 0
  isFinalAccFee : List Int

def newZKInputs (chainID : BitVec 16) (maxTx maxL1Tx maxFeeIdxs nLevels currentNumBatch : Nat) : ZKInputs where
  metadata := { nLevels, maxL1Tx, maxTx, maxFeeIdxs, chainID }
  currentNumBatch := currentNumBatch
  globalChainID := chainID.toNat
  feeIdxs := newSlice maxFeeIdxs
  feePlanTokens := newSlice maxFeeIdxs
  txCompressedData := newSlice maxTx
  txCompressedDataV2 := newSlice maxTx
  amountF := newSlice maxTx
  depositAmountF := newSlice maxTx
  rqTxCompressedDataV2 := newSlice maxTx
  isOnChain := newSlice (uint32Pred maxTx)
  isOutIdx := newSlice (uint32Pred maxTx)
  isStateRoot := newSlice (uint32Pred maxTx)
  isExitRoot := newSlice (uint32Pred maxTx)
  isAccFeeOut := List.replicate (uint32Pred maxTx) (List.replicate maxFeeIdxs 0)
  isStateRootFee := newSlice (uint32Pred maxFeeIdxs)
  isFinalAccFee := List.replicate maxFeeIdxs 0

/-- `formatAccumulatedFees`: the fees collected for the tokens of the coordinator, in their order. -/
def formatAccumulatedFees (collectedFees : TokenID → Option Int) (orderTokenIDs coordIdxs : List Nat) :
    Except Err (List Int) :=
  if coordIdxs.length ≤ orderTokenIDs.length then
    .ok (orderTokenIDs.mapIdx fun i tokenID =>
      if i < coordIdxs.length then (collectedFees (BitVec.ofNat 32 tokenID)).getD 0 else 0)
  else .error .indexOutOfRange

end HermezRollup
