import HermezRollup.L1Tx

/-! L2 transactions: the ones waiting in the pool of a coordinator (`common/pooll2tx.go`) and the ones
already forged (`common/l2tx.go`), their types and identifiers, and the short form in which a batch
publishes them. -/

namespace HermezRollup

open Bytes

structure L2Tx where
  txID : Bytes := emptyTxID
  fromIdx : Nat
  toIdx : Nat
  tokenID : TokenID := 0
  amount : Int
  fee : FeeSelector
  nonce : Nat := 0
  type : Option TxType := none
  deriving DecidableEq, Repr

/-- An L2 transaction in the pool.  `auxToIdx` is the receiver found for a transfer to an address or a
key; the fields with `rq` describe the transaction that must follow in an atomic group.  The fee in dollars
(`absoluteFee`) is a floating-point number, so a fraction. -/
structure PoolL2Tx where
  txID : Bytes := emptyTxID
  fromIdx : Nat
  toIdx : Nat
  auxToIdx : Nat := 0
  toEthAddr : Address := 0
  toBJJ : PublicKeyComp := 0
  tokenID : TokenID := 0
  amount : Int
  fee : FeeSelector := 0
  nonce : Nat := 0
  maxNumBatch : Nat := 0
  info : String := ""
  errorCode : Nat := 0
  errorType : String := ""
  signature : BitVec 512 := 0
  rqFromIdx : Nat := 0
  rqToIdx : Nat := 0
  rqToEthAddr : Address := 0
  rqToBJJ : PublicKeyComp := 0
  rqTokenID : TokenID := 0
  rqAmount : Option Int := none
  rqFee : FeeSelector := 0
  rqNonce : Nat := 0
  type : Option TxType := none
  rqOffset : Nat := 0
  atomicGroupID : BitVec 256 := 0
  absoluteFee : Rat := 0
  deriving DecidableEq, Repr

namespace L2Tx

def setType (tx : L2Tx) : Except Err L2Tx :=
  if tx.toIdx = 1 then .ok { tx with type := some .exit }
  else if userThreshold ≤ tx.toIdx then .ok { tx with type := some .transfer }
  else .error (.l2TxInvalidToIdx tx.toIdx)

/-- `CalculateTxID`: the hash of sender, token, amount, nonce and fee. -/
def calculateTxID [Libraries] (tx : L2Tx) : Except Err Bytes := do
  let fromIdxBytes ← idxBytes tx.fromIdx
  let amountFloat40Bytes ← newFloat40 tx.amount >>= float40Bytes
  let nonceB ← nonceBytes tx.nonce
  return txIDPrefixL2Tx :: bytesBE 32 (Libraries.keccak256 (fromIdxBytes ++ TokenID.bytes tx.tokenID ++
    amountFloat40Bytes ++ nonceB ++ [tx.fee])).toNat

/-- `PoolL2Tx`: only the fields of a forged transaction are filled. -/
def poolL2Tx (tx : L2Tx) : PoolL2Tx :=
  { txID := tx.txID, fromIdx := tx.fromIdx, toIdx := tx.toIdx, tokenID := tx.tokenID, amount := tx.amount,
    fee := tx.fee, nonce := tx.nonce, type := tx.type }

/-- `BytesDataAvailability`: sender, receiver, amount and fee, with indexes of `nLevels / 8` bytes. -/
def bytesDataAvailability (tx : L2Tx) (nLevels : Nat) : Except Err Bytes := do
  let idxLen := nLevels / 8
  let length := (nLevels * 2 + 40 + 8) / 8
  let fromIdxBytes ← idxBytes tx.fromIdx >>= idxTail idxLen
  let toIdxBytes ← idxBytes tx.toIdx >>= idxTail idxLen
  let amountFloat40Bytes ← newFloat40 tx.amount >>= float40Bytes
  return fromIdxBytes ++ toIdxBytes ++ amountFloat40Bytes ++ [tx.fee] ++ zeros (length - 2 * idxLen - 6)

end L2Tx

/-- `paddedIdx[6-idxLen:]` filled with the bytes of an index: here the bound is signed, and a longer
index panics. -/
def idxFromPaddedBytes (idxLen : Nat) (b : Bytes) : Except Err Nat :=
  if idxLen ≤ 6 then idxFromBytes (zeros (6 - idxLen) ++ b) else .error .panic

/-- `L2TxFromBytesDataAvailability`. -/
def l2TxFromBytesDataAvailability (b : Bytes) (nLevels : Nat) : Except Err L2Tx := do
  let idxLen := nLevels / 8
  let fromIdx ← sliceE b 0 idxLen >>= idxFromPaddedBytes idxLen
  let toIdx ← sliceE b idxLen (idxLen * 2) >>= idxFromPaddedBytes idxLen
  let amountBytes ← sliceE b (idxLen * 2) (idxLen * 2 + 5)
  let amount ← float40BigInt (float40FromBytes amountBytes)
  let feeByte ← sliceE b (idxLen * 2 + 5) (idxLen * 2 + 6)
  return { fromIdx, toIdx, amount, fee := feeByte.headD 0 }

namespace PoolL2Tx

/-- `SetType`. -/
def setType (tx : PoolL2Tx) : Except Err PoolL2Tx :=
  let isAddrEmpty := tx.toBJJ = emptyBJJComp ∧ tx.toEthAddr = emptyAddr
  if userThreshold ≤ tx.toIdx then .ok { tx with type := some .transfer }
  else if isAddrEmpty ∧ tx.toIdx = 1 then .ok { tx with type := some .exit }
  else if tx.toIdx = 0 then
    if tx.toBJJ ≠ emptyBJJComp ∧ tx.toEthAddr = ffAddr then .ok { tx with type := some .transferToBJJ }
    else if tx.toEthAddr ≠ ffAddr ∧ tx.toEthAddr ≠ emptyAddr ∧ tx.toBJJ = emptyBJJComp then
      .ok { tx with type := some .transferToEthAddr }
    else .error .malformedTransaction
  else .error .malformedTransaction

/-- `L2Tx`: the receiver that was found, if the transaction names none. -/
def l2Tx (tx : PoolL2Tx) : L2Tx :=
  { txID := tx.txID, fromIdx := tx.fromIdx, toIdx := if tx.toIdx = 0 then tx.auxToIdx else tx.toIdx,
    tokenID := tx.tokenID, amount := tx.amount, fee := tx.fee, nonce := tx.nonce, type := tx.type }

/-- `Tx`: the generic form, with the receiver the transaction names. -/
def tx (tx : PoolL2Tx) : Tx :=
  { isL1 := false, txID := tx.txID, type := tx.type, fromIdx := tx.fromIdx, toIdx := tx.toIdx,
    amount := tx.amount, tokenID := tx.tokenID, fee := tx.fee }

def signByte (pk : PublicKeyComp) : UInt8 :=
  if (PublicKeyComp.unpackSignY pk).1 then 1 else 0

/-- `TxCompressedData`. -/
def txCompressedData (tx : PoolL2Tx) (chainID : BitVec 16) : Except Err Nat := do
  let nonceB ← nonceBytes tx.nonce
  let toIdxBytes ← idxBytes tx.toIdx
  let fromIdxBytes ← idxBytes tx.fromIdx
  return natOfBytesBE ([signByte tx.toBJJ, tx.fee] ++ nonceB ++ TokenID.bytes tx.tokenID ++ toIdxBytes ++
    fromIdxBytes ++ bytesBE 2 chainID.toNat ++ signatureConstantBytes)

/-- `TxCompressedDataEmpty`. -/
def txCompressedDataEmpty (chainID : BitVec 16) : Nat :=
  natOfBytesBE (zeros 23 ++ bytesBE 2 chainID.toNat ++ signatureConstantBytes)

/-- The layout that `TxCompressedDataV2` and `RqTxCompressedDataV2` share. -/
def compressV2 (toBJJ : PublicKeyComp) (fee : FeeSelector) (nonce : Nat) (tokenID : TokenID) (amount : Int)
    (toIdx fromIdx : Nat) : Except Err Nat := do
  let amountFloat40Bytes ← newFloat40 amount >>= float40Bytes
  let nonceB ← nonceBytes nonce
  let toIdxBytes ← idxBytes toIdx
  let fromIdxBytes ← idxBytes fromIdx
  return natOfBytesBE ([signByte toBJJ, fee] ++ nonceB ++ TokenID.bytes tokenID ++ amountFloat40Bytes ++
    toIdxBytes ++ fromIdxBytes)

/-- `TxCompressedDataV2`. -/
def txCompressedDataV2 (tx : PoolL2Tx) : Except Err Nat :=
  compressV2 tx.toBJJ tx.fee tx.nonce tx.tokenID tx.amount tx.toIdx tx.fromIdx

/-- `RqTxCompressedDataV2`: an absent amount counts as zero. -/
def rqTxCompressedDataV2 (tx : PoolL2Tx) : Except Err Nat :=
  compressV2 tx.rqToBJJ tx.rqFee tx.rqNonce tx.rqTokenID (tx.rqAmount.getD 0) tx.rqToIdx tx.rqFromIdx

end PoolL2Tx

/-! ### Decoding what was published -/

theorem idxTail_bytesBE {idxLen idx : Nat} (hlen : idxLen ≤ 6) :
    idxTail idxLen (bytesBE 6 idx) = .ok (bytesBE idxLen idx) := by
  rw [idxTail, if_pos hlen, drop_bytesBE 6 idxLen idx hlen]

end HermezRollup
