import HermezRollup.Float40

/-! L1 transactions (`common/l1tx.go`): the record, the type and identifier the node computes for it,
and its encodings.  `bytesGeneric` is the 78-byte form in which the contract queues L1 user
transactions, `bytesCoordinatorTx` the 101-byte form of account creations sent by a coordinator, and
`bytesDataAvailability` the short form published with every batch. -/

namespace HermezRollup

open Bytes

def txIDLen : Nat := 33

def emptyTxID : Bytes := zeros txIDLen

def txIDPrefixL1UserTx : UInt8 := 0

def txIDPrefixL1CoordTx : UInt8 := 1

def txIDPrefixL2Tx : UInt8 := 2

/-- The constant 3322668559 that ends the compressed data of every transaction. -/
def signatureConstantBytes : Bytes := [198, 11, 230, 15]

/-- An L1 transaction, sent by a user through the contract or added by a coordinator.  The effective
amounts are unset until the transaction is processed. -/
structure L1Tx where
  txID : Bytes := emptyTxID
  toForgeL1TxsNum : Option Nat := none
  position : Nat := 0
  userOrigin : Bool
  fromIdx : Nat := 0
  effectiveFromIdx : Nat := 0
  fromEthAddr : Address := 0
  fromBJJ : PublicKeyComp := 0
  toIdx : Nat := 0
  tokenID : TokenID := 0
  amount : Int := 0
  effectiveAmount : Option Int := none
  depositAmount : Int := 0
  effectiveDepositAmount : Option Int := none
  type : Option TxType := none
  batchNum : Option Nat := none
  deriving DecidableEq, Repr

/-- The generic form of a transaction that the apply functions work on. -/
structure Tx where
  isL1 : Bool
  txID : Bytes
  type : Option TxType
  fromIdx : Nat
  toIdx : Nat
  amount : Int
  tokenID : TokenID
  fee : FeeSelector := 0
  deriving DecidableEq, Repr

namespace L1Tx

/-- `SetType`.  The deposit is compared with zero through its low 64 bits. -/
def setType (tx : L1Tx) : Except Err L1Tx :=
  if tx.fromIdx = 0 then
    if tx.toIdx = 0 then .ok { tx with type := some .createAccountDeposit }
    else if userThreshold ≤ tx.toIdx then .ok { tx with type := some .createAccountDepositTransfer }
    else .error (.l1TxInvalidToIdx tx.toIdx)
  else if userThreshold ≤ tx.fromIdx then
    if tx.toIdx = 0 then .ok { tx with type := some .deposit }
    else if tx.toIdx = 1 then .ok { tx with type := some .forceExit }
    else if userThreshold ≤ tx.toIdx then
      if tx.depositAmount.natAbs % 2 ^ 64 = 0 then .ok { tx with type := some .forceTransfer }
      else .ok { tx with type := some .depositTransfer }
    else .error (.l1TxInvalidToIdx tx.toIdx)
  else .error (.l1TxInvalidFromIdx tx.fromIdx)

theorem setType_self {tx : L1Tx} (h : tx.setType = .ok tx) :
    (tx.type = some .createAccountDeposit ∧ tx.fromIdx = 0 ∧ tx.toIdx = 0) ∨
    (tx.type = some .createAccountDepositTransfer ∧ tx.fromIdx = 0 ∧ userThreshold ≤ tx.toIdx) ∨
    (tx.type = some .deposit ∧ userThreshold ≤ tx.fromIdx ∧ tx.toIdx = 0) ∨
    (tx.type = some .forceExit ∧ userThreshold ≤ tx.fromIdx ∧ tx.toIdx = 1) ∨
    (tx.type = some .forceTransfer ∧ userThreshold ≤ tx.fromIdx ∧ userThreshold ≤ tx.toIdx ∧
      tx.depositAmount.natAbs % 2 ^ 64 = 0) ∨
    (tx.type = some .depositTransfer ∧ userThreshold ≤ tx.fromIdx ∧ userThreshold ≤ tx.toIdx) := by
  have htype : ∀ {type : TxType}, (Except.ok { tx with type := some type } : Except Err L1Tx) = .ok tx →
      tx.type = some type := fun heq => (congrArg L1Tx.type (Except.ok.inj heq)).symm
  rw [setType] at h
  split_ifs at h with hfrom hto huser huser' hto' hexit huser'' hlow
  · exact Or.inl ⟨htype h, hfrom, hto⟩
  · exact Or.inr (Or.inl ⟨htype h, hfrom, huser⟩)
  · exact Or.inr (Or.inr (Or.inl ⟨htype h, huser', hto'⟩))
  · exact Or.inr (Or.inr (Or.inr (Or.inl ⟨htype h, huser', hexit⟩)))
  · exact Or.inr (Or.inr (Or.inr (Or.inr (Or.inl ⟨htype h, huser', huser'', hlow⟩))))
  · exact Or.inr (Or.inr (Or.inr (Or.inr (Or.inr ⟨htype h, huser', huser''⟩))))

/-- `SetID`: the hash of the queue number (user) or batch number (coordinator) and the position. -/
def setID [Libraries] (tx : L1Tx) : Except Err L1Tx :=
  let id (kind : UInt8) (number : Nat) : Bytes :=
    kind :: bytesBE 32 (Libraries.keccak256 (bytesBE 8 number ++ bytesBE 2 tx.position)).toNat
  if tx.userOrigin then
    match tx.toForgeL1TxsNum with
    | none => .error .userTxWithoutQueue
    | some number => .ok { tx with txID := id txIDPrefixL1UserTx number }
  else
    match tx.batchNum with
    | none => .error .coordinatorTxWithoutBatch
    | some number => .ok { tx with txID := id txIDPrefixL1CoordTx number }

/-- The error of a transaction whose type was given and differs from the computed one. -/
def checkType (given computed : Option TxType) : Except Err Unit :=
  match given, computed with
  | some given, some computed => if given = computed then .ok () else .error (.l1TxType computed given)
  | _, _ => .ok ()

/-- The error of a transaction whose identifier was given and differs from the computed one. -/
def checkID (given computed : Bytes) : Except Err Unit :=
  if given = emptyTxID ∨ given = computed then .ok () else .error (.l1TxID computed given)

/-- The generic transaction with the effective amount; the caller has set it. -/
def tx (tx : L1Tx) : Tx :=
  { isL1 := true, txID := tx.txID, type := tx.type, fromIdx := tx.fromIdx, toIdx := tx.toIdx,
    amount := tx.effectiveAmount.getD 0, tokenID := tx.tokenID }

/-- `TxCompressedData`: no key sign, fee nor nonce, then token, receiver, sender, chain and constant. -/
def txCompressedData (tx : L1Tx) (chainID : BitVec 16) : Except Err Nat := do
  let toIdxBytes ← idxBytes tx.toIdx
  let fromIdxBytes ← idxBytes tx.fromIdx
  return natOfBytesBE (zeros 7 ++ TokenID.bytes tx.tokenID ++ toIdxBytes ++ fromIdxBytes ++
    bytesBE 2 chainID.toNat ++ signatureConstantBytes)

/-- `BytesDataAvailability`: sender, receiver, amount, fee 0, with indexes of `nLevels / 8` bytes. -/
def bytesDataAvailability (tx : L1Tx) (nLevels : Nat) : Except Err Bytes := do
  let idxLen := nLevels / 8
  let length := (nLevels * 2 + 40 + 8) / 8
  let fromIdxBytes ← idxBytes tx.fromIdx >>= idxTail idxLen
  let toIdxBytes ← idxBytes tx.toIdx >>= idxTail idxLen
  let amountBytes ← match tx.effectiveAmount with
    | none => .ok (zeros 5)
    | some effectiveAmount => newFloat40 effectiveAmount >>= float40Bytes
  return fromIdxBytes ++ toIdxBytes ++ amountBytes ++ zeros (length - 2 * idxLen - 5)

/-- `BytesGeneric`: sender address and key, sender, deposit, amount, token, receiver in 78 bytes. -/
def bytesGeneric (tx : L1Tx) : Except Err Bytes := do
  let pkCompB := if tx.fromBJJ ≠ emptyBJJComp then swapEndianness (PublicKeyComp.bytes tx.fromBJJ) else zeros 32
  let fromIdxBytes ← idxBytes tx.fromIdx
  let depositAmountFloat40 ← newFloat40 tx.depositAmount
  let depositAmountFloat40Bytes ← float40Bytes depositAmountFloat40
  let amountFloat40 ← newFloat40 tx.amount
  let amountFloat40Bytes ← float40Bytes amountFloat40
  let toIdxBytes ← idxBytes tx.toIdx
  return Address.bytes tx.fromEthAddr ++ pkCompB ++ fromIdxBytes ++ depositAmountFloat40Bytes ++
    amountFloat40Bytes ++ TokenID.bytes tx.tokenID ++ toIdxBytes

/-- `BytesCoordinatorTx`: the recovery byte, `s`, `r`, the key and the token. -/
def bytesCoordinatorTx (tx : L1Tx) (compressedSignatureBytes : Bytes) : Except Err Bytes :=
  if tx.userOrigin then .error .notACoordinatorTx
  else do
    let v ← sliceE compressedSignatureBytes 64 65
    let s ← sliceE compressedSignatureBytes 32 64
    let r ← sliceE compressedSignatureBytes 0 32
    return v ++ s ++ r ++ swapEndianness (PublicKeyComp.bytes tx.fromBJJ) ++ TokenID.bytes tx.tokenID

end L1Tx

/-- `NewL1Tx`: compute type and identifier, and check those already given. -/
def newL1Tx [Libraries] (tx : L1Tx) : Except Err L1Tx := do
  let txTyped ← tx.setType
  L1Tx.checkType tx.type txTyped.type
  let txIdentified ← txTyped.setID
  L1Tx.checkID tx.txID txIdentified.txID
  return txIdentified

/-- `L1UserTxFromBytes`. -/
def l1UserTxFromBytes (b : Bytes) : Except Err L1Tx :=
  if b.length ≠ rollupConstL1UserTotalBytes then .error (.l1UserTxBytesLen b.length)
  else do
    let fromIdx ← idxFromBytes (slice b 52 58)
    let depositAmount ← float40BigInt (float40FromBytes (slice b 58 63))
    let amount ← float40BigInt (float40FromBytes (slice b 63 68))
    let tokenID ← tokenIDFromBytes (slice b 68 72)
    let toIdx ← idxFromBytes (slice b 72 78)
    return { userOrigin := true, fromEthAddr := bytesToAddress (slice b 0 20)
             fromBJJ := publicKeyCompFromBytes (swapEndianness (slice b 20 52))
             fromIdx, depositAmount, amount, tokenID, toIdx }

/-- `L1CoordinatorTxFromBytes`: with a recovery byte of 0 the account has only a Baby Jubjub key,
otherwise its address is the one that signed the authorization. -/
def l1CoordinatorTxFromBytes [Libraries] (b : Bytes) (chainID : Nat) (hermezAddress : Address) :
    Except Err L1Tx :=
  if b.length ≠ rollupConstL1CoordinatorTotalBytes then .error (.l1CoordinatorTxBytesLen b.length)
  else do
    let v := b.headD 0
    let s := slice b 1 33
    let r := slice b 33 65
    let fromBJJ := publicKeyCompFromBytes (swapEndianness (slice b 65 97))
    let tokenID ← tokenIDFromBytes (slice b 97 101)
    if 0 < v.toNat then
      -- Ethereum adds 27 to the recovery byte
      let signature := r ++ s ++ [v - 27]
      let hash := Libraries.accountCreationAuthHash (chainID % 2 ^ 16) hermezAddress fromBJJ
      match Libraries.ecrecover hash signature with
      | none => .error .invalidSignature
      | some fromEthAddr => .ok { userOrigin := false, fromEthAddr, fromBJJ, tokenID }
    else .ok { userOrigin := false, fromEthAddr := rollupConstEthAddressInternalOnly, fromBJJ, tokenID }

/-- `L1TxFromDataAvailability`: sender, receiver and effective amount of a published L1 transaction. -/
def l1TxFromDataAvailability (b : Bytes) (nLevels : Nat) : Except Err L1Tx := do
  let idxLen := nLevels / 8
  let fromIdxBytes ← sliceE b 0 idxLen
  let toIdxBytes ← sliceE b idxLen (idxLen * 2)
  let amountBytes ← sliceE b (idxLen * 2) (idxLen * 2 + 5)
  let fromIdx ← idxFromBytes (zeros (6 - idxLen) ++ fromIdxBytes)
  let toIdx ← idxFromBytes (zeros (6 - idxLen) ++ toIdxBytes)
  let effectiveAmount ← float40BigInt (float40FromBytes amountBytes)
  return { userOrigin := false, fromIdx, toIdx, effectiveAmount := some effectiveAmount }

/-! ### Decoding what was packed -/

theorem l1UserTxFromBytes_packed (ethAddr : Address) (pk : PublicKeyComp) {fromIdx toIdx : Nat}
    (hfrom : fromIdx ≤ maxIdxValue) (hto : toIdx ≤ maxIdxValue) {depositF amountF : Nat}
    (hdeposit : depositF < 2 ^ 40) (hamount : amountF < 2 ^ 40) (tokenID : TokenID) :
    l1UserTxFromBytes (bytesBE 20 ethAddr.toNat ++ bytesBE 32 pk.toNat ++ bytesBE 6 fromIdx ++ bytesBE 5 depositF ++
        bytesBE 5 amountF ++ bytesBE 4 tokenID.toNat ++ bytesBE 6 toIdx) =
      .ok { userOrigin := true, fromEthAddr := ethAddr, fromBJJ := pk, fromIdx := fromIdx, toIdx := toIdx,
            tokenID := tokenID, depositAmount := float40Value depositF, amount := float40Value amountF } := by
  have hdepositF : float40FromBytes (bytesBE 5 depositF) = depositF :=
    natOfBytesBE_bytesBE_of_lt (by omega)
  have hamountF : float40FromBytes (bytesBE 5 amountF) = amountF :=
    natOfBytesBE_bytesBE_of_lt (by omega)
  rw [l1UserTxFromBytes, if_neg (by simp [rollupConstL1UserTotalBytes])]
  -- each field is the end of what is left once the fields behind it are cut off
  simp (disch := simp) only [slice_append_left, slice_append_end]
  rw [show slice (bytesBE 20 ethAddr.toNat) 0 20 = Address.bytes ethAddr by simp [slice, Address.bytes],
    idxFromBytes_bytesBE hfrom, idxFromBytes_bytesBE hto, hdepositF, hamountF, float40BigInt_of_lt hdeposit,
    float40BigInt_of_lt hamount, bytesToAddress_bytes, publicKeyCompFromBytes_swap,
    show tokenIDFromBytes (bytesBE 4 tokenID.toNat) = .ok tokenID from tokenIDFromBytes_bytes tokenID]
  rfl

end HermezRollup
