import HermezRollup.Account
import HermezRollup.Fee
import HermezRollup.L2Tx

/-! How transactions get into the pool: the endpoints `postPoolTx` (`api/txspool.go`) and `postAtomicPool`
(`api/atomicpool.go`), from the body of a request to the rows of the table `tx_pool` (`db/l2db`).

Every field of a body may be missing, and then has the zero of its type, so a body is the record that
`json.Unmarshal` leaves.  The type of a transaction is a text there, its amount a pointer that may be nil.  A panic in
a handler is caught by the server, which then stores nothing.  Prices in dollars are outside the model: the databases
give a verdict on a fee. -/

namespace HermezRollup

open Bytes Fallible

/-- `PoolL2TxState`. -/
inductive PoolL2TxState where
  | pending
  | forging
  | forged
  | invalid
  deriving DecidableEq, Repr

namespace PoolL2TxState

def text : PoolL2TxState → String
  | pending => "pend"
  | forging => "fing"
  | forged => "fged"
  | invalid => "invl"

/-- The state that a text stands for; `IsValid` tells whether there is one. -/
def ofText (text : String) : Option PoolL2TxState :=
  [pending, forging, forged, invalid].find? (·.text = text)

end PoolL2TxState

def TxType.ofText (text : String) : Option TxType :=
  [exit, transfer, deposit, createAccountDeposit, createAccountDepositTransfer, depositTransfer, forceTransfer,
    forceExit, transferToEthAddr, transferToBJJ].find? (·.text = text)

/-- Why nothing was stored: an answer with a code and a type, an error of the database, or a panic. -/
inductive Refusal where
  | apiError (err : String) (code : Nat) (type : String)
  | sqlErr (err : String)
  | panic
  deriving DecidableEq, Repr

/-- The signature scheme of the accounts. -/
class BabyJubjub where
  /-- Whether a compressed signature of a hash is by a compressed key. -/
  verifyPoseidon : PublicKeyComp → Nat → BitVec 512 → Bool

namespace PoolL2Tx

variable [Libraries]

omit [Libraries] in
/-- The integers that `HashToSign` hashes. -/
def hashToSignInputs (tx : PoolL2Tx) (chainID : BitVec 16) : Except Err (List Nat) := do
  let toCompressedData ← tx.txCompressedData chainID
  let amountFloat40Bytes ← newFloat40 tx.amount >>= float40Bytes
  let e1 := natOfBytesBE (bytesBE 4 tx.maxNumBatch ++ amountFloat40Bytes ++ Address.bytes tx.toEthAddr)
  let rqTxCompressedDataV2 ← tx.rqTxCompressedDataV2
  return [toCompressedData, e1, (PublicKeyComp.unpackSignY tx.toBJJ).2, rqTxCompressedDataV2,
    tx.rqToEthAddr.toNat, (PublicKeyComp.unpackSignY tx.rqToBJJ).2]

/-- `HashToSign`. -/
def hashToSign (tx : PoolL2Tx) (chainID : BitVec 16) : Except Err Nat := do
  poseidonHash (← tx.hashToSignInputs chainID)

/-- `VerifySignature`. -/
def verifySignature [BabyJubjub] (tx : PoolL2Tx) (chainID : BitVec 16) (pkComp : PublicKeyComp) : Bool :=
  match tx.hashToSign chainID with
  | .error _ => false
  | .ok h => Libraries.signatureDecompresses tx.signature && BabyJubjub.verifyPoseidon pkComp h tx.signature

end PoolL2Tx

/-- The body of a transaction in a request, with the zeros of missing fields. -/
structure ReceivedJSON where
  txID : Bytes := emptyTxID
  type : String := ""
  tokenID : TokenID := 0
  fromIdx : Nat := 0
  toIdx : Nat := 0
  toEthAddr : Address := 0
  toBJJ : PublicKeyComp := 0
  amount : Option Int := none
  fee : FeeSelector := 0
  nonce : Nat := 0
  maxNumBatch : Nat := 0
  signature : BitVec 512 := 0
  state : String := ""
  rqOffset : Nat := 0
  info : Option String := none

/-- A transaction in the hands of the endpoints. -/
structure ReceivedTx where
  txID : Bytes
  fromIdx : Nat
  toIdx : Nat
  toEthAddr : Address
  toBJJ : PublicKeyComp
  tokenID : TokenID
  amount : Option Int
  fee : FeeSelector
  nonce : Nat
  state : PoolL2TxState
  maxNumBatch : Nat
  info : String
  signature : BitVec 512
  atomicGroupID : BitVec 256 := 0
  rqFromIdx : Nat := 0
  rqToIdx : Nat := 0
  rqToEthAddr : Address := 0
  rqToBJJ : PublicKeyComp := 0
  rqTokenID : TokenID := 0
  rqAmount : Option Int := none
  rqFee : FeeSelector := 0
  rqNonce : Nat := 0
  type : String
  rqOffset : Nat

/-- A row of the table `tx_pool`.  A column that is null is `none`. -/
structure PoolRow where
  txID : Bytes
  fromIdx : Nat
  toIdx : Nat
  toEthAddr : Option Address
  toBJJ : Option PublicKeyComp
  tokenID : TokenID
  amount : Int
  fee : FeeSelector
  nonce : Nat
  state : PoolL2TxState
  signature : BitVec 512
  rqFromIdx : Option Nat
  rqToIdx : Option Nat
  rqToEthAddr : Option Address
  rqToBJJ : Option PublicKeyComp
  rqTokenID : Option TokenID
  rqAmount : Option Int
  rqFee : Option FeeSelector
  rqNonce : Option Nat
  type : String
  rqOffset : Option Nat
  atomicGroupID : Option (BitVec 256)
  maxNumBatch : Option Nat
  externalDelete : Bool := false
  deriving DecidableEq

/-- The transaction that is read back from a row: null columns are zeros. -/
def PoolRow.poolL2Tx (row : PoolRow) : PoolL2Tx :=
  { txID := row.txID, fromIdx := row.fromIdx, toIdx := row.toIdx, toEthAddr := row.toEthAddr.getD 0
    toBJJ := row.toBJJ.getD 0, tokenID := row.tokenID, amount := row.amount, fee := row.fee, nonce := row.nonce
    maxNumBatch := row.maxNumBatch.getD 0, signature := row.signature, rqFromIdx := row.rqFromIdx.getD 0
    rqToIdx := row.rqToIdx.getD 0, rqToEthAddr := row.rqToEthAddr.getD 0, rqToBJJ := row.rqToBJJ.getD 0
    rqTokenID := row.rqTokenID.getD 0, rqAmount := row.rqAmount, rqFee := row.rqFee.getD 0
    rqNonce := row.rqNonce.getD 0, type := TxType.ofText row.type, rqOffset := row.rqOffset.getD 0
    atomicGroupID := row.atomicGroupID.getD 0 }

/-- The state of a received transaction: pending, unless the body names another one. -/
def receivedState (state : String) : Except Refusal PoolL2TxState :=
  if state = "" then .ok .pending
  else match PoolL2TxState.ofText state with
    | some state => .ok state
    | none => .error (.apiError ("Invalid state: " ++ state) 1 "ErrParamValidationFailed")

/-- `UnmarshalJSON`, after the fields are decoded. -/
def unmarshalJSON (receivedJSON : ReceivedJSON) : Except Refusal ReceivedTx := do
  let state ← receivedState receivedJSON.state
  return { txID := receivedJSON.txID, fromIdx := receivedJSON.fromIdx, toIdx := receivedJSON.toIdx
           toEthAddr := receivedJSON.toEthAddr, toBJJ := receivedJSON.toBJJ, tokenID := receivedJSON.tokenID
           amount := receivedJSON.amount, fee := receivedJSON.fee, nonce := receivedJSON.nonce, state
           maxNumBatch := receivedJSON.maxNumBatch, info := receivedJSON.info.getD ""
           signature := receivedJSON.signature, type := receivedJSON.type, rqOffset := receivedJSON.rqOffset }

namespace ReceivedTx

/-- The transaction as the rest of the node sees it.  Only a handler that does not look at the amount may be given
one without. -/
def poolL2Tx (tx : ReceivedTx) : PoolL2Tx :=
  { txID := tx.txID, fromIdx := tx.fromIdx, toIdx := tx.toIdx, toEthAddr := tx.toEthAddr, toBJJ := tx.toBJJ
    tokenID := tx.tokenID, amount := tx.amount.getD 0, fee := tx.fee, nonce := tx.nonce
    maxNumBatch := tx.maxNumBatch, info := tx.info, signature := tx.signature, rqFromIdx := tx.rqFromIdx
    rqToIdx := tx.rqToIdx, rqToEthAddr := tx.rqToEthAddr, rqToBJJ := tx.rqToBJJ, rqTokenID := tx.rqTokenID
    rqAmount := tx.rqAmount, rqFee := tx.rqFee, rqNonce := tx.rqNonce, type := TxType.ofText tx.type
    rqOffset := tx.rqOffset, atomicGroupID := tx.atomicGroupID }

/-- The row that `addTxs` inserts: what is zero is null, and so are the linked fields without a linked sender. -/
def row (tx : ReceivedTx) : PoolRow :=
  let linked := decide (tx.rqFromIdx ≠ 0)
  { txID := tx.txID, fromIdx := tx.fromIdx, toIdx := tx.toIdx
    toEthAddr := if tx.toEthAddr ≠ emptyAddr then some tx.toEthAddr else none
    toBJJ := if tx.toBJJ ≠ emptyBJJComp then some tx.toBJJ else none
    tokenID := tx.tokenID, amount := tx.amount.getD 0, fee := tx.fee, nonce := tx.nonce, state := tx.state
    signature := tx.signature
    rqFromIdx := if linked then some tx.rqFromIdx else none
    rqToIdx := if linked ∧ tx.rqToIdx ≠ 0 then some tx.rqToIdx else none
    rqToEthAddr := if linked ∧ tx.rqToEthAddr ≠ emptyAddr then some tx.rqToEthAddr else none
    rqToBJJ := if linked ∧ tx.rqToBJJ ≠ emptyBJJComp then some tx.rqToBJJ else none
    rqTokenID := if linked then some tx.rqTokenID else none
    rqAmount := if linked then tx.rqAmount else none
    rqFee := if linked then some tx.rqFee else none
    rqNonce := if linked then some tx.rqNonce else none
    type := tx.type
    rqOffset := if linked then some tx.rqOffset else none
    atomicGroupID := if linked then some tx.atomicGroupID else none
    maxNumBatch := if tx.maxNumBatch ≠ 0 then some tx.maxNumBatch else none }

/-- `isAtomic`. -/
def isAtomic (tx : ReceivedTx) : Bool :=
  tx.rqFromIdx ≠ 0 || tx.rqToIdx ≠ 0 || tx.rqToEthAddr ≠ emptyAddr || tx.rqToBJJ ≠ emptyBJJComp ||
    tx.rqAmount.getD 0 ≠ 0 || tx.rqFee ≠ 0 || tx.rqNonce ≠ 0 || tx.rqTokenID ≠ 0

end ReceivedTx

/-- The accounts in the history database.  Accounts have the indexes of users. -/
structure AccountsTable where
  account : Nat → Option Account
  userIdx : ∀ idx acc, account idx = some acc → userThreshold ≤ idx

/-- What the databases say about the fee of a transaction, or about the average fee of several. -/
inductive FeeVerdict where
  | inRange
  | tooLow (err : String)
  | tooBig (err : String)
  | failed (err : String)

structure API where
  h : AccountsTable
  chainID : BitVec 16
  checkFeeIsInRange : ReceivedTx → FeeVerdict
  averageFee : List ReceivedTx → FeeVerdict
  maxTxs : Nat

/-- `addTxs`: nothing is inserted when the pool is full, or when an identifier is taken. -/
def addTxs (maxTxs : Nat) (pool : List PoolRow) (txs : List ReceivedTx) : Except Refusal (List PoolRow) :=
  if maxTxs ≤ (pool.filter fun row => row.state = .pending && !row.externalDelete).length then
    .error (.sqlErr "the pool is at full capacity. More transactions are not accepted currently")
  else if (pool ++ txs.map ReceivedTx.row).Pairwise fun row other => row.txID ≠ other.txID then
    .ok (pool ++ txs.map ReceivedTx.row)
  else .error (.sqlErr "Item already exists")

section

variable [Libraries]

def invalidTypeOrID (err : String) : Refusal := .apiError err 6 "ErrInvalidTxTypeOrTxID"

/-- `NewPoolL2Tx`: the transaction with the type and the identifier that its fields determine.  Those it came with
must be right or missing. -/
def newPoolL2Tx (tx : ReceivedTx) : Except Refusal ReceivedTx := do
  let typed ← tx.poolL2Tx.setType.mapError fun e => invalidTypeOrID e.message
  let type := (typed.type.map TxType.text).getD ""
  if tx.type ≠ "" ∧ tx.type ≠ type then
    .error (invalidTypeOrID ("L2Tx.Type: " ++ tx.type ++ ", should be: " ++ type))
  else match tx.amount with
    | none => .error .panic
    | some _ => do
      let txID ← typed.l2Tx.calculateTxID.mapError fun e => invalidTypeOrID e.message
      if tx.txID ≠ emptyTxID ∧ tx.txID ≠ txID then
        .error (invalidTypeOrID ("PoolL2Tx.TxID: " ++ toHex tx.txID ++ ", should be: " ++ toHex txID))
      else .ok { tx with type, txID }

/-- `RequestOffset2RelativePosition`. -/
def requestOffset2RelativePosition (rqOffset : Nat) : Except String Int :=
  match rqOffset with
  | 0 => .error "there is at least one transaction in the payload that could be forged without the others"
  | 1 => .ok 1
  | 2 => .ok 2
  | 3 => .ok 3
  | 4 => .ok (-4)
  | 5 => .ok (-3)
  | 6 => .ok (-2)
  | 7 => .ok (-1)
  | _ => .error "invalid requestOffset. Valid values goes from 0 to 7"

/-- The position of the transaction that the one at a position requests. -/
def requestedPosition (n i rqOffset : Nat) : Except Refusal Nat :=
  match requestOffset2RelativePosition rqOffset with
  | .error e => .error (.apiError e 22 "ErrFailedToFindOffsetToRelativePosition")
  | .ok relativePosition =>
    if (i : Int) + relativePosition > n - 1 ∨ (i : Int) + relativePosition < 0 then
      .error (.apiError "one of the transactions requested another one outside the bounds of the provided array" 20
        "ErrRqOffsetOutOfBounds")
    else .ok (i + relativePosition).toNat

/-- `isSingleAtomicGroup`: in the graph of the requests every transaction is reached from every other. -/
def isSingleAtomicGroup (txs : List ReceivedTx) : Bool :=
  let next i := do
    let tx ← txs[i]?
    (requestedPosition txs.length i tx.rqOffset).toOption
  let reaches i j := (List.range (txs.length + 1)).any fun k => (fun position => position.bind next)^[k] (some i) = some j
  (List.range txs.length).all (fun i => (next i).isSome) && 0 < txs.length &&
    (List.range txs.length).all fun i => (List.range txs.length).all fun j => reaches i j

structure AtomicGroup (Tx : Type) where
  id : BitVec 256
  txs : List Tx

/-- `IsAtomicGroupIDValid`. -/
def AtomicGroup.isAtomicGroupIDValid (group : AtomicGroup ReceivedTx) : Bool :=
  Libraries.keccak256 (group.txs.map ReceivedTx.txID).flatten = group.id

/-- A transaction of a group with the fields of the one it requests, which are not in the body. -/
def AtomicGroup.link (group : AtomicGroup ReceivedTx) (i : Nat) (tx : ReceivedTx) : Except Refusal ReceivedTx := do
  let position ← requestedPosition group.txs.length i tx.rqOffset
  match group.txs[position]? with
  | none => .error .panic
  | some requestedTx =>
    return { tx with
      rqFromIdx := requestedTx.fromIdx, rqToIdx := requestedTx.toIdx, rqToEthAddr := requestedTx.toEthAddr
      rqToBJJ := requestedTx.toBJJ, rqTokenID := requestedTx.tokenID, rqAmount := requestedTx.amount
      rqFee := requestedTx.fee, rqNonce := requestedTx.nonce, atomicGroupID := group.id, info := "" }

namespace API

variable [BabyJubjub] (a : API)

def verifyDestination (tx : ReceivedTx) : Except Refusal Unit :=
  match TxType.ofText tx.type with
  | some .transfer => match a.h.account tx.toIdx with
    | none => .error (.apiError ("error getting receiver account, idx " ++ toString tx.toIdx ++
        ", err: sql: no rows in result set") 12 "ErrGettingReceiverAccount")
    | some toAccount =>
      if tx.tokenID ≠ toAccount.tokenID then
        .error (.apiError ("tx.TokenID (" ++ toString tx.tokenID.toNat ++ ") != toAccount.TokenID (" ++
          toString toAccount.tokenID.toNat ++ ")") 9 "ErrAccountTokenNotEqualTxToken")
      else .ok ()
  | some .exit =>
    if tx.amount.getD 0 ≤ 0 then
      .error (.apiError "Transaction rejected because an exit with amount 0 has no sense" 5 "ErrExitAmount0")
    else .ok ()
  | _ => .ok ()

/-- `verifyPoolL2Tx`.  It normalizes a copy of its own, and gives nothing back. -/
def verifyPoolL2Tx (received : ReceivedTx) : Except Refusal Unit := do
  let tx ← newPoolL2Tx received
  let _ ← (calcFeeAmount (tx.amount.getD 0) tx.fee).mapError fun e => .apiError e.message 7 "ErrFeeOverflow"
  match a.h.account tx.fromIdx with
  | none => .error (.apiError ("error getting sender account, idx " ++ toString tx.fromIdx ++
      ", error: sql: no rows in result set") 8 "ErrGettingSenderAccount")
  | some account =>
    if tx.tokenID ≠ account.tokenID then
      .error (.apiError ("tx.TokenID (" ++ toString tx.tokenID.toNat ++ ") != account.TokenID (" ++
        toString account.tokenID.toNat ++ ")") 9 "ErrAccountTokenNotEqualTxToken")
    else if tx.nonce < account.nonce then
      .error (.apiError ("tx.Nonce (" ++ toString tx.nonce ++ ") < account.Nonce (" ++ toString account.nonce ++ ")") 10
        "ErrInvalidNonce")
    else if tx.poolL2Tx.verifySignature a.chainID account.bjj then a.verifyDestination tx
    else .error (.apiError "wrong signature" 11 "ErrInvalidSignature")

/-- `AddTxAPI`, with the answers of the endpoint to its errors. -/
def addTxAPI (pool : List PoolRow) (tx : ReceivedTx) : Except Refusal (List PoolRow) :=
  match a.checkFeeIsInRange tx with
  | .inRange => addTxs a.maxTxs pool [tx]
  | .tooLow err => .error (.apiError err 23 "ErrFeeTooLow")
  | .tooBig err => .error (.apiError err 24 "ErrFeeTooBig")
  | .failed err => .error (.sqlErr err)

/-- `AddAtomicTxsAPI`. -/
def addAtomicTxsAPI (pool : List PoolRow) (txs : List ReceivedTx) : Except Refusal (List PoolRow) :=
  if txs = [] then .ok pool
  else match a.averageFee txs with
    | .inRange => addTxs a.maxTxs pool txs
    | .tooLow err | .tooBig err | .failed err => .error (.sqlErr err)

/-- `postPoolTx`. -/
def postPoolTx (pool : List PoolRow) (body : ReceivedJSON) : Except Refusal (List PoolRow) := do
  let receivedTx ← unmarshalJSON body
  if receivedTx.isAtomic then
    .error (.apiError "atomic transactions are only accepted in POST /atomic-pool" 14 "ErrNotAtomicTxsInPostPoolTx")
  else do
    a.verifyPoolL2Tx receivedTx
    a.addTxAPI pool { receivedTx with info := "" }

/-- One round of the loop over a group: the transaction is linked, then verified. -/
def linkAndVerify (group : AtomicGroup ReceivedTx) (i : Nat) (tx : ReceivedTx) : Except Refusal ReceivedTx := do
  let linked ← group.link i tx
  a.verifyPoolL2Tx linked
  return linked

/-- `postAtomicPool`. -/
def postAtomicPool (pool : List PoolRow) (body : AtomicGroup ReceivedJSON) : Except Refusal (List PoolRow) := do
  let txs ← body.txs.mapM unmarshalJSON
  let group : AtomicGroup ReceivedTx := { id := body.id, txs }
  if !group.isAtomicGroupIDValid then .error (.apiError "invalid atomicGroupId" 21 "ErrInvalidAtomicGroupID")
  else if txs.length ≤ 1 then
    .error (.apiError "to use the atomic-pool endpoint at least two transactions are required" 19
      "ErrSingleTxInAtomicEndpoint")
  else do
    let linked ← (txs.zipIdx).mapM fun (tx, i) => a.linkAndVerify group i tx
    if !isSingleAtomicGroup linked then
      .error (.apiError "there is at least one transaction in the payload that could be forged without the others" 18
        "ErrTxsNotAtomic")
    else a.addAtomicTxsAPI pool linked

end API

end

end HermezRollup
