import HermezRollup.Types

/-! The rollup contract (`Hermez.sol` with its helpers): the queue of L1 user transactions, the forging
of batches and the two ways to withdraw.  A call either reverts with a message or returns the new
state and the events it emits.  Fixed-width Solidity integers are bit vectors, whose arithmetic wraps
as it does in Solidity 0.6; `uint256` values on which the contract does no arithmetic are numbers.

The contracts the rollup talks to (auction, verifiers, tokens, withdrawal delayer) answer through
`World`, whose functions may change from call to call.  Memory written with assembly is modelled by the
byte string that is hashed. -/

namespace HermezRollup

open Bytes

structure VerifierRollup where
  maxTx : Nat
  nLevels : Nat
  deriving DecidableEq, Repr

/-- A zk-SNARK proof; the contract only hands it to a verifier. -/
structure Proof where
  proofA : List Nat
  proofB : List (List Nat)
  proofC : List Nat
  deriving DecidableEq, Repr

/-- The storage of the contract, with the balances it holds of each token (the zero address is
ether). -/
structure Hermez where
  rollupVerifiers : List VerifierRollup
  lastIdx : BitVec 48
  lastForgedBatch : BitVec 32
  stateRootMap : BitVec 32 → Nat
  exitRootsMap : BitVec 32 → Nat
  exitNullifierMap : BitVec 32 → BitVec 48 → Bool
  tokenList : List Address
  tokenMap : Address → Nat
  mapL1TxQueue : BitVec 32 → Bytes
  lastL1L2Batch : BitVec 64
  nextL1ToForgeQueue : BitVec 32
  nextL1FillingQueue : BitVec 32
  forgeL1L2BatchTimeout : BitVec 8
  balanceOf : Address → Nat

structure Msg where
  sender : Address
  origin : Address
  value : Nat := 0
  blockNumber : Nat := 0

/-- The answers of the other contracts during a call. -/
structure World where
  /-- The address of the rollup contract. -/
  thisAddress : Address
  chainID : Nat
  canForge : (coordinator : Address) → (blockNumber : Nat) → Bool
  auctionForge : (coordinator : Address) → Bool
  verifyProof : (verifierIdx : Nat) → Proof → (input : Nat) → Bool
  verifyWithdrawProof : Proof → (input : Nat) → Bool
  processInstantWithdrawal : (token : Address) → (amount : Nat) → Bool
  /-- What the contract receives when it pulls a token from a sender, unless the transfer reverts. -/
  transferFrom : (token sender : Address) → (amount : Nat) → Option Nat
  /-- Whether an account takes the ether it is sent. -/
  sendEther : (recipient : Address) → (value : Nat) → Bool
  transfer : (token recipient : Address) → (value : Nat) → Bool
  /-- The allowance for the withdrawal delayer. -/
  approve : (token : Address) → (value : Nat) → Bool
  delayerDeposit : (owner token : Address) → (amount : Nat) → Except String Unit
  hermezGovernanceAddress : Address
  /-- Whether the fee in HEZ for a new token goes from its sender to the governance. -/
  payFeeAddToken : (sender : Address) → Bool
  totalSupply : (token : Address) → Nat

/-- What a call shows to the outside: the events it emits, and between them the transfers and the deposits
in the withdrawal delayer by which funds leave the contract. -/
inductive Event where
  | l1UserTx (queueIndex : BitVec 32) (position : BitVec 8) (l1UserTx : Bytes)
  | forgeBatch (batchNum : BitVec 32) (l1UserTxsLen : BitVec 16)
  | withdraw (idx : BitVec 48) (numExitRoot : BitVec 32) (instantWithdraw : Bool)
  | addToken (tokenAddress : Address) (tokenID : TokenID)
  | transfer (token recipient : Address) (value : Nat)
  | delayerDeposit (owner token : Address) (amount : Nat)
  deriving DecidableEq, Repr

def require (condition : Bool) (message : String) : Except String Unit :=
  if condition then .ok () else .error message

def reservedIdx : BitVec 48 := 255

def exitIdx : BitVec 48 := 1

def limitLoadAmount : Nat := 2 ^ 128

def limitL2TransferAmount : Nat := 2 ^ 192

def limitTokens : Nat := 2 ^ 32

def maxL1UserTx : Nat := 128

def maxL1Tx : Nat := 256

/-- `_float2Fix`. -/
def float2Fix (float : BitVec 40) : Nat :=
  let m := (float &&& 0x7FFFFFFFF#40).toNat
  let e := (float >>> 35).toNat
  m * 10 ^ e

/-- The arguments of an L1 user transaction, with the sender of the call. -/
structure L1UserTxArgs where
  ethAddress : Address
  babyPubKey : BitVec 256
  fromIdx : BitVec 48
  loadAmountF : BitVec 40
  amountF : BitVec 40
  tokenID : TokenID
  toIdx : BitVec 48
  deriving DecidableEq, Repr

namespace L1UserTxArgs

/-- `abi.encodePacked` of the arguments. -/
def encodePacked (args : L1UserTxArgs) : Bytes :=
  bytesBE 20 args.ethAddress.toNat ++ bytesBE 32 args.babyPubKey.toNat ++ bytesBE 6 args.fromIdx.toNat ++
    bytesBE 5 args.loadAmountF.toNat ++ bytesBE 5 args.amountF.toNat ++ bytesBE 4 args.tokenID.toNat ++
    bytesBE 6 args.toIdx.toNat

end L1UserTxArgs

namespace Hermez

/-- The state `initializeHermez` leaves behind. -/
def initializeHermez (rollupVerifiers : List VerifierRollup) (forgeL1L2BatchTimeout : BitVec 8) : Hermez where
  rollupVerifiers := rollupVerifiers
  lastIdx := reservedIdx
  lastForgedBatch := 0
  stateRootMap := fun _ => 0
  exitRootsMap := fun _ => 0
  exitNullifierMap := fun _ _ => false
  tokenList := [0]
  tokenMap := fun _ => 0
  mapL1TxQueue := fun _ => []
  lastL1L2Batch := 0
  nextL1ToForgeQueue := 0
  nextL1FillingQueue := 1
  forgeL1L2BatchTimeout := forgeL1L2BatchTimeout
  balanceOf := fun _ => 0

/-! ### L1 user transactions -/

/-- `_l1QueueAddTx`: append to the filling queue, and move on to the next one when it is full. -/
def l1QueueAddTx (s : Hermez) (args : L1UserTxArgs) : Hermez × List Event :=
  let l1Tx := args.encodePacked
  let queue := s.mapL1TxQueue s.nextL1FillingQueue
  let currentPosition := queue.length / rollupConstL1UserTotalBytes
  let s' := { s with mapL1TxQueue := Function.update s.mapL1TxQueue s.nextL1FillingQueue (queue ++ l1Tx) }
  let event := Event.l1UserTx s.nextL1FillingQueue (BitVec.ofNat 8 currentPosition) l1Tx
  if maxL1UserTx ≤ currentPosition + 1 then
    ({ s' with nextL1FillingQueue := s.nextL1FillingQueue + 1 }, [event])
  else (s', [event])

/-- The receiver can be 0 (no transfer), the exit index or the index of an account. -/
def checkToIdx (s : Hermez) (args : L1UserTxArgs) : Except String Unit :=
  if args.toIdx = 0 then
    require (float2Fix args.amountF = 0) "Hermez::_addL1Transaction: AMOUNT_MUST_BE_0_IF_NOT_TRANSFER"
  else if args.toIdx = exitIdx then
    require (args.loadAmountF = 0) "Hermez::_addL1Transaction: LOADAMOUNT_MUST_BE_0_IF_EXIT"
  else require (reservedIdx < args.toIdx ∧ args.toIdx ≤ s.lastIdx) "Hermez::_addL1Transaction: INVALID_TOIDX"

/-- The sender can be 0 (create an account) or the index of an account. -/
def checkFromIdx (s : Hermez) (args : L1UserTxArgs) : Except String Unit :=
  if args.fromIdx = 0 then
    require (args.babyPubKey ≠ 0) "Hermez::_addL1Transaction: INVALID_CREATE_ACCOUNT_WITH_NO_BABYJUB"
  else do
    require (reservedIdx < args.fromIdx ∧ args.fromIdx ≤ s.lastIdx) "Hermez::_addL1Transaction: INVALID_FROMIDX"
    require (args.babyPubKey = 0) "Hermez::_addL1Transaction: BABYJUB_MUST_BE_0_IF_NOT_CREATE_ACCOUNT"

/-- The checks of `_addL1Transaction`. -/
def checkL1Transaction (s : Hermez) (args : L1UserTxArgs) : Except String Unit := do
  require (float2Fix args.amountF < limitL2TransferAmount) "Hermez::_addL1Transaction: AMOUNT_EXCEED_LIMIT"
  s.checkToIdx args
  s.checkFromIdx args

/-- `_addL1Transaction`. -/
def addL1TransactionInternal (s : Hermez) (args : L1UserTxArgs) : Except String (Hermez × List Event) := do
  s.checkL1Transaction args
  return s.l1QueueAddTx args

/-- The token of an identifier; an index out of range reverts. -/
def tokenAddress (s : Hermez) (tokenID : TokenID) : Except String Address :=
  match s.tokenList[tokenID.toNat]? with
  | some token => .ok token
  | none => .error "invalid opcode"

/-- Add to what the contract holds of a token. -/
def receive (s : Hermez) (token : Address) (amount : Nat) : Hermez :=
  { s with balanceOf := Function.update s.balanceOf token (s.balanceOf token + amount) }

/-- The deposit of `addL1Transaction`: ether must come with the call, a token is pulled from the
sender and its balance compared before and after.  `permit` only sets an allowance. -/
def depositLoadAmount (w : World) (s : Hermez) (msg : Msg) (tokenID : TokenID) (loadAmount : Nat) :
    Except String Hermez :=
  if 0 < loadAmount then
    if tokenID = 0 then do
      require (loadAmount = msg.value) "Hermez::addL1Transaction: LOADAMOUNT_ETH_DOES_NOT_MATCH"
      return s
    else do
      require (msg.value = 0) "Hermez::addL1Transaction: MSG_VALUE_NOT_EQUAL_0"
      let token ← s.tokenAddress tokenID
      match w.transferFrom token msg.sender loadAmount with
      | none => .error "Hermez::_safeTransferFrom: ERC20_TRANSFERFROM_FAILED"
      | some received =>
        require (received = loadAmount) "Hermez::addL1Transaction: LOADAMOUNT_ERC20_DOES_NOT_MATCH"
        return s.receive token received
  else .ok s

/-- `addL1Transaction`.  The ether sent with the call is credited before the body runs. -/
def addL1Transaction (w : World) (s : Hermez) (msg : Msg) (args : L1UserTxArgs) :
    Except String (Hermez × List Event) := do
  let s := s.receive 0 msg.value
  require (args.tokenID.toNat < s.tokenList.length) "Hermez::addL1Transaction: TOKEN_NOT_REGISTERED"
  let loadAmount := float2Fix args.loadAmountF
  require (loadAmount < limitLoadAmount) "Hermez::addL1Transaction: LOADAMOUNT_EXCEED_LIMIT"
  let s ← s.depositLoadAmount w msg args.tokenID loadAmount
  s.addL1TransactionInternal { args with ethAddress := msg.sender }

/-! ### Forging -/

/-- The arguments of `forgeBatch`. -/
structure ForgeBatchArgs where
  newLastIdx : BitVec 48
  newStRoot : Nat
  newExitRoot : Nat
  encodedL1CoordinatorTx : Bytes
  l1L2TxsData : Bytes
  feeIdxCoordinator : Bytes
  verifierIdx : BitVec 8
  l1Batch : Bool
  proof : Proof

section Forge

variable [Libraries] (w : World)

/-- `_checkSig`: the address that signed the authorization for a key. -/
def checkSig (babyPubKey : BitVec 256) (r s : Bytes) (v : UInt8) :
    Except String Address := do
  require (natOfBytesBE s ≤ 0x7FFFFFFFFFFFFFFFFFFFFFFFFFFFFFFF5D576E7357A4501DDFE92F46681B20A0)
    "HermezHelpers::_checkSig: INVALID_S_VALUE"
  let messageDigest := Libraries.accountCreationAuthHash w.chainID w.thisAddress babyPubKey
  -- the precompiled contract knows only the recovery bytes 27 and 28
  match if v = 27 ∨ v = 28 then Libraries.ecrecover messageDigest (r ++ s ++ [v - 27]) else none with
  | none => .error "HermezHelpers::_checkSig: INVALID_SIGNATURE"
  | some ethAddress =>
    if ethAddress = 0 then .error "HermezHelpers::_checkSig: INVALID_SIGNATURE" else .ok ethAddress

/-- One account creation of a coordinator in the form of an L1 user transaction. -/
def buildL1CoordinatorTx (s : Hermez) (b : Bytes) : Except String Bytes := do
  let v := b.headD 0
  let babyPubKey := BitVec.ofNat 256 (natOfBytesBE (slice b 65 97))
  let tokenID := natOfBytesBE (slice b 97 101)
  require (tokenID < s.tokenList.length) "Hermez::_buildL1Data: TOKEN_NOT_REGISTERED"
  let ethAddress ← if v ≠ 0 then checkSig w babyPubKey (slice b 33 65) (slice b 1 33) v
    else .ok rollupConstEthAddressInternalOnly
  return bytesBE 20 ethAddress.toNat ++ bytesBE 32 babyPubKey.toNat ++ zeros 16 ++ bytesBE 4 tokenID ++ zeros 6

def buildL1CoordinatorTxs (s : Hermez) (encoded : Bytes) :
    Nat → Except String Bytes
  | 0 => .ok []
  | n + 1 => do
    let first ← buildL1CoordinatorTx w s (slice encoded 0 rollupConstL1CoordinatorTotalBytes)
    let rest ← buildL1CoordinatorTxs s (encoded.drop rollupConstL1CoordinatorTotalBytes) n
    return first ++ rest

/-- `_buildL1Data`: the queue to forge (in an L1 batch), the account creations, zeros. -/
def buildL1Data (s : Hermez) (args : ForgeBatchArgs) : Except String Bytes := do
  let l1CoordinatorLength := args.encodedL1CoordinatorTx.length / rollupConstL1CoordinatorTotalBytes
  let l1UserTxQueue := if args.l1Batch then s.mapL1TxQueue s.nextL1ToForgeQueue else []
  let l1UserLength := l1UserTxQueue.length / rollupConstL1UserTotalBytes
  require (l1UserLength + l1CoordinatorLength ≤ maxL1Tx) "Hermez::_buildL1Data: L1_TX_OVERFLOW"
  let l1Coordinator ← buildL1CoordinatorTxs w s args.encodedL1CoordinatorTx l1CoordinatorLength
  return l1UserTxQueue.take (l1UserLength * rollupConstL1UserTotalBytes) ++ l1Coordinator ++
    zeros ((maxL1Tx - l1UserLength - l1CoordinatorLength) * rollupConstL1UserTotalBytes)

/-- The bytes `_constructCircuitInput` hashes. -/
def circuitInputBytes (s : Hermez) (args : ForgeBatchArgs) : Except String Bytes := do
  match s.rollupVerifiers[args.verifierIdx.toNat]? with
  | none => .error "invalid opcode"
  | some verifier =>
    let l1L2TxsDataLength := (verifier.nLevels / 8 * 2 + 5 + 1) * verifier.maxTx
    let feeIdxCoordinatorLength := verifier.nLevels / 8 * 64
    let l1Data ← buildL1Data w s args
    require (args.l1L2TxsData.length ≤ l1L2TxsDataLength) "Hermez::_constructCircuitInput: L2_TX_OVERFLOW"
    require (args.feeIdxCoordinator.length ≤ feeIdxCoordinatorLength)
      "Hermez::_constructCircuitInput: INVALID_FEEIDXCOORDINATOR_LENGTH"
    return bytesBE 6 s.lastIdx.toNat ++ bytesBE 6 args.newLastIdx.toNat ++
      bytesBE 32 (s.stateRootMap s.lastForgedBatch) ++ bytesBE 32 args.newStRoot ++ bytesBE 32 args.newExitRoot ++
      l1Data ++
      args.l1L2TxsData ++ zeros (l1L2TxsDataLength - args.l1L2TxsData.length) ++
      args.feeIdxCoordinator ++ zeros (feeIdxCoordinatorLength - args.feeIdxCoordinator.length) ++
      bytesBE 2 w.chainID ++ bytesBE 4 (s.lastForgedBatch.toNat + 1)

/-- `_constructCircuitInput`. -/
def constructCircuitInput (s : Hermez) (args : ForgeBatchArgs) : Except String Nat := do
  let inputBytes ← circuitInputBytes w s args
  return Libraries.sha256 inputBytes % rollupConstRfield

/-- `_clearQueue`: drop the queue just forged and move on, keeping one queue to be filled ahead. -/
def clearQueue (s : Hermez) : Hermez × BitVec 16 :=
  let l1UserTxsLen := BitVec.ofNat 16 ((s.mapL1TxQueue s.nextL1ToForgeQueue).length / rollupConstL1UserTotalBytes)
  let s' := { s with
    mapL1TxQueue := Function.update s.mapL1TxQueue s.nextL1ToForgeQueue []
    nextL1ToForgeQueue := s.nextL1ToForgeQueue + 1 }
  if s'.nextL1ToForgeQueue = s'.nextL1FillingQueue then
    ({ s' with nextL1FillingQueue := s'.nextL1FillingQueue + 1 }, l1UserTxsLen)
  else (s', l1UserTxsLen)

/-- The state update of a forged batch, before the queue is cleared. -/
def updateForged (s : Hermez) (args : ForgeBatchArgs) : Hermez :=
  let batch := s.lastForgedBatch + 1
  { s with
    lastForgedBatch := batch
    lastIdx := args.newLastIdx
    stateRootMap := Function.update s.stateRootMap batch args.newStRoot
    exitRootsMap := Function.update s.exitRootsMap batch args.newExitRoot }

/-- The clearing of the queue in an L1 batch, with the restart of the timeout. -/
def clearIfL1Batch (s : Hermez) (msg : Msg) (l1Batch : Bool) : Hermez × BitVec 16 :=
  if l1Batch then clearQueue { s with lastL1L2Batch := BitVec.ofNat 64 msg.blockNumber } else (s, 0)

/-- `forgeBatch`. -/
def forgeBatch (s : Hermez) (msg : Msg) (args : ForgeBatchArgs) :
    Except String (Hermez × List Event) := do
  require (msg.sender = msg.origin) "Hermez::forgeBatch: INTENAL_TX_NOT_ALLOWED"
  require (w.canForge msg.sender msg.blockNumber) "Hermez::forgeBatch: AUCTION_DENIED"
  require (args.l1Batch ∨ msg.blockNumber < (s.lastL1L2Batch + s.forgeL1L2BatchTimeout.setWidth 64).toNat)
    "Hermez::forgeBatch: L1L2BATCH_REQUIRED"
  let input ← constructCircuitInput w s args
  require (w.verifyProof args.verifierIdx.toNat args.proof input) "Hermez::forgeBatch: INVALID_PROOF"
  let (s', l1UserTxsLen) := (s.updateForged args).clearIfL1Batch msg args.l1Batch
  require (w.auctionForge msg.sender) "HermezAuctionProtocol::forge: CANNOT_FORGE"
  return (s', [.forgeBatch s'.lastForgedBatch l1UserTxsLen])

end Forge

/-! ### Withdrawals -/

section Withdraw

variable [Libraries] (w : World)

/-- `_hashNode`. -/
def hashNode (left right : Nat) : Nat :=
  Libraries.poseidon [left, right]

/-- `_hashFinalNode`. -/
def hashFinalNode (key value : Nat) : Nat :=
  Libraries.poseidon [key, value, 1]

/-- The loop of `_smtVerifier`, from the last sibling down to the first: `i` siblings are left. -/
def smtVerifierLoop (siblings : List Nat) (key : Nat) : Nat → Nat → Nat
  | 0, nextHash => nextHash
  | i + 1, nextHash =>
    let siblingTmp := siblings.getD i 0
    let leftRight := key / 2 ^ i % 2 = 1
    smtVerifierLoop siblings key i (if leftRight then hashNode siblingTmp nextHash else hashNode nextHash siblingTmp)

/-- `_smtVerifier`. -/
def smtVerifier (root : Nat) (siblings : List Nat) (key value : Nat) : Bool :=
  root = smtVerifierLoop siblings key siblings.length (hashFinalNode key value)

/-- `_buildTreeState`: the four elements of an account leaf. -/
def buildTreeState (token : TokenID) (nonce : BitVec 48) (balance : BitVec 256) (ay : BitVec 256)
    (ethAddress : Address) : List Nat :=
  [((token.setWidth 256 ||| (nonce <<< 32).setWidth 256) ||| (ay >>> 255) <<< (32 + 40)).toNat,
    balance.toNat, ((ay <<< 1) >>> 1).toNat, ethAddress.toNat]

/-- Take from what the contract holds of a token. -/
def spend (s : Hermez) (token : Address) (amount : Nat) : Hermez :=
  { s with balanceOf := Function.update s.balanceOf token (s.balanceOf token - amount) }

/-- `_safeTransfer`.  Ether goes to the sender of the call, whatever the receiver. -/
def safeTransfer (s : Hermez) (msg : Msg) (token recipient : Address) (value : Nat) : Except String (Hermez × List Event) :=
  if token = 0 then do
    require (value ≤ s.balanceOf 0 ∧ w.sendEther msg.sender value) "Hermez::_safeTransfer: ETH_TRANSFER_FAILED"
    return (s.spend 0 value, [.transfer 0 msg.sender value])
  else do
    require (value ≤ s.balanceOf token ∧ w.transfer token recipient value) "Hermez::_safeTransfer: ERC20_TRANSFER_FAILED"
    return (s.spend token value, [.transfer token recipient value])

/-- `withdrawDelayerContract.deposit`: ether comes with the call, a token is pulled by the delayer. -/
def depositInDelayer (s : Hermez) (owner token : Address) (amount : Nat) : Except String (Hermez × List Event) := do
  w.delayerDeposit owner token amount
  require (amount ≤ s.balanceOf token) (if token = 0 then "" else "WithdrawalDelayer::deposit: TOKEN_TRANSFER_FAILED")
  return (s.spend token amount, [.delayerDeposit owner token amount])

/-- `_withdrawFunds`: pay the sender, directly or through the withdrawal delayer. -/
def withdrawFunds (s : Hermez) (msg : Msg) (amount : BitVec 192) (tokenID : TokenID) (instantWithdraw : Bool) :
    Except String (Hermez × List Event) :=
  if instantWithdraw then do
    let token ← s.tokenAddress tokenID
    s.safeTransfer w msg token msg.sender amount.toNat
  else if tokenID = 0 then
    s.depositInDelayer w msg.sender 0 amount.toNat
  else do
    let token ← s.tokenAddress tokenID
    require (w.approve token amount.toNat) "Hermez::_safeApprove: ERC20_APPROVE_FAILED"
    s.depositInDelayer w msg.sender token amount.toNat

def checkInstantWithdraw (s : Hermez) (amount : BitVec 192) (tokenID : TokenID) (instantWithdraw : Bool)
    (message : String) : Except String Unit :=
  if instantWithdraw then do
    let token ← s.tokenAddress tokenID
    require (w.processInstantWithdrawal token amount.toNat) message
  else .ok ()

def setNullifier (s : Hermez) (numExitRoot : BitVec 32) (idx : BitVec 48) : Hermez :=
  { s with
    exitNullifierMap := Function.update s.exitNullifierMap numExitRoot
      (Function.update (s.exitNullifierMap numExitRoot) idx true) }

/-- `withdrawMerkleProof`. -/
def withdrawMerkleProof (s : Hermez) (msg : Msg) (tokenID : TokenID) (amount : BitVec 192)
    (babyPubKey : BitVec 256) (numExitRoot : BitVec 32) (siblings : List Nat) (idx : BitVec 48)
    (instantWithdraw : Bool) : Except String (Hermez × List Event) := do
  s.checkInstantWithdraw w amount tokenID instantWithdraw
    "Hermez::withdrawMerkleProof: INSTANT_WITHDRAW_WASTED_FOR_THIS_USD_RANGE"
  let arrayState := buildTreeState tokenID 0 (amount.setWidth 256) babyPubKey msg.sender
  let stateHash := Libraries.poseidon arrayState
  let exitRoot := s.exitRootsMap numExitRoot
  require (s.exitNullifierMap numExitRoot idx = false) "Hermez::withdrawMerkleProof: WITHDRAW_ALREADY_DONE"
  require (smtVerifier exitRoot siblings idx.toNat stateHash) "Hermez::withdrawMerkleProof: SMT_PROOF_INVALID"
  let (s', transfers) ← (s.setNullifier numExitRoot idx).withdrawFunds w msg amount tokenID instantWithdraw
  return (s', transfers ++ [.withdraw idx numExitRoot instantWithdraw])

def withdrawCircuitInput (exitRoot : Nat) (sender : Address) (tokenID : TokenID) (amount : BitVec 192)
    (idx : BitVec 48) : Nat :=
  Libraries.sha256 (bytesBE 32 exitRoot ++ bytesBE 20 sender.toNat ++ bytesBE 4 tokenID.toNat ++
    bytesBE 24 amount.toNat ++ bytesBE 6 idx.toNat) % rollupConstRfield

/-- `withdrawCircuit`. -/
def withdrawCircuit (s : Hermez) (msg : Msg) (proof : Proof) (tokenID : TokenID) (amount : BitVec 192)
    (numExitRoot : BitVec 32) (idx : BitVec 48) (instantWithdraw : Bool) : Except String (Hermez × List Event) := do
  s.checkInstantWithdraw w amount tokenID instantWithdraw
    "Hermez::withdrawCircuit: INSTANT_WITHDRAW_WASTED_FOR_THIS_USD_RANGE"
  require (s.exitNullifierMap numExitRoot idx = false) "Hermez::withdrawCircuit: WITHDRAW_ALREADY_DONE"
  let input := withdrawCircuitInput (s.exitRootsMap numExitRoot) msg.sender tokenID amount idx
  require (w.verifyWithdrawProof proof input) "Hermez::withdrawCircuit: INVALID_ZK_PROOF"
  let (s', transfers) ← (s.setNullifier numExitRoot idx).withdrawFunds w msg amount tokenID instantWithdraw
  return (s', transfers ++ [.withdraw idx numExitRoot instantWithdraw])

/-- `addToken`.  The fee in HEZ goes from the sender to the governance, past this contract; the `permit` that
may come with it only sets an allowance. -/
def addToken (s : Hermez) (msg : Msg) (tokenAddress : Address) : Except String (Hermez × List Event) := do
  require (0 < w.totalSupply tokenAddress) "Hermez::addToken: TOTAL_SUPPLY_ZERO"
  let currentTokens := s.tokenList.length
  require (currentTokens < limitTokens) "Hermez::addToken: TOKEN_LIST_FULL"
  require (tokenAddress ≠ 0) "Hermez::addToken: ADDRESS_0_INVALID"
  require (s.tokenMap tokenAddress = 0) "Hermez::addToken: ALREADY_ADDED"
  require (msg.sender = w.hermezGovernanceAddress ∨ w.payFeeAddToken msg.sender)
    "Hermez::_safeTransferFrom: ERC20_TRANSFERFROM_FAILED"
  return ({ s with tokenList := s.tokenList ++ [tokenAddress],
                   tokenMap := Function.update s.tokenMap tokenAddress currentTokens },
    [.addToken tokenAddress (BitVec.ofNat 32 currentTokens)])

end Withdraw

end Hermez

/-! ### Calls -/

/-- The calls that anyone can make.  Those of the governance (`updateForgeL1L2BatchTimeout`,
`updateFeeAddToken`, the bucket parameters) are left out. -/
inductive Call where
  | addL1Transaction (args : L1UserTxArgs)
  | forgeBatch (args : Hermez.ForgeBatchArgs)
  | withdrawMerkleProof (tokenID : TokenID) (amount : BitVec 192) (babyPubKey : BitVec 256)
      (numExitRoot : BitVec 32) (siblings : List Nat) (idx : BitVec 48) (instantWithdraw : Bool)
  | withdrawCircuit (proof : Proof) (tokenID : TokenID) (amount : BitVec 192) (numExitRoot : BitVec 32)
      (idx : BitVec 48) (instantWithdraw : Bool)
  | addToken (tokenAddress : Address)

/-- A call together with what it sees: its sender, its block, and the other contracts. -/
structure Transaction where
  world : World
  msg : Msg
  call : Call

def Hermez.exec [Libraries] (s : Hermez) (tx : Transaction) : Except String (Hermez × List Event) :=
  match tx.call with
  | .addL1Transaction args => s.addL1Transaction tx.world tx.msg args
  | .forgeBatch args => s.forgeBatch tx.world tx.msg args
  | .withdrawMerkleProof tokenID amount babyPubKey numExitRoot siblings idx instantWithdraw =>
    s.withdrawMerkleProof tx.world tx.msg tokenID amount babyPubKey numExitRoot siblings idx instantWithdraw
  | .withdrawCircuit proof tokenID amount numExitRoot idx instantWithdraw =>
    s.withdrawCircuit tx.world tx.msg proof tokenID amount numExitRoot idx instantWithdraw
  | .addToken tokenAddress => s.addToken tx.world tx.msg tokenAddress

end HermezRollup
