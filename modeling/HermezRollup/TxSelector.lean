import HermezRollup.Authorizations
import HermezRollup.PoolApi
import Mathlib.Data.List.AList
import Mathlib.Data.List.Sort

/-! The transaction selector (`txselector/txselector.go`): which transactions of the pool go into the next batch, and
which accounts the coordinator creates for them.  The transactions of the pool are looked at in the order of their
fees, in several passes, until a pass selects none; when a transaction of an atomic group cannot be selected, all
starts again from the last checkpoint without the group.

The selector works on its own copy of the state.  It stops at an error, or at a failed group, which is caught.  What
the language leaves open is a parameter: the order in which a map is gone through, the order that an unstable sort
leaves, and the rounding of floating-point numbers. -/

namespace HermezRollup

open Bytes Fallible

abbrev AtomicGroupID := BitVec 256

/-- The account data with which the coordinator creates accounts for its fees.  The configuration of the node requires
an address and a key. -/
structure CoordAccount where
  addr : Address
  bjj : PublicKeyComp
  accountCreationAuth : Bytes
  addr_ne : addr ≠ emptyAddr
  bjj_ne : bjj ≠ emptyBJJComp

/-- A pending row of the pool.  There is no column for the receiver that was found. -/
structure PendingTx where
  tx : PoolL2Tx
  externalDelete : Bool := false
  auxToIdx_eq : tx.auxToIdx = 0

/-- The database of the pool: the pending transactions in the order of their arrival, and the authorizations by
address. -/
structure L2DB where
  pending : List PendingTx
  getAccountCreationAuth : Address → Option AccountCreationAuth := fun _ => none
  ethAddr_eq : ∀ addr auth, getAccountCreationAuth addr = some auth → auth.ethAddr = addr := by
    intro addr auth h
    cases h

namespace L2DB

def getPendingTxs (l2db : L2DB) : List PoolL2Tx :=
  (l2db.pending.filter fun row => !row.externalDelete).map (·.tx)

end L2DB

structure TxSelector where
  l2db : L2DB
  coordAccount : CoordAccount

/-- `TxSelectorError`: why a transaction is not selected. -/
structure TxSelectorError where
  message : String
  code : Nat
  type : String
  deriving DecidableEq, Repr

def errExitAmount : TxSelectorError :=
  ⟨"Exits with amount 0 make no sense, not accepting to prevent unintended transactions", 1, "ErrExit0Amount"⟩

def errUnsupportedMaxNumBatch : TxSelectorError :=
  ⟨"MaxNumBatch exceeded", 2, "ErrUnsupportedMaxNumBatch"⟩

def errSenderNotEnoughBalance (balanceAndCost : Option (Int × Int)) : TxSelectorError :=
  let text x := match x with
    | none => "<nil>"
    | some (n : Int) => toString n
  ⟨"Tx not selected due to not enough Balance at the sender. Current sender account Balance: " ++
    text (balanceAndCost.map (·.1)) ++ ", Amount+Fee: " ++ text (balanceAndCost.map (·.2)), 11,
    "ErrSenderNotEnoughBalance"⟩

def errNoCurrentNonce (txNonce accountNonce : Nat) : TxSelectorError :=
  ⟨"Tx not selected due to not current Nonce. Tx.Nonce: " ++ toString txNonce ++ ", Account.Nonce: " ++
    toString accountNonce, 12, "ErrNoCurrentNonce"⟩

def errNotEnoughSpaceL1Coordinator : TxSelectorError :=
  ⟨"Tx not selected because the L2Tx depends on a L1CoordinatorTx and there is not enough space for L1Coordinator", 13,
    "ErrNotEnoughSpaceL1Coordinator"⟩

def errTxDiscartedInProcessTxToEthAddrBJJ (due : String) : TxSelectorError :=
  ⟨"Tx not selected (in processTxToEthAddrBJJ) due to " ++ due, 14, "ErrTxDiscartedInProcessTxToEthAddrBJJ"⟩

def errToIdxNotFound (toIdx : Nat) : TxSelectorError :=
  ⟨"Tx not selected due to tx.ToIdx not found in StateDB. ToIdx: " ++ toString toIdx, 15, "ErrToIdxNotFound"⟩

def errTxDiscartedInProcessL2Tx (due : String) : TxSelectorError :=
  ⟨"Tx not selected (in ProcessL2Tx) due to " ++ due, 16, "ErrTxDiscartedInProcessL2Tx"⟩

def errNoAvailableSlots : TxSelectorError :=
  ⟨"Tx not selected due not available slots for L2Txs", 17, "ErrNoAvailableSlots"⟩

def errInvalidAtomicGroup : TxSelectorError :=
  ⟨"Tx not selected because it belongs to an atomic group with missing transactions or bad requested transaction", 18,
    "ErrInvalidAtomicGroup"⟩

/-- An atomic group that cannot be selected, with the transaction that failed. -/
structure FailedAtomicGroup where
  id : AtomicGroupID
  failedTxID : Bytes
  reason : TxSelectorError
  deriving DecidableEq, Repr

/-- Why a selection stops: an error, a failed group, or a loop that goes on for ever. -/
inductive Stop where
  | err (e : Err)
  | failedGroup (group : FailedAtomicGroup)
  | diverges
  deriving DecidableEq

abbrev SelectM := EStateM Stop TxProcessor

namespace PoolL2Tx

def explain (tx : PoolL2Tx) (reason : TxSelectorError) : PoolL2Tx :=
  { tx with info := reason.message, errorCode := reason.code, errorType := reason.type }

/-- The order of the transactions that are in no group: by fee, then by sender, then by nonce. -/
def before (tx other : PoolL2Tx) : Prop :=
  if tx.absoluteFee ≠ other.absoluteFee then other.absoluteFee < tx.absoluteFee
  else if tx.fromIdx ≠ other.fromIdx then tx.fromIdx < other.fromIdx
  else tx.nonce < other.nonce

instance (tx other : PoolL2Tx) : Decidable (tx.before other) := by
  rw [before]
  infer_instance

/-- The linked fields of a transaction describe another one. -/
def requests (tx requestedTx : PoolL2Tx) : Prop :=
  tx.rqFromIdx = requestedTx.fromIdx ∧ tx.rqToIdx = requestedTx.toIdx ∧ tx.rqToEthAddr = requestedTx.toEthAddr ∧
    tx.rqToBJJ = requestedTx.toBJJ ∧ tx.rqTokenID = requestedTx.tokenID ∧ tx.rqFee = requestedTx.fee ∧
    tx.rqNonce = requestedTx.nonce ∧ tx.rqAmount = some requestedTx.amount

instance (tx requestedTx : PoolL2Tx) : Decidable (tx.requests requestedTx) := by
  rw [requests]
  infer_instance

end PoolL2Tx

/-- What the language leaves open. -/
structure Runtime where
  /-- The order in which the keys of a map of groups come, at each time it is gone through. -/
  groupOrder : Nat → List AtomicGroupID → List AtomicGroupID
  groupOrder_perm : ∀ n ids, (groupOrder n ids).Perm ids
  /-- The order in which the keys of a map of accounts come. -/
  idxOrder : List Nat → List Nat
  idxOrder_perm : ∀ idxs, (idxOrder idxs).Perm idxs
  /-- `sort.Slice`, which need not keep the order of equal elements. -/
  sortSlice : List PoolL2Tx → List PoolL2Tx
  sortSlice_perm : ∀ txs, (sortSlice txs).Perm txs
  sortSlice_sorted : ∀ txs, (sortSlice txs).Pairwise fun tx other => ¬ other.before tx
  /-- The nearest floating-point number. -/
  round : Rat → Rat

/-! ### Atomic groups -/

section AtomicGroups

def groupTxs (txs : List PoolL2Tx) (id : AtomicGroupID) : List PoolL2Tx :=
  txs.filter (·.atomicGroupID = id)

def groupIDs (txs : List PoolL2Tx) : List AtomicGroupID :=
  ((txs.filter (·.atomicGroupID ≠ 0)).map (·.atomicGroupID)).dedup

/-- `setInfoForFailedAtomicTx`. -/
def setInfoForFailedAtomicTx (isOriginOfFailure : Bool) (failedAtomicGroupID : AtomicGroupID) (failedTxID : Bytes)
    (failMessage : TxSelectorError) : TxSelectorError :=
  if isOriginOfFailure then failMessage
  else
    { message := "unselectable atomic group " ++ toHex (bytesBE 32 failedAtomicGroupID.toNat) ++ ", tx " ++
        toHex failedTxID ++ " failed due to: " ++ failMessage.message
      code := errInvalidAtomicGroup.code
      type := errInvalidAtomicGroup.type }

def failureOf (failedGroups : List FailedAtomicGroup) (tx : PoolL2Tx) : Option FailedAtomicGroup :=
  if tx.atomicGroupID = 0 then none else failedGroups.find? (·.id = tx.atomicGroupID)

def explainFailure (tx : PoolL2Tx) (failed : FailedAtomicGroup) : PoolL2Tx :=
  tx.explain (setInfoForFailedAtomicTx (tx.txID = failed.failedTxID) tx.atomicGroupID failed.failedTxID failed.reason)

/-- `filterFailedAtomicGroups`: the transactions to process, and those of failed groups. -/
def filterFailedAtomicGroups (txs : List PoolL2Tx) (failedGroups : List FailedAtomicGroup) :
    List PoolL2Tx × List PoolL2Tx :=
  (txs.filter fun tx => (failureOf failedGroups tx).isNone,
    txs.filterMap fun tx => (failureOf failedGroups tx).map (explainFailure tx))

/-- `isAtomicGroupValid`. -/
def isAtomicGroupValid (txs : List PoolL2Tx) : Bool :=
  txs.zipIdx.all fun (tx, i) => match requestedPosition txs.length i tx.rqOffset with
    | .error _ => false
    | .ok requestedPosition => match txs[requestedPosition]? with
      | none => false
      | some requestedTx => tx.requests requestedTx

/-- `filterInvalidAtomicGroups`: the transactions to process, and those of invalid groups. -/
def filterInvalidAtomicGroups (order : List AtomicGroupID → List AtomicGroupID) (txs : List PoolL2Tx) :
    List PoolL2Tx × List PoolL2Tx :=
  let ids := order (groupIDs txs)
  (txs.filter (·.atomicGroupID = 0) ++
      (ids.filter fun id => isAtomicGroupValid (groupTxs txs id)).flatMap (groupTxs txs),
    (ids.filter fun id => !isAtomicGroupValid (groupTxs txs id)).flatMap fun id =>
      (groupTxs txs id).map (·.explain errInvalidAtomicGroup))

/-- `calculateAtomicGroupsAverageFee`, for one group. -/
def averageFee (round : Rat → Rat) (txs : List PoolL2Tx) (id : AtomicGroupID) : Rat :=
  match groupTxs txs id with
  | [] => 0
  | tx :: rest =>
    round (rest.foldl (fun sum tx => round (sum + tx.absoluteFee)) tx.absoluteFee / (rest.length + 1 : Nat))

/-- The last part of `sortL2Txs`: groups go in between the other transactions, a group before the first transaction
whose fee is not higher. -/
def mergeByFee (fee : AtomicGroupID → Rat) (group : AtomicGroupID → List PoolL2Tx) (nonAtomicTxs : List PoolL2Tx) :
    List AtomicGroupID → List PoolL2Tx
  | [] => nonAtomicTxs
  | id :: ids =>
    nonAtomicTxs.takeWhile (fun tx => fee id < tx.absoluteFee) ++ group id ++
      mergeByFee fee group (nonAtomicTxs.dropWhile fun tx => fee id < tx.absoluteFee) ids

/-- `sortL2Txs`. -/
def sortL2Txs (rt : Runtime) (order : List AtomicGroupID → List AtomicGroupID) (l2Txs : List PoolL2Tx)
    (atomicGroupsFee : AtomicGroupID → Rat) : List PoolL2Tx :=
  -- the sort of the groups is stable
  let atomicGroups := (order (groupIDs l2Txs)).insertionSort fun id other => atomicGroupsFee other ≤ atomicGroupsFee id
  mergeByFee atomicGroupsFee (groupTxs l2Txs) (rt.sortSlice (l2Txs.filter (·.atomicGroupID = 0))) atomicGroups

end AtomicGroups

/-! ### One pass over the transactions -/

def canAddL2TxThatNeedsNewCoordL1Tx (nAddedL1Txs nAddedL2Txs : Nat) (selectionConfig : Config) : Bool :=
  nAddedL1Txs < selectionConfig.maxL1Tx && nAddedL1Txs + nAddedL2Txs + 1 < selectionConfig.maxTx

def canAddL2Tx (nAddedL1Txs nAddedL2Txs : Nat) (selectionConfig : Config) : Bool :=
  nAddedL1Txs + nAddedL2Txs < selectionConfig.maxTx

/-- `checkPendingToCreateFutureTxs`: whether a transaction that waits in the contract will create the account. -/
def checkPendingToCreateFutureTxs (l1UserFutureTxs : List L1Tx) (tokenID : TokenID) (addr : Address)
    (bjj : PublicKeyComp) : Bool :=
  l1UserFutureTxs.any fun tx =>
    tx.fromEthAddr = addr && tx.tokenID = tokenID && (tx.fromBJJ = bjj || emptyBJJComp = bjj)

def emptyEthSignature : Bytes := zeros 65

def creationTx (positionL1 : Nat) (addr : Address) (bjj : PublicKeyComp) (tokenID : TokenID) : L1Tx :=
  { position := positionL1, userOrigin := false, fromEthAddr := addr, fromBJJ := bjj, tokenID, amount := 0
    depositAmount := 0, type := some .createAccountDeposit }

/-- What a pass has done so far, with the counters of `processL2Txs`. -/
structure Iteration where
  accAuths : List Bytes := []
  l1CoordinatorTxs : List L1Tx := []
  selectedL2Txs : List PoolL2Tx := []
  nonSelectedL2Txs : List PoolL2Tx := []
  unforjableL2Txs : List PoolL2Tx := []
  nAlreadyProcessedL1Txs : Nat
  nAlreadyProcessedL2Txs : Nat
  positionL1 : Nat

namespace Iteration

def addNonSelected (ite : Iteration) (tx : PoolL2Tx) : Iteration :=
  { ite with nonSelectedL2Txs := ite.nonSelectedL2Txs ++ [tx] }

def addUnforjable (ite : Iteration) (tx : PoolL2Tx) : Iteration :=
  { ite with unforjableL2Txs := ite.unforjableL2Txs ++ [tx] }

def addSelected (ite : Iteration) (tx : PoolL2Tx) : Iteration :=
  { ite with
    selectedL2Txs := ite.selectedL2Txs ++ [tx]
    nAlreadyProcessedL2Txs := ite.nAlreadyProcessedL2Txs + 1 }

def addL1CoordinatorTx (ite : Iteration) (tx : L1Tx) (accAuth : Bytes) : Iteration :=
  { ite with
    accAuths := ite.accAuths ++ [accAuth]
    l1CoordinatorTxs := ite.l1CoordinatorTxs ++ [tx]
    positionL1 := ite.positionL1 + 1 }

def countL1Tx (ite : Iteration) : Iteration :=
  { ite with nAlreadyProcessedL1Txs := ite.nAlreadyProcessedL1Txs + 1 }

/-- The creation of the account of a receiver: a transfer to a key needs no authorization. -/
def addReceiverCreation (ite : Iteration) (validL2Tx : PoolL2Tx) (l1CoordinatorTx : L1Tx)
    (accAuth : Option AccountCreationAuth) : Iteration :=
  if validL2Tx.toEthAddr = ffAddr then ite.addL1CoordinatorTx l1CoordinatorTx emptyEthSignature
  else match accAuth with
    | some accAuth => ite.addL1CoordinatorTx l1CoordinatorTx accAuth.signature
    | none => ite

end Iteration

/-- A transaction that is not selected: one of an atomic group stops the selection, any other gets the reason. -/
def giveUp (tx : PoolL2Tx) (reason : TxSelectorError) : SelectM PoolL2Tx :=
  if tx.atomicGroupID ≠ 0 then throw (.failedGroup { id := tx.atomicGroupID, failedTxID := tx.txID, reason })
  else pure (tx.explain reason)

/-- `uint32(CurrentBatch) + 1`. -/
def nextBatchNum (store : Store) : Nat :=
  (store.currentBatch % 2 ^ 32 + 1) % 2 ^ 32

namespace TxSelector

variable (txsel : TxSelector)

def getCoordIdx (store : Store) (tokenID : TokenID) : Except Err Nat :=
  store.getIdxByEthAddrBJJ txsel.coordAccount.addr txsel.coordAccount.bjj tokenID

/-- `coordAccountForTokenID`: the transaction that creates the account of the coordinator, if there is none yet. -/
def coordAccountForTokenID (store : Store) (tokenID : TokenID) (positionL1 : Nat) : Except Err (Option L1Tx) :=
  match txsel.getCoordIdx store tokenID with
  | .error .idxNotFound =>
    .ok (some (creationTx positionL1 txsel.coordAccount.addr txsel.coordAccount.bjj tokenID))
  | .error e => .error e
  | .ok _ => .ok none

/-- The case of `processTxToEthAddrBJJ` with an address that is neither empty nor the one of key-only accounts: the
creation that is needed, if the receiver has no account. -/
def creationForEthAddr (store : Store) (positionL1 : Nat) (l2Tx : PoolL2Tx) :
    Except String (Option (L1Tx × AccountCreationAuth)) :=
  let notFound := "invalid L2Tx: ToIdx not found in StateDB, neither ToEthAddr found in AccountCreationAuths L2DB. " ++
    "ToIdx: " ++ toString l2Tx.toIdx ++ ", ToEthAddr: " ++ toHex (Address.bytes l2Tx.toEthAddr)
  let create (accAuth : AccountCreationAuth) :=
    some (creationTx positionL1 accAuth.ethAddr accAuth.bjj l2Tx.tokenID, accAuth)
  if l2Tx.toBJJ ≠ emptyBJJComp then
    match store.getIdxByEthAddrBJJ l2Tx.toEthAddr l2Tx.toBJJ l2Tx.tokenID with
    | .ok _ => .ok none
    | .error _ => match txsel.l2db.getAccountCreationAuth l2Tx.toEthAddr with
      | none => .error notFound
      | some accAuth =>
        if accAuth.bjj ≠ l2Tx.toBJJ then
          .error ("invalid L2Tx: ToIdx not found in StateDB, neither ToEthAddr & ToBJJ found in " ++
            "AccountCreationAuths L2DB. ToIdx: " ++ toString l2Tx.toIdx ++ ", ToEthAddr: " ++
            toHex (Address.bytes l2Tx.toEthAddr) ++ ", ToBJJ: " ++ toHex l2Tx.toBJJ.bytes)
        else .ok (create accAuth)
  else
    match store.getIdxByEthAddr l2Tx.toEthAddr l2Tx.tokenID with
    | .ok _ => .ok none
    | .error _ => match txsel.l2db.getAccountCreationAuth l2Tx.toEthAddr with
      | none => .error notFound
      | some accAuth => .ok (create accAuth)

/-- The last check of `processTxToEthAddrBJJ`, which is also made for a transaction without a receiver. -/
def withFreeSlot (ite : Iteration) (selectionConfig : Config) (creation : Option L1Tx × Option AccountCreationAuth) :
    Except String (Option L1Tx × Option AccountCreationAuth) :=
  if canAddL2TxThatNeedsNewCoordL1Tx ite.nAlreadyProcessedL1Txs ite.nAlreadyProcessedL2Txs selectionConfig then
    .ok creation
  else .error ("L2Tx discarded due to no available slots for L1CoordinatorTx to create a new account for receiver of " ++
    "L2Tx")

/-- `processTxToEthAddrBJJ`: the creation of the account of the receiver, if it needs one. -/
def processTxToEthAddrBJJ (store : Store) (selectionConfig : Config) (l1UserFutureTxs : List L1Tx) (ite : Iteration)
    (l2Tx : PoolL2Tx) : Except String (Option L1Tx × Option AccountCreationAuth) :=
  if checkPendingToCreateFutureTxs l1UserFutureTxs l2Tx.tokenID l2Tx.toEthAddr l2Tx.toBJJ then
    .error ("L2Tx discarded at the current batch, as the receiver account does not exist yet, and there is a L1UserTx " ++
      "that will create that account in a future batch.")
  else if l2Tx.toEthAddr ≠ emptyAddr ∧ l2Tx.toEthAddr ≠ ffAddr then
    match txsel.creationForEthAddr store ite.positionL1 l2Tx with
    | .error e => .error e
    | .ok none => .ok (none, none)
    | .ok (some (l1CoordinatorTx, accAuth)) => withFreeSlot ite selectionConfig (some l1CoordinatorTx, some accAuth)
  else if l2Tx.toEthAddr = ffAddr ∧ l2Tx.toBJJ ≠ emptyBJJComp then
    match store.getIdxByEthAddrBJJ l2Tx.toEthAddr l2Tx.toBJJ l2Tx.tokenID with
    | .ok _ => .ok (none, none)
    | .error _ => withFreeSlot ite selectionConfig
        (some (creationTx ite.positionL1 l2Tx.toEthAddr l2Tx.toBJJ l2Tx.tokenID), none)
  else withFreeSlot ite selectionConfig (none, none)

section

variable [Libraries] (selectionConfig : Config) (l1UserFutureTxs : List L1Tx)

/-- The account of the coordinator for the token of the sender, created if there is room for it. -/
def provideCoordAccount (tokenID : TokenID) (ite : Iteration) : SelectM (Except TxSelectorError Iteration) := do
  let newL1CoordTx ← withError .err (fromState fun s : TxProcessor =>
    txsel.coordAccountForTokenID s.state.toStore tokenID ite.positionL1)
  match newL1CoordTx with
  | none => return .ok ite
  | some newL1CoordTx =>
    if canAddL2TxThatNeedsNewCoordL1Tx ite.nAlreadyProcessedL1Txs ite.nAlreadyProcessedL2Txs selectionConfig then do
      let _ ← withError .err (TxProcessor.processL1Tx newL1CoordTx)
      return .ok (ite.addL1CoordinatorTx newL1CoordTx txsel.coordAccount.accountCreationAuth).countL1Tx
    else return .error errNotEnoughSpaceL1Coordinator

/-- The account of the receiver: it must exist, or is created for an address or a key. -/
def provideReceiver (l2Tx : PoolL2Tx) (ite : Iteration) : SelectM (Except TxSelectorError Iteration) := do
  let store := (← get).state.toStore
  if l2Tx.toIdx = 0 then
    match txsel.processTxToEthAddrBJJ store selectionConfig l1UserFutureTxs ite l2Tx with
    | .error e => return .error (errTxDiscartedInProcessTxToEthAddrBJJ e)
    | .ok (none, _) => return .ok ite
    | .ok (some l1CoordinatorTx, accAuth) => do
      let _ ← withError .err (TxProcessor.processL1Tx l1CoordinatorTx)
      return .ok (ite.addReceiverCreation l2Tx l1CoordinatorTx accAuth).countL1Tx
  else if userThreshold ≤ l2Tx.toIdx then
    match store.getAccount l2Tx.toIdx with
    | .error _ => return .error (errToIdxNotFound l2Tx.toIdx)
    | .ok _ => return .ok ite
  else return .ok ite

/-- A transaction as `ProcessL2Tx` leaves it when it fails: the receiver may have been found. -/
def afterFailure (l2Tx : PoolL2Tx) (s : TxProcessor) : PoolL2Tx :=
  match TxProcessor.findReceiver l2Tx s with
  | .ok l2Tx _ => l2Tx
  | .error _ _ => l2Tx

/-- The fees of a coordinator account start at zero. -/
def startFee (coordIdx : Nat) (s : TxProcessor) : TxProcessor :=
  if coordIdx ∈ s.accumulatedFees then s else { s with accumulatedFees := s.accumulatedFees.insert coordIdx 0 }

/-- Process a transaction that has passed the checks; what a failure has changed stays changed. -/
def processSelected (tokenID : TokenID) (l2Tx : PoolL2Tx) : SelectM (Except (TxSelectorError × PoolL2Tx) PoolL2Tx) := do
  let coordIdx ← withError .err (fromState fun s : TxProcessor =>
    (txsel.getCoordIdx s.state.toStore tokenID).mapError fun e => .coordIdxForTokenID tokenID e.message)
  modify (startFee coordIdx)
  let s ← get
  match ← attempt (TxProcessor.processL2Tx (Finmap.singleton tokenID coordIdx) l2Tx) with
  | .error e => return .error (errTxDiscartedInProcessL2Tx e.message, afterFailure l2Tx s)
  | .ok (l2Tx, _) => return .ok l2Tx

def checkSender (store : Store) (accSender : Account) (l2Tx : PoolL2Tx) : Option TxSelectorError :=
  let enoughBalance := TxProcessor.checkEnoughBalance store l2Tx
  if !enoughBalance.1 then some (errSenderNotEnoughBalance enoughBalance.2)
  else if l2Tx.nonce ≠ accSender.nonce then some (errNoCurrentNonce l2Tx.nonce accSender.nonce)
  else none

/-- One round of the loop of `processL2Txs`, when there is a slot left. -/
def lookAt (l2Tx : PoolL2Tx) (ite : Iteration) : SelectM Iteration := do
  let store := (← get).state.toStore
  if l2Tx.maxNumBatch ≠ 0 ∧ l2Tx.maxNumBatch < nextBatchNum store then
    return ite.addUnforjable (← giveUp l2Tx errUnsupportedMaxNumBatch)
  else if l2Tx.type = some .exit ∧ l2Tx.amount ≤ 0 then return ite.addUnforjable (← giveUp l2Tx errExitAmount)
  else do
    let accSender ← withError .err (TxProcessor.getAccount l2Tx.fromIdx)
    let l2Tx := { l2Tx with tokenID := accSender.tokenID }
    match checkSender store accSender l2Tx with
    | some reason => return ite.addNonSelected (← giveUp l2Tx reason)
    | none => match ← txsel.provideCoordAccount selectionConfig accSender.tokenID ite with
      | .error reason => return ite.addNonSelected (← giveUp l2Tx reason)
      | .ok ite => match ← txsel.provideReceiver selectionConfig l1UserFutureTxs l2Tx ite with
        | .error reason => return ite.addNonSelected (← giveUp l2Tx reason)
        | .ok ite => match ← txsel.processSelected accSender.tokenID l2Tx with
          | .error (reason, l2Tx) => return ite.addNonSelected (← giveUp l2Tx reason)
          | .ok l2Tx => return ite.addSelected l2Tx

/-- The loop of `processL2Txs`.  When there is no slot left, only the transaction at hand gets the reason. -/
def processL2Txs : List PoolL2Tx → Iteration → SelectM Iteration
  | [], ite => pure ite
  | l2Tx :: l2Txs, ite =>
    if canAddL2Tx ite.nAlreadyProcessedL1Txs ite.nAlreadyProcessedL2Txs selectionConfig then do
      let ite ← txsel.lookAt selectionConfig l1UserFutureTxs l2Tx ite
      processL2Txs l2Txs ite
    else do
      let l2Tx ← giveUp l2Tx errNoAvailableSlots
      return { ite with nonSelectedL2Txs := ite.nonSelectedL2Txs ++ l2Tx :: l2Txs }

end

end TxSelector

/-! ### The selection -/

/-- What all passes up to now have selected. -/
structure Selection where
  accAuths : List Bytes := []
  l1CoordinatorTxs : List L1Tx := []
  selectedTxs : List PoolL2Tx := []
  discardedTxs : List PoolL2Tx := []

def Selection.add (sel : Selection) (ite : Iteration) : Selection :=
  { accAuths := sel.accAuths ++ ite.accAuths
    l1CoordinatorTxs := sel.l1CoordinatorTxs ++ ite.l1CoordinatorTxs
    selectedTxs := sel.selectedTxs ++ ite.selectedL2Txs
    discardedTxs := sel.discardedTxs ++ ite.unforjableL2Txs }

/-- What `getL1L2TxSelection` returns. -/
structure SelectionOut where
  coordIdxs : List Nat := []
  accCreationAuths : List Bytes := []
  l1UserTxs : List L1Tx
  l1CoordinatorTxs : List L1Tx := []
  l2Txs : List PoolL2Tx := []
  discardedL2Txs : List PoolL2Tx

namespace TxSelector

variable [Libraries] (rt : Runtime) (txsel : TxSelector) (selectionConfig : Config)

def processL1UserTxs : List L1Tx → TxProc (List L1Tx)
  | [] => return []
  | tx :: txs => do
    let out ← TxProcessor.processL1Tx tx
    return out.tx :: (← processL1UserTxs txs)

/-- The passes, until one selects nothing. -/
def selectionLoop (nL1UserTxs : Nat) (l1UserFutureTxs : List L1Tx) : Nat → List PoolL2Tx → Selection → SelectM Selection
  | 0, _, _ => throw .diverges
  | fuel + 1, selectableTxs, sel => do
    let nL1Txs := nL1UserTxs + sel.l1CoordinatorTxs.length
    let ite ← txsel.processL2Txs selectionConfig l1UserFutureTxs selectableTxs
      { nAlreadyProcessedL1Txs := nL1Txs, nAlreadyProcessedL2Txs := sel.selectedTxs.length, positionL1 := nL1Txs }
    let sel := sel.add ite
    if ite.selectedL2Txs.length = 0 then return { sel with discardedTxs := sel.discardedTxs ++ ite.nonSelectedL2Txs }
    else selectionLoop nL1UserTxs l1UserFutureTxs fuel ite.nonSelectedL2Txs sel

/-- The coordinator account for the sender of a selected transaction. -/
def addCoordIdx (store : Store) (map : AList fun _ : TokenID => Nat) (tx : PoolL2Tx) :
    Except Err (AList fun _ : TokenID => Nat) := do
  let accSender ← store.getAccount tx.fromIdx
  let coordIdx ← txsel.getCoordIdx store accSender.tokenID
  return map.insert accSender.tokenID coordIdx

/-- The coordinator accounts of the selected transactions, in ascending order. -/
def coordIdxs (store : Store) (selectedTxs : List PoolL2Tx) : Except Err (List Nat) := do
  let coordIdxsMap ← selectedTxs.foldlM (txsel.addCoordIdx store) ∅
  return (coordIdxsMap.entries.map (·.2)).insertionSort (· ≤ ·)

/-- Pay a coordinator account what it has accumulated, unless that is nothing. -/
def distributeAccumulatedFee (idx : Nat) : TxProc Unit := do
  let accumulatedFee := ((← get).accumulatedFees.lookup idx).getD 0
  if 0 < accumulatedFee then do
    let accCoord ← TxProcessor.getAccount idx
    TxProcessor.updateAccount idx { accCoord with balance := accCoord.balance + accumulatedFee }
  else pure ()

def distributeAccumulatedFees : List Nat → TxProc Unit
  | [] => pure ()
  | idx :: idxs => do
    distributeAccumulatedFee idx
    distributeAccumulatedFees idxs

def makeCheckpoint : TxProc Unit :=
  modify fun s => { s with state := s.state.makeCheckpoint }

/-- The transactions that can be selected, in their order, and those that are discarded from the start. -/
def selectable (n : Nat) (failedGroups : List FailedAtomicGroup) : List PoolL2Tx × List PoolL2Tx :=
  let (selectableTxsTmp, discardedTxs) := filterFailedAtomicGroups txsel.l2db.getPendingTxs failedGroups
  let (selectableTxs, discardedTxsTmp) := filterInvalidAtomicGroups (rt.groupOrder (2 * n)) selectableTxsTmp
  (sortL2Txs rt (rt.groupOrder (2 * n + 1)) selectableTxs (averageFee rt.round selectableTxs),
    discardedTxs ++ discardedTxsTmp)

/-- One attempt at a selection, from `START_SELECTION` on.  The effective amounts of the users' transactions are
computed anew in each attempt. -/
def attemptSelection (l1UserTxs l1UserFutureTxs : List L1Tx) (n : Nat) (failedGroups : List FailedAtomicGroup) :
    SelectM SelectionOut := do
  let l1UserTxs ← withError .err (processL1UserTxs l1UserTxs)
  let (selectableTxs, discardedTxs) := txsel.selectable rt n failedGroups
  if selectableTxs.length = 0 then do
    withError .err makeCheckpoint
    return { l1UserTxs, discardedL2Txs := discardedTxs }
  else do
    let sel ← txsel.selectionLoop selectionConfig l1UserTxs.length l1UserFutureTxs (selectableTxs.length + 1)
      selectableTxs { discardedTxs }
    let coordIdxs ← withError .err (fromState fun s : TxProcessor => txsel.coordIdxs s.state.toStore sel.selectedTxs)
    let idxs := (← get).accumulatedFees.ascendingKeys
    withError .err (distributeAccumulatedFees (rt.idxOrder idxs))
    withError .err makeCheckpoint
    return { coordIdxs, accCreationAuths := sel.accAuths, l1UserTxs, l1CoordinatorTxs := sel.l1CoordinatorTxs
             l2Txs := sel.selectedTxs, discardedL2Txs := sel.discardedTxs }

/-- The attempts at a selection: after a failed group all starts again from the last checkpoint. -/
def selectionFrom (l1UserTxs l1UserFutureTxs : List L1Tx) : Nat → List FailedAtomicGroup → EStateM Stop StateDB SelectionOut
  | 0, _ => throw .diverges
  | fuel + 1, failedGroups => fun state =>
    match txsel.attemptSelection rt selectionConfig l1UserTxs l1UserFutureTxs failedGroups.length failedGroups
        (newTxProcessor state selectionConfig) with
    | .ok out s => .ok out s.state
    | .error (.failedGroup group) s => match s.state.reset s.state.currentBatch with
      | .error e => .error (.err e) s.state
      | .ok state => selectionFrom l1UserTxs l1UserFutureTxs fuel (failedGroups ++ [group]) state
    | .error stop s => .error stop s.state

/-- `getL1L2TxSelection`.  A group fails only once, so there are not more attempts than transactions. -/
def getL1L2TxSelection (l1UserTxs l1UserFutureTxs : List L1Tx) : EStateM Stop StateDB SelectionOut :=
  txsel.selectionFrom rt selectionConfig l1UserTxs l1UserFutureTxs (txsel.l2db.getPendingTxs.length + 1) []

end TxSelector

end HermezRollup
