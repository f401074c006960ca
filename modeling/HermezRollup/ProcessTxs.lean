import HermezRollup.TxProcessor

/-! The processing of a batch (`ProcessTxs`): the L1 transactions of users, then those of the coordinator,
then the L2 transactions, and at the end the fees.  The synchronizer gets a Merkle proof for every exit of
the batch, the batch builder the inputs of the circuit. -/

namespace HermezRollup

open Bytes Fallible

structure ProcessedExit where
  newExit : Bool
  idx : Nat
  acc : Account

/-- A proof of a leaf of the exit tree (`GenerateSCVerifierProof`). -/
structure ExitProof where
  root : Nat
  siblings : List Nat
  key : Nat
  value : Nat

structure ExitInfo where
  accountIdx : Nat
  merkleProof : ExitProof
  balance : Int

/-- What `ProcessTxs` returns, with the transactions it filled in. -/
structure ProcessTxOutput where
  zkInputs : Option ZKInputs := none
  exitInfos : List ExitInfo := []
  createdAccounts : List Account := []
  coordinatorIdxsMap : CoordIdxsMap := ∅
  collectedFees : TokenID → Option Int := fun _ => none
  updatedAccounts : Finmap (fun _ : Nat => Account) := ∅
  l1UserTxs : List L1Tx := []
  l1CoordinatorTxs : List L1Tx := []
  l2Txs : List PoolL2Tx := []

namespace TxProcessor

/-- Whether a processor keeps an exit tree and the collected fees. -/
def keepsExits (typ : TypeStateDB) : Bool :=
  typ = .synchronizer || typ = .batchBuilder

def checkSizes (coordIdxs : List Nat) (l1UserTxs l1CoordinatorTxs : List L1Tx) (l2Txs : List PoolL2Tx) : TxProc Unit :=
  fromState fun s =>
    let nL1Tx := l1UserTxs.length + l1CoordinatorTxs.length
    let nTx := nL1Tx + l2Txs.length
    if s.config.maxFeeTx < coordIdxs.length then .error (.coordIdxsLength coordIdxs.length s.config.maxFeeTx)
    else if s.config.maxTx < nTx then .error (.txsLength nTx s.config.maxTx)
    else if s.config.maxL1Tx < nL1Tx then .error (.l1TxsLength nL1Tx s.config.maxTx)
    else .ok ()

section

variable [Libraries]

def startZKInputs (s : TxProcessor) : ZKInputs :=
  let zki := newZKInputs s.config.chainID s.config.maxTx s.config.maxL1Tx s.config.maxFeeTx s.config.nLevels
    (s.state.currentBatch + 1)
  { zki with
    oldLastIdx := s.state.currentIdx
    oldStateRoot := s.state.accounts.root
    metadata := { zki.metadata with newLastIdxRaw := s.state.currentIdx } }

def startBatch (s : TxProcessor) : TxProcessor :=
  { s with
    updatedAccounts := if s.state.typ = .synchronizer then ∅ else s.updatedAccounts
    zki := if s.state.typ = .batchBuilder then some s.startZKInputs else s.zki
    exitTree := if keepsExits s.state.typ then some ∅ else none
    collectedFees := fun _ => none }

/-- `EffectiveFromIdx`, set by the synchronizer. -/
def setEffectiveFromIdx (typ : TypeStateDB) (out : L1TxOut) : L1Tx :=
  if typ = .synchronizer then
    { out.tx with effectiveFromIdx := (out.createdAccount.map Account.idx).getD out.tx.fromIdx }
  else out.tx

def exitRoot (s : TxProcessor) : Nat :=
  (s.exitTree.getD ∅).root

/-- An intermediate exit root, where `applyExit` has not set it. -/
def fillExitRootAfter (withExitRoot : Bool) (s : TxProcessor) (zki : ZKInputs) : Except Err (List Nat) :=
  if withExitRoot then setAt zki.isExitRoot s.txIndex (.ok s.exitRoot) else .ok zki.isExitRoot

/-- The metadata and the intermediate states after an L1 transaction.  For the transactions of users the
exit root is left to `applyExit`, if the transaction is an exit. -/
def fillL1TxData (tx : L1Tx) (withExitRoot : Bool) (s : TxProcessor) (zki : ZKInputs) : Except Err ZKInputs := do
  let l1TxData ← tx.bytesGeneric
  let l1TxDataAvailability ← tx.bytesDataAvailability zki.metadata.nLevels
  let isOutIdx ← setAt zki.isOutIdx s.txIndex (.ok s.state.currentIdx)
  let isStateRoot ← setAt zki.isStateRoot s.txIndex (.ok s.state.accounts.root)
  let isExitRoot ← fillExitRootAfter withExitRoot s zki
  return { zki with
    metadata := { zki.metadata with
      l1TxsData := zki.metadata.l1TxsData ++ [l1TxData]
      l1TxsDataAvailability := zki.metadata.l1TxsDataAvailability ++ [l1TxDataAvailability] }
    isOutIdx, isStateRoot, isExitRoot }

/-- The records of the exits so far, one slot for every transaction, with the one just processed. -/
def recordExit (exits : List (Option ProcessedExit)) (exit : ExitOut) (s : TxProcessor) :
    Except Err (List (Option ProcessedExit)) :=
  match exit.exitIdx, s.exitTree, exit.exitAccount with
  | some idx, some _, some acc => setAt exits s.txIndex (.ok (some { newExit := exit.newExit, idx, acc }))
  | _, _, _ => .ok exits

def closeTx (exits : List (Option ProcessedExit)) (exit : ExitOut) : TxProc (List (Option ProcessedExit)) := do
  if keepsExits (← get).state.typ then
    let exits ← fromState (recordExit exits exit)
    modify fun s => { s with txIndex := s.txIndex + 1 }
    return exits
  else return exits

structure L1TxsOut where
  txs : List L1Tx := []
  createdAccounts : List Account := []
  exits : List (Option ProcessedExit)

def processL1UserTxs : List L1Tx → List (Option ProcessedExit) → TxProc L1TxsOut
  | [], exits => return { exits }
  | tx :: rest, exits => do
    let out ← processL1Tx tx
    onZKInputs (fillL1TxData out.tx out.exit.exitIdx.isNone)
    let exits ← closeTx exits out.exit
    let typ := (← get).state.typ
    let outs ← processL1UserTxs rest exits
    return { outs with
      txs := setEffectiveFromIdx typ out :: outs.txs
      createdAccounts := out.createdAccount.toList ++ outs.createdAccounts }

/-- The end of a transaction of the coordinator, whose exit has no slot.  The index moves on for the batch
builder only. -/
def closeCoordinatorTx (s : TxProcessor) : TxProcessor :=
  if s.zki.isSome then { s with txIndex := s.txIndex + 1 } else s

def processL1CoordinatorTxs : List L1Tx → TxProc (List L1Tx × List Account)
  | [] => return ([], [])
  | tx :: rest => do
    let out ← processL1Tx tx
    onZKInputs (fillL1TxData out.tx true)
    modify closeCoordinatorTx
    let typ := (← get).state.typ
    let (txs, createdAccounts) ← processL1CoordinatorTxs rest
    return (setEffectiveFromIdx typ out :: txs, out.createdAccount.toList ++ createdAccounts)

/-- The coordinator accounts without those of a token that occurred before. -/
def filterCoordIdxs (store : Store) : List Nat → List TokenID → Except Err (List Nat)
  | [], _ => .ok []
  | idx :: rest, used => do
    let accCoord ← store.getAccount idx
    if accCoord.tokenID ∈ used then filterCoordIdxs store rest used
    else return idx :: (← filterCoordIdxs store rest (accCoord.tokenID :: used))

/-- `getFeePlanTokens`. -/
def getFeePlanTokens (store : Store) (coordIdxs : List Nat) : Except Err (List Nat) :=
  coordIdxs.mapM fun idx => do
    let acc ← store.getAccount idx
    return acc.tokenID.toNat

def fillFeePlan (coordIdxs : List Nat) (s : TxProcessor) (zki : ZKInputs) : Except Err ZKInputs := do
  let feePlanTokens ← getFeePlanTokens s.state.toStore coordIdxs
  return { zki with feePlanTokens := copySlice zki.feePlanTokens feePlanTokens }

/-- The fees of a batch start at zero for every coordinator account and its token. -/
def startFees (coordIdxs : List Nat) (coordIdxsMap : CoordIdxsMap) (s : TxProcessor) : TxProcessor :=
  { s with
    accumulatedFees := coordIdxs.foldl (fun fees idx => fees.insert idx 0) ∅
    collectedFees := fun tokenID => if keepsExits s.state.typ ∧ tokenID ∈ coordIdxsMap then some 0 else none }

/-- The data and the intermediate states after an L2 transaction; `nTx` transactions are in the batch. -/
def fillL2TxData (tx : PoolL2Tx) (coordIdxs : List Nat) (nTx : Nat) (withExitRoot : Bool) (s : TxProcessor)
    (zki : ZKInputs) : Except Err ZKInputs := do
  let l2TxData ← tx.l2Tx.bytesDataAvailability zki.metadata.nLevels
  let zki := { zki with metadata := { zki.metadata with l2TxsData := zki.metadata.l2TxsData ++ [l2TxData] } }
  if s.txIndex + 1 < nTx then do
    let isOutIdx ← setAt zki.isOutIdx s.txIndex (.ok s.state.currentIdx)
    let isStateRoot ← setAt zki.isStateRoot s.txIndex (.ok s.state.accounts.root)
    let isAccFeeOut ← setAt zki.isAccFeeOut s.txIndex
      (formatAccumulatedFees s.collectedFees zki.feePlanTokens coordIdxs)
    let isExitRoot ← fillExitRootAfter withExitRoot s zki
    return { zki with isOutIdx, isStateRoot, isAccFeeOut, isExitRoot }
  else return zki

def processL2Txs (coordIdxsMap : CoordIdxsMap) (coordIdxs : List Nat) (nTx : Nat) :
    List PoolL2Tx → List (Option ProcessedExit) → TxProc (List PoolL2Tx × List (Option ProcessedExit))
  | [], exits => return ([], exits)
  | tx :: rest, exits => do
    let (tx, exit) ← processL2Tx coordIdxsMap tx
    onZKInputs (fillL2TxData tx coordIdxs nTx exit.exitIdx.isNone)
    let exits ← closeTx exits exit
    let (txs, exits) ← processL2Txs coordIdxsMap coordIdxs nTx rest exits
    return (tx :: txs, exits)

/-- The intermediate states of a slot behind the last transaction. -/
def fillEmptyState (coordIdxs : List Nat) (s : TxProcessor) (zki : ZKInputs) (i : Nat) : Except Err ZKInputs :=
  if i + 1 < s.config.maxTx then do
    let isOutIdx ← setAt zki.isOutIdx i (.ok s.state.currentIdx)
    let isStateRoot ← setAt zki.isStateRoot i (.ok s.state.accounts.root)
    let isAccFeeOut ← setAt zki.isAccFeeOut i (formatAccumulatedFees s.collectedFees zki.feePlanTokens coordIdxs)
    let isExitRoot ← setAt zki.isExitRoot i (.ok s.exitRoot)
    .ok { zki with isOutIdx, isStateRoot, isAccFeeOut, isExitRoot }
  else .ok zki

def fillEmptySlot (coordIdxs : List Nat) (s : TxProcessor) (zki : ZKInputs) (i : Nat) : Except Err ZKInputs := do
  let zki ← fillEmptyState coordIdxs s zki i
  if s.txIndex ≤ i then do
    let txCompressedData ← setAt zki.txCompressedData i (.ok (PoolL2Tx.txCompressedDataEmpty s.config.chainID))
    return { zki with txCompressedData }
  else return zki

/-- Fill up the slots behind the last transaction; the last one is done again. -/
def fillEmptySlots (coordIdxs : List Nat) (s : TxProcessor) (zki : ZKInputs) : Except Err ZKInputs := do
  let last := s.txIndex - 1
  let zki ← (List.range' last (s.config.maxTx - last)).foldlM (fillEmptySlot coordIdxs s) zki
  let isFinalAccFee ← formatAccumulatedFees s.collectedFees zki.feePlanTokens coordIdxs
  return { zki with
    isFinalAccFee := copySlice zki.isFinalAccFee isFinalAccFee
    isInitStateRootFee := s.state.accounts.root }

def accumulatedFee (idx : Nat) (s : TxProcessor) : Except Err Int :=
  match s.accumulatedFees.lookup idx with
  | none => .error .panic
  | some fee => .ok fee

def fillStateRootFee (indexFee : Nat) (s : TxProcessor) (zki : ZKInputs) : Except Err ZKInputs :=
  .ok { zki with isStateRootFee := setIfLt zki.isStateRootFee indexFee s.state.accounts.root }

/-- Pay a coordinator account its accumulated fee, even when it is zero. -/
def distributeFee (indexFee idx : Nat) : TxProc Unit := do
  let fee ← fromState (accumulatedFee idx)
  let accCoord ← getAccount idx
  updateAccount idx { accCoord with balance := accCoord.balance + fee }
  onZKInputs (fillStateRootFee indexFee)

def distributeFees : (indexFee : Nat) → List Nat → TxProc Unit
  | _, [] => pure ()
  | indexFee, idx :: rest => do
    distributeFee indexFee idx
    distributeFees (indexFee + 1) rest

/-- The circuit inputs of the fees behind the last coordinator account. -/
def fillFees (coordIdxs : List Nat) (s : TxProcessor) (zki : ZKInputs) : Except Err ZKInputs := do
  let first := s.accumulatedFees.keys.card
  let isStateRootFee ← (List.range' first (s.config.maxFeeTx - 1 - first)).foldlM
    (fun roots i => setAt roots i (.ok s.state.accounts.root)) zki.isStateRootFee
  if coordIdxs.length ≤ zki.feeIdxs.length then return { zki with isStateRootFee, feeIdxs := copySlice zki.feeIdxs coordIdxs }
  else .error .indexOutOfRange

def exitInfo (tree : AccountTree) (exit : ProcessedExit) : ExitInfo :=
  { accountIdx := exit.idx
    merkleProof :=
      { root := tree.root, siblings := tree.siblings exit.idx, key := exit.idx
        value := ((tree.lookup exit.idx).map fun stored => (stored.account exit.idx).leafValue).getD 0 }
    balance := exit.acc.balance }

/-- The last exit of every account. -/
def lastExits (exits : List ProcessedExit) : Finmap (fun _ : Nat => ProcessedExit) :=
  exits.foldl (fun map exit => map.insert exit.idx exit) ∅

/-- The accounts that exit, in the order of their first exits. -/
def exitIdxs (exits : List ProcessedExit) : List Nat :=
  exits.foldl (fun idxs exit => if exit.idx ∈ idxs then idxs else idxs ++ [exit.idx]) []

/-- The exits by index: the first exit of an account gives its place, the last one its balance. -/
def exitInfos (tree : AccountTree) (exits : List ProcessedExit) : List ExitInfo :=
  (exitIdxs exits).filterMap fun idx => ((lastExits exits).lookup idx).map (exitInfo tree)

def finishZKInputs (s : TxProcessor) (zki : ZKInputs) : ZKInputs :=
  { zki with
    globalChainID := s.config.chainID.toNat
    metadata := { zki.metadata with newStateRootRaw := s.state.accounts.root, newExitRootRaw := s.exitRoot } }

/-- What a batch returns, by the type of the database. -/
def batchOutput (s : TxProcessor) (out : ProcessTxOutput) (exits : List (Option ProcessedExit)) : ProcessTxOutput :=
  match s.state.typ with
  | .txSelector => { out with createdAccounts := [], coordinatorIdxsMap := ∅ }
  | .synchronizer =>
    { out with
      exitInfos := exitInfos (s.exitTree.getD ∅) exits.reduceOption
      collectedFees := s.collectedFees
      updatedAccounts := s.updatedAccounts }
  | .batchBuilder => { out with zkInputs := s.zki.map s.finishZKInputs, createdAccounts := [] }

/-- The steps of `ProcessTxs` once the sizes are checked. -/
def processBatch (coordIdxs : List Nat) (l1UserTxs l1CoordinatorTxs : List L1Tx) (l2Txs : List PoolL2Tx) :
    TxProc ProcessTxOutput := do
  let nTx := l1UserTxs.length + l1CoordinatorTxs.length + l2Txs.length
  let users ← processL1UserTxs l1UserTxs (List.replicate nTx none)
  let (coordinatorTxs, createdAccounts) ← processL1CoordinatorTxs l1CoordinatorTxs
  let coordIdxs ← fromState fun s => filterCoordIdxs s.state.toStore coordIdxs []
  let coordIdxsMap ← fromState fun s => s.state.getTokenIDsFromIdxs coordIdxs
  modify (startFees coordIdxs coordIdxsMap)
  onZKInputs (fillFeePlan coordIdxs)
  let (txs, exits) ← processL2Txs coordIdxsMap coordIdxs nTx l2Txs users.exits
  onZKInputs (fillEmptySlots coordIdxs)
  distributeFees 0 coordIdxs
  onZKInputs (fillFees coordIdxs)
  let s ← get
  return s.batchOutput
    { createdAccounts := users.createdAccounts ++ createdAccounts, coordinatorIdxsMap := coordIdxsMap
      l1UserTxs := users.txs, l1CoordinatorTxs := coordinatorTxs, l2Txs := txs } exits

/-- `resetZKInputs`. -/
def resetZKInputs (s : TxProcessor) : TxProcessor :=
  { s with zki := none, txIndex := 0 }

/-- Reset the circuit inputs after a computation, whether it failed or not. -/
def thenReset {α : Type} (x : TxProc α) : TxProc α := fun s =>
  match x s with
  | .ok a s => .ok a s.resetZKInputs
  | .error e s => .error e s.resetZKInputs

/-- `ProcessTxs`: a checkpoint is made when no error occurred. -/
def processTxs (coordIdxs : List Nat) (l1UserTxs l1CoordinatorTxs : List L1Tx) (l2Txs : List PoolL2Tx) :
    TxProc ProcessTxOutput := do
  fromState fun s => if s.zki.isSome then .error .zkiNotEmpty else .ok ()
  thenReset do
    checkSizes coordIdxs l1UserTxs l1CoordinatorTxs l2Txs
    modify startBatch
    let output ← processBatch coordIdxs l1UserTxs l1CoordinatorTxs l2Txs
    modify fun s => { s with state := s.state.makeCheckpoint }
    return output

end

end TxProcessor

end HermezRollup
