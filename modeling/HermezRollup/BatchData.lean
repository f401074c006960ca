import HermezRollup.Contract
import HermezRollup.L2Tx

/-! The data of a batch on its way through the contract (`eth/rollup.go`): how a coordinator encodes a
batch into the arguments of `forgeBatch`, and how every node decodes it again from the calldata.  The
transactions are published in the order L1 user, L1 coordinator, L2; a node derives their numbers from
the length of the queue that was forged and from the lengths of the byte strings. -/

namespace HermezRollup

open Bytes

/-- The arguments of `forgeBatch` as the node works with them. -/
structure RollupForgeBatchArgs where
  newLastIdx : BitVec 48
  newStRoot : Nat
  newExitRoot : Nat
  l1UserTxs : List L1Tx
  l1CoordinatorTxs : List L1Tx
  l1CoordinatorTxsAuths : List Bytes
  l2TxsData : List L2Tx
  feeIdxCoordinator : List Nat
  verifierIdx : BitVec 8
  l1Batch : Bool
  proof : Proof

def nLevelsOf (verifiers : List VerifierRollup) (verifierIdx : BitVec 8) : Except Err Nat :=
  match verifiers[verifierIdx.toNat]? with
  | some verifier => .ok verifier.nLevels
  | none => .error .panic

/-! ### Encoding -/

/-- The account creations of a coordinator, each with its authorization. -/
def l1CoordinatorBytes : List L1Tx → List Bytes → Except Err Bytes
  | [], _ => .ok []
  | _ :: _, [] => .error .panic
  | l1 :: l1CoordinatorTxs, auth :: auths => do
    let bytesl1 ← l1.bytesCoordinatorTx auth
    let rest ← l1CoordinatorBytes l1CoordinatorTxs auths
    return bytesl1 ++ rest

def feeIdxCoordinatorBytes (lenBytes : Nat) (feeIdxCoordinator : List Nat) : Except Err Bytes :=
  if rollupConstMaxFeeIdxCoordinator < feeIdxCoordinator.length then
    .error (.tooManyFeeIdxs feeIdxCoordinator.length)
  else do
    let feeIdxs ← ((List.range rollupConstMaxFeeIdxCoordinator).map fun i => feeIdxCoordinator.getD i 0).mapM
      fun feeIdx => idxBytes feeIdx >>= idxTail lenBytes
    return feeIdxs.flatten

/-- `RollupForgeBatch`: the arguments with which the contract is called. -/
def rollupForgeBatch (verifiers : List VerifierRollup) (args : RollupForgeBatchArgs) :
    Except Err Hermez.ForgeBatchArgs := do
  let nLevels ← nLevelsOf verifiers args.verifierIdx
  let encodedL1CoordinatorTx ← l1CoordinatorBytes args.l1CoordinatorTxs args.l1CoordinatorTxsAuths
  let l1UserData ← args.l1UserTxs.mapM (L1Tx.bytesDataAvailability · nLevels)
  let l1CoordinatorData ← args.l1CoordinatorTxs.mapM (L1Tx.bytesDataAvailability · nLevels)
  let l2Data ← args.l2TxsData.mapM (L2Tx.bytesDataAvailability · nLevels)
  let feeIdxCoordinator ← feeIdxCoordinatorBytes (nLevels / 8) args.feeIdxCoordinator
  return { newLastIdx := args.newLastIdx, newStRoot := args.newStRoot, newExitRoot := args.newExitRoot
           encodedL1CoordinatorTx
           l1L2TxsData := l1UserData.flatten ++ l1CoordinatorData.flatten ++ l2Data.flatten
           feeIdxCoordinator, verifierIdx := args.verifierIdx, l1Batch := args.l1Batch, proof := args.proof }

/-! ### Decoding -/

def lenL1L2TxsBytes (nLevels : Nat) : Nat :=
  nLevels / 8 * 2 + 5 + 1

/-- `L1L2TxsData[:numBytes]`.  The slice reaches into what lies behind it in the calldata, up to its
capacity; beyond that it panics. -/
def reslice (data behind : Bytes) (numBytes : Nat) : Except Err Bytes :=
  if numBytes ≤ (data ++ behind).length then .ok ((data ++ behind).take numBytes) else .error .panic

def decodeL1UserTxs (nLevels : Nat) (data behind : Bytes) (l1UserTxsLen : Nat) : Except Err (List L1Tx) :=
  if 0 < l1UserTxsLen then do
    let l1UserTxsData ← reslice data behind (l1UserTxsLen * lenL1L2TxsBytes nLevels)
    (chunks (lenL1L2TxsBytes nLevels) l1UserTxsData).mapM (l1TxFromDataAvailability · nLevels)
  else .ok []

def numTxsL1Coord (encodedL1CoordinatorTx : Bytes) : Nat :=
  encodedL1CoordinatorTx.length / rollupConstL1CoordinatorTotalBytes

/-- The L2 transactions behind all L1 transactions; a last incomplete one is dropped. -/
def l2TxsChunks (nLevels : Nat) (data : Bytes) (l1Txs : Nat) : List Bytes :=
  chunks (lenL1L2TxsBytes nLevels) (data.drop (l1Txs * lenL1L2TxsBytes nLevels))

def decodeL2Txs (nLevels : Nat) (data : Bytes) (l1Txs : Nat) : Except Err (List L2Tx) :=
  (l2TxsChunks nLevels data l1Txs).mapM (l2TxFromBytesDataAvailability · nLevels)

def decodeL1CoordinatorTxs [Libraries] (chainID : Nat) (address : Address) (encodedL1CoordinatorTx : Bytes) :
    Except Err (List (L1Tx × Bytes)) :=
  (chunks rollupConstL1CoordinatorTotalBytes encodedL1CoordinatorTx).mapM fun b => do
    let l1Tx ← l1CoordinatorTxFromBytes b chainID address
    return (l1Tx, slice b 33 65 ++ slice b 1 33 ++ [b.headD 0])

/-- The index held by one field of the fee indexes; only the first six bytes count. -/
def feeIdxFromBytes (b : Bytes) : Except Err Nat :=
  idxFromBytes (zeros (6 - b.length) ++ b.take 6)

/-- The indexes that collect fees, without the zeros they are filled up with. -/
def decodeFeeIdxs (nLevels : Nat) (feeIdxCoordinator : Bytes) : Except Err (List Nat) :=
  -- the number of indexes is a division by their length
  if nLevels / 8 = 0 then .error .panic
  else do
    let feeIdxs ← (chunks (nLevels / 8) feeIdxCoordinator).mapM feeIdxFromBytes
    return feeIdxs.filter (· ≠ 0)

/-- `RollupForgeBatchArgs`: the arguments of a call, `behind` being what follows the transaction data in
the calldata. -/
def rollupForgeBatchArgs [Libraries] (verifiers : List VerifierRollup) (chainID : Nat) (address : Address)
    (aux : Hermez.ForgeBatchArgs) (behind : Bytes) (l1UserTxsLen : Nat) : Except Err RollupForgeBatchArgs := do
  let nLevels ← nLevelsOf verifiers aux.verifierIdx
  let l1UserTxs ← decodeL1UserTxs nLevels aux.l1L2TxsData behind l1UserTxsLen
  let l2TxsData ← decodeL2Txs nLevels aux.l1L2TxsData (numTxsL1Coord aux.encodedL1CoordinatorTx + l1UserTxsLen)
  let l1CoordinatorTxs ← decodeL1CoordinatorTxs chainID address aux.encodedL1CoordinatorTx
  let feeIdxCoordinator ← decodeFeeIdxs nLevels aux.feeIdxCoordinator
  return { newLastIdx := aux.newLastIdx, newStRoot := aux.newStRoot, newExitRoot := aux.newExitRoot, l1UserTxs
           l1CoordinatorTxs := l1CoordinatorTxs.map Prod.fst, l1CoordinatorTxsAuths := l1CoordinatorTxs.map Prod.snd
           l2TxsData, feeIdxCoordinator, verifierIdx := aux.verifierIdx, l1Batch := aux.l1Batch, proof := aux.proof }

/-- The first steps of `rollupSync` on a forged batch: decode it and set the types of its L2
transactions. -/
def decodeForgedBatch [Libraries] (verifiers : List VerifierRollup) (chainID : Nat) (address : Address)
    (aux : Hermez.ForgeBatchArgs) (behind : Bytes) (l1UserTxsLen : Nat) : Except Err RollupForgeBatchArgs := do
  let args ← rollupForgeBatchArgs verifiers chainID address aux behind l1UserTxsLen
  let l2TxsData ← args.l2TxsData.mapM L2Tx.setType
  return { args with l2TxsData }

end HermezRollup
