import HermezRollup.Fee
import HermezRollup.ZKInputs

/-! The transaction processor (`txprocessor/txprocessor.go`): how one L1 or L2 transaction changes the
state.  The same code runs in the synchronizer, the transaction selector and the batch builder.  The
synchronizer and the batch builder keep the tree of the exits of the batch, the batch builder also fills
in the inputs of the circuit.

A processor is the state of a computation that can fail; what was changed before a failure stays changed.
The exit tree and the fees collected by token, which the Go code hands down as a pointer and a map, are
part of that state. -/

namespace HermezRollup

open Bytes Fallible

structure Config where
  nLevels : Nat
  maxFeeTx : Nat
  maxTx : Nat
  maxL1Tx : Nat
  chainID : BitVec 16

structure TxProcessor where
  state : StateDB
  config : Config
  zki : Option ZKInputs := none
  txIndex : Nat := 0
  accumulatedFees : Finmap (fun _ : Nat => Int) := ∅
  updatedAccounts : Finmap (fun _ : Nat => Account) := ∅
  exitTree : Option AccountTree := none
  collectedFees : TokenID → Option Int := fun _ => none

abbrev TxProc := EStateM Err TxProcessor

/-- The accounts that receive the fees, by token. -/
abbrev CoordIdxsMap := Finmap fun _ : TokenID => Nat

def newTxProcessor (state : StateDB) (config : Config) : TxProcessor :=
  { state, config }

/-- What of the amount and of the deposit of an L1 transaction takes effect.  A user can send any
transaction the contract admits, so amounts that could not be paid count as zero. -/
def effectiveAmounts (store : Store) (tx : L1Tx) : Int × Int :=
  if !tx.userOrigin then (0, 0)
  else if tx.type = some .createAccountDeposit then (tx.amount, tx.depositAmount)
  else if userThreshold ≤ tx.toIdx ∧ tx.fromIdx = 0 then
    if tx.depositAmount < tx.amount then (0, tx.depositAmount)
    else match store.getAccount tx.toIdx with
      | .error _ => (0, 0)
      | .ok accReceiver =>
        if tx.tokenID ≠ accReceiver.tokenID then (0, tx.depositAmount) else (tx.amount, tx.depositAmount)
  else match store.getAccount tx.fromIdx with
    | .error _ => (0, 0)
    | .ok accSender =>
      if tx.tokenID ≠ accSender.tokenID then (0, 0)
      else if accSender.balance + tx.depositAmount < tx.amount then (0, tx.depositAmount)
      else
        -- a sender with another address may deposit, but not spend
        let amount := if tx.fromEthAddr ≠ accSender.ethAddr then 0 else tx.amount
        if tx.toIdx = 1 ∨ tx.toIdx = 0 then (amount, tx.depositAmount)
        else match store.getAccount tx.toIdx with
          | .error _ => (0, 0)
          | .ok accReceiver =>
            if accSender.tokenID ≠ accReceiver.tokenID then (0, tx.depositAmount)
            else if tx.tokenID ≠ accReceiver.tokenID then (0, tx.depositAmount)
            else (amount, tx.depositAmount)

/-- `computeEffectiveAmounts`. -/
def computeEffectiveAmounts (store : Store) (tx : L1Tx) : L1Tx :=
  { tx with
    effectiveAmount := some (effectiveAmounts store tx).1
    effectiveDepositAmount := some (effectiveAmounts store tx).2 }

structure ExitOut where
  exitIdx : Option Nat := none
  exitAccount : Option Account := none
  newExit : Bool := false
  deriving DecidableEq, Repr

/-- The leaf of an exit in the tree: a new one, or more on the one the account already has in this batch. -/
def exitLeaf [Libraries] (tree : AccountTree) (idx : Nat) (acc : Account) (amount : Int) :
    Except Err (AccountTree × ExitOut) :=
  match getAccountInTreeDB tree idx with
  | .error .notFound => do
    let exitAccount : Account :=
      { tokenID := acc.tokenID, nonce := 0, balance := amount, bjj := acc.bjj, ethAddr := acc.ethAddr }
    let tree ← createAccountInTreeDB tree idx exitAccount
    return (tree, { exitIdx := some idx, exitAccount := some exitAccount, newExit := true })
  | .error e => .error e
  | .ok exitAccount => do
    let exitAccount := { exitAccount with balance := exitAccount.balance + amount }
    let tree ← updateAccountInTreeDB tree idx exitAccount
    return (tree, { exitIdx := some idx, exitAccount := some exitAccount, newExit := false })

def newErrorNotEnoughBalance (tx : Tx) : Err :=
  .notEnoughBalance tx.txID tx.type tx.fromIdx tx.toIdx tx.amount

namespace TxProcessor

/-- Run a fallible update of the contents of the database. -/
def onStore (update : Store → Except Err Store) : TxProc Unit := fun s =>
  match update s.state.toStore with
  | .ok store => .ok () { s with state := { s.state with toStore := store } }
  | .error e => .error e s

/-- Fill in inputs of the circuit, if they are wanted. -/
def onZKInputs (fill : TxProcessor → ZKInputs → Except Err ZKInputs) : TxProc Unit := fun s =>
  match s.zki with
  | none => .ok () s
  | some zki => match fill s zki with
    | .ok zki => .ok () { s with zki := some zki }
    | .error e => .error e s

def getAccount (idx : Nat) : TxProc Account :=
  fromState fun s => s.state.getAccount idx

/-- The synchronizer remembers the last version of every account. -/
def rememberAccount (idx : Nat) (account : Account) : TxProc Unit :=
  modify fun s =>
    if s.state.typ = .synchronizer then
      { s with updatedAccounts := s.updatedAccounts.insert idx { account with idx } }
    else s

section

variable [Libraries]

def createAccount (idx : Nat) (account : Account) : TxProc Unit := do
  rememberAccount idx account
  onStore fun store => store.createAccount idx account

def updateAccount (idx : Nat) (account : Account) : TxProc Unit := do
  rememberAccount idx account
  onStore fun store => store.updateAccount idx account

end

def setCurrentIdx (idx : Nat) : TxProc Unit :=
  onStore fun store => store.setCurrentIdx idx

/-- A guarded write of an intermediate state. -/
def setIfLt {α : Type} (xs : List α) (i : Nat) (x : α) : List α :=
  if i < xs.length then xs.set i x else xs

def fillNewAccount (idx : Nat) (s : TxProcessor) (zki : ZKInputs) : Except Err ZKInputs :=
  .ok { zki with
    metadata := { zki.metadata with newLastIdxRaw := idx }
    isOnChain := setIfLt zki.isOnChain s.txIndex 1 }

section

variable [Libraries]

/-- `applyCreateAccount`. -/
def applyCreateAccount (tx : L1Tx) : TxProc Unit := do
  let idx := (← get).state.currentIdx + 1
  createAccount idx { tokenID := tx.tokenID, nonce := 0, balance := tx.effectiveDepositAmount.getD 0
                      bjj := tx.fromBJJ, ethAddr := tx.fromEthAddr }
  onZKInputs (fillNewAccount idx)
  setCurrentIdx idx

def checkBalance (tx : Tx) (balance : Int) : TxProc Unit :=
  if balance < 0 then throw (newErrorNotEnoughBalance tx) else pure ()

/-- The account of a receiver: the one in hand, if the sender is the receiver. -/
def getReceiver (fromIdx toIdx : Nat) (accSender : Account) : TxProc Account :=
  if toIdx = fromIdx then pure accSender else getAccount toIdx

/-- The last step of a transfer. -/
def creditReceiver (fromIdx toIdx : Nat) (accSender : Account) (amount : Int) : TxProc Unit := do
  let accReceiver ← getReceiver fromIdx toIdx accSender
  updateAccount toIdx { accReceiver with balance := accReceiver.balance + amount }

/-- `applyDeposit`. -/
def applyDeposit (tx : L1Tx) (transfer : Bool) : TxProc Unit := do
  let accSender ← getAccount tx.fromIdx
  let balance := accSender.balance + tx.effectiveDepositAmount.getD 0 - tx.effectiveAmount.getD 0
  checkBalance tx.tx balance
  updateAccount tx.fromIdx { accSender with balance }
  if transfer then creditReceiver tx.fromIdx tx.toIdx { accSender with balance } (tx.effectiveAmount.getD 0)
  else pure ()

/-- Add to what a coordinator account gets at the end of the batch. -/
def accrueFee (coordIdx : Nat) (fee : Int) (s : TxProcessor) : TxProcessor :=
  { s with
    accumulatedFees := s.accumulatedFees.insert coordIdx ((s.accumulatedFees.lookup coordIdx).getD 0 + fee) }

/-- Add to the fees collected for a token; the selector does not collect them. -/
def collectFee (tokenID : TokenID) (fee : Int) : TxProc Unit := fun s =>
  if s.state.typ = .txSelector then .ok () s
  else match s.collectedFees tokenID with
    | none => .error .panic s
    | some collected =>
      .ok () { s with collectedFees := Function.update s.collectedFees tokenID (some (collected + fee)) }

def getCoordAccount (tokenID : TokenID) (coordIdx : Nat) (s : TxProcessor) : Except Err Account :=
  (s.state.getAccount coordIdx).mapError fun _ => .coordIdxNotInTree tokenID coordIdx

/-- The fee of a transaction goes to the account of the coordinator for the token of the sender, if there
is one.  It is paid out when all transactions are processed. -/
def accumulateFee (coordIdxsMap : CoordIdxsMap) (tokenID : TokenID) (fee : Int) : TxProc Unit :=
  match coordIdxsMap.lookup tokenID with
  | none => pure ()
  | some coordIdx => do
    let accCoord ← fromState (getCoordAccount tokenID coordIdx)
    modify (accrueFee accCoord.idx fee)
    collectFee accCoord.tokenID fee

/-- What `applyTransfer` and `applyExit` do first: take the amount, for an L2 transaction also the fee,
from the sender, and count an L2 transaction in the nonce. -/
def chargeSender (coordIdxsMap : CoordIdxsMap) (tx : Tx) (accSender : Account) : TxProc Account :=
  if tx.isL1 then do
    let balance := accSender.balance - tx.amount
    checkBalance tx balance
    return { accSender with balance }
  else do
    let fee ← fromState fun _ => calcFeeAmount tx.amount tx.fee
    let balance := accSender.balance - (tx.amount + fee)
    checkBalance tx balance
    accumulateFee coordIdxsMap accSender.tokenID fee
    return { accSender with balance, nonce := accSender.nonce + 1 }

/-- `applyTransfer`: the receiver is `auxToIdx`, if it is given. -/
def applyTransfer (coordIdxsMap : CoordIdxsMap) (tx : Tx) (auxToIdx : Nat) : TxProc Unit := do
  let toIdx := if auxToIdx = 0 then tx.toIdx else auxToIdx
  let accSender ← getAccount tx.fromIdx
  let accSender ← chargeSender coordIdxsMap tx accSender
  updateAccount tx.fromIdx accSender
  creditReceiver tx.fromIdx toIdx accSender tx.amount

/-- `applyCreateAccountDepositTransfer`. -/
def applyCreateAccountDepositTransfer (tx : L1Tx) : TxProc Unit := do
  let auxFromIdx := (← get).state.currentIdx + 1
  let balance := tx.effectiveDepositAmount.getD 0 - tx.effectiveAmount.getD 0
  let accSender : Account :=
    { tokenID := tx.tokenID, nonce := 0, balance, bjj := tx.fromBJJ, ethAddr := tx.fromEthAddr }
  checkBalance tx.tx balance
  createAccount auxFromIdx accSender
  onZKInputs (fillNewAccount auxFromIdx)
  creditReceiver auxFromIdx tx.toIdx accSender (tx.effectiveAmount.getD 0)
  setCurrentIdx auxFromIdx

def fillExitRoot (tree : AccountTree) (s : TxProcessor) (zki : ZKInputs) : Except Err ZKInputs :=
  .ok { zki with isExitRoot := setIfLt zki.isExitRoot s.txIndex tree.root }

/-- The leaf of an exit, put into the tree, and the last thing `applyExit` does to the processor. -/
def applyExitLeaf (tree : AccountTree) (idx : Nat) (acc : Account) (amount : Int) : TxProc ExitOut := do
  let (tree, exit) ← fromState fun _ => exitLeaf tree idx acc amount
  modify fun s => { s with exitTree := some tree }
  onZKInputs (fillExitRoot tree)
  return exit

/-- `applyExit`.  An exit is left out of the tree when its amount is zero, but not when only its effective
amount is. -/
def applyExit (coordIdxsMap : CoordIdxsMap) (tx : Tx) (originalAmount : Int) : TxProc ExitOut := do
  let acc ← getAccount tx.fromIdx
  let acc ← chargeSender coordIdxsMap tx acc
  updateAccount tx.fromIdx acc
  match (← get).exitTree with
  | none => return { exitIdx := some tx.fromIdx }
  | some tree =>
    if originalAmount = 0 then return { exitIdx := some tx.fromIdx }
    else applyExitLeaf tree tx.fromIdx acc tx.amount

def usesAmount (type : Option TxType) : Bool :=
  type = some .forceTransfer || type = some .depositTransfer || type = some .createAccountDepositTransfer ||
    type = some .forceExit

def fillL1Tx (tx : L1Tx) (s : TxProcessor) (zki : ZKInputs) : Except Err ZKInputs := do
  let txCompressedData ← setAt zki.txCompressedData s.txIndex (tx.txCompressedData s.config.chainID)
  let depositAmountF ← newFloat40 tx.depositAmount
  let amountF ← (if usesAmount tx.type then (newFloat40 tx.amount).map (zki.amountF.set s.txIndex) else .ok zki.amountF)
  return { zki with
    txCompressedData
    depositAmountF := zki.depositAmountF.set s.txIndex depositAmountF
    isOnChain := setIfLt zki.isOnChain s.txIndex 1
    amountF }

/-- The switch of `ProcessL1Tx` over the type of the transaction; other types have no effect. -/
def applyL1Tx (tx : L1Tx) : TxProc (L1Tx × ExitOut) := do
  let effective := computeEffectiveAmounts (← get).state.toStore tx
  match tx.type with
  | some .forceTransfer =>
    applyTransfer ∅ effective.tx 0
    return (effective, {})
  | some .createAccountDeposit =>
    applyCreateAccount effective
    return (effective, {})
  | some .deposit =>
    applyDeposit effective false
    return (effective, {})
  | some .depositTransfer =>
    applyDeposit effective true
    return (effective, {})
  | some .createAccountDepositTransfer =>
    applyCreateAccountDepositTransfer effective
    return (effective, {})
  | some .forceExit =>
    let exit ← applyExit ∅ effective.tx tx.amount
    return (effective, exit)
  | _ => return (tx, {})

/-- The account an L1 transaction created, which only the synchronizer asks for. -/
def getCreatedAccount (type : Option TxType) : TxProc (Option Account) := do
  let s ← get
  if s.state.typ = .synchronizer ∧
      (type = some .createAccountDeposit ∨ type = some .createAccountDepositTransfer) then
    return some (← getAccount s.state.currentIdx)
  else return none

/-- What `ProcessL1Tx` returns, with the transaction it filled in. -/
structure L1TxOut where
  tx : L1Tx
  exit : ExitOut
  createdAccount : Option Account

/-- `ProcessL1Tx`. -/
def processL1Tx (tx : L1Tx) : TxProc L1TxOut := do
  onZKInputs (fillL1Tx tx)
  let (tx, exit) ← applyL1Tx tx
  let createdAccount ← getCreatedAccount tx.type
  return { tx, exit, createdAccount }

/-- The receiver of an L2 transaction that names none: looked up by address and key. -/
def findReceiver (tx : PoolL2Tx) : TxProc PoolL2Tx :=
  if tx.toIdx = 0 ∧ tx.auxToIdx = 0 then
    fromState fun s =>
      if s.state.typ = .synchronizer then .error .l2ToIdxZeroInSynchronizer
      else do
        let accSender ← s.state.getAccount tx.fromIdx
        let auxToIdx ← s.state.getIdxByEthAddrBJJ tx.toEthAddr tx.toBJJ accSender.tokenID
        return { tx with auxToIdx }
  else pure tx

/-- The linked transaction of an L2 transaction, if it has one. -/
def fillRqTx (tx : PoolL2Tx) (s : TxProcessor) (zki : ZKInputs) : Except Err (List Nat) :=
  if tx.rqOffset = 0 then .ok zki.rqTxCompressedDataV2
  else if 7 < tx.rqOffset then .error .invalidRqOffset
  else setAt zki.rqTxCompressedDataV2 s.txIndex tx.rqTxCompressedDataV2

def fillL2Tx (tx : PoolL2Tx) (s : TxProcessor) (zki : ZKInputs) : Except Err ZKInputs := do
  let txCompressedData ← setAt zki.txCompressedData s.txIndex (tx.txCompressedData s.config.chainID)
  let txCompressedDataV2 ← setAt zki.txCompressedDataV2 s.txIndex tx.txCompressedDataV2
  let amountF ← newFloat40 tx.amount
  let rqTxCompressedDataV2 ← fillRqTx tx s zki
  if Libraries.signatureDecompresses tx.signature then
    return { zki with
      txCompressedData, txCompressedDataV2, amountF := zki.amountF.set s.txIndex amountF, rqTxCompressedDataV2 }
  else .error .invalidSignature

/-- The synchronizer reads nonce and token of an L2 transaction from its sender. -/
def completeL2Tx (tx : PoolL2Tx) : TxProc PoolL2Tx := do
  if (← get).state.typ = .synchronizer then
    let acc ← getAccount tx.fromIdx
    return { tx with nonce := acc.nonce, tokenID := acc.tokenID }
  else return tx

/-- The switch of `ProcessL2Tx` over the type of the transaction; other types have no effect. -/
def applyL2Tx (coordIdxsMap : CoordIdxsMap) (tx : PoolL2Tx) : TxProc ExitOut :=
  match tx.type with
  | some .transfer | some .transferToEthAddr | some .transferToBJJ => do
    applyTransfer coordIdxsMap tx.tx tx.auxToIdx
    return {}
  | some .exit => applyExit coordIdxsMap tx.tx tx.amount
  | _ => return {}

/-- `ProcessL2Tx`, with the transaction it filled in. -/
def processL2Tx (coordIdxsMap : CoordIdxsMap) (tx : PoolL2Tx) : TxProc (PoolL2Tx × ExitOut) := do
  let tx ← findReceiver tx
  onZKInputs (fillL2Tx tx)
  let tx ← completeL2Tx tx
  let exit ← applyL2Tx coordIdxsMap tx
  return (tx, exit)

/-- `CheckEnoughBalance`: whether the sender can pay, its balance, and amount and fee together. -/
def checkEnoughBalance (store : Store) (tx : PoolL2Tx) : Bool × Option (Int × Int) :=
  match store.getAccount tx.fromIdx, calcFeeAmount tx.amount tx.fee with
  | .ok acc, .ok fee => (tx.amount + fee ≤ acc.balance, some (acc.balance, tx.amount + fee))
  | _, _ => (false, none)

end

end TxProcessor

end HermezRollup
