import HermezRollup.ContractSteps
import HermezRollup.FinmapTotal

/-! The withdrawal delayer (`WithdrawalDelayer.sol`).  It keeps withdrawals of the rollup until a delay has
passed, unless governance declares an emergency; then governance may take the funds out, and after 26 weeks
the emergency council too.

Times are stored as `uint64` values and their sums wrap.  The delay is limited to two weeks when it is changed,
but not in the constructor. -/

namespace HermezRollup

open Fallible

/-! ### The contract -/

structure DepositState where
  amount : BitVec 192 := 0
  depositTimestamp : BitVec 64 := 0
  deriving DecidableEq, Repr

/-- The storage of the contract.  The source keys its `mapping(bytes32 => DepositState)` by
`keccak256(abi.encodePacked(_owner, _token))`.  Here the pair is the key: no two pairs are taken to have the
same hash.  `entered` is the status of the guard against reentrancy. -/
structure WithdrawalDelayer where
  withdrawalDelay : BitVec 64
  emergencyModeStartingTime : BitVec 64 := 0
  hermezGovernance : Address
  pendingGovernance : Address := 0
  pendingEmergencyCouncil : Address := 0
  emergencyCouncil : Address
  emergencyMode : Bool := false
  hermezRollupAddress : Address
  deposits : Address × Address → DepositState := fun _ => {}
  entered : Bool := false

/-- What a call sees. -/
structure DelayerMsg where
  sender : Address
  value : Nat := 0
  now : Nat

/-- The answers of a token in a deposit. -/
structure TokenAnswers where
  allowance : Nat
  transferFrom : Bool

/-- The calls without a guard against reentrancy. -/
inductive DelayerCall where
  | transferGovernance (newGovernance : Address)
  | claimGovernance
  | transferEmergencyCouncil (newEmergencyCouncil : Address)
  | claimEmergencyCouncil
  | enableEmergencyMode
  | changeWithdrawalDelay (newWithdrawalDelay : BitVec 64)
  deriving DecidableEq, Repr

/-- A transfer that the contract starts. -/
structure Payout where
  recipient : Address
  token : Address
  amount : Nat
  deriving DecidableEq, Repr

namespace WithdrawalDelayer

def maxWithdrawalDelay : BitVec 64 := 2 * 7 * 24 * 60 * 60

def maxEmergencyModeTime : BitVec 64 := 26 * 7 * 24 * 60 * 60

def withdrawalDelayerInitializer (initialWithdrawalDelay : BitVec 64) (initialHermezRollup initialHermezGovernanceAddress
    initialEmergencyCouncil : Address) : Except String WithdrawalDelayer := do
  require (initialHermezRollup ≠ 0) "WithdrawalDelayer::withdrawalDelayerInitializer ADDRESS_0_NOT_VALID"
  return {
    withdrawalDelay := initialWithdrawalDelay
    hermezRollupAddress := initialHermezRollup
    hermezGovernance := initialHermezGovernanceAddress
    emergencyCouncil := initialEmergencyCouncil }

variable (d : WithdrawalDelayer)

def transferGovernance (sender newGovernance : Address) : Except String WithdrawalDelayer := do
  require (sender = d.hermezGovernance) "WithdrawalDelayer::transferGovernance: ONLY_GOVERNANCE"
  return { d with pendingGovernance := newGovernance }

def claimGovernance (sender : Address) : Except String WithdrawalDelayer := do
  require (sender = d.pendingGovernance) "WithdrawalDelayer::claimGovernance: ONLY_PENDING_GOVERNANCE"
  return { d with hermezGovernance := d.pendingGovernance, pendingGovernance := 0 }

def transferEmergencyCouncil (sender newEmergencyCouncil : Address) : Except String WithdrawalDelayer := do
  require (sender = d.emergencyCouncil) "WithdrawalDelayer::transferEmergencyCouncil: ONLY_EMERGENCY_COUNCIL"
  return { d with pendingEmergencyCouncil := newEmergencyCouncil }

def claimEmergencyCouncil (sender : Address) : Except String WithdrawalDelayer := do
  require (sender = d.pendingEmergencyCouncil) "WithdrawalDelayer::claimEmergencyCouncil: ONLY_PENDING_GOVERNANCE"
  return { d with emergencyCouncil := d.pendingEmergencyCouncil, pendingEmergencyCouncil := 0 }

def enableEmergencyMode (sender : Address) (now : Nat) : Except String WithdrawalDelayer := do
  require (sender = d.hermezGovernance) "WithdrawalDelayer::enableEmergencyMode: ONLY_GOVERNANCE"
  require (!d.emergencyMode) "WithdrawalDelayer::enableEmergencyMode: ALREADY_ENABLED"
  return { d with emergencyMode := true, emergencyModeStartingTime := BitVec.ofNat 64 now }

def changeWithdrawalDelay (sender : Address) (newWithdrawalDelay : BitVec 64) : Except String WithdrawalDelayer := do
  require (sender = d.hermezGovernance ∨ sender = d.hermezRollupAddress)
    "WithdrawalDelayer::changeWithdrawalDelay: ONLY_ROLLUP_OR_GOVERNANCE"
  require (newWithdrawalDelay ≤ maxWithdrawalDelay)
    "WithdrawalDelayer::changeWithdrawalDelay: EXCEEDS_MAX_WITHDRAWAL_DELAY"
  return { d with withdrawalDelay := newWithdrawalDelay }

def exec (sender : Address) (now : Nat) : DelayerCall → Except String WithdrawalDelayer
  | .transferGovernance newGovernance => d.transferGovernance sender newGovernance
  | .claimGovernance => d.claimGovernance sender
  | .transferEmergencyCouncil newEmergencyCouncil => d.transferEmergencyCouncil sender newEmergencyCouncil
  | .claimEmergencyCouncil => d.claimEmergencyCouncil sender
  | .enableEmergencyMode => d.enableEmergencyMode sender now
  | .changeWithdrawalDelay newWithdrawalDelay => d.changeWithdrawalDelay sender newWithdrawalDelay

def nonReentrant : Except String Unit :=
  require (!d.entered) "ReentrancyGuard: reentrant call"

def setDeposit (owner token : Address) (deposit : DepositState) : WithdrawalDelayer :=
  { d with deposits := Function.update d.deposits (owner, token) deposit }

def processDeposit (now : Nat) (owner token : Address) (amount : BitVec 192) : Except String WithdrawalDelayer := do
  let newAmount := (d.deposits (owner, token)).amount + amount
  require ((d.deposits (owner, token)).amount ≤ newAmount) "WithdrawalDelayer::_processDeposit: DEPOSIT_OVERFLOW"
  return d.setDeposit owner token ⟨newAmount, BitVec.ofNat 64 now⟩

/-- The funds are there when the deposit is recorded: with the call, or pulled from the rollup. -/
def receiveDeposit (msg : DelayerMsg) (answers : TokenAnswers) (token : Address) (amount : BitVec 192) :
    Except String Unit := do
  if msg.value ≠ 0 then
    require (token = 0) "WithdrawalDelayer::deposit: WRONG_TOKEN_ADDRESS"
    require (amount.toNat = msg.value) "WithdrawalDelayer::deposit: WRONG_AMOUNT"
  else
    -- a call to an address without code reverts
    require (token ≠ 0) ""
    require (amount.toNat ≤ answers.allowance) "WithdrawalDelayer::deposit: NOT_ENOUGH_ALLOWANCE"
    require answers.transferFrom "WithdrawalDelayer::deposit: TOKEN_TRANSFER_FAILED"

def deposit (msg : DelayerMsg) (answers : TokenAnswers) (owner token : Address) (amount : BitVec 192) :
    Except String WithdrawalDelayer := do
  d.nonReentrant
  require (msg.sender = d.hermezRollupAddress) "WithdrawalDelayer::deposit: ONLY_ROLLUP"
  receiveDeposit msg answers token amount
  d.processDeposit msg.now owner token amount

/-- `withdrawal` up to its transfer, during which the guard is set. -/
def withdrawal (now : Nat) (owner token : Address) : Except String (WithdrawalDelayer × Payout) := do
  d.nonReentrant
  require (!d.emergencyMode) "WithdrawalDelayer::deposit: EMERGENCY_MODE"
  let deposit := d.deposits (owner, token)
  require (0 < deposit.amount) "WithdrawalDelayer::withdrawal: NO_FUNDS"
  require (deposit.depositTimestamp + d.withdrawalDelay ≤ BitVec.ofNat 64 now)
    "WithdrawalDelayer::withdrawal: WITHDRAWAL_NOT_ALLOWED"
  return ({ d.setDeposit owner token {} with entered := true }, ⟨owner, token, deposit.amount.toNat⟩)

/-- `escapeHatchWithdrawal` up to its transfer. -/
def escapeHatchWithdrawal (sender : Address) (now : Nat) (recipient token : Address) (amount : BitVec 256) :
    Except String (WithdrawalDelayer × Payout) := do
  d.nonReentrant
  require d.emergencyMode "WithdrawalDelayer::escapeHatchWithdrawal: ONLY_EMODE"
  require (sender = d.emergencyCouncil ∨ sender = d.hermezGovernance)
    "WithdrawalDelayer::escapeHatchWithdrawal: ONLY_GOVERNANCE"
  require (!(sender = d.emergencyCouncil ∧ d.emergencyCouncil ≠ d.hermezGovernance) ||
      d.emergencyModeStartingTime + maxEmergencyModeTime ≤ BitVec.ofNat 64 now)
    "WithdrawalDelayer::escapeHatchWithdrawal: NO_MAX_EMERGENCY_MODE_TIME"
  return ({ d with entered := true }, ⟨recipient, token, amount.toNat⟩)

end WithdrawalDelayer

/-! ### Runs -/

/-- The contract with its balance of each token (token 0 is Ether), the time, and what has happened: the
deposits and the time of the last one for each owner and token, the payments of withdrawals with the owner they were for,
and when the emergency began. -/
structure DelayerWorld where
  delayer : WithdrawalDelayer
  thisAddress : Address
  balance : Address → Nat := fun _ => 0
  now : Nat
  deposited : Address × Address → Nat := fun _ => 0
  lastDeposit : Address × Address → Nat := fun _ => 0
  withdrawals : List (Address × Payout) := []
  emergencySince : Option Nat := none

/-- What happens.  A call that pays ends in `returned`; before that the receiver has control, and may call.  The
balances also grow by themselves, since anyone can send tokens and force Ether on a contract. -/
inductive DelayerAction where
  | call (sender : Address) (call : DelayerCall)
  | deposit (sender : Address) (value : Nat) (answers : TokenAnswers) (owner token : Address) (amount : BitVec 192)
  | withdrawal (owner token : Address)
  | escapeHatchWithdrawal (sender recipient token : Address) (amount : BitVec 256)
  | returned
  | received (token : Address) (amount : Nat)
  | wait (seconds : Nat)

namespace DelayerWorld

variable (w : DelayerWorld)

/-- `_ethWithdrawal` and `_tokenWithdrawal`, with a token that moves the amount or reverts.  The contract itself
takes no Ether. -/
def pay (payout : Payout) : Except String (Address → Nat) := do
  require (payout.amount ≤ w.balance payout.token ∧ ¬(payout.token = 0 ∧ payout.recipient = w.thisAddress))
    (if payout.token = 0 then "WithdrawalDelayer::_ethWithdrawal: TRANSFER_FAILED"
      else "WithdrawalDelayer::_tokenWithdrawal: TOKEN_TRANSFER_FAILED")
  return if payout.recipient = w.thisAddress then w.balance
    else Function.update w.balance payout.token (w.balance payout.token - payout.amount)

def step : DelayerAction → Except String DelayerWorld
  | .call sender call => do
    let delayer ← w.delayer.exec sender w.now call
    let emergencySince := if call = .enableEmergencyMode then some w.now else w.emergencySince
    return { w with delayer, emergencySince }
  | .deposit sender value answers owner token amount => do
    let delayer ← w.delayer.deposit ⟨sender, value, w.now⟩ answers owner token amount
    return { w with
      delayer
      balance := Function.update w.balance token (w.balance token + amount.toNat)
      deposited := Function.update w.deposited (owner, token) (w.deposited (owner, token) + amount.toNat)
      lastDeposit := Function.update w.lastDeposit (owner, token) w.now }
  | .withdrawal owner token => do
    let (delayer, payout) ← w.delayer.withdrawal w.now owner token
    let balance ← w.pay payout
    return { w with delayer, balance, withdrawals := (owner, payout) :: w.withdrawals }
  | .escapeHatchWithdrawal sender recipient token amount => do
    let (delayer, payout) ← w.delayer.escapeHatchWithdrawal sender w.now recipient token amount
    let balance ← w.pay payout
    return { w with delayer, balance }
  | .returned => .ok { w with delayer := { w.delayer with entered := false } }
  | .received token amount => .ok { w with balance := Function.update w.balance token (w.balance token + amount) }
  | .wait seconds => do
    -- a transaction has one time
    require (!w.delayer.entered) ""
    return { w with now := w.now + seconds }

end DelayerWorld

/-! ### What each function does -/

namespace WithdrawalDelayer

variable {d d' : WithdrawalDelayer}

/-- What is recorded of a token, over all owners. -/
def owed (d : WithdrawalDelayer) (token : Address) : Nat :=
  ∑ owner : Address, (d.deposits (owner, token)).amount.toNat

theorem setDeposit_self (d : WithdrawalDelayer) (owner token : Address) (deposit : DepositState) :
    (d.setDeposit owner token deposit).deposits (owner, token) = deposit :=
  Function.update_self _ _ _

theorem setDeposit_of_ne (d : WithdrawalDelayer) {owner token : Address} {pair : Address × Address} (h : pair ≠ (owner, token))
    (deposit : DepositState) : (d.setDeposit owner token deposit).deposits pair = d.deposits pair :=
  Function.update_of_ne h _ _

theorem owed_setDeposit (d : WithdrawalDelayer) (owner token : Address) (deposit : DepositState) :
    (d.setDeposit owner token deposit).owed token + (d.deposits (owner, token)).amount.toNat =
      d.owed token + deposit.amount.toNat := by
  have hsum := BitVec.sum_apply_update (fun _ (deposit : DepositState) => deposit.amount.toNat)
    (fun owner' => d.deposits (owner', token)) owner deposit
  have hupdate : (d.setDeposit owner token deposit).owed token =
      ∑ owner', (Function.update (fun owner' => d.deposits (owner', token)) owner deposit owner').amount.toNat := by
    apply Finset.sum_congr rfl
    intro owner' _
    by_cases heq : owner' = owner
    · subst heq
      rw [setDeposit_self, Function.update_self]
    · rw [setDeposit_of_ne d (fun h => heq (congrArg Prod.fst h)), Function.update_of_ne heq]
  rw [hupdate]
  exact hsum

theorem owed_setDeposit_of_ne (d : WithdrawalDelayer) (owner : Address) {token token' : Address} (hne : token' ≠ token)
    (deposit : DepositState) : (d.setDeposit owner token deposit).owed token' = d.owed token' := by
  apply Finset.sum_congr rfl
  intro owner' _
  rw [setDeposit_of_ne d fun h => hne (congrArg Prod.snd h)]

/-- A call without a guard leaves the deposits alone, and an emergency is only declared. -/
structure Configured (now : Nat) (call : DelayerCall) (d d' : WithdrawalDelayer) : Prop where
  deposits : d'.deposits = d.deposits
  enabled : call = .enableEmergencyMode →
    d.emergencyMode = false ∧ d'.emergencyMode = true ∧ d'.emergencyModeStartingTime = BitVec.ofNat 64 now
  kept : call ≠ .enableEmergencyMode →
    d'.emergencyMode = d.emergencyMode ∧ d'.emergencyModeStartingTime = d.emergencyModeStartingTime

theorem exec_ok {sender : Address} {now : Nat} {call : DelayerCall} (h : d.exec sender now call = .ok d') :
    Configured now call d d' := by
  cases call with
  | enableEmergencyMode =>
    obtain ⟨_, h⟩ := require_bind_ok.mp h
    obtain ⟨hoff, h⟩ := require_bind_ok.mp h
    cases h
    exact ⟨rfl, fun _ => ⟨Bool.not_eq_true' _ |>.mp hoff, rfl, rfl⟩, fun hne => absurd rfl hne⟩
  | changeWithdrawalDelay newWithdrawalDelay =>
    obtain ⟨_, h⟩ := require_bind_ok.mp h
    obtain ⟨_, h⟩ := require_bind_ok.mp h
    cases h
    exact ⟨rfl, nofun, fun _ => ⟨rfl, rfl⟩⟩
  | transferGovernance newGovernance =>
    obtain ⟨_, h⟩ := require_bind_ok.mp h
    cases h
    exact ⟨rfl, nofun, fun _ => ⟨rfl, rfl⟩⟩
  | claimGovernance =>
    obtain ⟨_, h⟩ := require_bind_ok.mp h
    cases h
    exact ⟨rfl, nofun, fun _ => ⟨rfl, rfl⟩⟩
  | transferEmergencyCouncil newEmergencyCouncil =>
    obtain ⟨_, h⟩ := require_bind_ok.mp h
    cases h
    exact ⟨rfl, nofun, fun _ => ⟨rfl, rfl⟩⟩
  | claimEmergencyCouncil =>
    obtain ⟨_, h⟩ := require_bind_ok.mp h
    cases h
    exact ⟨rfl, nofun, fun _ => ⟨rfl, rfl⟩⟩

theorem toNat_add_of_le {w : Nat} {a b : BitVec w} (h : a ≤ a + b) : (a + b).toNat = a.toNat + b.toNat := by
  rw [BitVec.le_def, BitVec.toNat_add] at h
  rw [BitVec.toNat_add]
  have ha := a.isLt
  have hb := b.isLt
  by_cases hlt : a.toNat + b.toNat < 2 ^ w
  · exact Nat.mod_eq_of_lt hlt
  · rw [Nat.mod_eq_sub_mod (not_lt.mp hlt), Nat.mod_eq_of_lt (by omega)] at h
    omega

theorem deposit_ok {msg : DelayerMsg} {answers : TokenAnswers} {owner token : Address} {amount : BitVec 192}
    (h : d.deposit msg answers owner token amount = .ok d') :
    ∃ newAmount : BitVec 192, newAmount.toNat = (d.deposits (owner, token)).amount.toNat + amount.toNat ∧
      d' = d.setDeposit owner token ⟨newAmount, BitVec.ofNat 64 msg.now⟩ := by
  obtain ⟨_, _, h⟩ := except_bind_ok.mp h
  obtain ⟨_, h⟩ := require_bind_ok.mp h
  obtain ⟨_, _, h⟩ := except_bind_ok.mp h
  obtain ⟨hle, h⟩ := require_bind_ok.mp h
  cases h
  exact ⟨_, toNat_add_of_le (of_decide_eq_true hle), rfl⟩

theorem withdrawal_ok {now : Nat} {owner token : Address} {payout : Payout}
    (h : d.withdrawal now owner token = .ok (d', payout)) :
    d.emergencyMode = false ∧ 0 < (d.deposits (owner, token)).amount ∧
      (d.deposits (owner, token)).depositTimestamp + d.withdrawalDelay ≤ BitVec.ofNat 64 now ∧
      d' = { d.setDeposit owner token {} with entered := true } ∧
      payout = ⟨owner, token, (d.deposits (owner, token)).amount.toNat⟩ := by
  obtain ⟨_, _, h⟩ := except_bind_ok.mp h
  obtain ⟨hoff, h⟩ := require_bind_ok.mp h
  obtain ⟨hfunds, h⟩ := require_bind_ok.mp h
  obtain ⟨htime, h⟩ := require_bind_ok.mp h
  cases h
  exact ⟨Bool.not_eq_true' _ |>.mp hoff, of_decide_eq_true hfunds, of_decide_eq_true htime, rfl, rfl⟩

theorem escapeHatchWithdrawal_ok {sender recipient token : Address} {now : Nat} {amount : BitVec 256} {payout : Payout}
    (h : d.escapeHatchWithdrawal sender now recipient token amount = .ok (d', payout)) :
    d.emergencyMode = true ∧ (sender = d.emergencyCouncil → d.emergencyCouncil ≠ d.hermezGovernance →
        d.emergencyModeStartingTime + maxEmergencyModeTime ≤ BitVec.ofNat 64 now) ∧
      d' = { d with entered := true } := by
  obtain ⟨_, _, h⟩ := except_bind_ok.mp h
  obtain ⟨hon, h⟩ := require_bind_ok.mp h
  obtain ⟨_, h⟩ := require_bind_ok.mp h
  obtain ⟨htime, h⟩ := require_bind_ok.mp h
  cases h
  refine ⟨hon, ?_, rfl⟩
  intro hsender hne
  simpa [hsender, hne] using htime

theorem le_of_add_le_ofNat {a b : BitVec 64} {now : Nat} (hnow : now < 2 ^ 64) (hfits : a.toNat + b.toNat < 2 ^ 64)
    (h : a + b ≤ BitVec.ofNat 64 now) : a.toNat + b.toNat ≤ now := by
  rw [BitVec.le_def, BitVec.toNat_add, BitVec.toNat_ofNat, Nat.mod_eq_of_lt hfits, Nat.mod_eq_of_lt hnow] at h
  exact h

end WithdrawalDelayer

namespace DelayerWorld

open WithdrawalDelayer

variable {w w' : DelayerWorld}

theorem pay_ok {payout : Payout} {balance : Address → Nat} (h : w.pay payout = .ok balance) :
    payout.amount ≤ w.balance payout.token ∧ (∀ token, token ≠ payout.token → balance token = w.balance token) ∧
      w.balance payout.token - payout.amount ≤ balance payout.token := by
  obtain ⟨hpay, h⟩ := require_bind_ok.mp h
  cases h
  refine ⟨(of_decide_eq_true hpay).1, ?_, ?_⟩
  · intro token hne
    split
    · rfl
    · rw [Function.update_of_ne hne]
  · split
    · exact Nat.sub_le _ _
    · rw [Function.update_self]

/-! ### Custody -/

def paid (w : DelayerWorld) (owner token : Address) : Nat :=
  ((w.withdrawals.filter fun entry => entry.1 = owner ∧ entry.2.token = token).map fun entry => entry.2.amount).sum

/-- The account who starts a call, if the contract asks for it. -/
def sender : DelayerAction → Option Address
  | .call sender _ => some sender
  | .deposit sender .. => some sender
  | .escapeHatchWithdrawal sender .. => some sender
  | _ => none

/-- Runs of the contract.  A call that reverts leaves everything as it was. -/
inductive Reached (allowed : DelayerWorld → DelayerAction → Prop) : DelayerWorld → Prop
  | create {delay : BitVec 64} {rollup governance council : Address} {delayer : WithdrawalDelayer} (thisAddress : Address)
      (now : Nat) (hnew : withdrawalDelayerInitializer delay rollup governance council = .ok delayer) :
      Reached allowed { delayer, thisAddress, now }
  | step {w w' : DelayerWorld} {action : DelayerAction} (h : Reached allowed w) (hallowed : allowed w action)
      (hsender : sender action ≠ some w.thisAddress) (hstep : w.step action = .ok w') : Reached allowed w'

/-- Times and their sums are below `2 ^ 64`. -/
def TimesFit (w : DelayerWorld) (action : DelayerAction) : Prop :=
  w.now < 2 ^ 64 ∧ match action with
    | .withdrawal owner token =>
      (w.delayer.deposits (owner, token)).depositTimestamp.toNat + w.delayer.withdrawalDelay.toNat < 2 ^ 64
    | .escapeHatchWithdrawal .. =>
      w.delayer.emergencyModeStartingTime.toNat + maxEmergencyModeTime.toNat < 2 ^ 64
    | _ => True

/-- One step leads to the other. -/
def Next (w w' : DelayerWorld) : Prop :=
  ∃ action, w.step action = .ok w'

/-- The contract keeps what it was given for its owners, and an emergency does not end. -/
structure Safe (w : DelayerWorld) : Prop where
  covered : w.delayer.emergencyMode = false → ∀ token, w.delayer.owed token ≤ w.balance token
  paid : ∀ owner token, w.paid owner token ≤ w.deposited (owner, token)
  recipient : ∀ owner payout, (owner, payout) ∈ w.withdrawals → payout.recipient = owner
  emergency : w.delayer.emergencyMode = true → ∀ w', Relation.ReflTransGen Next w w' →
    w'.delayer.emergencyMode = true ∧ ∀ owner token w'', w'.step (.withdrawal owner token) ≠ .ok w''

/-- A withdrawal comes after its delay, and the emergency council has waited. -/
def StepSafe (w : DelayerWorld) : DelayerAction → Prop
  | .withdrawal owner token => w.lastDeposit (owner, token) + w.delayer.withdrawalDelay.toNat ≤ w.now
  | .escapeHatchWithdrawal sender .. =>
    sender = w.delayer.emergencyCouncil → w.delayer.emergencyCouncil ≠ w.delayer.hermezGovernance →
      ∃ since, w.emergencySince = some since ∧ since + maxEmergencyModeTime.toNat ≤ w.now
  | _ => True

structure Sound (w : DelayerWorld) : Prop where
  covered : w.delayer.emergencyMode = false → ∀ token, w.delayer.owed token ≤ w.balance token
  accounted : ∀ owner token, w.paid owner token + (w.delayer.deposits (owner, token)).amount.toNat = w.deposited (owner, token)
  recipient : ∀ owner payout, (owner, payout) ∈ w.withdrawals → payout.recipient = owner
  timestamp : ∀ pair, 0 < (w.delayer.deposits pair).amount →
    (w.delayer.deposits pair).depositTimestamp.toNat = w.lastDeposit pair
  since : w.delayer.emergencyMode = true → w.emergencySince = some w.delayer.emergencyModeStartingTime.toNat

theorem sound_create {delay : BitVec 64} {rollup governance council thisAddress : Address} {now : Nat}
    {delayer : WithdrawalDelayer}
    (h : withdrawalDelayerInitializer delay rollup governance council = .ok delayer) :
    Sound { delayer, thisAddress, now } := by
  obtain ⟨_, h⟩ := require_bind_ok.mp h
  cases h
  refine ⟨?_, ?_, ?_, ?_, ?_⟩
  · intro _ token
    exact (Finset.sum_eq_zero fun _ _ => rfl).le
  · exact fun _ _ => rfl
  · exact fun _ _ h => nomatch h
  · intro _ hpositive
    exact absurd hpositive (by decide : ¬(0 : BitVec 192) < 0)
  · exact fun h => nomatch h

theorem Sound.call (h : Sound w) {sender : Address} {call : DelayerCall} (hnow : w.now < 2 ^ 64)
    (hstep : w.step (.call sender call) = .ok w') : Sound w' := by
  obtain ⟨delayer, hexec, hstep⟩ := except_bind_ok.mp hstep
  cases hstep
  have hconfigured := exec_ok hexec
  refine ⟨?_, ?_, h.recipient, ?_, ?_⟩
  · intro hoff token
    have howed : delayer.owed token = w.delayer.owed token := by
      rw [owed, hconfigured.deposits]
      rfl
    change delayer.owed token ≤ w.balance token
    rw [howed]
    by_cases hcall : call = .enableEmergencyMode
    · exact h.covered (hconfigured.enabled hcall).1 token
    · exact h.covered ((hconfigured.kept hcall).1.symm.trans hoff) token
  · intro owner token
    change w.paid owner token + (delayer.deposits (owner, token)).amount.toNat = _
    rw [hconfigured.deposits]
    exact h.accounted owner token
  · change ∀ pair, 0 < (delayer.deposits pair).amount → (delayer.deposits pair).depositTimestamp.toNat = _
    rw [hconfigured.deposits]
    exact h.timestamp
  · intro hon
    change (if call = .enableEmergencyMode then some w.now else w.emergencySince) =
      some delayer.emergencyModeStartingTime.toNat
    by_cases hcall : call = .enableEmergencyMode
    · rw [if_pos hcall, (hconfigured.enabled hcall).2.2, BitVec.toNat_ofNat, Nat.mod_eq_of_lt hnow]
    · rw [if_neg hcall, (hconfigured.kept hcall).2]
      exact h.since ((hconfigured.kept hcall).1.symm.trans hon)

theorem Sound.deposit (h : Sound w) {sender owner token : Address} {value : Nat} {answers : TokenAnswers}
    {amount : BitVec 192} (hnow : w.now < 2 ^ 64)
    (hstep : w.step (.deposit sender value answers owner token amount) = .ok w') : Sound w' := by
  obtain ⟨delayer, hdeposit, hstep⟩ := except_bind_ok.mp hstep
  cases hstep
  obtain ⟨newAmount, hamount, rfl⟩ := deposit_ok hdeposit
  refine ⟨?_, ?_, h.recipient, ?_, h.since⟩
  · intro hoff token'
    have hcovered := h.covered hoff token'
    dsimp only
    by_cases heq : token' = token
    · subst heq
      have howed := w.delayer.owed_setDeposit owner token' ⟨newAmount, BitVec.ofNat 64 w.now⟩
      rw [Function.update_self]
      dsimp only at howed
      omega
    · rw [w.delayer.owed_setDeposit_of_ne owner heq, Function.update_of_ne heq]
      exact hcovered
  · intro owner' token'
    have haccounted := h.accounted owner' token'
    dsimp only
    change w.paid owner' token' + _ = _
    by_cases heq : (owner', token') = (owner, token)
    · cases heq
      rw [setDeposit_self, Function.update_self, hamount, ← haccounted, Nat.add_assoc]
    · rw [setDeposit_of_ne _ heq, Function.update_of_ne heq]
      exact haccounted
  · intro pair hpositive
    dsimp only at hpositive ⊢
    by_cases heq : pair = (owner, token)
    · subst heq
      rw [setDeposit_self, Function.update_self, BitVec.toNat_ofNat, Nat.mod_eq_of_lt hnow]
    · rw [setDeposit_of_ne _ heq] at hpositive ⊢
      rw [Function.update_of_ne heq]
      exact h.timestamp pair hpositive

theorem paid_cons {entry : Address × Payout} {entries : List (Address × Payout)} (hentries : w'.withdrawals = entry :: entries)
    (howner : w.withdrawals = entries) (owner token : Address) :
    w'.paid owner token = (if entry.1 = owner ∧ entry.2.token = token then entry.2.amount else 0) + w.paid owner token := by
  rw [paid, paid, hentries, howner, List.filter_cons]
  by_cases heq : entry.1 = owner ∧ entry.2.token = token
  · rw [if_pos heq, if_pos (decide_eq_true heq), List.map_cons, List.sum_cons]
  · rw [if_neg heq, if_neg (by simpa using heq), Nat.zero_add]

theorem Sound.withdrawal (h : Sound w) {owner token : Address} (hstep : w.step (.withdrawal owner token) = .ok w') :
    Sound w' := by
  obtain ⟨⟨delayer, payout⟩, hwithdrawal, hstep⟩ := except_bind_ok.mp hstep
  obtain ⟨balance, hpay, hstep⟩ := except_bind_ok.mp hstep
  cases hstep
  obtain ⟨hoff, _, _, rfl, rfl⟩ := withdrawal_ok hwithdrawal
  obtain ⟨hle, hother, hbalance⟩ := pay_ok hpay
  refine ⟨?_, ?_, ?_, ?_, h.since⟩
  · intro _ token'
    have hcovered := h.covered hoff token'
    change (w.delayer.setDeposit owner token {}).owed token' ≤ balance token'
    by_cases heq : token' = token
    · subst heq
      have howed := w.delayer.owed_setDeposit owner token' {}
      have hzero : ({} : DepositState).amount.toNat = 0 := rfl
      dsimp only at hle hbalance
      omega
    · rw [w.delayer.owed_setDeposit_of_ne owner heq, hother token' heq]
      exact hcovered
  · intro owner' token'
    have haccounted := h.accounted owner' token'
    rw [paid_cons rfl rfl]
    change _ + ((w.delayer.setDeposit owner token {}).deposits (owner', token')).amount.toNat = _
    by_cases heq : (owner', token') = (owner, token)
    · cases heq
      rw [setDeposit_self, if_pos ⟨rfl, rfl⟩, ← haccounted, Nat.add_comm (w.paid owner token)]
      rfl
    · rw [setDeposit_of_ne _ heq, if_neg, Nat.zero_add]
      · exact haccounted
      · rintro ⟨rfl, rfl⟩
        exact heq rfl
  · intro owner' payout hmem
    rcases List.mem_cons.mp hmem with heq | hmem
    · cases heq
      rfl
    · exact h.recipient owner' payout hmem
  · intro pair hpositive
    change 0 < ((w.delayer.setDeposit owner token {}).deposits pair).amount at hpositive
    change ((w.delayer.setDeposit owner token {}).deposits pair).depositTimestamp.toNat = _
    by_cases heq : pair = (owner, token)
    · subst heq
      rw [setDeposit_self] at hpositive
      exact absurd hpositive (by decide)
    · rw [setDeposit_of_ne _ heq] at hpositive ⊢
      exact h.timestamp pair hpositive

theorem Sound.escapeHatchWithdrawal (h : Sound w) {sender recipient token : Address} {amount : BitVec 256}
    (hstep : w.step (.escapeHatchWithdrawal sender recipient token amount) = .ok w') : Sound w' := by
  obtain ⟨⟨delayer, payout⟩, hescape, hstep⟩ := except_bind_ok.mp hstep
  obtain ⟨balance, _, hstep⟩ := except_bind_ok.mp hstep
  cases hstep
  obtain ⟨hon, _, rfl⟩ := escapeHatchWithdrawal_ok hescape
  refine ⟨?_, h.accounted, h.recipient, h.timestamp, h.since⟩
  intro hoff
  exact absurd hoff (by rw [hon]; exact nofun)

theorem Sound.received (h : Sound w) (token : Address) (amount : Nat) :
    Sound { w with balance := Function.update w.balance token (w.balance token + amount) } := by
  refine ⟨?_, h.accounted, h.recipient, h.timestamp, h.since⟩
  intro hoff token'
  have hcovered := h.covered hoff token'
  dsimp only
  by_cases heq : token' = token
  · subst heq
    rw [Function.update_self]
    omega
  · rw [Function.update_of_ne heq]
    exact hcovered

theorem Sound.step (h : Sound w) {action : DelayerAction} (hfits : w.TimesFit action) (hstep : w.step action = .ok w') :
    Sound w' := by
  cases action with
  | call sender call => exact h.call hfits.1 hstep
  | deposit sender value answers owner token amount => exact h.deposit hfits.1 hstep
  | withdrawal owner token => exact h.withdrawal hstep
  | escapeHatchWithdrawal sender recipient token amount => exact h.escapeHatchWithdrawal hstep
  | returned =>
    cases hstep
    exact ⟨h.covered, h.accounted, h.recipient, h.timestamp, h.since⟩
  | received token amount =>
    cases hstep
    exact h.received token amount
  | wait seconds =>
    obtain ⟨_, hstep⟩ := require_bind_ok.mp hstep
    cases hstep
    exact ⟨h.covered, h.accounted, h.recipient, h.timestamp, h.since⟩

theorem Reached.sound (h : Reached TimesFit w) : Sound w := by
  induction h with
  | create thisAddress now hnew => exact sound_create hnew
  | step _ hfits _ hstep ih => exact ih.step hfits hstep

/-! #### Emergencies -/

theorem emergency_step {action : DelayerAction} (hon : w.delayer.emergencyMode = true) (hstep : w.step action = .ok w') :
    w'.delayer.emergencyMode = true := by
  cases action with
  | call sender call =>
    obtain ⟨delayer, hexec, hstep⟩ := except_bind_ok.mp hstep
    cases hstep
    have hconfigured := exec_ok hexec
    by_cases hcall : call = .enableEmergencyMode
    · exact (hconfigured.enabled hcall).2.1
    · exact (hconfigured.kept hcall).1.trans hon
  | deposit sender value answers owner token amount =>
    obtain ⟨delayer, hdeposit, hstep⟩ := except_bind_ok.mp hstep
    cases hstep
    obtain ⟨_, _, rfl⟩ := deposit_ok hdeposit
    exact hon
  | withdrawal owner token =>
    obtain ⟨⟨delayer, payout⟩, hwithdrawal, hstep⟩ := except_bind_ok.mp hstep
    rw [(withdrawal_ok hwithdrawal).1] at hon
    cases hon
  | escapeHatchWithdrawal sender recipient token amount =>
    obtain ⟨⟨delayer, payout⟩, hescape, hstep⟩ := except_bind_ok.mp hstep
    obtain ⟨_, _, hstep⟩ := except_bind_ok.mp hstep
    cases hstep
    obtain ⟨_, _, rfl⟩ := escapeHatchWithdrawal_ok hescape
    exact hon
  | returned =>
    cases hstep
    exact hon
  | received token amount =>
    cases hstep
    exact hon
  | wait seconds =>
    obtain ⟨_, hstep⟩ := require_bind_ok.mp hstep
    cases hstep
    exact hon

theorem emergency_later (hon : w.delayer.emergencyMode = true) (h : Relation.ReflTransGen Next w w') :
    w'.delayer.emergencyMode = true := by
  induction h with
  | refl => exact hon
  | tail _ hnext ih =>
    obtain ⟨action, hstep⟩ := hnext
    exact emergency_step ih hstep

theorem withdrawal_refused (hon : w.delayer.emergencyMode = true) (owner token : Address) :
    w.step (.withdrawal owner token) ≠ .ok w' := by
  intro hstep
  obtain ⟨⟨delayer, payout⟩, hwithdrawal, _⟩ := except_bind_ok.mp hstep
  rw [(withdrawal_ok hwithdrawal).1] at hon
  cases hon

theorem Sound.safe (h : Sound w) : Safe w := by
  refine ⟨h.covered, ?_, h.recipient, ?_⟩
  · intro owner token
    have haccounted := h.accounted owner token
    omega
  · intro hon w' hlater
    have hon' := emergency_later hon hlater
    exact ⟨hon', fun owner token w'' => withdrawal_refused hon' owner token⟩

theorem Sound.stepSafe (h : Sound w) {action : DelayerAction} (hfits : w.TimesFit action) (hstep : w.step action = .ok w') :
    w.StepSafe action := by
  cases action with
  | withdrawal owner token =>
    obtain ⟨⟨delayer, payout⟩, hwithdrawal, _⟩ := except_bind_ok.mp hstep
    obtain ⟨_, hpositive, htime, _⟩ := withdrawal_ok hwithdrawal
    rw [StepSafe, ← h.timestamp _ hpositive]
    exact le_of_add_le_ofNat hfits.1 hfits.2 htime
  | escapeHatchWithdrawal sender recipient token amount =>
    obtain ⟨⟨delayer, payout⟩, hescape, _⟩ := except_bind_ok.mp hstep
    obtain ⟨hon, htime, _⟩ := escapeHatchWithdrawal_ok hescape
    intro hsender hne
    exact ⟨_, h.since hon, le_of_add_le_ofNat hfits.1 hfits.2 (htime hsender hne)⟩
  | call sender call => trivial
  | deposit sender value answers owner token amount => trivial
  | returned => trivial
  | received token amount => trivial
  | wait seconds => trivial

/-- The withdrawal delayer is safe in every run whose times and their sums are below `2 ^ 64`, also while a receiver
of Ether has control. -/
theorem withdrawalDelayer_safe (h : Reached TimesFit w) :
    Safe w ∧ ∀ action w', w.TimesFit action → w.step action = .ok w' → w.StepSafe action :=
  ⟨h.sound.safe, fun _ _ hfits hstep => h.sound.stepSafe hfits hstep⟩

/-! #### A deposit of Ether

The contract is account 1, the rollup account 2, governance account 3 and the council account 4. -/

def newDelayer (delay : BitVec 64) : DelayerWorld where
  delayer := { withdrawalDelay := delay, hermezGovernance := 3, emergencyCouncil := 4, hermezRollupAddress := 2 }
  thisAddress := 1
  now := 1000

def fundedDelayer (delay : BitVec 64) : DelayerWorld :=
  { newDelayer delay with
    delayer := (newDelayer delay).delayer.setDeposit 7 0 ⟨5, 1000⟩
    balance := Function.update (fun _ => 0) 0 5
    deposited := Function.update (fun _ => 0) (7, 0) 5
    lastDeposit := Function.update (fun _ => 0) (7, 0) 1000 }

theorem reached_fundedDelayer {allowed : DelayerWorld → DelayerAction → Prop} (delay : BitVec 64)
    (hallowed : allowed (newDelayer delay) (.deposit 2 5 ⟨0, false⟩ 7 0 5)) : Reached allowed (fundedDelayer delay) := by
  have hnew : withdrawalDelayerInitializer delay 2 3 4 = .ok (newDelayer delay).delayer := rfl
  have hstep : (newDelayer delay).step (.deposit 2 5 ⟨0, false⟩ 7 0 5) = .ok (fundedDelayer delay) := rfl
  have hsender : sender (.deposit 2 5 ⟨0, false⟩ 7 0 5) ≠ some 1 := by decide
  exact (Reached.create 1 1000 hnew).step hallowed hsender hstep

/-- With a delay of 100 seconds the deposit is paid at time 1100, and the contract is safe while account 7 has
control. -/
theorem withdrawalDelayer_safe_paid :
    ∃ w, Reached TimesFit w ∧ w.delayer.entered = true ∧ w.paid 7 0 = 5 ∧ Safe w := by
  have hfunded : Reached TimesFit (fundedDelayer 100) := reached_fundedDelayer 100 ⟨by decide, trivial⟩
  have hwait : (fundedDelayer 100).step (.wait 100) = .ok { fundedDelayer 100 with now := 1100 } := rfl
  have hwaited : Reached TimesFit { fundedDelayer 100 with now := 1100 } :=
    hfunded.step ⟨by decide, trivial⟩ (by decide) hwait
  obtain ⟨w, hstep, hentered, hpaid⟩ : ∃ w, { fundedDelayer 100 with now := 1100 }.step (.withdrawal 7 0) = .ok w ∧
      w.delayer.entered = true ∧ w.paid 7 0 = 5 := ⟨_, rfl, rfl, rfl⟩
  have hreached : Reached TimesFit w := hwaited.step ⟨by decide, by decide⟩ (by decide) hstep
  exact ⟨w, hreached, hentered, hpaid, (withdrawalDelayer_safe hreached).1⟩

/-- The constructor takes a delay of `2 ^ 64 - 1` seconds, and the deposit can be withdrawn at once. -/
theorem maxDelay_withdrawnAtOnce :
    ∃ w w', Reached (fun _ _ => True) w ∧ w.delayer.withdrawalDelay = BitVec.allOnes 64 ∧ w.lastDeposit (7, 0) = w.now ∧
      w.step (.withdrawal 7 0) = .ok w' ∧ ¬w.StepSafe (.withdrawal 7 0) := by
  have hreached : Reached (fun _ _ => True) (fundedDelayer (BitVec.allOnes 64)) := reached_fundedDelayer _ trivial
  refine ⟨_, _, hreached, rfl, rfl, rfl, ?_⟩
  exact (by decide : ¬(1000 + (BitVec.allOnes 64).toNat ≤ 1000))

end DelayerWorld

end HermezRollup
