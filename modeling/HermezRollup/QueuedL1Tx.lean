import HermezRollup.ContractSteps
import HermezRollup.L1Tx

/-! What the node makes of the L1 user transactions the contract queues.  The node decodes the 78 bytes,
computes a type by a case analysis of its own, and encodes the transaction again for the circuit.  The
case analyses agree except for an exit without a sender, and the encodings on canonical floats. -/

namespace HermezRollup

open Bytes Fallible

theorem float2Fix_eq (float : BitVec 40) : float2Fix float = float40Value float.toNat := by
  have hmant : (float &&& 0x7FFFFFFFF#40).toNat = float40Mantissa float.toNat := by
    rw [BitVec.toNat_and, show (0x7FFFFFFFF#40).toNat = 2 ^ 35 - 1 from rfl, Nat.and_two_pow_sub_one_eq_mod]
    rfl
  have hexp : (float >>> 35).toNat = float40Exponent float.toNat := by
    rw [BitVec.toNat_ushiftRight, Nat.shiftRight_eq_div_pow]
    rfl
  simp only [float2Fix, hmant, hexp, float40Value]

/-! ### What the node decodes -/

/-- The transaction the node decodes from the packed arguments. -/
def L1UserTxArgs.decoded (args : L1UserTxArgs) : L1Tx :=
  { userOrigin := true, fromEthAddr := args.ethAddress, fromBJJ := args.babyPubKey,
    fromIdx := args.fromIdx.toNat, toIdx := args.toIdx.toNat, tokenID := args.tokenID,
    depositAmount := float2Fix args.loadAmountF, amount := float2Fix args.amountF }

private theorem idx_le (idx : BitVec 48) : idx.toNat ≤ maxIdxValue := by
  have := idx.isLt
  unfold maxIdxValue
  omega

theorem l1UserTxFromBytes_encodePacked (args : L1UserTxArgs) :
    l1UserTxFromBytes args.encodePacked = .ok args.decoded := by
  rw [L1UserTxArgs.encodePacked, l1UserTxFromBytes_packed args.ethAddress args.babyPubKey (idx_le args.fromIdx)
    (idx_le args.toIdx) args.loadAmountF.isLt args.amountF.isLt args.tokenID]
  simp only [L1UserTxArgs.decoded, float2Fix_eq]

/-! ### The two case analyses -/

/-- The kinds of L1 user transactions in the contract's table. -/
inductive L1UserTxKind where
  | createAccount
  | createAccountDeposit
  | createAccountDepositAndTransfer
  | deposit
  | exit
  | transfer
  | depositAndTransfer
  deriving DecidableEq, Repr

/-- The contract's table of L1 user transactions, by sender, receiver and deposit. -/
def l1UserTxTable (fromIdx toIdx : BitVec 48) (loadAmount : Nat) : Option L1UserTxKind :=
  if fromIdx = 0 then
    if toIdx = 0 then some (if loadAmount = 0 then .createAccount else .createAccountDeposit)
    else if reservedIdx < toIdx then some .createAccountDepositAndTransfer
    else none
  else if reservedIdx < fromIdx then
    if toIdx = 0 then some .deposit
    else if toIdx = exitIdx then (if loadAmount = 0 then some .exit else none)
    else if reservedIdx < toIdx then some (if loadAmount = 0 then .transfer else .depositAndTransfer)
    else none
  else none

/-- The node's type for each kind; it does not tell an account creation without a deposit apart. -/
def L1UserTxKind.txType : L1UserTxKind → TxType
  | createAccount => .createAccountDeposit
  | createAccountDeposit => .createAccountDeposit
  | createAccountDepositAndTransfer => .createAccountDepositTransfer
  | deposit => .deposit
  | exit => .forceExit
  | transfer => .forceTransfer
  | depositAndTransfer => .depositTransfer

/-- A deposit the contract admits is zero if its low 64 bits are: those of a non-zero float below
`2 ^ 128` never vanish, because an exponent large enough for 64 factors of two brings too many factors
of five. -/
theorem float40Value_low64 {f40 : Nat} (hvalue : float40Value f40 < 2 ^ 128)
    (hlow : float40Value f40 % 2 ^ 64 = 0) : float40Value f40 = 0 := by
  by_contra hne
  have hm : float40Mantissa f40 < 2 ^ 35 := Nat.mod_lt _ (by positivity)
  have hm0 : 0 < float40Mantissa f40 := by
    rcases Nat.eq_zero_or_pos (float40Mantissa f40) with h0 | h0
    · exact absurd (by rw [float40Value, h0, Nat.zero_mul]) hne
    · exact h0
  have hsplit : float40Value f40 = float40Mantissa f40 * 2 ^ float40Exponent f40 * 5 ^ float40Exponent f40 := by
    rw [float40Value, show (10 : Nat) = 2 * 5 from rfl, mul_pow, Nat.mul_assoc]
  have hdvd : 2 ^ 64 ∣ float40Mantissa f40 * 2 ^ float40Exponent f40 := by
    have hcoprime : Nat.Coprime (2 ^ 64) (5 ^ float40Exponent f40) := Nat.Coprime.pow _ _ (by decide)
    exact hcoprime.dvd_of_dvd_mul_right (hsplit ▸ Nat.dvd_of_mod_eq_zero hlow)
  have hbig : 2 ^ 64 ≤ float40Mantissa f40 * 2 ^ float40Exponent f40 :=
    Nat.le_of_dvd (Nat.mul_pos hm0 (by positivity)) hdvd
  rcases Nat.lt_or_ge (float40Exponent f40) 30 with he | he
  · have hpow : 2 ^ float40Exponent f40 ≤ 2 ^ 29 := Nat.pow_le_pow_right (by omega) (by omega)
    have hlt' : float40Mantissa f40 * 2 ^ float40Exponent f40 < 2 ^ 35 * 2 ^ 29 :=
      Nat.mul_lt_mul_of_lt_of_le hm hpow (by positivity)
    omega
  · have hfive : 5 ^ 30 ≤ 5 ^ float40Exponent f40 := Nat.pow_le_pow_right (by omega) he
    have : 2 ^ 64 * 5 ^ 30 ≤ float40Value f40 := hsplit ▸ Nat.mul_le_mul hbig hfive
    omega

theorem idx_eq_zero (idx : BitVec 48) : idx = 0 ↔ idx.toNat = 0 := by
  rw [← BitVec.toNat_inj]
  rfl

theorem idx_eq_exit (idx : BitVec 48) : idx = exitIdx ↔ idx.toNat = 1 := by
  rw [← BitVec.toNat_inj]
  rfl

theorem reserved_lt_idx (idx : BitVec 48) : reservedIdx < idx ↔ userThreshold ≤ idx.toNat := by
  rw [BitVec.lt_def]
  exact Nat.succ_le_iff.symm

/-- **The node's case analysis follows the contract's table**, unless the receiver is the exit index
and there is no sender. -/
theorem setType_follows_table {lastIdx : BitVec 48} {args : L1UserTxArgs} (haccepted : AcceptedArgs lastIdx args)
    (hload : float2Fix args.loadAmountF < limitLoadAmount) (hkind : ¬(args.fromIdx = 0 ∧ args.toIdx = exitIdx))
    (tx : L1Tx) (hfrom : tx.fromIdx = args.fromIdx.toNat) (hto : tx.toIdx = args.toIdx.toNat)
    (hdeposit : tx.depositAmount = (float2Fix args.loadAmountF : Int)) :
    ∃ kind, l1UserTxTable args.fromIdx args.toIdx (float2Fix args.loadAmountF) = some kind ∧
      tx.setType = .ok { tx with type := some kind.txType } := by
  have hlow : tx.depositAmount.natAbs % 2 ^ 64 = 0 ↔ float2Fix args.loadAmountF = 0 := by
    rw [hdeposit, Int.natAbs_natCast]
    constructor
    · intro h
      rw [float2Fix_eq] at h hload ⊢
      exact float40Value_low64 hload h
    · intro h
      rw [h, Nat.zero_mod]
  have hexit : args.toIdx.toNat = 1 → float2Fix args.loadAmountF = 0 := by
    intro h
    rw [haccepted.noDepositOnExit ((idx_eq_exit _).mpr h)]
    rfl
  have hto' := haccepted.toIdx
  have hfrom' := haccepted.fromIdx
  rw [idx_eq_zero, idx_eq_exit, reserved_lt_idx] at hto'
  rw [idx_eq_zero, reserved_lt_idx] at hfrom'
  rw [idx_eq_zero, idx_eq_exit] at hkind
  unfold l1UserTxTable L1Tx.setType
  simp only [idx_eq_zero, idx_eq_exit, reserved_lt_idx, hlow]
  rw [hfrom, hto]
  have huser : ∀ {idx : Nat}, userThreshold ≤ idx → ¬idx = 0 ∧ ¬idx = 1 := by
    intro idx h
    unfold userThreshold at h
    omega
  have hexitUser : ¬userThreshold ≤ 1 := by decide
  rcases hfrom' with hfrom0 | ⟨hfromUser, -⟩
  · -- account creation, alone or with a transfer
    rcases hto' with hto0 | hto1 | ⟨htoUser, -⟩
    · by_cases hzero : float2Fix args.loadAmountF = 0
      · exact ⟨.createAccount, by simp [hfrom0, hto0, hzero], by simp [hfrom0, hto0, L1UserTxKind.txType]⟩
      · exact ⟨.createAccountDeposit, by simp [hfrom0, hto0, hzero], by simp [hfrom0, hto0, L1UserTxKind.txType]⟩
    · exact absurd ⟨hfrom0, hto1⟩ hkind
    · exact ⟨.createAccountDepositAndTransfer, by simp [hfrom0, huser htoUser, htoUser],
        by simp [hfrom0, huser htoUser, htoUser, L1UserTxKind.txType]⟩
  · -- deposit, exit or transfer of an existing account
    rcases hto' with hto0 | hto1 | ⟨htoUser, -⟩
    · exact ⟨.deposit, by simp [huser hfromUser, hfromUser, hto0],
        by simp [huser hfromUser, hfromUser, hto0, L1UserTxKind.txType]⟩
    · exact ⟨.exit, by simp [huser hfromUser, hfromUser, hto1, hexit hto1],
        by simp [huser hfromUser, hfromUser, hto1, L1UserTxKind.txType]⟩
    · by_cases hzero : float2Fix args.loadAmountF = 0
      · exact ⟨.transfer, by simp [huser hfromUser, hfromUser, huser htoUser, htoUser, hzero],
          by simp [huser hfromUser, hfromUser, huser htoUser, htoUser, hzero, L1UserTxKind.txType]⟩
      · exact ⟨.depositAndTransfer, by simp [huser hfromUser, hfromUser, huser htoUser, htoUser, hzero],
          by simp [huser hfromUser, hfromUser, huser htoUser, htoUser, hzero, L1UserTxKind.txType]⟩

theorem setType_exit_without_sender {tx : L1Tx} (hfrom : tx.fromIdx = 0) (hto : tx.toIdx = 1) :
    tx.setType = .error (.l1TxInvalidToIdx 1) := by
  rw [L1Tx.setType, if_pos hfrom, if_neg (by omega), if_neg (by unfold userThreshold; omega), hto]

theorem newL1Tx_exit_without_sender [Libraries] (tx : L1Tx) (hfrom : tx.fromIdx = 0) (hto : tx.toIdx = 1) :
    newL1Tx tx = .error (.l1TxInvalidToIdx 1) := by
  rw [newL1Tx, setType_exit_without_sender hfrom hto, except_error_bind]

/-- What it means that the node understands a queued transaction as the contract does. -/
def UnderstoodAsQueued [Libraries] (args : L1UserTxArgs) (l1Tx : Bytes) (toForgeL1TxsNum position : Nat) : Prop :=
  ∃ tx, l1UserTxFromBytes l1Tx = .ok tx ∧
    tx.userOrigin = true ∧ tx.fromEthAddr = args.ethAddress ∧ tx.fromBJJ = args.babyPubKey ∧
    tx.fromIdx = args.fromIdx.toNat ∧ tx.toIdx = args.toIdx.toNat ∧ tx.tokenID = args.tokenID ∧
    tx.depositAmount = (float2Fix args.loadAmountF : Int) ∧ tx.amount = (float2Fix args.amountF : Int) ∧
    ∃ typed kind, newL1Tx { tx with toForgeL1TxsNum := some toForgeL1TxsNum, position := position } = .ok typed ∧
      l1UserTxTable args.fromIdx args.toIdx (float2Fix args.loadAmountF) = some kind ∧
      typed.type = some kind.txType

theorem newL1Tx_of_setType [Libraries] {tx : L1Tx} {toForgeL1TxsNum : Nat} {type : TxType}
    (hqueue : tx.toForgeL1TxsNum = some toForgeL1TxsNum) (huser : tx.userOrigin = true) (htype : tx.type = none)
    (hid : tx.txID = emptyTxID) (hset : tx.setType = .ok { tx with type := some type }) :
    ∃ typed, newL1Tx tx = .ok typed ∧ typed.type = some type := by
  simp [newL1Tx, hset, L1Tx.checkType, htype, L1Tx.setID, huser, hqueue, L1Tx.checkID, hid]

/-- **Every L1 user transaction the contract queues is understood by the node as the same
transaction**, exactly unless it is an exit (receiver index 1) without a sender: that one the contract
admits and the node cannot type. -/
theorem queued_l1UserTx_understood_iff [Libraries] (s s' : Hermez) (args : L1UserTxArgs) (events : List Event)
    (hadded : s.addL1TransactionInternal args = .ok (s', events))
    (hload : float2Fix args.loadAmountF < limitLoadAmount) (toForgeL1TxsNum : Nat) :
    ∃ queueIndex position l1Tx, events = [.l1UserTx queueIndex position l1Tx] ∧
      (UnderstoodAsQueued args l1Tx toForgeL1TxsNum position.toNat ↔ ¬(args.fromIdx = 0 ∧ args.toIdx = exitIdx)) := by
  obtain ⟨haccepted, hqueued⟩ := Hermez.addL1TransactionInternal_ok.mp hadded
  refine ⟨_, _, args.encodePacked, (congrArg Prod.snd hqueued).symm.trans (s.l1QueueAddTx_snd args), ?_⟩
  constructor
  · rintro ⟨tx, -, -, -, -, hfrom, hto, -, -, -, typed, kind, hnew, -, -⟩ ⟨hfrom0, hto1⟩
    -- the node cannot type an exit without a sender
    rw [hfrom0] at hfrom
    rw [hto1] at hto
    cases hnew.symm.trans (newL1Tx_exit_without_sender _ hfrom hto)
  · intro hkind
    obtain ⟨kind, htable, hset⟩ := setType_follows_table haccepted hload hkind
      { args.decoded with
        toForgeL1TxsNum := some toForgeL1TxsNum
        position := ((BitVec.ofNat 8 ((s.mapL1TxQueue s.nextL1FillingQueue).length /
          rollupConstL1UserTotalBytes)).toNat) } rfl rfl rfl
    obtain ⟨typed, hnew, htype⟩ := newL1Tx_of_setType rfl rfl rfl rfl hset
    exact ⟨args.decoded, l1UserTxFromBytes_encodePacked args, rfl, rfl, rfl, rfl, rfl, rfl, rfl, rfl,
      typed, kind, hnew, htable, htype⟩

theorem queued_createAccount_understood :
    ∃ queueIndex position l1Tx,
      ((Hermez.initializeHermez [] 0).l1QueueAddTx createAccountArgs).2 = [.l1UserTx queueIndex position l1Tx] ∧
      (@UnderstoodAsQueued plainLibraries createAccountArgs l1Tx 1 position.toNat ↔
        ¬(createAccountArgs.fromIdx = 0 ∧ createAccountArgs.toIdx = exitIdx)) :=
  @queued_l1UserTx_understood_iff plainLibraries (Hermez.initializeHermez [] 0) _ createAccountArgs _ rfl
    (by decide) 1

/-- An exit without a sender: the contract asks only for a key, since the sender index is 0, and for no
deposit, since the receiver index is 1. -/
def exitWithoutSenderArgs : L1UserTxArgs :=
  { ethAddress := 7, babyPubKey := 1, fromIdx := 0, loadAmountF := 0, amountF := 0, tokenID := 0, toIdx := 1 }

/-- The contract queues an exit without a sender, and the node fails on it with an error. -/
theorem queued_exitWithoutSender_not_understood :
    ((Hermez.initializeHermez [] 0).addL1TransactionInternal exitWithoutSenderArgs).isOk = true ∧
      float2Fix exitWithoutSenderArgs.loadAmountF < limitLoadAmount ∧
      (l1UserTxFromBytes exitWithoutSenderArgs.encodePacked >>= fun tx =>
        @newL1Tx plainLibraries { tx with toForgeL1TxsNum := some 1 }) = .error (.l1TxInvalidToIdx 1) := by
  refine ⟨rfl, by decide, ?_⟩
  rw [l1UserTxFromBytes_encodePacked, except_ok_bind]
  exact @newL1Tx_exit_without_sender plainLibraries _ rfl rfl

/-! ### Encoding again -/

theorem float40Bytes_of_lt {f40 : Nat} (h : f40 < 2 ^ 40) : float40Bytes f40 = .ok (bytesBE 5 f40) := by
  rw [float40Bytes, if_neg (by unfold maxFloat40Value; omega)]

theorem packedKey_eq (pk : PublicKeyComp) :
    (if pk ≠ emptyBJJComp then swapEndianness (PublicKeyComp.bytes pk) else zeros 32) = bytesBE 32 pk.toNat := by
  by_cases hpk : pk = emptyBJJComp
  · rw [if_neg (not_not.mpr hpk), hpk]
    exact (bytesBE_zero 32).symm
  · rw [if_pos hpk, swapEndianness_publicKeyComp_bytes]

theorem bytesGeneric_decoded (args : L1UserTxArgs) {depositF amountF : Nat}
    (hdeposit : newFloat40 (float40Value args.loadAmountF.toNat) = .ok depositF)
    (hamount : newFloat40 (float40Value args.amountF.toNat) = .ok amountF) :
    args.decoded.bytesGeneric = .ok (bytesBE 20 args.ethAddress.toNat ++ bytesBE 32 args.babyPubKey.toNat ++
      bytesBE 6 args.fromIdx.toNat ++ bytesBE 5 depositF ++ bytesBE 5 amountF ++ bytesBE 4 args.tokenID.toNat ++
      bytesBE 6 args.toIdx.toNat) := by
  have hdepositF := float40Bytes_of_lt (newFloat40_eq_ok hdeposit).1
  have hamountF := float40Bytes_of_lt (newFloat40_eq_ok hamount).1
  rw [L1Tx.bytesGeneric]
  simp only [L1UserTxArgs.decoded, float2Fix_eq, idxBytes_of_le (idx_le _), hdeposit, hdepositF, hamount, hamountF,
    packedKey_eq, except_ok_bind, except_pure]
  rfl

theorem encodePacked_inj_amounts {args : L1UserTxArgs} {depositF amountF : Nat}
    (hdeposit : depositF < 2 ^ 40) (hamount : amountF < 2 ^ 40)
    (h : bytesBE 20 args.ethAddress.toNat ++ bytesBE 32 args.babyPubKey.toNat ++ bytesBE 6 args.fromIdx.toNat ++
      bytesBE 5 depositF ++ bytesBE 5 amountF ++ bytesBE 4 args.tokenID.toNat ++ bytesBE 6 args.toIdx.toNat =
        args.encodePacked) : depositF = args.loadAmountF.toNat ∧ amountF = args.amountF.toNat := by
  unfold L1UserTxArgs.encodePacked at h
  simp only [List.append_assoc, List.append_cancel_left_eq] at h
  obtain ⟨hdepositF, hrest⟩ := List.append_inj h (by simp)
  obtain ⟨hamountF, -⟩ := List.append_inj hrest (by simp)
  have hload := args.loadAmountF.isLt
  have hamountLt := args.amountF.isLt
  exact ⟨bytesBE_inj (by omega) (by omega) hdepositF, bytesBE_inj (by omega) (by omega) hamountF⟩

/-- Decoding and encoding the packed bytes gives them back exactly when both floats are canonical. -/
theorem reencodes_iff_canonical (args : L1UserTxArgs) :
    (∃ tx, l1UserTxFromBytes args.encodePacked = .ok tx ∧ tx.bytesGeneric = .ok args.encodePacked) ↔
      Float40Canonical args.loadAmountF.toNat ∧ Float40Canonical args.amountF.toNat := by
  obtain ⟨depositF, hdeposit⟩ := newFloat40_total args.loadAmountF.isLt
  obtain ⟨amountF, hamount⟩ := newFloat40_total args.amountF.isLt
  rw [l1UserTxFromBytes_encodePacked]
  constructor
  · rintro ⟨tx, hdecode, hencode⟩
    cases hdecode
    rw [bytesGeneric_decoded args hdeposit hamount] at hencode
    obtain ⟨hdepositEq, hamountEq⟩ := encodePacked_inj_amounts (newFloat40_eq_ok hdeposit).1
      (newFloat40_eq_ok hamount).1 (Except.ok.inj hencode)
    exact ⟨hdepositEq ▸ (newFloat40_eq_ok hdeposit).2.2, hamountEq ▸ (newFloat40_eq_ok hamount).2.2⟩
  · rintro ⟨hdepositC, hamountC⟩
    exact ⟨args.decoded, rfl, bytesGeneric_decoded args (newFloat40_float40Value args.loadAmountF.isLt hdepositC)
      (newFloat40_float40Value args.amountF.isLt hamountC)⟩

/-- **The node encodes a queued L1 user transaction bit for bit** exactly when both amounts were sent as
canonical floats. -/
theorem queued_l1UserTx_reencoded_iff (w : World) (s s' : Hermez) (msg : Msg) (args : L1UserTxArgs)
    (events : List Event) (hadded : s.addL1Transaction w msg args = .ok (s', events)) :
    ∃ queueIndex position l1Tx, events = [.l1UserTx queueIndex position l1Tx] ∧
      s'.mapL1TxQueue queueIndex = s.mapL1TxQueue queueIndex ++ l1Tx ∧
      ((∃ tx, l1UserTxFromBytes l1Tx = .ok tx ∧ tx.bytesGeneric = .ok l1Tx) ↔
        Float40Canonical args.loadAmountF.toNat ∧ Float40Canonical args.amountF.toNat) := by
  obtain ⟨-, -, -, balanceOf, -, hqueued⟩ := Hermez.addL1Transaction_ok hadded
  have hstate := Hermez.l1QueueAddTx_fst { s with balanceOf := balanceOf } { args with ethAddress := msg.sender }
  have hevents := Hermez.l1QueueAddTx_snd { s with balanceOf := balanceOf } { args with ethAddress := msg.sender }
  rw [hqueued] at hstate hevents
  refine ⟨_, _, _, hevents, ?_, reencodes_iff_canonical { args with ethAddress := msg.sender }⟩
  obtain rfl : s' = _ := hstate
  exact Function.update_self _ _ _

theorem queued_createAccount_reencoded :
    ∃ queueIndex position l1Tx s',
      (Hermez.initializeHermez [] 0).addL1Transaction openWorld { sender := 7, origin := 7 } createAccountArgs =
        .ok (s', [.l1UserTx queueIndex position l1Tx]) ∧
      ((∃ tx, l1UserTxFromBytes l1Tx = .ok tx ∧ tx.bytesGeneric = .ok l1Tx) ↔
        Float40Canonical createAccountArgs.loadAmountF.toNat ∧ Float40Canonical createAccountArgs.amountF.toNat) := by
  obtain ⟨queueIndex, position, l1Tx, hevents, -, hiff⟩ :=
    queued_l1UserTx_reencoded_iff openWorld (Hermez.initializeHermez [] 0) _ { sender := 7, origin := 7 }
      createAccountArgs _ rfl
  exact ⟨queueIndex, position, l1Tx, _, congrArg (fun events => Except.ok (_, events)) hevents, hiff⟩

/-- Ten units of ether deposited as `1 * 10 ^ 1`, an encoding the node's encoder does not pick. -/
def nonCanonicalDepositArgs : L1UserTxArgs :=
  { ethAddress := 7, babyPubKey := 1, fromIdx := 0, loadAmountF := 0x800000001, amountF := 0, tokenID := 0,
    toIdx := 0 }

/-- The contract queues a deposit of ten units sent as `1 * 10 ^ 1`, and the node encodes it as
`10 * 10 ^ 0`. -/
theorem queued_nonCanonicalDeposit_not_reencoded :
    ((Hermez.initializeHermez [] 0).addL1Transaction openWorld { sender := 7, origin := 7, value := 10 }
        nonCanonicalDepositArgs).isOk = true ∧
      (l1UserTxFromBytes nonCanonicalDepositArgs.encodePacked >>= L1Tx.bytesGeneric) =
        .ok { nonCanonicalDepositArgs with loadAmountF := 10 }.encodePacked ∧
      { nonCanonicalDepositArgs with loadAmountF := 10 }.encodePacked ≠ nonCanonicalDepositArgs.encodePacked := by
  refine ⟨rfl, ?_, by decide⟩
  rw [l1UserTxFromBytes_encodePacked, except_ok_bind]
  exact bytesGeneric_decoded _ (by decide) (by decide)

end HermezRollup
