import HermezRollup.GlobalHash

/-! Authorizations for the creation of accounts.  A user sends the coordinator an authorization, the node checks its
signature and keeps it, and the coordinator puts it into a batch, where the contract checks it again.  The two checks
differ: the node recovers the signer for every recovery id of the curve, the contract only for the lower half of the
signatures and the two ids Ethereum uses. -/

namespace HermezRollup

open Bytes

/-- `AccountCreationAuth`, an authorization sent by a user. -/
structure AccountCreationAuth where
  ethAddr : Address
  bjj : PublicKeyComp
  signature : Bytes
  deriving DecidableEq, Repr

/-- The order of the group of secp256k1. -/
def secp256k1N : Nat := 0xFFFFFFFFFFFFFFFFFFFFFFFFFFFFFFFEBAAEDCE6AF48A03BBFD25E8CD0364141

/-- The largest `s` of a signature the contract takes. -/
def secp256k1HalfN : Nat := 0x7FFFFFFFFFFFFFFFFFFFFFFFFFFFFFFF5D576E7357A4501DDFE92F46681B20A0

namespace AccountCreationAuth

/-- The 65 bytes the signer is recovered from: the signature cut or filled up with zeros, with 27 taken from its last
byte. -/
def sig (a : AccountCreationAuth) : Bytes :=
  ((a.signature ++ zeros 65).take 65).modify 64 (· - 27)

/-- The byte `v` of the signature. -/
def v (a : AccountCreationAuth) : UInt8 := (slice a.signature 64 65).headD 0

/-- The number `s` of the signature. -/
def s (a : AccountCreationAuth) : Nat := natOfBytesBE (slice a.signature 32 64)

section

variable [Libraries]

/-- `VerifySignature`, which the node requires of an authorization before it stores it. -/
def verifySignature (a : AccountCreationAuth) (chainID : BitVec 16) (hermezContractAddr : Address) : Except Err Unit :=
  let hash := Libraries.accountCreationAuthHash chainID.toNat hermezContractAddr a.bjj
  match Libraries.ecrecover hash a.sig with
  | none => .error .authPublicKey
  | some addr => if addr ≠ a.ethAddr then .error .authAddrMismatch else .ok ()

/-- The key is recovered only from an `s` of the group and an id below 4. -/
def RecoversInRange : Prop :=
  ∀ hash r s id, r.length = 32 → s.length = 32 → (Libraries.ecrecover hash (r ++ s ++ [id])).isSome →
    0 < natOfBytesBE s ∧ natOfBytesBE s < secp256k1N ∧ id.toNat ≤ 3

/-- The 101 bytes of a creation are good for this authorization: the contract checks them and reads the authorized
address and key, and so does a node that synchronizes the batch. -/
structure HonouredBy (a : AccountCreationAuth) (w : World) (b : Bytes) : Prop where
  checked : Hermez.checkSig w (BitVec.ofNat 256 (natOfBytesBE (slice b 65 97))) (slice b 33 65) (slice b 1 33)
    (b.headD 0) = .ok a.ethAddr
  built : ∀ s : Hermez, natOfBytesBE (slice b 97 101) < s.tokenList.length → Hermez.buildL1CoordinatorTx w s b =
    .ok (bytesBE 20 a.ethAddr.toNat ++ bytesBE 32 a.bjj.toNat ++ zeros 16 ++ slice b 97 101 ++ zeros 6)
  decoded : ∃ tx, l1CoordinatorTxFromBytes b w.chainID w.thisAddress = .ok tx ∧ tx.fromEthAddr = a.ethAddr ∧
    tx.fromBJJ = a.bjj

variable {a : AccountCreationAuth} {w : World} {chainID : BitVec 16} {tx : L1Tx} {b : Bytes}

theorem verifySignature_ok {hermezContractAddr : Address} : a.verifySignature chainID hermezContractAddr = .ok () ↔
    Libraries.ecrecover (Libraries.accountCreationAuthHash chainID.toNat hermezContractAddr a.bjj) a.sig =
      some a.ethAddr := by
  rw [verifySignature]
  cases hrecovered : Libraries.ecrecover (Libraries.accountCreationAuthHash chainID.toNat hermezContractAddr a.bjj)
    a.sig with
  | none => simp
  | some addr =>
    by_cases haddr : addr = a.ethAddr
    · simp [haddr]
    · simp [haddr]

theorem checkSig_ok {babyPubKey : BitVec 256} {r s : Bytes} {v : UInt8} {addr : Address} :
    Hermez.checkSig w babyPubKey r s v = .ok addr ↔ natOfBytesBE s ≤ secp256k1HalfN ∧ (v = 27 ∨ v = 28) ∧
      Libraries.ecrecover (Libraries.accountCreationAuthHash w.chainID w.thisAddress babyPubKey) (r ++ s ++ [v - 27]) =
        some addr ∧ addr ≠ 0 := by
  rw [Hermez.checkSig, require_bind_ok, decide_eq_true_eq]
  refine and_congr_right fun _ => ?_
  dsimp only
  by_cases hv : v = 27 ∨ v = 28
  · rw [if_pos hv]
    cases Libraries.ecrecover (Libraries.accountCreationAuthHash w.chainID w.thisAddress babyPubKey)
      (r ++ s ++ [v - 27]) with
    | none => simp
    | some ethAddress =>
      by_cases hzero : ethAddress = 0
      · simp only [hzero, if_true, Option.some.injEq, hv, true_and, reduceCtorEq, false_iff]
        rintro ⟨rfl, hne⟩
        exact hne rfl
      · simp only [hzero, if_false, Except.ok.injEq, Option.some.injEq, hv, true_and]
        constructor
        · rintro rfl
          exact ⟨rfl, hzero⟩
        · exact fun h => h.1
  · rw [if_neg hv]
    simp [hv]

omit [Libraries] in
theorem sig_eq (a : AccountCreationAuth) : ∃ r s : Bytes, r.length = 32 ∧ s.length = 32 ∧
    a.sig = r ++ s ++ [a.v - 27] ∧ (65 ≤ a.signature.length → r = slice a.signature 0 32 ∧
      s = slice a.signature 32 64) := by
  obtain ⟨padded, hpadded⟩ : ∃ padded, padded = (a.signature ++ zeros 65).take 65 := ⟨_, rfl⟩
  have hlength : padded.length = 65 := by simp [hpadded]
  have hslice : 65 ≤ a.signature.length → ∀ start stop, stop ≤ 65 →
      slice padded start stop = slice a.signature start stop := by
    intro h start stop hstop
    rw [hpadded, List.take_append_of_le_length h, slice, slice, List.drop_take, List.take_take,
      Nat.min_eq_left (by omega)]
  have hv : (padded.drop 64).headD 0 = a.v := by
    rcases Nat.lt_or_ge a.signature.length 65 with hshort | hlong
    · -- past the end of a short signature there are only zeros
      have hlast : padded.drop 64 = [0] := by
        rw [hpadded, List.drop_take, List.drop_append, List.drop_eq_nil_of_le (by omega), List.nil_append, zeros,
          List.drop_replicate, List.take_replicate, Nat.min_eq_left (by omega)]
        rfl
      rw [hlast, v, slice, List.drop_eq_nil_of_le (by omega)]
      rfl
    · rw [v, ← hslice hlong 64 65 (le_refl _), slice, List.take_of_length_le (by simp [hlength])]
  refine ⟨slice padded 0 32, slice padded 32 64, length_slice _ _ _ (by omega), length_slice _ _ _ (by omega), ?_, ?_⟩
  · obtain ⟨last, hlast⟩ := List.length_eq_one_iff.mp (show (padded.drop 64).length = 1 by simp [hlength])
    rw [hlast, List.headD_cons] at hv
    rw [sig, ← hpadded, List.modify_eq_take_drop, hlast, List.modifyHead_cons, hv, slice, slice, List.drop_zero,
      ← List.take_add]
  · intro h
    exact ⟨hslice h 0 32 (by omega), hslice h 32 64 (by omega)⟩

/-- A verified signature is not shorter than 65 bytes: a missing recovery byte counts as 0, and 27 less is no id. -/
theorem length_of_verifySignature (hrecover : RecoversInRange)
    (h : a.verifySignature chainID w.thisAddress = .ok ()) : 65 ≤ a.signature.length ∧ a.v ≠ 0 := by
  obtain ⟨r, s, hr, hs, hsig, -⟩ := a.sig_eq
  rw [verifySignature_ok, hsig] at h
  have hid := (hrecover _ r s (a.v - 27) hr hs (by rw [h]; rfl)).2.2
  have hv : a.v ≠ 0 := by
    intro hzero
    rw [hzero] at hid
    exact absurd hid (by decide)
  refine ⟨?_, hv⟩
  by_contra hshort
  exact hv (by rw [v, slice, List.drop_eq_nil_of_le (by omega)]; rfl)

theorem ecrecover_of_verifySignature (hchain : w.chainID = chainID.toNat) (hrecover : RecoversInRange)
    (h : a.verifySignature chainID w.thisAddress = .ok ()) :
    Libraries.ecrecover (Libraries.accountCreationAuthHash w.chainID w.thisAddress a.bjj)
      (slice a.signature 0 32 ++ slice a.signature 32 64 ++ [a.v - 27]) = some a.ethAddr := by
  obtain ⟨r, s, -, -, hsig, hrs⟩ := a.sig_eq
  obtain ⟨rfl, rfl⟩ := hrs (length_of_verifySignature hrecover h).1
  rw [hchain, ← hsig]
  exact verifySignature_ok.mp h

/-- A node that synchronizes the calldata of a verified authorization always reads what was authorized. -/
theorem l1CoordinatorTxFromBytes_of_verifySignature (hchain : w.chainID = chainID.toNat) (hrecover : RecoversInRange)
    (h : a.verifySignature chainID w.thisAddress = .ok ()) (hbjj : tx.fromBJJ = a.bjj)
    (hb : tx.bytesCoordinatorTx a.signature = .ok b) :
    l1CoordinatorTxFromBytes b w.chainID w.thisAddress =
      .ok { userOrigin := false, fromEthAddr := a.ethAddr, fromBJJ := a.bjj, tokenID := tx.tokenID } := by
  have hv₀ : 0 < a.v.toNat := by
    rcases Nat.eq_zero_or_pos a.v.toNat with hzero | hpos
    · exact absurd (UInt8.toNat_inj.mp hzero) (length_of_verifySignature hrecover h).2
    · exact hpos
  have hrecovered := ecrecover_of_verifySignature hchain hrecover h
  obtain ⟨hv, hs, hr, hpk, htoken⟩ := L1Tx.fields_bytesCoordinatorTx hb
  rw [l1CoordinatorTxFromBytes, L1Tx.length_bytesCoordinatorTx hb, if_neg (by decide), hv, hs, hr, hpk, htoken,
    publicKeyCompFromBytes_swap, show tokenIDFromBytes (bytesBE 4 tx.tokenID.toNat) = .ok tx.tokenID from
      tokenIDFromBytes_bytes tx.tokenID, hbjj, Nat.mod_eq_of_lt (by rw [hchain]; exact chainID.isLt)]
  dsimp only [bind, Except.bind]
  rw [if_pos (show 0 < (List.headD (slice a.signature 64 65) 0).toNat from hv₀),
    show (List.headD (slice a.signature 64 65) 0) = a.v from rfl, hrecovered]

/-- The contract accepts the calldata of a verified authorization exactly if its signature is in the lower half, has
one of the recovery ids of Ethereum, and the signer is not the zero address. -/
theorem honouredBy_iff (hchain : w.chainID = chainID.toNat) (hrecover : RecoversInRange)
    (h : a.verifySignature chainID w.thisAddress = .ok ()) (hbjj : tx.fromBJJ = a.bjj)
    (hb : tx.bytesCoordinatorTx a.signature = .ok b) :
    a.HonouredBy w b ↔ a.s ≤ secp256k1HalfN ∧ (a.v = 27 ∨ a.v = 28) ∧ a.ethAddr ≠ 0 := by
  obtain ⟨hv, hs, hr, hpk, htoken⟩ := L1Tx.fields_bytesCoordinatorTx hb
  have hkey : BitVec.ofNat 256 (natOfBytesBE (slice b 65 97)) = a.bjj := by
    rw [hpk, natOfBytesBE_bytesBE_of_lt (show tx.fromBJJ.toNat < 256 ^ 32 by have := tx.fromBJJ.isLt; omega),
      BitVec.ofNat_toNat, BitVec.setWidth_eq, hbjj]
  have hrecovered := ecrecover_of_verifySignature hchain hrecover h
  have hchecked : Hermez.checkSig w a.bjj (slice a.signature 0 32) (slice a.signature 32 64) a.v = .ok a.ethAddr ↔
      a.s ≤ secp256k1HalfN ∧ (a.v = 27 ∨ a.v = 28) ∧ a.ethAddr ≠ 0 := by
    rw [checkSig_ok, hrecovered]
    simp only [true_and]
    rfl
  have hchecked' : Hermez.checkSig w (BitVec.ofNat 256 (natOfBytesBE (slice b 65 97))) (slice b 33 65) (slice b 1 33)
      (b.headD 0) = .ok a.ethAddr ↔ a.s ≤ secp256k1HalfN ∧ (a.v = 27 ∨ a.v = 28) ∧ a.ethAddr ≠ 0 := by
    rw [hkey, hr, hs, hv]
    exact hchecked
  constructor
  · exact fun hhonoured => hchecked'.mp hhonoured.checked
  · intro hlow
    refine ⟨hchecked'.mpr hlow, ?_, _, l1CoordinatorTxFromBytes_of_verifySignature hchain hrecover h hbjj hb, rfl, rfl⟩
    intro s hregistered
    rw [htoken, natOfBytesBE_bytesBE_of_lt (show tx.tokenID.toNat < 256 ^ 4 by have := tx.tokenID.isLt; omega)]
      at hregistered
    refine (buildL1CoordinatorTx_ok hb).mpr ⟨hregistered, a.ethAddr, ?_, by rw [hbjj, htoken]⟩
    rw [creationSigner, show (slice a.signature 64 65).headD 0 = a.v from rfl,
      hbjj, if_pos (length_of_verifySignature hrecover h).2]
    exact hchecked.mpr hlow

omit [Libraries] in
theorem bytesCoordinatorTx_of_length (horigin : tx.userOrigin = false) {auth : Bytes} (hlength : 65 ≤ auth.length) :
    ∃ b, tx.bytesCoordinatorTx auth = .ok b := by
  rw [L1Tx.bytesCoordinatorTx, horigin, if_neg (by decide), sliceE, sliceE, sliceE, if_pos ⟨by omega, hlength⟩,
    if_pos ⟨by omega, by omega⟩, if_pos ⟨by omega, by omega⟩]
  exact ⟨_, rfl⟩

theorem verified_honoured_iff (hchain : w.chainID = chainID.toNat) (hrecover : RecoversInRange)
    (h : a.verifySignature chainID w.thisAddress = .ok ()) (horigin : tx.userOrigin = false)
    (hbjj : tx.fromBJJ = a.bjj) :
    (∃ b, tx.bytesCoordinatorTx a.signature = .ok b ∧ b.length = 101 ∧ a.HonouredBy w b) ↔
      a.s ≤ secp256k1HalfN ∧ (a.v = 27 ∨ a.v = 28) ∧ a.ethAddr ≠ 0 := by
  obtain ⟨b, hb⟩ := bytesCoordinatorTx_of_length horigin (length_of_verifySignature hrecover h).1
  rw [← honouredBy_iff hchain hrecover h hbjj hb]
  constructor
  · rintro ⟨b', hb', -, hhonoured⟩
    rw [hb] at hb'
    cases hb'
    exact hhonoured
  · exact fun hhonoured => ⟨b, hb, L1Tx.length_bytesCoordinatorTx hb, hhonoured⟩

end

/-- Libraries in which every signature in the range of the curve is by the address 7. -/
@[reducible] def sevenSigns : Libraries :=
  { plainLibraries with
    ecrecover := fun _ signature =>
      if 0 < natOfBytesBE (slice signature 32 64) ∧ natOfBytesBE (slice signature 32 64) < secp256k1N ∧
        ((slice signature 64 65).headD 0).toNat ≤ 3 then some 7 else none }

theorem recoversInRange_sevenSigns : @RecoversInRange sevenSigns := by
  intro hash r s id hr hs hsome
  change (if 0 < natOfBytesBE (slice (r ++ s ++ [id]) 32 64) ∧ natOfBytesBE (slice (r ++ s ++ [id]) 32 64) < secp256k1N ∧
    ((slice (r ++ s ++ [id]) 64 65).headD 0).toNat ≤ 3 then some (7 : Address) else none).isSome at hsome
  rw [slice_append_left _ _ _ _ (by simp [hr, hs]), slice_append_end r s (by omega) (by omega),
    slice_append_end (r ++ s) [id] (by simp [hr, hs]) (by simp [hr, hs])] at hsome
  split at hsome
  · assumption
  · cases hsome

/-- The authorization by the address 7 with given `s` and `v`. -/
def authBySeven (s v : Nat) : AccountCreationAuth :=
  { ethAddr := 7, bjj := 1, signature := bytesBE 32 1 ++ bytesBE 32 s ++ bytesBE 1 v }

/-- The creation of the account of `authBySeven`. -/
def creationForSeven : L1Tx := { userOrigin := false, fromEthAddr := 7, fromBJJ := 1 }

theorem low_signature_honoured :
    ∃ b, creationForSeven.bytesCoordinatorTx (authBySeven 1 27).signature = .ok b ∧ b.length = 101 ∧
      @HonouredBy sevenSigns (authBySeven 1 27) openWorld b :=
  (@verified_honoured_iff sevenSigns (authBySeven 1 27) openWorld 1 creationForSeven rfl recoversInRange_sevenSigns
    (by decide +kernel) rfl rfl).mpr (by decide +kernel)

/-- The node verifies a signature of the upper half, and one with the recovery id 2; no calldata with either is
honoured. -/
theorem high_signature_not_honoured :
    @RecoversInRange sevenSigns ∧ ∀ a ∈ [authBySeven (secp256k1HalfN + 1) 27, authBySeven 1 29],
      @verifySignature sevenSigns a 1 openWorld.thisAddress = .ok () ∧
      ¬ ∃ b, creationForSeven.bytesCoordinatorTx a.signature = .ok b ∧ b.length = 101 ∧
        @HonouredBy sevenSigns a openWorld b := by
  have hverified : ∀ a ∈ [authBySeven (secp256k1HalfN + 1) 27, authBySeven 1 29],
      @verifySignature sevenSigns a 1 openWorld.thisAddress = .ok () ∧ creationForSeven.fromBJJ = a.bjj ∧
        ¬ (a.s ≤ secp256k1HalfN ∧ (a.v = 27 ∨ a.v = 28) ∧ a.ethAddr ≠ 0) := by decide +kernel
  refine ⟨recoversInRange_sevenSigns, ?_⟩
  intro a ha
  obtain ⟨h, hbjj, hhigh⟩ := hverified a ha
  refine ⟨h, ?_⟩
  rintro ⟨b, hb, -, hhonoured⟩
  exact hhigh ((@honouredBy_iff sevenSigns a openWorld 1 creationForSeven b rfl recoversInRange_sevenSigns h hbjj
    hb).mp hhonoured)

end AccountCreationAuth

end HermezRollup
