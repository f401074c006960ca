import HermezRollup.Float40Rounding
import HermezRollup.PoolApi

/-! What a signature of an L2 transaction commits to.  `HashToSign` packs the fields of a transaction and the chain
into six integers by copying them into byte arrays of fixed widths.  A packed integer gives its byte array
back, and the array gives the fields back, because every field has a width of its own and nothing is left
out. -/

namespace HermezRollup

open Bytes Fallible

/-! ### Packed byte arrays -/

theorem natOfBytesBE_inj {a b : Bytes} (hlength : a.length = b.length) (h : natOfBytesBE a = natOfBytesBE b) :
    a = b := by
  rw [← bytesBE_natOfBytesBE a, ← bytesBE_natOfBytesBE b, hlength, h]

/-- A field at the end of a packed array can be read back, and so can what stands before it. -/
theorem append_bytesBE_inj {a a' : Bytes} {width value value' : Nat} (hvalue : value < 256 ^ width)
    (hvalue' : value' < 256 ^ width) (h : a ++ bytesBE width value = a' ++ bytesBE width value') :
    a = a' ∧ value = value' := by
  obtain ⟨hfirst, hlast⟩ := List.append_inj' h (by rw [length_bytesBE, length_bytesBE])
  exact ⟨hfirst, bytesBE_inj hvalue hvalue' hlast⟩

theorem unpackSignY_inj {pk pk' : PublicKeyComp}
    (hsign : (PublicKeyComp.unpackSignY pk).1 = (PublicKeyComp.unpackSignY pk').1)
    (hy : (PublicKeyComp.unpackSignY pk).2 = (PublicKeyComp.unpackSignY pk').2) : pk = pk' := by
  have hlt := pk.isLt
  have hlt' := pk'.isLt
  simp only [PublicKeyComp.unpackSignY, decide_eq_decide] at hsign hy
  apply BitVec.eq_of_toNat_eq
  omega

/-- An amount the node encodes without an error. -/
def Float40Amount (amount : Int) : Prop :=
  0 ≤ amount ∧ Float40Representable amount.toNat

theorem Float40Amount.encoded {amount : Int} (h : Float40Amount amount) :
    ∃ f40 < 2 ^ 40, (newFloat40 amount >>= float40Bytes) = .ok (bytesBE 5 f40) ∧ amount = float40Value f40 := by
  obtain ⟨f40, hf40⟩ := (newFloat40_isOk_iff _).mpr h.2
  obtain ⟨hlt, hvalue, -⟩ := newFloat40_eq_ok hf40
  rw [Int.toNat_of_nonneg h.1] at hf40
  refine ⟨f40, hlt, ?_, ?_⟩
  · rw [hf40, except_ok_bind, float40Bytes_of_lt hlt]
  · rw [hvalue, Int.toNat_of_nonneg h.1]

namespace PoolL2Tx

theorem signByte_inj {pk pk' : PublicKeyComp} (h : signByte pk = signByte pk') :
    (PublicKeyComp.unpackSignY pk).1 = (PublicKeyComp.unpackSignY pk').1 := by
  unfold signByte at h
  cases hsign : (PublicKeyComp.unpackSignY pk).1 <;> cases hsign' : (PublicKeyComp.unpackSignY pk').1 <;>
    simp_all

/-! ### The six integers -/

/-- A transaction whose fields fit the widths they are packed into. -/
structure Packable (tx : PoolL2Tx) : Prop where
  fromIdx : tx.fromIdx < 2 ^ 48
  toIdx : tx.toIdx < 2 ^ 48
  nonce : tx.nonce < 2 ^ 40
  amount : Float40Amount tx.amount
  maxNumBatch : tx.maxNumBatch < 2 ^ 32
  rqFromIdx : tx.rqFromIdx < 2 ^ 48
  rqToIdx : tx.rqToIdx < 2 ^ 48
  rqNonce : tx.rqNonce < 2 ^ 40
  rqAmount : Float40Amount (tx.rqAmount.getD 0)

variable {tx tx' : PoolL2Tx} {chainID chainID' : BitVec 16}

theorem txCompressedData_ok (h : tx.Packable) (chainID : BitVec 16) :
    tx.txCompressedData chainID = .ok (natOfBytesBE ([signByte tx.toBJJ, tx.fee] ++ bytesBE 5 tx.nonce ++
      bytesBE 4 tx.tokenID.toNat ++ bytesBE 6 tx.toIdx ++ bytesBE 6 tx.fromIdx ++ bytesBE 2 chainID.toNat ++
      signatureConstantBytes)) := by
  rw [txCompressedData, nonceBytes_of_le (Nat.le_of_lt_succ h.nonce), idxBytes_of_le (Nat.le_of_lt_succ h.toIdx),
    idxBytes_of_le (Nat.le_of_lt_succ h.fromIdx)]
  rfl

theorem txCompressedData_inj (h : tx.Packable) (h' : tx'.Packable)
    (heq : tx.txCompressedData chainID = tx'.txCompressedData chainID') :
    signByte tx.toBJJ = signByte tx'.toBJJ ∧ tx.fee = tx'.fee ∧ tx.nonce = tx'.nonce ∧ tx.tokenID = tx'.tokenID ∧
      tx.toIdx = tx'.toIdx ∧ tx.fromIdx = tx'.fromIdx ∧ chainID = chainID' := by
  rw [txCompressedData_ok h, txCompressedData_ok h', Except.ok.injEq] at heq
  have hbytes := natOfBytesBE_inj (by simp) heq
  have hchainBytes := List.append_cancel_right hbytes
  obtain ⟨hfromBytes, hchain⟩ := append_bytesBE_inj chainID.isLt chainID'.isLt hchainBytes
  obtain ⟨htoBytes, hfrom⟩ := append_bytesBE_inj h.fromIdx h'.fromIdx hfromBytes
  obtain ⟨htokenBytes, hto⟩ := append_bytesBE_inj h.toIdx h'.toIdx htoBytes
  obtain ⟨hnonceBytes, htoken⟩ := append_bytesBE_inj tx.tokenID.isLt tx'.tokenID.isLt htokenBytes
  obtain ⟨hfirst, hnonce⟩ := append_bytesBE_inj h.nonce h'.nonce hnonceBytes
  obtain ⟨hsign, hfee⟩ := List.cons_eq_cons.mp hfirst
  exact ⟨hsign, List.head_eq_of_cons_eq hfee, hnonce, BitVec.eq_of_toNat_eq htoken, hto, hfrom,
    BitVec.eq_of_toNat_eq hchain⟩

theorem compressV2_inj {toBJJ toBJJ' : PublicKeyComp} {fee fee' : FeeSelector} {nonce nonce' : Nat}
    {tokenID tokenID' : TokenID} {amount amount' : Int} {toIdx toIdx' fromIdx fromIdx' : Nat}
    (hnonce : nonce < 2 ^ 40) (hnonce' : nonce' < 2 ^ 40) (hamount : Float40Amount amount)
    (hamount' : Float40Amount amount') (hto : toIdx < 2 ^ 48) (hto' : toIdx' < 2 ^ 48) (hfrom : fromIdx < 2 ^ 48)
    (hfrom' : fromIdx' < 2 ^ 48)
    (heq : compressV2 toBJJ fee nonce tokenID amount toIdx fromIdx =
      compressV2 toBJJ' fee' nonce' tokenID' amount' toIdx' fromIdx') :
    signByte toBJJ = signByte toBJJ' ∧ fee = fee' ∧ nonce = nonce' ∧ tokenID = tokenID' ∧ amount = amount' ∧
      toIdx = toIdx' ∧ fromIdx = fromIdx' := by
  obtain ⟨f40, hf40, hencoded, rfl⟩ := hamount.encoded
  obtain ⟨f40', hf40', hencoded', rfl⟩ := hamount'.encoded
  rw [compressV2, compressV2, hencoded, hencoded', nonceBytes_of_le (Nat.le_of_lt_succ hnonce),
    nonceBytes_of_le (Nat.le_of_lt_succ hnonce'), idxBytes_of_le (Nat.le_of_lt_succ hto),
    idxBytes_of_le (Nat.le_of_lt_succ hto'), idxBytes_of_le (Nat.le_of_lt_succ hfrom),
    idxBytes_of_le (Nat.le_of_lt_succ hfrom')] at heq
  have hbytes := natOfBytesBE_inj (by simp [TokenID.bytes]) (Except.ok.inj heq)
  obtain ⟨htoBytes, hfromEq⟩ := append_bytesBE_inj hfrom hfrom' hbytes
  obtain ⟨hamountBytes, htoEq⟩ := append_bytesBE_inj hto hto' htoBytes
  obtain ⟨htokenBytes, hamountEq⟩ := append_bytesBE_inj hf40 hf40' hamountBytes
  obtain ⟨hnonceBytes, htoken⟩ := append_bytesBE_inj tokenID.isLt tokenID'.isLt htokenBytes
  obtain ⟨hfirst, hnonceEq⟩ := append_bytesBE_inj hnonce hnonce' hnonceBytes
  obtain ⟨hsign, hfee⟩ := List.cons_eq_cons.mp hfirst
  exact ⟨hsign, List.head_eq_of_cons_eq hfee, hnonceEq, BitVec.eq_of_toNat_eq htoken, by rw [hamountEq], htoEq, hfromEq⟩

theorem rqTxCompressedDataV2_inj (h : tx.Packable) (h' : tx'.Packable)
    (heq : tx.rqTxCompressedDataV2 = tx'.rqTxCompressedDataV2) :
    signByte tx.rqToBJJ = signByte tx'.rqToBJJ ∧ tx.rqFee = tx'.rqFee ∧ tx.rqNonce = tx'.rqNonce ∧
      tx.rqTokenID = tx'.rqTokenID ∧ tx.rqAmount.getD 0 = tx'.rqAmount.getD 0 ∧ tx.rqToIdx = tx'.rqToIdx ∧
      tx.rqFromIdx = tx'.rqFromIdx :=
  compressV2_inj h.rqNonce h'.rqNonce h.rqAmount h'.rqAmount h.rqToIdx h'.rqToIdx h.rqFromIdx h'.rqFromIdx heq

theorem rqTxCompressedDataV2_ok (h : tx.Packable) : ∃ data, tx.rqTxCompressedDataV2 = .ok data := by
  obtain ⟨f40, -, hencoded, -⟩ := h.rqAmount.encoded
  rw [rqTxCompressedDataV2, compressV2, hencoded, nonceBytes_of_le (Nat.le_of_lt_succ h.rqNonce),
    idxBytes_of_le (Nat.le_of_lt_succ h.rqToIdx), idxBytes_of_le (Nat.le_of_lt_succ h.rqFromIdx)]
  exact ⟨_, rfl⟩

theorem hashToSignInputs_ok (h : tx.Packable) (chainID : BitVec 16) :
    ∃ toCompressedData f40 rqData, tx.txCompressedData chainID = .ok toCompressedData ∧ f40 < 2 ^ 40 ∧
      tx.amount = float40Value f40 ∧ tx.rqTxCompressedDataV2 = .ok rqData ∧
      tx.hashToSignInputs chainID = .ok [toCompressedData,
        natOfBytesBE (bytesBE 4 tx.maxNumBatch ++ bytesBE 5 f40 ++ bytesBE 20 tx.toEthAddr.toNat),
        (PublicKeyComp.unpackSignY tx.toBJJ).2, rqData, tx.rqToEthAddr.toNat,
        (PublicKeyComp.unpackSignY tx.rqToBJJ).2] := by
  obtain ⟨f40, hf40, hencoded, hamount⟩ := h.amount.encoded
  obtain ⟨rqData, hrqData⟩ := rqTxCompressedDataV2_ok h
  refine ⟨_, f40, rqData, txCompressedData_ok h chainID, hf40, hamount, hrqData, ?_⟩
  rw [hashToSignInputs, txCompressedData_ok h chainID, hencoded, hrqData]
  rfl

/-- Two transactions on two chains that agree in all that a signature is meant to cover. -/
structure SignedAlike (chainID : BitVec 16) (tx : PoolL2Tx) (chainID' : BitVec 16) (tx' : PoolL2Tx) : Prop where
  chainID : chainID = chainID'
  fromIdx : tx.fromIdx = tx'.fromIdx
  toIdx : tx.toIdx = tx'.toIdx
  amount : tx.amount = tx'.amount
  tokenID : tx.tokenID = tx'.tokenID
  nonce : tx.nonce = tx'.nonce
  fee : tx.fee = tx'.fee
  toBJJ : tx.toBJJ = tx'.toBJJ
  toEthAddr : tx.toEthAddr = tx'.toEthAddr
  maxNumBatch : tx.maxNumBatch = tx'.maxNumBatch
  rqFromIdx : tx.rqFromIdx = tx'.rqFromIdx
  rqToIdx : tx.rqToIdx = tx'.rqToIdx
  rqToEthAddr : tx.rqToEthAddr = tx'.rqToEthAddr
  rqToBJJ : tx.rqToBJJ = tx'.rqToBJJ
  rqTokenID : tx.rqTokenID = tx'.rqTokenID
  rqAmount : tx.rqAmount.getD 0 = tx'.rqAmount.getD 0
  rqFee : tx.rqFee = tx'.rqFee
  rqNonce : tx.rqNonce = tx'.rqNonce

/-- **A signature commits to the whole transaction.** -/
theorem signature_commits (chainID chainID' : BitVec 16) (tx tx' : PoolL2Tx) (h : tx.Packable) (h' : tx'.Packable) :
    ∃ inputs inputs', tx.hashToSignInputs chainID = .ok inputs ∧ tx'.hashToSignInputs chainID' = .ok inputs' ∧
      inputs.length = 6 ∧ (inputs = inputs' → SignedAlike chainID tx chainID' tx') := by
  obtain ⟨data, f40, rqData, hdata, hf40, hamount, hrqData, hinputs⟩ := hashToSignInputs_ok h chainID
  obtain ⟨data', f40', rqData', hdata', hf40', hamount', hrqData', hinputs'⟩ := hashToSignInputs_ok h' chainID'
  refine ⟨_, _, hinputs, hinputs', rfl, ?_⟩
  intro heq
  simp only [List.cons.injEq, and_true] at heq
  obtain ⟨hdataEq, he1, hy, hrqEq, hrqEth, hrqY⟩ := heq
  have hfirstEq : tx.txCompressedData chainID = tx'.txCompressedData chainID' := by
    rw [hdata, hdata', hdataEq]
  obtain ⟨hsign, hfee, hnonce, htoken, hto, hfrom, hchain⟩ := txCompressedData_inj h h' hfirstEq
  obtain ⟨hrqSign, hrqFee, hrqNonce, hrqToken, hrqAmount, hrqTo, hrqFrom⟩ :=
    rqTxCompressedDataV2_inj h h' (by rw [hrqData, hrqData', hrqEq])
  obtain ⟨hfirst, heth⟩ := append_bytesBE_inj tx.toEthAddr.isLt tx'.toEthAddr.isLt (natOfBytesBE_inj (by simp) he1)
  obtain ⟨hmaxBytes, hf40Eq⟩ := append_bytesBE_inj hf40 hf40' hfirst
  have hmax : tx.maxNumBatch = tx'.maxNumBatch := bytesBE_inj h.maxNumBatch h'.maxNumBatch hmaxBytes
  exact
    { chainID := hchain, fromIdx := hfrom, toIdx := hto, tokenID := htoken, nonce := hnonce, fee := hfee
      amount := by rw [hamount, hamount', hf40Eq]
      toBJJ := unpackSignY_inj (signByte_inj hsign) hy
      toEthAddr := BitVec.eq_of_toNat_eq heth
      maxNumBatch := hmax
      rqFromIdx := hrqFrom, rqToIdx := hrqTo, rqTokenID := hrqToken, rqAmount := hrqAmount, rqFee := hrqFee
      rqNonce := hrqNonce
      rqToEthAddr := BitVec.eq_of_toNat_eq hrqEth
      rqToBJJ := unpackSignY_inj (signByte_inj hrqSign) hrqY }

def sampleTransfer : PoolL2Tx where
  fromIdx := 256
  toIdx := 257
  amount := 10

theorem sampleTransfer_packable : sampleTransfer.Packable where
  fromIdx := by decide
  toIdx := by decide
  nonce := by decide
  amount := ⟨by decide, 10, 0, by decide, by decide, rfl⟩
  maxNumBatch := by decide
  rqFromIdx := by decide
  rqToIdx := by decide
  rqNonce := by decide
  rqAmount := ⟨by decide, 0, 0, by decide, by decide, rfl⟩

theorem signature_commits_transfer :
    ∃ inputs inputs', sampleTransfer.hashToSignInputs 1 = .ok inputs ∧ sampleTransfer.hashToSignInputs 5 = .ok inputs' ∧
      inputs.length = 6 ∧ (inputs = inputs' → SignedAlike 1 sampleTransfer 5 sampleTransfer) :=
  signature_commits 1 5 sampleTransfer sampleTransfer sampleTransfer_packable sampleTransfer_packable

end PoolL2Tx

end HermezRollup
