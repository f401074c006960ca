import HermezRollup.BatchData
import HermezRollup.QueuedL1Tx
import HermezRollup.ZKBatch

/-! The bytes behind the public input of the circuit.  The node lays them out from its circuit inputs
(`ToHashGlobalData`), the contract from its state and the calldata (`_constructCircuitInput`).  The two byte
strings agree field by field, except that the node writes the old state root from the left: a root whose first
byte is zero is shifted. -/

namespace HermezRollup

open Bytes Fallible Simulation

/-! ### Fields of a fixed width -/

/-- The number of bytes of a number without leading zeros. -/
def byteLen (n : Nat) : Nat :=
  if n = 0 then 0 else n.log2 / 8 + 1

/-- `Bytes` of a `big.Int`. -/
def bigIntBytes (n : Nat) : Bytes :=
  bytesBE (byteLen n) n

/-- `copy(dst[len(dst)-len(src):], src)` into zeros; a source that is too long panics. -/
def rightAligned (width : Nat) (src : Bytes) : Except Err Bytes :=
  if src.length ≤ width then .ok (zeros (width - src.length) ++ src) else .error .panic

/-- `copy(dst, src)` into zeros. -/
def leftAligned (width : Nat) (src : Bytes) : Bytes :=
  copySlice (zeros width) src

theorem byteLen_le {n k : Nat} : byteLen n ≤ k ↔ n < 256 ^ k := by
  rw [byteLen, show (256 : Nat) = 2 ^ 8 from rfl, ← pow_mul]
  split
  next hzero => simp [hzero]
  next hne =>
    rw [← Nat.log2_lt hne]
    omega

theorem eq_bytesBE {b : Bytes} {width value : Nat} (hlength : b.length = width) (hvalue : natOfBytesBE b = value) :
    b = bytesBE width value := by
  rw [← hlength, ← hvalue, bytesBE_natOfBytesBE]

theorem rightAligned_bigIntBytes (width n : Nat) :
    rightAligned width (bigIntBytes n) = if n < 256 ^ width then .ok (bytesBE width n) else .error .panic := by
  rw [rightAligned, bigIntBytes, length_bytesBE]
  simp only [byteLen_le]
  split
  next hlt =>
    have hle := byteLen_le.mpr hlt
    refine congrArg Except.ok (eq_bytesBE ?_ ?_)
    · rw [List.length_append, length_zeros, length_bytesBE]
      omega
    · rw [natOfBytesBE_append, natOfBytesBE_zeros, Nat.zero_mul, Nat.zero_add,
        natOfBytesBE_bytesBE_of_lt (byteLen_le.mp (Nat.le_refl _))]
  next => rfl

theorem length_rightAligned {width : Nat} {src dst : Bytes} (h : rightAligned width src = .ok dst) : dst.length = width := by
  rw [rightAligned] at h
  split at h
  next hle =>
    cases h
    rw [List.length_append, length_zeros]
    omega
  next => cases h

theorem leftAligned_of_length {width : Nat} {src : Bytes} (h : src.length = width) : leftAligned width src = src := by
  rw [leftAligned, copySlice, length_zeros, ← h, List.take_length, List.drop_of_length_le (by rw [length_zeros]),
    List.append_nil]

/-- A number written from the left is in its place only if it fills the field. -/
theorem leftAligned_bigIntBytes_iff {width n : Nat} (h : n < 256 ^ (width + 1)) :
    leftAligned (width + 1) (bigIntBytes n) = bytesBE (width + 1) n ↔ n = 0 ∨ 256 ^ width ≤ n := by
  have hle := byteLen_le.mpr h
  have hself : n < 256 ^ byteLen n := byteLen_le.mp (Nat.le_refl _)
  have hvalue : natOfBytesBE (leftAligned (width + 1) (bigIntBytes n)) = n * 256 ^ (width + 1 - byteLen n) := by
    rw [leftAligned, copySlice, length_zeros, bigIntBytes, length_bytesBE, List.take_of_length_le (by simpa using hle),
      zeros, List.drop_replicate, ← zeros, natOfBytesBE_append, natOfBytesBE_zeros, Nat.add_zero, length_zeros,
      natOfBytesBE_bytesBE_of_lt hself]
  have hlength : (leftAligned (width + 1) (bigIntBytes n)).length = width + 1 := by
    rw [leftAligned, length_copySlice, length_zeros]
  constructor
  · intro heq
    rw [heq, natOfBytesBE_bytesBE_of_lt h] at hvalue
    rcases Nat.eq_zero_or_pos n with hzero | hpos
    · exact Or.inl hzero
    · refine Or.inr (Nat.le_of_not_lt fun hlt => ?_)
      have hshort := byteLen_le.mpr hlt
      have hone : 256 ^ (width + 1 - byteLen n) = 1 := Nat.eq_of_mul_eq_mul_left hpos (by omega)
      have : 256 ^ 1 ≤ 256 ^ (width + 1 - byteLen n) := Nat.pow_le_pow_right (by omega) (by omega)
      omega
  · rintro (rfl | hge)
    · exact eq_bytesBE hlength (by rw [hvalue, Nat.zero_mul])
    · have hfull : byteLen n = width + 1 := by
        refine Nat.le_antisymm hle (Nat.succ_le_of_lt (Nat.lt_of_not_le fun hshort => ?_))
        exact absurd (byteLen_le.mp hshort) (by omega)
      exact eq_bytesBE hlength (by rw [hvalue, hfull, Nat.sub_self, pow_zero, Nat.mul_one])

theorem length_flatten_of_forall {bs : List Bytes} {k : Nat} (h : ∀ b ∈ bs, b.length = k) :
    bs.flatten.length = bs.length * k := by
  induction bs with
  | nil => simp
  | cons b bs ih =>
    obtain ⟨hb, hbs⟩ := List.forall_mem_cons.mp h
    rw [List.flatten_cons, List.length_append, hb, ih hbs, List.length_cons]
    ring

theorem forall_length_of_mapM {α : Type} {f : α → Except Err Bytes} {k : Nat} (hf : ∀ {x b}, f x = .ok b → b.length = k)
    {xs : List α} {bs : List Bytes} (h : xs.mapM f = .ok bs) : ∀ b ∈ bs, b.length = k := by
  intro b hb
  obtain ⟨x, -, hx⟩ := forall₂_of_mem_right (mapM_ok.mp h) hb
  exact hf hx

theorem length_flatten_of_mapM {α : Type} {f : α → Except Err Bytes} {k : Nat} (hf : ∀ {x b}, f x = .ok b → b.length = k)
    {xs : List α} {bs : List Bytes} (h : xs.mapM f = .ok bs) : bs.flatten.length = xs.length * k := by
  rw [length_flatten_of_forall (forall_length_of_mapM hf h), (mapM_ok.mp h).length_eq]

theorem flatten_map_inj {α : Type} {f g : α → Bytes} {xs : List α} (h : ∀ x ∈ xs, (f x).length = (g x).length) :
    (xs.map f).flatten = (xs.map g).flatten ↔ ∀ x ∈ xs, f x = g x := by
  induction xs with
  | nil => simp
  | cons x xs ih =>
    obtain ⟨hx, hxs⟩ := List.forall_mem_cons.mp h
    rw [List.map_cons, List.map_cons, List.flatten_cons, List.flatten_cons, List.forall_mem_cons, ← ih hxs]
    constructor
    · intro heq
      exact List.append_inj heq hx
    · rintro ⟨hfirst, hrest⟩
      rw [hfirst, hrest]

/-- The fields behind the public input of the circuit, in their order. -/
structure GlobalData where
  oldLastIdx : Bytes
  newLastIdx : Bytes
  oldStateRoot : Bytes
  newStateRoot : Bytes
  newExitRoot : Bytes
  l1TxsData : Bytes
  txsData : Bytes
  padding : Bytes
  feeIdxs : Bytes
  chainID : Bytes
  batchNum : Bytes

namespace GlobalData

def bytes (d : GlobalData) : Bytes :=
  d.oldLastIdx ++ d.newLastIdx ++ d.oldStateRoot ++ d.newStateRoot ++ d.newExitRoot ++ d.l1TxsData ++ d.txsData ++ d.padding ++
    d.feeIdxs ++ d.chainID ++ d.batchNum

/-- Two layouts have the same widths, apart from the padding. -/
structure SameWidths (d d' : GlobalData) : Prop where
  oldLastIdx : d.oldLastIdx.length = d'.oldLastIdx.length
  newLastIdx : d.newLastIdx.length = d'.newLastIdx.length
  oldStateRoot : d.oldStateRoot.length = d'.oldStateRoot.length
  newStateRoot : d.newStateRoot.length = d'.newStateRoot.length
  newExitRoot : d.newExitRoot.length = d'.newExitRoot.length
  l1TxsData : d.l1TxsData.length = d'.l1TxsData.length
  txsData : d.txsData.length = d'.txsData.length
  feeIdxs : d.feeIdxs.length = d'.feeIdxs.length
  chainID : d.chainID.length = d'.chainID.length
  batchNum : d.batchNum.length = d'.batchNum.length

theorem bytes_inj {d d' : GlobalData} (h : SameWidths d d') : d.bytes = d'.bytes ↔ d = d' := by
  constructor
  · intro heq
    rw [bytes, bytes] at heq
    -- the fields behind the padding from the right, those before it from the left
    obtain ⟨heq, hbatchNum⟩ := List.append_inj' heq h.batchNum
    obtain ⟨heq, hchainID⟩ := List.append_inj' heq h.chainID
    obtain ⟨heq, hfeeIdxs⟩ := List.append_inj' heq h.feeIdxs
    obtain ⟨heq, hpadding⟩ := List.append_inj heq (by
      simp only [List.length_append, h.oldLastIdx, h.newLastIdx, h.oldStateRoot, h.newStateRoot, h.newExitRoot, h.l1TxsData,
        h.txsData])
    obtain ⟨heq, htxsData⟩ := List.append_inj' heq h.txsData
    obtain ⟨heq, hl1TxsData⟩ := List.append_inj' heq h.l1TxsData
    obtain ⟨heq, hnewExitRoot⟩ := List.append_inj' heq h.newExitRoot
    obtain ⟨heq, hnewStateRoot⟩ := List.append_inj' heq h.newStateRoot
    obtain ⟨heq, holdStateRoot⟩ := List.append_inj' heq h.oldStateRoot
    obtain ⟨holdLastIdx, hnewLastIdx⟩ := List.append_inj' heq h.newLastIdx
    rw [mk.injEq d.oldLastIdx]
    exact ⟨holdLastIdx, hnewLastIdx, holdStateRoot, hnewStateRoot, hnewExitRoot, hl1TxsData, htxsData, hpadding, hfeeIdxs,
      hchainID, hbatchNum⟩
  · rintro rfl
    rfl

end GlobalData

/-! ### The encodings of transactions -/

theorem length_idxTail {idx idxLen : Nat} {b : Bytes} (h : (idxBytes idx >>= idxTail idxLen) = .ok b) :
    b.length = idxLen := by
  obtain ⟨_, hidx, htail⟩ := except_bind_ok.mp h
  obtain ⟨-, rfl⟩ := idxBytes_eq_ok hidx
  rw [idxTail] at htail
  split at htail
  next hle =>
    cases htail
    rw [List.length_drop, length_bytesBE]
    omega
  next => cases htail

theorem float40Bytes_ok {f40 : Nat} {b : Bytes} (h : float40Bytes f40 = .ok b) : f40 < 2 ^ 40 ∧ b = bytesBE 5 f40 := by
  rw [float40Bytes] at h
  split at h
  · cases h
  next hle =>
    cases h
    exact ⟨by rw [maxFloat40Value] at hle; omega, rfl⟩

namespace L1Tx

theorem bytesGeneric_ok {tx : L1Tx} {b : Bytes} (h : tx.bytesGeneric = .ok b) :
    ∃ depositF amountF, newFloat40 tx.depositAmount = .ok depositF ∧ newFloat40 tx.amount = .ok amountF ∧
      (depositF < 2 ^ 40 ∧ amountF < 2 ^ 40) ∧ (tx.fromIdx ≤ maxIdxValue ∧ tx.toIdx ≤ maxIdxValue) ∧
      b = bytesBE 20 tx.fromEthAddr.toNat ++ bytesBE 32 tx.fromBJJ.toNat ++ bytesBE 6 tx.fromIdx ++ bytesBE 5 depositF ++
        bytesBE 5 amountF ++ bytesBE 4 tx.tokenID.toNat ++ bytesBE 6 tx.toIdx := by
  obtain ⟨_, hfrom, h⟩ := except_bind_ok.mp h
  obtain ⟨depositF, hdeposit, h⟩ := except_bind_ok.mp h
  obtain ⟨_, hdepositBytes, h⟩ := except_bind_ok.mp h
  obtain ⟨amountF, hamount, h⟩ := except_bind_ok.mp h
  obtain ⟨_, hamountBytes, h⟩ := except_bind_ok.mp h
  obtain ⟨_, hto, h⟩ := except_bind_ok.mp h
  obtain ⟨hfromLe, rfl⟩ := idxBytes_eq_ok hfrom
  obtain ⟨hdepositLt, rfl⟩ := float40Bytes_ok hdepositBytes
  obtain ⟨hamountLt, rfl⟩ := float40Bytes_ok hamountBytes
  obtain ⟨htoLe, rfl⟩ := idxBytes_eq_ok hto
  cases h
  refine ⟨depositF, amountF, hdeposit, hamount, ⟨hdepositLt, hamountLt⟩, ⟨hfromLe, htoLe⟩, ?_⟩
  rw [packedKey_eq]
  rfl

theorem length_bytesGeneric {tx : L1Tx} {b : Bytes} (h : tx.bytesGeneric = .ok b) : b.length = 78 := by
  obtain ⟨depositF, amountF, -, -, -, -, rfl⟩ := bytesGeneric_ok h
  simp

theorem length_bytesDataAvailability {tx : L1Tx} {nLevels : Nat} {b : Bytes}
    (h : tx.bytesDataAvailability nLevels = .ok b) : b.length = (2 * nLevels + 48) / 8 := by
  obtain ⟨fromIdx, hfrom, h⟩ := except_bind_ok.mp h
  obtain ⟨toIdx, hto, h⟩ := except_bind_ok.mp h
  obtain ⟨amount, hlength, rfl⟩ : ∃ amount : Bytes, amount.length = 5 ∧
      fromIdx ++ toIdx ++ amount ++ zeros ((nLevels * 2 + 40 + 8) / 8 - 2 * (nLevels / 8) - 5) = b := by
    cases heffective : tx.effectiveAmount with
    | none =>
      simp only [heffective] at h
      obtain ⟨amount, hamount, h⟩ := except_bind_ok.mp h
      cases hamount
      exact ⟨_, length_zeros 5, Except.ok.inj h⟩
    | some effectiveAmount =>
      simp only [heffective] at h
      obtain ⟨amount, hamount, h⟩ := except_bind_ok.mp h
      obtain ⟨f40, -, hbytes⟩ := except_bind_ok.mp hamount
      obtain ⟨-, rfl⟩ := float40Bytes_ok hbytes
      exact ⟨_, length_bytesBE 5 f40, Except.ok.inj h⟩
  simp only [List.length_append, length_zeros, length_idxTail hfrom, length_idxTail hto, hlength]
  omega

end L1Tx

theorem L2Tx.length_bytesDataAvailability {tx : L2Tx} {nLevels : Nat} {b : Bytes}
    (h : tx.bytesDataAvailability nLevels = .ok b) : b.length = (2 * nLevels + 48) / 8 := by
  obtain ⟨fromIdx, hfrom, h⟩ := except_bind_ok.mp h
  obtain ⟨toIdx, hto, h⟩ := except_bind_ok.mp h
  obtain ⟨amount, hamount, h⟩ := except_bind_ok.mp h
  obtain ⟨f40, -, hbytes⟩ := except_bind_ok.mp hamount
  obtain ⟨-, rfl⟩ := float40Bytes_ok hbytes
  cases h
  simp only [List.length_append, length_zeros, length_idxTail hfrom, length_idxTail hto, length_bytesBE,
    List.length_singleton]
  omega

/-! ### The bytes of the node -/

namespace ZKInputs

/-- The data of the L1 transactions, one field of 78 bytes for each one the circuit has room for. -/
def l1TxsDataBytes (maxL1Tx : Nat) (l1TxsData : List Bytes) : Except Err Bytes :=
  let l1TxDataLen := 2 * 48 + 528
  let dataLen := l1TxDataLen / 8
  let size := maxL1Tx * l1TxDataLen % 2 ^ 32 / 8
  if l1TxsData.length * dataLen ≤ size then
    .ok ((l1TxsData.map (leftAligned dataLen)).flatten ++ zeros (size - l1TxsData.length * dataLen))
  else .error .panic

def l2TxsPadding (maxTx nL1Tx nL2Tx l2TxDataLen : Nat) : Except Err Bytes :=
  let length := (((maxTx : Int) - nL1Tx - nL2Tx) * l2TxDataLen).tdiv 8
  if 0 ≤ length then .ok (zeros length.toNat) else .error .panic

/-- `ToHashGlobalData`; `hashBytes` stands for `Bytes` of a hash of the Merkle tree library. -/
def toHashGlobalData (z : ZKInputs) (hashBytes : Nat → Bytes) : Except Err Bytes := do
  let bytesNLevels := z.metadata.nLevels / 8
  let oldLastIdx ← rightAligned 6 (bigIntBytes z.oldLastIdx)
  let newLastIdx ← idxBytes z.metadata.newLastIdxRaw
  let oldStateRoot := leftAligned 32 (bigIntBytes z.oldStateRoot)
  let newStateRoot := leftAligned 32 (hashBytes z.metadata.newStateRootRaw)
  let newExitRoot := leftAligned 32 (hashBytes z.metadata.newExitRootRaw)
  let l1TxsData ← l1TxsDataBytes z.metadata.maxL1Tx z.metadata.l1TxsData
  let l1TxsDataAvailability := z.metadata.l1TxsDataAvailability.flatten
  let l2TxDataLen := (2 * z.metadata.nLevels + 48) % 2 ^ 32
  let expectedL2TxsDataLen := z.metadata.maxTx * l2TxDataLen % 2 ^ 32 / 8
  let l2TxsData := z.metadata.l2TxsData.flatten
  if expectedL2TxsDataLen < l2TxsData.length then .error (.l2TxsDataLength l2TxsData.length expectedL2TxsDataLen)
  else do
    let padding ← l2TxsPadding z.metadata.maxTx z.metadata.l1TxsDataAvailability.length z.metadata.l2TxsData.length
      l2TxDataLen
    let feeTxsData ← z.feeIdxs.mapM fun feeIdx => rightAligned bytesNLevels (bigIntBytes feeIdx)
    let currNumBatch ← rightAligned 4 (bigIntBytes z.currentNumBatch)
    return oldLastIdx ++ newLastIdx ++ oldStateRoot ++ newStateRoot ++ newExitRoot ++ l1TxsData ++
      l1TxsDataAvailability ++ l2TxsData ++ padding ++ feeTxsData.flatten ++ bytesBE 2 z.metadata.chainID.toNat ++
      currNumBatch

def globalData (z : ZKInputs) (hashBytes : Nat → Bytes) (feeIdxs : List Bytes) : GlobalData where
  oldLastIdx := bytesBE 6 z.oldLastIdx
  newLastIdx := bytesBE 6 z.metadata.newLastIdxRaw
  oldStateRoot := leftAligned 32 (bigIntBytes z.oldStateRoot)
  newStateRoot := leftAligned 32 (hashBytes z.metadata.newStateRootRaw)
  newExitRoot := leftAligned 32 (hashBytes z.metadata.newExitRootRaw)
  l1TxsData := z.metadata.l1TxsData.flatten ++ zeros ((256 - z.metadata.l1TxsData.length) * 78)
  txsData := z.metadata.l1TxsDataAvailability.flatten ++ z.metadata.l2TxsData.flatten
  padding := zeros ((z.metadata.maxTx - z.metadata.l1TxsDataAvailability.length - z.metadata.l2TxsData.length) *
    (2 * z.metadata.nLevels + 48) / 8)
  feeIdxs := feeIdxs.flatten
  chainID := bytesBE 2 z.metadata.chainID.toNat
  batchNum := bytesBE 4 z.currentNumBatch

theorem l1TxsDataBytes_eq {l1TxsData : List Bytes} (hlength : l1TxsData.length ≤ 256)
    (hdata : ∀ b ∈ l1TxsData, b.length = 78) :
    l1TxsDataBytes 256 l1TxsData = .ok (l1TxsData.flatten ++ zeros ((256 - l1TxsData.length) * 78)) := by
  have hfields : l1TxsData.map (leftAligned 78) = l1TxsData := by
    conv_rhs => rw [← List.map_id l1TxsData]
    exact List.map_congr_left fun b hb => leftAligned_of_length (hdata b hb)
  rw [l1TxsDataBytes]
  norm_num only
  rw [if_pos (by omega), hfields]
  congr 3
  omega

theorem l2TxsPadding_eq {maxTx nL1Tx nL2Tx : Nat} (h : nL1Tx + nL2Tx ≤ maxTx) (l2TxDataLen : Nat) :
    l2TxsPadding maxTx nL1Tx nL2Tx l2TxDataLen = .ok (zeros ((maxTx - nL1Tx - nL2Tx) * l2TxDataLen / 8)) := by
  have hcast : (((maxTx : Int) - nL1Tx - nL2Tx) * l2TxDataLen).tdiv 8 =
      ((maxTx - nL1Tx - nL2Tx) * l2TxDataLen / 8 : Nat) := by
    rw [show (maxTx : Int) - nL1Tx - nL2Tx = ((maxTx - nL1Tx - nL2Tx : Nat) : Int) by omega]
    norm_cast
  rw [l2TxsPadding, hcast, if_pos (Int.natCast_nonneg _), Int.toNat_natCast]

theorem toHashGlobalData_ok {z : ZKInputs} {hashBytes : Nat → Bytes} (hlevels : z.metadata.nLevels < 2 ^ 31 - 24)
    (hmaxL1Tx : z.metadata.maxL1Tx = 256) (hlength : z.metadata.l1TxsData.length ≤ 256)
    (hdata : ∀ b ∈ z.metadata.l1TxsData, b.length = 78)
    (hmaxTx : z.metadata.l1TxsDataAvailability.length + z.metadata.l2TxsData.length ≤ z.metadata.maxTx)
    (hold : z.oldLastIdx < 2 ^ 48) (hnew : z.metadata.newLastIdxRaw ≤ maxIdxValue) (hbatch : z.currentNumBatch < 2 ^ 32)
    {b : Bytes} :
    z.toHashGlobalData hashBytes = .ok b ↔
      z.metadata.l2TxsData.flatten.length ≤ z.metadata.maxTx * (2 * z.metadata.nLevels + 48) % 2 ^ 32 / 8 ∧
      ∃ feeIdxs, z.feeIdxs.mapM (fun idx => rightAligned (z.metadata.nLevels / 8) (bigIntBytes idx)) = .ok feeIdxs ∧
        b = (z.globalData hashBytes feeIdxs).bytes := by
  have holdBytes : rightAligned 6 (bigIntBytes z.oldLastIdx) = .ok (bytesBE 6 z.oldLastIdx) := by
    rw [rightAligned_bigIntBytes, if_pos (by omega)]
  have hbatchBytes : rightAligned 4 (bigIntBytes z.currentNumBatch) = .ok (bytesBE 4 z.currentNumBatch) := by
    rw [rightAligned_bigIntBytes, if_pos (by omega)]
  rw [toHashGlobalData, holdBytes, except_ok_bind, idxBytes_of_le hnew, except_ok_bind, hmaxL1Tx,
    l1TxsDataBytes_eq hlength hdata, except_ok_bind]
  dsimp only
  rw [l2TxsPadding_eq hmaxTx, hbatchBytes, Nat.mod_eq_of_lt (show 2 * z.metadata.nLevels + 48 < 2 ^ 32 by omega)]
  simp only [except_ok_bind]
  split
  next hlt => exact iff_of_false (fun h => by cases h) fun h => Nat.not_le.mpr hlt h.1
  next hge =>
    rw [except_bind_ok]
    simp only [Nat.not_lt.mp hge, true_and]
    refine exists_congr fun feeIdxs => and_congr_right fun _ => ?_
    rw [globalData, GlobalData.bytes]
    simp only [List.append_assoc]
    exact ⟨fun h => (Except.ok.inj h).symm, fun h => congrArg Except.ok h.symm⟩

end ZKInputs

/-! ### Account creations -/

section Creations

variable [Libraries]

/-- The address for which the contract creates an account: the one that signed the authorization, if there is one. -/
def creationSigner (w : World) (tx : L1Tx) (auth : Bytes) : Except String Address :=
  let v := (slice auth 64 65).headD 0
  if v ≠ 0 then Hermez.checkSig w tx.fromBJJ (slice auth 0 32) (slice auth 32 64) v
  else .ok rollupConstEthAddressInternalOnly

/-- A transaction of the coordinator that the contract reads from the calldata as it is: the creation of an account
without amounts, authorized by the address it names. -/
structure AuthorizedCreation (w : World) (s : Hermez) (tx : L1Tx) (auth : Bytes) : Prop where
  fromIdx : tx.fromIdx = 0
  toIdx : tx.toIdx = 0
  depositAmount : newFloat40 tx.depositAmount = .ok 0
  amount : newFloat40 tx.amount = .ok 0
  tokenID : tx.tokenID.toNat < s.tokenList.length
  fromEthAddr : creationSigner w tx auth = .ok tx.fromEthAddr

variable {w : World} {s : Hermez} {tx : L1Tx} {auth b : Bytes}

omit [Libraries] in
theorem L1Tx.bytesCoordinatorTx_ok (h : tx.bytesCoordinatorTx auth = .ok b) :
    65 ≤ auth.length ∧ b = slice auth 64 65 ++ slice auth 32 64 ++ slice auth 0 32 ++ bytesBE 32 tx.fromBJJ.toNat ++
      bytesBE 4 tx.tokenID.toNat := by
  rw [bytesCoordinatorTx] at h
  split at h
  · cases h
  obtain ⟨_, hv, h⟩ := except_bind_ok.mp h
  obtain ⟨_, hs, h⟩ := except_bind_ok.mp h
  obtain ⟨_, hr, h⟩ := except_bind_ok.mp h
  rw [sliceE] at hv hs hr
  split_ifs at hv hs hr with hlength
  cases hv
  cases hs
  cases hr
  cases h
  exact ⟨hlength.2, by rw [swapEndianness_publicKeyComp_bytes]; rfl⟩

omit [Libraries] in
theorem L1Tx.length_bytesCoordinatorTx (h : tx.bytesCoordinatorTx auth = .ok b) : b.length = 101 := by
  obtain ⟨hlength, rfl⟩ := bytesCoordinatorTx_ok h
  simp only [List.length_append, length_slice auth 64 65 (by omega), length_slice auth 32 64 (by omega),
    length_slice auth 0 32 (by omega), length_bytesBE]

omit [Libraries] in
theorem L1Tx.fields_bytesCoordinatorTx (h : tx.bytesCoordinatorTx auth = .ok b) :
    b.headD 0 = (slice auth 64 65).headD 0 ∧ slice b 1 33 = slice auth 32 64 ∧ slice b 33 65 = slice auth 0 32 ∧
      slice b 65 97 = bytesBE 32 tx.fromBJJ.toNat ∧ slice b 97 101 = bytesBE 4 tx.tokenID.toNat := by
  obtain ⟨hlength, rfl⟩ := bytesCoordinatorTx_ok h
  have hv := length_slice auth 64 65 (by omega)
  have hs := length_slice auth 32 64 (by omega)
  have hr := length_slice auth 0 32 (by omega)
  obtain ⟨v, hv₁⟩ := List.length_eq_one_iff.mp hv
  rw [hv₁]
  simp (disch := simp [hs, hr]) only [slice_append_left, slice_append_end, and_true]
  rfl

theorem buildL1CoordinatorTx_ok (h : tx.bytesCoordinatorTx auth = .ok b) {g : Bytes} :
    Hermez.buildL1CoordinatorTx w s b = .ok g ↔ tx.tokenID.toNat < s.tokenList.length ∧ ∃ ethAddress,
      creationSigner w tx auth = .ok ethAddress ∧ g = bytesBE 20 ethAddress.toNat ++ bytesBE 32 tx.fromBJJ.toNat ++
        zeros 16 ++ bytesBE 4 tx.tokenID.toNat ++ zeros 6 := by
  obtain ⟨hv, hs, hr, hbjj, htoken⟩ := L1Tx.fields_bytesCoordinatorTx h
  rw [Hermez.buildL1CoordinatorTx, creationSigner, hv, hs, hr, hbjj, htoken,
    natOfBytesBE_bytesBE_of_lt (show tx.fromBJJ.toNat < 256 ^ 32 by have := tx.fromBJJ.isLt; omega),
    natOfBytesBE_bytesBE_of_lt (show tx.tokenID.toNat < 256 ^ 4 by have := tx.tokenID.isLt; omega)]
  generalize (slice auth 64 65).headD 0 = v
  have hexcept : ∀ {x : Except String Address} {f : Address → Bytes},
      ((do let ethAddress ← x; pure (f ethAddress)) = .ok g ↔ ∃ ethAddress, x = .ok ethAddress ∧ g = f ethAddress) := by
    intro x f
    rw [except_bind_ok]
    constructor
    · rintro ⟨ethAddress, hx, hret⟩
      exact ⟨ethAddress, hx, (Except.ok.inj hret).symm⟩
    · rintro ⟨ethAddress, hx, rfl⟩
      exact ⟨ethAddress, hx, rfl⟩
  rw [require_bind_ok, decide_eq_true_eq, BitVec.ofNat_toNat, BitVec.setWidth_eq]
  refine and_congr_right fun _ => ?_
  by_cases hv₀ : v = 0
  · simp only [hv₀, ne_eq, not_true_eq_false, if_false]
    exact hexcept
  · simp only [hv₀, ne_eq, not_false_eq_true, if_true]
    exact hexcept

/-- The contract hashes a transaction of the coordinator as the node does if it reads it as it is. -/
theorem buildL1CoordinatorTx_iff (h : tx.bytesCoordinatorTx auth = .ok b) {g : Bytes} (hg : tx.bytesGeneric = .ok g) :
    Hermez.buildL1CoordinatorTx w s b = .ok g ↔ AuthorizedCreation w s tx auth := by
  obtain ⟨depositF, amountF, hdeposit, hamount, ⟨hdepositLt, hamountLt⟩, ⟨hfrom, hto⟩, rfl⟩ := L1Tx.bytesGeneric_ok hg
  rw [buildL1CoordinatorTx_ok h]
  have hzeros : zeros 16 = bytesBE 6 0 ++ bytesBE 5 0 ++ bytesBE 5 0 := by
    simp [bytesBE_zero, zeros]
  rw [hzeros, ← bytesBE_zero 6]
  rw [maxIdxValue] at hfrom hto
  constructor
  · rintro ⟨htoken, ethAddress, hsigner, heq⟩
    simp only [List.append_assoc] at heq
    obtain ⟨haddr, heq⟩ := List.append_inj heq (by simp)
    obtain ⟨-, heq⟩ := List.append_inj heq (by simp)
    obtain ⟨hfrom₀, heq⟩ := List.append_inj heq (by simp)
    obtain ⟨hdeposit₀, heq⟩ := List.append_inj heq (by simp)
    obtain ⟨hamount₀, heq⟩ := List.append_inj heq (by simp)
    obtain ⟨-, hto₀⟩ := List.append_inj heq (by simp)
    have haddr' : tx.fromEthAddr = ethAddress := BitVec.eq_of_toNat_eq
      (bytesBE_inj (by have := tx.fromEthAddr.isLt; omega) (by have := ethAddress.isLt; omega) haddr)
    cases bytesBE_inj (by omega) (by omega) hdeposit₀
    cases bytesBE_inj (by omega) (by omega) hamount₀
    exact ⟨bytesBE_inj (by omega) (by omega) hfrom₀, bytesBE_inj (by omega) (by omega) hto₀, hdeposit, hamount, htoken,
      haddr' ▸ hsigner⟩
  · intro hcreation
    have hdeposit₀ : depositF = 0 := Except.ok.inj (hdeposit.symm.trans hcreation.depositAmount)
    have hamount₀ : amountF = 0 := Except.ok.inj (hamount.symm.trans hcreation.amount)
    refine ⟨hcreation.tokenID, tx.fromEthAddr, hcreation.fromEthAddr, ?_⟩
    rw [hcreation.fromIdx, hcreation.toIdx, hdeposit₀, hamount₀]
    simp only [List.append_assoc]

theorem length_buildL1CoordinatorTx (h : tx.bytesCoordinatorTx auth = .ok b) {g : Bytes}
    (hg : Hermez.buildL1CoordinatorTx w s b = .ok g) : g.length = 78 := by
  obtain ⟨-, ethAddress, -, rfl⟩ := (buildL1CoordinatorTx_ok h).mp hg
  simp

variable {auths : List Bytes}

omit [Libraries] in
theorem l1CoordinatorBytes_cons {txs : List L1Tx} {encoded : Bytes}
    (h : l1CoordinatorBytes (tx :: txs) (auth :: auths) = .ok encoded) :
    ∃ b rest, tx.bytesCoordinatorTx auth = .ok b ∧ l1CoordinatorBytes txs auths = .ok rest ∧ encoded = b ++ rest := by
  obtain ⟨b, hb, h⟩ := except_bind_ok.mp h
  obtain ⟨rest, hrest, h⟩ := except_bind_ok.mp h
  exact ⟨b, rest, hb, hrest, (Except.ok.inj h).symm⟩

theorem buildL1CoordinatorTxs_append (hb : b.length = 101) (rest : Bytes) (n : Nat) :
    Hermez.buildL1CoordinatorTxs w s (b ++ rest) (n + 1) = (do
      let first ← Hermez.buildL1CoordinatorTx w s b
      let rest ← Hermez.buildL1CoordinatorTxs w s rest n
      return first ++ rest) := by
  have hfirst : slice (b ++ rest) 0 rollupConstL1CoordinatorTotalBytes = b := by
    rw [slice_append_left b rest 0 rollupConstL1CoordinatorTotalBytes (Nat.le_of_eq hb.symm)]
    exact slice_all hb
  have hdrop : (b ++ rest).drop rollupConstL1CoordinatorTotalBytes = rest := List.drop_left' hb
  rw [Hermez.buildL1CoordinatorTxs, hfirst, hdrop]

theorem buildL1CoordinatorTxs_cons {rest coordinator : Bytes} {n : Nat} (hb : b.length = 101)
    (h : Hermez.buildL1CoordinatorTxs w s (b ++ rest) (n + 1) = .ok coordinator) :
    ∃ g rest', Hermez.buildL1CoordinatorTx w s b = .ok g ∧ Hermez.buildL1CoordinatorTxs w s rest n = .ok rest' ∧
      coordinator = g ++ rest' := by
  rw [buildL1CoordinatorTxs_append hb] at h
  obtain ⟨g, hg, h⟩ := except_bind_ok.mp h
  obtain ⟨rest', hrest', h⟩ := except_bind_ok.mp h
  exact ⟨g, rest', hg, hrest', (Except.ok.inj h).symm⟩

omit [Libraries] in
theorem length_l1CoordinatorBytes {txs : List L1Tx} {encoded : Bytes}
    (h : l1CoordinatorBytes txs auths = .ok encoded) : encoded.length = txs.length * 101 := by
  induction txs generalizing auths encoded with
  | nil =>
    cases h
    rfl
  | cons tx txs ih =>
    cases auths with
    | nil => cases h
    | cons auth auths =>
      obtain ⟨b, rest, hb, hrest, rfl⟩ := l1CoordinatorBytes_cons h
      rw [List.length_append, L1Tx.length_bytesCoordinatorTx hb, ih hrest, List.length_cons]
      omega

/-- **The account creations of a batch** are hashed alike if the contract reads each of them as it is. -/
theorem buildL1CoordinatorTxs_iff {txs : List L1Tx} {encoded : Bytes} {generics : List Bytes}
    (h : l1CoordinatorBytes txs auths = .ok encoded) (hg : txs.mapM L1Tx.bytesGeneric = .ok generics) :
    Hermez.buildL1CoordinatorTxs w s encoded txs.length = .ok generics.flatten ↔
      ∀ p ∈ txs.zip auths, AuthorizedCreation w s p.1 p.2 := by
  rw [mapM_ok] at hg
  induction hg generalizing auths encoded with
  | nil => simp [Hermez.buildL1CoordinatorTxs]
  | @cons tx g txs generics hgeneric _ ih =>
    cases auths with
    | nil => cases h
    | cons auth auths =>
      obtain ⟨b, rest, hb, hrest, rfl⟩ := l1CoordinatorBytes_cons h
      have hlength := L1Tx.length_bytesCoordinatorTx hb
      rw [List.length_cons, List.zip_cons_cons, List.forall_mem_cons, ← ih hrest, ← buildL1CoordinatorTx_iff hb hgeneric]
      constructor
      · intro hbuild
        obtain ⟨g', rest', hg', hrest', heq⟩ := buildL1CoordinatorTxs_cons hlength hbuild
        have hsplit := List.append_inj heq
          ((L1Tx.length_bytesGeneric hgeneric).trans (length_buildL1CoordinatorTx hb hg').symm)
        exact ⟨hsplit.1 ▸ hg', hsplit.2 ▸ hrest'⟩
      · rintro ⟨hg', hrest'⟩
        rw [buildL1CoordinatorTxs_append hlength]
        exact except_bind_ok.mpr ⟨g, hg', except_bind_ok.mpr ⟨_, hrest', rfl⟩⟩

theorem length_buildL1CoordinatorTxs {txs : List L1Tx} {encoded coordinator : Bytes}
    (h : l1CoordinatorBytes txs auths = .ok encoded)
    (hbuild : Hermez.buildL1CoordinatorTxs w s encoded txs.length = .ok coordinator) :
    coordinator.length = txs.length * 78 := by
  induction txs generalizing auths encoded coordinator with
  | nil =>
    cases hbuild
    rfl
  | cons tx txs ih =>
    cases auths with
    | nil => cases h
    | cons auth auths =>
      obtain ⟨b, rest, hb, hrest, rfl⟩ := l1CoordinatorBytes_cons h
      obtain ⟨g, rest', hg, hrest', rfl⟩ := buildL1CoordinatorTxs_cons (L1Tx.length_bytesCoordinatorTx hb) hbuild
      rw [List.length_append, length_buildL1CoordinatorTx hb hg, ih hrest hrest', List.length_cons]
      omega

end Creations

/-! ### The bytes of the contract -/

namespace Hermez

variable [Libraries] {w : World} {s : Hermez} {args : ForgeBatchArgs}

theorem buildL1Data_ok {generics : List Bytes} {n : Nat}
    (hqueue : (if args.l1Batch then s.mapL1TxQueue s.nextL1ToForgeQueue else []) = generics.flatten)
    (hgenerics : ∀ b ∈ generics, b.length = 78) (hencoded : args.encodedL1CoordinatorTx.length = n * 101)
    (hn : generics.length + n ≤ 256) {l1Data : Bytes} :
    buildL1Data w s args = .ok l1Data ↔ ∃ coordinator,
      buildL1CoordinatorTxs w s args.encodedL1CoordinatorTx n = .ok coordinator ∧
      l1Data = generics.flatten ++ coordinator ++ zeros ((256 - (generics.length + n)) * 78) := by
  have hlength := length_flatten_of_forall hgenerics
  have hcoordinators : n * 101 / rollupConstL1CoordinatorTotalBytes = n := Nat.mul_div_cancel n (by decide)
  have husers : generics.length * 78 / rollupConstL1UserTotalBytes = generics.length :=
    Nat.mul_div_cancel generics.length (by decide)
  rw [buildL1Data, hencoded, hcoordinators]
  simp only [hqueue, hlength, husers]
  rw [require_bind_ok, except_bind_ok]
  have htake : generics.flatten.take (generics.length * rollupConstL1UserTotalBytes) = generics.flatten :=
    List.take_of_length_le (Nat.le_of_eq hlength)
  simp only [htake, decide_eq_true (show generics.length + n ≤ maxL1Tx from hn), true_and]
  refine exists_congr fun coordinator => and_congr_right fun _ => ?_
  rw [← Nat.sub_add_eq]
  exact ⟨fun h => (Except.ok.inj h).symm, fun h => congrArg Except.ok h.symm⟩

def globalData (w : World) (s : Hermez) (args : ForgeBatchArgs) (verifier : VerifierRollup) (l1Data : Bytes) : GlobalData where
  oldLastIdx := bytesBE 6 s.lastIdx.toNat
  newLastIdx := bytesBE 6 args.newLastIdx.toNat
  oldStateRoot := bytesBE 32 (s.stateRootMap s.lastForgedBatch)
  newStateRoot := bytesBE 32 args.newStRoot
  newExitRoot := bytesBE 32 args.newExitRoot
  l1TxsData := l1Data
  txsData := args.l1L2TxsData
  padding := zeros ((verifier.nLevels / 8 * 2 + 5 + 1) * verifier.maxTx - args.l1L2TxsData.length)
  feeIdxs := args.feeIdxCoordinator ++ zeros (verifier.nLevels / 8 * 64 - args.feeIdxCoordinator.length)
  chainID := bytesBE 2 w.chainID
  batchNum := bytesBE 4 (s.lastForgedBatch.toNat + 1)

theorem circuitInputBytes_ok {verifier : VerifierRollup}
    (hverifier : s.rollupVerifiers[args.verifierIdx.toNat]? = some verifier) {b : Bytes} :
    circuitInputBytes w s args = .ok b ↔ ∃ l1Data, buildL1Data w s args = .ok l1Data ∧
      args.l1L2TxsData.length ≤ (verifier.nLevels / 8 * 2 + 5 + 1) * verifier.maxTx ∧
      args.feeIdxCoordinator.length ≤ verifier.nLevels / 8 * 64 ∧ b = (globalData w s args verifier l1Data).bytes := by
  rw [circuitInputBytes]
  simp only [hverifier]
  rw [except_bind_ok]
  refine exists_congr fun l1Data => and_congr_right fun _ => ?_
  rw [require_bind_ok, require_bind_ok, decide_eq_true_eq, decide_eq_true_eq]
  refine and_congr_right fun _ => and_congr_right fun _ => ?_
  rw [globalData, GlobalData.bytes]
  simp only [List.append_assoc]
  exact ⟨fun h => (Except.ok.inj h).symm, fun h => congrArg Except.ok h.symm⟩

end Hermez

/-! ### The fee indexes -/

theorem feeIdxCoordinatorBytes_ok {lenBytes : Nat} {idxs : List Nat} {b : Bytes}
    (h : feeIdxCoordinatorBytes lenBytes idxs = .ok b) :
    lenBytes ≤ 6 ∧ b = ((List.range 64).map fun i => bytesBE lenBytes (idxs.getD i 0)).flatten := by
  rw [feeIdxCoordinatorBytes] at h
  split at h
  · cases h
  obtain ⟨fields, hfields, hret⟩ := except_bind_ok.mp h
  cases hret
  have hfield : ∀ {idx : Nat} {y : Bytes}, (idxBytes idx >>= idxTail lenBytes) = .ok y →
      lenBytes ≤ 6 ∧ bytesBE lenBytes idx = y := by
    intro idx y hy
    obtain ⟨_, hidx, htail⟩ := except_bind_ok.mp hy
    obtain ⟨-, rfl⟩ := idxBytes_eq_ok hidx
    by_cases hle : lenBytes ≤ 6
    · rw [idxTail_bytesBE hle] at htail
      exact ⟨hle, Except.ok.inj htail⟩
    · rw [idxTail, if_neg hle] at htail
      cases htail
  rw [mapM_ok] at hfields
  have hmap := List.forall₂_eq_eq_eq ▸ (List.forall₂_map_left_iff (f := bytesBE lenBytes)).mpr
    (hfields.imp fun _ _ hy => (hfield hy).2)
  obtain ⟨y, -, hy⟩ := forall₂_of_mem_left hfields (List.mem_map.mpr ⟨0, List.mem_range.mpr (by decide), rfl⟩)
  refine ⟨(hfield hy).1, ?_⟩
  rw [← hmap, List.map_map]
  rfl

/-- The node reads the fee indexes as they are published when they are the same numbers in the published width. -/
theorem feeIdxs_iff {lenBytes : Nat} {idxs coordIdxs : List Nat} (hidxs : idxs.length ≤ 64) :
    (∃ fields, (copySlice (newSlice 64) idxs).mapM (fun idx => rightAligned lenBytes (bigIntBytes idx)) = .ok fields ∧
      fields.flatten = ((List.range 64).map fun i => bytesBE lenBytes (coordIdxs.getD i 0)).flatten) ↔
    ∀ i < 64, idxs.getD i 0 = coordIdxs.getD i 0 % 256 ^ lenBytes := by
  have hslots : copySlice (newSlice 64) idxs = (List.range 64).map fun i => idxs.getD i 0 := by
    refine List.ext_getElem (by simp [copySlice, newSlice, hidxs]) fun i hi hi' => ?_
    rw [List.getElem_map, List.getElem_range]
    simp only [copySlice, newSlice, List.length_replicate, List.take_of_length_le hidxs, List.getElem_append,
      List.drop_replicate, List.getElem_replicate, List.getD_eq_getElem?_getD]
    split
    next hlt => rw [List.getElem?_eq_getElem hlt, Option.getD_some]
    next hge => rw [List.getElem?_eq_none (by omega), Option.getD_none]
  simp only [hslots, rightAligned_bigIntBytes]
  constructor
  · rintro ⟨fields, hfields, heq⟩ i hi
    rw [mapM_ok, List.forall₂_map_left_iff] at hfields
    have hread : ∀ {j : Nat} {y : Bytes},
        (if idxs.getD j 0 < 256 ^ lenBytes then .ok (bytesBE lenBytes (idxs.getD j 0)) else .error .panic) =
          (Except.ok y : Except Err Bytes) → idxs.getD j 0 < 256 ^ lenBytes ∧ bytesBE lenBytes (idxs.getD j 0) = y := by
      intro j y hy
      split at hy
      next hlt => exact ⟨hlt, Except.ok.inj hy⟩
      next => cases hy
    have hmap : (List.range 64).map (fun j => bytesBE lenBytes (idxs.getD j 0)) = fields :=
      List.forall₂_eq_eq_eq ▸ List.forall₂_map_left_iff.mpr (hfields.imp fun _ _ hy => (hread hy).2)
    rw [← hmap, flatten_map_inj fun _ _ => by simp] at heq
    obtain ⟨_, -, hy⟩ := forall₂_of_mem_left hfields (List.mem_range.mpr hi)
    have hvalue := congrArg natOfBytesBE (heq i (List.mem_range.mpr hi))
    rwa [natOfBytesBE_bytesBE_of_lt (hread hy).1, natOfBytesBE_bytesBE] at hvalue
  · intro h
    refine ⟨(List.range 64).map fun i => bytesBE lenBytes (idxs.getD i 0), ?_, ?_⟩
    · rw [mapM_ok, List.forall₂_map_left_iff, List.forall₂_map_right_iff, List.forall₂_same]
      intro i hi
      rw [if_pos (by rw [h i (List.mem_range.mp hi)]; exact Nat.mod_lt _ (by positivity))]
    · rw [flatten_map_inj fun _ _ => by simp]
      intro i hi
      rw [h i (List.mem_range.mp hi), bytesBE_mod lenBytes _ (Nat.le_refl _)]

/-! ### A batch on both sides -/

/-- `prepareForgeBatchArgs`. -/
def prepareForgeBatchArgs (zki : ZKInputs) (l1UserTxs l1CoordinatorTxs : List L1Tx) (l1CoordinatorTxsAuths : List Bytes)
    (l2Txs : List L2Tx) (coordIdxs : List Nat) (verifierIdx : BitVec 8) (l1Batch : Bool) (proof : Proof) :
    RollupForgeBatchArgs where
  newLastIdx := BitVec.ofNat 48 zki.metadata.newLastIdxRaw
  newStRoot := zki.metadata.newStateRootRaw
  newExitRoot := zki.metadata.newExitRootRaw
  l1UserTxs
  l1CoordinatorTxs
  l1CoordinatorTxsAuths
  l2TxsData := l2Txs
  feeIdxCoordinator := coordIdxs
  verifierIdx
  l1Batch
  proof

/-- The contract is in the state on which the batch was built, with the transactions of users in the queue to forge. -/
structure ReadyToForge [Libraries] (w : World) (contract : Hermez) (state : StateDB) (config : Config)
    (args : RollupForgeBatchArgs) : Prop where
  verifier : contract.rollupVerifiers[args.verifierIdx.toNat]? = some { maxTx := config.maxTx, nLevels := config.nLevels }
  lastIdx : contract.lastIdx.toNat = state.currentIdx
  stateRoot : contract.stateRootMap contract.lastForgedBatch = state.accounts.root
  chainID : w.chainID % 2 ^ 16 = config.chainID.toNat
  lastForgedBatch : contract.lastForgedBatch.toNat = state.currentBatch
  queue : ∃ queued, args.l1UserTxs.mapM L1Tx.bytesGeneric = .ok queued ∧
    (if args.l1Batch then contract.mapL1TxQueue contract.nextL1ToForgeQueue else []) = queued.flatten

def RollupForgeBatchArgs.nTx (args : RollupForgeBatchArgs) : Nat :=
  args.l1UserTxs.length + args.l1CoordinatorTxs.length + args.l2TxsData.length

/-- What it takes for both sides to hash the same bytes: an old root without a leading zero byte, data of the same
length (that of whole bytes for every index, which does not overflow the node's 32 bits), fee accounts that fit into the
published width and were not dropped, and account creations that the contract reads as they are. -/
structure HashedAlike [Libraries] (w : World) (contract : Hermez) (state : StateDB) (config : Config)
    (args : RollupForgeBatchArgs) (coordIdxs : List Nat) : Prop where
  oldStateRoot : state.accounts.root = 0 ∨ 2 ^ 248 ≤ state.accounts.root
  dataLength : args.nTx * ((2 * config.nLevels + 48) / 8) + (config.maxTx - args.nTx) * (2 * config.nLevels + 48) / 8 =
    (config.nLevels / 8 * 2 + 5 + 1) * config.maxTx
  l2DataLength : args.l2TxsData.length * ((2 * config.nLevels + 48) / 8) ≤
    config.maxTx * (2 * config.nLevels + 48) % 2 ^ 32 / 8
  feeIdxs : ∀ i < 64, coordIdxs.getD i 0 = args.feeIdxCoordinator.getD i 0 % 256 ^ (config.nLevels / 8)
  creations : ∀ p ∈ args.l1CoordinatorTxs.zip args.l1CoordinatorTxsAuths, AuthorizedCreation w contract p.1 p.2

theorem rollupForgeBatch_ok {verifiers : List VerifierRollup} {args : RollupForgeBatchArgs} {calldata : Hermez.ForgeBatchArgs}
    {verifier : VerifierRollup} (hverifier : verifiers[args.verifierIdx.toNat]? = some verifier)
    (h : rollupForgeBatch verifiers args = .ok calldata) :
    ∃ l1UserData l1CoordinatorData l2Data encodedL1CoordinatorTx feeIdxCoordinator,
      args.l1UserTxs.mapM (L1Tx.bytesDataAvailability · verifier.nLevels) = .ok l1UserData ∧
      args.l1CoordinatorTxs.mapM (L1Tx.bytesDataAvailability · verifier.nLevels) = .ok l1CoordinatorData ∧
      args.l2TxsData.mapM (L2Tx.bytesDataAvailability · verifier.nLevels) = .ok l2Data ∧
      l1CoordinatorBytes args.l1CoordinatorTxs args.l1CoordinatorTxsAuths = .ok encodedL1CoordinatorTx ∧
      feeIdxCoordinatorBytes (verifier.nLevels / 8) args.feeIdxCoordinator = .ok feeIdxCoordinator ∧
      calldata = { newLastIdx := args.newLastIdx, newStRoot := args.newStRoot, newExitRoot := args.newExitRoot
                   encodedL1CoordinatorTx
                   l1L2TxsData := l1UserData.flatten ++ l1CoordinatorData.flatten ++ l2Data.flatten
                   feeIdxCoordinator, verifierIdx := args.verifierIdx
                   l1Batch := args.l1Batch, proof := args.proof } := by
  obtain ⟨nLevels, hlevels, h⟩ := except_bind_ok.mp h
  rw [nLevelsOf, hverifier] at hlevels
  cases hlevels
  obtain ⟨encoded, hencoded, h⟩ := except_bind_ok.mp h
  obtain ⟨l1UserData, hl1UserData, h⟩ := except_bind_ok.mp h
  obtain ⟨l1CoordinatorData, hl1CoordinatorData, h⟩ := except_bind_ok.mp h
  obtain ⟨l2Data, hl2Data, h⟩ := except_bind_ok.mp h
  obtain ⟨feeIdxs, hfeeIdxs, h⟩ := except_bind_ok.mp h
  cases h
  exact ⟨l1UserData, l1CoordinatorData, l2Data, encoded, feeIdxs, hl1UserData, hl1CoordinatorData, hl2Data, hencoded,
    hfeeIdxs, rfl⟩

section Batch

variable [Libraries] {w : World} {contract : Hermez} {state : StateDB} {config : Config} {args : RollupForgeBatchArgs}
  {calldata : Hermez.ForgeBatchArgs} {zki : ZKInputs} {hashBytes : Nat → Bytes} {coordIdxs : List Nat}

/-- The circuit inputs of a batch that is handed to `RollupForgeBatch`. -/
structure InputsOf (state : StateDB) (config : Config) (args : RollupForgeBatchArgs) (coordIdxs : List Nat) (zki : ZKInputs) :
    Prop where
  oldLastIdx : zki.oldLastIdx = state.currentIdx
  oldStateRoot : zki.oldStateRoot = state.accounts.root
  currentNumBatch : zki.currentNumBatch = state.currentBatch + 1
  nLevels : zki.metadata.nLevels = config.nLevels
  maxL1Tx : zki.metadata.maxL1Tx = 256
  maxTx : zki.metadata.maxTx = config.maxTx
  chainID : zki.metadata.chainID = config.chainID
  newLastIdx : zki.metadata.newLastIdxRaw ≤ maxIdxValue ∧ args.newLastIdx.toNat = zki.metadata.newLastIdxRaw
  roots : args.newStRoot = zki.metadata.newStateRootRaw ∧ args.newExitRoot = zki.metadata.newExitRootRaw
  l1TxsData : (args.l1UserTxs ++ args.l1CoordinatorTxs).mapM L1Tx.bytesGeneric = .ok zki.metadata.l1TxsData
  l1TxsDataAvailability : (args.l1UserTxs ++ args.l1CoordinatorTxs).mapM (L1Tx.bytesDataAvailability · config.nLevels) =
    .ok zki.metadata.l1TxsDataAvailability
  l2TxsData : args.l2TxsData.mapM (L2Tx.bytesDataAvailability · config.nLevels) = .ok zki.metadata.l2TxsData
  feeIdxs : zki.feeIdxs = copySlice (newSlice 64) coordIdxs
  length : args.l1UserTxs.length + args.l1CoordinatorTxs.length ≤ 256 ∧ args.nTx ≤ config.maxTx ∧ coordIdxs.length ≤ 64

namespace InputsOf

variable (hzki : InputsOf state config args coordIdxs zki)

include hzki

theorem length_l1TxsDataAvailability :
    zki.metadata.l1TxsDataAvailability.length = args.l1UserTxs.length + args.l1CoordinatorTxs.length := by
  rw [← (mapM_ok.mp hzki.l1TxsDataAvailability).length_eq, List.length_append]

theorem length_l2TxsData : zki.metadata.l2TxsData.length = args.l2TxsData.length :=
  (mapM_ok.mp hzki.l2TxsData).length_eq.symm

theorem length_l1TxsData : zki.metadata.l1TxsData.length = args.l1UserTxs.length + args.l1CoordinatorTxs.length := by
  rw [← (mapM_ok.mp hzki.l1TxsData).length_eq, List.length_append]

theorem length_data :
    (zki.metadata.l1TxsDataAvailability.flatten ++ zki.metadata.l2TxsData.flatten).length =
      args.nTx * ((2 * config.nLevels + 48) / 8) := by
  rw [List.length_append, length_flatten_of_mapM L1Tx.length_bytesDataAvailability hzki.l1TxsDataAvailability,
    length_flatten_of_mapM L2Tx.length_bytesDataAvailability hzki.l2TxsData, List.length_append, RollupForgeBatchArgs.nTx]
  ring

theorem toHashGlobalData_ok (hlevels : config.nLevels / 8 ≤ 6) (hold : state.currentIdx < 2 ^ 48)
    (hbatchNum : state.currentBatch + 1 < 2 ^ 32) {b : Bytes} :
    zki.toHashGlobalData hashBytes = .ok b ↔
      args.l2TxsData.length * ((2 * config.nLevels + 48) / 8) ≤ config.maxTx * (2 * config.nLevels + 48) % 2 ^ 32 / 8 ∧
      ∃ feeIdxs, (copySlice (newSlice 64) coordIdxs).mapM (fun idx => rightAligned (config.nLevels / 8) (bigIntBytes idx)) =
        .ok feeIdxs ∧ b = (zki.globalData hashBytes feeIdxs).bytes := by
  obtain ⟨hnL1Tx, hnTx, -⟩ := hzki.length
  have hmaxTx : zki.metadata.l1TxsDataAvailability.length + zki.metadata.l2TxsData.length ≤ zki.metadata.maxTx := by
    rw [hzki.length_l1TxsDataAvailability, hzki.length_l2TxsData, hzki.maxTx]
    exact hnTx
  rw [ZKInputs.toHashGlobalData_ok (by rw [hzki.nLevels]; omega) hzki.maxL1Tx (by rw [hzki.length_l1TxsData]; exact hnL1Tx)
    (forall_length_of_mapM L1Tx.length_bytesGeneric hzki.l1TxsData) hmaxTx (by rw [hzki.oldLastIdx]; exact hold)
    hzki.newLastIdx.1 (by rw [hzki.currentNumBatch]; exact hbatchNum), hzki.nLevels, hzki.maxTx, hzki.feeIdxs,
    length_flatten_of_mapM L2Tx.length_bytesDataAvailability hzki.l2TxsData]

variable (hready : ReadyToForge w contract state config args)
  (hforge : rollupForgeBatch contract.rollupVerifiers args = .ok calldata)

include hready hforge

theorem calldata_eq :
    (calldata.newLastIdx = args.newLastIdx ∧ calldata.newStRoot = args.newStRoot ∧ calldata.newExitRoot = args.newExitRoot ∧
      calldata.verifierIdx = args.verifierIdx ∧ calldata.l1Batch = args.l1Batch) ∧
    calldata.l1L2TxsData = zki.metadata.l1TxsDataAvailability.flatten ++ zki.metadata.l2TxsData.flatten ∧
    l1CoordinatorBytes args.l1CoordinatorTxs args.l1CoordinatorTxsAuths = .ok calldata.encodedL1CoordinatorTx ∧
    config.nLevels / 8 ≤ 6 ∧ calldata.feeIdxCoordinator =
      ((List.range 64).map fun i => bytesBE (config.nLevels / 8) (args.feeIdxCoordinator.getD i 0)).flatten := by
  obtain ⟨l1UserData, l1CoordinatorData, l2Data, encoded, _, hl1UserData, hl1CoordinatorData, hl2Data, hencoded, hfees, rfl⟩ :=
    rollupForgeBatch_ok hready.verifier hforge
  obtain ⟨hlevels, rfl⟩ := feeIdxCoordinatorBytes_ok hfees
  have hl1 : zki.metadata.l1TxsDataAvailability = l1UserData ++ l1CoordinatorData := by
    have hdata := hzki.l1TxsDataAvailability
    rw [List.mapM_append, hl1UserData, except_ok_bind, hl1CoordinatorData, except_ok_bind] at hdata
    exact (Except.ok.inj hdata).symm
  have hl2 : zki.metadata.l2TxsData = l2Data := Except.ok.inj (hzki.l2TxsData.symm.trans hl2Data)
  refine ⟨⟨rfl, rfl, rfl, rfl, rfl⟩, ?_, hencoded, hlevels, rfl⟩
  rw [hl1, hl2, List.flatten_append]

/-- The node and the contract lay out the same fields, apart from those that `HashedAlike` is about. -/
theorem globalData_iff (hbytes : ∀ h, hashBytes h = bytesBE 32 h) (hfield : state.accounts.root < rollupConstRfield)
    {queued generics fields : List Bytes} {coordinator : Bytes} (hl1TxsData : zki.metadata.l1TxsData = queued ++ generics)
    (hcoordinator : coordinator.length = generics.flatten.length)
    (hfields : fields.flatten.length = config.nLevels / 8 * 64) :
    (zki.globalData hashBytes fields).bytes = (Hermez.globalData w contract calldata
        { maxTx := config.maxTx, nLevels := config.nLevels }
        (queued.flatten ++ coordinator ++ zeros ((256 - (queued ++ generics).length) * 78))).bytes ↔
      (state.accounts.root = 0 ∨ 2 ^ 248 ≤ state.accounts.root) ∧ coordinator = generics.flatten ∧
      (config.maxTx - args.nTx) * (2 * config.nLevels + 48) / 8 =
        (config.nLevels / 8 * 2 + 5 + 1) * config.maxTx - args.nTx * ((2 * config.nLevels + 48) / 8) ∧
      fields.flatten = calldata.feeIdxCoordinator := by
  obtain ⟨⟨hnewLastIdx, hnewStRoot, hnewExitRoot, -⟩, htxsData, -, -, hfees⟩ := hzki.calldata_eq hready hforge
  have hfeesLength : calldata.feeIdxCoordinator.length = config.nLevels / 8 * 64 := by
    rw [hfees, length_flatten_of_forall (k := config.nLevels / 8) (by simp), List.length_map, List.length_range, Nat.mul_comm]
  have hroot := leftAligned_bigIntBytes_iff
    (show state.accounts.root < 256 ^ (31 + 1) from hfield.trans (show rollupConstRfield < 256 ^ 32 by decide))
  have hchainID : bytesBE 2 config.chainID.toNat = bytesBE 2 w.chainID := by
    rw [← hready.chainID]
    exact bytesBE_mod 2 w.chainID (Nat.le_refl 2)
  have hhash : ∀ h, leftAligned 32 (hashBytes h) = bytesBE 32 h := by
    intro h
    rw [hbytes, leftAligned_of_length (length_bytesBE 32 h)]
  have hl1 : ∀ k, ((queued ++ generics).flatten ++ zeros k = queued.flatten ++ coordinator ++ zeros k ↔
      coordinator = generics.flatten) := by
    intro k
    rw [List.flatten_append, List.append_left_inj, List.append_right_inj, eq_comm]
  have hzeros : ∀ m n, zeros m = zeros n ↔ m = n := by
    intro m n
    exact ⟨fun h => by simpa using congrArg List.length h, fun h => by rw [h]⟩
  have hpadding : zki.metadata.maxTx - zki.metadata.l1TxsDataAvailability.length - zki.metadata.l2TxsData.length =
      config.maxTx - args.nTx := by
    rw [hzki.maxTx, hzki.length_l1TxsDataAvailability, hzki.length_l2TxsData, ← Nat.sub_add_eq]
    rfl
  rw [GlobalData.bytes_inj]
  · rw [ZKInputs.globalData, Hermez.globalData, GlobalData.mk.injEq]
    dsimp only
    rw [htxsData, hzki.length_data, hpadding, hl1TxsData, hl1, hzeros, hhash, hhash, hnewLastIdx, hnewStRoot, hnewExitRoot,
      hzki.roots.1, hzki.roots.2, hzki.newLastIdx.2, hzki.oldLastIdx, hready.lastIdx, hzki.oldStateRoot, hready.stateRoot,
      hroot, hzki.chainID, hchainID, hzki.currentNumBatch, hready.lastForgedBatch, hfeesLength, Nat.sub_self, hzki.nLevels]
    simp only [zeros, List.replicate_zero, List.append_nil, true_and, and_true]
    norm_num only
  · constructor <;> simp only [ZKInputs.globalData, Hermez.globalData, length_bytesBE, hhash]
    · rw [leftAligned, length_copySlice, length_zeros]
    · rw [hl1TxsData, List.flatten_append]
      simp only [List.length_append, hcoordinator]
    · rw [htxsData]
    · rw [List.length_append, hfields, hfeesLength, Nat.sub_self, length_zeros, Nat.add_zero]

/-- **Both sides hash the same bytes** exactly under the conditions of `HashedAlike`. -/
theorem hashedAlike_iff (hbytes : ∀ h, hashBytes h = bytesBE 32 h) (hfield : state.accounts.root < rollupConstRfield)
    (hbatchNum : state.currentBatch + 1 < 2 ^ 32) :
    (∃ b, zki.toHashGlobalData hashBytes = .ok b ∧ contract.circuitInputBytes w calldata = .ok b) ↔
      HashedAlike w contract state config args coordIdxs := by
  obtain ⟨⟨-, -, -, hverifierIdx, hl1Batch⟩, htxsData, hencoded, hlevels, hfees⟩ := hzki.calldata_eq hready hforge
  obtain ⟨hnL1Tx, hnTx, hidxs⟩ := hzki.length
  obtain ⟨queued, hqueued, hqueue⟩ := hready.queue
  obtain ⟨generics, hgenerics, hl1TxsData⟩ : ∃ generics, args.l1CoordinatorTxs.mapM L1Tx.bytesGeneric = .ok generics ∧
      zki.metadata.l1TxsData = queued ++ generics := by
    have hdata := hzki.l1TxsData
    rw [List.mapM_append, hqueued, except_ok_bind] at hdata
    obtain ⟨generics, hgenerics, hret⟩ := except_bind_ok.mp hdata
    exact ⟨generics, hgenerics, (Except.ok.inj hret).symm⟩
  have hqueuedLength := (mapM_ok.mp hqueued).length_eq
  have hgenericsLength := (mapM_ok.mp hgenerics).length_eq
  have hgenerics78 := length_flatten_of_mapM L1Tx.length_bytesGeneric hgenerics
  have hold : state.currentIdx < 2 ^ 48 := hready.lastIdx ▸ contract.lastIdx.isLt
  have hbuild : ∀ {l1Data}, Hermez.buildL1Data w contract calldata = .ok l1Data ↔ ∃ coordinator,
      Hermez.buildL1CoordinatorTxs w contract calldata.encodedL1CoordinatorTx args.l1CoordinatorTxs.length = .ok coordinator ∧
      l1Data = queued.flatten ++ coordinator ++ zeros ((256 - (queued ++ generics).length) * 78) := by
    intro l1Data
    rw [List.length_append, ← hgenericsLength]
    exact Hermez.buildL1Data_ok (by rw [hl1Batch]; exact hqueue)
      (forall_length_of_mapM L1Tx.length_bytesGeneric hqueued) (length_l1CoordinatorBytes hencoded) (by omega)
  have hverifier : contract.rollupVerifiers[calldata.verifierIdx.toNat]? =
      some { maxTx := config.maxTx, nLevels := config.nLevels } := by
    rw [hverifierIdx]
    exact hready.verifier
  have hdataLength : calldata.l1L2TxsData.length = args.nTx * ((2 * config.nLevels + 48) / 8) := by
    rw [htxsData, hzki.length_data]
  have hlength : ∀ {fields : List Bytes}, (copySlice (newSlice 64) coordIdxs).mapM
      (fun idx => rightAligned (config.nLevels / 8) (bigIntBytes idx)) = .ok fields →
      fields.flatten.length = config.nLevels / 8 * 64 := by
    intro fields hfields
    rw [length_flatten_of_mapM length_rightAligned hfields, length_copySlice, newSlice, List.length_replicate, Nat.mul_comm]
  constructor
  · rintro ⟨b, hnode, hcontract⟩
    obtain ⟨hl2Length, fields, hfields, rfl⟩ := (hzki.toHashGlobalData_ok hlevels hold hbatchNum).mp hnode
    obtain ⟨l1Data, hl1Data, hdata, -, heq⟩ := (Hermez.circuitInputBytes_ok hverifier).mp hcontract
    obtain ⟨coordinator, hcoordinator, rfl⟩ := hbuild.mp hl1Data
    obtain ⟨hroot, rfl, hpadding, hfee⟩ := (hzki.globalData_iff hready hforge hbytes hfield hl1TxsData
      (by rw [length_buildL1CoordinatorTxs hencoded hcoordinator, hgenerics78]) (hlength hfields)).mp heq
    refine ⟨hroot, ?_, hl2Length, (feeIdxs_iff hidxs).mp ⟨fields, hfields, hfee.trans hfees⟩,
      (buildL1CoordinatorTxs_iff hencoded hgenerics).mp hcoordinator⟩
    rw [hdataLength] at hdata
    rw [hpadding, Nat.add_sub_cancel' hdata]
  · intro halike
    obtain ⟨fields, hfields, hfee⟩ := (feeIdxs_iff hidxs).mpr halike.feeIdxs
    have hcoordinator := (buildL1CoordinatorTxs_iff hencoded hgenerics).mpr halike.creations
    have heq := (hzki.globalData_iff hready hforge hbytes hfield hl1TxsData rfl (hlength hfields)).mpr
      ⟨halike.oldStateRoot, rfl, Nat.eq_sub_of_add_eq' halike.dataLength, hfee.trans hfees.symm⟩
    refine ⟨_, (hzki.toHashGlobalData_ok hlevels hold hbatchNum).mpr ⟨halike.l2DataLength, fields, hfields, rfl⟩,
      (Hermez.circuitInputBytes_ok hverifier).mpr ⟨_, hbuild.mpr ⟨_, hcoordinator, rfl⟩, ?_, ?_, heq⟩⟩
    · rw [hdataLength, ← halike.dataLength]
      exact Nat.le_add_right _ _
    · rw [hfees, ← hfee, hlength hfields]

end InputsOf

section Process

variable {l1UserTxs l1CoordinatorTxs : List L1Tx} {l2Txs : List PoolL2Tx} {out : ProcessTxOutput} {s' : TxProcessor}
  {bout : Rollup.BatchOut} {r' : Rollup} {auths : List Bytes} {verifierIdx : BitVec 8} {l1Batch : Bool} {proof : Proof}

open TxProcessor in
theorem processTxs_inputsOf (hbuilder : state.typ = .batchBuilder) (hlt : config.maxTx < 2 ^ 32)
    (hmaxL1Tx : config.maxL1Tx = 256) (hmaxFeeTx : config.maxFeeTx = 64) (hidx : state.currentIdx ≤ maxIdxValue)
    (hok : processTxs coordIdxs l1UserTxs l1CoordinatorTxs l2Txs (newTxProcessor state config) = .ok out s')
    (hzki : out.zkInputs = some zki)
    (hbatch : Rollup.batch coordIdxs l1UserTxs l1CoordinatorTxs out.l2Txs (Rollup.start state) = some (bout, r')) :
    InputsOf state config (prepareForgeBatchArgs zki out.l1UserTxs out.l1CoordinatorTxs auths
      (out.l2Txs.map PoolL2Tx.l2Tx) coordIdxs verifierIdx l1Batch proof) bout.coordIdxs zki := by
  obtain ⟨⟨-, hmax, hmaxL1⟩, -⟩ := processTxs_batch hok
  obtain ⟨s₁, run, zki₁, hparts, hinputs, hout, hl2, hidxs, -⟩ := processTxs_inputs hbuilder hlt hok
  obtain ⟨bout', hbatch', hcoordIdxs, -⟩ := hparts.batch
  rw [startBatch_rollup, ← hl2, hbatch] at hbatch'
  cases hbatch'
  rw [hzki] at hout
  cases hout
  obtain ⟨users, husers⟩ := hparts.users
  obtain ⟨coordinators, hcoordinators⟩ := hparts.coordinators
  have houtUsers : out.l1UserTxs = run.users.txs :=
    (congrArg ProcessTxOutput.l1UserTxs run.hout).trans (batchOutput_txs _ _ _).1
  have houtCoordinators : out.l1CoordinatorTxs = run.coordinatorTxs :=
    (congrArg ProcessTxOutput.l1CoordinatorTxs run.hout).trans (batchOutput_txs _ _ _).2.1
  have hnewIdx : s₁.state.currentIdx ≤ maxIdxValue := by
    have hkeeps : ∀ {txs : List L1Tx} {outs : List (L1Tx × ExitOut)} {r r' : Rollup},
        Spec.forEach Rollup.l1Tx txs r = some (outs, r') → r.currentIdx ≤ maxIdxValue → r'.currentIdx ≤ maxIdxValue :=
      fun h => Spec.Within.forEach (R := fun r r' : Rollup => r.currentIdx ≤ maxIdxValue → r'.currentIdx ≤ maxIdxValue)
        (fun _ h => h) (fun _ _ _ h h' hle => h' (h hle))
        (fun _ _ _ _ h => Rollup.applyL1_currentIdx_le (Rollup.l1Tx_some.mp h).1) _ _ _ _ h
    rw [hparts.currentIdx]
    exact hkeeps hcoordinators (hkeeps husers hidx)
  obtain ⟨_, _, hbatch', -, -, husersOut, hcoordinatorsOut, -⟩ := processTxs_ok hok
  rw [hbatch] at hbatch'
  cases hbatch'
  obtain ⟨r₁, r₂, r₃, us, hspecUsers, hspecCoordinators, -⟩ := Rollup.batch_some.mp hbatch
  have hlengthUsers : out.l1UserTxs.length = l1UserTxs.length := by
    have hlength := congrArg List.length husersOut
    rw [List.length_map, List.length_map] at hlength
    exact hlength.trans (Spec.forEach_length hspecUsers)
  have hlengthCoordinators : out.l1CoordinatorTxs.length = l1CoordinatorTxs.length := by
    have hlength := congrArg List.length hcoordinatorsOut
    rw [List.length_map, List.length_map] at hlength
    exact hlength.trans (Spec.forEach_length hspecCoordinators)
  have hlengthL2 : out.l2Txs.length = l2Txs.length := by rw [hl2, hparts.length]
  have hlevels : zki₁.metadata.nLevels = config.nLevels := by rw [hinputs.metadata]; rfl
  constructor
  case oldLastIdx => exact congrArg (fun p => p.2.1) hinputs.oldState
  case oldStateRoot => exact congrArg (fun p => p.2.2) hinputs.oldState
  case currentNumBatch => exact congrArg (fun p => p.1) hinputs.oldState
  case nLevels => exact hlevels
  case maxL1Tx =>
    show zki₁.metadata.maxL1Tx = 256
    rw [hinputs.metadata]
    exact hmaxL1Tx
  case maxTx =>
    show zki₁.metadata.maxTx = config.maxTx
    rw [hinputs.metadata]
    rfl
  case chainID =>
    show zki₁.metadata.chainID = config.chainID
    rw [hinputs.metadata]
    rfl
  case newLastIdx =>
    have hlast : zki₁.metadata.newLastIdxRaw = s₁.state.currentIdx := by rw [hinputs.metadata]
    show zki₁.metadata.newLastIdxRaw ≤ maxIdxValue ∧ (BitVec.ofNat 48 zki₁.metadata.newLastIdxRaw).toNat = _
    rw [hlast]
    refine ⟨hnewIdx, ?_⟩
    rw [maxIdxValue] at hnewIdx
    rw [BitVec.toNat_ofNat, Nat.mod_eq_of_lt (by omega)]
    exact hlast.symm
  case roots => exact ⟨rfl, rfl⟩
  case l1TxsData =>
    show (out.l1UserTxs ++ out.l1CoordinatorTxs).mapM L1Tx.bytesGeneric = _
    rw [houtUsers, houtCoordinators]
    exact hinputs.l1TxsData
  case l1TxsDataAvailability =>
    show (out.l1UserTxs ++ out.l1CoordinatorTxs).mapM (L1Tx.bytesDataAvailability · config.nLevels) = _
    rw [houtUsers, houtCoordinators]
    exact hinputs.l1TxsDataAvailability
  case l2TxsData =>
    show (out.l2Txs.map PoolL2Tx.l2Tx).mapM (L2Tx.bytesDataAvailability · config.nLevels) = _
    rw [List.mapM_map, hl2]
    exact hinputs.l2TxsData
  case feeIdxs =>
    show zki₁.feeIdxs = _
    rw [hinputs.feeIdxs, hcoordIdxs, ← hmaxFeeTx]
    rfl
  case length =>
    rw [hmaxFeeTx, ← hcoordIdxs] at hidxs
    refine ⟨?_, ?_, hidxs⟩
    · show out.l1UserTxs.length + out.l1CoordinatorTxs.length ≤ 256
      omega
    · show out.l1UserTxs.length + out.l1CoordinatorTxs.length + (out.l2Txs.map PoolL2Tx.l2Tx).length ≤ config.maxTx
      rw [List.length_map]
      omega

open TxProcessor in
/-- **Node and contract hash the same bytes** for a batch that the batch builder returns, under the conditions of
`HashedAlike` and only then. -/
theorem processTxs_hashedAlike (hbytes : ∀ h, hashBytes h = bytesBE 32 h) (hbuilder : state.typ = .batchBuilder)
    (hlt : config.maxTx < 2 ^ 32) (hmaxL1Tx : config.maxL1Tx = 256) (hmaxFeeTx : config.maxFeeTx = 64)
    (hfield : state.accounts.root < rollupConstRfield) (hbatchNum : state.currentBatch + 1 < 2 ^ 32)
    (hok : processTxs coordIdxs l1UserTxs l1CoordinatorTxs l2Txs (newTxProcessor state config) = .ok out s')
    (hzki : out.zkInputs = some zki)
    (hbatch : Rollup.batch coordIdxs l1UserTxs l1CoordinatorTxs out.l2Txs (Rollup.start state) = some (bout, r'))
    (hargs : args = prepareForgeBatchArgs zki out.l1UserTxs out.l1CoordinatorTxs auths (out.l2Txs.map PoolL2Tx.l2Tx)
      coordIdxs verifierIdx l1Batch proof)
    (hready : ReadyToForge w contract state config args)
    (hforge : rollupForgeBatch contract.rollupVerifiers args = .ok calldata) :
    (∃ b, zki.toHashGlobalData hashBytes = .ok b ∧ contract.circuitInputBytes w calldata = .ok b) ↔
      HashedAlike w contract state config args bout.coordIdxs := by
  have hidx : state.currentIdx ≤ maxIdxValue := by
    have hlast := contract.lastIdx.isLt
    rw [hready.lastIdx] at hlast
    rw [maxIdxValue]
    omega
  subst hargs
  exact (processTxs_inputsOf hbuilder hlt hmaxL1Tx hmaxFeeTx hidx hok hzki hbatch).hashedAlike_iff hready hforge hbytes hfield
    hbatchNum

end Process

end Batch

/-! ### A batch with one exit -/

/-- Libraries whose Poseidon hash is the same for all inputs, so that it can be chosen. -/
@[reducible] def constantHash (h : Nat) : Libraries :=
  { plainLibraries with poseidon := fun _ => h, merkleTrees := .built _ 47 }

theorem root_constantHash (h : Nat) (typ : TypeStateDB) :
    @AccountTree.root (constantHash h) (oneAccountState typ).accounts = h := by
  obtain ⟨x, xs, hroot⟩ := @AccountTree.root_of_ne_empty (constantHash h) (oneAccountState typ).accounts (by
    intro hempty
    exact Finmap.notMem_empty (hempty ▸ Finmap.mem_insert.mpr (Or.inl rfl) : 256 ∈ (∅ : AccountTree)))
  exact hroot

def exitConfig : Config :=
  { nLevels := 32, maxFeeTx := 64, maxTx := 4, maxL1Tx := 256, chainID := 1 }

def exitContract (h : Nat) : Hermez :=
  { Hermez.initializeHermez [⟨4, 32⟩] 0 with lastIdx := 256, stateRootMap := fun _ => h }

/-- A batch with one L2 exit of the account at 256. -/
def exitRun (h : Nat) : EStateM.Result Err TxProcessor ProcessTxOutput :=
  @TxProcessor.processTxs (constantHash h) [] [] [] [{ fromIdx := 256, toIdx := 1, amount := 3, type := some .exit }]
    (newTxProcessor (oneAccountState .batchBuilder) exitConfig)

def exitArgs (out : ProcessTxOutput) (zki : ZKInputs) : RollupForgeBatchArgs :=
  prepareForgeBatchArgs zki out.l1UserTxs out.l1CoordinatorTxs [] (out.l2Txs.map PoolL2Tx.l2Tx) [] 0 false
    { proofA := [], proofB := [], proofC := [] }

def exitForges (out : ProcessTxOutput) : Bool :=
  match out.zkInputs with
  | some zki => (rollupForgeBatch [⟨4, 32⟩] (exitArgs out zki)).isOk
  | none => false

theorem exitRun_forges {h : Nat} (hrun : succeedsWith (fun out _ => out.l1UserTxs = [] ∧ out.l1CoordinatorTxs = [] ∧
      out.l2Txs.length = 1 ∧ exitForges out = true) (exitRun h) = true) :
    ∃ out s' zki calldata bout r', exitRun h = .ok out s' ∧ out.zkInputs = some zki ∧
      @Rollup.batch (constantHash h) [] [] [] out.l2Txs (Rollup.start (oneAccountState .batchBuilder)) = some (bout, r') ∧
      bout.coordIdxs = [] ∧
      (out.l1UserTxs = [] ∧ out.l1CoordinatorTxs = [] ∧ out.l2Txs.length = 1) ∧
      @ReadyToForge (constantHash h) openWorld (exitContract h) (oneAccountState .batchBuilder) exitConfig (exitArgs out zki) ∧
      rollupForgeBatch [⟨4, 32⟩] (exitArgs out zki) = .ok calldata := by
  obtain ⟨out, s', hout, htest⟩ := exists_of_succeedsWith hrun
  obtain ⟨husers, hcoordinators, hl2, hforges⟩ := of_decide_eq_true htest
  obtain ⟨bout, r', hbatch, -⟩ := @TxProcessor.processTxs_ok s' (constantHash h) _ _ _ _ _ _ out hout
  obtain ⟨_, _, _, _, -, -, hfilter, -⟩ := (@Rollup.batch_some _ _ (constantHash h) _ _ _ _ _).mp hbatch
  rw [exitForges] at hforges
  split at hforges
  next zki hzki =>
    cases hforge : rollupForgeBatch [⟨4, 32⟩] (exitArgs out zki) with
    | error e =>
      rw [hforge] at hforges
      cases hforges
    | ok calldata =>
      have hqueue : (exitArgs out zki).l1UserTxs.mapM L1Tx.bytesGeneric = .ok [] := by
        show out.l1UserTxs.mapM L1Tx.bytesGeneric = .ok []
        rw [husers]
        rfl
      exact ⟨out, s', zki, calldata, bout, r', hout, hzki, hbatch, (Except.ok.inj hfilter).symm,
        ⟨husers, hcoordinators, hl2⟩, @ReadyToForge.mk (constantHash h) _ _ _ _ _ rfl rfl
          (root_constantHash h _).symm rfl rfl ⟨[], hqueue, rfl⟩, hforge⟩
  next => cases hforges

theorem exitRun_hashedAlike :
    ∃ out s' zki calldata b, exitRun (2 ^ 248) = .ok out s' ∧ out.zkInputs = some zki ∧
      rollupForgeBatch [⟨4, 32⟩] (exitArgs out zki) = .ok calldata ∧ zki.toHashGlobalData (bytesBE 32) = .ok b ∧
      @Hermez.circuitInputBytes (constantHash (2 ^ 248)) openWorld (exitContract (2 ^ 248)) calldata = .ok b := by
  obtain ⟨out, s', zki, calldata, bout, r', hout, hzki, hbatch, hcoordIdxs, ⟨husers, hcoordinators, hl2⟩, hready, hforge⟩ :=
    exitRun_forges (show succeedsWith _ (exitRun (2 ^ 248)) = true by decide +kernel)
  have hroot := root_constantHash (2 ^ 248) .batchBuilder
  have hnTx : (exitArgs out zki).nTx = 1 := by
    simp [RollupForgeBatchArgs.nTx, exitArgs, prepareForgeBatchArgs, husers, hcoordinators, hl2]
  have halike : @HashedAlike (constantHash (2 ^ 248)) openWorld (exitContract (2 ^ 248)) (oneAccountState .batchBuilder)
      exitConfig (exitArgs out zki) bout.coordIdxs := by
    refine @HashedAlike.mk (constantHash (2 ^ 248)) _ _ _ _ _ _ (Or.inr (Nat.le_of_eq hroot.symm)) ?_ ?_ ?_ ?_
    · rw [hnTx]
      rfl
    · show (out.l2Txs.map PoolL2Tx.l2Tx).length * _ ≤ _
      rw [List.length_map, hl2]
      decide
    · intro i _
      rw [hcoordIdxs]
      rfl
    · intro p hp
      simp [exitArgs, prepareForgeBatchArgs] at hp
  obtain ⟨b, hnode, hcontract⟩ := (@processTxs_hashedAlike (constantHash (2 ^ 248)) _ _ _ _ _ _ _ _ _ _ _ _ _ _ _ _ _ _ _ _
    (fun _ => rfl) rfl (by decide) rfl rfl (by rw [hroot]; decide) (by decide) hout hzki hbatch rfl hready hforge).mpr halike
  exact ⟨out, s', zki, calldata, b, hout, hzki, hforge, hnode, hcontract⟩

/-- On a root with a leading zero byte the node and the contract hash different bytes. -/
theorem exitRun_not_hashedAlike :
    ∃ out s' zki calldata, exitRun 1 = .ok out s' ∧ out.zkInputs = some zki ∧
      @ReadyToForge (constantHash 1) openWorld (exitContract 1) (oneAccountState .batchBuilder) exitConfig (exitArgs out zki) ∧
      rollupForgeBatch [⟨4, 32⟩] (exitArgs out zki) = .ok calldata ∧
      ¬∃ b, zki.toHashGlobalData (bytesBE 32) = .ok b ∧
        @Hermez.circuitInputBytes (constantHash 1) openWorld (exitContract 1) calldata = .ok b := by
  obtain ⟨out, s', zki, calldata, bout, r', hout, hzki, hbatch, -, -, hready, hforge⟩ :=
    exitRun_forges (show succeedsWith _ (exitRun 1) = true by decide +kernel)
  have hroot := root_constantHash 1 .batchBuilder
  refine ⟨out, s', zki, calldata, hout, hzki, hready, hforge, fun hsame => ?_⟩
  have hinputs : @InputsOf (constantHash 1) (oneAccountState .batchBuilder) exitConfig (exitArgs out zki) bout.coordIdxs zki :=
    @processTxs_inputsOf (constantHash 1) _ _ _ _ _ _ _ _ _ _ _ _ _ _ _ rfl (by decide) rfl rfl (by decide) hout hzki hbatch
  have halike := (@InputsOf.hashedAlike_iff (constantHash 1) _ _ _ _ _ _ _ _ _ hinputs hready hforge (fun _ => rfl)
    (by rw [hroot]; decide) (by decide)).mp hsame
  have hold := @HashedAlike.oldStateRoot (constantHash 1) _ _ _ _ _ _ halike
  rw [hroot] at hold
  revert hold
  decide

end HermezRollup
