import HermezRollup.BatchData
import HermezRollup.ContractSteps

/-! Zero padding of the published transactions.  The contract fills the data of a batch up with zeros
before hashing it, so it cannot tell two calls apart whose data differ in zeros at the end.  A node can:
it derives the number of L2 transactions from the length of the data, and a transaction of zeros has no
type.  This module says exactly when two such batches are decoded alike. -/

namespace HermezRollup

open Bytes Fallible

/-! ### The contract does not see the padding -/

theorem zeros_append_zeros (m n : Nat) : zeros m ++ zeros n = zeros (m + n) := by
  simp [zeros, List.replicate_append_replicate]

theorem Hermez.circuitInputBytes_padded [Libraries] {w : World} {s : Hermez} {args : ForgeBatchArgs} {n : Nat}
    {inputBytes : Bytes}
    (haccepted : circuitInputBytes w s { args with l1L2TxsData := args.l1L2TxsData ++ zeros n } = .ok inputBytes) :
    circuitInputBytes w s args = .ok inputBytes := by
  rw [circuitInputBytes] at haccepted ⊢
  cases hverifier : s.rollupVerifiers[args.verifierIdx.toNat]? with
  | none => simp [hverifier] at haccepted
  | some verifier =>
    simp only [hverifier] at haccepted ⊢
    obtain ⟨l1Data, hl1Data, haccepted⟩ := except_bind_ok.mp haccepted
    obtain ⟨_, hlength, haccepted⟩ := except_bind_ok.mp haccepted
    obtain ⟨_, hfees, haccepted⟩ := except_bind_ok.mp haccepted
    have hlength := of_decide_eq_true (require_ok.mp hlength)
    rw [List.length_append, length_zeros] at hlength
    have hpadding : zeros n ++ zeros ((verifier.nLevels / 8 * 2 + 5 + 1) * verifier.maxTx -
        (args.l1L2TxsData.length + n)) =
        zeros ((verifier.nLevels / 8 * 2 + 5 + 1) * verifier.maxTx - args.l1L2TxsData.length) := by
      rw [zeros_append_zeros]
      congr 1
      omega
    refine except_bind_ok.mpr ⟨l1Data, hl1Data, ?_⟩
    refine except_bind_ok.mpr ⟨(), require_ok.mpr (decide_eq_true (by omega)), ?_⟩
    refine except_bind_ok.mpr ⟨(), hfees, ?_⟩
    rw [← haccepted, List.length_append, length_zeros, ← hpadding]
    simp only [List.append_assoc]

/-- Two accepted calls whose data differ in zeros at the end have the same circuit input. -/
theorem Hermez.constructCircuitInput_padded [Libraries] {w : World} {s : Hermez} {args : ForgeBatchArgs} {n : Nat}
    {input : Nat}
    (haccepted : constructCircuitInput w s { args with l1L2TxsData := args.l1L2TxsData ++ zeros n } = .ok input) :
    constructCircuitInput w s args = .ok input := by
  obtain ⟨inputBytes, hbytes, hinput⟩ := except_bind_ok.mp haccepted
  exact except_bind_ok.mpr ⟨inputBytes, circuitInputBytes_padded hbytes, hinput⟩

theorem Hermez.nLevelsOf_of_accepted [Libraries] {w : World} {s : Hermez} {args : ForgeBatchArgs} {input : Nat}
    (haccepted : constructCircuitInput w s args = .ok input) :
    ∃ nLevels, nLevelsOf s.rollupVerifiers args.verifierIdx = .ok nLevels := by
  obtain ⟨inputBytes, hbytes, -⟩ := except_bind_ok.mp haccepted
  rw [circuitInputBytes] at hbytes
  cases hverifier : s.rollupVerifiers[args.verifierIdx.toNat]? with
  | none => simp [hverifier] at hbytes
  | some verifier => exact ⟨verifier.nLevels, by rw [nLevelsOf, hverifier]⟩

/-! ### What decoding depends on -/

variable {b : Bytes}

theorem float40BigInt_of_length (hb : b.length = 5) :
    float40BigInt (float40FromBytes b) = .ok (float40Value (natOfBytesBE b)) := by
  have hlt := natOfBytesBE_lt b
  rw [hb] at hlt
  exact float40BigInt_of_lt (by simpa [float40FromBytes] using hlt)

theorem sliceE_of_le {start stop : Nat} (hle : start ≤ stop) (hstop : stop ≤ b.length) :
    sliceE b start stop = .ok (slice b start stop) := by
  rw [sliceE, if_pos ⟨hle, hstop⟩]

theorem published_fields {nLevels : Nat} (hb : b.length = lenL1L2TxsBytes nLevels) :
    ∃ fromIdx toIdx amount fee : Bytes, fromIdx.length = nLevels / 8 ∧ toIdx.length = nLevels / 8 ∧ amount.length = 5 ∧
      sliceE b 0 (nLevels / 8) = .ok fromIdx ∧ sliceE b (nLevels / 8) (nLevels / 8 * 2) = .ok toIdx ∧
      sliceE b (nLevels / 8 * 2) (nLevels / 8 * 2 + 5) = .ok amount ∧
      sliceE b (nLevels / 8 * 2 + 5) (nLevels / 8 * 2 + 6) = .ok fee := by
  rw [lenL1L2TxsBytes] at hb
  refine ⟨_, _, _, _, ?_, ?_, ?_, sliceE_of_le (by omega) (by omega), sliceE_of_le (by omega) (by omega),
    sliceE_of_le (by omega) (by omega), sliceE_of_le (by omega) (by omega)⟩
  · rw [length_slice _ _ _ (by omega), Nat.sub_zero]
  · rw [length_slice _ _ _ (by omega)]
    omega
  · rw [length_slice _ _ _ (by omega)]
    omega

theorem length_paddedIdx {idxLen : Nat} (hb : b.length = idxLen) :
    (zeros (6 - idxLen) ++ b).length = if idxLen ≤ 6 then 6 else idxLen := by
  rw [List.length_append, length_zeros, hb]
  split <;> omega

theorem idxFromBytes_padded {idxLen : Nat} (hb : b.length = idxLen) (hle : idxLen ≤ 6) :
    idxFromBytes (zeros (6 - idxLen) ++ b) = .ok (natOfBytesBE b) := by
  rw [idxFromBytes, if_neg (by rw [length_paddedIdx hb, if_pos hle]; exact not_not.mpr rfl), natOfBytesBE_append,
    natOfBytesBE_zeros, Nat.zero_mul, Nat.zero_add]

theorem l1TxFromDataAvailability_ok {nLevels : Nat} (hb : b.length = lenL1L2TxsBytes nLevels)
    (hle : nLevels / 8 ≤ 6) : ∃ tx, l1TxFromDataAvailability b nLevels = .ok tx := by
  obtain ⟨_, _, _, _, hfromLen, htoLen, hamountLen, hfrom, hto, hamount, -⟩ := published_fields hb
  simp only [l1TxFromDataAvailability, hfrom, hto, hamount, except_ok_bind, idxFromBytes_padded hfromLen hle,
    idxFromBytes_padded htoLen hle, float40BigInt_of_length hamountLen, except_pure]
  exact ⟨_, rfl⟩

theorem l1TxFromDataAvailability_long {nLevels : Nat} (hb : b.length = lenL1L2TxsBytes nLevels)
    (hgt : 6 < nLevels / 8) : l1TxFromDataAvailability b nLevels = .error (.idxBytesLen (nLevels / 8)) := by
  obtain ⟨_, _, _, _, hfromLen, -, -, hfrom, hto, hamount, -⟩ := published_fields hb
  have hlength := length_paddedIdx hfromLen
  rw [if_neg (by omega)] at hlength
  simp only [l1TxFromDataAvailability, hfrom, hto, hamount, except_ok_bind, idxFromBytes, hlength]
  rw [if_pos (by omega), except_error_bind]

theorem l2TxFromBytesDataAvailability_ok {nLevels : Nat} (hb : b.length = lenL1L2TxsBytes nLevels)
    (hle : nLevels / 8 ≤ 6) : ∃ tx, l2TxFromBytesDataAvailability b nLevels = .ok tx := by
  obtain ⟨_, _, _, _, hfromLen, htoLen, hamountLen, hfrom, hto, hamount, hfee⟩ := published_fields hb
  simp only [l2TxFromBytesDataAvailability, hfrom, hto, hamount, hfee, except_ok_bind, idxFromPaddedBytes, if_pos hle,
    idxFromBytes_padded hfromLen hle, idxFromBytes_padded htoLen hle, float40BigInt_of_length hamountLen, except_pure]
  exact ⟨_, rfl⟩

theorem l2TxFromBytesDataAvailability_long {nLevels : Nat} (hb : b.length = lenL1L2TxsBytes nLevels)
    (hgt : 6 < nLevels / 8) : l2TxFromBytesDataAvailability b nLevels = .error .panic := by
  obtain ⟨_, _, _, _, -, -, -, hfrom, -⟩ := published_fields hb
  simp only [l2TxFromBytesDataAvailability, hfrom, except_ok_bind, idxFromPaddedBytes, if_neg (Nat.not_le.mpr hgt),
    except_error_bind]

/-! ### The stages of decoding -/

theorem lenL1L2TxsBytes_pos (nLevels : Nat) : 0 < lenL1L2TxsBytes nLevels := by
  rw [lenL1L2TxsBytes]
  omega

/-- Whether the data, with what lies behind it, is long enough for the L1 user transactions. -/
def CoversL1UserTxs (nLevels l1UserTxsLen : Nat) (data behind : Bytes) : Prop :=
  l1UserTxsLen = 0 ∨ l1UserTxsLen * lenL1L2TxsBytes nLevels ≤ (data ++ behind).length

variable {data : Bytes}

theorem decodeL1UserTxs_not_covered {nLevels l1UserTxsLen : Nat} {behind : Bytes}
    (h : ¬CoversL1UserTxs nLevels l1UserTxsLen data behind) :
    decodeL1UserTxs nLevels data behind l1UserTxsLen = .error .panic := by
  obtain ⟨hne, hlong⟩ := not_or.mp h
  rw [decodeL1UserTxs, if_pos (Nat.pos_of_ne_zero hne), reslice, if_neg hlong, except_error_bind]

theorem decodeL1UserTxs_ok {nLevels l1UserTxsLen : Nat} {behind : Bytes}
    (hcovers : CoversL1UserTxs nLevels l1UserTxsLen data behind) (hle : l1UserTxsLen = 0 ∨ nLevels / 8 ≤ 6) :
    ∃ txs, decodeL1UserTxs nLevels data behind l1UserTxsLen = .ok txs := by
  rw [decodeL1UserTxs]
  split
  next hpos =>
    rw [reslice, if_pos (hcovers.resolve_left (by omega)), except_ok_bind]
    refine mapM_total fun b hb => l1TxFromDataAvailability_ok (length_of_mem_chunks hb) (hle.resolve_left (by omega))
  next => exact ⟨[], rfl⟩

theorem decodeL1UserTxs_long {nLevels l1UserTxsLen : Nat} {behind : Bytes}
    (hcovers : CoversL1UserTxs nLevels l1UserTxsLen data behind) (hpos : 0 < l1UserTxsLen) (hgt : 6 < nLevels / 8) :
    decodeL1UserTxs nLevels data behind l1UserTxsLen = .error (.idxBytesLen (nLevels / 8)) := by
  have hcovers := hcovers.resolve_left (by omega)
  rw [decodeL1UserTxs, if_pos hpos, reslice, if_pos hcovers, except_ok_bind]
  have hcount : (chunks (lenL1L2TxsBytes nLevels) ((data ++ behind).take (l1UserTxsLen * lenL1L2TxsBytes nLevels))).length
      = l1UserTxsLen := by
    rw [length_chunks, List.length_take, Nat.min_eq_left hcovers, Nat.mul_div_cancel _ (lenL1L2TxsBytes_pos nLevels)]
  cases hchunks : chunks (lenL1L2TxsBytes nLevels) ((data ++ behind).take (l1UserTxsLen * lenL1L2TxsBytes nLevels)) with
  | nil =>
    rw [hchunks, List.length_nil] at hcount
    omega
  | cons first rest =>
    have hfirst : first.length = lenL1L2TxsBytes nLevels := length_of_mem_chunks (hchunks ▸ List.mem_cons_self)
    rw [List.mapM_cons, l1TxFromDataAvailability_long hfirst hgt, except_error_bind]

theorem decodeL2Txs_ok {nLevels : Nat} (hle : nLevels / 8 ≤ 6) (data : Bytes) (l1Txs : Nat) :
    ∃ txs, decodeL2Txs nLevels data l1Txs = .ok txs :=
  mapM_total fun _ hb => l2TxFromBytesDataAvailability_ok (length_of_mem_chunks hb) hle

theorem decodeL2Txs_long {nLevels l1Txs : Nat} (hsome : l2TxsChunks nLevels data l1Txs ≠ [])
    (hgt : 6 < nLevels / 8) : decodeL2Txs nLevels data l1Txs = .error .panic := by
  rw [decodeL2Txs]
  cases hchunks : l2TxsChunks nLevels data l1Txs with
  | nil => exact absurd hchunks hsome
  | cons first rest =>
    have hfirst : first.length = lenL1L2TxsBytes nLevels := length_of_mem_chunks (hchunks ▸ List.mem_cons_self)
    rw [List.mapM_cons, l2TxFromBytesDataAvailability_long hfirst hgt, except_error_bind]

theorem decodeL1CoordinatorTxs_no_panic [Libraries] (chainID : Nat) (address : Address) (encoded : Bytes) :
    decodeL1CoordinatorTxs chainID address encoded ≠ .error .panic := by
  intro hpanic
  obtain ⟨b, hb, hfail⟩ := mapM_error hpanic
  have hlength := length_of_mem_chunks hb
  have htoken : (slice b 97 101).length = 4 := by
    rw [length_slice _ _ _ (by rw [hlength]; decide)]
  rw [l1CoordinatorTxFromBytes, if_neg (not_not.mpr hlength), tokenIDFromBytes, if_neg (not_not.mpr htoken),
    except_ok_bind] at hfail
  dsimp only at hfail
  split at hfail
  · split at hfail <;> cases hfail
  · cases hfail

theorem decodeFeeIdxs_ok {nLevels : Nat} (h : nLevels / 8 ≠ 0) (feeIdxCoordinator : Bytes) :
    ∃ feeIdxs, decodeFeeIdxs nLevels feeIdxCoordinator = .ok feeIdxs := by
  have htotal : ∃ feeIdxs, (chunks (nLevels / 8) feeIdxCoordinator).mapM feeIdxFromBytes = .ok feeIdxs := by
    refine mapM_total fun b _ => ⟨natOfBytesBE (zeros (6 - b.length) ++ b.take 6), ?_⟩
    rw [feeIdxFromBytes, idxFromBytes, if_neg]
    rw [not_not, List.length_append, length_zeros, List.length_take]
    omega
  obtain ⟨feeIdxs, hfeeIdxs⟩ := htotal
  rw [decodeFeeIdxs, if_neg h, hfeeIdxs, except_ok_bind]
  exact ⟨_, rfl⟩

theorem setType_no_panic {tx : L2Tx} : tx.setType ≠ .error .panic := by
  rw [L2Tx.setType]
  split_ifs <;> simp

theorem toIdx_ne_zero_of_setType {tx typed : L2Tx} (h : tx.setType = .ok typed) : typed.toIdx ≠ 0 := by
  rw [L2Tx.setType] at h
  split_ifs at h with hexit huser
  · cases h
    simp [hexit]
  · cases h
    have : userThreshold = 256 := rfl
    simp only
    omega

/-! ### Batches decoded alike -/

/-- An L2 transaction of zeros does nothing. -/
def L2Tx.isNoop (tx : L2Tx) : Bool :=
  tx.fromIdx = 0 ∧ tx.toIdx = 0 ∧ tx.amount = 0 ∧ tx.fee = 0

/-- Neither decoding indexes a slice out of range; both fail, or both succeed with the same L1
coordinator transactions, fee indexes and L2 transactions other than those that do nothing. -/
def DecodedAlike (batch₁ batch₂ : Except Err RollupForgeBatchArgs) : Prop :=
  batch₁ ≠ .error .panic ∧ batch₂ ≠ .error .panic ∧
    ((∃ e₁ e₂, batch₁ = .error e₁ ∧ batch₂ = .error e₂) ∨
      ∃ args₁ args₂, batch₁ = .ok args₁ ∧ batch₂ = .ok args₂ ∧
        args₁.l1CoordinatorTxs = args₂.l1CoordinatorTxs ∧ args₁.feeIdxCoordinator = args₂.feeIdxCoordinator ∧
        args₁.l2TxsData.filter (!·.isNoop) = args₂.l2TxsData.filter (!·.isNoop))

theorem DecodedAlike.symm {batch₁ batch₂ : Except Err RollupForgeBatchArgs} (h : DecodedAlike batch₁ batch₂) :
    DecodedAlike batch₂ batch₁ := by
  obtain ⟨h₁, h₂, ⟨e₁, e₂, he₁, he₂⟩ | ⟨args₁, args₂, hok₁, hok₂, hcoord, hfees, hl2⟩⟩ := h
  · exact ⟨h₂, h₁, .inl ⟨e₂, e₁, he₂, he₁⟩⟩
  · exact ⟨h₂, h₁, .inr ⟨args₂, args₁, hok₂, hok₁, hcoord.symm, hfees.symm, hl2.symm⟩⟩

theorem decodedAlike_comm {batch₁ batch₂ : Except Err RollupForgeBatchArgs} :
    DecodedAlike batch₁ batch₂ ↔ DecodedAlike batch₂ batch₁ :=
  ⟨DecodedAlike.symm, DecodedAlike.symm⟩

/-- Whether some whole L2 transaction of the data has a receiver index that gives it no type. -/
def HasUntyped (nLevels l1Txs : Nat) (data : Bytes) : Prop :=
  ∃ b ∈ l2TxsChunks nLevels data l1Txs, ∃ tx, l2TxFromBytesDataAvailability b nLevels = .ok tx ∧
    tx.toIdx ≠ 1 ∧ tx.toIdx < userThreshold

/-- When the padding makes no difference.  The L1 user transactions must be covered by either data.
Indexes of more than six bytes fail on any L1 user transaction and panic on any L2 transaction; indexes
of no bytes panic on the fee indexes unless an authorization fails before.  What remains is the rule:
both data hold equally many whole L2 transactions, or both hold one without a type. -/
def PaddingHarmless (nLevels l1UserTxsLen l1Txs : Nat) (coordinatorTxsFail : Prop) (data₁ behind₁ data₂ behind₂ : Bytes) :
    Prop :=
  CoversL1UserTxs nLevels l1UserTxsLen data₁ behind₁ ∧ CoversL1UserTxs nLevels l1UserTxsLen data₂ behind₂ ∧
    (0 < l1UserTxsLen ∧ 6 < nLevels / 8 ∨
      (l2TxsChunks nLevels data₁ l1Txs = [] ∧ l2TxsChunks nLevels data₂ l1Txs = [] ∨ nLevels / 8 ≤ 6) ∧
        (coordinatorTxsFail ∨ nLevels / 8 ≠ 0 ∧
          ((l2TxsChunks nLevels data₁ l1Txs).length = (l2TxsChunks nLevels data₂ l1Txs).length ∨
            HasUntyped nLevels l1Txs data₁ ∧ HasUntyped nLevels l1Txs data₂)))

theorem paddingHarmless_comm {nLevels l1UserTxsLen l1Txs : Nat} {coordinatorTxsFail : Prop}
    {data₁ behind₁ data₂ behind₂ : Bytes} :
    PaddingHarmless nLevels l1UserTxsLen l1Txs coordinatorTxsFail data₁ behind₁ data₂ behind₂ ↔
      PaddingHarmless nLevels l1UserTxsLen l1Txs coordinatorTxsFail data₂ behind₂ data₁ behind₁ := by
  rw [PaddingHarmless, PaddingHarmless]
  rw [eq_comm (a := (l2TxsChunks nLevels data₂ l1Txs).length)]
  tauto

theorem l2TxsChunks_append (nLevels l1Txs : Nat) (data more : Bytes) :
    ∃ extra, l2TxsChunks nLevels (data ++ more) l1Txs = l2TxsChunks nLevels data l1Txs ++ extra := by
  rcases Nat.le_total (l1Txs * lenL1L2TxsBytes nLevels) data.length with hle | hle
  · refine ⟨(l2TxsChunks nLevels (data ++ more) l1Txs).drop (l2TxsChunks nLevels data l1Txs).length, ?_⟩
    have hfirst : (l2TxsChunks nLevels (data ++ more) l1Txs).take (l2TxsChunks nLevels data l1Txs).length =
        l2TxsChunks nLevels data l1Txs := by
      rw [l2TxsChunks, l2TxsChunks, length_chunks, List.drop_append_of_le_length hle, chunks_prefix]
    conv_lhs => rw [← List.take_append_drop (l2TxsChunks nLevels data l1Txs).length
      (l2TxsChunks nLevels (data ++ more) l1Txs), hfirst]
  · refine ⟨l2TxsChunks nLevels (data ++ more) l1Txs, ?_⟩
    have hnone : l2TxsChunks nLevels data l1Txs = [] := by
      rw [l2TxsChunks, List.drop_eq_nil_of_le hle, chunks_nil]
    rw [hnone, List.nil_append]

theorem setType_fails_iff {tx : L2Tx} : (∃ e, tx.setType = .error e) ↔ tx.toIdx ≠ 1 ∧ tx.toIdx < userThreshold := by
  rw [L2Tx.setType]
  split_ifs with hexit huser
  · simp [hexit]
  · simp [huser]
  · simp [hexit, Nat.lt_of_not_le huser]

theorem setTypes_fails_iff {nLevels l1Txs : Nat} {l2Txs : List L2Tx}
    (hdecoded : decodeL2Txs nLevels data l1Txs = .ok l2Txs) :
    (∃ e, l2Txs.mapM L2Tx.setType = .error e) ↔ HasUntyped nLevels l1Txs data := by
  have hall := mapM_ok.mp hdecoded
  constructor
  · rintro ⟨e, herror⟩
    obtain ⟨tx, htx, hfail⟩ := mapM_error herror
    obtain ⟨b, hb, hdecode⟩ := forall₂_of_mem_right hall htx
    exact ⟨b, hb, tx, hdecode, setType_fails_iff.mp ⟨e, hfail⟩⟩
  · rintro ⟨b, hb, tx, hdecode, huntyped⟩
    obtain ⟨tx', htx', hdecode'⟩ := forall₂_of_mem_left hall hb
    cases hdecode.symm.trans hdecode'
    cases htypes : l2Txs.mapM L2Tx.setType with
    | error e => exact ⟨e, rfl⟩
    | ok typed =>
      obtain ⟨_, -, hok⟩ := forall₂_of_mem_left (mapM_ok.mp htypes) htx'
      obtain ⟨e, herror⟩ := setType_fails_iff.mpr huntyped
      cases hok.symm.trans herror

theorem HasUntyped.append {nLevels l1Txs : Nat} (h : HasUntyped nLevels l1Txs data) (more : Bytes) :
    HasUntyped nLevels l1Txs (data ++ more) := by
  obtain ⟨extra, hchunks⟩ := l2TxsChunks_append nLevels l1Txs data more
  obtain ⟨b, hb, huntyped⟩ := h
  exact ⟨b, hchunks ▸ List.mem_append_left _ hb, huntyped⟩

theorem decodeL2Txs_append {nLevels l1Txs : Nat} {more : Bytes} {l2Txs l2Txs' : List L2Tx}
    (h : decodeL2Txs nLevels data l1Txs = .ok l2Txs) (h' : decodeL2Txs nLevels (data ++ more) l1Txs = .ok l2Txs') :
    ∃ extra, l2Txs' = l2Txs ++ extra ∧
      (l2TxsChunks nLevels (data ++ more) l1Txs).length = (l2TxsChunks nLevels data l1Txs).length + extra.length := by
  obtain ⟨extraChunks, hchunks⟩ := l2TxsChunks_append nLevels l1Txs data more
  rw [decodeL2Txs] at h h'
  rw [hchunks, List.mapM_append, h, except_ok_bind] at h'
  obtain ⟨extra, hextra, heq⟩ := except_bind_ok.mp h'
  cases heq
  refine ⟨extra, rfl, ?_⟩
  rw [hchunks, List.length_append, (mapM_ok.mp hextra).length_eq]

section Decode

variable [Libraries] (chainID : Nat) (address : Address)

def finishDecoding (nLevels : Nat) (aux : Hermez.ForgeBatchArgs) (l1UserTxs : List L1Tx) (l2Txs : List L2Tx) :
    Except Err RollupForgeBatchArgs := do
  let l1CoordinatorTxs ← decodeL1CoordinatorTxs chainID address aux.encodedL1CoordinatorTx
  let feeIdxCoordinator ← decodeFeeIdxs nLevels aux.feeIdxCoordinator
  let l2TxsData ← l2Txs.mapM L2Tx.setType
  return { newLastIdx := aux.newLastIdx, newStRoot := aux.newStRoot, newExitRoot := aux.newExitRoot, l1UserTxs
           l1CoordinatorTxs := l1CoordinatorTxs.map Prod.fst, l1CoordinatorTxsAuths := l1CoordinatorTxs.map Prod.snd
           l2TxsData, feeIdxCoordinator, verifierIdx := aux.verifierIdx, l1Batch := aux.l1Batch, proof := aux.proof }

variable {chainID : Nat} {address : Address} {verifiers : List VerifierRollup} {aux : Hermez.ForgeBatchArgs}
  {behind : Bytes} {l1UserTxsLen nLevels : Nat} {l1UserTxs l1UserTxs' : List L1Tx} {l2Txs extra : List L2Tx}

theorem decodeForgedBatch_eq (hlevels : nLevelsOf verifiers aux.verifierIdx = .ok nLevels) :
    decodeForgedBatch verifiers chainID address aux behind l1UserTxsLen = (do
      let l1UserTxs ← decodeL1UserTxs nLevels aux.l1L2TxsData behind l1UserTxsLen
      let l2Txs ← decodeL2Txs nLevels aux.l1L2TxsData (numTxsL1Coord aux.encodedL1CoordinatorTx + l1UserTxsLen)
      finishDecoding chainID address nLevels aux l1UserTxs l2Txs) := by
  rw [decodeForgedBatch, rollupForgeBatchArgs, hlevels]
  simp only [finishDecoding, except_ok_bind, bind_assoc, except_pure]

omit [Libraries] in
theorem filter_noop_of_setTypes {typed : List L2Tx} (h : l2Txs.mapM L2Tx.setType = .ok typed) :
    typed.filter (!·.isNoop) = typed := by
  rw [List.filter_eq_self]
  intro tx htx
  obtain ⟨_, -, hset⟩ := forall₂_of_mem_right (mapM_ok.mp h) htx
  simp [L2Tx.isNoop, toIdx_ne_zero_of_setType hset]

theorem finishDecoding_alike_iff (data : Bytes) (l2Txs extra : List L2Tx) :
    DecodedAlike (finishDecoding chainID address nLevels aux l1UserTxs l2Txs)
        (finishDecoding chainID address nLevels { aux with l1L2TxsData := data } l1UserTxs' (l2Txs ++ extra)) ↔
      (∃ e, decodeL1CoordinatorTxs chainID address aux.encodedL1CoordinatorTx = .error e) ∨
        nLevels / 8 ≠ 0 ∧ (extra = [] ∨ ∃ e, l2Txs.mapM L2Tx.setType = .error e) := by
  rw [finishDecoding, finishDecoding]
  dsimp only
  have hpanic := decodeL1CoordinatorTxs_no_panic chainID address aux.encodedL1CoordinatorTx
  cases hcoord : decodeL1CoordinatorTxs chainID address aux.encodedL1CoordinatorTx with
  | error e =>
    have hne : e ≠ .panic := by
      rintro rfl
      exact hpanic hcoord
    simp [DecodedAlike, hne]
  | ok l1CoordinatorTxs =>
    simp only [except_ok_bind, reduceCtorEq, exists_false, false_or]
    by_cases hlevels : nLevels / 8 = 0
    · rw [decodeFeeIdxs, if_pos hlevels]
      exact ⟨fun h => absurd rfl h.1, fun h => absurd hlevels h.1⟩
    obtain ⟨feeIdxs, hfeeIdxs⟩ := decodeFeeIdxs_ok hlevels aux.feeIdxCoordinator
    rw [hfeeIdxs, except_ok_bind, except_ok_bind, List.mapM_append]
    simp only [hlevels, ne_eq, not_false_eq_true, true_and]
    cases htypes : l2Txs.mapM L2Tx.setType with
    | error e =>
      have hne : e ≠ .panic := by
        rintro rfl
        obtain ⟨_, -, hfail⟩ := mapM_error htypes
        exact setType_no_panic hfail
      simp [DecodedAlike, hne]
    | ok typed =>
      simp only [except_ok_bind, reduceCtorEq, exists_false, or_false]
      constructor
      · intro halike
        cases hextra : extra.mapM L2Tx.setType with
        | error e =>
          rw [hextra] at halike
          obtain ⟨-, -, ⟨_, _, hfail, -⟩ | ⟨_, _, -, hok, -⟩⟩ := halike
          · cases hfail
          · cases hok
        | ok typedExtra =>
          rw [hextra] at halike
          obtain ⟨-, -, ⟨_, _, hfail, -⟩ | ⟨args, args', hok, hok', -, -, hl2⟩⟩ := halike
          · cases hfail
          · -- no typed transaction is all zeros, so an extra one shows
            cases hok
            cases hok'
            have hlength := congrArg List.length hl2
            rw [List.filter_append, filter_noop_of_setTypes htypes, filter_noop_of_setTypes hextra,
              List.length_append, ← (mapM_ok.mp hextra).length_eq] at hlength
            exact List.eq_nil_of_length_eq_zero (by omega)
      · rintro rfl
        refine ⟨by simp, by simp [List.mapM_nil], .inr ⟨_, _, rfl, rfl, rfl, rfl, ?_⟩⟩
        simp

/-- Data and the same data with more bytes behind it: exactly when they are decoded alike. -/
theorem decodedAlike_append_iff (hlevels : nLevelsOf verifiers aux.verifierIdx = .ok nLevels) (more behind' : Bytes) :
    DecodedAlike (decodeForgedBatch verifiers chainID address aux behind l1UserTxsLen)
        (decodeForgedBatch verifiers chainID address { aux with l1L2TxsData := aux.l1L2TxsData ++ more } behind'
          l1UserTxsLen) ↔
      PaddingHarmless nLevels l1UserTxsLen (numTxsL1Coord aux.encodedL1CoordinatorTx + l1UserTxsLen)
        (∃ e, decodeL1CoordinatorTxs chainID address aux.encodedL1CoordinatorTx = .error e) aux.l1L2TxsData behind
        (aux.l1L2TxsData ++ more) behind' := by
  have hpadded : nLevelsOf verifiers { aux with l1L2TxsData := aux.l1L2TxsData ++ more }.verifierIdx = .ok nLevels :=
    hlevels
  rw [decodeForgedBatch_eq hlevels, decodeForgedBatch_eq hpadded]
  dsimp only
  generalize numTxsL1Coord aux.encodedL1CoordinatorTx + l1UserTxsLen = l1Txs
  by_cases hcovers : CoversL1UserTxs nLevels l1UserTxsLen aux.l1L2TxsData behind
  swap
  · rw [decodeL1UserTxs_not_covered hcovers]
    exact ⟨fun h => absurd rfl h.1, fun h => absurd h.1 hcovers⟩
  by_cases hcovers' : CoversL1UserTxs nLevels l1UserTxsLen (aux.l1L2TxsData ++ more) behind'
  swap
  · rw [decodeL1UserTxs_not_covered hcovers']
    exact ⟨fun h => absurd rfl h.2.1, fun h => absurd h.2.1 hcovers'⟩
  by_cases husers : 0 < l1UserTxsLen ∧ 6 < nLevels / 8
  · rw [decodeL1UserTxs_long hcovers husers.1 husers.2, decodeL1UserTxs_long hcovers' husers.1 husers.2]
    exact ⟨fun _ => ⟨hcovers, hcovers', .inl husers⟩, fun _ => ⟨by simp, by simp, .inl ⟨_, _, rfl, rfl⟩⟩⟩
  have husersLe : l1UserTxsLen = 0 ∨ nLevels / 8 ≤ 6 := by omega
  obtain ⟨l1UserTxs, hl1UserTxs⟩ := decodeL1UserTxs_ok hcovers husersLe
  obtain ⟨l1UserTxs', hl1UserTxs'⟩ := decodeL1UserTxs_ok hcovers' husersLe
  rw [hl1UserTxs, hl1UserTxs', except_ok_bind, except_ok_bind, PaddingHarmless]
  simp only [hcovers, hcovers', husers, true_and, false_or]
  by_cases hle : nLevels / 8 ≤ 6
  · -- every transaction is decoded
    obtain ⟨l2Txs, hl2Txs⟩ := decodeL2Txs_ok hle aux.l1L2TxsData l1Txs
    obtain ⟨l2Txs', hl2Txs'⟩ := decodeL2Txs_ok hle (aux.l1L2TxsData ++ more) l1Txs
    obtain ⟨extra, rfl, hcount⟩ := decodeL2Txs_append hl2Txs hl2Txs'
    have hextra : extra = [] ↔ (l2TxsChunks nLevels aux.l1L2TxsData l1Txs).length =
        (l2TxsChunks nLevels (aux.l1L2TxsData ++ more) l1Txs).length := by
      rw [hcount, ← List.length_eq_zero_iff]
      omega
    have huntyped : HasUntyped nLevels l1Txs aux.l1L2TxsData ∧ HasUntyped nLevels l1Txs (aux.l1L2TxsData ++ more) ↔
        HasUntyped nLevels l1Txs aux.l1L2TxsData :=
      ⟨And.left, fun h => ⟨h, h.append more⟩⟩
    rw [hl2Txs, hl2Txs', except_ok_bind, except_ok_bind, finishDecoding_alike_iff, setTypes_fails_iff hl2Txs,
      hextra, huntyped]
    simp only [hle, or_true, true_and]
  · -- any L2 transaction panics
    have hgt : 6 < nLevels / 8 := by omega
    by_cases hnone : l2TxsChunks nLevels aux.l1L2TxsData l1Txs = []
    · by_cases hnone' : l2TxsChunks nLevels (aux.l1L2TxsData ++ more) l1Txs = []
      · rw [decodeL2Txs, decodeL2Txs, hnone, hnone', List.mapM_nil, except_pure, except_ok_bind, except_ok_bind]
        exact (finishDecoding_alike_iff _ [] []).trans (by simp)
      · rw [decodeL2Txs_long hnone' hgt]
        exact ⟨fun h => absurd rfl h.2.1, fun h => by simp [hnone', hle] at h⟩
    · rw [decodeL2Txs_long hnone hgt]
      exact ⟨fun h => absurd rfl h.1, fun h => by simp [hnone, hle] at h⟩

/-- Two calls that differ in zeros at the end of their transaction data only. -/
def DifferInPadding (args args' : Hermez.ForgeBatchArgs) : Prop :=
  ∃ n, args' = { args with l1L2TxsData := args.l1L2TxsData ++ zeros n } ∨
    args = { args' with l1L2TxsData := args'.l1L2TxsData ++ zeros n }

/-- Whether the padding of two calls makes no difference, the levels being those of their verifier. -/
def PaddedAlike (chainID : Nat) (address : Address) (nLevels l1UserTxsLen : Nat) (args args' : Hermez.ForgeBatchArgs)
    (behind behind' : Bytes) : Prop :=
  PaddingHarmless nLevels l1UserTxsLen (numTxsL1Coord args.encodedL1CoordinatorTx + l1UserTxsLen)
    (∃ e, decodeL1CoordinatorTxs chainID address args.encodedL1CoordinatorTx = .error e)
    args.l1L2TxsData behind args'.l1L2TxsData behind'

/-- **Batches the contract cannot tell apart**: two accepted calls that differ in zeros at the end of
their transaction data have one circuit input, and a node decodes them alike exactly when the padding
is harmless. -/
theorem padded_batches_decoded_alike_iff {w : World} {s : Hermez} {args args' : Hermez.ForgeBatchArgs} {input input' : Nat}
    (hdiffer : DifferInPadding args args') (haccepted : s.constructCircuitInput w args = .ok input)
    (haccepted' : s.constructCircuitInput w args' = .ok input') (l1UserTxsLen : Nat) (behind behind' : Bytes) :
    input = input' ∧ ∃ nLevels, nLevelsOf s.rollupVerifiers args.verifierIdx = .ok nLevels ∧
      (DecodedAlike (decodeForgedBatch s.rollupVerifiers w.chainID w.thisAddress args behind l1UserTxsLen)
          (decodeForgedBatch s.rollupVerifiers w.chainID w.thisAddress args' behind' l1UserTxsLen) ↔
        PaddedAlike w.chainID w.thisAddress nLevels l1UserTxsLen args args' behind behind') := by
  obtain ⟨nLevels, hlevels⟩ := Hermez.nLevelsOf_of_accepted haccepted
  obtain ⟨n, rfl | rfl⟩ := hdiffer
  · refine ⟨?_, nLevels, hlevels, decodedAlike_append_iff hlevels (zeros n) behind'⟩
    have hsame := Hermez.constructCircuitInput_padded haccepted'
    exact Except.ok.inj (haccepted.symm.trans hsame)
  · refine ⟨?_, nLevels, hlevels, ?_⟩
    · have hsame := Hermez.constructCircuitInput_padded haccepted
      exact Except.ok.inj (hsame.symm.trans haccepted')
    · rw [decodedAlike_comm, PaddedAlike, paddingHarmless_comm]
      have hlevels' : nLevelsOf s.rollupVerifiers args'.verifierIdx = .ok nLevels := hlevels
      exact decodedAlike_append_iff hlevels' (zeros n) behind

end Decode

/-- The padding of an empty batch for one transaction of eight levels: a byte is dropped, eight are read
as a transaction. -/
def paddedEmptyArgs (n : Nat) : Hermez.ForgeBatchArgs :=
  { forgeEmptyArgs with l1L2TxsData := zeros n }

theorem paddedEmptyArgs_accepted {n : Nat} (hn : n ≤ 8) :
    ∃ input, @Hermez.constructCircuitInput plainLibraries openWorld (Hermez.initializeHermez [⟨1, 8⟩] 0)
      (paddedEmptyArgs n) = .ok input := by
  let := plainLibraries
  have hbytes : ∃ bytes, Hermez.circuitInputBytes openWorld (Hermez.initializeHermez [⟨1, 8⟩] 0) (paddedEmptyArgs n) =
      .ok bytes := by
    simp [Hermez.circuitInputBytes, paddedEmptyArgs, forgeEmptyArgs, Hermez.initializeHermez, Hermez.buildL1Data,
      Hermez.buildL1CoordinatorTxs, require, maxL1Tx, hn]
  obtain ⟨bytes, hbytes⟩ := hbytes
  exact ⟨_, by rw [Hermez.constructCircuitInput, hbytes, except_ok_bind, except_pure]⟩

theorem padded_oneByte_decoded_alike :
    DecodedAlike (@decodeForgedBatch plainLibraries [⟨1, 8⟩] 1 1 (paddedEmptyArgs 0) [] 0)
      (@decodeForgedBatch plainLibraries [⟨1, 8⟩] 1 1 (paddedEmptyArgs 1) [] 0) := by
  let := plainLibraries
  have hpadded : PaddedAlike 1 1 8 0 (paddedEmptyArgs 0) (paddedEmptyArgs 1) [] [] :=
    ⟨.inl rfl, .inl rfl, .inr ⟨.inl ⟨rfl, rfl⟩, .inr ⟨by decide, .inl rfl⟩⟩⟩
  have hdiffer : DifferInPadding (paddedEmptyArgs 0) (paddedEmptyArgs 1) := ⟨1, .inl rfl⟩
  obtain ⟨input, hinput⟩ := paddedEmptyArgs_accepted (n := 0) (by decide)
  obtain ⟨input', hinput'⟩ := paddedEmptyArgs_accepted (n := 1) (by decide)
  obtain ⟨-, nLevels, hlevels, halike⟩ := padded_batches_decoded_alike_iff hdiffer hinput hinput' 0 [] []
  cases hlevels
  exact halike.mpr hpadded

/-- **Zeros that are read as a transaction**: an empty batch and the same with eight zeros have one
circuit input; the first is decoded, the second fails on the type of the transaction it seems to hold. -/
theorem padded_emptyBatch_not_decoded_alike :
    (∃ input, ∀ n ∈ [0, 8], @Hermez.constructCircuitInput plainLibraries openWorld
        (Hermez.initializeHermez [⟨1, 8⟩] 0) (paddedEmptyArgs n) = .ok input) ∧
      (@decodeForgedBatch plainLibraries [⟨1, 8⟩] 1 1 (paddedEmptyArgs 0) [] 0).isOk ∧
      @decodeForgedBatch plainLibraries [⟨1, 8⟩] 1 1 (paddedEmptyArgs 8) [] 0 = .error (.l2TxInvalidToIdx 0) := by
  let := plainLibraries
  refine ⟨?_, rfl, rfl⟩
  obtain ⟨input, hpadded⟩ := paddedEmptyArgs_accepted (n := 8) (by decide)
  have hempty := @Hermez.constructCircuitInput_padded _ openWorld _ (paddedEmptyArgs 0) 8 input hpadded
  refine ⟨input, fun n hn => ?_⟩
  rcases List.mem_pair.mp hn with rfl | rfl
  · exact hempty
  · exact hpadded

end HermezRollup
