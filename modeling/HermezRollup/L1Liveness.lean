import HermezRollup.Balances
import HermezRollup.EffectiveAmounts
import HermezRollup.QueuedL1Tx
import HermezRollup.Refinement

/-! No L1 transaction of a user stops the processor, with two exceptions when it opens an account: the
contract takes any 256 bits as a Baby Jubjub key, but the leaf of an account needs a coordinate below the
field modulus, and there must be a free index.  Everything else a user can send, the effective amounts
make payable. -/

namespace HermezRollup

open Bytes Fallible Simulation

/-- An L1 transaction made from the arguments of a call that the contract admits, with the type that the
node gives it. -/
structure AdmittedL1Tx (h : Hermez) (args : L1UserTxArgs) (tx : L1Tx) : Prop where
  checked : h.checkL1Transaction args = .ok ()
  load_lt : float2Fix args.loadAmountF < limitLoadAmount
  userOrigin : tx.userOrigin = true
  fromEthAddr : tx.fromEthAddr = args.ethAddress
  fromBJJ : tx.fromBJJ = args.babyPubKey
  fromIdx : tx.fromIdx = args.fromIdx.toNat
  toIdx : tx.toIdx = args.toIdx.toNat
  tokenID : tx.tokenID = args.tokenID
  depositAmount : tx.depositAmount = (float2Fix args.loadAmountF : Int)
  amount : tx.amount = (float2Fix args.amountF : Int)
  typed : tx.setType = .ok tx

/-- What the accounts hold, and what has left them in this batch. -/
def TxProcessor.totalBalance (s : TxProcessor) : Int :=
  s.state.accounts.totalBalance + AccountTree.totalBalance (s.exitTree.getD ∅)

/-- A processor that follows the contract: an account at every index up to the last one. -/
structure Follows (h : Hermez) (s : TxProcessor) : Prop where
  lastIdx : h.lastIdx.toNat = s.state.currentIdx
  accounts : ∀ idx, userThreshold ≤ idx → idx ≤ s.state.currentIdx → idx ∈ s.state.accounts
  slot : ∀ zki, s.zki = some zki → s.txIndex < zki.txCompressedData.length

/-- There is room for a new account with a key. -/
def CanOpen (s : TxProcessor) (key : PublicKeyComp) : Prop :=
  (PublicKeyComp.unpackSignY key).2 < rollupConstRfield ∧ s.state.currentIdx + 1 < 2 ^ 48 ∧
    s.state.currentIdx + 1 ∉ s.state.accounts

section Admitted

variable {h : Hermez} {args : L1UserTxArgs} {tx : L1Tx} {s : TxProcessor}

theorem AdmittedL1Tx.amount_nonneg (hadmitted : AdmittedL1Tx h args tx) : 0 ≤ tx.amount :=
  hadmitted.amount ▸ Int.natCast_nonneg _

theorem AdmittedL1Tx.depositAmount_nonneg (hadmitted : AdmittedL1Tx h args tx) : 0 ≤ tx.depositAmount :=
  hadmitted.depositAmount ▸ Int.natCast_nonneg _

theorem lookup_of_admitted (hfollows : Follows h s) {idx : BitVec 48} (huser : userThreshold ≤ idx.toNat)
    (hle : idx ≤ h.lastIdx) : idx.toNat ≤ maxIdxValue ∧ ∃ a, s.state.accounts.lookup idx.toNat = some a := by
  have hlt := idx.isLt
  have hle' : idx.toNat ≤ s.state.currentIdx := hfollows.lastIdx ▸ BitVec.le_def.mp hle
  exact ⟨by unfold maxIdxValue; omega, Finmap.mem_iff.mp (hfollows.accounts _ huser hle')⟩

theorem AdmittedL1Tx.sender (hadmitted : AdmittedL1Tx h args tx) (hfollows : Follows h s)
    (huser : userThreshold ≤ tx.fromIdx) :
    tx.fromIdx ≤ maxIdxValue ∧ ∃ a, s.state.accounts.lookup tx.fromIdx = some a := by
  have haccepted := Hermez.checkL1Transaction_ok.mp hadmitted.checked
  rw [hadmitted.fromIdx] at huser ⊢
  obtain hzero | ⟨-, hle⟩ := haccepted.fromIdx
  · rw [(idx_eq_zero _).mp hzero] at huser
    cases huser
  · exact lookup_of_admitted hfollows huser hle

theorem AdmittedL1Tx.receiver (hadmitted : AdmittedL1Tx h args tx) (hfollows : Follows h s)
    (huser : userThreshold ≤ tx.toIdx) :
    tx.toIdx ≤ maxIdxValue ∧ ∃ a, s.state.accounts.lookup tx.toIdx = some a := by
  have haccepted := Hermez.checkL1Transaction_ok.mp hadmitted.checked
  rw [hadmitted.toIdx] at huser ⊢
  obtain hzero | hexit | ⟨-, hle⟩ := haccepted.toIdx
  · rw [(idx_eq_zero _).mp hzero] at huser
    cases huser
  · rw [(idx_eq_exit _).mp hexit] at huser
    exact absurd huser (by decide)
  · exact lookup_of_admitted hfollows huser hle

theorem AdmittedL1Tx.noDeposit (hadmitted : AdmittedL1Tx h args tx)
    (hforced : tx.toIdx = 1 ∨ tx.depositAmount.natAbs % 2 ^ 64 = 0) : tx.depositAmount = 0 := by
  have haccepted := Hermez.checkL1Transaction_ok.mp hadmitted.checked
  have hload := hadmitted.load_lt
  rw [hadmitted.depositAmount] at hforced ⊢
  obtain hexit | hlow := hforced
  · rw [hadmitted.toIdx] at hexit
    rw [haccepted.noDepositOnExit ((idx_eq_exit _).mpr hexit)]
    rfl
  · rw [Int.natAbs_natCast] at hlow
    rw [float2Fix_eq] at hlow hload ⊢
    exact_mod_cast float40Value_low64 hload hlow

theorem AdmittedL1Tx.fills (hadmitted : AdmittedL1Tx h args tx) (hfollows : Follows h s) (zki : ZKInputs)
    (hzki : s.zki = some zki) : ∃ zki', TxProcessor.fillL1Tx tx s zki = .ok zki' := by
  obtain ⟨depositF, hdepositF⟩ := newFloat40_total args.loadAmountF.isLt
  obtain ⟨amountF, hamountF⟩ := newFloat40_total args.amountF.isLt
  rw [← float2Fix_eq, ← hadmitted.depositAmount] at hdepositF
  rw [← float2Fix_eq, ← hadmitted.amount] at hamountF
  have hfrom : tx.fromIdx ≤ maxIdxValue := by
    rw [hadmitted.fromIdx]
    have := args.fromIdx.isLt
    unfold maxIdxValue
    omega
  have hto : tx.toIdx ≤ maxIdxValue := by
    rw [hadmitted.toIdx]
    have := args.toIdx.isLt
    unfold maxIdxValue
    omega
  rw [TxProcessor.fillL1Tx, setAt, if_pos (hfollows.slot zki hzki), L1Tx.txCompressedData, idxBytes_of_le hto,
    except_ok_bind, idxBytes_of_le hfrom, except_ok_bind]
  simp only [Except.map, except_pure, except_ok_bind, hdepositF, hamountF]
  split <;> exact ⟨_, rfl⟩

end Admitted

section Success

variable [Libraries]

theorem transfer_total {r : Rollup} {fromIdx toIdx : Nat} {a b : StoredAccount} {taken given : Int}
    (hfrom : fromIdx ≤ maxIdxValue) (hto : toIdx ≤ maxIdxValue) (ha : r.accounts.lookup fromIdx = some a)
    (hb : r.accounts.lookup toIdx = some b) (hle : taken ≤ a.balance) (hgiven : 0 ≤ given)
    (hlt : r.accounts.totalBalance - taken + given < 2 ^ 192) :
    ∃ acc r₁ r₂, Rollup.take fromIdx taken r = some (acc, r₁) ∧ Rollup.give toIdx given r₁ = some ((), r₂) := by
  have hsender := AccountTree.balance_le_totalBalance ha
  obtain ⟨acc, r₁, htake⟩ := Rollup.take_total hfrom ha hle (by omega)
  obtain ⟨tree, hmoved, hr₁, -⟩ := Rollup.take_moved htake
  obtain ⟨b', hb', -⟩ := hmoved.persists toIdx b hb
  have hreceiver := AccountTree.balance_le_totalBalance hb'
  rw [hmoved.totalBalance] at hreceiver
  have haccounts : r₁.accounts = tree := congrArg (·.accounts) hr₁
  obtain ⟨r₂, hgive⟩ := Rollup.give_total hto (haccounts ▸ hb') hgiven (by omega)
  exact ⟨acc, r₁, r₂, htake, hgive⟩

variable {h : Hermez} {args : L1UserTxArgs} {tx : L1Tx} {s : TxProcessor}

theorem open_total (balance : Int) (hopen : CanOpen s tx.fromBJJ) (hbalance : 0 ≤ balance) (hlt : balance < 2 ^ 192) :
    ∃ r₁, Rollup.openAccount (Rollup.newAccount tx balance) s.rollup = some ((), r₁) ∧
      r₁.currentIdx + 1 ≤ maxIdxValue := by
  obtain ⟨hay, hidx, hfresh⟩ := hopen
  have hidx' : s.rollup.currentIdx + 1 ≤ maxIdxValue := by
    show s.state.currentIdx + 1 ≤ 281474976710655
    omega
  have hencodable : (Rollup.newAccount tx balance).Encodable :=
    ⟨Nat.zero_le _, by show balance.natAbs < 2 ^ 192; omega, hay⟩
  obtain ⟨r₁, hopened⟩ := Rollup.openAccount_total hencodable hidx' hfresh
  exact ⟨r₁, hopened, by rw [Rollup.currentIdx_openAccount hopened]; exact hidx'⟩

/-- **What the contract admits can be applied**, if an account that is opened can be. -/
theorem applyL1_total (hadmitted : AdmittedL1Tx h args tx) (hfollows : Follows h s)
    (hbalance : s.totalBalance + tx.depositAmount < 2 ^ 192) (hopen : tx.fromIdx = 0 → CanOpen s tx.fromBJJ) :
    ∃ exit r', Rollup.applyL1 tx (effectiveAmounts s.state.toStore tx).1 (effectiveAmounts s.state.toStore tx).2
      s.rollup = some (exit, r') := by
  obtain ⟨⟨hamount, -⟩, hdeposit, hdeposit_le⟩ := effectiveAmounts_bounds s.state.toStore
    hadmitted.amount_nonneg hadmitted.depositAmount_nonneg
  have hexits := AccountTree.totalBalance_nonneg (s.exitTree.getD ∅)
  have haccounts := AccountTree.totalBalance_nonneg s.state.accounts
  rw [TxProcessor.totalBalance] at hbalance
  -- an existing sender can pay, with its deposit
  have hpayable : userThreshold ≤ tx.fromIdx → tx.type ≠ some .createAccountDeposit →
      ∃ a, tx.fromIdx ≤ maxIdxValue ∧ s.state.accounts.lookup tx.fromIdx = some a ∧
        (effectiveAmounts s.state.toStore tx).1 ≤ a.balance + (effectiveAmounts s.state.toStore tx).2 := by
    intro huser htype
    obtain ⟨hidx, a, ha⟩ := hadmitted.sender hfollows huser
    have hne : tx.fromIdx ≠ 0 := by unfold userThreshold at huser; omega
    exact ⟨a, hidx, ha, effectiveAmounts_payable (getAccountInTreeDB_ok.mpr ⟨hidx, a, ha, rfl⟩) hne htype
      (Int.natCast_nonneg _) hadmitted.depositAmount_nonneg⟩
  obtain ⟨htype, hfrom, hto⟩ | ⟨htype, hfrom, hto⟩ | ⟨htype, hfrom, hto⟩ | ⟨htype, hfrom, hto⟩ |
    ⟨htype, hfrom, hto, hlow⟩ | ⟨htype, hfrom, hto⟩ := L1Tx.setType_self hadmitted.typed
  · -- a new account
    obtain ⟨r₁, hopened, hidx⟩ := open_total _ (hopen hfrom) hdeposit (by omega)
    simp only [Rollup.applyL1, htype]
    exact ⟨_, _, Spec.bind_some.mpr ⟨(), r₁, hopened, Spec.bind_some.mpr ⟨(), _,
      Rollup.advance_some.mpr ⟨hidx, rfl⟩, rfl⟩⟩⟩
  · -- a new account that pays another one
    have hcovered := effectiveAmounts_covered s.state.toStore hfrom hto (by simp [htype])
      hadmitted.depositAmount_nonneg
    obtain ⟨hidxTo, b, hb⟩ := hadmitted.receiver hfollows hto
    have hreceiver := AccountTree.balance_le_totalBalance hb
    obtain ⟨r₁, hopened, hidx⟩ := open_total _ (hopen hfrom) (Int.sub_nonneg.mpr hcovered) (by omega)
    obtain ⟨-, hfresh, hencodable, _, _, hr₁⟩ := Rollup.openAccount_inserts hopened
    have hb₁ : r₁.accounts.lookup tx.toIdx = some b := by
      have hne : tx.toIdx ≠ s.rollup.currentIdx + 1 := fun heq => hfresh (heq ▸ Finmap.mem_of_lookup_eq_some hb)
      rw [hr₁]
      exact (Finmap.lookup_insert_of_ne _ hne).trans hb
    obtain ⟨r₂, hgive⟩ := Rollup.give_total hidxTo hb₁ hamount (by omega)
    have hcurrent : r₂.currentIdx = r₁.currentIdx := by
      obtain ⟨_, -, _, rfl⟩ := Rollup.give_some.mp hgive
      rfl
    simp only [Rollup.applyL1, htype]
    exact ⟨_, _, Spec.bind_some.mpr ⟨(), _, Spec.demand_some.mpr ⟨Int.sub_nonneg.mpr hcovered, rfl⟩,
      Spec.bind_some.mpr ⟨(), r₁, hopened, Spec.bind_some.mpr ⟨(), r₂, hgive,
        Spec.bind_some.mpr ⟨(), _, Rollup.advance_some.mpr ⟨hcurrent ▸ hidx, rfl⟩, rfl⟩⟩⟩⟩⟩
  · -- a deposit
    obtain ⟨a, hidx, ha, hpays⟩ := hpayable hfrom (by simp [htype])
    have hsender := AccountTree.balance_le_totalBalance ha
    obtain ⟨acc, r₁, htake⟩ := Rollup.take_total (r := s.rollup) hidx ha (Int.sub_right_le_of_le_add hpays) (by omega)
    simp only [Rollup.applyL1, htype]
    exact ⟨_, _, Spec.bind_some.mpr ⟨acc, r₁, htake, rfl⟩⟩
  · -- a forced exit
    have hzero := hadmitted.noDeposit (Or.inl hto)
    obtain ⟨a, hidx, ha, hpays⟩ := hpayable hfrom (by simp [htype])
    have hsender := AccountTree.balance_le_totalBalance ha
    obtain ⟨acc, r₁, htake⟩ := Rollup.take_total (r := s.rollup) hidx ha
      (show (effectiveAmounts s.state.toStore tx).1 ≤ a.balance by omega) (by omega)
    obtain ⟨tree, -, rfl, hacc⟩ := Rollup.take_moved htake
    obtain ⟨-, a', -, rfl⟩ := getAccountInTreeDB_ok.mp hacc
    have hleaf : ∀ exits leaf, s.exitTree = some exits → exits.lookup tx.fromIdx = some leaf →
        (leaf.balance : Int) + (effectiveAmounts s.state.toStore tx).1 < 2 ^ 192 := by
      intro exits leaf hexits hleaf
      have hle := AccountTree.balance_le_totalBalance hleaf
      rw [hexits, Option.getD_some] at hbalance
      omega
    obtain ⟨exit, r₂, hleave⟩ := Rollup.leave_total (r := { s.rollup with accounts := tree })
      (a'.account tx.fromIdx) tx.amount hidx a'.ay_lt hamount (by omega) hleaf
    simp only [Rollup.applyL1, htype]
    exact ⟨_, _, Spec.bind_some.mpr ⟨_, _, htake, hleave⟩⟩
  · -- a forced transfer
    have hzero := hadmitted.noDeposit (Or.inr hlow)
    obtain ⟨a, hidx, ha, hpays⟩ := hpayable hfrom (by simp [htype])
    obtain ⟨hidxTo, b, hb⟩ := hadmitted.receiver hfollows hto
    obtain ⟨acc, r₁, r₂, htake, hgive⟩ := transfer_total (r := s.rollup) hidx hidxTo ha hb
      (show (effectiveAmounts s.state.toStore tx).1 ≤ a.balance by omega) hamount
      (show s.state.accounts.totalBalance - _ + _ < _ by omega)
    simp only [Rollup.applyL1, htype]
    exact ⟨_, _, Spec.bind_some.mpr ⟨acc, r₁, htake, Spec.bind_some.mpr ⟨(), r₂, hgive, rfl⟩⟩⟩
  · -- a deposit and a transfer
    obtain ⟨a, hidx, ha, hpays⟩ := hpayable hfrom (by simp [htype])
    obtain ⟨hidxTo, b, hb⟩ := hadmitted.receiver hfollows hto
    obtain ⟨acc, r₁, r₂, htake, hgive⟩ := transfer_total (r := s.rollup) hidx hidxTo ha hb
      (Int.sub_right_le_of_le_add hpays) hamount (show s.state.accounts.totalBalance - _ + _ < _ by omega)
    simp only [Rollup.applyL1, htype]
    exact ⟨_, _, Spec.bind_some.mpr ⟨acc, r₁, htake, Spec.bind_some.mpr ⟨(), r₂, hgive, rfl⟩⟩⟩

theorem canOpen_of_processL1Tx {out : TxProcessor.L1TxOut} {s' : TxProcessor} (htyped : tx.setType = .ok tx)
    (hfrom : tx.fromIdx = 0) (hrun : TxProcessor.processL1Tx tx s = .ok out s') : CanOpen s tx.fromBJJ := by
  have hopens : ∀ {balance : Int} {u : Unit} {r₁ : Rollup},
      Rollup.openAccount (Rollup.newAccount tx balance) s.rollup = some (u, r₁) → CanOpen s tx.fromBJJ := by
    intro balance u r₁ hopened
    obtain ⟨hidx, hfresh, hencodable, -⟩ := Rollup.openAccount_inserts hopened
    have hidx' : s.state.currentIdx + 1 ≤ 281474976710655 := hidx
    exact ⟨hencodable.ay_lt, by omega, hfresh⟩
  obtain ⟨happly, -⟩ := Rollup.l1Tx_some.mp (TxProcessor.processL1Tx_ok hrun).1
  have hnotUser : ¬userThreshold ≤ tx.fromIdx := by rw [hfrom]; decide
  obtain ⟨htype, -, -⟩ | ⟨htype, -, -⟩ | ⟨-, huser, -⟩ | ⟨-, huser, -⟩ | ⟨-, huser, -⟩ | ⟨-, huser, -⟩ :=
    L1Tx.setType_self htyped
  · simp only [Rollup.applyL1, htype] at happly
    obtain ⟨_, _, hopened, -⟩ := Spec.bind_some.mp happly
    exact hopens hopened
  · simp only [Rollup.applyL1, htype] at happly
    obtain ⟨_, _, hdemand, happly⟩ := Spec.bind_some.mp happly
    obtain ⟨-, rfl⟩ := Spec.demand_some.mp hdemand
    obtain ⟨_, _, hopened, -⟩ := Spec.bind_some.mp happly
    exact hopens hopened
  all_goals exact absurd huser hnotUser

/-- **An L1 transaction of a user never stops the processor**, whatever its mode, exactly if an account it
opens has a key with a coordinate in the field and a free index. -/
theorem processL1Tx_succeeds_iff (h : Hermez) (args : L1UserTxArgs) (tx : L1Tx) (s : TxProcessor)
    (hadmitted : AdmittedL1Tx h args tx) (hfollows : Follows h s)
    (hbalance : s.totalBalance + tx.depositAmount < 2 ^ 192) :
    (∃ out s', TxProcessor.processL1Tx tx s = .ok out s') ↔ (tx.fromIdx = 0 → CanOpen s tx.fromBJJ) := by
  constructor
  · rintro ⟨out, s', hrun⟩ hfrom
    exact canOpen_of_processL1Tx hadmitted.typed hfrom hrun
  · intro hopen
    obtain ⟨exit, r', happly⟩ := applyL1_total hadmitted hfollows hbalance hopen
    have hspec : Rollup.l1Tx tx s.rollup = some ((Rollup.effectiveTx s.state.toStore tx, exit), r') :=
      Rollup.l1Tx_some.mpr ⟨happly, rfl⟩
    exact TxProcessor.processL1Tx_total hspec (hadmitted.fills hfollows)

end Success

def emptyProcessor (typ : TypeStateDB) : TxProcessor :=
  newTxProcessor { typ } { nLevels := 32, maxFeeTx := 64, maxTx := 512, maxL1Tx := 256, chainID := 1 }

def createAccountTx (args : L1UserTxArgs) : L1Tx :=
  { args.decoded with type := some .createAccountDeposit }

theorem emptyProcessor_follows (typ : TypeStateDB) : Follows (Hermez.initializeHermez [] 0) (emptyProcessor typ) := by
  refine ⟨rfl, fun idx huser hle => ?_, fun zki hzki => ?_⟩
  · have hle' : idx ≤ 255 := hle
    unfold userThreshold at huser
    omega
  · cases hzki

theorem emptyProcessor_totalBalance (typ : TypeStateDB) : (emptyProcessor typ).totalBalance = 0 := by
  rw [TxProcessor.totalBalance]
  exact congrArg₂ (· + ·) (Finmap.total_empty _) (Finmap.total_empty _)

theorem createAccountTx_succeeds_iff :
    AdmittedL1Tx (Hermez.initializeHermez [] 0) createAccountArgs (createAccountTx createAccountArgs) ∧
      ((∃ out s', @TxProcessor.processL1Tx plainLibraries (createAccountTx createAccountArgs)
          (emptyProcessor .synchronizer) = .ok out s') ↔
        ((createAccountTx createAccountArgs).fromIdx = 0 →
          CanOpen (emptyProcessor .synchronizer) (createAccountTx createAccountArgs).fromBJJ)) := by
  have hadmitted : AdmittedL1Tx (Hermez.initializeHermez [] 0) createAccountArgs (createAccountTx createAccountArgs) :=
    ⟨rfl, by decide, rfl, rfl, rfl, rfl, rfl, rfl, rfl, rfl, rfl⟩
  exact ⟨hadmitted, @processL1Tx_succeeds_iff plainLibraries (Hermez.initializeHermez [] 0) createAccountArgs _ _
    hadmitted (emptyProcessor_follows _) (by rw [emptyProcessor_totalBalance]; decide)⟩

def keyOutsideFieldArgs : L1UserTxArgs :=
  { createAccountArgs with babyPubKey := BitVec.ofNat 256 (2 ^ 254) }

/-- The contract queues the opening of an account with the key `2 ^ 254`, and the processor of every mode
fails on it. -/
theorem keyOutsideField_stops_processor :
    AdmittedL1Tx (Hermez.initializeHermez [] 0) keyOutsideFieldArgs (createAccountTx keyOutsideFieldArgs) ∧
      ∀ typ, Follows (Hermez.initializeHermez [] 0) (emptyProcessor typ) ∧
        (emptyProcessor typ).totalBalance + (createAccountTx keyOutsideFieldArgs).depositAmount < 2 ^ 192 ∧
        ¬ ∃ out s', @TxProcessor.processL1Tx plainLibraries (createAccountTx keyOutsideFieldArgs)
          (emptyProcessor typ) = .ok out s' := by
  refine ⟨⟨rfl, by decide, rfl, rfl, rfl, rfl, rfl, rfl, rfl, rfl, rfl⟩, fun typ => ⟨emptyProcessor_follows typ,
    by rw [emptyProcessor_totalBalance]; decide, ?_⟩⟩
  rintro ⟨out, s', hrun⟩
  have hopen := @canOpen_of_processL1Tx plainLibraries _ _ out s' rfl rfl hrun
  exact absurd hopen.1 (by decide)

end HermezRollup
