import HermezRollup.Postings

/-! Whose funds an L1 transaction moves.  Anybody can queue one that names any account, so what protects an
account are the effective amounts: the balance of an account decreases only if its owner sent the
transaction, and nothing reaches an account of another token. -/

namespace HermezRollup

open Fallible Simulation Spec Bookkeeping

variable {idx : Nat}

namespace AccountTree

/-- The accounts of a tree keep owner and nonce, and every other account is one of the new ones. -/
structure Extends (tree : AccountTree) (new : Nat → Prop) (tree' : AccountTree) : Prop where
  keeps : ∀ idx a, tree.lookup idx = some a → ∃ a', tree'.lookup idx = some a' ∧ a.SameOwner a' ∧ a'.nonce = a.nonce
  new : ∀ idx ∈ tree', idx ∈ tree ∨ new idx

theorem Extends.refl (tree : AccountTree) (new : Nat → Prop) : tree.Extends new tree :=
  ⟨fun _ a ha => ⟨a, ha, .refl a, rfl⟩, fun _ hidx => Or.inl hidx⟩

theorem Extends.trans {tree tree' tree'' : AccountTree} {new : Nat → Prop} (h : tree.Extends new tree')
    (h' : tree'.Extends new tree'') : tree.Extends new tree'' := by
  refine ⟨fun idx a ha => ?_, fun idx hidx => ?_⟩
  · obtain ⟨a', ha', howner, hnonce⟩ := h.keeps idx a ha
    obtain ⟨a'', ha'', howner', hnonce'⟩ := h'.keeps idx a' ha'
    exact ⟨a'', ha'', howner.trans howner', hnonce'.trans hnonce⟩
  · obtain hold | hnew := h'.new idx hidx
    · exact h.new idx hold
    · exact Or.inr hnew

theorem Moved.extends {tree tree' : AccountTree} {delta : Int} (h : Moved tree idx delta 0 tree')
    (new : Nat → Prop) : tree.Extends new tree' := by
  obtain ⟨a, a', ha, rfl, howner, hnonce, -⟩ := h
  refine ⟨fun other b hb => ?_, fun other hother => ?_⟩
  · by_cases heq : other = idx
    · subst heq
      rw [ha] at hb
      cases hb
      exact ⟨a', Finmap.lookup_insert _, howner, hnonce⟩
    · exact ⟨b, by rw [Finmap.lookup_insert_of_ne _ heq, hb], .refl b, rfl⟩
  · obtain rfl | hold := Finmap.mem_insert.mp hother
    · exact Or.inl (Finmap.mem_of_lookup_eq_some ha)
    · exact Or.inl hold

theorem Extends.insert {tree : AccountTree} {new : Nat → Prop} (hfresh : idx ∉ tree) (hnew : new idx)
    (a : StoredAccount) : tree.Extends new (tree.insert idx a) := by
  refine ⟨fun other b hb => ?_, fun other hother => ?_⟩
  · have hne : other ≠ idx := fun heq => hfresh (heq ▸ Finmap.mem_of_lookup_eq_some hb)
    exact ⟨b, by rw [Finmap.lookup_insert_of_ne _ hne, hb], .refl b, rfl⟩
  · obtain rfl | hold := Finmap.mem_insert.mp hother
    · exact Or.inr hnew
    · exact Or.inl hold

end AccountTree

namespace Rollup

open AccountTree

section L1

variable [Libraries] {r r' : Rollup} {tx : L1Tx} {amount depositAmount : Int} {exit : ExitOut} {new : Nat → Prop}

theorem take_extends {acc : Account} (h : take idx amount r = some (acc, r')) :
    r.accounts.Extends new r'.accounts := by
  obtain ⟨tree, hmoved, rfl, -⟩ := take_moved h
  exact hmoved.extends new

theorem give_extends {u : Unit} (hamount : 0 ≤ amount) (h : give idx amount r = some (u, r')) :
    r.accounts.Extends new r'.accounts := by
  obtain ⟨tree, hmoved, rfl⟩ := give_moved hamount h
  exact hmoved.extends new

theorem openAccount_extends {acc : Account} {u : Unit} (hnew : new (r.currentIdx + 1))
    (h : openAccount acc r = some (u, r')) : r.accounts.Extends new r'.accounts := by
  obtain ⟨-, hfresh, _, _, _, rfl⟩ := openAccount_inserts h
  exact .insert hfresh hnew _

omit [Libraries] in
theorem advance_accounts {u : Unit} (h : advance r = some (u, r')) : r'.accounts = r.accounts := by
  obtain ⟨-, rfl⟩ := advance_some.mp h
  rfl

theorem leave_accounts {acc : Account} {original : Int} (h : leave idx acc amount original r = some (exit, r')) :
    r'.accounts = r.accounts := by
  obtain ⟨_, -, rfl⟩ := leave_exits h
  rfl

theorem applyL1_extends (hamount : 0 ≤ amount) (h : applyL1 tx amount depositAmount r = some (exit, r')) :
    r.accounts.Extends (fun idx => creates tx = 1 ∧ idx = r.currentIdx + 1) r'.accounts := by
  cases applyL1_step h with
  | forceTransfer _ htake hgive => exact (take_extends htake).trans (give_extends hamount hgive)
  | createAccountDeposit htype hopen hadvance =>
    rw [advance_accounts hadvance]
    exact openAccount_extends ⟨by simp [creates, htype], rfl⟩ hopen
  | deposit _ htake => exact take_extends htake
  | depositTransfer _ htake hgive => exact (take_extends htake).trans (give_extends hamount hgive)
  | createAccountDepositTransfer htype _ hopen hgive hadvance =>
    rw [advance_accounts hadvance]
    exact (openAccount_extends ⟨by simp [creates, htype], rfl⟩ hopen).trans (give_extends hamount hgive)
  | forceExit _ htake hleave =>
    rw [leave_accounts hleave]
    exact take_extends htake
  | unknown => exact .refl _ _

theorem applyL1_opened (hcreates : creates tx = 1) (h : applyL1 tx amount depositAmount r = some (exit, r')) :
    r.currentIdx + 1 ∉ r.accounts ∧ ∃ a, r'.accounts.lookup (r.currentIdx + 1) = some a ∧ a.tokenID = tx.tokenID ∧
      a.bjj = tx.fromBJJ ∧ a.ethAddr = tx.fromEthAddr := by
  have hopened : ∀ {balance : Int} {r₁ : Rollup}, openAccount (newAccount tx balance) r = some ((), r₁) →
      r₁.accounts.Persists r'.accounts → r.currentIdx + 1 ∉ r.accounts ∧
        ∃ a, r'.accounts.lookup (r.currentIdx + 1) = some a ∧ a.tokenID = tx.tokenID ∧ a.bjj = tx.fromBJJ ∧
          a.ethAddr = tx.fromEthAddr := by
    intro balance r₁ hopen hpersists
    obtain ⟨-, hfresh, _, _, _, rfl⟩ := openAccount_inserts hopen
    obtain ⟨a, ha, howner⟩ := hpersists _ _ (Finmap.lookup_insert _)
    exact ⟨hfresh, a, ha, howner.tokenID, howner.bjj, howner.ethAddr⟩
  cases applyL1_step h with
  | createAccountDeposit _ hopen hadvance => exact hopened hopen (advance_evolves _ _ _ hadvance).persists
  | createAccountDepositTransfer _ _ hopen hgive hadvance =>
    exact hopened hopen ((give_evolves _ _ _ hgive).persists.trans (advance_evolves _ _ _ hadvance).persists)
  | forceTransfer htype | deposit htype | depositTransfer htype | forceExit htype => simp [creates, htype] at hcreates
  | unknown htype =>
    rw [creates] at hcreates
    split at hcreates
    next hknown => rcases hknown with hknown | hknown <;> simp [hknown, knownL1Type] at htype
    next => cases hcreates

end L1

end Rollup

/-- What an L1 transaction with effective amounts may do to the accounts. -/
structure MovesOwnFunds (tx : L1Tx) (amount depositAmount : Int) (store store' : Store) : Prop where
  /-- No other account changes. -/
  others : ∀ idx acc, store.getAccount idx = .ok acc → idx ≠ tx.fromIdx → idx ≠ tx.toIdx → store'.getAccount idx = .ok acc
  /-- An account stays what it is. -/
  owner : ∀ idx acc, store.getAccount idx = .ok acc → ∃ acc', store'.getAccount idx = .ok acc' ∧
    acc'.tokenID = acc.tokenID ∧ acc'.ethAddr = acc.ethAddr ∧ acc'.bjj = acc.bjj ∧ acc'.nonce = acc.nonce
  /-- Only the owner spends. -/
  spends : ∀ idx acc acc', store.getAccount idx = .ok acc → store'.getAccount idx = .ok acc' →
    acc'.balance < acc.balance → idx = tx.fromIdx ∧ acc.balance - acc'.balance ≤ amount ∧ tx.fromEthAddr = acc.ethAddr
  /-- An amount reaches an account of the token of the sender, which may be a new one. -/
  reaches : amount ≠ 0 → userThreshold ≤ tx.toIdx → ∃ accReceiver, store.getAccount tx.toIdx = .ok accReceiver ∧
    if tx.fromIdx = 0 then accReceiver.tokenID = tx.tokenID
    else ∃ accSender, store.getAccount tx.fromIdx = .ok accSender ∧ accReceiver.tokenID = accSender.tokenID
  /-- A deposit is of the token of the account. -/
  deposits : depositAmount ≠ 0 → tx.fromIdx ≠ 0 → ∃ acc, store.getAccount tx.fromIdx = .ok acc ∧ acc.tokenID = tx.tokenID
  /-- A new account is the next one, and belongs to the sender. -/
  opens : ∀ idx acc', store'.getAccount idx = .ok acc' → (∀ acc, store.getAccount idx ≠ .ok acc) →
    idx = store.currentIdx + 1 ∧ acc'.tokenID = tx.tokenID ∧ acc'.ethAddr = tx.fromEthAddr ∧ acc'.bjj = tx.fromBJJ ∧
      acc'.balance ≤ tx.depositAmount

/-- An L1 transaction of a user: it has the type that `SetType` gives it, and amounts that a Float40 can have. -/
structure L1UserTx (tx : L1Tx) : Prop where
  typed : tx.setType = .ok tx
  amount_nonneg : 0 ≤ tx.amount
  deposit_nonneg : 0 ≤ tx.depositAmount

namespace L1UserTx

variable {tx : L1Tx}

theorem known (htx : L1UserTx tx) : Rollup.knownL1Type tx.type = true := by
  obtain ⟨htype, -⟩ | ⟨htype, -⟩ | ⟨htype, -⟩ | ⟨htype, -⟩ | ⟨htype, -⟩ | ⟨htype, -⟩ := L1Tx.setType_self htx.typed <;>
    rw [htype] <;> rfl

theorem fromIdx_eq_zero (htx : L1UserTx tx) : tx.fromIdx = 0 ↔ Rollup.creates tx = 1 := by
  have huser : ∀ idx, userThreshold ≤ idx → idx ≠ 0 := by
    intro idx hidx
    unfold userThreshold at hidx
    omega
  obtain ⟨htype, hfrom, -⟩ | ⟨htype, hfrom, -⟩ | ⟨htype, hfrom, -⟩ | ⟨htype, hfrom, -⟩ | ⟨htype, hfrom, -⟩ |
    ⟨htype, hfrom, -⟩ := L1Tx.setType_self htx.typed
  · simp [Rollup.creates, htype, hfrom]
  · simp [Rollup.creates, htype, hfrom]
  all_goals simp [Rollup.creates, htype, huser _ hfrom]

theorem type_ne (htx : L1UserTx tx) (h : tx.fromIdx ≠ 0 ∨ tx.toIdx ≠ 0) : tx.type ≠ some .createAccountDeposit := by
  intro htype
  have hcases := L1Tx.setType_self htx.typed
  simp only [htype, Option.some.injEq, reduceCtorEq, false_and, or_false, true_and] at hcases
  omega

end L1UserTx

section Frame

variable [Libraries] {tx : L1Tx} {s s' : TxProcessor} {out : TxProcessor.L1TxOut}

omit [Libraries] in
theorem Rollup.posted_l1Entries {currentIdx : Nat} (amount depositAmount : Int) (hamount : 0 ≤ amount)
    (hdeposit : 0 ≤ depositAmount) (hidx : creates tx = 1 → idx ≠ currentIdx + 1) :
    (idx ≠ tx.fromIdx → idx ≠ tx.toIdx → posted (only idx) (l1Entries currentIdx tx amount depositAmount) = 0) ∧
      (idx ≠ tx.fromIdx ∨ creates tx = 1 → 0 ≤ posted (only idx) (l1Entries currentIdx tx amount depositAmount)) ∧
        -amount ≤ posted (only idx) (l1Entries currentIdx tx amount depositAmount) := by
  have honly : ∀ i, only idx i = if i = idx then 1 else 0 := fun i => by simp [only]
  rw [l1Entries]
  cases htype : tx.type with
  | none => simp [hamount]
  | some type =>
    cases type with
    | forceTransfer | depositTransfer | deposit | forceExit =>
      have hopens : creates tx ≠ 1 := by simp [creates, htype]
      simp only [posted_cons, posted_nil, honly]
      refine ⟨fun hfrom hto => ?_, fun hother => ?_, ?_⟩ <;> split_ifs <;> omega
    | createAccountDeposit | createAccountDepositTransfer =>
      have hne := hidx (by simp [creates, htype])
      simp only [posted_cons, posted_nil, honly]
      refine ⟨fun hfrom hto => ?_, fun hother => ?_, ?_⟩ <;> split_ifs <;> omega
    | exit | transfer | transferToEthAddr | transferToBJJ => simp [hamount]

omit [Libraries] in
theorem Rollup.posted_l1Entries_new (currentIdx : Nat) {amount : Int} (depositAmount : Int) (hamount : 0 ≤ amount)
    (hcreates : creates tx = 1) :
    posted (only (currentIdx + 1)) (l1Entries currentIdx tx amount depositAmount) ≤ depositAmount := by
  have hcases : tx.type = some .createAccountDeposit ∨ tx.type = some .createAccountDepositTransfer := by
    rw [creates] at hcreates
    split at hcreates
    · assumption
    · cases hcreates
  obtain htype | htype := hcases
  · simp [l1Entries, htype, only]
  · simp only [l1Entries, htype, posted_cons, posted_nil, only, if_true]
    split_ifs <;> omega

theorem applyL1_movesOwnFunds {r r' : Rollup} {exit : ExitOut} (htx : L1UserTx tx)
    (h : Rollup.applyL1 tx (effectiveAmounts r.toStore tx).1 (effectiveAmounts r.toStore tx).2 r = some (exit, r')) :
    MovesOwnFunds tx (effectiveAmounts r.toStore tx).1 (effectiveAmounts r.toStore tx).2 r.toStore r'.toStore := by
  obtain ⟨⟨hamount, -⟩, hdeposit, hdeposited⟩ := effectiveAmounts_bounds r.toStore htx.amount_nonneg htx.deposit_nonneg
  have hextends := Rollup.applyL1_extends hamount h
  have hbooks := Rollup.applyL1_books hamount hdeposit h
  -- an account that exists is not the one that is opened
  have hold : ∀ {idx a}, r.accounts.lookup idx = some a → Rollup.creates tx = 1 → idx ≠ r.currentIdx + 1 := by
    intro idx a ha hcreates heq
    exact (Rollup.applyL1_opened hcreates h).1 (heq ▸ Finmap.mem_of_lookup_eq_some ha)
  have hbalance : ∀ {idx a a'}, r.accounts.lookup idx = some a → r'.accounts.lookup idx = some a' →
      (a'.balance : Int) = a.balance + posted (only idx)
        (Rollup.l1Entries r.currentIdx tx (effectiveAmounts r.toStore tx).1 (effectiveAmounts r.toStore tx).2) := by
    intro idx a a' ha ha'
    have hholds := hbooks.accounts.holds idx
    rwa [holds_of_lookup ha, holds_of_lookup ha'] at hholds
  refine ⟨?_, ?_, ?_, ?_, ?_, ?_⟩
  · intro idx acc hget hfrom hto
    obtain ⟨hidx, a, ha, rfl⟩ := getAccountInTreeDB_ok.mp hget
    obtain ⟨a', ha', howner, hnonce⟩ := hextends.keeps idx a ha
    have hposted := (Rollup.posted_l1Entries _ _ hamount hdeposit (hold ha)).1 hfrom hto
    have hsame := hbalance ha ha'
    rw [hposted, Int.add_zero, Int.natCast_inj] at hsame
    refine getAccountInTreeDB_ok.mpr ⟨hidx, a', ha', ?_⟩
    simp only [StoredAccount.account, howner.tokenID, howner.bjj, howner.ethAddr, hnonce, hsame]
  · intro idx acc hget
    obtain ⟨hidx, a, ha, rfl⟩ := getAccountInTreeDB_ok.mp hget
    obtain ⟨a', ha', howner, hnonce⟩ := hextends.keeps idx a ha
    exact ⟨a'.account idx, getAccountInTreeDB_ok.mpr ⟨hidx, a', ha', rfl⟩, howner.tokenID, howner.ethAddr, howner.bjj,
      hnonce⟩
  · intro idx acc acc' hget hget' hless
    obtain ⟨-, a, ha, rfl⟩ := getAccountInTreeDB_ok.mp hget
    obtain ⟨-, a', ha', rfl⟩ := getAccountInTreeDB_ok.mp hget'
    have hchange := hbalance ha ha'
    obtain ⟨-, hother, hatMost⟩ := Rollup.posted_l1Entries _ _ hamount hdeposit (hold ha)
    change (a'.balance : Int) < a.balance at hless
    have hsender : idx = tx.fromIdx ∧ Rollup.creates tx ≠ 1 := by
      by_contra hnot
      have hnonneg := hother (by tauto)
      omega
    obtain ⟨rfl, hcreates⟩ := hsender
    have hfrom : tx.fromIdx ≠ 0 := fun hzero => hcreates (htx.fromIdx_eq_zero.mp hzero)
    obtain ⟨accSender, hsender, -, haddr, -⟩ := effectiveAmounts_spends hfrom (htx.type_ne (Or.inl hfrom))
      (show (effectiveAmounts r.toStore tx).1 ≠ 0 by omega)
    rw [show r.toStore.getAccount tx.fromIdx = _ from hget] at hsender
    cases hsender
    exact ⟨rfl, show (a.balance : Int) - a'.balance ≤ _ by omega, haddr.symm⟩
  · intro hne hto
    by_cases hfrom : tx.fromIdx = 0
    · have htype := htx.type_ne (Or.inr (by unfold userThreshold at hto; omega))
      obtain ⟨accReceiver, hreceiver, htoken⟩ := effectiveAmounts_newSpends hfrom hto htype hne
      exact ⟨accReceiver, hreceiver, by rwa [if_pos hfrom]⟩
    · obtain ⟨accSender, hsender, -, -, hreceiver⟩ := effectiveAmounts_spends hfrom (htx.type_ne (Or.inl hfrom)) hne
      obtain ⟨accReceiver, hget, htoken⟩ := hreceiver hto
      exact ⟨accReceiver, hget, by rw [if_neg hfrom]; exact ⟨accSender, hsender, htoken⟩⟩
  · intro hne hfrom
    exact effectiveAmounts_deposits hfrom (htx.type_ne (Or.inl hfrom)) hne
  · intro idx acc' hget hnew
    obtain ⟨hidx, a', ha', rfl⟩ := getAccountInTreeDB_ok.mp hget
    have hfresh : r.accounts.lookup idx = none := by
      cases ha : r.accounts.lookup idx with
      | none => rfl
      | some a => exact absurd (getAccountInTreeDB_ok.mpr ⟨hidx, a, ha, rfl⟩) (hnew _)
    obtain hmem | ⟨hcreates, rfl⟩ := hextends.new idx (Finmap.mem_of_lookup_eq_some ha')
    · exact absurd hmem (Finmap.lookup_eq_none.mp hfresh)
    · obtain ⟨-, b, hb, htoken, hbjj, haddr⟩ := Rollup.applyL1_opened hcreates h
      rw [ha'] at hb
      cases hb
      have hholds := hbooks.accounts.holds (r.currentIdx + 1)
      rw [holds_of_lookup ha', holds, hfresh, Option.elim_none, Int.zero_add] at hholds
      have hposted := Rollup.posted_l1Entries_new r.currentIdx (effectiveAmounts r.toStore tx).2 hamount hcreates
      exact ⟨rfl, htoken, haddr, hbjj, show (a'.balance : Int) ≤ _ by omega⟩

/-- **Only the owner's funds move.** -/
theorem processL1Tx_movesOwnFunds (htx : L1UserTx tx) (h : TxProcessor.processL1Tx tx s = .ok out s') :
    MovesOwnFunds tx (out.tx.effectiveAmount.getD 0) (out.tx.effectiveDepositAmount.getD 0) s.state.toStore
      s'.state.toStore := by
  obtain ⟨happly, hout⟩ := Rollup.l1Tx_some.mp (TxProcessor.processL1Tx_ok h).1
  have hamount : out.tx.effectiveAmount.getD 0 = (effectiveAmounts s.state.toStore tx).1 := by
    rw [show out.tx = _ from hout, Rollup.effectiveTx, if_pos htx.known]
    rfl
  have hdeposit : out.tx.effectiveDepositAmount.getD 0 = (effectiveAmounts s.state.toStore tx).2 := by
    rw [show out.tx = _ from hout, Rollup.effectiveTx, if_pos htx.known]
    rfl
  rw [hamount, hdeposit]
  exact applyL1_movesOwnFunds htx happly

end Frame

def depositTx : L1Tx :=
  { fromIdx := 256, toIdx := 0, fromEthAddr := 7, depositAmount := 5, userOrigin := true, type := some .deposit }

theorem depositTx_user : L1UserTx depositTx :=
  ⟨rfl, by decide, by decide⟩

theorem depositTx_movesOwnFunds :
    ∃ out s', @TxProcessor.processL1Tx plainLibraries depositTx
        (newTxProcessor (oneAccountState .synchronizer) smallConfig) = .ok out s' ∧ out.tx.effectiveDepositAmount = some 5 ∧
      MovesOwnFunds depositTx (out.tx.effectiveAmount.getD 0) 5 (oneAccountState .synchronizer).toStore s'.state.toStore := by
  have hrun : succeedsWith (fun out _ => out.tx.effectiveDepositAmount = some 5) (@TxProcessor.processL1Tx plainLibraries
      depositTx (newTxProcessor (oneAccountState .synchronizer) smallConfig)) = true := by decide +kernel
  obtain ⟨out, s', hout, heffective⟩ := exists_of_succeedsWith hrun
  have heffective := of_decide_eq_true heffective
  have hmoves := @processL1Tx_movesOwnFunds plainLibraries _ _ s' out depositTx_user hout
  rw [heffective] at hmoves
  exact ⟨out, s', hout, heffective, hmoves⟩

end HermezRollup
