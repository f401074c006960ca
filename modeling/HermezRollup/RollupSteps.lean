import HermezRollup.Rollup

/-! The steps of a batch, said once: which account changes, by how much, and when a step can be taken.
An account that exists stays with its token, key and address; only its balance and its nonce move. -/

namespace HermezRollup

open Bytes Fallible Simulation Spec

/-- Two versions of one account. -/
structure StoredAccount.SameOwner (a a' : StoredAccount) : Prop where
  tokenID : a'.tokenID = a.tokenID
  bjj : a'.bjj = a.bjj
  ethAddr : a'.ethAddr = a.ethAddr

theorem StoredAccount.SameOwner.refl (a : StoredAccount) : a.SameOwner a :=
  ⟨rfl, rfl, rfl⟩

variable {a : StoredAccount}

theorem StoredAccount.SameOwner.symm {a' : StoredAccount} (h : a.SameOwner a') : a'.SameOwner a :=
  ⟨h.tokenID.symm, h.bjj.symm, h.ethAddr.symm⟩

theorem StoredAccount.SameOwner.trans {a' a'' : StoredAccount} (h : a.SameOwner a') (h' : a'.SameOwner a'') :
    a.SameOwner a'' :=
  ⟨h'.tokenID.trans h.tokenID, h'.bjj.trans h.bjj, h'.ethAddr.trans h.ethAddr⟩

variable {tree : AccountTree}

namespace AccountTree

/-- The account at an index gains `delta` and counts `count` transactions. -/
def Moved (tree : AccountTree) (idx : Nat) (delta : Int) (count : Nat) (tree' : AccountTree) : Prop :=
  ∃ a a' : StoredAccount, tree.lookup idx = some a ∧ tree' = tree.insert idx a' ∧ a.SameOwner a' ∧
    a'.nonce = a.nonce + count ∧ (a'.balance : Int) = a.balance + delta

/-- Every account is still there. -/
def Persists (tree tree' : AccountTree) : Prop :=
  ∀ idx a, tree.lookup idx = some a → ∃ a', tree'.lookup idx = some a' ∧ a.SameOwner a'

theorem Persists.refl (tree : AccountTree) : Persists tree tree :=
  fun _ a ha => ⟨a, ha, .refl a⟩

theorem Persists.trans {tree' tree'' : AccountTree} (h : Persists tree tree') (h' : Persists tree' tree'') :
    Persists tree tree'' := by
  intro idx a ha
  obtain ⟨a', ha', howner⟩ := h idx a ha
  obtain ⟨a'', ha'', howner'⟩ := h' idx a' ha'
  exact ⟨a'', ha'', howner.trans howner'⟩

theorem Persists.insert {idx : Nat} (hfresh : idx ∉ tree) (a : StoredAccount) :
    Persists tree (tree.insert idx a) := by
  intro other b hb
  have hne : other ≠ idx := fun heq => hfresh (heq ▸ Finmap.mem_of_lookup_eq_some hb)
  exact ⟨b, by rw [Finmap.lookup_insert_of_ne _ hne, hb], .refl b⟩

theorem Moved.persists {tree' : AccountTree} {idx : Nat} {delta : Int} {count : Nat}
    (h : Moved tree idx delta count tree') : Persists tree tree' := by
  obtain ⟨a, a', ha, rfl, howner, -, -⟩ := h
  intro other b hb
  by_cases heq : other = idx
  · subst heq
    rw [ha] at hb
    cases hb
    exact ⟨a', Finmap.lookup_insert _, howner⟩
  · exact ⟨b, by rw [Finmap.lookup_insert_of_ne _ heq, hb], .refl b⟩

end AccountTree

namespace Rollup

open AccountTree

variable {feeSel : FeeSelector}

section Moves

variable [Libraries] {r r' : Rollup} {idx : Nat} {acc : Account} {amount : Int} {u : Unit}

theorem give_moved (hamount : 0 ≤ amount) (h : give idx amount r = some (u, r')) :
    ∃ tree, Moved r.accounts idx amount 0 tree ∧ r' = { r with accounts := tree } := by
  obtain ⟨acc, hget, hencodable, rfl⟩ := give_some.mp h
  obtain ⟨-, a, ha, rfl⟩ := getAccountInTreeDB_ok.mp hget
  refine ⟨_, ⟨a, Account.store _ hencodable, ha, rfl, ⟨rfl, rfl, rfl⟩, rfl, Int.natAbs_of_nonneg ?_⟩, rfl⟩
  exact Int.add_nonneg (Int.natCast_nonneg _) hamount

theorem take_moved (h : take idx amount r = some (acc, r')) :
    ∃ tree, Moved r.accounts idx (-amount) 0 tree ∧ r' = { r with accounts := tree } ∧
      r'.getAccount idx = .ok acc := by
  obtain ⟨acc, _, haccount, h₁⟩ := bind_some.mp h
  obtain ⟨_, _, hdemand, h₂⟩ := bind_some.mp h₁
  obtain ⟨_, _, hput, hret⟩ := bind_some.mp h₂
  cases hret
  obtain ⟨hget, rfl⟩ := account_some.mp haccount
  obtain ⟨hbalance, rfl⟩ := demand_some.mp hdemand
  obtain ⟨hidx, hencodable, rfl⟩ := put_some.mp hput
  obtain ⟨-, a, ha, rfl⟩ := getAccountInTreeDB_ok.mp hget
  refine ⟨_, ⟨a, Account.store _ hencodable, ha, rfl, ⟨rfl, rfl, rfl⟩, rfl, ?_⟩, rfl, ?_⟩
  · exact (Int.natAbs_of_nonneg hbalance).trans Int.sub_eq_add_neg
  · exact Store.getAccount_updateAccount (Store.updateAccount_ok.mpr ⟨hidx, hencodable, rfl⟩) hbalance

variable {coordIdxsMap : CoordIdxsMap}

omit [Libraries] in
theorem owe_fees {tokenID : TokenID} {fee : Int}
    (h : owe coordIdxsMap tokenID fee r = some (u, r')) : ∃ fees, r' = { r with fees } := by
  obtain ⟨-, rfl⟩ | ⟨_, _, -, -, rfl⟩ := owe_some.mp h
  · exact ⟨_, rfl⟩
  · exact ⟨_, rfl⟩

theorem pay_moved (h : pay coordIdxsMap idx amount feeSel r = some (acc, r')) :
    ∃ fee r₁ tree, calcFeeAmount amount feeSel = .ok fee ∧ owe coordIdxsMap acc.tokenID fee r = some ((), r₁) ∧
      Moved r.accounts idx (-(amount + fee)) 1 tree ∧ r' = { r₁ with accounts := tree } ∧
      r'.getAccount idx = .ok acc := by
  obtain ⟨acc, _, haccount, h₁⟩ := bind_some.mp h
  obtain ⟨fee, _, hread, h₂⟩ := bind_some.mp h₁
  obtain ⟨_, _, hdemand, h₃⟩ := bind_some.mp h₂
  obtain ⟨_, r₁, howe, h₄⟩ := bind_some.mp h₃
  obtain ⟨_, _, hput, hret⟩ := bind_some.mp h₄
  cases hret
  obtain ⟨hget, rfl⟩ := account_some.mp haccount
  obtain ⟨hfee, rfl⟩ := reads_some.mp hread
  obtain ⟨hbalance, rfl⟩ := demand_some.mp hdemand
  obtain ⟨hidx, hencodable, rfl⟩ := put_some.mp hput
  obtain ⟨-, a, ha, rfl⟩ := getAccountInTreeDB_ok.mp hget
  obtain ⟨fees, rfl⟩ := owe_fees howe
  refine ⟨fee, _, _, toOption_some.mp hfee, howe,
    ⟨a, Account.store _ hencodable, ha, rfl, ⟨rfl, rfl, rfl⟩, rfl, ?_⟩, rfl, ?_⟩
  · exact (Int.natAbs_of_nonneg hbalance).trans Int.sub_eq_add_neg
  · exact Store.getAccount_updateAccount (Store.updateAccount_ok.mpr ⟨hidx, hencodable, rfl⟩) hbalance

theorem openAccount_inserts (h : openAccount acc r = some (u, r')) :
    r.currentIdx + 1 ≤ maxIdxValue ∧ r.currentIdx + 1 ∉ r.accounts ∧
      ∃ (hencodable : acc.Encodable) (byEthAddrBJJ : _) (byEthAddr : _), r' = { r with
        accounts := r.accounts.insert (r.currentIdx + 1) (acc.store hencodable)
        idxByEthAddrBJJ := byEthAddrBJJ
        idxByEthAddr := byEthAddr } := by
  obtain ⟨store, hcreate, rfl⟩ := openAccount_some h
  obtain ⟨hidx, hfresh, hencodable, byEthAddrBJJ, byEthAddr, rfl⟩ := Store.createAccount_ok hcreate
  exact ⟨hidx, hfresh, hencodable, byEthAddrBJJ, byEthAddr, rfl⟩

/-- An exit that has a leaf: a new one, or more on the one the account has. -/
structure ExitLeaf (tree : AccountTree) (idx : Nat) (acc : Account) (amount : Int) (leaf : StoredAccount) : Prop where
  fresh : tree.lookup idx = none → leaf.tokenID = acc.tokenID ∧ leaf.bjj = acc.bjj ∧ leaf.ethAddr = acc.ethAddr ∧
    leaf.nonce = 0 ∧ (leaf.balance : Int) = amount
  more : ∀ old, tree.lookup idx = some old →
    old.SameOwner leaf ∧ leaf.nonce = old.nonce ∧ (leaf.balance : Int) = old.balance + amount

theorem exitLeaf_ok {out : AccountTree × ExitOut} (hamount : 0 ≤ amount)
    (h : exitLeaf tree idx acc amount = .ok out) :
    ∃ leaf acc', ExitLeaf tree idx acc amount leaf ∧ out.1 = tree.insert idx leaf ∧
      out.2.exitIdx = some idx ∧ out.2.exitAccount = some acc' ∧ acc'.balance = leaf.balance := by
  rw [exitLeaf] at h
  split at h
  next hmissing =>
    obtain ⟨tree', hcreate, hret⟩ := except_bind_ok.mp h
    cases hret
    obtain ⟨-, hfresh, hencodable, rfl⟩ := createAccountInTreeDB_ok.mp hcreate
    refine ⟨_, _, ⟨fun _ => ⟨rfl, rfl, rfl, rfl, Int.natAbs_of_nonneg hamount⟩, fun old hold => ?_⟩, rfl, rfl, rfl,
      (Int.natAbs_of_nonneg hamount).symm⟩
    exact absurd (Finmap.mem_of_lookup_eq_some hold) hfresh
  next => cases h
  next found hget =>
    obtain ⟨tree', hupdate, hret⟩ := except_bind_ok.mp h
    cases hret
    obtain ⟨-, hencodable, rfl⟩ := updateAccountInTreeDB_ok.mp hupdate
    obtain ⟨-, old, hold, rfl⟩ := getAccountInTreeDB_ok.mp hget
    have hbalance : 0 ≤ (old.account idx).balance + amount := Int.add_nonneg (Int.natCast_nonneg _) hamount
    refine ⟨_, _, ⟨fun hnone => absurd (hold.symm.trans hnone) (by simp), fun old' hold' => ?_⟩, rfl, rfl, rfl,
      (Int.natAbs_of_nonneg hbalance).symm⟩
    rw [hold] at hold'
    cases hold'
    exact ⟨⟨rfl, rfl, rfl⟩, rfl, Int.natAbs_of_nonneg hbalance⟩

theorem leave_some {original : Int} {exit : ExitOut} (hamount : 0 ≤ amount)
    (h : leave idx acc amount original r = some (exit, r')) :
    ((r.exits = none ∨ original = 0) ∧ r' = r ∧ exit = { exitIdx := some idx }) ∨
    ∃ tree leaf acc', original ≠ 0 ∧ r.exits = some tree ∧ ExitLeaf tree idx acc amount leaf ∧
      r' = { r with exits := some (tree.insert idx leaf) } ∧
      exit.exitIdx = some idx ∧ exit.exitAccount = some acc' ∧ acc'.balance = leaf.balance := by
  rw [leave] at h
  split at h
  next hnone =>
    cases h
    exact Or.inl ⟨Or.inl hnone, rfl, rfl⟩
  next tree htree =>
    split at h
    next hzero =>
      cases h
      exact Or.inl ⟨Or.inr hzero, rfl, rfl⟩
    next hne =>
      obtain ⟨out, hleaf, hout⟩ := Option.map_eq_some_iff.mp h
      cases hout
      obtain ⟨leaf, acc', hexit, htree', hidx, hacc, hbalance⟩ := exitLeaf_ok hamount (toOption_some.mp hleaf)
      exact Or.inr ⟨tree, leaf, acc', hne, htree, hexit, by rw [htree'], hidx, hacc, hbalance⟩

theorem currentIdx_give (h : give idx amount r = some (u, r')) : r'.currentIdx = r.currentIdx := by
  obtain ⟨_, -, _, rfl⟩ := give_some.mp h
  rfl

theorem currentIdx_take (h : take idx amount r = some (acc, r')) : r'.currentIdx = r.currentIdx := by
  obtain ⟨_, -, rfl, -⟩ := take_moved h
  rfl

theorem currentIdx_pay
    (h : pay coordIdxsMap idx amount feeSel r = some (acc, r')) : r'.currentIdx = r.currentIdx := by
  obtain ⟨fee, r₁, tree, -, howe, -, rfl, -⟩ := pay_moved h
  obtain ⟨fees, rfl⟩ := owe_fees howe
  rfl

theorem leave_exits {original : Int} {exit : ExitOut} (h : leave idx acc amount original r = some (exit, r')) :
    ∃ exits, exits.isSome = r.exits.isSome ∧ r' = { r with exits } := by
  rw [leave] at h
  split at h
  · cases h
    exact ⟨_, rfl, rfl⟩
  next htree =>
    split at h
    · cases h
      exact ⟨_, rfl, rfl⟩
    · obtain ⟨out, -, hout⟩ := Option.map_eq_some_iff.mp h
      cases hout
      exact ⟨_, by rw [htree]; rfl, rfl⟩

theorem currentIdx_leave {original : Int} {exit : ExitOut} (h : leave idx acc amount original r = some (exit, r')) :
    r'.currentIdx = r.currentIdx := by
  obtain ⟨_, -, rfl⟩ := leave_exits h
  rfl

theorem give_total (hidx : idx ≤ maxIdxValue) (ha : r.accounts.lookup idx = some a)
    (hamount : 0 ≤ amount) (hlt : (a.balance : Int) + amount < 2 ^ 192) : ∃ r', give idx amount r = some ((), r') := by
  have hencodable : ({ a.account idx with balance := a.balance + amount } : Account).Encodable :=
    ⟨a.nonce_le, by dsimp only; omega, a.ay_lt⟩
  exact ⟨_, give_some.mpr ⟨_, getAccountInTreeDB_ok.mpr ⟨hidx, a, ha, rfl⟩, hencodable, rfl⟩⟩

theorem take_total (hidx : idx ≤ maxIdxValue) (ha : r.accounts.lookup idx = some a)
    (hle : amount ≤ a.balance) (hlt : (a.balance : Int) - amount < 2 ^ 192) :
    ∃ acc r', take idx amount r = some (acc, r') := by
  have hencodable : ({ a.account idx with balance := a.balance - amount } : Account).Encodable :=
    ⟨a.nonce_le, by dsimp only; omega, a.ay_lt⟩
  have hbalance : 0 ≤ (a.balance : Int) - amount := by omega
  exact ⟨_, _, bind_some.mpr ⟨a.account idx, r, account_some.mpr ⟨getAccountInTreeDB_ok.mpr ⟨hidx, a, ha, rfl⟩, rfl⟩,
    bind_some.mpr ⟨(), r, demand_some.mpr ⟨hbalance, rfl⟩,
      bind_some.mpr ⟨(), _, put_some.mpr ⟨hidx, hencodable, rfl⟩, rfl⟩⟩⟩⟩

theorem openAccount_total (hencodable : acc.Encodable) (hidx : r.currentIdx + 1 ≤ maxIdxValue)
    (hfresh : r.currentIdx + 1 ∉ r.accounts) : ∃ r', openAccount acc r = some ((), r') := by
  obtain ⟨store, hcreate⟩ := Store.createAccount_total hencodable hidx hfresh
  refine ⟨{ r with toStore := store }, ?_⟩
  simp only [openAccount, updates_some, hcreate]
  rfl

/-- A leaf of an exit can be written when the amounts of the exits of its account stay in bounds. -/
theorem leave_total (acc : Account) (original : Int) (hidx : idx ≤ maxIdxValue)
    (hay : (PublicKeyComp.unpackSignY acc.bjj).2 < rollupConstRfield) (hamount : 0 ≤ amount) (hlt : amount < 2 ^ 192)
    (hleaf : ∀ tree leaf, r.exits = some tree → tree.lookup idx = some leaf → (leaf.balance : Int) + amount < 2 ^ 192) :
    ∃ exit r', leave idx acc amount original r = some (exit, r') := by
  rw [leave]
  cases hexits : r.exits with
  | none => exact ⟨_, _, rfl⟩
  | some tree =>
    by_cases horiginal : original = 0
    · exact ⟨_, _, if_pos horiginal⟩
    have hok : ∃ out, exitLeaf tree idx acc amount = .ok out := by
      rw [exitLeaf]
      cases hlookup : tree.lookup idx with
      | none =>
        have hmissing : getAccountInTreeDB tree idx = .error .notFound := by
          rw [getAccountInTreeDB, idxBytes_of_le hidx, except_ok_bind, hlookup]
        have hnew : ({ tokenID := acc.tokenID, nonce := 0, balance := amount, bjj := acc.bjj
                       ethAddr := acc.ethAddr } : Account).Encodable := ⟨Nat.zero_le _, by dsimp only; omega, hay⟩
        rw [hmissing]
        dsimp only
        rw [createAccountInTreeDB_ok.mpr ⟨hidx, Finmap.lookup_eq_none.mp hlookup, hnew, rfl⟩, except_ok_bind]
        exact ⟨_, rfl⟩
      | some leaf =>
        have hbound := hleaf tree leaf hexits hlookup
        have hmore : ({ leaf.account idx with balance := leaf.balance + amount } : Account).Encodable :=
          ⟨leaf.nonce_le, by dsimp only; omega, leaf.ay_lt⟩
        rw [getAccountInTreeDB_ok.mpr ⟨hidx, leaf, hlookup, rfl⟩]
        dsimp only
        rw [show (leaf.account idx).balance = leaf.balance from rfl, updateAccountInTreeDB_ok.mpr ⟨hidx, hmore, rfl⟩,
          except_ok_bind]
        exact ⟨_, rfl⟩
    obtain ⟨out, hout⟩ := hok
    exact ⟨out.2, { r with exits := some out.1 }, by simp only [if_neg horiginal, hout]; rfl⟩

end Moves

/-- What an L1 transaction with effective amounts can do, by its type. -/
inductive L1Step [Libraries] (tx : L1Tx) (amount depositAmount : Int) (r : Rollup) : ExitOut → Rollup → Prop
  | forceTransfer {acc : Account} {r₁ r' : Rollup} (htype : tx.type = some .forceTransfer)
      (htake : take tx.fromIdx amount r = some (acc, r₁)) (hgive : give tx.toIdx amount r₁ = some ((), r')) :
      L1Step tx amount depositAmount r {} r'
  | createAccountDeposit {r₁ r' : Rollup} (htype : tx.type = some .createAccountDeposit)
      (hopen : openAccount (newAccount tx depositAmount) r = some ((), r₁)) (hadvance : advance r₁ = some ((), r')) :
      L1Step tx amount depositAmount r {} r'
  | deposit {acc : Account} {r' : Rollup} (htype : tx.type = some .deposit)
      (htake : take tx.fromIdx (amount - depositAmount) r = some (acc, r')) : L1Step tx amount depositAmount r {} r'
  | depositTransfer {acc : Account} {r₁ r' : Rollup} (htype : tx.type = some .depositTransfer)
      (htake : take tx.fromIdx (amount - depositAmount) r = some (acc, r₁))
      (hgive : give tx.toIdx amount r₁ = some ((), r')) : L1Step tx amount depositAmount r {} r'
  | createAccountDepositTransfer {r₁ r₂ r' : Rollup} (htype : tx.type = some .createAccountDepositTransfer)
      (hle : 0 ≤ depositAmount - amount)
      (hopen : openAccount (newAccount tx (depositAmount - amount)) r = some ((), r₁))
      (hgive : give tx.toIdx amount r₁ = some ((), r₂)) (hadvance : advance r₂ = some ((), r')) :
      L1Step tx amount depositAmount r {} r'
  | forceExit {acc : Account} {r₁ r' : Rollup} {exit : ExitOut} (htype : tx.type = some .forceExit)
      (htake : take tx.fromIdx amount r = some (acc, r₁))
      (hleave : leave tx.fromIdx acc amount tx.amount r₁ = some (exit, r')) : L1Step tx amount depositAmount r exit r'
  | unknown (htype : knownL1Type tx.type = false) : L1Step tx amount depositAmount r {} r

variable {depositAmount : Int}

theorem applyL1_step [Libraries] {tx : L1Tx} {amount : Int} {r r' : Rollup} {exit : ExitOut}
    (h : applyL1 tx amount depositAmount r = some (exit, r')) : L1Step tx amount depositAmount r exit r' := by
  by_cases hknown : knownL1Type tx.type = false
  · rw [applyL1_of_unknown hknown] at h
    cases h
    exact .unknown hknown
  cases htype : tx.type with
  | none => simp [htype, knownL1Type] at hknown
  | some type =>
    simp only [applyL1, htype] at h
    cases type with
    | forceTransfer =>
      obtain ⟨_, r₁, htake, h₁⟩ := bind_some.mp h
      obtain ⟨_, r₂, hgive, hret⟩ := bind_some.mp h₁
      cases hret
      exact .forceTransfer htype htake hgive
    | createAccountDeposit =>
      obtain ⟨_, r₁, hopen, h₁⟩ := bind_some.mp h
      obtain ⟨_, r₂, hadvance, hret⟩ := bind_some.mp h₁
      cases hret
      exact .createAccountDeposit htype hopen hadvance
    | deposit =>
      obtain ⟨_, r₁, htake, hret⟩ := bind_some.mp h
      cases hret
      exact .deposit htype htake
    | depositTransfer =>
      obtain ⟨_, r₁, htake, h₁⟩ := bind_some.mp h
      obtain ⟨_, r₂, hgive, hret⟩ := bind_some.mp h₁
      cases hret
      exact .depositTransfer htype htake hgive
    | createAccountDepositTransfer =>
      obtain ⟨_, _, hdemand, h₁⟩ := bind_some.mp h
      obtain ⟨hle, rfl⟩ := demand_some.mp hdemand
      obtain ⟨_, r₁, hopen, h₂⟩ := bind_some.mp h₁
      obtain ⟨_, r₂, hgive, h₃⟩ := bind_some.mp h₂
      obtain ⟨_, r₃, hadvance, hret⟩ := bind_some.mp h₃
      cases hret
      exact .createAccountDepositTransfer htype hle hopen hgive hadvance
    | forceExit =>
      obtain ⟨acc, r₁, htake, hleave⟩ := bind_some.mp h
      exact .forceExit htype htake hleave
    | exit | transfer | transferToEthAddr | transferToBJJ => simp [htype, knownL1Type] at hknown

/-- How many accounts an L1 transaction opens. -/
def creates (tx : L1Tx) : Nat :=
  if tx.type = some .createAccountDeposit ∨ tx.type = some .createAccountDepositTransfer then 1 else 0

theorem applyL1_currentIdx [Libraries] {r r' : Rollup} {tx : L1Tx} {amount : Int} {exit : ExitOut}
    (h : applyL1 tx amount depositAmount r = some (exit, r')) :
    r'.currentIdx = r.currentIdx + creates tx := by
  rw [creates]
  cases applyL1_step h with
  | forceTransfer htype htake hgive => simp [htype, currentIdx_give hgive, currentIdx_take htake]
  | createAccountDeposit htype hopen hadvance =>
    obtain ⟨-, rfl⟩ := advance_some.mp hadvance
    simp [htype, currentIdx_openAccount hopen]
  | deposit htype htake => simp [htype, currentIdx_take htake]
  | depositTransfer htype htake hgive => simp [htype, currentIdx_give hgive, currentIdx_take htake]
  | createAccountDepositTransfer htype _ hopen hgive hadvance =>
    obtain ⟨-, rfl⟩ := advance_some.mp hadvance
    simp [htype, currentIdx_give hgive, currentIdx_openAccount hopen]
  | forceExit htype htake hleave => simp [htype, currentIdx_leave hleave, currentIdx_take htake]
  | unknown htype =>
    rw [if_neg (by rintro (heq | heq) <;> simp [heq, knownL1Type] at htype), Nat.add_zero]

theorem applyL1_currentIdx_le [Libraries] {r r' : Rollup} {tx : L1Tx} {amount : Int} {exit : ExitOut}
    (h : applyL1 tx amount depositAmount r = some (exit, r')) (hle : r.currentIdx ≤ maxIdxValue) :
    r'.currentIdx ≤ maxIdxValue := by
  cases applyL1_step h with
  | forceTransfer _ htake hgive => rwa [currentIdx_give hgive, currentIdx_take htake]
  | createAccountDeposit _ _ hadvance | createAccountDepositTransfer _ _ _ _ hadvance =>
    obtain ⟨hbound, rfl⟩ := advance_some.mp hadvance
    exact hbound
  | deposit _ htake => rwa [currentIdx_take htake]
  | depositTransfer _ htake hgive => rwa [currentIdx_give hgive, currentIdx_take htake]
  | forceExit _ htake hleave => rwa [currentIdx_leave hleave, currentIdx_take htake]
  | unknown => exact hle

section Keeps

variable [Libraries] {r r' : Rollup} {idx : Nat} {amount : Int} {acc : Account} {u : Unit}

theorem give_keeps (h : give idx amount r = some (u, r')) : r'.exits = r.exits ∧ r'.fees = r.fees := by
  obtain ⟨_, -, _, rfl⟩ := give_some.mp h
  exact ⟨rfl, rfl⟩

theorem take_keeps (h : take idx amount r = some (acc, r')) : r'.exits = r.exits ∧ r'.fees = r.fees := by
  obtain ⟨_, -, rfl, -⟩ := take_moved h
  exact ⟨rfl, rfl⟩

theorem openAccount_keeps (h : openAccount acc r = some (u, r')) : r'.exits = r.exits ∧ r'.fees = r.fees := by
  obtain ⟨_, -, rfl⟩ := openAccount_some h
  exact ⟨rfl, rfl⟩

omit [Libraries] in
theorem advance_keeps (h : advance r = some (u, r')) : r'.exits = r.exits ∧ r'.fees = r.fees := by
  obtain ⟨-, rfl⟩ := advance_some.mp h
  exact ⟨rfl, rfl⟩

theorem pay_exits {coordIdxsMap : CoordIdxsMap}
    (h : pay coordIdxsMap idx amount feeSel r = some (acc, r')) : r'.exits = r.exits := by
  obtain ⟨fee, r₁, tree, -, howe, -, rfl, -⟩ := pay_moved h
  obtain ⟨fees, rfl⟩ := owe_fees howe
  rfl

end Keeps

theorem applyL1_fees [Libraries] {r r' : Rollup} {tx : L1Tx} {amount : Int} {exit : ExitOut}
    (h : applyL1 tx amount depositAmount r = some (exit, r')) : r'.fees = r.fees := by
  cases applyL1_step h with
  | forceTransfer _ htake hgive => exact (give_keeps hgive).2.trans (take_keeps htake).2
  | createAccountDeposit _ hopen hadvance => exact (advance_keeps hadvance).2.trans (openAccount_keeps hopen).2
  | deposit _ htake => exact (take_keeps htake).2
  | depositTransfer _ htake hgive => exact (give_keeps hgive).2.trans (take_keeps htake).2
  | createAccountDepositTransfer _ _ hopen hgive hadvance =>
    exact (advance_keeps hadvance).2.trans ((give_keeps hgive).2.trans (openAccount_keeps hopen).2)
  | forceExit _ htake hleave =>
    have hkept := (take_keeps htake).2
    obtain ⟨_, -, rfl⟩ := leave_exits hleave
    exact hkept
  | unknown _ => rfl

def charges (tx : PoolL2Tx) : Bool :=
  isTransfer tx.type || tx.type = some .exit

/-- What an L2 transaction can do, by its type. -/
inductive L2Step [Libraries] (coordIdxsMap : CoordIdxsMap) (tx : PoolL2Tx) (r : Rollup) : ExitOut → Rollup → Prop
  | transfer {acc : Account} {r₁ r' : Rollup} (htype : isTransfer tx.type = true)
      (hpay : pay coordIdxsMap tx.fromIdx tx.amount tx.fee r = some (acc, r₁))
      (hgive : give (receiver tx) tx.amount r₁ = some ((), r')) : L2Step coordIdxsMap tx r {} r'
  | exit {acc : Account} {r₁ r' : Rollup} {exit : ExitOut} (htype : tx.type = some .exit)
      (hpay : pay coordIdxsMap tx.fromIdx tx.amount tx.fee r = some (acc, r₁))
      (hleave : leave tx.fromIdx acc tx.amount tx.amount r₁ = some (exit, r')) : L2Step coordIdxsMap tx r exit r'
  | unknown (htype : charges tx = false) : L2Step coordIdxsMap tx r {} r

section L2

variable [Libraries] {r r' : Rollup} {coordIdxsMap : CoordIdxsMap} {tx : PoolL2Tx} {exit : ExitOut}

theorem l2Tx_step (h : l2Tx coordIdxsMap tx r = some (exit, r')) : L2Step coordIdxsMap tx r exit r' := by
  rw [l2Tx] at h
  by_cases htransfer : isTransfer tx.type = true
  · rw [if_pos htransfer] at h
    obtain ⟨_, r₁, hpay, h₁⟩ := bind_some.mp h
    obtain ⟨_, r₂, hgive, hret⟩ := bind_some.mp h₁
    cases hret
    exact .transfer htransfer hpay hgive
  · rw [if_neg htransfer] at h
    by_cases hexit : tx.type = some .exit
    · rw [if_pos hexit] at h
      obtain ⟨_, r₁, hpay, hleave⟩ := bind_some.mp h
      exact .exit hexit hpay hleave
    · rw [if_neg hexit] at h
      cases h
      exact .unknown (by simp [charges, htransfer, hexit])

theorem l2Tx_currentIdx (h : l2Tx coordIdxsMap tx r = some (exit, r')) : r'.currentIdx = r.currentIdx := by
  cases l2Tx_step h with
  | transfer _ hpay hgive => exact (currentIdx_give hgive).trans (currentIdx_pay hpay)
  | exit _ hpay hleave => exact (currentIdx_leave hleave).trans (currentIdx_pay hpay)
  | unknown _ => rfl

end L2

/-- What a batch never does to its state: lose an account, or go back to a smaller index. -/
structure Evolves (r r' : Rollup) : Prop where
  persists : r.accounts.Persists r'.accounts
  currentIdx_le : r.currentIdx ≤ r'.currentIdx
  exits : r'.exits.isSome = r.exits.isSome
  currentBatch : r'.currentBatch = r.currentBatch

theorem Evolves.refl (r : Rollup) : Evolves r r :=
  ⟨.refl _, Nat.le_refl _, rfl, rfl⟩

theorem Evolves.trans (r r' r'' : Rollup) (h : Evolves r r') (h' : Evolves r' r'') : Evolves r r'' :=
  ⟨h.persists.trans h'.persists, Nat.le_trans h.currentIdx_le h'.currentIdx_le, h'.exits.trans h.exits,
    h'.currentBatch.trans h.currentBatch⟩

section Evolves

variable {idx : Nat} {amount : Int}

theorem advance_evolves : Within Evolves advance := by
  intro r u r' h
  obtain ⟨-, rfl⟩ := advance_some.mp h
  exact ⟨.refl _, Nat.le_succ _, rfl, rfl⟩

theorem persists_of_read {acc acc' : Account} (hget : getAccountInTreeDB tree idx = .ok acc)
    (h : acc'.Encodable) (htoken : acc'.tokenID = acc.tokenID) (hbjj : acc'.bjj = acc.bjj)
    (haddr : acc'.ethAddr = acc.ethAddr) : tree.Persists (tree.insert idx (acc'.store h)) := by
  obtain ⟨-, a, ha, rfl⟩ := getAccountInTreeDB_ok.mp hget
  intro other b hb
  by_cases heq : other = idx
  · subst heq
    rw [ha] at hb
    cases hb
    exact ⟨_, Finmap.lookup_insert _, htoken, hbjj, haddr⟩
  · exact ⟨b, by rw [Finmap.lookup_insert_of_ne _ heq, hb], .refl b⟩

variable [Libraries]

theorem give_evolves : Within Evolves (give idx amount) := by
  intro r u r' h
  obtain ⟨acc, hget, hencodable, rfl⟩ := give_some.mp h
  exact ⟨persists_of_read hget hencodable rfl rfl rfl, Nat.le_refl _, rfl, rfl⟩

theorem take_evolves : Within Evolves (take idx amount) := by
  intro r acc r' h
  obtain ⟨tree, hmoved, rfl, -⟩ := take_moved h
  exact ⟨hmoved.persists, Nat.le_refl _, rfl, rfl⟩

theorem pay_evolves {coordIdxsMap : CoordIdxsMap} :
    Within Evolves (pay coordIdxsMap idx amount feeSel) := by
  intro r acc r' h
  obtain ⟨fee, r₁, tree, -, howe, hmoved, rfl, -⟩ := pay_moved h
  obtain ⟨fees, rfl⟩ := owe_fees howe
  exact ⟨hmoved.persists, Nat.le_refl _, rfl, rfl⟩

theorem openAccount_evolves {acc : Account} : Within Evolves (openAccount acc) := by
  intro r u r' h
  obtain ⟨-, hfresh, hencodable, _, _, rfl⟩ := openAccount_inserts h
  exact ⟨.insert hfresh _, Nat.le_refl _, rfl, rfl⟩

theorem leave_evolves {acc : Account} {original : Int} : Within Evolves (leave idx acc amount original) := by
  intro r exit r' h
  obtain ⟨exits, hexits, rfl⟩ := leave_exits h
  exact ⟨.refl _, Nat.le_refl _, hexits, rfl⟩

omit [Libraries] in
theorem bind_evolves {α β : Type} {m : RollupM α} {n : α → RollupM β} (hm : Within Evolves m)
    (hn : ∀ a, Within Evolves (n a)) : Within Evolves (m >>= n) :=
  hm.bind Evolves.trans hn

omit [Libraries] in
theorem pure_evolves {α : Type} (a : α) : Within Evolves (pure a : RollupM α) :=
  .pure Evolves.refl a

theorem applyL1_evolves (tx : L1Tx) (amount depositAmount : Int) : Within Evolves (applyL1 tx amount depositAmount) := by
  intro r exit r' h
  cases applyL1_step h with
  | forceTransfer _ htake hgive => exact (take_evolves _ _ _ htake).trans _ _ _ (give_evolves _ _ _ hgive)
  | createAccountDeposit _ hopen hadvance =>
    exact (openAccount_evolves _ _ _ hopen).trans _ _ _ (advance_evolves _ _ _ hadvance)
  | deposit _ htake => exact take_evolves _ _ _ htake
  | depositTransfer _ htake hgive => exact (take_evolves _ _ _ htake).trans _ _ _ (give_evolves _ _ _ hgive)
  | createAccountDepositTransfer _ _ hopen hgive hadvance =>
    exact ((openAccount_evolves _ _ _ hopen).trans _ _ _ (give_evolves _ _ _ hgive)).trans _ _ _
      (advance_evolves _ _ _ hadvance)
  | forceExit _ htake hleave => exact (take_evolves _ _ _ htake).trans _ _ _ (leave_evolves _ _ _ hleave)
  | unknown => exact .refl _

theorem l1Tx_evolves (tx : L1Tx) : Within Evolves (l1Tx tx) := by
  intro r out r' h
  obtain ⟨_, _, hget, h⟩ := bind_some.mp h
  cases hget
  exact bind_evolves (applyL1_evolves tx _ _) (fun _ => pure_evolves _) r out r' h

omit [Libraries] in
theorem getAccount_of_persists {tree' : AccountTree} {acc : Account} (h : tree.Persists tree')
    (hget : getAccountInTreeDB tree idx = .ok acc) :
    ∃ acc', getAccountInTreeDB tree' idx = .ok acc' ∧ acc'.idx = acc.idx ∧ acc'.tokenID = acc.tokenID ∧
      acc'.bjj = acc.bjj ∧ acc'.ethAddr = acc.ethAddr := by
  obtain ⟨hidx, a, ha, rfl⟩ := getAccountInTreeDB_ok.mp hget
  obtain ⟨a', ha', howner⟩ := h idx a ha
  exact ⟨a'.account idx, getAccountInTreeDB_ok.mpr ⟨hidx, a', ha', rfl⟩, rfl, howner.tokenID, howner.bjj, howner.ethAddr⟩

theorem getAccount_created {tx : L1Tx} {r r' : Rollup} {exit : ExitOut}
    (htype : tx.type = some .createAccountDeposit ∨ tx.type = some .createAccountDepositTransfer)
    (h : applyL1 tx amount depositAmount r = some (exit, r')) : ∃ acc, r'.getAccount r'.currentIdx = .ok acc := by
  have hopened : ∀ {acc : Account} {r₁ : Rollup} {u : Unit}, openAccount acc r = some (u, r₁) →
      ∃ acc', r₁.getAccount (r₁.currentIdx + 1) = .ok acc' := by
    intro acc r₁ u hopen
    obtain ⟨hidx, -, hencodable, _, _, rfl⟩ := openAccount_inserts hopen
    exact ⟨_, getAccountInTreeDB_ok.mpr ⟨hidx, _, Finmap.lookup_insert _, rfl⟩⟩
  cases applyL1_step h with
  | createAccountDeposit _ hopen hadvance =>
    obtain ⟨acc, hacc⟩ := hopened hopen
    obtain ⟨-, rfl⟩ := advance_some.mp hadvance
    exact ⟨acc, hacc⟩
  | createAccountDepositTransfer _ _ hopen hgive hadvance =>
    obtain ⟨acc, hacc⟩ := hopened hopen
    obtain ⟨acc', hacc', -⟩ := getAccount_of_persists (give_evolves _ _ _ hgive).persists hacc
    obtain ⟨_, -, _, rfl⟩ := give_some.mp hgive
    obtain ⟨-, rfl⟩ := advance_some.mp hadvance
    exact ⟨acc', hacc'⟩
  | forceTransfer hother | deposit hother | depositTransfer hother | forceExit hother => simp [hother] at htype
  | unknown hother => rcases htype with htype | htype <;> simp [htype, knownL1Type] at hother

theorem l2Tx_evolves (coordIdxsMap : CoordIdxsMap) (tx : PoolL2Tx) : Within Evolves (l2Tx coordIdxsMap tx) := by
  rw [l2Tx]
  split_ifs
  · exact bind_evolves pay_evolves fun _ => bind_evolves give_evolves fun _ => pure_evolves _
  · exact bind_evolves pay_evolves fun _ => leave_evolves
  · exact pure_evolves _

end Evolves

end Rollup

end HermezRollup
