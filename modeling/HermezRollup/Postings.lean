import HermezRollup.Balances
import HermezRollup.BatchRefinement
import HermezRollup.Bookkeeping
import HermezRollup.EffectiveAmounts

/-! The books of a batch.  Every transaction posts entries to the accounts, and every exit an entry to the
tree of the exits; nothing else moves a balance.  The entries are read off the transactions as the processor
returns them, with their effective amounts. -/

namespace HermezRollup

open Bytes Fallible Simulation Spec Bookkeeping

namespace AccountTree

/-- Every leaf of an exit tree is one of the account at its index. -/
def OwnedBy (tree accounts : AccountTree) : Prop :=
  ∀ idx leaf, tree.lookup idx = some leaf → idx ≤ maxIdxValue ∧ leaf.nonce = 0 ∧
    ∃ a, accounts.lookup idx = some a ∧ a.SameOwner leaf

theorem OwnedBy.persists {tree accounts accounts' : AccountTree} (h : OwnedBy tree accounts)
    (hpersists : accounts.Persists accounts') : OwnedBy tree accounts' := by
  intro idx leaf hleaf
  obtain ⟨hidx, hnonce, a, ha, howner⟩ := h idx leaf hleaf
  obtain ⟨a', ha', howner'⟩ := hpersists idx a ha
  exact ⟨hidx, hnonce, a', ha', howner'.symm.trans howner⟩

def tokenOf (accounts : AccountTree) (idx : Nat) : Option TokenID :=
  (accounts.lookup idx).map StoredAccount.tokenID

theorem Persists.tokenOf {tree tree' : AccountTree} (h : Persists tree tree') {idx : Nat} {a : StoredAccount}
    (ha : tree.lookup idx = some a) : tree'.tokenOf idx = tree.tokenOf idx := by
  obtain ⟨a', ha', howner⟩ := h idx a ha
  rw [AccountTree.tokenOf, AccountTree.tokenOf, ha, ha', Option.map_some, Option.map_some, howner.tokenID]

theorem Moved.posts {tree tree' : AccountTree} {idx : Nat} {delta : Int} {count : Nat}
    (h : Moved tree idx delta count tree') : Posts StoredAccount.balance tree [(idx, delta)] tree' := by
  obtain ⟨a, a', ha, rfl, -, -, hbalance⟩ := h
  refine .single a' ?_
  rw [holds, ha, Option.elim_some, hbalance]

end AccountTree

namespace Rollup

open AccountTree

/-- What a part of a batch posts: `entries` to the accounts and `exits` to the leaves of the exit tree. -/
structure Books (r : Rollup) (entries exits : List (Nat × Int)) (r' : Rollup) : Prop where
  accounts : Posts StoredAccount.balance r.accounts entries r'.accounts
  persists : r.accounts.Persists r'.accounts
  exits : ∀ tree, r.exits = some tree → ∃ tree', r'.exits = some tree' ∧ Posts StoredAccount.balance tree exits tree' ∧
    (OwnedBy tree r.accounts → OwnedBy tree' r'.accounts)

section Books

variable {r r' r'' : Rollup} {entries entries' exits exits' : List (Nat × Int)}

theorem Books.of_accounts (hposts : Posts StoredAccount.balance r.accounts entries r'.accounts)
    (hpersists : r.accounts.Persists r'.accounts) (hexits : r'.exits = r.exits) : Books r entries [] r' :=
  ⟨hposts, hpersists, fun tree htree => ⟨tree, hexits.trans htree, .nil tree, fun howned => howned.persists hpersists⟩⟩

theorem Books.refl (r : Rollup) : Books r [] [] r :=
  .of_accounts (.nil _) (.refl _) rfl

theorem Books.trans (h : Books r entries exits r') (h' : Books r' entries' exits' r'') :
    Books r (entries ++ entries') (exits ++ exits') r'' := by
  refine ⟨h.accounts.append h'.accounts, h.persists.trans h'.persists, fun tree htree => ?_⟩
  obtain ⟨tree', htree', hposts, howned⟩ := h.exits tree htree
  obtain ⟨tree'', htree'', hposts', howned'⟩ := h'.exits tree' htree'
  exact ⟨tree'', htree'', hposts.append hposts', fun hown => howned' (howned hown)⟩

variable [Libraries] {idx : Nat} {acc : Account} {amount : Int} {u : Unit}

theorem give_books (hamount : 0 ≤ amount) (h : give idx amount r = some (u, r')) : Books r [(idx, amount)] [] r' := by
  obtain ⟨tree, hmoved, rfl⟩ := give_moved hamount h
  exact .of_accounts hmoved.posts hmoved.persists rfl

theorem take_books (h : take idx amount r = some (acc, r')) : Books r [(idx, -amount)] [] r' := by
  obtain ⟨tree, hmoved, rfl, -⟩ := take_moved h
  exact .of_accounts hmoved.posts hmoved.persists rfl

theorem pay_books {coordIdxsMap : CoordIdxsMap} {feeSel : FeeSelector}
    (h : pay coordIdxsMap idx amount feeSel r = some (acc, r')) :
    Books r [(idx, -(amount + feeAmount amount feeSel))] [] r' := by
  obtain ⟨fee, r₁, tree, hfee, howe, hmoved, rfl, -⟩ := pay_moved h
  obtain ⟨fees, rfl⟩ := owe_fees howe
  rw [calcFeeAmount_ok hfee] at hmoved
  exact .of_accounts hmoved.posts hmoved.persists rfl

theorem openAccount_books (hbalance : 0 ≤ acc.balance) (h : openAccount acc r = some (u, r')) :
    Books r [(r.currentIdx + 1, acc.balance)] [] r' := by
  obtain ⟨-, hfresh, hencodable, _, _, rfl⟩ := openAccount_inserts h
  refine .of_accounts (.single _ ?_) (.insert hfresh _) rfl
  rw [holds, Finmap.lookup_eq_none.mpr hfresh, Option.elim_none, Int.zero_add]
  exact Int.natAbs_of_nonneg hbalance

omit [Libraries] in
theorem advance_books (h : advance r = some (u, r')) : Books r [] [] r' := by
  obtain ⟨-, rfl⟩ := advance_some.mp h
  exact .of_accounts (.nil _) (.refl _) rfl

/-- What an exit posts to the exit tree: nothing if its amount was zero from the start. -/
def exitEntry (idx : Nat) (amount original : Int) : List (Nat × Int) :=
  if original = 0 then [] else [(idx, amount)]

theorem leave_books {original : Int} {exit : ExitOut} (hamount : 0 ≤ amount) (hacc : r.getAccount idx = .ok acc)
    (h : leave idx acc amount original r = some (exit, r')) : Books r [] (exitEntry idx amount original) r' := by
  obtain ⟨hcase, rfl, -⟩ | ⟨tree, leaf, acc', hne, htree, hleaf, rfl, -, -, -⟩ := leave_some hamount h
  · refine ⟨.nil _, .refl _, fun tree htree => ?_⟩
    have hzero : original = 0 := hcase.resolve_left (by rw [htree]; simp)
    rw [exitEntry, if_pos hzero]
    exact ⟨tree, htree, .nil tree, id⟩
  · refine ⟨.nil _, .refl _, fun tree' htree' => ?_⟩
    rw [htree] at htree'
    cases htree'
    obtain ⟨hidx, a, ha, rfl⟩ := getAccountInTreeDB_ok.mp hacc
    rw [exitEntry, if_neg hne]
    refine ⟨_, rfl, .single leaf ?_, fun howned other found hfound => ?_⟩
    · cases hlookup : tree.lookup idx with
      | none => rw [holds, hlookup, Option.elim_none, Int.zero_add, (hleaf.fresh hlookup).2.2.2.2]
      | some old => rw [holds, hlookup, Option.elim_some, (hleaf.more old hlookup).2.2]
    · by_cases heq : other = idx
      · subst heq
        rw [Finmap.lookup_insert] at hfound
        cases hfound
        cases hlookup : tree.lookup other with
        | none =>
          obtain ⟨htoken, hbjj, haddr, hnonce, -⟩ := hleaf.fresh hlookup
          exact ⟨hidx, hnonce, a, ha, htoken, hbjj, haddr⟩
        | some old =>
          obtain ⟨howner, hnonce, -⟩ := hleaf.more old hlookup
          obtain ⟨-, hzero, b, hb, howner'⟩ := howned other old hlookup
          exact ⟨hidx, hnonce.trans hzero, b, hb, howner'.trans howner⟩
      · rw [Finmap.lookup_insert_of_ne _ heq] at hfound
        exact howned other found hfound

end Books

/-! ### L1 transactions -/

/-- What an L1 transaction with these effective amounts posts to the accounts. -/
def l1Entries (currentIdx : Nat) (tx : L1Tx) (amount depositAmount : Int) : List (Nat × Int) :=
  match tx.type with
  | some .forceTransfer => [(tx.fromIdx, -amount), (tx.toIdx, amount)]
  | some .createAccountDeposit => [(currentIdx + 1, depositAmount)]
  | some .deposit => [(tx.fromIdx, depositAmount - amount)]
  | some .depositTransfer => [(tx.fromIdx, depositAmount - amount), (tx.toIdx, amount)]
  | some .createAccountDepositTransfer => [(currentIdx + 1, depositAmount - amount), (tx.toIdx, amount)]
  | some .forceExit => [(tx.fromIdx, -amount)]
  | _ => []

def l1Exits (tx : L1Tx) (amount : Int) : List (Nat × Int) :=
  if tx.type = some .forceExit then exitEntry tx.fromIdx amount tx.amount else []

section L1

variable [Libraries] {r r' : Rollup} {tx : L1Tx} {amount depositAmount : Int} {exit : ExitOut}

theorem applyL1_books (hamount : 0 ≤ amount) (hdeposit : 0 ≤ depositAmount)
    (h : applyL1 tx amount depositAmount r = some (exit, r')) :
    Books r (l1Entries r.currentIdx tx amount depositAmount) (l1Exits tx amount) r' := by
  rw [l1Entries, l1Exits]
  cases applyL1_step h with
  | forceTransfer htype htake hgive => simpa [htype] using (take_books htake).trans (give_books hamount hgive)
  | createAccountDeposit htype hopen hadvance =>
    simpa [htype, newAccount] using (openAccount_books hdeposit hopen).trans (advance_books hadvance)
  | deposit htype htake => simpa [htype] using take_books htake
  | depositTransfer htype htake hgive => simpa [htype] using (take_books htake).trans (give_books hamount hgive)
  | createAccountDepositTransfer htype hle hopen hgive hadvance =>
    simpa [htype, newAccount] using
      ((openAccount_books hle hopen).trans (give_books hamount hgive)).trans (advance_books hadvance)
  | forceExit htype htake hleave =>
    obtain ⟨_, -, -, hacc⟩ := take_moved htake
    simpa [htype] using (take_books htake).trans (leave_books hamount hacc hleave)
  | unknown htype =>
    have hnone : tx.type ≠ some .forceExit := fun heq => by simp [heq, knownL1Type] at htype
    rw [if_neg hnone]
    split <;> simp_all [knownL1Type, Books.refl]

end L1

/-- The entries of an L1 transaction that carries its effective amounts. -/
def l1TxEntries (currentIdx : Nat) (tx : L1Tx) : List (Nat × Int) :=
  l1Entries currentIdx tx (tx.effectiveAmount.getD 0) (tx.effectiveDepositAmount.getD 0)

def l1TxExits (tx : L1Tx) : List (Nat × Int) :=
  l1Exits tx (tx.effectiveAmount.getD 0)

/-- The entries of a list of L1 transactions, which open accounts one after the other. -/
def l1TxsEntries : (currentIdx : Nat) → List L1Tx → List (Nat × Int)
  | _, [] => []
  | currentIdx, tx :: rest => l1TxEntries currentIdx tx ++ l1TxsEntries (currentIdx + creates tx) rest

section L1Txs

variable [Libraries] {r r' : Rollup}

theorem l1Tx_books {tx : L1Tx} {out : L1Tx × ExitOut} (hamount : 0 ≤ tx.amount) (hdeposit : 0 ≤ tx.depositAmount)
    (h : l1Tx tx r = some (out, r')) :
    Books r (l1TxEntries r.currentIdx out.1) (l1TxExits out.1) r' ∧ r'.currentIdx = r.currentIdx + creates out.1 := by
  obtain ⟨happly, hout⟩ := l1Tx_some.mp h
  obtain ⟨⟨heffective, -⟩, heffectiveDeposit, -⟩ := effectiveAmounts_bounds r.toStore hamount hdeposit
  have hbooks := applyL1_books heffective heffectiveDeposit happly
  have hcurrent := applyL1_currentIdx happly
  rw [hout, effectiveTx]
  by_cases hknown : knownL1Type tx.type = true
  · rw [if_pos hknown]
    exact ⟨hbooks, hcurrent⟩
  · rw [if_neg hknown]
    refine ⟨?_, hcurrent⟩
    have hnone : ∀ amount depositAmount, l1Entries r.currentIdx tx amount depositAmount = [] := by
      intro amount depositAmount
      rw [l1Entries]
      split <;> simp_all [knownL1Type]
    have hexits : ∀ amount, l1Exits tx amount = [] := by
      intro amount
      rw [l1Exits, if_neg fun heq => hknown (by simp [heq, knownL1Type])]
    rw [hnone, hexits] at hbooks
    rw [l1TxEntries, l1TxExits, hnone, hexits]
    exact hbooks

/-- **The books of a list of L1 transactions.** -/
theorem l1Txs_books {txs : List L1Tx} {outs : List (L1Tx × ExitOut)}
    (hamounts : ∀ tx ∈ txs, 0 ≤ tx.amount ∧ 0 ≤ tx.depositAmount) (h : forEach l1Tx txs r = some (outs, r')) :
    Books r (l1TxsEntries r.currentIdx (outs.map Prod.fst)) ((outs.map Prod.fst).flatMap l1TxExits) r' ∧
      r'.currentIdx = r.currentIdx + ((outs.map Prod.fst).map creates).sum := by
  induction txs generalizing r outs with
  | nil =>
    cases h
    exact ⟨.refl _, rfl⟩
  | cons tx rest ih =>
    obtain ⟨out, r₁, outs₁, hfirst, hrest, rfl⟩ := forEach_cons_some.mp h
    obtain ⟨hamount, hdeposit⟩ := hamounts tx List.mem_cons_self
    obtain ⟨hbooks, hcurrent⟩ := l1Tx_books hamount hdeposit hfirst
    obtain ⟨hbooks', hcurrent'⟩ := ih (fun tx' htx' => hamounts tx' (List.mem_cons_of_mem _ htx')) hrest
    rw [hcurrent] at hbooks'
    refine ⟨hbooks.trans hbooks', ?_⟩
    rw [hcurrent', hcurrent, List.map_cons, List.map_cons, List.sum_cons, Nat.add_assoc]

end L1Txs

/-! ### L2 transactions and fees -/

def feeOf (tx : PoolL2Tx) : Int :=
  if charges tx then feeAmount tx.amount tx.fee else 0

/-- What an L2 transaction posts to the accounts; the fee leaves the sender at once. -/
def l2Entries (tx : PoolL2Tx) : List (Nat × Int) :=
  if isTransfer tx.type then [(tx.fromIdx, -(tx.amount + feeOf tx)), (receiver tx, tx.amount)]
  else if tx.type = some .exit then [(tx.fromIdx, -(tx.amount + feeOf tx))]
  else []

def l2Exits (tx : PoolL2Tx) : List (Nat × Int) :=
  if tx.type = some .exit then exitEntry tx.fromIdx tx.amount tx.amount else []

section L2

variable [Libraries] {r r' : Rollup} {coordIdxsMap : CoordIdxsMap} {tx : PoolL2Tx} {exit : ExitOut}

theorem l2Tx_books (hamount : 0 ≤ tx.amount) (h : l2Tx coordIdxsMap tx r = some (exit, r')) :
    Books r (l2Entries tx) (l2Exits tx) r' := by
  have hexit_of_transfer : isTransfer tx.type = true → tx.type ≠ some .exit := by
    intro htransfer heq
    simp [heq, isTransfer] at htransfer
  rw [l2Entries, l2Exits]
  cases l2Tx_step h with
  | transfer htype hpay hgive =>
    have hfee : feeOf tx = feeAmount tx.amount tx.fee := by simp [feeOf, charges, htype]
    rw [if_pos htype, if_neg (hexit_of_transfer htype), hfee]
    exact (pay_books hpay).trans (give_books hamount hgive)
  | exit htype hpay hleave =>
    have hfee : feeOf tx = feeAmount tx.amount tx.fee := by simp [feeOf, charges, htype]
    obtain ⟨_, _, _, -, -, -, -, hacc⟩ := pay_moved hpay
    rw [if_neg (by simp [htype, isTransfer]), if_pos htype, if_pos htype, hfee]
    exact (pay_books hpay).trans (leave_books hamount hacc hleave)
  | unknown htype =>
    rw [charges, Bool.or_eq_false_iff, decide_eq_false_iff_not] at htype
    rw [if_neg (by simp [htype.1]), if_neg htype.2, if_neg htype.2]
    exact .refl r

/-- What the coordinator account `c` is owed for a transaction: the fee, if it is the one for the token of
the sender. -/
def feeShare (coordIdxsMap : CoordIdxsMap) (accounts : AccountTree) (c : Nat) (tx : PoolL2Tx) : Int :=
  if (accounts.tokenOf tx.fromIdx).bind coordIdxsMap.lookup = some c then feeOf tx else 0

/-- What `c` is owed for all transactions. -/
def feeTotal (coordIdxsMap : CoordIdxsMap) (accounts : AccountTree) (txs : List PoolL2Tx) (c : Nat) : Int :=
  (txs.map (feeShare coordIdxsMap accounts c)).sum

theorem pay_fees {idx : Nat} {amount : Int} {feeSel : FeeSelector} {acc : Account}
    (h : pay coordIdxsMap idx amount feeSel r = some (acc, r')) (c : Nat) :
    r'.fees c = r.fees c +
      if (r.accounts.tokenOf idx).bind coordIdxsMap.lookup = some c then feeAmount amount feeSel else 0 := by
  obtain ⟨fee, r₁, tree, hfee, howe, ⟨a, a', ha, rfl, howner, -⟩, rfl, hacc⟩ := pay_moved h
  obtain ⟨-, stored, hstored, rfl⟩ := getAccountInTreeDB_ok.mp hacc
  have hsame : (r.accounts.insert idx a').lookup idx = some stored := hstored
  rw [Finmap.lookup_insert] at hsame
  cases hsame
  rw [AccountTree.tokenOf, ha, Option.map_some, Option.bind_some, ← calcFeeAmount_ok hfee, ← howner.tokenID]
  obtain ⟨hnone, rfl⟩ | ⟨coordIdx, _, hsome, -, rfl⟩ := owe_some.mp howe
  · rw [show (a'.account idx).tokenID = a'.tokenID from rfl] at hnone
    rw [hnone, if_neg (by simp), Int.add_zero]
  · rw [show (a'.account idx).tokenID = a'.tokenID from rfl] at hsome
    rw [hsome]
    by_cases hc : coordIdx = c
    · subst hc
      rw [if_pos rfl]
      exact Function.update_self ..
    · rw [if_neg (by simpa using hc), Int.add_zero]
      exact Function.update_of_ne (Ne.symm hc) ..

theorem l2Tx_fees (h : l2Tx coordIdxsMap tx r = some (exit, r')) {accounts : AccountTree}
    (hpersists : r.accounts.Persists accounts) (c : Nat) :
    r'.fees c = r.fees c + feeShare coordIdxsMap accounts c tx := by
  have htoken : ∀ {idx : Nat} {amount : Int} {feeSel : FeeSelector} {acc : Account} {r₁ : Rollup},
      pay coordIdxsMap idx amount feeSel r = some (acc, r₁) → accounts.tokenOf idx = r.accounts.tokenOf idx := by
    intro idx amount feeSel acc r₁ hpay
    obtain ⟨fee, _, _, -, -, ⟨a, _, ha, -⟩, -⟩ := pay_moved hpay
    exact hpersists.tokenOf ha
  rw [feeShare]
  cases l2Tx_step h with
  | transfer htype hpay hgive =>
    obtain ⟨_, -, _, rfl⟩ := give_some.mp hgive
    have hfee : feeOf tx = feeAmount tx.amount tx.fee := by simp [feeOf, charges, htype]
    rw [htoken hpay, hfee]
    exact pay_fees hpay c
  | exit htype hpay hleave =>
    obtain ⟨_, -, rfl⟩ := leave_exits hleave
    have hfee : feeOf tx = feeAmount tx.amount tx.fee := by simp [feeOf, charges, htype]
    rw [htoken hpay, hfee]
    exact pay_fees hpay c
  | unknown htype =>
    have hfee : feeOf tx = 0 := by simp [feeOf, htype]
    rw [hfee, ite_self, Int.add_zero]

/-- **The books of a list of L2 transactions**, and the fees they leave to pay out. -/
theorem l2Txs_books {txs : List PoolL2Tx} {exits : List ExitOut} (hamounts : ∀ tx ∈ txs, 0 ≤ tx.amount)
    (h : forEach (l2Tx coordIdxsMap) txs r = some (exits, r')) :
    Books r (txs.flatMap l2Entries) (txs.flatMap l2Exits) r' ∧
      ∀ accounts, r'.accounts.Persists accounts → ∀ c, r'.fees c = r.fees c + feeTotal coordIdxsMap accounts txs c := by
  induction txs generalizing r exits with
  | nil =>
    cases h
    exact ⟨.refl _, fun _ _ c => (Int.add_zero _).symm⟩
  | cons tx rest ih =>
    obtain ⟨exit, r₁, exits₁, hfirst, hrest, rfl⟩ := forEach_cons_some.mp h
    have hbooks := l2Tx_books (hamounts tx List.mem_cons_self) hfirst
    obtain ⟨hbooks', hfees⟩ := ih (fun tx' htx' => hamounts tx' (List.mem_cons_of_mem _ htx')) hrest
    refine ⟨hbooks.trans hbooks', fun accounts hpersists c => ?_⟩
    have hfirstFees := l2Tx_fees hfirst ((hbooks.persists.trans hbooks'.persists).trans hpersists) c
    rw [hfees accounts hpersists c, hfirstFees, feeTotal, feeTotal, List.map_cons, List.sum_cons, Int.add_assoc]

/-- **The fees paid out**, which are not negative. -/
theorem payFees_books {coordIdxs : List Nat} {outs : List Unit} (hfees : ∀ c, 0 ≤ r.fees c)
    (h : forEach payFee coordIdxs r = some (outs, r')) : Books r (coordIdxs.map fun c => (c, r.fees c)) [] r' := by
  induction coordIdxs generalizing r outs with
  | nil =>
    cases h
    exact .refl _
  | cons c rest ih =>
    obtain ⟨_, r₁, outs₁, hfirst, hrest, rfl⟩ := forEach_cons_some.mp h
    rw [payFee, bind_of_some (get_run r)] at hfirst
    have hbooks := give_books (hfees c) hfirst
    obtain ⟨tree, -, rfl⟩ := give_moved (hfees c) hfirst
    exact hbooks.trans (ih hfees hrest)

end L2

/-! ### A whole batch -/

/-- The entries of a batch: those of its L1 transactions, those of its L2 transactions, and the fees. -/
def batchEntries (currentIdx : Nat) (l1Txs : List L1Tx) (l2Txs : List PoolL2Tx) (coordIdxs : List Nat)
    (coordIdxsMap : CoordIdxsMap) (accounts : AccountTree) : List (Nat × Int) :=
  l1TxsEntries currentIdx l1Txs ++ l2Txs.flatMap l2Entries ++
    coordIdxs.map fun c => (c, feeTotal coordIdxsMap accounts l2Txs c)

theorem feeTotal_nonneg {txs : List PoolL2Tx} (hamounts : ∀ tx ∈ txs, 0 ≤ tx.amount) (coordIdxsMap : CoordIdxsMap)
    (accounts : AccountTree) (c : Nat) : 0 ≤ feeTotal coordIdxsMap accounts txs c := by
  refine List.sum_nonneg fun share hshare => ?_
  obtain ⟨tx, htx, rfl⟩ := List.mem_map.mp hshare
  have hfee := feeAmount_nonneg (hamounts tx htx) tx.fee
  rw [feeShare, feeOf]
  split_ifs <;> first | exact hfee | exact Int.le_refl 0

/-- What the accounts that satisfy `p` exit with. -/
def exitedBy (p : Nat → Bool) (l1Txs : List L1Tx) (l2Txs : List PoolL2Tx) : Int :=
  ((l1Txs.filter fun tx => tx.type = some .forceExit ∧ p tx.fromIdx).map fun tx => tx.effectiveAmount.getD 0).sum +
    ((l2Txs.filter fun tx => tx.type = some .exit ∧ p tx.fromIdx).map fun tx => tx.amount).sum

theorem exitedBy_of_map {txs txs' : List L1Tx}
    (h : txs.map TxProcessor.withoutEffectiveFromIdx = txs'.map TxProcessor.withoutEffectiveFromIdx) (p : Nat → Bool)
    (l2Txs : List PoolL2Tx) : exitedBy p txs l2Txs = exitedBy p txs' l2Txs := by
  refine TxProcessor.eq_of_withoutEffectiveFromIdx (f := fun txs => exitedBy p txs l2Txs) (fun txs => ?_) h
  simp only [exitedBy, List.filter_map, List.map_map]
  rfl

theorem posted_exitEntry_indicator (p : Nat → Bool) (idx : Nat) {amount original : Int} (hzero : original = 0 → amount = 0) :
    posted (fun i => if p i then 1 else 0) (exitEntry idx amount original) = if p idx then amount else 0 := by
  rw [exitEntry]
  by_cases horiginal : original = 0
  · rw [if_pos horiginal, posted_nil, hzero horiginal, ite_self]
  · rw [if_neg horiginal, posted_cons, posted_nil]
    split <;> simp

theorem posted_exits (p : Nat → Bool) {l1Txs : List L1Tx} (l2Txs : List PoolL2Tx)
    (hzero : ∀ tx ∈ l1Txs, tx.type = some .forceExit → tx.amount = 0 → tx.effectiveAmount.getD 0 = 0) :
    posted (fun i => if p i then 1 else 0) (l1Txs.flatMap l1TxExits ++ l2Txs.flatMap l2Exits) =
      exitedBy p l1Txs l2Txs := by
  rw [posted_append, exitedBy]
  congr 1
  · induction l1Txs with
    | nil => rfl
    | cons tx rest ih =>
      rw [List.flatMap_cons, posted_append, ih fun tx' htx' => hzero tx' (List.mem_cons_of_mem _ htx'), l1TxExits,
        l1Exits, List.filter_cons]
      by_cases htype : tx.type = some .forceExit
      · rw [if_pos htype, posted_exitEntry_indicator p _ (hzero tx List.mem_cons_self htype)]
        by_cases hp : p tx.fromIdx = true <;> simp [htype, hp]
      · simp [htype]
  · induction l2Txs with
    | nil => rfl
    | cons tx rest ih =>
      rw [List.flatMap_cons, posted_append, ih, l2Exits, List.filter_cons]
      by_cases htype : tx.type = some .exit
      · rw [if_pos htype, posted_exitEntry_indicator p _ id]
        by_cases hp : p tx.fromIdx = true <;> simp [htype, hp]
      · simp [htype]

section Batch

variable [Libraries] {r r' : Rollup}

theorem l1Txs_effective {txs : List L1Tx} {outs : List (L1Tx × ExitOut)}
    (hamounts : ∀ tx ∈ txs, 0 ≤ tx.amount ∧ 0 ≤ tx.depositAmount) (h : forEach l1Tx txs r = some (outs, r')) :
    ∀ tx ∈ outs.map Prod.fst, knownL1Type tx.type = true →
      (0 ≤ tx.effectiveAmount.getD 0 ∧ tx.effectiveAmount.getD 0 ≤ tx.amount) ∧
        0 ≤ tx.effectiveDepositAmount.getD 0 ∧ tx.effectiveDepositAmount.getD 0 ≤ tx.depositAmount := by
  induction txs generalizing r outs with
  | nil =>
    cases h
    simp
  | cons tx rest ih =>
    obtain ⟨out, r₁, outs₁, hfirst, hrest, rfl⟩ := forEach_cons_some.mp h
    obtain ⟨-, hout⟩ := l1Tx_some.mp hfirst
    intro tx' htx' hknown
    obtain rfl | htx' := List.mem_cons.mp htx'
    · rw [hout, effectiveTx] at hknown ⊢
      split at hknown
      next htype =>
        rw [if_pos htype]
        obtain ⟨hamount, hdeposit⟩ := hamounts tx List.mem_cons_self
        exact effectiveAmounts_bounds r.toStore hamount hdeposit
      next htype => exact absurd hknown htype
    · exact ih (fun tx'' htx'' => hamounts tx'' (List.mem_cons_of_mem _ htx'')) hrest tx' htx' hknown

/-- **The books of a batch.** -/
theorem batch_books {coordIdxs : List Nat} {l1UserTxs l1CoordinatorTxs : List L1Tx} {l2Txs : List PoolL2Tx}
    {out : BatchOut} (hl1 : ∀ tx ∈ l1UserTxs ++ l1CoordinatorTxs, 0 ≤ tx.amount ∧ 0 ≤ tx.depositAmount)
    (hl2 : ∀ tx ∈ l2Txs, 0 ≤ tx.amount)
    (h : batch coordIdxs l1UserTxs l1CoordinatorTxs l2Txs r = some (out, r')) :
    Books r
      (batchEntries r.currentIdx ((out.users ++ out.coordinators).map Prod.fst) l2Txs out.coordIdxs out.coordIdxsMap
        r'.accounts)
      (((out.users ++ out.coordinators).map Prod.fst).flatMap l1TxExits ++ l2Txs.flatMap l2Exits) r' := by
  obtain ⟨r₁, r₂, r₃, us, husers, hcoordinators, -, -, htxs, hfees⟩ := batch_some.mp h
  obtain ⟨hbooks₁, -⟩ := l1Txs_books hl1 (forEach_append husers hcoordinators)
  obtain ⟨hbooks₂, hfeesOf⟩ := l2Txs_books hl2 htxs
  have hnonneg : ∀ c, 0 ≤ r₃.fees c := by
    intro c
    rw [hfeesOf _ (.refl _) c, Int.zero_add]
    exact feeTotal_nonneg hl2 _ _ c
  have hbooks₃ := payFees_books hnonneg hfees
  have hpaid : (out.coordIdxs.map fun c => (c, r₃.fees c)) =
      out.coordIdxs.map fun c => (c, feeTotal out.coordIdxsMap r'.accounts l2Txs c) := by
    refine List.map_congr_left fun c _ => ?_
    rw [hfeesOf _ hbooks₃.persists c, Int.zero_add]
  rw [hpaid] at hbooks₃
  -- setting the fees to zero before the L2 transactions is nothing the books see
  have hstart : Books r₂ [] [] { r₂ with fees := fun _ => 0 } := .of_accounts (.nil _) (.refl _) rfl
  have hall := (hbooks₁.trans (hstart.trans hbooks₂)).trans hbooks₃
  simpa [batchEntries] using hall

/-- **What is posted to the leaves** of some accounts is what these accounts exit with. -/
theorem batch_exited (p : Nat → Bool) {coordIdxs : List Nat} {l1UserTxs l1CoordinatorTxs : List L1Tx}
    {l2Txs : List PoolL2Tx} {out : BatchOut}
    (hl1 : ∀ tx ∈ l1UserTxs ++ l1CoordinatorTxs, 0 ≤ tx.amount ∧ 0 ≤ tx.depositAmount)
    (h : batch coordIdxs l1UserTxs l1CoordinatorTxs l2Txs r = some (out, r')) :
    posted (fun i => if p i then 1 else 0)
        (((out.users ++ out.coordinators).map Prod.fst).flatMap l1TxExits ++ l2Txs.flatMap l2Exits) =
      exitedBy p ((out.users ++ out.coordinators).map Prod.fst) l2Txs := by
  obtain ⟨r₁, r₂, r₃, us, husers, hcoordinators, -⟩ := batch_some.mp h
  refine posted_exits p l2Txs fun tx htx htype hamount => ?_
  obtain ⟨⟨hnonneg, hle⟩, -⟩ := l1Txs_effective hl1 (forEach_append husers hcoordinators) tx htx (by rw [htype]; rfl)
  omega

end Batch

end Rollup

end HermezRollup
