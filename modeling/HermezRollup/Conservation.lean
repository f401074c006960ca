import HermezRollup.ExitProofs
import HermezRollup.L1Frame

/-! Conservation of funds over a batch.  Seen from one token, a transfer between two accounts of the token
posts nothing: what the accounts of the token hold changes by the deposits credited to them, by what leaves
through exits, and by the fees that no coordinator account of the token receives. -/

namespace HermezRollup

open Bytes Fallible Simulation Spec Bookkeeping

namespace Rollup

/-- The weight that counts the accounts of a token. -/
def ofToken (accounts : AccountTree) (tokenID : TokenID) : Nat → Int :=
  fun idx => if accounts.tokenOf idx = some tokenID then 1 else 0

theorem ofToken_mul (accounts : AccountTree) (tokenID : TokenID) (idx : Nat) (x : Int) :
    ofToken accounts tokenID idx * x = if accounts.tokenOf idx = some tokenID then x else 0 := by
  rw [ofToken]
  split <;> simp

/-- The token of the account that an L1 transaction credits its deposit to. -/
def creditedToken (accounts : AccountTree) (tx : L1Tx) : Option TokenID :=
  match tx.type with
  | some .createAccountDeposit | some .createAccountDepositTransfer => some tx.tokenID
  | some .deposit | some .depositTransfer => accounts.tokenOf tx.fromIdx
  | _ => none

def deposited (accounts : AccountTree) (tokenID : TokenID) (txs : List L1Tx) : Int :=
  ((txs.filter fun tx => creditedToken accounts tx = some tokenID).map fun tx => tx.effectiveDepositAmount.getD 0).sum

def feesOf (accounts : AccountTree) (tokenID : TokenID) (txs : List PoolL2Tx) : Int :=
  ((txs.filter fun tx => accounts.tokenOf tx.fromIdx = some tokenID).map feeOf).sum

/-- An L1 transaction that loses nothing: a deposit has no amount to transfer. -/
structure WellTyped (tx : L1Tx) : Prop extends L1UserTx tx where
  deposit_only : tx.type = some .deposit → tx.amount = 0

section L1

variable {r r' : Rollup} {tx : L1Tx} {accounts : AccountTree}

theorem tokenOf_of_getAccount {store : Store} {idx : Nat} {acc : Account} (hget : store.getAccount idx = .ok acc) :
    store.accounts.tokenOf idx = some acc.tokenID := by
  obtain ⟨-, a, ha, rfl⟩ := getAccountInTreeDB_ok.mp hget
  rw [AccountTree.tokenOf, ha]
  rfl

theorem tokenOf_later {idx : Nat} {acc : Account} (hget : r.getAccount idx = .ok acc)
    (hpersists : r.accounts.Persists accounts) : accounts.tokenOf idx = some acc.tokenID := by
  obtain ⟨-, a, ha, -⟩ := getAccountInTreeDB_ok.mp hget
  rw [hpersists.tokenOf ha]
  exact tokenOf_of_getAccount hget

variable [Libraries]

theorem tokenOf_opened {acc : Account} {u : Unit} (hopen : openAccount acc r = some (u, r'))
    (hpersists : r'.accounts.Persists accounts) : accounts.tokenOf (r.currentIdx + 1) = some acc.tokenID := by
  obtain ⟨-, hfresh, hencodable, _, _, rfl⟩ := openAccount_inserts hopen
  rw [hpersists.tokenOf (Finmap.lookup_insert _), AccountTree.tokenOf, Finmap.lookup_insert]
  rfl

omit [Libraries] in
theorem user_ne_zero {idx : Nat} (huser : userThreshold ≤ idx) : idx ≠ 0 := by
  unfold userThreshold at huser
  omega

omit [Libraries] in
theorem sent_sameToken (hfrom : tx.fromIdx ≠ 0) (hto : userThreshold ≤ tx.toIdx)
    (htype : tx.type ≠ some .createAccountDeposit) (hpersists : r.accounts.Persists accounts) (tokenID : TokenID) :
    ofToken accounts tokenID tx.toIdx * (effectiveAmounts r.toStore tx).1 =
      ofToken accounts tokenID tx.fromIdx * (effectiveAmounts r.toStore tx).1 := by
  by_cases hamount : (effectiveAmounts r.toStore tx).1 = 0
  · rw [hamount, Int.mul_zero, Int.mul_zero]
  · obtain ⟨accSender, hsender, -, -, hreceives⟩ := effectiveAmounts_spends hfrom htype hamount
    obtain ⟨accReceiver, hreceiver, htoken⟩ := hreceives hto
    rw [ofToken, ofToken, tokenOf_later hsender hpersists, tokenOf_later hreceiver hpersists, htoken]

/-- What an L1 transaction posts to the accounts of a token: its deposit, and what leaves by an exit. -/
theorem l1Tx_ofToken (hwell : WellTyped tx) {out : L1Tx × ExitOut} (h : l1Tx tx r = some (out, r'))
    (hpersists : r'.accounts.Persists accounts) (tokenID : TokenID) :
    posted (ofToken accounts tokenID) (l1TxEntries r.currentIdx out.1) =
      (if creditedToken accounts out.1 = some tokenID then out.1.effectiveDepositAmount.getD 0 else 0) -
        if out.1.type = some .forceExit then ofToken accounts tokenID tx.fromIdx * out.1.effectiveAmount.getD 0 else 0 := by
  obtain ⟨happly, hout⟩ := l1Tx_some.mp h
  have hcases := L1Tx.setType_self hwell.typed
  have hpersists₀ := (applyL1_evolves tx _ _ r _ r' happly).persists.trans hpersists
  obtain ⟨⟨hnonneg, hle⟩, -⟩ := effectiveAmounts_bounds r.toStore hwell.amount_nonneg hwell.deposit_nonneg
  rw [hout, effectiveTx, l1TxEntries, creditedToken, l1Entries]
  generalize out.2 = exit at happly
  cases applyL1_step happly with
  | forceTransfer htype =>
    obtain ⟨hfrom, hto, -⟩ : userThreshold ≤ tx.fromIdx ∧ userThreshold ≤ tx.toIdx ∧ _ := by simpa [htype] using hcases
    have hsame := sent_sameToken (user_ne_zero hfrom) hto (by simp [htype]) hpersists₀ tokenID
    simp [htype, knownL1Type, computeEffectiveAmounts, hsame]
  | createAccountDeposit htype hopen hadvance =>
    have hnew := tokenOf_opened hopen ((advance_evolves _ _ _ hadvance).persists.trans hpersists)
    simp [htype, knownL1Type, computeEffectiveAmounts, ofToken, hnew, newAccount]
  | deposit htype =>
    have hzero : (effectiveAmounts r.toStore tx).1 = 0 := by have := hwell.deposit_only htype; omega
    simp [htype, knownL1Type, computeEffectiveAmounts, ofToken, hzero]
  | depositTransfer htype =>
    obtain ⟨hfrom, hto⟩ : userThreshold ≤ tx.fromIdx ∧ userThreshold ≤ tx.toIdx := by simpa [htype] using hcases
    have hsame := sent_sameToken (user_ne_zero hfrom) hto (by simp [htype]) hpersists₀ tokenID
    simp only [htype, knownL1Type, computeEffectiveAmounts, posted_cons, posted_nil, Option.getD_some, decide_true,
      Bool.or_true, Bool.true_or, if_true, hsame, Int.mul_sub, Option.some.injEq, reduceCtorEq, if_false, Int.add_zero,
      Int.sub_zero, Int.sub_add_cancel, ofToken_mul]
  | createAccountDepositTransfer htype _ hopen hgive hadvance =>
    obtain ⟨hfrom, hto⟩ : tx.fromIdx = 0 ∧ userThreshold ≤ tx.toIdx := by simpa [htype] using hcases
    have hnew := tokenOf_opened hopen ((give_evolves _ _ _ hgive).persists.trans
      ((advance_evolves _ _ _ hadvance).persists.trans hpersists))
    have hsame : ofToken accounts tokenID tx.toIdx * (effectiveAmounts r.toStore tx).1 =
        ofToken accounts tokenID (r.currentIdx + 1) * (effectiveAmounts r.toStore tx).1 := by
      by_cases hamount : (effectiveAmounts r.toStore tx).1 = 0
      · rw [hamount, Int.mul_zero, Int.mul_zero]
      · obtain ⟨accReceiver, hreceiver, htoken⟩ :=
          effectiveAmounts_newSpends hfrom hto (by simp [htype]) hamount
        rw [ofToken, ofToken, hnew, tokenOf_later hreceiver hpersists₀, htoken]
        rfl
    simp only [htype, knownL1Type, computeEffectiveAmounts, posted_cons, posted_nil, Option.getD_some, decide_true,
      Bool.or_true, Bool.true_or, if_true, hsame, Int.mul_sub, Option.some.injEq, reduceCtorEq, if_false, Int.add_zero,
      Int.sub_zero, Int.sub_add_cancel, ofToken_mul, hnew, newAccount]
  | forceExit htype => simp [htype, knownL1Type, computeEffectiveAmounts]
  | unknown htype =>
    obtain ⟨hknown, -⟩ | ⟨hknown, -⟩ | ⟨hknown, -⟩ | ⟨hknown, -⟩ | ⟨hknown, -⟩ | ⟨hknown, -⟩ := hcases <;>
      simp [hknown, knownL1Type] at htype

/-- **The L1 transactions**, seen from one token. -/
theorem l1Txs_ofToken {txs : List L1Tx} {outs : List (L1Tx × ExitOut)} (hwell : ∀ tx ∈ txs, WellTyped tx)
    (h : forEach l1Tx txs r = some (outs, r')) (hpersists : r'.accounts.Persists accounts) (tokenID : TokenID) :
    posted (ofToken accounts tokenID) (l1TxsEntries r.currentIdx (outs.map Prod.fst)) =
      deposited accounts tokenID (outs.map Prod.fst) -
        exitedBy (fun idx => accounts.tokenOf idx = some tokenID) (outs.map Prod.fst) [] := by
  induction txs generalizing r outs with
  | nil =>
    cases h
    rfl
  | cons tx rest ih =>
    obtain ⟨out, r₁, outs₁, hfirst, hrest, rfl⟩ := forEach_cons_some.mp h
    have hwellTx := hwell tx List.mem_cons_self
    have hpersists₁ := (Within.forEach Evolves.refl Evolves.trans l1Tx_evolves rest _ _ _ hrest).persists.trans hpersists
    have hposted := l1Tx_ofToken hwellTx hfirst hpersists₁ tokenID
    have hrestPosted := ih (fun tx' htx' => hwell tx' (List.mem_cons_of_mem _ htx')) hrest
    have hcurrent := (l1Tx_books hwellTx.amount_nonneg hwellTx.deposit_nonneg hfirst).2
    have hfrom : out.1.fromIdx = tx.fromIdx := by
      rw [(l1Tx_some.mp hfirst).2, effectiveTx]
      split <;> rfl
    rw [List.map_cons, l1TxsEntries, posted_append, hposted, ← hcurrent, hrestPosted]
    simp only [deposited, exitedBy, List.filter_cons, ofToken_mul, hfrom, List.filter_nil, List.map_nil, List.sum_nil,
      Int.add_zero]
    by_cases htype : out.1.type = some .forceExit <;>
      by_cases htoken : accounts.tokenOf tx.fromIdx = some tokenID <;>
        by_cases hcredited : creditedToken accounts out.1 = some tokenID <;>
          simp [htype, htoken, hcredited] <;> omega

end L1

section L2

/-- Sender and receiver of a transfer have one token. -/
def SameToken (accounts : AccountTree) (tx : PoolL2Tx) : Prop :=
  isTransfer tx.type = true → accounts.tokenOf (receiver tx) = accounts.tokenOf tx.fromIdx

/-- **The L2 transactions**, seen from one token. -/
theorem l2Txs_ofToken {accounts : AccountTree} {txs : List PoolL2Tx} (hsame : ∀ tx ∈ txs, SameToken accounts tx)
    (tokenID : TokenID) :
    posted (ofToken accounts tokenID) (txs.flatMap l2Entries) =
      -feesOf accounts tokenID txs - exitedBy (fun idx => accounts.tokenOf idx = some tokenID) [] txs := by
  induction txs with
  | nil => rfl
  | cons tx rest ih =>
    have hrest := ih fun tx' htx' => hsame tx' (List.mem_cons_of_mem _ htx')
    rw [List.flatMap_cons, posted_append, hrest, l2Entries]
    simp only [feesOf, exitedBy, List.filter_cons, List.filter_nil, List.map_nil, List.sum_nil, Int.zero_add]
    by_cases htransfer : isTransfer tx.type = true
    · have hexit : tx.type ≠ some .exit := fun heq => by simp [heq, isTransfer] at htransfer
      simp only [htransfer, if_true, posted_cons, posted_nil, ofToken_mul, hsame tx List.mem_cons_self htransfer]
      by_cases htoken : accounts.tokenOf tx.fromIdx = some tokenID <;>
        simp [hexit, htoken]
      omega
    · by_cases hexit : tx.type = some .exit
      · rw [if_neg htransfer, if_pos hexit, posted_cons, posted_nil, ofToken_mul]
        by_cases htoken : accounts.tokenOf tx.fromIdx = some tokenID <;> simp [hexit, htoken]
        omega
      · have hfee : feeOf tx = 0 := by simp [feeOf, charges, htransfer, hexit]
        by_cases htoken : accounts.tokenOf tx.fromIdx = some tokenID <;> simp [hexit, htransfer, htoken, hfee]

end L2

section Fees

variable {store : Store} {accounts : AccountTree} {coordIdxs : List Nat} {coordIdxsMap : CoordIdxsMap}

/-- An account that receives fees has the token under which the map finds it. -/
theorem tokenOf_coordIdx (hplan : CoordPlan store coordIdxs coordIdxsMap) (hpersists : store.accounts.Persists accounts)
    {c : Nat} (hc : c ∈ coordIdxs) (tokenID : TokenID) :
    accounts.tokenOf c = some tokenID ↔ coordIdxsMap.lookup tokenID = some c := by
  obtain ⟨acc, hacc⟩ := hplan.exist c hc
  obtain ⟨-, a, ha, -⟩ := getAccountInTreeDB_ok.mp hacc
  rw [hpersists.tokenOf ha, tokenOf_of_getAccount hacc, hplan.lookup_iff, Option.some.injEq]
  constructor
  · intro htoken
    exact ⟨hc, acc, hacc, htoken⟩
  · rintro ⟨-, acc', hacc', htoken⟩
    rw [hacc] at hacc'
    cases hacc'
    exact htoken

/-- **The fees paid out**, seen from one token: all of them, or none. -/
theorem payouts_ofToken (hplan : CoordPlan store coordIdxs coordIdxsMap) (hpersists : store.accounts.Persists accounts)
    (l2Txs : List PoolL2Tx) (tokenID : TokenID) :
    posted (ofToken accounts tokenID) (coordIdxs.map fun c => (c, feeTotal coordIdxsMap accounts l2Txs c)) =
      if tokenID ∈ coordIdxsMap then feesOf accounts tokenID l2Txs else 0 := by
  rw [posted, List.map_map]
  by_cases hmem : tokenID ∈ coordIdxsMap
  · rw [if_pos hmem]
    obtain ⟨c₀, hc₀⟩ := Finmap.mem_iff.mp hmem
    obtain ⟨hin, -⟩ := (hplan.lookup_iff tokenID c₀).mp hc₀
    -- one account of the token receives the fees, and it receives all of them
    have hone : ∀ c ∈ coordIdxs, ofToken accounts tokenID c * feeTotal coordIdxsMap accounts l2Txs c =
        if c = c₀ then feeTotal coordIdxsMap accounts l2Txs c₀ else 0 := by
      intro c hc
      rw [ofToken_mul]
      by_cases heq : c = c₀
      · subst heq
        rw [if_pos ((tokenOf_coordIdx hplan hpersists hc tokenID).mpr hc₀), if_pos rfl]
      · rw [if_neg heq, if_neg fun htoken => heq ?_]
        have hlookup := (tokenOf_coordIdx hplan hpersists hc tokenID).mp htoken
        rw [hc₀] at hlookup
        exact (Option.some.inj hlookup).symm
    have hshare : ∀ tx, feeShare coordIdxsMap accounts c₀ tx =
        if accounts.tokenOf tx.fromIdx = some tokenID then feeOf tx else 0 := by
      intro tx
      rw [feeShare]
      congr 1
      cases htoken : accounts.tokenOf tx.fromIdx with
      | none => simp
      | some t =>
        rw [Option.bind_some, eq_iff_iff, Option.some.injEq, ← tokenOf_coordIdx hplan hpersists hin t,
          (tokenOf_coordIdx hplan hpersists hin tokenID).mpr hc₀, Option.some.injEq, eq_comm]
    calc _ = (coordIdxs.map fun c => if c = c₀ then feeTotal coordIdxsMap accounts l2Txs c₀ else 0).sum :=
          congrArg List.sum (List.map_congr_left hone)
      _ = feeTotal coordIdxsMap accounts l2Txs c₀ := by
          rw [← List.sum_toFinset _ hplan.nodup, Finset.sum_ite_eq' coordIdxs.toFinset c₀, if_pos (List.mem_toFinset.mpr hin)]
      _ = feesOf accounts tokenID l2Txs := by
          rw [feeTotal, feesOf, List.map_congr_left fun tx _ => hshare tx, List.sum_map_ite]
          simp
  · rw [if_neg hmem]
    refine List.sum_eq_zero fun x hx => ?_
    obtain ⟨c, hc, rfl⟩ := List.mem_map.mp hx
    show ofToken accounts tokenID c * _ = 0
    rw [ofToken, if_neg fun htoken => hmem ?_, Int.zero_mul]
    exact Finmap.mem_of_lookup_eq_some ((tokenOf_coordIdx hplan hpersists hc tokenID).mp htoken)

end Fees

section Batch

theorem tokenBalance_eq {tree accounts : AccountTree} (hpersists : tree.Persists accounts) (tokenID : TokenID) :
    tree.tokenBalance tokenID = weigh StoredAccount.balance (ofToken accounts tokenID) tree := by
  refine Finmap.total_congr fun idx a ha => ?_
  have htoken : accounts.tokenOf idx = some a.tokenID := by
    rw [hpersists.tokenOf ha, AccountTree.tokenOf, ha]
    rfl
  simp only [ofToken_mul, htoken, Option.some.injEq]

theorem tokenBalance_exits {tree accounts : AccountTree} (howned : tree.OwnedBy accounts) (tokenID : TokenID) :
    tree.tokenBalance tokenID = weigh StoredAccount.balance (ofToken accounts tokenID) tree := by
  refine Finmap.total_congr fun idx leaf hleaf => ?_
  obtain ⟨-, -, a, ha, howner⟩ := howned idx leaf hleaf
  simp only [ofToken_mul, AccountTree.tokenOf, ha, Option.map_some, Option.some.injEq, howner.tokenID]

theorem exitedBy_split (p : Nat → Bool) (l1Txs : List L1Tx) (l2Txs : List PoolL2Tx) :
    exitedBy p l1Txs l2Txs = exitedBy p l1Txs [] + exitedBy p [] l2Txs := by
  simp [exitedBy]

variable [Libraries] {r r' : Rollup} {coordIdxs : List Nat} {l1UserTxs l1CoordinatorTxs : List L1Tx}
  {l2Txs : List PoolL2Tx} {out : BatchOut}

theorem l2_persists {r₂ r₃ : Rollup} {coordIdxsMap : CoordIdxsMap} {fees : Nat → Int} {exits : List ExitOut}
    {us : List Unit} (htxs : forEach (l2Tx coordIdxsMap) l2Txs { r₂ with fees } = some (exits, r₃))
    (hfees : forEach payFee coordIdxs r₃ = some (us, r')) :
    r₂.accounts.Persists r'.accounts := by
  have hpay : ∀ idx, Within Evolves (payFee idx) := by
    intro idx t u t' hpay
    rw [payFee, bind_of_some (get_run t)] at hpay
    exact give_evolves _ _ _ hpay
  exact (Within.forEach Evolves.refl Evolves.trans (l2Tx_evolves _) l2Txs _ _ _ htxs).persists.trans
    (Within.forEach Evolves.refl Evolves.trans hpay coordIdxs _ _ _ hfees).persists

theorem batch_coordIdxs (h : batch coordIdxs l1UserTxs l1CoordinatorTxs l2Txs r = some (out, r')) :
    ∃ store : Store, CoordPlan store out.coordIdxs out.coordIdxsMap ∧ store.accounts.Persists r'.accounts ∧
      ∀ tokenID, tokenID ∈ out.coordIdxsMap ↔ ∃ idx ∈ coordIdxs, r'.accounts.tokenOf idx = some tokenID := by
  obtain ⟨r₁, r₂, r₃, us, -, -, hfilter, hmap, htxs, hfees⟩ := batch_some.mp h
  obtain ⟨hplan, hnamed⟩ := coordPlan_of_filter hfilter hmap
  have hpersists : r₂.accounts.Persists r'.accounts := l2_persists htxs hfees
  refine ⟨r₂.toStore, hplan, hpersists, fun tokenID => ⟨fun hmem => ?_, ?_⟩⟩
  · obtain ⟨c, hc⟩ := Finmap.mem_iff.mp hmem
    have hin := ((hplan.lookup_iff tokenID c).mp hc).1
    exact ⟨c, filterCoordIdxs_subset hfilter hin, (tokenOf_coordIdx hplan hpersists hin tokenID).mpr hc⟩
  · rintro ⟨idx, hidx, htoken⟩
    obtain ⟨acc, hacc, hmem⟩ := hnamed idx hidx
    rw [tokenOf_later (r := r₂) hacc hpersists] at htoken
    cases htoken
    exact hmem

/-- **What the accounts of a token hold** after a batch. -/
theorem batch_tokenBalance (hl1 : ∀ tx ∈ l1UserTxs ++ l1CoordinatorTxs, WellTyped tx) (hl2 : ∀ tx ∈ l2Txs, 0 ≤ tx.amount)
    (h : batch coordIdxs l1UserTxs l1CoordinatorTxs l2Txs r = some (out, r'))
    (hsame : ∀ tx ∈ l2Txs, SameToken r'.accounts tx) (tokenID : TokenID) :
    r'.accounts.tokenBalance tokenID = r.accounts.tokenBalance tokenID +
      deposited r'.accounts tokenID ((out.users ++ out.coordinators).map Prod.fst) -
      exitedBy (fun idx => r'.accounts.tokenOf idx = some tokenID) ((out.users ++ out.coordinators).map Prod.fst) l2Txs -
      if ∃ idx ∈ coordIdxs, r'.accounts.tokenOf idx = some tokenID then 0 else feesOf r'.accounts tokenID l2Txs := by
  have hbooks := batch_books (fun tx htx => ⟨(hl1 tx htx).amount_nonneg, (hl1 tx htx).deposit_nonneg⟩) hl2 h
  obtain ⟨store, hplan, hpersists, hnamed⟩ := batch_coordIdxs h
  obtain ⟨r₁, r₂, r₃, us, husers, hcoordinators, -, -, htxs, hfees⟩ := batch_some.mp h
  have hpersists₂ : r₂.accounts.Persists r'.accounts := l2_persists htxs hfees
  rw [tokenBalance_eq (.refl _), tokenBalance_eq hbooks.persists, hbooks.accounts.weigh, batchEntries, posted_append,
    posted_append, l1Txs_ofToken hl1 (forEach_append husers hcoordinators) hpersists₂, l2Txs_ofToken hsame,
    payouts_ofToken hplan hpersists, exitedBy_split _ ((out.users ++ out.coordinators).map Prod.fst) l2Txs]
  simp only [hnamed]
  split_ifs <;> ring

/-- **The leaves of a token** hold what left through exits. -/
theorem batch_exitBalance (hl1 : ∀ tx ∈ l1UserTxs ++ l1CoordinatorTxs, 0 ≤ tx.amount ∧ 0 ≤ tx.depositAmount)
    (hl2 : ∀ tx ∈ l2Txs, 0 ≤ tx.amount) (h : batch coordIdxs l1UserTxs l1CoordinatorTxs l2Txs r = some (out, r'))
    (hexits : r.exits = some ∅) (tokenID : TokenID) :
    (r'.exits.getD ∅).tokenBalance tokenID =
      exitedBy (fun idx => r'.accounts.tokenOf idx = some tokenID) ((out.users ++ out.coordinators).map Prod.fst) l2Txs := by
  obtain ⟨tree, htree, hposts, howned⟩ := (batch_books hl1 hl2 h).exits ∅ hexits
  have howned := howned fun idx leaf hleaf => by
    rw [Finmap.lookup_empty] at hleaf
    cases hleaf
  have hweight : ofToken r'.accounts tokenID =
      fun i => if decide (r'.accounts.tokenOf i = some tokenID) = true then 1 else 0 := by
    funext i
    simp [ofToken]
  have hempty : weigh StoredAccount.balance (ofToken r'.accounts tokenID) ∅ = 0 := rfl
  rw [htree, Option.getD_some, tokenBalance_exits howned, hposts.weigh, hempty, Int.zero_add, hweight,
    batch_exited _ hl1 h]

end Batch

end Rollup

section Batch

variable [Libraries] {state : StateDB} {config : Config} {s' : TxProcessor} {coordIdxs : List Nat}
  {l1UserTxs l1CoordinatorTxs : List L1Tx} {l2Txs : List PoolL2Tx} {out : ProcessTxOutput}

open TxProcessor Rollup

omit [Libraries] in
theorem deposited_withoutEffectiveFromIdx (accounts : AccountTree) (tokenID : TokenID) (txs : List L1Tx) :
    deposited accounts tokenID (txs.map withoutEffectiveFromIdx) = deposited accounts tokenID txs := by
  rw [deposited, deposited, List.filter_map, List.map_map]
  rfl

omit [Libraries] in
theorem l1TxsEntries_withoutEffectiveFromIdx (currentIdx : Nat) (txs : List L1Tx) :
    l1TxsEntries currentIdx (txs.map withoutEffectiveFromIdx) = l1TxsEntries currentIdx txs := by
  induction txs generalizing currentIdx with
  | nil => rfl
  | cons tx rest ih =>
    rw [List.map_cons, l1TxsEntries, l1TxsEntries, ih]
    rfl

/-- A transaction without what the processor fills in. -/
def asGiven (tx : L1Tx) : L1Tx :=
  { tx with effectiveFromIdx := 0, effectiveAmount := none, effectiveDepositAmount := none }

omit [Libraries] in
theorem map_asGiven (txs : List L1Tx) : (txs.map withoutEffectiveFromIdx).map asGiven = txs.map asGiven := by
  rw [List.map_map]
  rfl

theorem l1Txs_asGiven {txs : List L1Tx} {outs : List (L1Tx × ExitOut)} {r r' : Rollup}
    (h : forEach Rollup.l1Tx txs r = some (outs, r')) : (outs.map Prod.fst).map asGiven = txs.map asGiven := by
  induction txs generalizing r outs with
  | nil =>
    cases h
    rfl
  | cons tx txs ih =>
    obtain ⟨out, r₁, outs, hfirst, hrest, rfl⟩ := Iff.mp forEach_cons_some h
    have hsame : asGiven out.1 = asGiven tx := by
      rw [(Rollup.l1Tx_some.mp hfirst).2, Rollup.effectiveTx]
      split <;> rfl
    rw [List.map_cons, List.map_cons, List.map_cons, hsame, ih hrest]

/-- **Conservation of funds over a batch**, in every mode.  For every token, what its accounts hold changes by
the deposits credited to them, the exits from them, and the fees of the token when no coordinator account
receives them; no account is overdrawn at any point of the batch; and the leaves of the exit tree hold what
left.  The transactions are those given to the processor, filled in. -/
theorem processTxs_conserves (hl1 : ∀ tx ∈ l1UserTxs ++ l1CoordinatorTxs, WellTyped tx)
    (hl2 : ∀ tx ∈ l2Txs, 0 ≤ tx.amount)
    (h : processTxs coordIdxs l1UserTxs l1CoordinatorTxs l2Txs (newTxProcessor state config) = .ok out s')
    (hsame : ∀ tx ∈ out.l2Txs, SameToken s'.state.accounts tx) (tokenID : TokenID) :
    s'.state.accounts.tokenBalance tokenID = state.accounts.tokenBalance tokenID +
        deposited s'.state.accounts tokenID (out.l1UserTxs ++ out.l1CoordinatorTxs) -
        exitedBy (fun idx => s'.state.accounts.tokenOf idx = some tokenID) (out.l1UserTxs ++ out.l1CoordinatorTxs)
          out.l2Txs -
        (if ∃ idx ∈ coordIdxs, s'.state.accounts.tokenOf idx = some tokenID then 0
          else feesOf s'.state.accounts tokenID out.l2Txs) ∧
    (∀ idx, ∀ entries, entries <+: l1TxsEntries state.currentIdx (out.l1UserTxs ++ out.l1CoordinatorTxs) ++
        out.l2Txs.flatMap l2Entries → 0 ≤ holds StoredAccount.balance state.accounts idx + posted (only idx) entries) ∧
    (∀ idx acc, s'.state.getAccount idx = .ok acc → 0 ≤ acc.balance) ∧
    (keepsExits state.typ = true → (s'.exitTree.getD ∅).tokenBalance tokenID =
      exitedBy (fun idx => s'.state.accounts.tokenOf idx = some tokenID) (out.l1UserTxs ++ out.l1CoordinatorTxs)
        out.l2Txs) ∧
    (out.l1UserTxs.map asGiven = l1UserTxs.map asGiven ∧ out.l1CoordinatorTxs.map asGiven = l1CoordinatorTxs.map asGiven ∧
      List.Forall₂ (FilledIn state.typ) l2Txs out.l2Txs) := by
  obtain ⟨bout, r', hbatch, hstate, hexitTree, husers, hcoordinators, hfilled, -⟩ := processTxs_ok h
  have hgiven : out.l1UserTxs.map asGiven = l1UserTxs.map asGiven ∧
      out.l1CoordinatorTxs.map asGiven = l1CoordinatorTxs.map asGiven := by
    obtain ⟨r₁, r₂, r₃, us, hrunUsers, hrunCoordinators, -⟩ := Rollup.batch_some.mp hbatch
    constructor
    · refine (eq_of_withoutEffectiveFromIdx map_asGiven (husers.trans ?_)).trans (l1Txs_asGiven hrunUsers)
      rw [List.map_map]
      rfl
    · refine (eq_of_withoutEffectiveFromIdx map_asGiven (hcoordinators.trans ?_)).trans (l1Txs_asGiven hrunCoordinators)
      rw [List.map_map]
      rfl
  have haccounts : s'.state.accounts = r'.accounts := by rw [hstate]; rfl
  rw [haccounts] at hsame ⊢
  have hamounts : ∀ tx ∈ l1UserTxs ++ l1CoordinatorTxs, 0 ≤ tx.amount ∧ 0 ≤ tx.depositAmount :=
    fun tx htx => ⟨(hl1 tx htx).amount_nonneg, (hl1 tx htx).deposit_nonneg⟩
  have hl2' := filledIn_amounts hfilled hl2
  have hbooks := batch_books hamounts hl2' hbatch
  have htxs : (out.l1UserTxs ++ out.l1CoordinatorTxs).map withoutEffectiveFromIdx =
      ((bout.users ++ bout.coordinators).map Prod.fst).map withoutEffectiveFromIdx := by
    rw [List.map_append, husers, hcoordinators, List.map_append, List.map_append, List.map_map, List.map_map]
    rfl
  have hdeposited := eq_of_withoutEffectiveFromIdx (deposited_withoutEffectiveFromIdx r'.accounts tokenID) htxs
  have hentries := eq_of_withoutEffectiveFromIdx (l1TxsEntries_withoutEffectiveFromIdx state.currentIdx) htxs
  rw [hdeposited, exitedBy_of_map htxs, hentries, hexitTree]
  refine ⟨batch_tokenBalance hl1 hl2' hbatch hsame tokenID, fun idx entries hleading => ?_, ?_, fun hkeeps => ?_,
    hgiven.1, hgiven.2, hfilled⟩
  · exact hbooks.accounts.running_nonneg (hleading.trans (List.prefix_append _ _)) idx
  · intro idx acc hget
    obtain ⟨-, a, -, rfl⟩ := getAccountInTreeDB_ok.mp hget
    exact Int.natCast_nonneg _
  · exact batch_exitBalance hamounts hl2' hbatch (by rw [Rollup.start, if_pos hkeeps]) tokenID

end Batch

theorem depositTx_exitTx_conserves :
    ∃ out s', @TxProcessor.processTxs plainLibraries [] [depositTx] [] [exitTx]
        (newTxProcessor (oneAccountState .synchronizer) smallConfig) = .ok out s' ∧
      s'.state.accounts.tokenBalance 0 = 12 ∧ (s'.exitTree.getD ∅).tokenBalance 0 = 3 := by
  have hrun : succeedsWith (fun out s' => (∀ tx ∈ out.l2Txs, Rollup.isTransfer tx.type = false) ∧
      Rollup.deposited s'.state.accounts 0 (out.l1UserTxs ++ out.l1CoordinatorTxs) = 5 ∧
      Rollup.exitedBy (fun idx => s'.state.accounts.tokenOf idx = some 0) (out.l1UserTxs ++ out.l1CoordinatorTxs)
        out.l2Txs = 3 ∧ Rollup.feesOf s'.state.accounts 0 out.l2Txs = 0)
      (@TxProcessor.processTxs plainLibraries [] [depositTx] [] [exitTx]
        (newTxProcessor (oneAccountState .synchronizer) smallConfig)) = true := by decide +kernel
  obtain ⟨out, s', hout, htest⟩ := exists_of_succeedsWith hrun
  obtain ⟨htransfers, hdeposited, hexited, hfees⟩ := of_decide_eq_true htest
  have hwell : ∀ tx ∈ [depositTx] ++ [], Rollup.WellTyped tx := by
    simp only [List.append_nil, List.mem_singleton, forall_eq]
    exact ⟨depositTx_user, fun _ => rfl⟩
  have hsame : ∀ tx ∈ out.l2Txs, Rollup.SameToken s'.state.accounts tx := by
    intro tx htx htransfer
    rw [htransfers tx htx] at htransfer
    cases htransfer
  obtain ⟨hbalance, -, -, hexits, -⟩ :=
    @processTxs_conserves plainLibraries _ _ s' _ _ _ _ out hwell (by decide) hout hsame 0
  have hbefore : (oneAccountState .synchronizer).accounts.tokenBalance 0 = 10 := by decide +kernel
  rw [hdeposited, hexited, hfees, hbefore] at hbalance
  refine ⟨out, s', hout, ?_, (hexits rfl).trans hexited⟩
  rw [hbalance]
  simp

/-- A deposit that also has an amount to transfer, but no receiver. -/
def lossyDepositTx : L1Tx :=
  { depositTx with amount := 3 }

/-- The processor takes the amount of such a deposit from the account, and no account receives it. -/
theorem lossyDepositTx_not_conserved :
    ∃ out s', @TxProcessor.processTxs plainLibraries [] [lossyDepositTx] [] []
        (newTxProcessor (oneAccountState .synchronizer) smallConfig) = .ok out s' ∧
      lossyDepositTx.setType = .ok lossyDepositTx ∧
      s'.state.accounts.tokenBalance 0 ≠ (oneAccountState .synchronizer).accounts.tokenBalance 0 +
        Rollup.deposited s'.state.accounts 0 (out.l1UserTxs ++ out.l1CoordinatorTxs) -
        Rollup.exitedBy (fun idx => s'.state.accounts.tokenOf idx = some 0) (out.l1UserTxs ++ out.l1CoordinatorTxs)
          out.l2Txs -
        Rollup.feesOf s'.state.accounts 0 out.l2Txs := by
  have hrun : succeedsWith (fun out s' => s'.state.accounts.tokenBalance 0 ≠
        (oneAccountState .synchronizer).accounts.tokenBalance 0 +
        Rollup.deposited s'.state.accounts 0 (out.l1UserTxs ++ out.l1CoordinatorTxs) -
        Rollup.exitedBy (fun idx => s'.state.accounts.tokenOf idx = some 0) (out.l1UserTxs ++ out.l1CoordinatorTxs)
          out.l2Txs -
        Rollup.feesOf s'.state.accounts 0 out.l2Txs)
      (@TxProcessor.processTxs plainLibraries [] [lossyDepositTx] [] []
        (newTxProcessor (oneAccountState .synchronizer) smallConfig)) = true := by decide +kernel
  obtain ⟨out, s', hout, hlost⟩ := exists_of_succeedsWith hrun
  exact ⟨out, s', hout, rfl, of_decide_eq_true hlost⟩

end HermezRollup
