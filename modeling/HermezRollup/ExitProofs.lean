import HermezRollup.Postings
import HermezRollup.WithdrawProof

/-! The exits of a batch.  A leaf of the exit tree holds what its account leaves the rollup with in this
batch; the synchronizer reports one proof for every account that leaves, and the contract accepts it. -/

namespace HermezRollup

open Bytes Fallible Simulation Spec Bookkeeping

/-! ### The proof of a leaf -/

section Proof

variable [Libraries] {tree : AccountTree} {idx : Nat} {leaf : StoredAccount}

theorem AccountTree.smtVerifier_siblings (hkeys : ∀ i a, tree.lookup i = some a → i ≤ maxIdxValue)
    (hleaf : tree.lookup idx = some leaf) :
    Hermez.smtVerifier tree.root (tree.siblings idx) idx (leaf.account idx).leafValue = true := by
  have hmem : (idx, (leaf.account idx).leafValue) ∈ tree.leaves :=
    List.mem_map.mpr ⟨(idx, leaf), Finmap.mem_sortedEntries.mpr hleaf, rfl⟩
  have hpairwise : tree.leaves.Pairwise fun left right => left.1 ≠ right.1 := by
    rw [leaves, List.pairwise_map]
    exact tree.sortedEntries_pairwise
  have hfits : ∀ entry ∈ tree.leaves, entry.1 < 2 ^ 48 := by
    intro entry hentry
    obtain ⟨⟨i, a⟩, ha, rfl⟩ := List.mem_map.mp hentry
    have hle := hkeys i a (Finmap.mem_sortedEntries.mp ha)
    rw [maxIdxValue] at hle
    omega
  exact (smtVerifier_iff _ _ _ _).mpr (Libraries.merkleTrees.climb_siblings hpairwise hfits hmem).symm

/-- The leaf of an exit is the one the contract rebuilds from the arguments of a withdrawal. -/
theorem StoredAccount.leafValue_eq (hnonce : leaf.nonce = 0) :
    (leaf.account idx).leafValue = Libraries.poseidon (Hermez.buildTreeState leaf.tokenID 0
      ((BitVec.ofNat 192 leaf.balance).setWidth 256) leaf.bjj leaf.ethAddr) := by
  have hbalance : ((BitVec.ofNat 192 leaf.balance).setWidth 256).toNat = leaf.balance := by
    have hlt := leaf.balance_lt
    simp only [BitVec.toNat_setWidth, BitVec.toNat_ofNat]
    omega
  have hsign : leaf.bjj.toNat / 2 ^ 255 = if (PublicKeyComp.unpackSignY leaf.bjj).1 then 1 else 0 := by
    have hlt := leaf.bjj.isLt
    simp only [PublicKeyComp.unpackSignY, decide_eq_true_eq]
    split <;> omega
  rw [Account.leafValue, Account.elements, Hermez.buildTreeState_eq, hbalance, hsign]
  simp [StoredAccount.account, hnonce, PublicKeyComp.unpackSignY]

end Proof

namespace TxProcessor

/-! ### The list of proofs -/

section ExitInfos

variable {exits : List ProcessedExit} {exit : ProcessedExit}

theorem lastExits_append (exits : List ProcessedExit) (exit : ProcessedExit) :
    lastExits (exits ++ [exit]) = (lastExits exits).insert exit.idx exit := by
  rw [lastExits, List.foldl_append]
  rfl

theorem exitIdxs_eq (exits : List ProcessedExit) : exitIdxs exits = (exits.map ProcessedExit.idx).eraseDups := by
  induction exits using List.reverseRecOn with
  | nil => rfl
  | append_singleton exits exit ih =>
    have hmem : exit.idx ∈ exitIdxs exits ↔ exit.idx ∈ exits.map ProcessedExit.idx := by
      rw [ih, List.mem_eraseDups]
    rw [List.map_append, List.eraseDups_append, ← ih, exitIdxs, List.foldl_append, ← exitIdxs, List.foldl_cons,
      List.foldl_nil]
    by_cases hin : exit.idx ∈ exits.map ProcessedExit.idx
    · rw [if_pos (hmem.mpr hin)]
      simp only [List.map_cons, List.map_nil, List.removeAll, List.filter_cons, List.filter_nil]
      rw [if_neg (by simpa using hin), List.eraseDups_nil, List.append_nil]
    · rw [if_neg (mt hmem.mp hin)]
      simp only [List.map_cons, List.map_nil, List.removeAll, List.filter_cons, List.filter_nil]
      rw [if_pos (by simpa using hin)]
      rfl

theorem lastExits_lookup (exits : List ProcessedExit) (idx : Nat) :
    (∀ exit, (lastExits exits).lookup idx = some exit → exit.idx = idx) ∧
      (idx ∈ exits.map ProcessedExit.idx → ∃ exit, (lastExits exits).lookup idx = some exit) := by
  induction exits using List.reverseRecOn with
  | nil =>
    refine ⟨fun exit hexit => ?_, fun hmem => by cases hmem⟩
    rw [lastExits, List.foldl_nil, Finmap.lookup_empty] at hexit
    cases hexit
  | append_singleton exits exit ih =>
    rw [lastExits_append]
    by_cases heq : idx = exit.idx
    · subst heq
      rw [Finmap.lookup_insert]
      exact ⟨fun other hother => by cases hother; rfl, fun _ => ⟨exit, rfl⟩⟩
    · rw [Finmap.lookup_insert_of_ne _ heq]
      refine ⟨ih.1, fun hmem => ih.2 ?_⟩
      rw [List.map_append, List.mem_append] at hmem
      exact hmem.resolve_right fun hlast => heq (List.mem_singleton.mp hlast)

variable [Libraries]

theorem exitInfos_accountIdx (tree : AccountTree) (exits : List ProcessedExit) :
    (exitInfos tree exits).map ExitInfo.accountIdx = (exits.map ProcessedExit.idx).eraseDups := by
  have hall : ∀ idxs : List Nat, (∀ idx ∈ idxs, idx ∈ exits.map ProcessedExit.idx) →
      (idxs.filterMap fun idx => ((lastExits exits).lookup idx).map (exitInfo tree)).map ExitInfo.accountIdx = idxs := by
    intro idxs hidxs
    induction idxs with
    | nil => rfl
    | cons idx rest ih =>
      obtain ⟨exit, hexit⟩ := (lastExits_lookup exits idx).2 (hidxs idx List.mem_cons_self)
      have hidx := (lastExits_lookup exits idx).1 exit hexit
      rw [List.filterMap_cons, hexit, Option.map_some, List.map_cons,
        ih fun other hother => hidxs other (List.mem_cons_of_mem _ hother)]
      exact congrArg (· :: rest) hidx
  rw [exitInfos, exitIdxs_eq]
  exact hall _ fun idx hidx => List.mem_eraseDups.mp hidx

end ExitInfos

/-! ### The records of a run -/

/-- What a transaction reports: an exit with the balance of the leaf it leaves, or nothing. -/
structure Reports (r : Rollup) (exit : ExitOut) (sender : Option Nat) : Prop where
  none : sender = none → recordOf exit = none
  some : ∀ idx, sender = some idx → ∃ record tree leaf, recordOf exit = some record ∧ record.idx = idx ∧
    r.exits = some tree ∧ tree.lookup idx = some leaf ∧ record.acc.balance = leaf.balance

/-- The last exit of every account has the balance of its leaf. -/
def Reported (r : Rollup) (exits : List ProcessedExit) : Prop :=
  ∀ idx exit, (lastExits exits).lookup idx = some exit →
    ∃ tree leaf, r.exits = some tree ∧ tree.lookup idx = some leaf ∧ exit.acc.balance = leaf.balance

section Records

variable {r r' : Rollup} {entries exitEntries : List (Nat × Int)} {exits : List ProcessedExit}

theorem leaf_of_books (hbooks : r.Books entries exitEntries r') {tree : AccountTree} {idx : Nat} {leaf : StoredAccount}
    (htree : r.exits = some tree) (hleaf : tree.lookup idx = some leaf) (hnone : posted (only idx) exitEntries = 0) :
    ∃ tree' leaf', r'.exits = some tree' ∧ tree'.lookup idx = some leaf' ∧ leaf'.balance = leaf.balance := by
  obtain ⟨tree', htree', hposts, -⟩ := hbooks.exits tree htree
  obtain ⟨leaf', hleaf'⟩ := Finmap.mem_iff.mp (hposts.mem (Finmap.mem_of_lookup_eq_some hleaf))
  have hholds := hposts.holds idx
  rw [hnone, Int.add_zero, holds_of_lookup hleaf, holds_of_lookup hleaf'] at hholds
  exact ⟨tree', leaf', htree', hleaf', Int.ofNat_inj.mp hholds⟩

theorem Reported.quiet (h : Reported r exits) (hbooks : r.Books entries exitEntries r')
    (hnone : ∀ idx, posted (only idx) exitEntries = 0) : Reported r' exits := by
  intro idx exit hexit
  obtain ⟨tree, leaf, htree, hleaf, hbalance⟩ := h idx exit hexit
  obtain ⟨tree', leaf', htree', hleaf', heq⟩ := leaf_of_books hbooks htree hleaf (hnone idx)
  exact ⟨tree', leaf', htree', hleaf', by rw [hbalance, heq]⟩

theorem Reported.step (h : Reported r exits) (hbooks : r.Books entries exitEntries r') {exit : ExitOut}
    {sender : Option Nat} (hreports : Reports r' exit sender)
    (hothers : ∀ idx, sender ≠ some idx → posted (only idx) exitEntries = 0) :
    Reported r' (exits ++ (recordOf exit).toList) := by
  cases hsender : sender with
  | none =>
    rw [hreports.none hsender, Option.toList_none, List.append_nil]
    exact h.quiet hbooks fun idx => hothers idx (by rw [hsender]; simp)
  | some idx =>
    obtain ⟨record, tree', leaf', hrecord, hidx, htree', hleaf', hbalance'⟩ := hreports.some idx hsender
    rw [hrecord, Option.toList_some]
    intro other found hfound
    rw [lastExits_append] at hfound
    by_cases heq : other = record.idx
    · subst heq
      rw [Finmap.lookup_insert] at hfound
      cases hfound
      exact ⟨tree', leaf', htree', hidx ▸ hleaf', hbalance'⟩
    · rw [Finmap.lookup_insert_of_ne _ heq] at hfound
      obtain ⟨tree, leaf, htree, hleaf, hbalance⟩ := h other found hfound
      have hne : sender ≠ some other := by
        rw [hsender, ← hidx]
        simpa using Ne.symm heq
      obtain ⟨tree₁, leaf₁, htree₁, hleaf₁, heq₁⟩ := leaf_of_books hbooks htree hleaf (hothers other hne)
      exact ⟨tree₁, leaf₁, htree₁, hleaf₁, by rw [hbalance, heq₁]⟩

end Records

end TxProcessor

namespace Rollup

open TxProcessor

def l1Sender (tx : L1Tx) : Option Nat :=
  if tx.type = some .forceExit ∧ tx.amount ≠ 0 then some tx.fromIdx else none

def l2Sender (tx : PoolL2Tx) : Option Nat :=
  if tx.type = some .exit ∧ tx.amount ≠ 0 then some tx.fromIdx else none

section Reports

variable [Libraries] {r r' : Rollup}

theorem leave_reports {idx : Nat} {acc : Account} {amount original : Int} {exit : ExitOut} (hamount : 0 ≤ amount)
    (hkeeps : r.exits.isSome) (h : leave idx acc amount original r = some (exit, r')) :
    Reports r' exit (if original ≠ 0 then some idx else none) := by
  obtain ⟨hcase, rfl, rfl⟩ | ⟨tree, leaf, acc', hne, htree, hleaf, rfl, hidx, hacc, hbalance⟩ := leave_some hamount h
  · have hzero : original = 0 := hcase.resolve_left (by intro hnone; rw [hnone] at hkeeps; cases hkeeps)
    rw [if_neg (by simpa using hzero)]
    exact ⟨fun _ => rfl, fun _ hsome => by cases hsome⟩
  · rw [if_pos hne]
    refine ⟨fun hnone => absurd hnone (by simp), fun other hother => ?_⟩
    cases hother
    exact ⟨_, _, leaf, by rw [recordOf, hidx, hacc], rfl, rfl, Finmap.lookup_insert _, hbalance⟩

omit [Libraries] in
theorem reports_nothing (r : Rollup) : Reports r {} none :=
  ⟨fun _ => rfl, fun _ h => by cases h⟩

theorem l1Tx_reports {tx : L1Tx} {out : L1Tx × ExitOut} (hamount : 0 ≤ tx.amount) (hdeposit : 0 ≤ tx.depositAmount)
    (hkeeps : r.exits.isSome) (h : l1Tx tx r = some (out, r')) : Reports r' out.2 (l1Sender tx) := by
  obtain ⟨happly, -⟩ := l1Tx_some.mp h
  obtain ⟨⟨heffective, -⟩, -⟩ := effectiveAmounts_bounds r.toStore hamount hdeposit
  have hother : tx.type ≠ some .forceExit → l1Sender tx = none := fun hne => if_neg fun h => hne h.1
  generalize hexit : out.2 = exit at happly
  cases applyL1_step happly with
  | forceExit htype htake hleave =>
    have hkeeps' := (take_evolves _ _ _ htake).exits.trans hkeeps
    simpa [l1Sender, htype] using leave_reports heffective hkeeps' hleave
  | forceTransfer htype | createAccountDeposit htype | deposit htype | depositTransfer htype
  | createAccountDepositTransfer htype =>
    rw [hother (by simp [htype])]
    exact reports_nothing _
  | unknown htype =>
    rw [hother fun heq => by simp [heq, knownL1Type] at htype]
    exact reports_nothing _

theorem l2Tx_reports {coordIdxsMap : CoordIdxsMap} {tx : PoolL2Tx} {exit : ExitOut} (hamount : 0 ≤ tx.amount)
    (hkeeps : r.exits.isSome) (h : l2Tx coordIdxsMap tx r = some (exit, r')) : Reports r' exit (l2Sender tx) := by
  have hother : tx.type ≠ some .exit → l2Sender tx = none := fun hne => if_neg fun h => hne h.1
  cases l2Tx_step h with
  | transfer htype =>
    rw [hother fun heq => by simp [heq, isTransfer] at htype]
    exact reports_nothing _
  | exit htype hpay hleave =>
    have hkeeps' := (pay_evolves _ _ _ hpay).exits.trans hkeeps
    simpa [l2Sender, htype] using leave_reports hamount hkeeps' hleave
  | unknown htype =>
    rw [hother fun heq => by simp [heq, charges] at htype]
    exact reports_nothing _

/-- A transaction posts to the leaf of its sender only. -/
def PostsExit (sender : Option Nat) (r : Rollup) (exit : ExitOut) (r' : Rollup) : Prop :=
  Reports r' exit sender ∧ ∃ entries exitEntries, r.Books entries exitEntries r' ∧
    ∀ idx, sender ≠ some idx → posted (only idx) exitEntries = 0

omit [Libraries] in
theorem posted_exitEntry {idx sender : Nat} {amount original : Int} (h : original ≠ 0 → sender ≠ idx) :
    posted (only idx) (exitEntry sender amount original) = 0 := by
  rw [exitEntry]
  split
  · rfl
  next hne => rw [posted_cons, posted_nil, only, if_neg (h hne), Int.zero_mul, Int.add_zero]

theorem l1Tx_postsExit {tx : L1Tx} {out : L1Tx × ExitOut} (hamount : 0 ≤ tx.amount) (hdeposit : 0 ≤ tx.depositAmount)
    (hkeeps : r.exits.isSome) (h : l1Tx tx r = some (out, r')) : PostsExit (l1Sender tx) r out.2 r' := by
  obtain ⟨-, hout⟩ := l1Tx_some.mp h
  refine ⟨l1Tx_reports hamount hdeposit hkeeps h, _, _, (l1Tx_books hamount hdeposit h).1, fun idx hne => ?_⟩
  have hsame : ∀ amount, l1Exits (effectiveTx r.toStore tx) amount = l1Exits tx amount := by
    intro amount
    rw [effectiveTx]
    split <;> rfl
  rw [l1TxExits, hout, hsame, l1Exits]
  split
  next htype =>
    exact posted_exitEntry fun hne' heq => hne (by rw [l1Sender, if_pos ⟨htype, hne'⟩, heq])
  next => rfl

theorem l2Tx_postsExit {coordIdxsMap : CoordIdxsMap} {tx : PoolL2Tx} {exit : ExitOut} (hamount : 0 ≤ tx.amount)
    (hkeeps : r.exits.isSome) (h : l2Tx coordIdxsMap tx r = some (exit, r')) : PostsExit (l2Sender tx) r exit r' := by
  refine ⟨l2Tx_reports hamount hkeeps h, _, _, l2Tx_books hamount h, fun idx hne => ?_⟩
  rw [l2Exits]
  split
  next htype =>
    exact posted_exitEntry fun hne' heq => hne (by rw [l2Sender, if_pos ⟨htype, hne'⟩, heq])
  next => rfl

omit [Libraries] in
/-- **A run reports its exits**: one record for every sender, the last one with the balance of its leaf. -/
theorem reported_forEach {α β : Type} {step : α → RollupM β} (exitOf : β → ExitOut) {sender : α → Option Nat}
    {as : List α} (hstep : ∀ a ∈ as, ∀ {r r' : Rollup} {b : β}, r.exits.isSome → step a r = some (b, r') →
      PostsExit (sender a) r (exitOf b) r')
    {outs : List β} {exits : List ProcessedExit} (hkeeps : r.exits.isSome) (hreported : Reported r exits)
    (h : forEach step as r = some (outs, r')) :
    Reported r' (exits ++ (outs.map exitOf).filterMap recordOf) ∧ r'.exits.isSome ∧
      ((outs.map exitOf).filterMap recordOf).map ProcessedExit.idx = as.filterMap sender := by
  induction as generalizing r outs exits with
  | nil =>
    cases h
    exact ⟨by simpa using hreported, hkeeps, rfl⟩
  | cons a as ih =>
    obtain ⟨b, r₁, outs₁, hfirst, hrest, rfl⟩ := forEach_cons_some.mp h
    obtain ⟨hreports, entries, exitEntries, hbooks, hothers⟩ := hstep a List.mem_cons_self hkeeps hfirst
    obtain ⟨tree, htree⟩ := Option.isSome_iff_exists.mp hkeeps
    obtain ⟨tree₁, htree₁, -⟩ := hbooks.exits tree htree
    have hreported₁ := hreported.step hbooks hreports hothers
    obtain ⟨hreported', hkeeps', hidxs⟩ :=
      ih (fun a' ha' => hstep a' (List.mem_cons_of_mem _ ha')) (by rw [htree₁]; rfl) hreported₁ hrest
    rw [List.map_cons]
    cases hsender : sender a with
    | none =>
      rw [hreports.none hsender] at hreported'
      rw [List.filterMap_cons_none (hreports.none hsender), List.filterMap_cons_none hsender]
      exact ⟨by simpa using hreported', hkeeps', hidxs⟩
    | some idx =>
      obtain ⟨record, _, _, hrecord, hidx, -⟩ := hreports.some idx hsender
      rw [hrecord] at hreported'
      rw [List.filterMap_cons_some hrecord, List.filterMap_cons_some hsender, List.map_cons, hidx, hidxs]
      exact ⟨by simpa using hreported', hkeeps', rfl⟩

theorem payFees_exits {coordIdxs : List Nat} {us : List Unit} (h : forEach payFee coordIdxs r = some (us, r')) :
    r'.exits = r.exits := by
  have htrans : ∀ t t' t'' : Rollup, t'.exits = t.exits → t''.exits = t'.exits → t''.exits = t.exits :=
    fun _ _ _ h h' => h'.trans h
  refine Within.forEach (R := fun r r' => r'.exits = r.exits) (fun _ => rfl) htrans ?_ coordIdxs r us r' h
  intro idx t u t' hpay
  rw [payFee, bind_of_some (get_run t)] at hpay
  obtain ⟨_, -, _, rfl⟩ := give_some.mp hpay
  rfl

/-- Transactions of the coordinator move nothing, so they change no balance that was reported. -/
theorem reported_coordinators {txs : List L1Tx} {outs : List (L1Tx × ExitOut)} {exits : List ProcessedExit}
    (hamounts : ∀ tx ∈ txs, 0 ≤ tx.amount ∧ 0 ≤ tx.depositAmount) (horigin : ∀ tx ∈ txs, tx.userOrigin = false)
    (hkeeps : r.exits.isSome) (hreported : Reported r exits) (h : forEach l1Tx txs r = some (outs, r')) :
    Reported r' exits ∧ r'.exits.isSome := by
  induction txs generalizing r outs with
  | nil =>
    cases h
    exact ⟨hreported, hkeeps⟩
  | cons tx rest ih =>
    obtain ⟨out, r₁, outs₁, hfirst, hrest, rfl⟩ := forEach_cons_some.mp h
    obtain ⟨hamount, hdeposit⟩ := hamounts tx List.mem_cons_self
    have hbooks := (l1Tx_books hamount hdeposit hfirst).1
    obtain ⟨-, hout⟩ := l1Tx_some.mp hfirst
    have hnone : ∀ idx, posted (only idx) (l1TxExits out.1) = 0 := by
      intro idx
      rw [hout, l1TxExits, l1Exits]
      split
      next htype =>
        have heffective : (effectiveTx r.toStore tx).effectiveAmount.getD 0 = 0 := by
          rw [effectiveTx] at htype ⊢
          split
          · rw [computeEffectiveAmounts, effectiveAmounts, horigin tx List.mem_cons_self]
            rfl
          next hunknown =>
            rw [if_neg hunknown] at htype
            simp [htype, knownL1Type] at hunknown
        rw [heffective, exitEntry]
        split <;> simp
      next => rfl
    exact ih (fun tx' htx' => hamounts tx' (List.mem_cons_of_mem _ htx'))
      (fun tx' htx' => horigin tx' (List.mem_cons_of_mem _ htx'))
      ((l1Tx_evolves tx _ _ _ hfirst).exits.trans hkeeps) (hreported.quiet hbooks hnone) hrest

end Reports

end Rollup

section Withdraw

variable [Libraries] {state : StateDB} {config : Config} {s' : TxProcessor} {coordIdxs : List Nat}
  {l1UserTxs l1CoordinatorTxs : List L1Tx} {l2Txs : List PoolL2Tx} {out : ProcessTxOutput}

open TxProcessor Rollup

omit [Libraries] in
theorem filterMap_l2Sender {typ : TypeStateDB} {txs txs' : List PoolL2Tx} (h : List.Forall₂ (FilledIn typ) txs txs') :
    txs'.filterMap l2Sender = txs.filterMap l2Sender := by
  induction h with
  | nil => rfl
  | cons hfilled _ ih =>
    have hsender := congrArg l2Sender hfilled.eq
    rw [List.filterMap_cons, List.filterMap_cons, ih, hsender]
    rfl

/-- **Every exit the synchronizer reports can be withdrawn.**  There is one proof for every account that is
the sender of an exit of a user or of an L2 exit with an amount, in the order of the first ones; its balance
is the sum of the effective amounts of all exits of the account, and the contract accepts it from the owner
of the account. -/
theorem exitInfos_withdrawable (hsync : state.typ = .synchronizer)
    (hl1 : ∀ tx ∈ l1UserTxs ++ l1CoordinatorTxs, 0 ≤ tx.amount ∧ 0 ≤ tx.depositAmount)
    (horigin : ∀ tx ∈ l1CoordinatorTxs, tx.userOrigin = false) (hl2 : ∀ tx ∈ l2Txs, 0 ≤ tx.amount)
    (h : processTxs coordIdxs l1UserTxs l1CoordinatorTxs l2Txs (newTxProcessor state config) = .ok out s') :
    out.exitInfos.map ExitInfo.accountIdx = (l1UserTxs.filterMap l1Sender ++ l2Txs.filterMap l2Sender).eraseDups ∧
    ∀ info ∈ out.exitInfos,
      info.balance = exitedBy (· = info.accountIdx) (out.l1UserTxs ++ out.l1CoordinatorTxs) out.l2Txs ∧
      info.balance < 2 ^ 192 ∧
      ∃ acc, s'.state.getAccount info.accountIdx = .ok acc ∧
        ∀ (contract : Hermez) (msg : Msg) (numExitRoot : BitVec 32),
          contract.exitRootsMap numExitRoot = s'.exitRoot → msg.sender = acc.ethAddr →
          Hermez.smtVerifier (contract.exitRootsMap numExitRoot) info.merkleProof.siblings
            (BitVec.ofNat 48 info.accountIdx).toNat
            (Libraries.poseidon (Hermez.buildTreeState acc.tokenID 0
              ((BitVec.ofNat 192 info.balance.toNat).setWidth 256) acc.bjj msg.sender)) = true := by
  obtain ⟨bout, r', hbatch, hstate, hexitTree, husers, hcoordinators, hfilled, hinfos⟩ := processTxs_ok h
  have hl2' := filledIn_amounts hfilled hl2
  have hbooks := batch_books hl1 hl2' hbatch
  obtain ⟨r₁, r₂, r₃, us, hspecUsers, hspecCoordinators, -, -, hspecL2, hspecFees⟩ := batch_some.mp hbatch
  have hkeeps : (Rollup.start state).exits = some ∅ := by
    rw [Rollup.start, hsync]
    rfl
  -- the records, transaction by transaction
  have hreported₀ : Reported (Rollup.start state) [] := fun idx exit hexit => by
    rw [lastExits, List.foldl_nil, Finmap.lookup_empty] at hexit
    cases hexit
  obtain ⟨hreported₁, hkeeps₁, hidxs₁⟩ := reported_forEach Prod.snd
    (fun tx htx _ _ _ hk hrun => l1Tx_postsExit (hl1 tx (List.mem_append_left _ htx)).1
      (hl1 tx (List.mem_append_left _ htx)).2 hk hrun) (by rw [hkeeps]; rfl) hreported₀ hspecUsers
  obtain ⟨hreported₂, hkeeps₂⟩ := reported_coordinators (fun tx htx => hl1 tx (List.mem_append_right _ htx)) horigin
    hkeeps₁ hreported₁ hspecCoordinators
  obtain ⟨hreported₃, -, hidxs₃⟩ := reported_forEach (r := { r₂ with fees := fun _ => 0 }) id
    (fun tx htx _ _ _ hk hrun => l2Tx_postsExit (hl2' tx htx) hk hrun) hkeeps₂ hreported₂ hspecL2
  rw [List.map_id] at hreported₃ hidxs₃
  have hrecords : [] ++ (bout.users.map Prod.snd).filterMap recordOf ++ bout.exits.filterMap recordOf =
      (bout.users.map Prod.snd ++ bout.exits).filterMap recordOf := by
    rw [List.nil_append, List.filterMap_append]
  rw [hrecords] at hreported₃
  have hinfos := hinfos hsync
  -- the leaves, and what was posted to them
  obtain ⟨tree, htree, hposts, howned⟩ := hbooks.exits ∅ hkeeps
  have howned := howned fun idx leaf hleaf => by
    rw [Finmap.lookup_empty] at hleaf
    cases hleaf
  rw [htree] at hinfos
  refine ⟨?_, fun info hinfo => ?_⟩
  · rw [hinfos, exitInfos_accountIdx, List.filterMap_append, List.map_append, hidxs₁, hidxs₃, filterMap_l2Sender hfilled]
  · rw [hinfos] at hinfo
    obtain ⟨idx, -, hlast⟩ := List.mem_filterMap.mp hinfo
    obtain ⟨exit, hexit, rfl⟩ := Option.map_eq_some_iff.mp hlast
    have hidx : exit.idx = idx := (lastExits_lookup _ idx).1 exit hexit
    obtain ⟨tree', leaf, htree', hleaf, hbalance⟩ := hreported₃ idx exit hexit
    rw [← payFees_exits hspecFees, htree] at htree'
    cases htree'
    obtain ⟨hle, hnonce, a, ha, howner⟩ := howned idx leaf hleaf
    subst hidx
    have hlt := leaf.balance_lt
    have hholds := hposts.holds exit.idx
    rw [holds_of_lookup hleaf, holds, Finmap.lookup_empty, Option.elim_none, Int.zero_add] at hholds
    show exit.acc.balance = _ ∧ exit.acc.balance < _ ∧ _
    rw [hbalance]
    refine ⟨?_, by exact_mod_cast hlt, a.account exit.idx, ?_, ?_⟩
    · have hweight : only exit.idx = fun i => if decide (i = exit.idx) then 1 else 0 := by
        funext i
        simp [only]
      rw [hholds, hweight, batch_exited _ hl1 hbatch]
      refine exitedBy_of_map ?_ _ _
      rw [List.map_append, List.map_append, List.map_append, husers, hcoordinators, List.map_map, List.map_map]
      rfl
    · rw [hstate]
      exact getAccountInTreeDB_ok.mpr ⟨hle, a, ha, rfl⟩
    · intro contract msg numExitRoot hroot hsender
      have hidx : (BitVec.ofNat 48 exit.idx).toNat = exit.idx := by
        rw [maxIdxValue] at hle
        rw [BitVec.toNat_ofNat, Nat.mod_eq_of_lt (by omega)]
      have hexitRoot : s'.exitRoot = tree.root := by rw [exitRoot, hexitTree, htree]; rfl
      have hverified := AccountTree.smtVerifier_siblings (fun i b hb => (howned i b hb).1) hleaf
      rw [StoredAccount.leafValue_eq hnonce, howner.tokenID, howner.bjj, howner.ethAddr] at hverified
      rw [hroot, hexitRoot, hsender]
      show Hermez.smtVerifier tree.root (tree.siblings exit.idx) (BitVec.ofNat 48 exit.idx).toNat _ = true
      have hamount : (exitInfo ((some tree).getD ∅) exit).balance.toNat = leaf.balance :=
        (congrArg Int.toNat hbalance).trans (Int.toNat_natCast _)
      rw [hidx, hamount]
      exact hverified

end Withdraw

def exitTx : PoolL2Tx :=
  { fromIdx := 256, toIdx := 1, amount := 3, type := some .exit }

theorem exitTx_withdrawable :
    ∃ out s', @TxProcessor.processTxs plainLibraries [] [] [] [exitTx]
        (newTxProcessor (oneAccountState .synchronizer) smallConfig) = .ok out s' ∧
      out.exitInfos.map ExitInfo.accountIdx = [256] ∧
      ∀ info ∈ out.exitInfos, info.balance =
        Rollup.exitedBy (· = info.accountIdx) (out.l1UserTxs ++ out.l1CoordinatorTxs) out.l2Txs := by
  have hrun : succeedsWith (fun _ _ => true) (@TxProcessor.processTxs plainLibraries [] [] [] [exitTx]
      (newTxProcessor (oneAccountState .synchronizer) smallConfig)) = true := by decide +kernel
  obtain ⟨out, s', hout, -⟩ := exists_of_succeedsWith hrun
  obtain ⟨hidxs, hinfos⟩ := @exitInfos_withdrawable plainLibraries _ _ s' _ _ _ _ out rfl (by simp) (by simp)
    (by decide) hout
  exact ⟨out, s', hout, hidxs, fun info hinfo => (hinfos info hinfo).1⟩

def coordinatorExitTx : L1Tx :=
  { fromIdx := 256, toIdx := 1, amount := 3, userOrigin := false, type := some .forceExit }

/-- The synchronizer accepts a forced exit among the transactions of the coordinator, but reports nothing. -/
theorem coordinatorExit_not_reported :
    ∃ out s', @TxProcessor.processTxs plainLibraries [] [] [coordinatorExitTx] []
        (newTxProcessor (oneAccountState .synchronizer) smallConfig) = .ok out s' ∧
      coordinatorExitTx.type = some .forceExit ∧ coordinatorExitTx.amount ≠ 0 ∧
      coordinatorExitTx.fromIdx ∉ out.exitInfos.map ExitInfo.accountIdx := by
  have hrun : succeedsWith (fun out _ => coordinatorExitTx.fromIdx ∉ out.exitInfos.map ExitInfo.accountIdx)
      (@TxProcessor.processTxs plainLibraries [] [] [coordinatorExitTx] []
        (newTxProcessor (oneAccountState .synchronizer) smallConfig)) = true := by decide +kernel
  obtain ⟨out, s', hout, hnot⟩ := exists_of_succeedsWith hrun
  exact ⟨out, s', hout, rfl, by decide, of_decide_eq_true hnot⟩

end HermezRollup
