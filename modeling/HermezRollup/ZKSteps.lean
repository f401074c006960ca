import HermezRollup.BatchRefinement
import HermezRollup.Slots

/-! What one transaction of a batch does to the circuit inputs.  Most of its inputs copy what the
transaction says; apart from those it sets the slots of the intermediate states and the metadata. -/

namespace HermezRollup

open Bytes Fallible Simulation Slots

/-- The circuit inputs without those that copy data of the transactions. -/
def ZKInputs.withoutTxData (zki : ZKInputs) : ZKInputs :=
  { zki with
    txCompressedData := [], txCompressedDataV2 := [], amountF := [], depositAmountF := [], rqTxCompressedDataV2 := [] }

variable {exit : ExitOut}

theorem exitLeaf_account [Libraries] {tree tree' : AccountTree} {idx : Nat} {acc : Account} {amount : Int}
    (h : exitLeaf tree idx acc amount = .ok (tree', exit)) : exit.exitAccount.isSome = true := by
  rw [exitLeaf] at h
  split at h
  · obtain ⟨_, -, hret⟩ := except_bind_ok.mp h
    cases hret
    rfl
  · cases h
  · obtain ⟨_, -, hret⟩ := except_bind_ok.mp h
    cases hret
    rfl

namespace TxProcessor

/-- The part of a processor that moving balances has no effect on. -/
def books (s : TxProcessor) : (Nat × Option ZKInputs) × (TokenID → Option Int) × Finmap fun _ : Nat => Int :=
  ((s.txIndex, s.zki), s.collectedFees, s.accumulatedFees)

/-- A computation that changes neither circuit inputs nor fees. -/
def KeepsBooks {α : Type} (x : TxProc α) : Prop :=
  ∀ s a s', x s = .ok a s' → s'.books = s.books

variable {tx : Tx}

section Keeps

variable {α β : Type}

theorem KeepsBooks.bind {x : TxProc α} {k : α → TxProc β} (hx : KeepsBooks x) (hk : ∀ a, KeepsBooks (k a)) :
    KeepsBooks (x >>= k) := by
  intro s b s'' h
  obtain ⟨a, s', hrun, hrun'⟩ := bind_ok.mp h
  exact (hk a s' b s'' hrun').trans (hx s a s' hrun)

theorem KeepsBooks.pure (a : α) : KeepsBooks (pure a : TxProc α) := by
  intro s b s' h
  obtain ⟨-, rfl⟩ := pure_ok.mp h
  rfl

theorem KeepsBooks.fromState (f : TxProcessor → Except Err α) : KeepsBooks (fromState f) := by
  intro s a s' h
  obtain ⟨-, rfl⟩ := fromState_ok.mp h
  rfl

theorem KeepsBooks.onStore (update : Store → Except Err Store) : KeepsBooks (onStore update) := by
  intro s u s' h
  rw [TxProcessor.onStore] at h
  split at h
  · cases h
    rfl
  · cases h

theorem KeepsBooks.rememberAccount (idx : Nat) (acc : Account) : KeepsBooks (rememberAccount idx acc) := by
  intro s u s' h
  rw [TxProcessor.rememberAccount, modify_run] at h
  cases h
  split <;> rfl

theorem KeepsBooks.checkBalance (tx : Tx) (balance : Int) : KeepsBooks (checkBalance tx balance) := by
  rw [TxProcessor.checkBalance]
  split
  · intro s u s' h
    cases h
  · exact .pure ()

variable [Libraries]

theorem KeepsBooks.createAccount (idx : Nat) (acc : Account) : KeepsBooks (createAccount idx acc) :=
  (KeepsBooks.rememberAccount idx acc).bind fun _ => .onStore _

theorem KeepsBooks.updateAccount (idx : Nat) (acc : Account) : KeepsBooks (updateAccount idx acc) :=
  (KeepsBooks.rememberAccount idx acc).bind fun _ => .onStore _

theorem KeepsBooks.creditReceiver (fromIdx toIdx : Nat) (accSender : Account) (amount : Int) :
    KeepsBooks (creditReceiver fromIdx toIdx accSender amount) := by
  refine KeepsBooks.bind ?_ fun _ => .updateAccount _ _
  rw [getReceiver]
  split
  · exact .pure _
  · exact .fromState _

theorem KeepsBooks.applyDeposit (tx : L1Tx) (transfer : Bool) : KeepsBooks (applyDeposit tx transfer) := by
  refine (KeepsBooks.fromState _).bind fun acc => (KeepsBooks.checkBalance _ _).bind fun _ =>
    (KeepsBooks.updateAccount _ _).bind fun _ => ?_
  split
  · exact .creditReceiver _ _ _ _
  · exact .pure ()

omit [Libraries] in
theorem KeepsBooks.chargeSender (htx : tx.isL1 = true) (coordIdxsMap : CoordIdxsMap) (acc : Account) :
    KeepsBooks (chargeSender coordIdxsMap tx acc) := by
  rw [TxProcessor.chargeSender, if_pos htx]
  exact (KeepsBooks.checkBalance _ _).bind fun _ => .pure _

theorem KeepsBooks.applyTransfer (htx : tx.isL1 = true) (coordIdxsMap : CoordIdxsMap) (auxToIdx : Nat) :
    KeepsBooks (applyTransfer coordIdxsMap tx auxToIdx) :=
  (KeepsBooks.fromState _).bind fun acc => (KeepsBooks.chargeSender htx _ acc).bind fun _ =>
    (KeepsBooks.updateAccount _ _).bind fun _ => .creditReceiver _ _ _ _

end Keeps

/-- What is collected for a token is what its coordinator account is owed. -/
def CollectsFees (coordIdxsMap : CoordIdxsMap) (s : TxProcessor) : Prop :=
  ∀ tokenID idx, coordIdxsMap.lookup tokenID = some idx →
    ∃ acc, s.state.getAccount idx = .ok acc ∧ acc.tokenID = tokenID ∧ s.collectedFees tokenID = some (s.rollup.fees idx)

section Fees

variable {s s' : TxProcessor} {coordIdxsMap : CoordIdxsMap}

theorem CollectsFees.evolves (h : CollectsFees coordIdxsMap s) (hpersists : s.state.accounts.Persists s'.state.accounts)
    (hcollected : s'.collectedFees = s.collectedFees) (howed : s'.accumulatedFees = s.accumulatedFees) :
    CollectsFees coordIdxsMap s' := by
  intro tokenID idx hlookup
  obtain ⟨acc, hacc, htoken, hfees⟩ := h tokenID idx hlookup
  obtain ⟨acc', hacc', -, htoken', -⟩ := Rollup.getAccount_of_persists hpersists hacc
  refine ⟨acc', hacc', htoken'.trans htoken, ?_⟩
  rw [hcollected, hfees]
  simp only [rollup, howed]

theorem accumulateFee_books {tokenID : TokenID} {fee : Int} {u : Unit} (hbuilder : s.state.typ ≠ .txSelector)
    (h : accumulateFee coordIdxsMap tokenID fee s = .ok u s') :
    s'.state = s.state ∧ s'.txIndex = s.txIndex ∧ s'.zki = s.zki ∧
      (CollectsFees coordIdxsMap s → CollectsFees coordIdxsMap s') := by
  rw [accumulateFee] at h
  cases hlookup : coordIdxsMap.lookup tokenID with
  | none =>
    simp only [hlookup] at h
    obtain ⟨-, rfl⟩ := pure_ok.mp h
    exact ⟨rfl, rfl, rfl, id⟩
  | some coordIdx =>
    simp only [hlookup] at h
    obtain ⟨accCoord, t, hread, h₁⟩ := bind_ok.mp h
    obtain ⟨hget, rfl⟩ := fromState_ok.mp hread
    obtain ⟨_, _, hmodify, hcollect⟩ := bind_ok.mp h₁
    cases hmodify
    rw [collectFee, if_neg (show ¬(accrueFee accCoord.idx fee t).state.typ = .txSelector from hbuilder)] at hcollect
    split at hcollect
    · cases hcollect
    next collected hcollected =>
      cases hcollect
      refine ⟨rfl, rfl, rfl, fun hcollects => ?_⟩
      have hcoord : t.state.getAccount coordIdx = .ok accCoord := by
        rw [getCoordAccount] at hget
        cases haccount : t.state.getAccount coordIdx with
        | error e => rw [haccount] at hget; cases hget
        | ok acc => rw [haccount] at hget; exact hget
      obtain ⟨-, a, -, haccCoord⟩ := getAccountInTreeDB_ok.mp hcoord
      have hidx : accCoord.idx = coordIdx := by rw [haccCoord]; rfl
      obtain ⟨acc, hacc, htoken, hfees⟩ := hcollects tokenID coordIdx hlookup
      rw [hcoord] at hacc
      cases hacc
      have hsame : collected = t.rollup.fees coordIdx := by
        rw [← htoken] at hfees
        exact Option.some.inj (hcollected.symm.trans hfees)
      have hfeesAfter : (accrueFee coordIdx fee t).rollup.fees =
          Function.update t.rollup.fees coordIdx (t.rollup.fees coordIdx + fee) := by rw [accrueFee_rollup]
      rw [hidx, htoken]
      intro tokenID' idx' hlookup'
      obtain ⟨acc', hacc', htoken', hfees'⟩ := hcollects tokenID' idx' hlookup'
      refine ⟨acc', hacc', htoken', ?_⟩
      show Function.update t.collectedFees tokenID (some (collected + fee)) tokenID' =
        some ((accrueFee coordIdx fee t).rollup.fees idx')
      rw [hfeesAfter]
      by_cases heq : tokenID' = tokenID
      · subst heq
        rw [hlookup] at hlookup'
        cases hlookup'
        rw [Function.update_self, Function.update_self, hsame]
      · have hne : idx' ≠ coordIdx := by
          rintro rfl
          rw [hcoord] at hacc'
          cases hacc'
          exact heq (htoken'.symm.trans htoken)
        rw [Function.update_of_ne heq, Function.update_of_ne hne, hfees']

theorem checkBalance_same {balance : Int} {u : Unit} (h : checkBalance tx balance s = .ok u s') : s' = s := by
  rw [checkBalance] at h
  split at h
  · cases h
  · exact (pure_ok.mp h).2.symm

theorem chargeSender_books {acc acc' : Account} (hbuilder : s.state.typ ≠ .txSelector)
    (h : chargeSender coordIdxsMap tx acc s = .ok acc' s') :
    s'.state = s.state ∧ s'.txIndex = s.txIndex ∧ s'.zki = s.zki ∧
      (CollectsFees coordIdxsMap s → CollectsFees coordIdxsMap s') := by
  rw [chargeSender] at h
  split at h
  · obtain ⟨_, s₁, hbalance, hret⟩ := bind_ok.mp h
    obtain ⟨-, rfl⟩ := pure_ok.mp hret
    obtain rfl := checkBalance_same hbalance
    exact ⟨rfl, rfl, rfl, id⟩
  · obtain ⟨fee, t, hread, h₁⟩ := bind_ok.mp h
    obtain ⟨-, rfl⟩ := fromState_ok.mp hread
    obtain ⟨_, s₁, hbalance, h₂⟩ := bind_ok.mp h₁
    obtain ⟨_, s₂, haccumulate, hret⟩ := bind_ok.mp h₂
    obtain ⟨-, rfl⟩ := pure_ok.mp hret
    obtain rfl := checkBalance_same hbalance
    exact accumulateFee_books hbuilder haccumulate

theorem books_eq : s'.books = s.books ↔ (s'.txIndex = s.txIndex ∧ s'.zki = s.zki) ∧
    s'.collectedFees = s.collectedFees ∧ s'.accumulatedFees = s.accumulatedFees := by
  simp only [books, Prod.mk.injEq]

/-- What taking an amount from a sender does to the books, and that the rest of the computation goes on from
there. -/
theorem spend_books [Libraries] {α : Type} {k : Account → TxProc α} {a : α} (hbuilder : s.state.typ ≠ .txSelector)
    (h : (do
      let acc ← getAccount tx.fromIdx
      let acc ← chargeSender coordIdxsMap tx acc
      updateAccount tx.fromIdx acc
      k acc) s = .ok a s') :
    ∃ acc s₁, k acc s₁ = .ok a s' ∧ s₁.zki = s.zki ∧ s₁.txIndex = s.txIndex ∧
      (CollectsFees coordIdxsMap s → s.state.accounts.Persists s'.state.accounts →
        s'.collectedFees = s₁.collectedFees → s'.accumulatedFees = s₁.accumulatedFees → CollectsFees coordIdxsMap s') := by
  obtain ⟨acc, t, hget, h₁⟩ := bind_ok.mp h
  obtain ⟨-, rfl⟩ := fromState_ok.mp hget
  obtain ⟨acc', s₁, hcharge, h₂⟩ := bind_ok.mp h₁
  obtain ⟨_, s₂, hupdate, hk⟩ := bind_ok.mp h₂
  obtain ⟨hstate, hindex, hzki, hcollects⟩ := chargeSender_books hbuilder hcharge
  obtain ⟨⟨hindex₂, hzki₂⟩, hcollected₂, howed₂⟩ := books_eq.mp (KeepsBooks.updateAccount _ _ _ _ _ hupdate)
  refine ⟨acc', s₂, hk, hzki₂.trans hzki, hindex₂.trans hindex, fun hfees hpersists hcollected howed => ?_⟩
  rw [← hstate] at hpersists
  exact (hcollects hfees).evolves hpersists (hcollected.trans hcollected₂) (howed.trans howed₂)

end Fees

/-- The slot of the exit root after an exit, if there is a leaf for it. -/
def exitSlots [Libraries] (s : TxProcessor) (exit : ExitOut) (zki : ZKInputs) : ZKInputs :=
  { zki with
    isExitRoot := if exit.exitAccount.isSome then setIfLt zki.isExitRoot s.txIndex s.exitRoot else zki.isExitRoot }

/-- The fees stay collected along a computation that keeps the accounts. -/
abbrev KeepsCollecting (coordIdxsMap : CoordIdxsMap) (s s' : TxProcessor) : Prop :=
  CollectsFees coordIdxsMap s → s.state.accounts.Persists s'.state.accounts → CollectsFees coordIdxsMap s'

section Transactions

variable [Libraries] {s s' : TxProcessor} {coordIdxsMap : CoordIdxsMap} {zki : ZKInputs}

theorem applyTransfer_books {auxToIdx : Nat} {u : Unit} (hbuilder : s.state.typ ≠ .txSelector)
    (h : applyTransfer coordIdxsMap tx auxToIdx s = .ok u s') :
    s'.txIndex = s.txIndex ∧ s'.zki = s.zki ∧ KeepsCollecting coordIdxsMap s s' := by
  obtain ⟨acc, s₁, hcredit, hzki, hindex, hcollects⟩ := spend_books hbuilder h
  obtain ⟨⟨hindex₁, hzki₁⟩, hcollected, howed⟩ := books_eq.mp (KeepsBooks.creditReceiver _ _ _ _ _ _ _ hcredit)
  exact ⟨hindex₁.trans hindex, hzki₁.trans hzki, fun hfees hpersists => hcollects hfees hpersists hcollected howed⟩

theorem applyExit_books {originalAmount : Int} (hbuilder : s.state.typ ≠ .txSelector)
    (hzki : s.zki = some zki) (h : applyExit coordIdxsMap tx originalAmount s = .ok exit s') :
    s'.txIndex = s.txIndex ∧ s'.zki = some (s'.exitSlots exit zki) ∧ KeepsCollecting coordIdxsMap s s' := by
  obtain ⟨acc, s₁, hleave, hzki₁, hindex, hcollects⟩ := spend_books hbuilder h
  rw [hzki] at hzki₁
  rw [bind_of_ok (get_run s₁)] at hleave
  have hreturn : ∀ {t : TxProcessor}, (pure { exitIdx := some tx.fromIdx } : TxProc ExitOut) s₁ = .ok exit t →
      t.txIndex = s.txIndex ∧ t.zki = some (t.exitSlots exit zki) ∧ t = s₁ := by
    intro t hret
    obtain ⟨rfl, rfl⟩ := pure_ok.mp hret
    exact ⟨hindex, hzki₁, rfl⟩
  cases htree : s₁.exitTree with
  | none =>
    simp only [htree] at hleave
    obtain ⟨hindex', hzki', rfl⟩ := hreturn hleave
    exact ⟨hindex', hzki', fun hfees hpersists => hcollects hfees hpersists rfl rfl⟩
  | some tree =>
    simp only [htree] at hleave
    split at hleave
    · obtain ⟨hindex', hzki', rfl⟩ := hreturn hleave
      exact ⟨hindex', hzki', fun hfees hpersists => hcollects hfees hpersists rfl rfl⟩
    · obtain ⟨⟨tree', exit'⟩, t, hread, h₁⟩ := bind_ok.mp hleave
      obtain ⟨hleaf, rfl⟩ := fromState_ok.mp hread
      obtain ⟨_, _, hmodify, h₂⟩ := bind_ok.mp h₁
      cases hmodify
      obtain ⟨_, s₂, hfill, hret⟩ := bind_ok.mp h₂
      obtain ⟨rfl, rfl⟩ := pure_ok.mp hret
      simp only [onZKInputs, hzki₁, fillExitRoot] at hfill
      cases hfill
      refine ⟨hindex, ?_, fun hfees hpersists => hcollects hfees hpersists rfl rfl⟩
      rw [exitSlots, if_pos (exitLeaf_account hleaf)]
      rfl

/-- The circuit inputs that the opening of an account sets. -/
def openSlots (s : TxProcessor) (zki : ZKInputs) : ZKInputs :=
  { zki with
    metadata := { zki.metadata with newLastIdxRaw := s.state.currentIdx + 1 }
    isOnChain := setIfLt zki.isOnChain s.txIndex 1 }

omit [Libraries] in
theorem onZKInputs_some {fill : TxProcessor → ZKInputs → Except Err ZKInputs} {u : Unit} (hzki : s.zki = some zki)
    (h : onZKInputs fill s = .ok u s') : ∃ zki', fill s zki = .ok zki' ∧ s' = { s with zki := some zki' } := by
  simp only [onZKInputs, hzki] at h
  cases hfill : fill s zki with
  | error e => rw [hfill] at h; cases h
  | ok zki' =>
    rw [hfill] at h
    cases h
    exact ⟨zki', rfl, rfl⟩

theorem createAccount_zki {idx : Nat} {acc : Account} {k : TxProc Unit} {u : Unit} (hzki : s.zki = some zki)
    (hidx : idx = s.state.currentIdx + 1) (hk : KeepsBooks k)
    (h : (do createAccount idx acc; onZKInputs (fillNewAccount idx); k) s = .ok u s') :
    s'.txIndex = s.txIndex ∧ s'.zki = some (s.openSlots zki) := by
  obtain ⟨_, s₁, hcreate, h₁⟩ := bind_ok.mp h
  obtain ⟨_, s₂, hfill, hrest⟩ := bind_ok.mp h₁
  obtain ⟨⟨hindex₁, hzki₁⟩, -⟩ := books_eq.mp (KeepsBooks.createAccount _ _ _ _ _ hcreate)
  obtain ⟨zki₂, hfilled, rfl⟩ := onZKInputs_some (hzki₁.trans hzki) hfill
  obtain ⟨⟨hindex₃, hzki₃⟩, -⟩ := books_eq.mp (hk _ _ _ hrest)
  cases hfilled
  refine ⟨hindex₃.trans hindex₁, hzki₃.trans ?_⟩
  rw [openSlots, hidx, hindex₁]

theorem applyL1Tx_zki {tx tx' : L1Tx} (hbuilder : s.state.typ ≠ .txSelector) (hzki : s.zki = some zki)
    (h : applyL1Tx tx s = .ok (tx', exit) s') :
    s'.txIndex = s.txIndex ∧
      s'.zki = some (s'.exitSlots exit (if Rollup.creates tx = 1 then s.openSlots zki else zki)) := by
  rw [applyL1Tx, bind_of_ok (get_run s)] at h
  -- only an exit has a leaf
  have hnoExit : ∀ {x : TxProc Unit} {out : L1Tx} {zki' : ZKInputs},
      (∀ u t, x s = .ok u t → t.txIndex = s.txIndex ∧ t.zki = some zki') →
      (do x; return (out, {}) : TxProc (L1Tx × ExitOut)) s = .ok (tx', exit) s' →
      s'.txIndex = s.txIndex ∧ s'.zki = some (s'.exitSlots exit zki') := by
    intro x out zki' hx hrun
    obtain ⟨u, t, hfirst, hret⟩ := bind_ok.mp hrun
    obtain ⟨heq, rfl⟩ := pure_ok.mp hret
    cases heq
    exact hx u t hfirst
  have hkeeps : ∀ {x : TxProc Unit}, KeepsBooks x → ∀ u t, x s = .ok u t → t.txIndex = s.txIndex ∧ t.zki = some zki := by
    intro x hx u t hrun
    obtain ⟨⟨hindex, hsame⟩, -⟩ := books_eq.mp (hx s u t hrun)
    exact ⟨hindex, hsame.trans hzki⟩
  have hother : Rollup.creates tx ≠ 1 → (pure (tx, {}) : TxProc (L1Tx × ExitOut)) s = .ok (tx', exit) s' →
      s'.txIndex = s.txIndex ∧
        s'.zki = some (s'.exitSlots exit (if Rollup.creates tx = 1 then s.openSlots zki else zki)) := by
    intro hcreates hrun
    obtain ⟨heq, rfl⟩ := pure_ok.mp hrun
    cases heq
    rw [if_neg hcreates]
    exact ⟨rfl, hzki⟩
  cases htype : tx.type with
  | none =>
    simp only [htype] at h
    exact hother (by simp [Rollup.creates, htype]) h
  | some type =>
    simp only [htype] at h
    cases type with
    | forceTransfer =>
      rw [if_neg (by simp [Rollup.creates, htype])]
      exact hnoExit (hkeeps (.applyTransfer rfl ∅ 0)) h
    | createAccountDeposit =>
      rw [if_pos (by simp [Rollup.creates, htype])]
      refine hnoExit (fun u t hrun => ?_) h
      rw [applyCreateAccount, bind_of_ok (get_run s)] at hrun
      exact createAccount_zki hzki rfl (.onStore _) hrun
    | deposit | depositTransfer =>
      rw [if_neg (by simp [Rollup.creates, htype])]
      exact hnoExit (hkeeps (.applyDeposit _ _)) h
    | createAccountDepositTransfer =>
      rw [if_pos (by simp [Rollup.creates, htype])]
      refine hnoExit (fun u t hrun => ?_) h
      rw [applyCreateAccountDepositTransfer, bind_of_ok (get_run s)] at hrun
      obtain ⟨_, s₁, hcheck, hcreate⟩ := bind_ok.mp hrun
      obtain rfl := checkBalance_same hcheck
      exact createAccount_zki hzki rfl ((KeepsBooks.creditReceiver _ _ _ _).bind fun _ => .onStore _) hcreate
    | forceExit =>
      rw [if_neg (by simp [Rollup.creates, htype])]
      obtain ⟨exit', t, hexit, hret⟩ := bind_ok.mp h
      obtain ⟨heq, rfl⟩ := pure_ok.mp hret
      cases heq
      obtain ⟨hindex, hslots, -⟩ := applyExit_books hbuilder hzki hexit
      exact ⟨hindex, hslots⟩
    | exit | transfer | transferToEthAddr | transferToBJJ => exact hother (by simp [Rollup.creates, htype]) h

omit [Libraries] in
theorem setIfLt_self {α : Type} (xs : List α) (i : Nat) (x : α) : setIfLt (setIfLt xs i x) i x = setIfLt xs i x := by
  simp only [setIfLt]
  split <;> simp_all

/-- **The circuit inputs after an L1 transaction**: its slot is marked as one of L1, an account it opens is the
last one, and an exit with a leaf sets the exit root. -/
theorem processL1Tx_zki {tx : L1Tx} {out : L1TxOut} (hbuilder : s.state.typ ≠ .txSelector) (hzki : s.zki = some zki)
    (h : processL1Tx tx s = .ok out s') :
    ∃ zki', s'.zki = some zki' ∧ zki'.withoutTxData = s'.exitSlots out.exit { zki.withoutTxData with
      metadata := { zki.metadata with
        newLastIdxRaw := if Rollup.creates tx = 1 then s.state.currentIdx + 1 else zki.metadata.newLastIdxRaw }
      isOnChain := setIfLt zki.isOnChain s.txIndex 1 } := by
  obtain ⟨_, s₁, hfill, h₁⟩ := bind_ok.mp h
  obtain ⟨⟨tx', exit⟩, s₂, happly, h₂⟩ := bind_ok.mp h₁
  obtain ⟨created, s₃, hcreated, hret⟩ := bind_ok.mp h₂
  obtain ⟨rfl, rfl⟩ := pure_ok.mp hret
  obtain rfl := getCreatedAccount_ok hcreated
  obtain ⟨zki₁, hfilled, rfl⟩ := onZKInputs_some hzki hfill
  obtain ⟨hindex, hslots⟩ := applyL1Tx_zki (s := { s with zki := some zki₁ }) hbuilder rfl happly
  obtain ⟨_, -, hfilled⟩ := except_bind_ok.mp hfilled
  obtain ⟨_, -, hfilled⟩ := except_bind_ok.mp hfilled
  obtain ⟨_, -, hfilled⟩ := except_bind_ok.mp hfilled
  cases hfilled
  refine ⟨_, hslots, ?_⟩
  split <;> simp [exitSlots, openSlots, ZKInputs.withoutTxData, setIfLt_self]

theorem exitSlots_withoutTxData (s : TxProcessor) (exit : ExitOut) (zki : ZKInputs) :
    (s.exitSlots exit zki).withoutTxData = s.exitSlots exit zki.withoutTxData := rfl

theorem applyL2Tx_zki {tx : PoolL2Tx} (hbuilder : s.state.typ ≠ .txSelector) (hzki : s.zki = some zki)
    (h : applyL2Tx coordIdxsMap tx s = .ok exit s') :
    s'.zki = some (s'.exitSlots exit zki) ∧ KeepsCollecting coordIdxsMap s s' := by
  have htransfer : (do applyTransfer coordIdxsMap tx.tx tx.auxToIdx; return {} : TxProc ExitOut) s = .ok exit s' →
      s'.zki = some (s'.exitSlots exit zki) ∧ KeepsCollecting coordIdxsMap s s' := by
    intro hrun
    obtain ⟨_, t, htransfer, hret⟩ := bind_ok.mp hrun
    obtain ⟨rfl, rfl⟩ := pure_ok.mp hret
    obtain ⟨-, hsame, hfees⟩ := applyTransfer_books hbuilder htransfer
    exact ⟨hsame.trans hzki, hfees⟩
  have hother : (pure {} : TxProc ExitOut) s = .ok exit s' → s'.zki = some (s'.exitSlots exit zki) ∧
      KeepsCollecting coordIdxsMap s s' := by
    intro hrun
    obtain ⟨rfl, rfl⟩ := pure_ok.mp hrun
    exact ⟨hzki, fun hfees _ => hfees⟩
  cases htype : tx.type with
  | none =>
    simp only [applyL2Tx, htype] at h
    exact hother h
  | some type =>
    simp only [applyL2Tx, htype] at h
    cases type with
    | transfer | transferToEthAddr | transferToBJJ => exact htransfer h
    | exit => exact (applyExit_books hbuilder hzki h).2
    | createAccountDeposit | createAccountDepositTransfer | deposit | depositTransfer | forceTransfer | forceExit =>
      exact hother h

/-- **The circuit inputs after an L2 transaction**: an exit with a leaf sets the exit root. -/
theorem processL2Tx_zki {tx tx' : PoolL2Tx} (hbuilder : s.state.typ ≠ .txSelector)
    (hzki : s.zki = some zki) (h : processL2Tx coordIdxsMap tx s = .ok (tx', exit) s') :
    (∃ zki', s'.zki = some zki' ∧ zki'.withoutTxData = s'.exitSlots exit zki.withoutTxData) ∧
      KeepsCollecting coordIdxsMap s s' := by
  obtain ⟨tx₁, s₁, hfind, h₁⟩ := bind_ok.mp h
  obtain ⟨_, s₂, hfill, h₂⟩ := bind_ok.mp h₁
  obtain ⟨tx₂, s₃, hcomplete, h₃⟩ := bind_ok.mp h₂
  obtain ⟨_, s₄, happly, hret⟩ := bind_ok.mp h₃
  obtain ⟨heq, rfl⟩ := pure_ok.mp hret
  cases heq
  obtain ⟨-, rfl⟩ := findReceiver_ok.mp hfind
  obtain ⟨zki₁, hfilled, rfl⟩ := onZKInputs_some hzki hfill
  obtain ⟨-, rfl⟩ := completeL2Tx_ok.mp hcomplete
  have hdata : zki₁.withoutTxData = zki.withoutTxData := by
    obtain ⟨_, -, hfilled⟩ := except_bind_ok.mp hfilled
    obtain ⟨_, -, hfilled⟩ := except_bind_ok.mp hfilled
    obtain ⟨_, -, hfilled⟩ := except_bind_ok.mp hfilled
    obtain ⟨_, -, hfilled⟩ := except_bind_ok.mp hfilled
    split at hfilled
    · cases hfilled
      rfl
    · cases hfilled
  obtain ⟨hslots, hfees⟩ := applyL2Tx_zki (s := { s₁ with zki := some zki₁ }) hbuilder rfl happly
  exact ⟨⟨_, hslots, by rw [exitSlots_withoutTxData, hdata]⟩, hfees⟩

end Transactions

end TxProcessor

end HermezRollup
