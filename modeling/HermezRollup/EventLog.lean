import HermezRollup.ContractSteps

/-! The contract and its log.  Of the contract a node sees the events and the calldata of the forged batches.  They
tell its state: the registry of tokens, the roots of every batch and the exits that were withdrawn. -/

namespace HermezRollup

namespace Event

def newToken : Event → Option (Address × TokenID)
  | .addToken tokenAddress tokenID => some (tokenAddress, tokenID)
  | _ => none

def forgedBatch : Event → Option (BitVec 32)
  | .forgeBatch batchNum _ => some batchNum
  | _ => none

def withdrawnExit : Event → Option (BitVec 32 × BitVec 48)
  | .withdraw idx numExitRoot _ => some (numExitRoot, idx)
  | _ => none

end Event

/-- The calldata of a batch. -/
def Transaction.forgeBatchArgs (tx : Transaction) : List Hermez.ForgeBatchArgs :=
  match tx.call with
  | .forgeBatch args => [args]
  | _ => []

/-- The contract with the events and the calldata of the batches up to now. -/
structure LoggedRun where
  state : Hermez
  events : List Event := []
  forged : List Hermez.ForgeBatchArgs := []

namespace LoggedRun

/-- One more call; a call that reverts changes nothing. -/
def step [Libraries] (r : LoggedRun) (tx : Transaction) : LoggedRun :=
  match r.state.exec tx with
  | .error _ => r
  | .ok (s', events) => { state := s', events := r.events ++ events, forged := r.forged ++ tx.forgeBatchArgs }

def tokens (r : LoggedRun) : List (Address × TokenID) := r.events.filterMap Event.newToken

def batches (r : LoggedRun) : List (BitVec 32) := r.events.filterMap Event.forgedBatch

def exits (r : LoggedRun) : List (BitVec 32 × BitVec 48) := r.events.filterMap Event.withdrawnExit

end LoggedRun

/-- The contract after some calls, from its initialization on. -/
def loggedRun [Libraries] (rollupVerifiers : List VerifierRollup) (forgeL1L2BatchTimeout : BitVec 8)
    (txs : List Transaction) : LoggedRun :=
  txs.foldl LoggedRun.step { state := Hermez.initializeHermez rollupVerifiers forgeL1L2BatchTimeout }

/-! ### The registry of tokens -/

/-- The tokens of the events in order after ether, with consecutive ids; the map of ids is the inverse of the list. -/
structure TokensLogged (tokenList : List Address) (tokenMap : Address → Nat) (tokens : List (Address × TokenID)) :
    Prop where
  list : tokenList = 0 :: tokens.map Prod.fst
  ids : (tokens.map fun entry => entry.2.toNat) = List.range' 1 tokens.length
  map : ∀ id token, tokenList[id + 1]? = some token ↔ tokenMap token = id + 1
  ether : tokenMap 0 = 0
  nodup : tokenList.Nodup

theorem TokensLogged.not_mem {tokenList : List Address} {tokenMap : Address → Nat} {tokens : List (Address × TokenID)}
    (h : TokensLogged tokenList tokenMap tokens) {token : Address} (hne : token ≠ 0) (hnew : tokenMap token = 0) :
    token ∉ tokenList := by
  intro hmem
  obtain ⟨id, hid⟩ := List.getElem?_of_mem hmem
  cases id with
  | zero =>
    rw [h.list, List.getElem?_cons_zero] at hid
    exact hne (Option.some.inj hid).symm
  | succ id => exact absurd (Iff.mp (h.map id token) hid) (by omega)

theorem TokensLogged.add {tokenList : List Address} {tokenMap : Address → Nat} {tokens : List (Address × TokenID)}
    (h : TokensLogged tokenList tokenMap tokens) {token : Address} (hroom : tokenList.length < limitTokens)
    (hne : token ≠ 0) (hnew : tokenMap token = 0) :
    TokensLogged (tokenList ++ [token]) (Function.update tokenMap token tokenList.length)
      (tokens ++ [(token, BitVec.ofNat 32 tokenList.length)]) := by
  refine ⟨by simp [h.list], ?_, fun id other => ?_, by rw [Function.update_of_ne hne.symm, h.ether],
    List.concat_eq_append ▸ h.nodup.concat (h.not_mem hne hnew)⟩
  · have hid : (BitVec.ofNat 32 tokenList.length).toNat = 1 + tokens.length := by
      rw [BitVec.toNat_ofNat, Nat.mod_eq_of_lt (show _ < 2 ^ 32 from hroom), h.list, List.length_cons, List.length_map,
        Nat.add_comm]
    rw [List.map_append, h.ids, List.length_append, List.length_singleton, List.range'_1_concat, List.map_singleton, hid]
  · have hold := h.map id other
    rcases Nat.lt_trichotomy (id + 1) tokenList.length with hlt | heq | hgt
    · rw [List.getElem?_append_left hlt, hold]
      rcases eq_or_ne other token with rfl | hne
      · rw [Function.update_self, hnew]
        omega
      · rw [Function.update_of_ne hne]
    · -- the place of the new token
      rw [heq, List.getElem?_concat_length, Option.some.injEq]
      rcases eq_or_ne other token with rfl | hne
      · simp
      · rw [Function.update_of_ne hne, ← heq, ← hold, heq, List.getElem?_eq_none le_rfl]
        simp [hne.symm]
    · rw [List.getElem?_eq_none (by simpa using hgt)]
      rw [List.getElem?_eq_none hgt.le] at hold
      rcases eq_or_ne other token with rfl | hne
      · rw [Function.update_self]
        simp only [reduceCtorEq, false_iff]
        omega
      · rw [Function.update_of_ne hne, ← hold]

/-! ### Batches and exits -/

/-- The numbers of the batches count them; the last index and the roots are those of the calldata. -/
structure BatchesLogged (lastForgedBatch : BitVec 32) (lastIdx : BitVec 48) (stateRootMap exitRootsMap : BitVec 32 → Nat)
    (batches : List (BitVec 32)) (forged : List Hermez.ForgeBatchArgs) : Prop where
  numbers : batches = (List.range' 1 forged.length).map (BitVec.ofNat 32)
  last : lastForgedBatch = BitVec.ofNat 32 forged.length
  lastIdx : lastIdx = forged.getLast?.elim reservedIdx Hermez.ForgeBatchArgs.newLastIdx
  roots : forged.length < 2 ^ 32 → ∀ i args, forged[i]? = some args →
    stateRootMap (BitVec.ofNat 32 (i + 1)) = args.newStRoot ∧ exitRootsMap (BitVec.ofNat 32 (i + 1)) = args.newExitRoot

theorem BatchesLogged.forge {last : BitVec 32} {lastIdx : BitVec 48} {stateRootMap exitRootsMap : BitVec 32 → Nat}
    {batches : List (BitVec 32)} {forged : List Hermez.ForgeBatchArgs}
    (h : BatchesLogged last lastIdx stateRootMap exitRootsMap batches forged) (args : Hermez.ForgeBatchArgs) :
    BatchesLogged (last + 1) args.newLastIdx (Function.update stateRootMap (last + 1) args.newStRoot)
      (Function.update exitRootsMap (last + 1) args.newExitRoot) (batches ++ [last + 1]) (forged ++ [args]) := by
  have hlast : last + 1 = BitVec.ofNat 32 (forged.length + 1) := by
    rw [h.last, BitVec.ofNat_add]
    rfl
  refine ⟨?_, ?_, by simp, fun hfew i other hi => ?_⟩
  · rw [List.length_append, List.length_singleton, List.range'_1_concat, List.map_append, ← h.numbers, hlast, Nat.add_comm]
    rfl
  · rw [List.length_append, List.length_singleton, hlast]
  · rw [List.length_append, List.length_singleton] at hfew
    rcases Nat.lt_or_ge i forged.length with hlt | hge
    · -- an earlier batch has another number
      have hne : BitVec.ofNat 32 (i + 1) ≠ last + 1 := by
        rw [hlast]
        intro heq
        have := congrArg BitVec.toNat heq
        simp only [BitVec.toNat_ofNat] at this
        omega
      rw [List.getElem?_append_left hlt] at hi
      rw [Function.update_of_ne hne, Function.update_of_ne hne]
      exact h.roots (by omega) i other hi
    · obtain rfl : i = forged.length := by
        have := (List.getElem?_eq_some_iff.mp hi).1
        simp only [List.length_append, List.length_singleton] at this
        omega
      rw [List.getElem?_concat_length] at hi
      cases hi
      rw [← hlast]
      exact ⟨Function.update_self .., Function.update_self ..⟩

/-- The nullifiers are the exits of the events, each of them withdrawn once. -/
structure ExitsLogged (exitNullifierMap : BitVec 32 → BitVec 48 → Bool) (exits : List (BitVec 32 × BitVec 48)) :
    Prop where
  once : exits.Nodup
  nullifier : ∀ numExitRoot idx, exitNullifierMap numExitRoot idx = true ↔ (numExitRoot, idx) ∈ exits

theorem ExitsLogged.withdraw {s : Hermez} {exits : List (BitVec 32 × BitVec 48)}
    (h : ExitsLogged s.exitNullifierMap exits) {numExitRoot : BitVec 32} {idx : BitVec 48}
    (hunused : s.exitNullifierMap numExitRoot idx = false) :
    ExitsLogged (s.setNullifier numExitRoot idx).exitNullifierMap (exits ++ [(numExitRoot, idx)]) := by
  have hfresh : (numExitRoot, idx) ∉ exits := fun hmem => by
    rw [← h.nullifier, hunused] at hmem
    cases hmem
  refine ⟨h.once.append (List.nodup_singleton _) (by simpa using hfresh), fun root i => ?_⟩
  rw [List.mem_append, List.mem_singleton, ← h.nullifier, Prod.mk.injEq]
  rcases eq_or_ne root numExitRoot with rfl | hroot
  · rcases eq_or_ne i idx with rfl | hidx
    · simp [Hermez.setNullifier]
    · simp [Hermez.setNullifier, hidx]
  · simp [Hermez.setNullifier, hroot]

/-! ### Every run -/

section Projections

variable {α : Type} {f : Event → Option α} {events : List Event} {e : Event}

theorem filterMap_snoc_none (h : f e = none) : (events ++ [e]).filterMap f = events.filterMap f := by
  rw [List.filterMap_append, List.filterMap_cons_none h, List.filterMap_nil, List.append_nil]

theorem filterMap_snoc_some {a : α} (h : f e = some a) : (events ++ [e]).filterMap f = events.filterMap f ++ [a] := by
  rw [List.filterMap_append, List.filterMap_cons_some h, List.filterMap_nil]

end Projections

/-- What the events and the calldata tell of the contract. -/
structure Logged (s : Hermez) (events : List Event) (forged : List Hermez.ForgeBatchArgs) : Prop where
  tokens : TokensLogged s.tokenList s.tokenMap (events.filterMap Event.newToken)
  batches : BatchesLogged s.lastForgedBatch s.lastIdx s.stateRootMap s.exitRootsMap (events.filterMap Event.forgedBatch)
    forged
  exits : ExitsLogged s.exitNullifierMap (events.filterMap Event.withdrawnExit)

theorem Logged.step [Libraries] {s s' : Hermez} {events emitted : List Event} {forged : List Hermez.ForgeBatchArgs}
    {tx : Transaction} (h : Logged s events forged) (hstep : Hermez.Step s tx s' emitted) :
    Logged s' (events ++ emitted) (forged ++ tx.forgeBatchArgs) := by
  obtain ⟨htokens, hbatches, hexits⟩ := h
  cases hstep with
  | queued args balanceOf hcall =>
    rw [Hermez.l1QueueAddTx_fst, Hermez.l1QueueAddTx_snd, Transaction.forgeBatchArgs, hcall, List.append_nil]
    refine ⟨?_, ?_, ?_⟩ <;> rwa [filterMap_snoc_none rfl]
  | forged args input hcall =>
    rw [Hermez.clearIfL1Batch_fst, Transaction.forgeBatchArgs, hcall]
    refine ⟨by rwa [filterMap_snoc_none rfl], ?_, by rwa [filterMap_snoc_none rfl]⟩
    rw [filterMap_snoc_some (f := Event.forgedBatch) rfl]
    exact hbatches.forge args
  | withdrawn wd token hproof htoken hfunds hunused =>
    have hcalldata : tx.forgeBatchArgs = [] := by
      cases hproof with
      | merkle _ _ hcall | circuit _ hcall => rw [Transaction.forgeBatchArgs, hcall]
    rw [hcalldata, List.append_nil]
    constructor <;> rw [List.filterMap_append, Hermez.filterMap_payout (fun _ _ _ => rfl) (fun _ _ _ => rfl),
      ← List.filterMap_append]
    · rwa [filterMap_snoc_none rfl]
    · rwa [filterMap_snoc_none rfl]
    rw [filterMap_snoc_some (f := Event.withdrawnExit) rfl]
    exact hexits.withdraw hunused
  | tokenAdded tokenAddress hcall hroom hne hnew =>
    rw [Transaction.forgeBatchArgs, hcall, List.append_nil]
    refine ⟨?_, by rwa [filterMap_snoc_none rfl], by rwa [filterMap_snoc_none rfl]⟩
    rw [filterMap_snoc_some (f := Event.newToken) rfl]
    exact htokens.add hroom hne hnew

section Runs

variable [Libraries] (verifiers : List VerifierRollup) (timeout : BitVec 8) (txs : List Transaction)

theorem loggedRun_logged :
    Logged (loggedRun verifiers timeout txs).state (loggedRun verifiers timeout txs).events
      (loggedRun verifiers timeout txs).forged := by
  have hrun : ∀ r : LoggedRun, Logged r.state r.events r.forged →
      Logged (txs.foldl LoggedRun.step r).state (txs.foldl LoggedRun.step r).events (txs.foldl LoggedRun.step r).forged := by
    induction txs with
    | nil => exact fun r h => h
    | cons tx rest ih =>
      intro r h
      refine ih (r.step tx) ?_
      rw [LoggedRun.step]
      cases hexec : r.state.exec tx with
      | error _ => exact h
      | ok out => exact h.step (Hermez.exec_step hexec)
  refine hrun _ ⟨⟨rfl, rfl, fun id token => ?_, rfl, List.nodup_singleton _⟩, ⟨rfl, rfl, rfl, ?_⟩, ⟨List.nodup_nil, ?_⟩⟩
  · simp [Hermez.initializeHermez]
  · simp
  · simp [Hermez.initializeHermez]

/-- **The registry of tokens is its log**: `tokenList` holds ether and then the tokens of the `AddToken` events in order,
the events count their ids from 1, no token is registered twice, and `tokenMap` is the inverse of the list. -/
theorem tokenList_logged :
    TokensLogged (loggedRun verifiers timeout txs).state.tokenList (loggedRun verifiers timeout txs).state.tokenMap
      (loggedRun verifiers timeout txs).tokens :=
  (loggedRun_logged verifiers timeout txs).tokens

/-- **Batches and withdrawals are their log**: the `ForgeBatch` events count the batches, the roots of each batch stay
those of its calldata whatever is called later, and an exit is nullified exactly if a `Withdraw` event names it, of which
there is at most one. -/
theorem batches_logged :
    BatchesLogged (loggedRun verifiers timeout txs).state.lastForgedBatch (loggedRun verifiers timeout txs).state.lastIdx
        (loggedRun verifiers timeout txs).state.stateRootMap (loggedRun verifiers timeout txs).state.exitRootsMap
        (loggedRun verifiers timeout txs).batches (loggedRun verifiers timeout txs).forged ∧
      ExitsLogged (loggedRun verifiers timeout txs).state.exitNullifierMap (loggedRun verifiers timeout txs).exits := by
  obtain ⟨-, hbatches, hexits⟩ := loggedRun_logged verifiers timeout txs
  exact ⟨hbatches, hexits⟩

end Runs

end HermezRollup
