import HermezRollup.SelectorSteps

/-! The runs of the transaction selector.  A selection is a sequence of rounds, in passes over the transactions that are
left; a pass ends when all were looked at or when no slot is left, and the selection ends with a pass that selects
nothing.  When a transaction of an atomic group is not selected, the selection starts again without the group, which
fails only once: so a selection comes to its end, after a number of steps that only depends on the pool. -/

namespace HermezRollup

open Fallible

/-- A point of a selection: the transactions that the pass has still to look at, what the pass and all passes before it
have done, and the processor. -/
structure SelectionPoint where
  todo : List PoolL2Tx
  ite : Iteration
  sel : Selection
  tp : TxProcessor

def newIteration (nL1UserTxs : Nat) (sel : Selection) : Iteration where
  nAlreadyProcessedL1Txs := nL1UserTxs + sel.l1CoordinatorTxs.length
  nAlreadyProcessedL2Txs := sel.selectedTxs.length
  positionL1 := nL1UserTxs + sel.l1CoordinatorTxs.length

/-- A pass that stops because no slot is left: only the transaction at hand gets the reason. -/
def Iteration.addRest (ite : Iteration) (l2Tx : PoolL2Tx) (l2Txs : List PoolL2Tx) : Iteration :=
  { ite with nonSelectedL2Txs := ite.nonSelectedL2Txs ++ l2Tx.explain errNoAvailableSlots :: l2Txs }

/-- All transactions, wherever they are. -/
def SelectionPoint.txs (p : SelectionPoint) : List PoolL2Tx :=
  p.todo ++ p.ite.nonSelectedL2Txs ++ p.ite.selectedL2Txs ++ p.ite.unforjableL2Txs ++ p.sel.selectedTxs ++
    p.sel.discardedTxs

namespace TxSelector

section

variable [Libraries] (txsel : TxSelector) (selectionConfig : Config) (l1UserFutureTxs : List L1Tx) (nL1UserTxs : Nat)

/-- The steps of a selection: a round, the end of a pass without a slot, and the begin of the next pass. -/
inductive Step : SelectionPoint → SelectionPoint → Prop
  | round {l2Tx : PoolL2Tx} {todo : List PoolL2Tx} {ite : Iteration} {sel : Selection} {s s' : TxProcessor} {v : Verdict}
      (hslot : canAddL2Tx ite.nAlreadyProcessedL1Txs ite.nAlreadyProcessedL2Txs selectionConfig = true)
      (hjudged : Judged txsel selectionConfig l1UserFutureTxs l2Tx ite s v s')
      (hgroup : v.reason ≠ none → v.l2Tx.atomicGroupID = 0) :
      Step ⟨l2Tx :: todo, ite, sel, s⟩ ⟨todo, v.recorded, sel, s'⟩
  | full {l2Tx : PoolL2Tx} {todo : List PoolL2Tx} {ite : Iteration} {sel : Selection} {s : TxProcessor}
      (hslot : canAddL2Tx ite.nAlreadyProcessedL1Txs ite.nAlreadyProcessedL2Txs selectionConfig = false)
      (hgroup : l2Tx.atomicGroupID = 0) : Step ⟨l2Tx :: todo, ite, sel, s⟩ ⟨[], ite.addRest l2Tx todo, sel, s⟩
  | next {ite : Iteration} {sel : Selection} {s : TxProcessor} (hsome : ite.selectedL2Txs.length ≠ 0) :
      Step ⟨[], ite, sel, s⟩
        ⟨ite.nonSelectedL2Txs, newIteration nL1UserTxs (sel.add ite), sel.add ite, s⟩

/-- The points that a selection reaches. -/
def Reaches : SelectionPoint → SelectionPoint → Prop :=
  Relation.ReflTransGen (Step txsel selectionConfig l1UserFutureTxs nL1UserTxs)

/-- A selection fails at a transaction of an atomic group that is not selected. -/
inductive FailsAt : SelectionPoint → FailedAtomicGroup → TxProcessor → Prop
  | noSlot {l2Tx : PoolL2Tx} {todo : List PoolL2Tx} {ite : Iteration} {sel : Selection} {s : TxProcessor}
      (hslot : canAddL2Tx ite.nAlreadyProcessedL1Txs ite.nAlreadyProcessedL2Txs selectionConfig = false)
      (hgroup : l2Tx.atomicGroupID ≠ 0) :
      FailsAt ⟨l2Tx :: todo, ite, sel, s⟩
        { id := l2Tx.atomicGroupID, failedTxID := l2Tx.txID, reason := errNoAvailableSlots } s
  | judged {l2Tx : PoolL2Tx} {todo : List PoolL2Tx} {ite : Iteration} {sel : Selection} {s s' : TxProcessor} {v : Verdict}
      {reason : TxSelectorError}
      (hslot : canAddL2Tx ite.nAlreadyProcessedL1Txs ite.nAlreadyProcessedL2Txs selectionConfig = true)
      (hjudged : Judged txsel selectionConfig l1UserFutureTxs l2Tx ite s v s') (hreason : v.reason = some reason)
      (hgroup : v.l2Tx.atomicGroupID ≠ 0) :
      FailsAt ⟨l2Tx :: todo, ite, sel, s⟩
        { id := v.l2Tx.atomicGroupID, failedTxID := v.l2Tx.txID, reason } s'

variable {txsel selectionConfig l1UserFutureTxs nL1UserTxs} {start p : SelectionPoint} {l2Txs : List PoolL2Tx}
  {ite ite' : Iteration} {sel sel' : Selection} {s s' : TxProcessor} {stop : Stop}

theorem Reaches.refl (p : SelectionPoint) : Reaches txsel selectionConfig l1UserFutureTxs nL1UserTxs p p :=
  Relation.ReflTransGen.refl

theorem Reaches.step {p' : SelectionPoint} (h : Reaches txsel selectionConfig l1UserFutureTxs nL1UserTxs start p)
    (hstep : Step txsel selectionConfig l1UserFutureTxs nL1UserTxs p p') :
    Reaches txsel selectionConfig l1UserFutureTxs nL1UserTxs start p' :=
  Relation.ReflTransGen.tail h hstep

theorem Reaches.trans {p' : SelectionPoint} (h : Reaches txsel selectionConfig l1UserFutureTxs nL1UserTxs start p)
    (h' : Reaches txsel selectionConfig l1UserFutureTxs nL1UserTxs p p') :
    Reaches txsel selectionConfig l1UserFutureTxs nL1UserTxs start p' :=
  Relation.ReflTransGen.trans h h'

/-! ### The loops follow the rounds -/

theorem processL2Txs_cases (hstart : Reaches txsel selectionConfig l1UserFutureTxs nL1UserTxs start ⟨l2Txs, ite, sel, s⟩) :
    (∃ ite' s', txsel.processL2Txs selectionConfig l1UserFutureTxs l2Txs ite s = .ok ite' s' ∧
        Reaches txsel selectionConfig l1UserFutureTxs nL1UserTxs start ⟨[], ite', sel, s'⟩) ∨
      (∃ e s', txsel.processL2Txs selectionConfig l1UserFutureTxs l2Txs ite s = .error (.err e) s') ∨
      ∃ group s' p, txsel.processL2Txs selectionConfig l1UserFutureTxs l2Txs ite s = .error (.failedGroup group) s' ∧
        Reaches txsel selectionConfig l1UserFutureTxs nL1UserTxs start p ∧
        FailsAt txsel selectionConfig l1UserFutureTxs p group s' := by
  induction l2Txs generalizing ite s with
  | nil => exact Or.inl ⟨ite, s, rfl, hstart⟩
  | cons l2Tx l2Txs ih =>
    rw [processL2Txs]
    split
    next hslot =>
      rcases lookAt_concluded txsel selectionConfig l1UserFutureTxs l2Tx ite s with ⟨e, s₁, hrun⟩ | ⟨v, s₁, hjudged, hrun⟩
      · exact Or.inr (Or.inl ⟨e, s₁, bind_error.mpr (Or.inl hrun)⟩)
      · cases hconclude : v.conclude s₁ with
        | ok ite₁ s₂ =>
          rw [hconclude] at hrun
          rw [bind_of_ok hrun]
          obtain ⟨rfl, rfl, hgroup⟩ := Verdict.conclude_ok hconclude
          exact ih (hstart.step (.round hslot hjudged hgroup))
        | error stop s₂ =>
          rw [hconclude] at hrun
          obtain ⟨rfl, hgroup, reason, hreason, rfl⟩ := Verdict.conclude_error hconclude
          exact Or.inr (Or.inr ⟨_, s₂, _, bind_error.mpr (Or.inl hrun), hstart, .judged hslot hjudged hreason hgroup⟩)
    next hslot =>
      have hslot := Bool.eq_false_of_not_eq_true hslot
      by_cases hgroup : l2Tx.atomicGroupID = 0
      · refine Or.inl ⟨ite.addRest l2Tx l2Txs, s, ?_, hstart.step (.full hslot hgroup)⟩
        rw [giveUp, if_neg (not_not.mpr hgroup)]
        rfl
      · refine Or.inr (Or.inr ⟨_, s, _, ?_, hstart, .noSlot hslot hgroup⟩)
        rw [giveUp, if_pos hgroup]
        rfl

/-! ### No transaction gets lost -/

theorem Reaches.framed (h : Reaches txsel selectionConfig l1UserFutureTxs nL1UserTxs start p) :
    TxProcessor.Framed start.tp.frame p.tp := by
  induction h with
  | refl => rfl
  | tail _ hstep ih =>
    cases hstep with
    | round _ hjudged => exact hjudged.framed ih
    | full => exact ih
    | next => exact ih

theorem Judged.perm {l2Tx : PoolL2Tx} {v : Verdict} (h : Judged txsel selectionConfig l1UserFutureTxs l2Tx ite s v s')
    (hmode : s.SelectorMode) :
    ((v.recorded.nonSelectedL2Txs ++ v.recorded.selectedL2Txs ++ v.recorded.unforjableL2Txs).map PoolL2Tx.asPooled).Perm
      (l2Tx.asPooled ::
        (ite.nonSelectedL2Txs ++ ite.selectedL2Txs ++ ite.unforjableL2Txs).map PoolL2Tx.asPooled) := by
  have hsame := h.asPooled hmode
  obtain ⟨hselected, hnonSelected, hunforjable, -⟩ := h.created.sameTxs
  rw [List.perm_iff_count]
  intro tx
  cases v with
  | unforjable ite' l2Tx' reason =>
    simp only [Verdict.l2Tx] at hsame
    simp only [Verdict.iteration] at hselected hnonSelected hunforjable
    simp only [Verdict.recorded, Iteration.addUnforjable, hselected, hnonSelected, hunforjable, List.map_append,
      List.count_append, List.map_cons, List.map_nil, PoolL2Tx.asPooled_explain, hsame, List.count_cons, List.count_nil]
    omega
  | nonSelected ite' l2Tx' reason =>
    simp only [Verdict.l2Tx] at hsame
    simp only [Verdict.iteration] at hselected hnonSelected hunforjable
    simp only [Verdict.recorded, Iteration.addNonSelected, hselected, hnonSelected, hunforjable, List.map_append,
      List.count_append, List.map_cons, List.map_nil, PoolL2Tx.asPooled_explain, hsame, List.count_cons, List.count_nil]
    omega
  | selected ite' l2Tx' =>
    simp only [Verdict.l2Tx] at hsame
    simp only [Verdict.iteration] at hselected hnonSelected hunforjable
    simp only [Verdict.recorded, Iteration.addSelected, hselected, hnonSelected, hunforjable, List.map_append,
      List.count_append, List.map_cons, List.map_nil, hsame, List.count_cons, List.count_nil]
    omega

/-- **No transaction gets lost or doubled on the way.** -/
theorem Reaches.perm (h : Reaches txsel selectionConfig l1UserFutureTxs nL1UserTxs start p)
    (hmode : start.tp.SelectorMode) :
    (p.txs.map PoolL2Tx.asPooled).Perm (start.txs.map PoolL2Tx.asPooled) := by
  induction h with
  | refl => exact .refl _
  | tail hreach hstep ih =>
    refine .trans ?_ ih
    cases hstep with
    | round _ hjudged =>
      have hverdict := hjudged.perm (hmode.of_framed (Reaches.framed hreach))
      rw [List.perm_iff_count] at hverdict ⊢
      intro tx
      have := hverdict tx
      simp only [SelectionPoint.txs, List.map_append, List.map_cons, List.count_append, List.count_cons,
        List.cons_append] at this ⊢
      omega
    | full =>
      rw [List.perm_iff_count]
      intro tx
      simp only [SelectionPoint.txs, Iteration.addRest, List.map_append, List.map_cons, List.count_append,
        List.count_cons, List.cons_append, PoolL2Tx.asPooled_explain, List.nil_append]
      omega
    | next =>
      rw [List.perm_iff_count]
      intro tx
      simp only [SelectionPoint.txs, newIteration, Selection.add, List.map_append, List.map_nil, List.count_append,
        List.count_nil, List.nil_append]
      omega

theorem Reaches.length_lt
    (h : Reaches txsel selectionConfig l1UserFutureTxs nL1UserTxs ⟨l2Txs, newIteration nL1UserTxs sel, sel, s⟩
      ⟨[], ite, sel, s'⟩)
    (hmode : s.SelectorMode) (hsome : ite.selectedL2Txs.length ≠ 0) : ite.nonSelectedL2Txs.length < l2Txs.length := by
  have hlength := (h.perm hmode).length_eq
  simp only [SelectionPoint.txs, newIteration, List.length_map, List.length_append, List.length_nil] at hlength
  omega

/-- **How the passes end.**  Over `P` transactions there are at most `P + 1` of them; the last one selects nothing, or a
group fails, or there is an error. -/
theorem selectionLoop_cases {fuel : Nat} (hmode : s.SelectorMode) (hfuel : l2Txs.length < fuel)
    (hstart : Reaches txsel selectionConfig l1UserFutureTxs nL1UserTxs start ⟨l2Txs, newIteration nL1UserTxs sel, sel, s⟩) :
    (∃ ite sel' s', txsel.selectionLoop selectionConfig nL1UserTxs l1UserFutureTxs fuel l2Txs sel s =
          .ok { sel'.add ite with discardedTxs := (sel'.add ite).discardedTxs ++ ite.nonSelectedL2Txs } s' ∧
        Reaches txsel selectionConfig l1UserFutureTxs nL1UserTxs start ⟨[], ite, sel', s'⟩ ∧ ite.selectedL2Txs = []) ∨
      (∃ e s', txsel.selectionLoop selectionConfig nL1UserTxs l1UserFutureTxs fuel l2Txs sel s = .error (.err e) s') ∨
      ∃ group s' p,
        txsel.selectionLoop selectionConfig nL1UserTxs l1UserFutureTxs fuel l2Txs sel s =
          .error (.failedGroup group) s' ∧
        Reaches txsel selectionConfig l1UserFutureTxs nL1UserTxs start p ∧
        FailsAt txsel selectionConfig l1UserFutureTxs p group s' := by
  induction fuel generalizing l2Txs sel s with
  | zero => exact absurd hfuel (Nat.not_lt_zero _)
  | succ fuel ih =>
    have hpass : Reaches txsel selectionConfig l1UserFutureTxs nL1UserTxs
        ⟨l2Txs, newIteration nL1UserTxs sel, sel, s⟩ ⟨l2Txs, newIteration nL1UserTxs sel, sel, s⟩ := .refl _
    rcases processL2Txs_cases hpass with ⟨ite, s₁, hrun, hreach⟩ | ⟨e, s₁, hrun⟩ | ⟨group, s₁, p, hrun, hreach, hfails⟩
    · by_cases hnone : ite.selectedL2Txs.length = 0
      · refine Or.inl ⟨ite, sel, s₁, ?_, hstart.trans hreach, List.length_eq_zero_iff.mp hnone⟩
        refine (bind_of_ok hrun).trans ?_
        rw [if_pos hnone]
        rfl
      · have hmode₁ : s₁.SelectorMode := hmode.of_framed hreach.framed
        have hshorter := hreach.length_lt hmode hnone
        have hloop : txsel.selectionLoop selectionConfig nL1UserTxs l1UserFutureTxs (fuel + 1) l2Txs sel s =
            txsel.selectionLoop selectionConfig nL1UserTxs l1UserFutureTxs fuel ite.nonSelectedL2Txs (sel.add ite) s₁ := by
          refine (bind_of_ok hrun).trans ?_
          rw [if_neg hnone]
        rw [hloop]
        exact ih hmode₁ (by omega) ((hstart.trans hreach).step (.next hnone))
    · exact Or.inr (Or.inl ⟨e, s₁, bind_error.mpr (Or.inl hrun)⟩)
    · exact Or.inr (Or.inr ⟨group, s₁, p, bind_error.mpr (Or.inl hrun), hstart.trans hreach, hfails⟩)

theorem Judged.mem_nonSelected {l2Tx tx : PoolL2Tx} {v : Verdict}
    (h : Judged txsel selectionConfig l1UserFutureTxs l2Tx ite s v s') (hmode : s.SelectorMode)
    (htx : tx ∈ v.recorded.nonSelectedL2Txs) : tx ∈ ite.nonSelectedL2Txs ∨ tx.asPooled = l2Tx.asPooled := by
  have hsame := h.asPooled hmode
  have hkept := h.created.sameTxs.2.1
  cases v with
  | unforjable ite' l2Tx' reason => exact Or.inl (hkept ▸ htx)
  | nonSelected ite' l2Tx' reason =>
    rcases List.mem_append.mp htx with htx | htx
    · exact Or.inl (hkept ▸ htx)
    · rw [List.mem_singleton] at htx
      rw [htx]
      exact Or.inr hsame
  | selected ite' l2Tx' => exact Or.inl (hkept ▸ htx)

theorem Reaches.left (h : Reaches txsel selectionConfig l1UserFutureTxs nL1UserTxs start p) (hmode : start.tp.SelectorMode) :
    ∀ tx ∈ p.todo ++ p.ite.nonSelectedL2Txs, ∃ tx₀ ∈ start.todo ++ start.ite.nonSelectedL2Txs,
      tx.asPooled = tx₀.asPooled := by
  induction h with
  | refl => exact fun tx htx => ⟨tx, htx, rfl⟩
  | tail hreach hstep ih =>
    intro tx htx
    cases hstep with
    | round _ hjudged =>
      rcases List.mem_append.mp htx with htodo | hnon
      · exact ih tx (List.mem_append_left _ (List.mem_cons_of_mem _ htodo))
      · rcases hjudged.mem_nonSelected (hmode.of_framed (Reaches.framed hreach)) hnon with hold | hsame
        · exact ih tx (List.mem_append_right _ hold)
        · obtain ⟨tx₀, htx₀, heq⟩ := ih _ List.mem_cons_self
          exact ⟨tx₀, htx₀, hsame.trans heq⟩
    | full =>
      simp only [Iteration.addRest, List.nil_append, List.mem_append, List.mem_cons] at htx
      rcases htx with hold | rfl | htodo
      · exact ih tx (List.mem_append_right _ hold)
      · obtain ⟨tx₀, htx₀, heq⟩ := ih _ List.mem_cons_self
        exact ⟨tx₀, htx₀, heq⟩
      · exact ih tx (List.mem_append_left _ (List.mem_cons_of_mem _ htodo))
    | next =>
      rw [newIteration, List.append_nil] at htx
      exact ih tx htx

theorem Reaches.failedGroup {group : FailedAtomicGroup}
    (h : Reaches txsel selectionConfig l1UserFutureTxs nL1UserTxs start p)
    (hfails : FailsAt txsel selectionConfig l1UserFutureTxs p group s') (hmode : start.tp.SelectorMode) :
    group.id ≠ 0 ∧ ∃ tx ∈ start.todo ++ start.ite.nonSelectedL2Txs, tx.atomicGroupID = group.id := by
  have hleft := h.left hmode
  have hmode' : p.tp.SelectorMode := hmode.of_framed h.framed
  cases hfails with
  | noSlot _ hgroup =>
    obtain ⟨tx₀, htx₀, heq⟩ := hleft _ List.mem_cons_self
    exact ⟨hgroup, tx₀, htx₀, (PoolL2Tx.atomicGroupID_of_asPooled heq).symm⟩
  | judged _ hjudged _ hgroup =>
    obtain ⟨tx₀, htx₀, heq⟩ := hleft _ List.mem_cons_self
    exact ⟨hgroup, tx₀, htx₀, (PoolL2Tx.atomicGroupID_of_asPooled ((hjudged.asPooled hmode').trans heq)).symm⟩

theorem FailsAt.framed {group : FailedAtomicGroup} (h : FailsAt txsel selectionConfig l1UserFutureTxs p group s')
    {f : TxProcessor.Frame} (hp : TxProcessor.Framed f p.tp) : TxProcessor.Framed f s' := by
  cases h with
  | noSlot => exact hp
  | judged _ hjudged => exact hjudged.framed hp

end

end TxSelector

/-! ### The transactions that can be selected -/

section Selectable

variable {rt : Runtime} {txs : List PoolL2Tx} {ids : List AtomicGroupID}

theorem mem_groupIDs {id : AtomicGroupID} : id ∈ groupIDs txs ↔ id ≠ 0 ∧ ∃ tx ∈ txs, tx.atomicGroupID = id := by
  simp only [groupIDs, List.mem_dedup, List.mem_map, List.mem_filter, decide_eq_true_eq]
  constructor
  · rintro ⟨tx, ⟨htx, hne⟩, rfl⟩
    exact ⟨hne, tx, htx, rfl⟩
  · rintro ⟨hne, tx, htx, rfl⟩
    exact ⟨tx, ⟨htx, hne⟩, rfl⟩

theorem count_filter_eq (keep : PoolL2Tx → Bool) (tx : PoolL2Tx) (txs : List PoolL2Tx) :
    List.count tx (txs.filter keep) = if keep tx then List.count tx txs else 0 := by
  split
  next h => exact List.count_filter h
  next h => exact List.count_eq_zero.mpr fun hmem => h (List.mem_filter.mp hmem).2

theorem length_groupIDs_le (txs : List PoolL2Tx) : (groupIDs txs).length ≤ txs.length := by
  have hdedup := (List.dedup_sublist ((txs.filter (·.atomicGroupID ≠ 0)).map (·.atomicGroupID))).length_le
  rw [List.length_map] at hdedup
  exact hdedup.trans (List.length_filter_le _ _)

theorem flatMap_groupTxs_perm (txs : List PoolL2Tx) (hnodup : ids.Nodup) :
    (ids.flatMap (groupTxs txs)).Perm (txs.filter (·.atomicGroupID ∈ ids)) := by
  induction ids with
  | nil => simp
  | cons id ids ih =>
    obtain ⟨hfresh, hnodup⟩ := List.nodup_cons.mp hnodup
    rw [List.flatMap_cons, List.perm_iff_count]
    intro tx
    rw [List.count_append, List.perm_iff_count.mp (ih hnodup) tx, groupTxs, count_filter_eq, count_filter_eq,
      count_filter_eq]
    by_cases hid : tx.atomicGroupID = id
    · simp [hid, hfresh]
    · simp [hid]

theorem groups_perm (hids : ids.Perm (groupIDs txs)) :
    (txs.filter (·.atomicGroupID = 0) ++ ids.flatMap (groupTxs txs)).Perm txs := by
  have hnodup : ids.Nodup := hids.nodup_iff.mpr (List.nodup_dedup _)
  refine ((flatMap_groupTxs_perm txs hnodup).append_left _).trans ?_
  have hatomic : txs.filter (fun tx => decide (tx.atomicGroupID ∈ ids)) =
      txs.filter (fun tx => !decide (tx.atomicGroupID = 0)) := by
    refine List.filter_congr fun tx htx => ?_
    rw [Bool.eq_iff_iff]
    simp only [decide_eq_true_eq, Bool.not_eq_true', decide_eq_false_iff_not, hids.mem_iff, mem_groupIDs]
    exact ⟨fun h => h.1, fun h => ⟨h, tx, htx, rfl⟩⟩
  rw [hatomic]
  exact List.filter_append_perm _ _

theorem mergeByFee_perm (fee : AtomicGroupID → Rat) (group : AtomicGroupID → List PoolL2Tx)
    (nonAtomicTxs : List PoolL2Tx) (ids : List AtomicGroupID) :
    (mergeByFee fee group nonAtomicTxs ids).Perm (nonAtomicTxs ++ ids.flatMap group) := by
  induction ids generalizing nonAtomicTxs with
  | nil => simp [mergeByFee]
  | cons id ids ih =>
    rw [mergeByFee, List.flatMap_cons]
    have hsplit := List.takeWhile_append_dropWhile (p := fun tx : PoolL2Tx => decide (fee id < tx.absoluteFee))
      (l := nonAtomicTxs)
    have hrest := List.perm_iff_count.mp (ih (nonAtomicTxs.dropWhile fun tx => fee id < tx.absoluteFee))
    rw [List.perm_iff_count]
    intro tx
    have hcount := congrArg (List.count tx) hsplit
    have := hrest tx
    simp only [List.count_append] at hcount this ⊢
    omega

theorem sortL2Txs_perm (rt : Runtime) {order : List AtomicGroupID → List AtomicGroupID}
    (horder : ∀ ids, (order ids).Perm ids) (txs : List PoolL2Tx) (fee : AtomicGroupID → Rat) :
    (sortL2Txs rt order txs fee).Perm txs := by
  refine (mergeByFee_perm _ _ _ _).trans ?_
  refine ((rt.sortSlice_perm _).append_right _).trans ?_
  exact groups_perm ((List.perm_insertionSort _ _).trans (horder _))

theorem mem_filterInvalidAtomicGroups {order : List AtomicGroupID → List AtomicGroupID} {tx : PoolL2Tx}
    (h : tx ∈ (filterInvalidAtomicGroups order txs).1) : tx ∈ txs := by
  rcases List.mem_append.mp h with h | h
  · exact (List.mem_filter.mp h).1
  · obtain ⟨id, -, h⟩ := List.mem_flatMap.mp h
    exact (List.mem_filter.mp h).1

namespace TxSelector

variable (rt) (txsel : TxSelector) (n : Nat) (failedGroups : List FailedAtomicGroup)

theorem mem_selectable {tx : PoolL2Tx} (h : tx ∈ (txsel.selectable rt n failedGroups).1) :
    tx ∈ txsel.l2db.getPendingTxs ∧ failureOf failedGroups tx = none := by
  have hsorted := (sortL2Txs_perm rt (rt.groupOrder_perm _) _ _).mem_iff.mp h
  obtain ⟨hpending, hfailure⟩ := List.mem_filter.mp (mem_filterInvalidAtomicGroups hsorted)
  exact ⟨hpending, Option.isNone_iff_eq_none.mp hfailure⟩

end TxSelector

end Selectable

/-! ### One attempt -/

namespace TxSelector

variable [Libraries] (rt : Runtime) (txsel : TxSelector) (selectionConfig : Config) (l1UserTxs l1UserFutureTxs : List L1Tx)
  (n : Nat) (failedGroups : List FailedAtomicGroup)

def selectionStart (nL1UserTxs : Nat) (s : TxProcessor) : SelectionPoint where
  todo := (txsel.selectable rt n failedGroups).1
  ite := newIteration nL1UserTxs { discardedTxs := (txsel.selectable rt n failedGroups).2 }
  sel := { discardedTxs := (txsel.selectable rt n failedGroups).2 }
  tp := s

/-- How an attempt ends. -/
inductive Attempted (s : TxProcessor) : EStateM.Result Stop TxProcessor SelectionOut → Prop
  | error (e : Err) (s' : TxProcessor) : Attempted s (.error (.err e) s')
  | nothing {l1UserTxs' : List L1Tx} {s₁ : TxProcessor} (hl1 : processL1UserTxs l1UserTxs s = .ok l1UserTxs' s₁)
      (hnone : (txsel.selectable rt n failedGroups).1 = []) :
      Attempted s (.ok { l1UserTxs := l1UserTxs', discardedL2Txs := (txsel.selectable rt n failedGroups).2 }
        { s₁ with state := s₁.state.makeCheckpoint })
  | failed {l1UserTxs' : List L1Tx} {s₁ s' : TxProcessor} {p : SelectionPoint} {group : FailedAtomicGroup}
      (hl1 : processL1UserTxs l1UserTxs s = .ok l1UserTxs' s₁)
      (hreach : Reaches txsel selectionConfig l1UserFutureTxs l1UserTxs'.length
        (txsel.selectionStart rt n failedGroups l1UserTxs'.length s₁) p)
      (hfails : FailsAt txsel selectionConfig l1UserFutureTxs p group s') : Attempted s (.error (.failedGroup group) s')
  | selected {l1UserTxs' : List L1Tx} {s₁ s₂ s₃ : TxProcessor} {ite : Iteration} {sel : Selection} {coordIdxs : List Nat}
      (hl1 : processL1UserTxs l1UserTxs s = .ok l1UserTxs' s₁)
      (hreach : Reaches txsel selectionConfig l1UserFutureTxs l1UserTxs'.length
        (txsel.selectionStart rt n failedGroups l1UserTxs'.length s₁) ⟨[], ite, sel, s₂⟩)
      (hlast : ite.selectedL2Txs = [])
      (hcoordIdxs : txsel.coordIdxs s₂.state.toStore (sel.add ite).selectedTxs = .ok coordIdxs)
      (hfees : distributeAccumulatedFees (rt.idxOrder s₂.accumulatedFees.ascendingKeys) s₂ = .ok () s₃) :
      Attempted s
        (.ok { coordIdxs, accCreationAuths := (sel.add ite).accAuths, l1UserTxs := l1UserTxs'
               l1CoordinatorTxs := (sel.add ite).l1CoordinatorTxs, l2Txs := (sel.add ite).selectedTxs
               discardedL2Txs := (sel.add ite).discardedTxs ++ ite.nonSelectedL2Txs }
          { s₃ with state := s₃.state.makeCheckpoint })

theorem framed_processL1UserTxs {f : TxProcessor.Frame} : Keeps (TxProcessor.Framed f) (processL1UserTxs l1UserTxs) := by
  induction l1UserTxs with
  | nil => exact .pure _
  | cons tx txs ih => exact .bind (TxProcessor.framed_processL1Tx tx) fun _ => .bind ih fun _ => .pure _

variable {rt txsel selectionConfig l1UserTxs l1UserFutureTxs n failedGroups}

theorem attempted_bind {α : Type} {x : SelectM α} {f : α → SelectM SelectionOut} {s s₁ : TxProcessor} (hx : OnlyErr x)
    (h : ∀ a s₂, x s₁ = .ok a s₂ →
      Attempted rt txsel selectionConfig l1UserTxs l1UserFutureTxs n failedGroups s (f a s₂)) :
    Attempted rt txsel selectionConfig l1UserTxs l1UserFutureTxs n failedGroups s ((x >>= f) s₁) := by
  cases hrun : x s₁ with
  | error stop s₂ =>
    obtain ⟨e, rfl⟩ := hx _ _ _ hrun
    rw [bind_error.mpr (Or.inl hrun)]
    exact .error e s₂
  | ok a s₂ =>
    rw [bind_of_ok hrun]
    exact h a s₂ hrun

variable (rt txsel selectionConfig l1UserTxs l1UserFutureTxs n failedGroups)

theorem attemptSelection_attempted {s : TxProcessor} (hmode : s.SelectorMode) :
    Attempted rt txsel selectionConfig l1UserTxs l1UserFutureTxs n failedGroups s
      (txsel.attemptSelection rt selectionConfig l1UserTxs l1UserFutureTxs n failedGroups s) := by
  refine attempted_bind (.withErr _) fun l1UserTxs' s₁ hl1 => ?_
  have hl1 := withError_ok.mp hl1
  have hmode₁ : s₁.SelectorMode := hmode.of_framed ((framed_processL1UserTxs l1UserTxs).ok rfl hl1)
  by_cases hnone : (txsel.selectable rt n failedGroups).1.length = 0
  · dsimp only
    rw [if_pos hnone]
    exact .nothing hl1 (List.length_eq_zero_iff.mp hnone)
  · dsimp only
    rw [if_neg hnone]
    have hstart : Reaches txsel selectionConfig l1UserFutureTxs l1UserTxs'.length
        (txsel.selectionStart rt n failedGroups l1UserTxs'.length s₁)
        (txsel.selectionStart rt n failedGroups l1UserTxs'.length s₁) := .refl _
    rcases selectionLoop_cases hmode₁ (Nat.lt_succ_self (txsel.selectable rt n failedGroups).1.length) hstart with
      ⟨ite, sel, s₂, hrun, hreach, hlast⟩ | ⟨e, s₂, hrun⟩ | ⟨group, s₂, p, hrun, hreach, hfails⟩
    · rw [bind_of_ok hrun]
      refine attempted_bind (.withErr _) fun coordIdxs s₃ hread => ?_
      obtain ⟨hcoordIdxs, rfl⟩ := fromState_ok.mp (withError_ok.mp hread)
      rw [bind_of_ok (get_run s₃)]
      refine attempted_bind (.withErr _) fun _ s₄ hfees => ?_
      exact .selected hl1 hreach hlast hcoordIdxs (withError_ok.mp hfees)
    · rw [bind_error.mpr (Or.inl hrun)]
      exact .error e s₂
    · rw [bind_error.mpr (Or.inl hrun)]
      exact .failed hl1 hreach hfails

/-! ### The restarts -/

/-- The calls of `processL2Txs` between two restarts: the `k`-th one, with its arguments. -/
inductive Called (nL1UserTxs : Nat) (selectableTxs : List PoolL2Tx) (sel₀ : Selection) (s₀ : TxProcessor) :
    Nat → List PoolL2Tx → Selection → TxProcessor → Prop
  | first : Called nL1UserTxs selectableTxs sel₀ s₀ 1 selectableTxs sel₀ s₀
  | again {k : Nat} {l2Txs : List PoolL2Tx} {sel : Selection} {s s' : TxProcessor} {ite : Iteration}
      (h : Called nL1UserTxs selectableTxs sel₀ s₀ k l2Txs sel s)
      (hpass : txsel.processL2Txs selectionConfig l1UserFutureTxs l2Txs (newIteration nL1UserTxs sel) s = .ok ite s')
      (hsome : ite.selectedL2Txs.length ≠ 0) :
      Called nL1UserTxs selectableTxs sel₀ s₀ (k + 1) ite.nonSelectedL2Txs (sel.add ite) s'

/-- The starts of a selection: the groups that have failed so far, and the local state. -/
inductive Starts (state : StateDB) : List FailedAtomicGroup → StateDB → Prop
  | first : Starts state [] state
  | again {failedGroups : List FailedAtomicGroup} {state₁ state₂ : StateDB} {group : FailedAtomicGroup} {s : TxProcessor}
      (h : Starts state failedGroups state₁)
      (hfailed : txsel.attemptSelection rt selectionConfig l1UserTxs l1UserFutureTxs failedGroups.length failedGroups
        (newTxProcessor state₁ selectionConfig) = .error (.failedGroup group) s)
      (hreset : s.state.reset s.state.currentBatch = .ok state₂) : Starts state (failedGroups ++ [group]) state₂

end TxSelector

/-- A database with the contents of its last checkpoint; batch 0 is the empty database. -/
structure StateDB.AtLastCheckpoint (state : StateDB) : Prop where
  last : ∀ batch, state.currentBatch < batch → state.checkpoints batch = none
  contents : if state.currentBatch = 0 then state.toStore = {} else
    state.checkpoints state.currentBatch = some state.toStore

theorem StateDB.AtLastCheckpoint.reset {state : StateDB} (h : state.AtLastCheckpoint) {s : TxProcessor}
    {selectionConfig : Config} (hs : TxProcessor.Framed (newTxProcessor state selectionConfig).frame s) :
    s.state.reset s.state.currentBatch = .ok state := by
  have htyp : s.state.typ = state.typ := congrArg TxProcessor.Frame.typ hs
  have hcheckpoints : s.state.checkpoints = state.checkpoints := congrArg TxProcessor.Frame.checkpoints hs
  have hbatch : s.state.currentBatch = state.currentBatch := congrArg TxProcessor.Frame.currentBatch hs
  have hkept : (fun batch => if batch ≤ state.currentBatch then state.checkpoints batch else none) =
      state.checkpoints := by
    funext batch
    split
    · rfl
    · next hlater => exact (h.last batch (Nat.lt_of_not_le hlater)).symm
  have hcontents := h.contents
  rw [StateDB.reset, hbatch, hcheckpoints]
  dsimp only
  rw [hkept]
  split at hcontents
  next hzero =>
    rw [if_pos hzero]
    obtain ⟨store, typ, checkpoints⟩ := state
    cases hcontents
    cases htyp
    rfl
  next hzero =>
    rw [if_neg hzero, hcontents]
    obtain ⟨store, typ, checkpoints⟩ := state
    cases htyp
    rfl

namespace TxSelector

variable [Libraries] {rt : Runtime} {txsel : TxSelector} {selectionConfig : Config}
  {l1UserTxs l1UserFutureTxs : List L1Tx} {state state₁ : StateDB} {failedGroups : List FailedAtomicGroup}

theorem Called.bound {nL1UserTxs k : Nat} {selectableTxs l2Txs : List PoolL2Tx} {sel₀ sel : Selection}
    {s₀ s : TxProcessor}
    (h : Called txsel selectionConfig l1UserFutureTxs nL1UserTxs selectableTxs sel₀ s₀ k l2Txs sel s)
    (hmode : s₀.SelectorMode) : s.SelectorMode ∧ k + l2Txs.length ≤ selectableTxs.length + 1 := by
  induction h with
  | first => exact ⟨hmode, by omega⟩
  | @again k l2Txs sel s s' ite _ hpass hsome ih =>
    obtain ⟨hmode', hbound⟩ := ih
    have hstart : Reaches txsel selectionConfig l1UserFutureTxs nL1UserTxs
        ⟨l2Txs, newIteration nL1UserTxs sel, sel, s⟩ ⟨l2Txs, newIteration nL1UserTxs sel, sel, s⟩ := .refl _
    rcases processL2Txs_cases hstart with ⟨ite', s₁, hrun, hreach⟩ | ⟨e, s₁, hrun⟩ | ⟨group, s₁, p, hrun, -, -⟩
    · cases hpass.symm.trans hrun
      have hshorter := hreach.length_lt hmode' hsome
      exact ⟨hmode'.of_framed hreach.framed, by omega⟩
    · cases hpass.symm.trans hrun
    · cases hpass.symm.trans hrun

omit [Libraries] in
theorem newTxProcessor_mode (htyp : state.typ = .txSelector) : (newTxProcessor state selectionConfig).SelectorMode :=
  ⟨htyp, rfl, rfl⟩

theorem attempted_of_eq (htyp : state.typ = .txSelector) {n : Nat}
    {result : EStateM.Result Stop TxProcessor SelectionOut}
    (h : txsel.attemptSelection rt selectionConfig l1UserTxs l1UserFutureTxs n failedGroups
      (newTxProcessor state selectionConfig) = result) :
    Attempted rt txsel selectionConfig l1UserTxs l1UserFutureTxs n failedGroups (newTxProcessor state selectionConfig)
      result := by
  rw [← h]
  exact attemptSelection_attempted rt txsel selectionConfig l1UserTxs l1UserFutureTxs n failedGroups
    (newTxProcessor_mode htyp)

theorem attemptSelection_failed (htyp : state.typ = .txSelector) {n : Nat} {group : FailedAtomicGroup} {s : TxProcessor}
    (h : txsel.attemptSelection rt selectionConfig l1UserTxs l1UserFutureTxs n failedGroups
      (newTxProcessor state selectionConfig) = .error (.failedGroup group) s) :
    TxProcessor.Framed (newTxProcessor state selectionConfig).frame s ∧
      group.id ∈ groupIDs txsel.l2db.getPendingTxs ∧ group.id ∉ failedGroups.map (·.id) := by
  have hmode : (newTxProcessor state selectionConfig).SelectorMode := newTxProcessor_mode htyp
  cases attempted_of_eq htyp h with
  | failed hl1 hreach hfails =>
    have hs₁ := (framed_processL1UserTxs l1UserTxs).ok rfl hl1
    have hmode₁ := hmode.of_framed hs₁
    obtain ⟨hid, tx, htx, hgroup⟩ := hreach.failedGroup hfails hmode₁
    rw [selectionStart, newIteration, List.append_nil] at htx
    obtain ⟨hpending, hfailure⟩ := mem_selectable rt txsel n failedGroups htx
    refine ⟨hfails.framed (hreach.framed.trans hs₁), mem_groupIDs.mpr ⟨hid, tx, hpending, hgroup⟩, ?_⟩
    rw [failureOf, hgroup, if_neg hid, List.find?_eq_none] at hfailure
    rw [List.mem_map]
    rintro ⟨failed, hfailed, heq⟩
    exact hfailure failed hfailed (decide_eq_true heq)

/-- **Each start is from the same state, and after another group has failed.** -/
theorem Starts.fresh (htyp : state.typ = .txSelector) (hstate : state.AtLastCheckpoint)
    (h : Starts rt txsel selectionConfig l1UserTxs l1UserFutureTxs state failedGroups state₁) :
    state₁ = state ∧ (failedGroups.map (·.id)).Nodup ∧
      ∀ id ∈ failedGroups.map (·.id), id ∈ groupIDs txsel.l2db.getPendingTxs := by
  induction h with
  | first => exact ⟨rfl, List.nodup_nil, by simp⟩
  | @again failedGroups state₁ state₂ group s _ hfailed hreset ih =>
    obtain ⟨rfl, hnodup, hpending⟩ := ih
    obtain ⟨hframed, hid, hfresh⟩ := attemptSelection_failed htyp hfailed
    rw [hstate.reset hframed] at hreset
    cases hreset
    rw [List.map_append, List.map_singleton]
    refine ⟨rfl, ?_, ?_⟩
    · rw [List.nodup_append]
      refine ⟨hnodup, List.nodup_singleton _, ?_⟩
      rintro id hold id' hnew rfl
      exact hfresh (List.mem_singleton.mp hnew ▸ hold)
    · intro id hmem
      rcases List.mem_append.mp hmem with hold | hnew
      · exact hpending id hold
      · exact List.mem_singleton.mp hnew ▸ hid

theorem Starts.length_le (htyp : state.typ = .txSelector) (hstate : state.AtLastCheckpoint)
    (h : Starts rt txsel selectionConfig l1UserTxs l1UserFutureTxs state failedGroups state₁) :
    failedGroups.length ≤ (groupIDs txsel.l2db.getPendingTxs).length := by
  obtain ⟨-, hnodup, hpending⟩ := h.fresh htyp hstate
  have := (hnodup.subperm fun id hid => hpending id hid).length_le
  rwa [List.length_map] at this

/-- **A selection comes to its end** at one of its starts: it succeeds there, or there is an error. -/
theorem selectionFrom_cases (htyp : state.typ = .txSelector) (hstate : state.AtLastCheckpoint) {fuel : Nat}
    (h : Starts rt txsel selectionConfig l1UserTxs l1UserFutureTxs state failedGroups state₁)
    (hfuel : (groupIDs txsel.l2db.getPendingTxs).length < failedGroups.length + fuel) :
    ∃ failedGroups' s, Starts rt txsel selectionConfig l1UserTxs l1UserFutureTxs state failedGroups' state ∧
      ((∃ out, txsel.attemptSelection rt selectionConfig l1UserTxs l1UserFutureTxs failedGroups'.length failedGroups'
            (newTxProcessor state selectionConfig) = .ok out s ∧
          txsel.selectionFrom rt selectionConfig l1UserTxs l1UserFutureTxs fuel failedGroups state₁ = .ok out s.state) ∨
        ∃ e, txsel.attemptSelection rt selectionConfig l1UserTxs l1UserFutureTxs failedGroups'.length failedGroups'
            (newTxProcessor state selectionConfig) = .error (.err e) s ∧
          txsel.selectionFrom rt selectionConfig l1UserTxs l1UserFutureTxs fuel failedGroups state₁ =
            .error (.err e) s.state) := by
  induction fuel generalizing failedGroups state₁ with
  | zero =>
    have := h.length_le htyp hstate
    omega
  | succ fuel ih =>
    obtain ⟨rfl, -⟩ := h.fresh htyp hstate
    cases hrun : txsel.attemptSelection rt selectionConfig l1UserTxs l1UserFutureTxs failedGroups.length failedGroups
        (newTxProcessor state₁ selectionConfig) with
    | ok out s => exact ⟨failedGroups, s, h, Or.inl ⟨out, hrun, by simp only [selectionFrom, hrun]⟩⟩
    | error stop s =>
      cases attempted_of_eq htyp hrun with
      | error e => exact ⟨failedGroups, s, h, Or.inr ⟨e, hrun, by simp only [selectionFrom, hrun]⟩⟩
      | @failed _ _ _ _ group =>
        obtain ⟨hframed, -⟩ := attemptSelection_failed htyp hrun
        have hreset := hstate.reset hframed
        have hagain : txsel.selectionFrom rt selectionConfig l1UserTxs l1UserFutureTxs (fuel + 1) failedGroups state₁ =
            txsel.selectionFrom rt selectionConfig l1UserTxs l1UserFutureTxs fuel (failedGroups ++ [group]) state₁ := by
          simp only [selectionFrom, hrun, hreset]
        rw [hagain]
        refine ih (.again h hrun hreset) ?_
        rw [List.length_append, List.length_singleton]
        omega

theorem getL1L2TxSelection_cases (rt : Runtime) (txsel : TxSelector) (selectionConfig : Config)
    (l1UserTxs l1UserFutureTxs : List L1Tx) (htyp : state.typ = .txSelector) (hstate : state.AtLastCheckpoint) :
    ∃ failedGroups s, Starts rt txsel selectionConfig l1UserTxs l1UserFutureTxs state failedGroups state ∧
      ((∃ out, txsel.attemptSelection rt selectionConfig l1UserTxs l1UserFutureTxs failedGroups.length failedGroups
            (newTxProcessor state selectionConfig) = .ok out s ∧
          txsel.getL1L2TxSelection rt selectionConfig l1UserTxs l1UserFutureTxs state = .ok out s.state) ∨
        ∃ e, txsel.attemptSelection rt selectionConfig l1UserTxs l1UserFutureTxs failedGroups.length failedGroups
            (newTxProcessor state selectionConfig) = .error (.err e) s ∧
          txsel.getL1L2TxSelection rt selectionConfig l1UserTxs l1UserFutureTxs state = .error (.err e) s.state) := by
  refine selectionFrom_cases htyp hstate .first ?_
  have := length_groupIDs_le txsel.l2db.getPendingTxs
  rw [List.length_nil]
  omega

/-- **The selection terminates within a bound.**  From a state equal to its last checkpoint it starts again at most once
for each group of the pool, each time from the same state and after a group that had not failed before; between two
starts there is at most one call of `processL2Txs` more than there are transactions that can be selected. -/
theorem getL1L2TxSelection_bounded (rt : Runtime) (txsel : TxSelector) (selectionConfig : Config)
    (l1UserTxs l1UserFutureTxs : List L1Tx) (state : StateDB) (htyp : state.typ = .txSelector)
    (hstate : state.AtLastCheckpoint) :
    (∀ failedGroups state₁, Starts rt txsel selectionConfig l1UserTxs l1UserFutureTxs state failedGroups state₁ →
      failedGroups.length ≤ (groupIDs txsel.l2db.getPendingTxs).length ∧ (failedGroups.map (·.id)).Nodup ∧
      (∀ group ∈ failedGroups, group.id ∈ groupIDs txsel.l2db.getPendingTxs) ∧ state₁ = state ∧
      ∀ l1UserTxs' s, processL1UserTxs l1UserTxs (newTxProcessor state₁ selectionConfig) = .ok l1UserTxs' s →
        ∀ k l2Txs sel s', Called txsel selectionConfig l1UserFutureTxs l1UserTxs'.length
            (txsel.selectable rt failedGroups.length failedGroups).1
            { discardedTxs := (txsel.selectable rt failedGroups.length failedGroups).2 } s k l2Txs sel s' →
          k ≤ (txsel.selectable rt failedGroups.length failedGroups).1.length + 1) ∧
      ∀ state', txsel.getL1L2TxSelection rt selectionConfig l1UserTxs l1UserFutureTxs state ≠ .error .diverges state' := by
  refine ⟨fun failedGroups state₁ h => ?_, fun state' hrun => ?_⟩
  · obtain ⟨rfl, hnodup, hpending⟩ := h.fresh htyp hstate
    refine ⟨h.length_le htyp hstate, hnodup, fun group hgroup => hpending _ (List.mem_map_of_mem hgroup), rfl, ?_⟩
    intro l1UserTxs' s hl1 k l2Txs sel s' hcalled
    have hmode : (newTxProcessor state₁ selectionConfig).SelectorMode := newTxProcessor_mode htyp
    obtain ⟨-, hbound⟩ := hcalled.bound (hmode.of_framed ((framed_processL1UserTxs l1UserTxs).ok rfl hl1))
    omega
  · obtain ⟨_, _, -, ⟨_, -, hok⟩ | ⟨_, -, herror⟩⟩ := getL1L2TxSelection_cases rt txsel selectionConfig
      l1UserTxs l1UserFutureTxs htyp hstate
    · cases hrun.symm.trans hok
    · cases hrun.symm.trans herror

end TxSelector

/-! ### A selection with a restart -/

theorem PoolL2Tx.before_trans {tx other third : PoolL2Tx} (h : ¬other.before tx) (h' : ¬third.before other) :
    ¬third.before tx := by
  unfold before at *
  grind

theorem PoolL2Tx.before_total (tx other : PoolL2Tx) : ¬other.before tx ∨ ¬tx.before other := by
  unfold before
  grind

/-- Maps in the order of their keys, a stable sort, and exact numbers. -/
def plainRuntime : Runtime where
  groupOrder _ ids := ids
  groupOrder_perm _ ids := .refl ids
  idxOrder idxs := idxs
  idxOrder_perm idxs := .refl idxs
  sortSlice txs := txs.insertionSort fun tx other => ¬other.before tx
  sortSlice_perm txs := List.perm_insertionSort _ txs
  sortSlice_sorted txs := by
    have : Std.Total fun tx other : PoolL2Tx => ¬other.before tx := ⟨PoolL2Tx.before_total⟩
    have : IsTrans PoolL2Tx fun tx other => ¬other.before tx := ⟨fun _ _ _ => PoolL2Tx.before_trans⟩
    exact List.pairwise_insertionSort _ txs
  round x := x

def plainCoordAccount : CoordAccount where
  addr := 7
  bjj := 1
  accountCreationAuth := []
  addr_ne := by decide
  bjj_ne := by decide

def selectorOf (txs : List PoolL2Tx) (h : ∀ tx ∈ txs, tx.auxToIdx = 0 := by decide) : TxSelector where
  l2db := { pending := txs.attach.map fun tx => { tx := tx.1, auxToIdx_eq := h tx.1 tx.2 } }
  coordAccount := plainCoordAccount

/-- Two exits of nothing that ask for each other. -/
def linkedEmptyExits : List PoolL2Tx :=
  [{ txID := [1], fromIdx := 256, toIdx := 1, amount := 0, type := some .exit, nonce := 0, rqOffset := 1
     atomicGroupID := 1, rqFromIdx := 256, rqToIdx := 1, rqAmount := some 0, rqNonce := 1 },
   { txID := [2], fromIdx := 256, toIdx := 1, amount := 0, type := some .exit, nonce := 1, rqOffset := 7
     atomicGroupID := 1, rqFromIdx := 256, rqToIdx := 1, rqAmount := some 0, rqNonce := 0 }]

theorem getL1L2TxSelection_bounded_linkedEmptyExits :
    ∃ group, @TxSelector.Starts plainLibraries plainRuntime (selectorOf linkedEmptyExits) smallConfig [] []
        { typ := .txSelector } [group] { typ := .txSelector } ∧
      [group].length ≤ (groupIDs (selectorOf linkedEmptyExits).l2db.getPendingTxs).length := by
  let := plainLibraries
  have hstate : StateDB.AtLastCheckpoint { typ := .txSelector } := ⟨fun _ _ => rfl, rfl⟩
  have hfails : failsWith (.failedGroup { id := 1, failedTxID := [1], reason := errExitAmount })
      ((selectorOf linkedEmptyExits).attemptSelection plainRuntime smallConfig [] [] 0 []
        (newTxProcessor { typ := .txSelector } smallConfig)) = true := by decide +kernel
  obtain ⟨s, hrun⟩ := exists_of_failsWith hfails
  obtain ⟨hframed, -⟩ := TxSelector.attemptSelection_failed rfl hrun
  have hstarts := TxSelector.Starts.again .first hrun (hstate.reset hframed)
  obtain ⟨hle, -⟩ := (TxSelector.getL1L2TxSelection_bounded plainRuntime (selectorOf linkedEmptyExits) smallConfig [] []
    { typ := .txSelector } rfl hstate).1 _ _ hstarts
  exact ⟨_, hstarts, hle⟩

end HermezRollup
