import HermezRollup.BucketQueue
import HermezRollup.ContractSteps

/-! The queue of L1 user transactions over whole runs of the contract.  The contract keeps its queues as
byte strings under 32-bit indexes; read as lists of 78-byte transactions they form a queue of buckets,
with `_l1QueueAddTx` as its push and `_clearQueue` as its pop, for as long as the filling index has not
run through all of its 32-bit values. -/

namespace HermezRollup

open Bytes Fallible

def queueTxs (queue : Bytes) : List Bytes :=
  chunks rollupConstL1UserTotalBytes queue

@[simp] theorem length_queueTxs (queue : Bytes) :
    (queueTxs queue).length = queue.length / rollupConstL1UserTotalBytes :=
  length_chunks _ _

@[simp] theorem queueTxs_nil : queueTxs [] = [] :=
  chunks_nil _

theorem queueTxs_append {queue tx : Bytes} (hqueue : rollupConstL1UserTotalBytes ∣ queue.length)
    (htx : tx.length = rollupConstL1UserTotalBytes) : queueTxs (queue ++ tx) = queueTxs queue ++ [tx] := by
  rw [queueTxs, chunks_append (by decide) hqueue, chunks_singleton (by decide) htx, queueTxs]

/-! ### Runs -/

def Transaction.l1UserTxs (tx : Transaction) : List Bytes :=
  match tx.call with
  | .addL1Transaction args => [{ args with ethAddress := tx.msg.sender }.encodePacked]
  | _ => []

def Transaction.isL1Batch (tx : Transaction) : Bool :=
  match tx.call with
  | .forgeBatch args => args.l1Batch
  | _ => false

def Event.place : Event → Option (BitVec 32 × BitVec 8)
  | .l1UserTx queueIndex position _ => some (queueIndex, position)
  | _ => none

/-- A state reached by a run, with what happened to the queues on the way: the transactions accepted, the
queues cleared, the places reported, and how often the filling index moved on. -/
structure QueueRun where
  state : Hermez
  accepted : List Bytes := []
  cleared : List Bytes := []
  emitted : List (BitVec 32 × BitVec 8) := []
  advances : Nat := 0

namespace QueueRun

def step [Libraries] (r : QueueRun) (tx : Transaction) : QueueRun :=
  match r.state.exec tx with
  | .error _ => r
  | .ok (s', events) =>
    { state := s'
      accepted := r.accepted ++ tx.l1UserTxs
      cleared := r.cleared ++ if tx.isL1Batch then [r.state.mapL1TxQueue r.state.nextL1ToForgeQueue] else []
      emitted := r.emitted ++ events.filterMap Event.place
      advances := r.advances + if s'.nextL1FillingQueue = r.state.nextL1FillingQueue then 0 else 1 }

def contents (r : QueueRun) (queueIndex : BitVec 32) : Bytes :=
  (r.cleared[queueIndex.toNat]?).getD (r.state.mapL1TxQueue queueIndex)

/-- The transactions in the queues from the one to forge to the filling one. -/
def stored (r : QueueRun) : List Bytes :=
  (List.range' r.state.nextL1ToForgeQueue.toNat
    (r.state.nextL1FillingQueue.toNat + 1 - r.state.nextL1ToForgeQueue.toNat)).flatMap
      fun i => queueTxs (r.state.mapL1TxQueue (BitVec.ofNat 32 i))

end QueueRun

def Hermez.runQueue [Libraries] (s : Hermez) (txs : List Transaction) : QueueRun :=
  txs.foldl QueueRun.step { state := s }

/-! ### The queues refine a queue of buckets -/

def Hermez.bucketQueue (s : Hermez) : BucketQueue Bytes where
  head := s.nextL1ToForgeQueue.toNat
  tail := s.nextL1FillingQueue.toNat
  bucket := fun i => if i < 2 ^ 32 then queueTxs (s.mapL1TxQueue (BitVec.ofNat 32 i)) else []

def QueueRun.history (r : QueueRun) : BucketQueue.History Bytes where
  queue := r.state.bucketQueue
  pushed := r.accepted
  popped := r.cleared.map queueTxs
  places := r.emitted.map fun place => (place.1.toNat, place.2.toNat)

namespace Hermez

@[simp] theorem bucketQueue_bucket (s : Hermez) (queueIndex : BitVec 32) :
    s.bucketQueue.bucket queueIndex.toNat = queueTxs (s.mapL1TxQueue queueIndex) := by
  simp [bucketQueue, queueIndex.isLt]

theorem bucket_update {s s' : Hermez} (queueIndex : BitVec 32) (queue : Bytes)
    (h : s'.mapL1TxQueue = Function.update s.mapL1TxQueue queueIndex queue) :
    s'.bucketQueue.bucket = Function.update s.bucketQueue.bucket queueIndex.toNat (queueTxs queue) := by
  funext i
  by_cases hi : i < 2 ^ 32
  · have hmod : i % 2 ^ 32 = i := Nat.mod_eq_of_lt hi
    rcases eq_or_ne i queueIndex.toNat with rfl | hne
    · rw [bucketQueue_bucket, h, Function.update_self, Function.update_self]
    · have hne' : BitVec.ofNat 32 i ≠ queueIndex := by
        rintro rfl
        exact hne (by rw [BitVec.toNat_ofNat, hmod])
      simp only [bucketQueue, if_pos hi, h, Function.update_of_ne hne', Function.update_of_ne hne]
  · have hne : i ≠ queueIndex.toNat := by
      have := queueIndex.isLt
      omega
    simp only [bucketQueue, if_neg hi, Function.update_of_ne hne]

theorem toNat_add_one {index : BitVec 32} (h : index.toNat + 1 < 2 ^ 32) : (index + 1).toNat = index.toNat + 1 := by
  rw [BitVec.toNat_add]
  exact Nat.mod_eq_of_lt h

theorem filling_of_advance {filling : BitVec 32} {advance : Prop} [Decidable advance]
    (hwrap : (if advance then filling + 1 else filling) ≠ filling → filling.toNat + 1 < 2 ^ 32) :
    (if advance then filling + 1 else filling).toNat = if advance then filling.toNat + 1 else filling.toNat := by
  split
  next hadvance =>
    rw [if_pos hadvance] at hwrap
    exact toNat_add_one (hwrap (by simp))
  next => rfl

theorem l1QueueAddTx_push {s : Hermez} (args : L1UserTxArgs)
    (haligned : rollupConstL1UserTotalBytes ∣ (s.mapL1TxQueue s.nextL1FillingQueue).length)
    (hwrap : (s.l1QueueAddTx args).1.nextL1FillingQueue ≠ s.nextL1FillingQueue →
      s.nextL1FillingQueue.toNat + 1 < 2 ^ 32) :
    (s.l1QueueAddTx args).1.bucketQueue = s.bucketQueue.push maxL1UserTx args.encodePacked := by
  have htail : s.bucketQueue.bucket s.bucketQueue.tail = queueTxs (s.mapL1TxQueue s.nextL1FillingQueue) :=
    s.bucketQueue_bucket s.nextL1FillingQueue
  rw [l1QueueAddTx_fst] at hwrap ⊢
  rw [BucketQueue.push, BucketQueue.mk.injEq, htail]
  refine ⟨rfl, ?_, ?_⟩
  · rw [length_queueTxs]
    exact filling_of_advance hwrap
  · rw [← queueTxs_append haligned args.length_encodePacked]
    exact bucket_update _ _ rfl

theorem clearQueue_pop {s : Hermez} (hlt : s.nextL1ToForgeQueue.toNat < s.nextL1FillingQueue.toNat)
    (hwrap : s.clearQueue.1.nextL1FillingQueue ≠ s.nextL1FillingQueue → s.nextL1FillingQueue.toNat + 1 < 2 ^ 32) :
    s.clearQueue.1.bucketQueue = s.bucketQueue.pop := by
  have hnext : (s.nextL1ToForgeQueue + 1).toNat = s.nextL1ToForgeQueue.toNat + 1 :=
    toNat_add_one (by have := s.nextL1FillingQueue.isLt; omega)
  have hcaught : s.nextL1ToForgeQueue + 1 = s.nextL1FillingQueue ↔
      s.nextL1ToForgeQueue.toNat + 1 = s.nextL1FillingQueue.toNat := by
    rw [← BitVec.toNat_inj, hnext]
  rw [clearQueue_fst] at hwrap ⊢
  rw [BucketQueue.pop, BucketQueue.mk.injEq]
  exact ⟨hnext, (filling_of_advance hwrap).trans (if_congr hcaught rfl rfl), bucket_update _ [] rfl⟩

end Hermez

/-! ### What every run preserves -/

namespace QueueRun

structure Invariant (r : QueueRun) : Prop where
  history : r.history.Valid maxL1UserTx
  aligned : ∀ queueIndex, rollupConstL1UserTotalBytes ∣ (r.state.mapL1TxQueue queueIndex).length
  filling : r.state.nextL1FillingQueue.toNat = r.advances + 1

theorem Invariant.forge_lt_filling {r : QueueRun} (hr : r.Invariant) :
    r.state.nextL1ToForgeQueue.toNat < r.state.nextL1FillingQueue.toNat :=
  hr.history.queue.head_lt_tail

theorem invariant_start (rollupVerifiers : List VerifierRollup) (forgeL1L2BatchTimeout : BitVec 8) :
    Invariant { state := Hermez.initializeHermez rollupVerifiers forgeL1L2BatchTimeout } where
  history := by
    have hempty : QueueRun.history { state := Hermez.initializeHermez rollupVerifiers forgeL1L2BatchTimeout } =
        BucketQueue.History.start := by
      rw [history, BucketQueue.History.start, BucketQueue.History.mk.injEq]
      refine ⟨?_, rfl, rfl, rfl⟩
      rw [Hermez.bucketQueue, BucketQueue.empty, BucketQueue.mk.injEq]
      refine ⟨rfl, rfl, ?_⟩
      funext i
      simp [Hermez.initializeHermez]
    rw [hempty]
    exact BucketQueue.History.valid_start (by decide)
  aligned := fun _ => Nat.dvd_zero _
  filling := rfl

section Step

variable [Libraries] {r : QueueRun} {tx : Transaction} {s' : Hermez} {events : List Event}

theorem step_of_ok (hexec : r.state.exec tx = .ok (s', events)) :
    r.step tx =
      { state := s'
        accepted := r.accepted ++ tx.l1UserTxs
        cleared := r.cleared ++ if tx.isL1Batch then [r.state.mapL1TxQueue r.state.nextL1ToForgeQueue] else []
        emitted := r.emitted ++ events.filterMap Event.place
        advances := r.advances + if s'.nextL1FillingQueue = r.state.nextL1FillingQueue then 0 else 1 } := by
  rw [step, hexec]

theorem advances_le_step (r : QueueRun) (tx : Transaction) : r.advances ≤ (r.step tx).advances := by
  cases hexec : r.state.exec tx with
  | error => rw [step, hexec]
  | ok out => rw [step_of_ok hexec]; exact Nat.le_add_right _ _

theorem not_wrapping (hr : r.Invariant) (hexec : r.state.exec tx = .ok (s', events))
    (hfew : (r.step tx).advances < 2 ^ 32 - 1) (hmoved : s'.nextL1FillingQueue ≠ r.state.nextL1FillingQueue) :
    r.state.nextL1FillingQueue.toNat + 1 < 2 ^ 32 := by
  rw [step_of_ok hexec] at hfew
  simp only [if_neg hmoved] at hfew
  rw [hr.filling]
  omega

theorem filling_step (hr : r.Invariant) (hexec : r.state.exec tx = .ok (s', events))
    (hfew : (r.step tx).advances < 2 ^ 32 - 1)
    (hnext : s'.nextL1FillingQueue = r.state.nextL1FillingQueue ∨
      s'.nextL1FillingQueue = r.state.nextL1FillingQueue + 1) :
    s'.nextL1FillingQueue.toNat = (r.step tx).advances + 1 := by
  have hwrap := not_wrapping hr hexec hfew
  rw [step_of_ok hexec]
  by_cases hsame : s'.nextL1FillingQueue = r.state.nextL1FillingQueue
  · rw [if_pos hsame, hsame]
    exact hr.filling
  · rw [if_neg hsame, hnext.resolve_left hsame, Hermez.toNat_add_one (hwrap hsame), hr.filling]

theorem history_of_same_queues (hexec : r.state.exec tx = .ok (s', events))
    (hqueues : s'.bucketQueue = r.state.bucketQueue) (hadded : tx.l1UserTxs = []) (hforged : tx.isL1Batch = false)
    (hevents : events.filterMap Event.place = []) : (r.step tx).history = r.history := by
  rw [step_of_ok hexec, hadded, hforged, hevents, history, history, BucketQueue.History.mk.injEq]
  simp [hqueues]

theorem history_queued (hr : r.Invariant) {args : L1UserTxArgs} {balanceOf : Address → Nat}
    (hcall : tx.call = .addL1Transaction args)
    (hexec : r.state.exec tx = .ok
      ((({ r.state with balanceOf := balanceOf } : Hermez).l1QueueAddTx { args with ethAddress := tx.msg.sender }).1,
        (({ r.state with balanceOf := balanceOf } : Hermez).l1QueueAddTx { args with ethAddress := tx.msg.sender }).2))
    (hfew : (r.step tx).advances < 2 ^ 32 - 1) :
    (r.step tx).history =
      r.history.push maxL1UserTx { args with ethAddress := tx.msg.sender }.encodePacked := by
  have hwrap := not_wrapping hr hexec hfew
  have hbucket := r.state.bucketQueue_bucket r.state.nextL1FillingQueue
  have hroom : (r.state.mapL1TxQueue r.state.nextL1FillingQueue).length / rollupConstL1UserTotalBytes <
      maxL1UserTx := by
    rw [← length_queueTxs, ← hbucket]
    exact hr.history.queue.room
  have hplace : (BitVec.ofNat 8 ((r.state.mapL1TxQueue r.state.nextL1FillingQueue).length /
      rollupConstL1UserTotalBytes)).toNat = (r.history.queue.bucket r.history.queue.tail).length := by
    rw [BitVec.toNat_ofNat, Nat.mod_eq_of_lt (hroom.trans (by decide)), ← length_queueTxs, ← hbucket]
    rfl
  rw [step_of_ok hexec, history, BucketQueue.History.push, BucketQueue.History.mk.injEq]
  refine ⟨Hermez.l1QueueAddTx_push _ (hr.aligned _) hwrap, ?_, ?_, ?_⟩
  · simp [Transaction.l1UserTxs, hcall, history]
  · simp [Transaction.isL1Batch, hcall, history]
  · rw [Hermez.l1QueueAddTx_snd]
    simp only [List.filterMap_cons, List.filterMap_nil, Event.place, List.map_append, List.map_cons, List.map_nil,
      hplace]
    rfl

theorem history_forged (hr : r.Invariant) {args : Hermez.ForgeBatchArgs} {l1UserTxsLen : BitVec 16}
    (hcall : tx.call = .forgeBatch args)
    (hexec : r.state.exec tx = .ok (((r.state.updateForged args).clearIfL1Batch tx.msg args.l1Batch).1,
      [.forgeBatch ((r.state.updateForged args).clearIfL1Batch tx.msg args.l1Batch).1.lastForgedBatch l1UserTxsLen]))
    (hfew : (r.step tx).advances < 2 ^ 32 - 1) :
    (r.step tx).history = if args.l1Batch then r.history.pop else r.history := by
  have hwrap := not_wrapping hr hexec hfew
  have hadded : tx.l1UserTxs = [] := by simp [Transaction.l1UserTxs, hcall]
  cases hl1 : args.l1Batch with
  | false =>
    rw [hl1] at hexec
    exact history_of_same_queues hexec rfl hadded (by simp [Transaction.isL1Batch, hcall, hl1]) rfl
  | true =>
    rw [hl1] at hexec hwrap
    rw [step_of_ok hexec, history, if_pos rfl, BucketQueue.History.pop, BucketQueue.History.mk.injEq]
    refine ⟨Hermez.clearQueue_pop hr.forge_lt_filling hwrap, ?_, ?_, ?_⟩
    · simp [hadded, history]
    · have hbucket := r.state.bucketQueue_bucket r.state.nextL1ToForgeQueue
      rw [Transaction.isL1Batch, hcall]
      simp only [hl1, if_true, List.map_append, List.map_singleton, ← hbucket]
      rfl
    · simp [Event.place, history]

/-- What a step does to the queues: a transaction is pushed, a queue is popped, or nothing changes. -/
theorem queues_step (hr : r.Invariant) (hexec : r.state.exec tx = .ok (s', events))
    (hfew : (r.step tx).advances < 2 ^ 32 - 1) :
    (∃ l1Tx, l1Tx.length = rollupConstL1UserTotalBytes ∧ (r.step tx).history = r.history.push maxL1UserTx l1Tx ∧
      s'.mapL1TxQueue = Function.update r.state.mapL1TxQueue r.state.nextL1FillingQueue
        (r.state.mapL1TxQueue r.state.nextL1FillingQueue ++ l1Tx)) ∨
    ((r.step tx).history = r.history.pop ∧
      s'.mapL1TxQueue = Function.update r.state.mapL1TxQueue r.state.nextL1ToForgeQueue []) ∨
    ((r.step tx).history = r.history ∧ s'.mapL1TxQueue = r.state.mapL1TxQueue) := by
  cases Hermez.exec_step hexec with
  | queued args balanceOf hcall =>
    left
    refine ⟨_, L1UserTxArgs.length_encodePacked _, history_queued hr hcall hexec hfew, ?_⟩
    rw [Hermez.l1QueueAddTx_fst]
  | forged args input hcall =>
    right
    have hhistory := history_forged hr hcall hexec hfew
    cases hl1 : args.l1Batch with
    | false => exact .inr ⟨by simpa [hl1] using hhistory, rfl⟩
    | true =>
      refine .inl ⟨by simpa [hl1] using hhistory, ?_⟩
      simp only [Hermez.clearIfL1Batch, if_true, Hermez.clearQueue_fst]
      rfl
  | withdrawn wd token hproof =>
    have hother : tx.l1UserTxs = [] ∧ tx.isL1Batch = false := by
      cases hproof with
      | merkle _ _ hcall => simp [Transaction.l1UserTxs, Transaction.isL1Batch, hcall]
      | circuit _ hcall => simp [Transaction.l1UserTxs, Transaction.isL1Batch, hcall]
    exact .inr (.inr ⟨history_of_same_queues hexec rfl hother.1 hother.2
      (Hermez.filterMap_payout (fun _ _ _ => rfl) (fun _ _ _ => rfl)), rfl⟩)
  | tokenAdded tokenAddress hcall =>
    refine .inr (.inr ⟨history_of_same_queues hexec rfl ?_ ?_ rfl, rfl⟩)
    · simp [Transaction.l1UserTxs, hcall]
    · simp [Transaction.isL1Batch, hcall]

theorem filling_moves (hexec : r.state.exec tx = .ok (s', events)) :
    s'.nextL1FillingQueue = r.state.nextL1FillingQueue ∨
      s'.nextL1FillingQueue = r.state.nextL1FillingQueue + 1 := by
  cases Hermez.exec_step hexec with
  | queued args balanceOf =>
    rw [Hermez.l1QueueAddTx_fst]
    exact (ite_eq_or_eq _ _ _).symm
  | forged args =>
    cases args.l1Batch with
    | false => exact .inl rfl
    | true =>
      simp only [Hermez.clearIfL1Batch, if_true, Hermez.clearQueue_fst]
      exact (ite_eq_or_eq _ _ _).symm
  | withdrawn => exact .inl rfl
  | tokenAdded => exact .inl rfl

theorem Invariant.step (hr : r.Invariant) (hfew : (r.step tx).advances < 2 ^ 32 - 1) : (r.step tx).Invariant := by
  cases hexec : r.state.exec tx with
  | error =>
    rw [QueueRun.step, hexec]
    exact hr
  | ok out =>
    obtain ⟨s', events⟩ := out
    have hstate : (r.step tx).state = s' := by rw [step_of_ok hexec]
    have hfilling := filling_step hr hexec hfew (filling_moves hexec)
    rw [← hstate] at hfilling
    rcases queues_step hr hexec hfew with ⟨l1Tx, hlength, hhistory, hqueues⟩ | ⟨hhistory, hqueues⟩ |
      ⟨hhistory, hqueues⟩
    · refine ⟨hhistory ▸ hr.history.push (by decide) l1Tx, fun queueIndex => ?_, hfilling⟩
      rw [hstate, hqueues]
      rcases eq_or_ne queueIndex r.state.nextL1FillingQueue with rfl | hne
      · rw [Function.update_self, List.length_append, hlength]
        exact Nat.dvd_add (hr.aligned _) (dvd_refl _)
      · rw [Function.update_of_ne hne]
        exact hr.aligned _
    · refine ⟨hhistory ▸ hr.history.pop (by decide), fun queueIndex => ?_, hfilling⟩
      rw [hstate, hqueues]
      rcases eq_or_ne queueIndex r.state.nextL1ToForgeQueue with rfl | hne
      · rw [Function.update_self]
        exact Nat.dvd_zero _
      · rw [Function.update_of_ne hne]
        exact hr.aligned _
    · refine ⟨hhistory ▸ hr.history, fun queueIndex => ?_, hfilling⟩
      rw [hstate, hqueues]
      exact hr.aligned _

theorem advances_le_foldl (txs : List Transaction) (r : QueueRun) :
    r.advances ≤ (txs.foldl QueueRun.step r).advances := by
  induction txs generalizing r with
  | nil => exact Nat.le_refl _
  | cons tx txs ih => exact (advances_le_step r tx).trans (ih (r.step tx))

theorem Invariant.foldl (hr : r.Invariant) (txs : List Transaction)
    (hfew : (txs.foldl QueueRun.step r).advances < 2 ^ 32 - 1) : (txs.foldl QueueRun.step r).Invariant := by
  induction txs generalizing r with
  | nil => exact hr
  | cons tx txs ih =>
    rw [List.foldl_cons] at hfew ⊢
    exact ih (hr.step ((advances_le_foldl txs (r.step tx)).trans_lt hfew)) hfew

/-- The queue to forge is never appended to: a call leaves it as it is, or clears it as an L1 batch. -/
theorem queue_to_forge_kept (hlt : r.state.nextL1ToForgeQueue < r.state.nextL1FillingQueue)
    (hexec : r.state.exec tx = .ok (s', events)) :
    s'.mapL1TxQueue r.state.nextL1ToForgeQueue = r.state.mapL1TxQueue r.state.nextL1ToForgeQueue ∨
      tx.isL1Batch = true ∧ s'.mapL1TxQueue r.state.nextL1ToForgeQueue = [] := by
  cases Hermez.exec_step hexec with
  | queued args balanceOf =>
    left
    have hne : r.state.nextL1ToForgeQueue ≠ r.state.nextL1FillingQueue := by
      intro heq
      rw [heq] at hlt
      exact BitVec.lt_irrefl _ hlt
    rw [Hermez.l1QueueAddTx_fst]
    exact Function.update_of_ne hne _ _
  | forged args input hcall =>
    cases hl1 : args.l1Batch with
    | false => exact .inl rfl
    | true =>
      refine .inr ⟨by simp [Transaction.isL1Batch, hcall, hl1], ?_⟩
      simp only [Hermez.clearIfL1Batch, if_true, Hermez.clearQueue_fst]
      exact Function.update_self _ _ _
  | withdrawn => exact .inl rfl
  | tokenAdded => exact .inl rfl

end Step

/-- What the queues promise after a run. -/
structure Sound [Libraries] (r : QueueRun) : Prop where
  ordered : r.state.nextL1ToForgeQueue < r.state.nextL1FillingQueue
  bounded : ∀ queueIndex, (queueTxs (r.state.mapL1TxQueue queueIndex)).length ≤ maxL1UserTx
  whole : ∀ queueIndex, (r.state.mapL1TxQueue queueIndex).length =
    (queueTxs (r.state.mapL1TxQueue queueIndex)).length * rollupConstL1UserTotalBytes
  txLength : ∀ queueIndex, ∀ l1Tx ∈ queueTxs (r.state.mapL1TxQueue queueIndex),
    l1Tx.length = rollupConstL1UserTotalBytes
  emittedUnique : r.emitted.Nodup
  emittedEach : r.emitted.length = r.accepted.length
  emittedPlace : ∀ place l1Tx, (place, l1Tx) ∈ r.emitted.zip r.accepted →
    (queueTxs (r.contents place.1))[place.2.toNat]? = some l1Tx
  notAppended : ∀ tx s' events, r.state.exec tx = .ok (s', events) →
    s'.mapL1TxQueue r.state.nextL1ToForgeQueue = r.state.mapL1TxQueue r.state.nextL1ToForgeQueue ∨
      tx.isL1Batch = true ∧ s'.mapL1TxQueue r.state.nextL1ToForgeQueue = []
  complete : r.accepted = r.cleared.flatMap queueTxs ++ r.stored

theorem history_contents (r : QueueRun) (queueIndex : BitVec 32) :
    r.history.contents queueIndex.toNat = queueTxs (r.contents queueIndex) := by
  rw [BucketQueue.History.contents, contents]
  simp only [history, List.getElem?_map, Hermez.bucketQueue_bucket]
  cases r.cleared[queueIndex.toNat]? <;> rfl

theorem history_stored (r : QueueRun) : r.history.queue.stored = r.stored := by
  apply List.flatMap_congr
  intro i hi
  have hlt : i < 2 ^ 32 := by
    have := r.state.nextL1FillingQueue.isLt
    have hmem := List.mem_range'_1.mp hi
    simp only [history, Hermez.bucketQueue] at hmem
    omega
  exact if_pos hlt

theorem Invariant.sound [Libraries] {r : QueueRun} (hr : r.Invariant) : r.Sound where
  ordered := hr.forge_lt_filling
  bounded := fun queueIndex => by
    rw [← Hermez.bucketQueue_bucket]
    exact hr.history.queue.bounded _
  whole := fun queueIndex => by
    rw [length_queueTxs, Nat.div_mul_cancel (hr.aligned queueIndex)]
  txLength := fun _ _ hmem => length_of_mem_chunks hmem
  emittedUnique := List.Nodup.of_map _ hr.history.places_nodup
  emittedEach := by
    have hlength := hr.history.places_length
    rwa [QueueRun.history, List.length_map] at hlength
  emittedPlace := by
    intro place l1Tx hmem
    have hzip : ((place.1.toNat, place.2.toNat), l1Tx) ∈ r.history.places.zip r.history.pushed := by
      rw [QueueRun.history, List.zip_map_left]
      exact List.mem_map.mpr ⟨(place, l1Tx), hmem, rfl⟩
    rw [← history_contents]
    exact hr.history.placed _ hzip
  notAppended := fun _ _ _ hexec => queue_to_forge_kept hr.forge_lt_filling hexec
  complete := by
    have hpushed := hr.history.pushed_eq
    rw [history_stored] at hpushed
    rw [List.flatMap_def]
    exact hpushed

end QueueRun

/-- **No L1 user transaction is lost, duplicated or reordered**, over every run of the contract in which
the filling index does not run through all of its 32-bit values. -/
theorem l1Queue_sound [Libraries] (rollupVerifiers : List VerifierRollup) (forgeL1L2BatchTimeout : BitVec 8)
    (txs : List Transaction)
    (hfew : ((Hermez.initializeHermez rollupVerifiers forgeL1L2BatchTimeout).runQueue txs).advances < 2 ^ 32 - 1) :
    ((Hermez.initializeHermez rollupVerifiers forgeL1L2BatchTimeout).runQueue txs).Sound :=
  ((QueueRun.invariant_start rollupVerifiers forgeL1L2BatchTimeout).foldl txs hfew).sound

/-- A transaction in which a user creates an account, and one that forges an empty L1 batch. -/
def createAccountCall : Transaction where
  world := openWorld
  msg := { sender := 7, origin := 7 }
  call := .addL1Transaction createAccountArgs

def forgeEmptyTx : Transaction where
  world := openWorld
  msg := { sender := 7, origin := 7 }
  call := .forgeBatch forgeEmptyArgs

theorem l1Queue_sound_createAccount :
    @QueueRun.Sound plainLibraries (@Hermez.runQueue plainLibraries (Hermez.initializeHermez [⟨1, 8⟩] 0)
      [createAccountCall, forgeEmptyTx, createAccountCall]) :=
  @l1Queue_sound plainLibraries [⟨1, 8⟩] 0 [createAccountCall, forgeEmptyTx, createAccountCall] (by decide)

theorem forgeEmptyTx_exec {s : Hermez} (hverifiers : s.rollupVerifiers = [⟨1, 8⟩])
    (hqueue : s.mapL1TxQueue s.nextL1ToForgeQueue = []) :
    ∃ events, @Hermez.exec plainLibraries s forgeEmptyTx =
      .ok (((s.updateForged forgeEmptyArgs).clearIfL1Batch forgeEmptyTx.msg true).1, events) := by
  let := plainLibraries
  have hbytes : ∃ bytes, Hermez.circuitInputBytes openWorld s forgeEmptyArgs = .ok bytes := by
    simp [Hermez.circuitInputBytes, forgeEmptyArgs, hverifiers, Hermez.buildL1Data, hqueue,
      Hermez.buildL1CoordinatorTxs, require, maxL1Tx]
  obtain ⟨bytes, hbytes⟩ := hbytes
  have hinput : Hermez.constructCircuitInput openWorld s forgeEmptyArgs =
      .ok (Libraries.sha256 bytes % rollupConstRfield) := by
    rw [Hermez.constructCircuitInput, hbytes, except_ok_bind, except_pure]
  have hforge : s.exec forgeEmptyTx = Hermez.forgeBatch openWorld s forgeEmptyTx.msg forgeEmptyArgs := rfl
  rw [hforge, Hermez.forgeBatch, hinput]
  exact ⟨_, rfl⟩

theorem foldl_forgeEmptyTx (n : Nat) {r : QueueRun} (hverifiers : r.state.rollupVerifiers = [⟨1, 8⟩])
    (hqueues : r.state.mapL1TxQueue = fun _ => []) (hnext : r.state.nextL1FillingQueue = r.state.nextL1ToForgeQueue + 1) :
    ((List.replicate n forgeEmptyTx).foldl (@QueueRun.step plainLibraries) r).state.nextL1ToForgeQueue =
        r.state.nextL1ToForgeQueue + BitVec.ofNat 32 n ∧
      ((List.replicate n forgeEmptyTx).foldl (@QueueRun.step plainLibraries) r).state.nextL1FillingQueue =
        r.state.nextL1ToForgeQueue + BitVec.ofNat 32 n + 1 := by
  induction n generalizing r with
  | zero => simpa using hnext
  | succ n ih =>
    obtain ⟨events, hexec⟩ := forgeEmptyTx_exec hverifiers (congrFun hqueues _)
    have hstep := @QueueRun.step_of_ok plainLibraries r forgeEmptyTx _ _ hexec
    have hstate : (@QueueRun.step plainLibraries r forgeEmptyTx).state =
        { r.state.updateForged forgeEmptyArgs with
          lastL1L2Batch := 0
          mapL1TxQueue := fun _ => []
          nextL1ToForgeQueue := r.state.nextL1ToForgeQueue + 1
          nextL1FillingQueue := r.state.nextL1ToForgeQueue + 1 + 1 } := by
      rw [hstep]
      simp only [Hermez.clearIfL1Batch, if_true, Hermez.clearQueue_fst]
      simp [Hermez.updateForged, hqueues, hnext, forgeEmptyTx]
    have hone : BitVec.ofNat 32 (n + 1) = 1 + BitVec.ofNat 32 n := by
      rw [BitVec.ofNat_add, BitVec.add_comm]
      rfl
    obtain ⟨hforge, hfilling⟩ := ih (r := @QueueRun.step plainLibraries r forgeEmptyTx)
      (hstate ▸ hverifiers) (hstate ▸ rfl) (hstate ▸ rfl)
    rw [List.replicate_succ, List.foldl_cons, hforge, hfilling, hstate, hone, BitVec.add_assoc]
    exact ⟨rfl, rfl⟩

/-- **The filling index wraps**: after `2 ^ 32 - 1` empty L1 batches it is 0, below the index of the
queue to forge. -/
theorem l1Queue_wraps :
    ¬((@Hermez.runQueue plainLibraries (Hermez.initializeHermez [⟨1, 8⟩] 0)
        (List.replicate (2 ^ 32 - 1) forgeEmptyTx)).state.nextL1ToForgeQueue <
      (@Hermez.runQueue plainLibraries (Hermez.initializeHermez [⟨1, 8⟩] 0)
        (List.replicate (2 ^ 32 - 1) forgeEmptyTx)).state.nextL1FillingQueue) := by
  obtain ⟨hforge, hfilling⟩ := foldl_forgeEmptyTx (2 ^ 32 - 1)
    (r := { state := Hermez.initializeHermez [⟨1, 8⟩] 0 }) rfl rfl rfl
  unfold Hermez.runQueue
  rw [hforge, hfilling]
  decide

end HermezRollup
