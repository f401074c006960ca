import HermezRollup.Checkpoints
import HermezRollup.Types
import Mathlib.Data.List.AList
import Mathlib.Data.List.Sort

/-! The key-value database of the node with its directories.  The current store, the numbered checkpoints
and the view of the last checkpoint are directories of one path; the number of the last batch and the last
index are both in memory and under two keys of the store.  Batch numbers are natural numbers, and operations
on files do not fail. -/

namespace HermezRollup

open Fallible Checkpoints

namespace KVDB

/-- The contents of a store: what is under `k:currentbatch`, under `k:idx` and under the keys of the users. -/
structure Contents (κ ν : Type) where
  currentBatch : Option Nat := none
  currentIdx : Option Nat := none
  entries : κ → Option ν := fun _ => none

structure Config where
  path : String
  keep : Int
  noGapsCheck : Bool
  noLast : Bool

/-- The directories below the path, without the view of the last checkpoint. -/
structure Directories (κ ν : Type) where
  current : Contents κ ν := {}
  checkpoints : AList fun _ : Nat => Contents κ ν := ∅

end KVDB

/-- An open database; `last` is absent when the configuration says so. -/
structure KVDB (κ ν : Type) extends KVDB.Directories κ ν where
  cfg : KVDB.Config
  last : Option (KVDB.Contents κ ν)
  currentBatch : Nat
  currentIdx : Nat

namespace KVDB

variable {κ ν : Type}

namespace Contents

def getCurrentBatch (c : Contents κ ν) : Nat :=
  c.currentBatch.getD 0

def getCurrentIdx (c : Contents κ ν) : Nat :=
  c.currentIdx.getD rollupConstReservedIDx

/-- A value is put under a key of a user, or the key is deleted. -/
def write [DecidableEq κ] (c : Contents κ ν) (key : κ) (value : Option ν) : Contents κ ν :=
  { c with entries := Function.update c.entries key value }

end Contents

/-- The first number in a sorted list that does not follow the number before. -/
def firstGap (first : Nat) : List Nat → Option Nat
  | [] => none
  | checkpoint :: checkpoints => if checkpoint = first + 1 then firstGap checkpoint checkpoints else some checkpoint

def listCheckpoints (k : KVDB κ ν) : Except String (List Nat) :=
  let checkpoints := k.checkpoints.keys.insertionSort (· ≤ ·)
  match checkpoints with
  | [] => .ok checkpoints
  | first :: rest =>
    if k.cfg.noGapsCheck then .ok checkpoints
    else match firstGap first rest with
      | none => .ok checkpoints
      | some checkpoint => .error s!"checkpoint gap at {checkpoint}"

def deleteCheckpoint (k : KVDB κ ν) (batchNum : Nat) : Except String (KVDB κ ν) :=
  if batchNum ∈ k.checkpoints then .ok { k with checkpoints := k.checkpoints.erase batchNum }
  else .error s!"Checkpoint with batchNum {batchNum} does not exist in DB"

/-- The source of `MakeCheckpointFromTo`. -/
def checkpointAt (k : KVDB κ ν) (batchNum : Nat) : Except String (Contents κ ν) :=
  match k.checkpoints.lookup batchNum with
  | some contents => .ok contents
  | none => .error s!"Checkpoint \"{k.cfg.path}/BatchNum{batchNum}\" does not exist"

def reset (k : KVDB κ ν) (batchNum : Nat) : Except String (KVDB κ ν) := do
  let list ← k.listCheckpoints
  -- from the first batch that is greater than batchNum on
  let k ← (list.dropWhile (· ≤ batchNum)).foldlM deleteCheckpoint k
  if batchNum = 0 then
    return { k with
      current := {}
      currentIdx := rollupConstReservedIDx
      currentBatch := 0
      last := k.last.map fun _ => {} }
  else
    let contents ← k.checkpointAt batchNum
    return { k with
      current := contents
      last := k.last.map fun _ => contents
      currentBatch := contents.getCurrentBatch
      currentIdx := contents.getCurrentIdx }

/-- `NewKVDB`: what is in memory is read from the directories. -/
def newKVDB (cfg : Config) (dirs : Directories κ ν) : Except String (KVDB κ ν) :=
  let k : KVDB κ ν :=
    { dirs with
      cfg := cfg
      last := if cfg.noLast then none else some {}
      currentBatch := dirs.current.getCurrentBatch
      currentIdx := 0 }
  k.reset k.currentBatch

/-- The index is set in memory before it is checked. -/
def setCurrentIdx (idx : Nat) : EStateM Err (KVDB κ ν) Unit := do
  modify fun k => { k with currentIdx := idx }
  let _ ← fromState fun _ => idxBytes idx
  modify fun k => { k with current := { k.current with currentIdx := some idx } }

def makeCheckpoint (k : KVDB κ ν) : Except String (KVDB κ ν) := do
  let batchNum := k.currentBatch + 1
  let current := { k.current with currentBatch := some batchNum }
  let k := { k with currentBatch := batchNum, current := current, checkpoints := k.checkpoints.insert batchNum current }
  match k.last with
  | none => return k
  | some _ =>
    let contents ← k.checkpointAt batchNum
    return { k with last := some contents }

def deleteOldCheckpoints (k : KVDB κ ν) : Except String (KVDB κ ν) := do
  let list ← k.listCheckpoints
  if 0 < k.cfg.keep ∧ k.cfg.keep < list.length then
    (list.take (list.length - k.cfg.keep.toNat)).foldlM deleteCheckpoint k
  else return k

/-! ### Runs -/

/-- What a `MakeCheckpoint` has left: the contents, and the index in memory. -/
structure Made (κ ν : Type) where
  contents : Contents κ ν
  currentIdx : Nat

/-- The databases reached from an empty path.  `made` remembers the last `MakeCheckpoint` of each number.
Old checkpoints are deleted at any time after it; an index that is refused is one more step. -/
inductive Reached [DecidableEq κ] : (Nat → Option (Made κ ν)) → KVDB κ ν → Prop
  | new (cfg : Config) (k : KVDB κ ν) (h : newKVDB cfg {} = .ok k) : Reached (fun _ => none) k
  | write (made) (k : KVDB κ ν) (key : κ) (value : Option ν) (hk : Reached made k) :
      Reached made { k with current := k.current.write key value }
  | setCurrentIdx (made) (k : KVDB κ ν) (idx : Nat) (hk : Reached made k) :
      Reached made (finalState (KVDB.setCurrentIdx idx k))
  | makeCheckpoint (made) (k k' : KVDB κ ν) (hk : Reached made k) (h : k.makeCheckpoint = .ok k') :
      Reached (Function.update made k'.currentBatch (some ⟨k'.current, k'.currentIdx⟩)) k'
  | deleteOld (made) (k k' : KVDB κ ν) (hk : Reached made k) (h : k.deleteOldCheckpoints = .ok k') : Reached made k'
  | reset (made) (k k' : KVDB κ ν) (batchNum : Nat) (hk : Reached made k) (h : k.reset batchNum = .ok k') : Reached made k'
  | reopen (made) (k k' : KVDB κ ν) (cfg : Config) (hk : Reached made k) (h : newKVDB cfg k.toDirectories = .ok k') :
      Reached made k'

/-- A database that was set to batch `b`. -/
structure Restored (made : Nat → Option (Made κ ν)) (b : Nat) (k : KVDB κ ν) : Prop where
  currentBatch : k.currentBatch = b
  empty : b = 0 → k.current = {} ∧ k.currentIdx = rollupConstReservedIDx
  checkpointed : b ≠ 0 → ∃ m, made b = some m ∧ k.current = m.contents ∧ k.currentIdx = m.contents.getCurrentIdx ∧
    (m.currentIdx ≤ maxIdxValue → k.currentIdx = m.currentIdx)

/-- Checkpoints are what the `MakeCheckpoint`s have left, without gaps up to the current batch. -/
structure Faithful (made : Nat → Option (Made κ ν)) (k : KVDB κ ν) : Prop where
  reset_total : ∀ b, b = 0 ∨ b ∈ k.checkpoints → ∃ k', k.reset b = .ok k'
  reset_restored : ∀ b k', k.reset b = .ok k' → k'.Restored made b
  makeCheckpoint_total : ∃ k', k.makeCheckpoint = .ok k'
  interval : ∃ low, ∀ n, n ∈ k.checkpoints ↔ low ≤ n ∧ n ≤ k.currentBatch
  current_mem : k.currentBatch ≠ 0 → k.currentBatch ∈ k.checkpoints
  deleteOld : ∃ k', k.deleteOldCheckpoints = .ok k' ∧ (0 < k.cfg.keep → (k'.checkpoints.keys.length : Int) ≤ k.cfg.keep)
  last : k.last = if k.cfg.noLast then none else some ((k.checkpoints.lookup k.currentBatch).getD {})
  reopen : ∀ cfg, ∃ k', newKVDB cfg k.toDirectories = .ok k' ∧ k'.Restored made k.currentBatch ∧
    ∀ n, k'.checkpoints.lookup n = k.checkpoints.lookup n

/-! ### Lists of checkpoints -/

theorem firstGap_range' (first count : Nat) : firstGap first (List.range' (first + 1) count) = none := by
  induction count generalizing first with
  | zero => rfl
  | succ count ih =>
    rw [List.range'_succ, firstGap, if_pos rfl]
    exact ih (first + 1)

/-- The checkpoints are those of the batches from `low` to `high`. -/
def Between (k : KVDB κ ν) (low high : Nat) : Prop :=
  ∀ n, n ∈ k.checkpoints ↔ low ≤ n ∧ n ≤ high

variable {k k' : KVDB κ ν} {low high : Nat}

theorem mem_checkpoints {n : Nat} : n ∈ k.checkpoints ↔ ∃ contents, k.checkpoints.lookup n = some contents := by
  rw [← AList.lookup_isSome, Option.isSome_iff_exists]

theorem Between.keys_perm (h : k.Between low high) : k.checkpoints.keys.Perm (List.range' low (high + 1 - low)) := by
  refine (List.perm_ext_iff_of_nodup (AList.keys_nodup _) List.nodup_range').mpr fun n => ?_
  rw [← AList.mem_keys, h n, List.mem_range'_1]
  omega

theorem Between.sorted (h : k.Between low high) :
    k.checkpoints.keys.insertionSort (· ≤ ·) = List.range' low (high + 1 - low) :=
  ((List.perm_insertionSort _ _).trans h.keys_perm).eq_of_pairwise (fun _ _ _ _ => le_antisymm)
    (List.pairwise_insertionSort _ _) List.pairwise_le_range'

theorem Between.listCheckpoints (h : k.Between low high) : k.listCheckpoints = .ok (List.range' low (high + 1 - low)) := by
  rw [KVDB.listCheckpoints, h.sorted]
  cases hcount : high + 1 - low with
  | zero => rfl
  | succ count =>
    rw [List.range'_succ]
    dsimp only
    rw [firstGap_range']
    split <;> rfl

theorem take_range' (low : Nat) {m count : Nat} (h : m ≤ count) : (List.range' low count).take m = List.range' low m := by
  rw [← Nat.add_sub_of_le h, ← List.range'_append_1, List.take_left' List.length_range']

theorem mem_dropWhile_range' (low count b n : Nat) :
    n ∈ (List.range' low count).dropWhile (· ≤ b) ↔ (low ≤ n ∧ n < low + count) ∧ b < n := by
  induction count generalizing low with
  | zero => simp
  | succ count ih =>
    rw [List.range'_succ, List.dropWhile_cons]
    split
    next hle =>
      rw [ih]
      have hle := of_decide_eq_true hle
      omega
    next hgt =>
      rw [← List.range'_succ, List.mem_range'_1]
      simp only [decide_eq_true_eq] at hgt
      omega

/-- What a deletion of listed checkpoints leaves. -/
structure Deleted (k : KVDB κ ν) (list : List Nat) (k' : KVDB κ ν) : Prop where
  same : k' = { k with checkpoints := k'.checkpoints }
  lookup : ∀ n, k'.checkpoints.lookup n = if n ∈ list then none else k.checkpoints.lookup n

theorem foldlM_deleteCheckpoint {list : List Nat} (hnodup : list.Nodup) (hmem : ∀ n ∈ list, n ∈ k.checkpoints) :
    ∃ k', list.foldlM deleteCheckpoint k = .ok k' ∧ k.Deleted list k' := by
  induction list generalizing k with
  | nil => exact ⟨k, rfl, rfl, fun n => (if_neg List.not_mem_nil).symm⟩
  | cons m list ih =>
    rw [List.nodup_cons] at hnodup
    have hfirst : k.deleteCheckpoint m = .ok { k with checkpoints := k.checkpoints.erase m } :=
      if_pos (hmem m List.mem_cons_self)
    obtain ⟨k', hrun, hsame, hlookup⟩ := ih (k := { k with checkpoints := k.checkpoints.erase m }) hnodup.2 (by
      intro n hn
      refine AList.mem_erase.mpr ⟨fun heq => hnodup.1 (heq ▸ hn), hmem n (List.mem_cons_of_mem _ hn)⟩)
    refine ⟨k', ?_, hsame, fun n => ?_⟩
    · rw [List.foldlM_cons, hfirst]
      exact hrun
    · rw [hlookup n]
      by_cases heq : n = m
      · subst heq
        rw [if_neg hnodup.1, if_pos List.mem_cons_self]
        exact AList.lookup_erase _ _
      · have hcons : n ∈ m :: list ↔ n ∈ list := by simp [heq]
        simp only [hcons]
        rw [AList.lookup_erase_ne heq]

/-! ### The directories as a database with checkpoints -/

instance : Numbered (Contents κ ν) :=
  ⟨{}, Contents.getCurrentBatch⟩

def toDB (k : KVDB κ ν) : DB (Contents κ ν) :=
  ⟨k.current, fun n => k.checkpoints.lookup n⟩

/-- A reset of the directories has the effect of a reset in the database with checkpoints, and what is in
memory and in the view of the last checkpoint comes from its contents. -/
structure ResetTo (k : KVDB κ ν) (db : DB (Contents κ ν)) (k' : KVDB κ ν) : Prop where
  toDB : k'.toDB = db
  cfg : k'.cfg = k.cfg
  last : k'.last = k.last.map fun _ => db.current
  currentBatch : k'.currentBatch = db.current.getCurrentBatch
  currentIdx : k'.currentIdx = db.current.getCurrentIdx

theorem Deleted.toDB {list : List Nat} (h : k.Deleted list k') : k'.toDB = k.toDB.prune fun n => n ∉ list := by
  rw [KVDB.toDB, h.same, DB.prune]
  dsimp only [KVDB.toDB]
  refine congrArg (DB.mk _) (funext fun n => ?_)
  rw [h.lookup n]
  by_cases hmem : n ∈ list <;> simp [hmem]

theorem Between.delete_above (h : k.Between low high) (b : Nat) :
    ∃ kept, ((List.range' low (high + 1 - low)).dropWhile (· ≤ b)).foldlM deleteCheckpoint k = .ok kept ∧
      kept = { k with checkpoints := kept.checkpoints } ∧ kept.toDB = k.toDB.prune (· ≤ b) := by
  have hnodup : ((List.range' low (high + 1 - low)).dropWhile (· ≤ b)).Nodup :=
    (List.dropWhile_sublist _).nodup List.nodup_range'
  obtain ⟨kept, hrun, hdeleted⟩ := foldlM_deleteCheckpoint hnodup fun n hn => by
    rw [mem_dropWhile_range'] at hn
    exact (h n).mpr (by omega)
  refine ⟨kept, hrun, hdeleted.same, ?_⟩
  rw [hdeleted.toDB, DB.prune, DB.prune]
  refine congrArg (DB.mk _) (funext fun n => ?_)
  dsimp only [KVDB.toDB]
  cases hlookup : k.checkpoints.lookup n with
  | none => simp
  | some contents =>
    have hmem := (h n).mp (mem_checkpoints.mpr ⟨contents, hlookup⟩)
    have hiff : n ∉ (List.range' low (high + 1 - low)).dropWhile (· ≤ b) ↔ n ≤ b := by
      rw [mem_dropWhile_range']
      omega
    simp only [hiff]

theorem Between.reset_spec (h : k.Between low high) (b : Nat) :
    (∃ k' db, k.reset b = .ok k' ∧ DB.reset b k.toDB = .ok () db ∧ k.ResetTo db k') ∨
      (∃ e, k.reset b = .error e) ∧ b ≠ 0 ∧ b ∉ k.checkpoints := by
  obtain ⟨kept, hrun, hsame, hkept⟩ := h.delete_above b
  have hlookup : kept.checkpoints.lookup b = k.checkpoints.lookup b := by
    have hprune := congrFun (congrArg DB.checkpoints hkept) b
    rw [DB.prune] at hprune
    dsimp only at hprune
    rwa [if_pos (decide_eq_true le_rfl)] at hprune
  rw [KVDB.reset, h.listCheckpoints, except_ok_bind, hrun, except_ok_bind]
  by_cases hzero : b = 0
  · left
    rw [if_pos hzero, DB.reset, if_pos hzero]
    refine ⟨_, _, rfl, rfl, ?_, ?_, ?_, rfl, rfl⟩
    · rw [← hkept]
      rfl
    · rw [hsame]
    · rw [hsame]
      rfl
  · rw [if_neg hzero, checkpointAt, hlookup]
    cases hcontents : k.checkpoints.lookup b with
    | none =>
      right
      refine ⟨⟨_, rfl⟩, hzero, fun hmem => ?_⟩
      obtain ⟨contents, hsome⟩ := mem_checkpoints.mp hmem
      cases hcontents.symm.trans hsome
    | some contents =>
      left
      refine ⟨_, _, rfl, (DB.reset_ok hzero).mpr ⟨contents, hcontents, rfl⟩, ?_, ?_, ?_, rfl, rfl⟩
      · rw [← hkept]
        rfl
      · rw [hsame]
      · rw [hsame]
        rfl

theorem Between.reset_ok (h : k.Between low high) {b : Nat} (hrun : k.reset b = .ok k') :
    ∃ db, DB.reset b k.toDB = .ok () db ∧ k.ResetTo db k' := by
  rcases h.reset_spec b with ⟨k'', db, hreset, hdb, hto⟩ | ⟨⟨e, herror⟩, -⟩
  · cases hrun.symm.trans hreset
    exact ⟨db, hdb, hto⟩
  · cases hrun.symm.trans herror

theorem Between.reset_total (h : k.Between low high) {b : Nat} (hmem : b = 0 ∨ b ∈ k.checkpoints) :
    ∃ k', k.reset b = .ok k' := by
  rcases h.reset_spec b with ⟨k', -, hreset, -⟩ | ⟨-, hzero, hnot⟩
  · exact ⟨k', hreset⟩
  · rcases hmem with hb | hb
    · exact absurd hb hzero
    · exact absurd hb hnot

/-! ### What holds in every run -/

/-- What a checkpoint says about its `MakeCheckpoint`. -/
def MadeBy (made : Nat → Option (Made κ ν)) (n : Nat) (contents : Contents κ ν) : Prop :=
  contents.getCurrentBatch = n ∧ ∃ m, made n = some m ∧ contents = m.contents ∧
    (m.currentIdx ≤ maxIdxValue → contents.getCurrentIdx = m.currentIdx)

structure Sound (made : Nat → Option (Made κ ν)) (k : KVDB κ ν) : Prop where
  between : ∃ low, 1 ≤ low ∧ (k.currentBatch ≠ 0 → low ≤ k.currentBatch) ∧ k.Between low k.currentBatch
  checkpoints : k.toDB.All (MadeBy made)
  batch : k.current.getCurrentBatch = k.currentBatch
  idx : k.currentIdx ≤ maxIdxValue → k.current.getCurrentIdx = k.currentIdx
  last : k.last = if k.cfg.noLast then none else some ((k.checkpoints.lookup k.currentBatch).getD {})

variable {made : Nat → Option (Made κ ν)}

theorem ResetTo.restored {b : Nat} {db : DB (Contents κ ν)} (hmade : k.toDB.All (MadeBy made))
    (hdb : DB.reset b k.toDB = .ok () db) (h : k.ResetTo db k') : k'.Restored made b := by
  have hcurrent : k'.current = db.current := congrArg DB.current h.toDB
  by_cases hzero : b = 0
  · rw [DB.reset, if_pos hzero] at hdb
    cases hdb
    exact ⟨h.currentBatch.trans hzero.symm, fun _ => ⟨hcurrent, h.currentIdx⟩, fun hne => absurd hzero hne⟩
  · obtain ⟨contents, hcontents, rfl⟩ := (DB.reset_ok hzero).mp hdb
    obtain ⟨hnumber, m, hm, rfl, hidx⟩ := hmade b contents hcontents
    refine ⟨h.currentBatch.trans hnumber, fun heq => absurd heq hzero, fun _ => ⟨m, hm, hcurrent, h.currentIdx, fun hle => ?_⟩⟩
    exact h.currentIdx.trans (hidx hle)

theorem ResetTo.lookup {b : Nat} {db : DB (Contents κ ν)} (hdb : DB.reset b k.toDB = .ok () db) (h : k.ResetTo db k')
    (n : Nat) : k'.checkpoints.lookup n = if n ≤ b then k.checkpoints.lookup n else none := by
  have hcheckpoints : db.checkpoints = (k.toDB.prune (· ≤ b)).checkpoints := by
    by_cases hzero : b = 0
    · rw [DB.reset, if_pos hzero] at hdb
      cases hdb
      rfl
    · obtain ⟨contents, -, rfl⟩ := (DB.reset_ok hzero).mp hdb
      rfl
  have hlookup := congrFun (congrArg DB.checkpoints h.toDB) n
  rw [hcheckpoints, DB.prune] at hlookup
  simpa [KVDB.toDB] using hlookup

theorem sound_reset {b : Nat} (hlow : 1 ≤ low) (hbetween : k.Between low high) (hmade : k.toDB.All (MadeBy made))
    (hlast : k.last.isSome = !k.cfg.noLast) (hrun : k.reset b = .ok k') : k'.Sound made := by
  obtain ⟨db, hdb, hto⟩ := hbetween.reset_ok hrun
  have hlookup := hto.lookup hdb
  have hcurrent : k'.current = db.current := congrArg DB.current hto.toDB
  have hbatch : k'.currentBatch = b := (hto.restored hmade hdb).currentBatch
  have hall : k'.toDB.All (MadeBy made) := hto.toDB ▸ (DB.All.reset b).ok hmade hdb
  -- the batch is 0 or has a checkpoint, so it is the new end of the interval
  have hend : (b ≠ 0 → low ≤ b ∧ b ≤ high) ∧ (k'.checkpoints.lookup b).getD {} = db.current := by
    rw [hlookup b, if_pos le_rfl]
    by_cases hzero : b = 0
    · have hnone : k.checkpoints.lookup b = none := by
        rw [AList.lookup_eq_none, hbetween b]
        omega
      rw [DB.reset, if_pos hzero] at hdb
      cases hdb
      rw [hnone]
      exact ⟨fun hne => absurd hzero hne, rfl⟩
    · obtain ⟨contents, hcontents, rfl⟩ := (DB.reset_ok hzero).mp hdb
      refine ⟨fun _ => (hbetween b).mp (mem_checkpoints.mpr ⟨contents, hcontents⟩), ?_⟩
      change k.checkpoints.lookup b = some contents at hcontents
      rw [hcontents]
      rfl
  refine ⟨⟨low, hlow, ?_, fun n => ?_⟩, hall, ?_, fun _ => ?_, ?_⟩
  · rw [hbatch]
    exact fun hne => (hend.1 hne).1
  · rw [hbatch, mem_checkpoints, hlookup n]
    by_cases hle : n ≤ b
    · rw [if_pos hle]
      refine (mem_checkpoints.symm.trans (hbetween n)).trans ⟨fun hn => ⟨hn.1, hle⟩, fun hn => ⟨hn.1, ?_⟩⟩
      exact hle.trans (hend.1 (by omega)).2
    · rw [if_neg hle]
      constructor
      · rintro ⟨contents, hnone⟩
        cases hnone
      · exact fun hn => absurd hn.2 hle
  · rw [hcurrent, hto.currentBatch]
  · rw [hcurrent, hto.currentIdx]
  · rw [hto.last, hto.cfg, hbatch, hend.2]
    cases hview : k.last with
    | none =>
      rw [hview, Option.isSome_none] at hlast
      rw [if_pos (by simpa using hlast.symm)]
      rfl
    | some view =>
      rw [hview, Option.isSome_some] at hlast
      rw [if_neg (by simpa using hlast.symm)]
      rfl

/-! ### One operation -/

theorem Sound.last_isSome (h : k.Sound made) : k.last.isSome = !k.cfg.noLast := by
  rw [h.last]
  cases k.cfg.noLast <;> rfl

theorem Sound.newKVDB (h : k.Sound made) (cfg : Config) :
    ∃ k', KVDB.newKVDB cfg k.toDirectories = .ok k' ∧ k'.Sound made ∧ k'.Restored made k.currentBatch ∧
      ∀ n, k'.checkpoints.lookup n = k.checkpoints.lookup n := by
  obtain ⟨low, hlow, hle, hbetween⟩ := h.between
  let opened : KVDB κ ν :=
    { k.toDirectories with
      cfg := cfg
      last := if cfg.noLast then none else some {}
      currentBatch := k.current.getCurrentBatch
      currentIdx := 0 }
  have hopened : opened.Between low k.currentBatch := hbetween
  have hmade : opened.toDB.All (MadeBy made) := h.checkpoints
  have hview : opened.last.isSome = !opened.cfg.noLast := by
    change (if cfg.noLast then none else some {} : Option (Contents κ ν)).isSome = !cfg.noLast
    cases cfg.noLast <;> rfl
  have hmem : k.currentBatch = 0 ∨ k.currentBatch ∈ opened.checkpoints := by
    by_cases hzero : k.currentBatch = 0
    · exact .inl hzero
    · exact .inr ((hbetween _).mpr ⟨hle hzero, le_rfl⟩)
  obtain ⟨k', hrun⟩ := hopened.reset_total hmem
  obtain ⟨db, hdb, hto⟩ := hopened.reset_ok hrun
  refine ⟨k', ?_, sound_reset hlow hopened hmade hview hrun, hto.restored hmade hdb, fun n => ?_⟩
  · rw [KVDB.newKVDB]
    dsimp only
    rw [h.batch]
    have hbatch : opened.currentBatch = k.currentBatch := h.batch
    rw [← hrun, ← hbatch]
  · rw [hto.lookup hdb n]
    by_cases hle' : n ≤ k.currentBatch
    · rw [if_pos hle']
    · rw [if_neg hle']
      symm
      rw [AList.lookup_eq_none, hbetween n]
      exact fun hn => hle' hn.2

theorem sound_new (cfg : Config) (hrun : KVDB.newKVDB cfg ({} : Directories κ ν) = .ok k) : k.Sound (fun _ => none) := by
  let opened : KVDB κ ν := { cfg, last := if cfg.noLast then none else some {}, currentBatch := 0, currentIdx := 0 }
  have hempty : opened.Between 1 0 := by
    intro n
    exact ⟨fun hmem => absurd hmem (AList.notMem_empty n), fun hn => absurd hn.1 (by omega)⟩
  refine sound_reset le_rfl hempty (fun n contents hnone => ?_) ?_ hrun
  · change (∅ : AList fun _ : Nat => Contents κ ν).lookup n = some contents at hnone
    rw [AList.lookup_empty] at hnone
    cases hnone
  · change (if cfg.noLast then none else some {} : Option (Contents κ ν)).isSome = !cfg.noLast
    cases cfg.noLast <;> rfl

theorem Sound.write [DecidableEq κ] (h : k.Sound made) (key : κ) (value : Option ν) :
    Sound made { k with current := k.current.write key value } :=
  ⟨h.between, h.checkpoints, h.batch, h.idx, h.last⟩

theorem Sound.setCurrentIdx (h : k.Sound made) (idx : Nat) : Sound made (finalState (KVDB.setCurrentIdx idx k)) := by
  cases hrun : KVDB.setCurrentIdx idx k with
  | ok _ k' =>
    obtain ⟨_, k₁, hmemory, hrest⟩ := bind_ok.mp hrun
    obtain ⟨bytes, k₂, hbytes, hput⟩ := bind_ok.mp hrest
    obtain ⟨-, rfl⟩ := fromState_ok.mp hbytes
    cases hmemory
    cases hput
    exact ⟨h.between, h.checkpoints, h.batch, fun _ => rfl, h.last⟩
  | error e k' =>
    rcases bind_error.mp hrun with hmemory | ⟨_, k₁, hmemory, hrest⟩
    · cases hmemory
    · rcases bind_error.mp hrest with hbytes | ⟨bytes, k₂, -, hput⟩
      · obtain ⟨hrefused, rfl⟩ := fromState_error.mp hbytes
        cases hmemory
        refine ⟨h.between, h.checkpoints, h.batch, fun hle => ?_, h.last⟩
        change idx ≤ maxIdxValue at hle
        rw [idxBytes_of_le hle] at hrefused
        cases hrefused
      · cases hput

theorem Sound.makeCheckpoint (h : k.Sound made) :
    ∃ k', k.makeCheckpoint = .ok k' ∧
      k'.Sound (Function.update made k'.currentBatch (some ⟨k'.current, k'.currentIdx⟩)) := by
  obtain ⟨low, hlow, hle, hbetween⟩ := h.between
  let current := { k.current with currentBatch := some (k.currentBatch + 1) }
  let checkpoints := k.checkpoints.insert (k.currentBatch + 1) current
  have hself : checkpoints.lookup (k.currentBatch + 1) = some current := AList.lookup_insert _
  have hrun : k.makeCheckpoint = .ok { k with
      currentBatch := k.currentBatch + 1
      current := current
      checkpoints := checkpoints
      last := k.last.map fun _ => current } := by
    rw [KVDB.makeCheckpoint]
    cases hlast : k.last with
    | none => rfl
    | some view =>
      dsimp only
      rw [checkpointAt]
      dsimp only
      rw [hself]
      rfl
  refine ⟨_, hrun, ⟨?_, ?_, rfl, h.idx, ?_⟩⟩
  · -- the interval grows by the new batch; an empty one starts there
    refine ⟨if k.currentBatch = 0 then 1 else low, ?_, ?_, fun n => ?_⟩
    · split <;> omega
    · intro _
      dsimp only
      split
      next hzero => omega
      next hne => exact (hle hne).trans (Nat.le_succ _)
    · dsimp only
      rw [AList.mem_insert, hbetween n]
      split
      next hzero => omega
      next hne =>
        have := hle hne
        omega
  · have hall : k.toDB.All (MadeBy (Function.update made (k.currentBatch + 1) (some ⟨current, k.currentIdx⟩))) := by
      intro n contents hn
      obtain ⟨hnumber, m, hm, heq⟩ := h.checkpoints n contents hn
      refine ⟨hnumber, m, ?_, heq⟩
      have hold := (hbetween n).mp (mem_checkpoints.mpr ⟨contents, hn⟩)
      rw [Function.update_of_ne (by omega), hm]
    have hnew := hall.checkpoint (s := current) ⟨rfl, ⟨current, k.currentIdx⟩, Function.update_self .., rfl, h.idx⟩
    intro n contents hn
    refine hnew n contents ?_
    by_cases heq : n = k.currentBatch + 1
    · subst heq
      change checkpoints.lookup _ = some contents at hn
      rw [DB.checkpoint]
      dsimp only
      rw [show Numbered.number current = k.currentBatch + 1 from rfl, Function.update_self]
      exact hself.symm.trans hn
    · rw [DB.checkpoint]
      dsimp only
      rw [show Numbered.number current = k.currentBatch + 1 from rfl, Function.update_of_ne heq]
      exact (AList.lookup_insert_ne heq).symm.trans hn
  · dsimp only
    rw [hself, h.last]
    cases k.cfg.noLast <;> rfl

theorem length_keys_of_between (h : k.Between low high) : k.checkpoints.keys.length = high + 1 - low := by
  rw [h.keys_perm.length_eq, List.length_range']

theorem Sound.deleteOldCheckpoints (h : k.Sound made) :
    ∃ k', k.deleteOldCheckpoints = .ok k' ∧ k'.Sound made ∧
      (0 < k.cfg.keep → (k'.checkpoints.keys.length : Int) ≤ k.cfg.keep) := by
  obtain ⟨low, hlow, hle, hbetween⟩ := h.between
  rw [KVDB.deleteOldCheckpoints, hbetween.listCheckpoints, except_ok_bind, List.length_range']
  by_cases hkeep : 0 < k.cfg.keep ∧ k.cfg.keep < ((k.currentBatch + 1 - low : Nat) : Int)
  · rw [if_pos hkeep]
    let new := k.currentBatch + 1 - k.cfg.keep.toNat
    have hnew : low + (k.currentBatch + 1 - low - k.cfg.keep.toNat) = new := by omega
    rw [take_range' low (Nat.sub_le _ _)]
    have hold : ∀ n ∈ List.range' low (k.currentBatch + 1 - low - k.cfg.keep.toNat), n ∈ k.checkpoints := by
      intro n hn
      rw [List.mem_range'_1] at hn
      exact (hbetween n).mpr (by omega)
    obtain ⟨k', hrun, hsame, hlookup⟩ := foldlM_deleteCheckpoint List.nodup_range' hold
    have hbetween' : k'.Between new k.currentBatch := by
      intro n
      rw [mem_checkpoints, hlookup n]
      by_cases hmem : n ∈ List.range' low (k.currentBatch + 1 - low - k.cfg.keep.toNat)
      · rw [if_pos hmem]
        rw [List.mem_range'_1] at hmem
        constructor
        · rintro ⟨contents, hnone⟩
          cases hnone
        · omega
      · rw [if_neg hmem]
        rw [List.mem_range'_1] at hmem
        refine (mem_checkpoints.symm.trans (hbetween n)).trans ?_
        omega
    have hlength := length_keys_of_between hbetween'
    have hself : k'.checkpoints.lookup k.currentBatch = k.checkpoints.lookup k.currentBatch := by
      rw [hlookup, if_neg]
      rw [List.mem_range'_1]
      omega
    refine ⟨k', hrun, ⟨?_, ?_, ?_, ?_, ?_⟩, fun _ => ?_⟩
    · rw [hsame]
      exact ⟨new, by omega, fun _ => by dsimp only; omega, hbetween'⟩
    · intro n contents hn
      change k'.checkpoints.lookup n = some contents at hn
      rw [hlookup n] at hn
      split at hn
      · cases hn
      · exact h.checkpoints n contents hn
    · rw [hsame]
      exact h.batch
    · rw [hsame]
      exact h.idx
    · rw [hsame]
      dsimp only
      rw [hself]
      exact h.last
    · omega
  · rw [if_neg hkeep]
    refine ⟨k, rfl, h, fun hpos => ?_⟩
    rw [length_keys_of_between hbetween]
    omega

theorem Reached.sound [DecidableEq κ] (h : Reached made k) : k.Sound made := by
  induction h with
  | new cfg k hrun => exact sound_new cfg hrun
  | write made k key value hk ih => exact ih.write key value
  | setCurrentIdx made k idx hk ih => exact ih.setCurrentIdx idx
  | makeCheckpoint made k k' hk hrun ih =>
    obtain ⟨k'', hrun', hsound⟩ := ih.makeCheckpoint
    cases hrun.symm.trans hrun'
    exact hsound
  | deleteOld made k k' hk hrun ih =>
    obtain ⟨k'', hrun', hsound, -⟩ := ih.deleteOldCheckpoints
    cases hrun.symm.trans hrun'
    exact hsound
  | reset made k k' batchNum hk hrun ih =>
    obtain ⟨low, hlow, -, hbetween⟩ := ih.between
    exact sound_reset hlow hbetween ih.checkpoints ih.last_isSome hrun
  | reopen made k k' cfg hk hrun ih =>
    obtain ⟨k'', hrun', hsound, -⟩ := ih.newKVDB cfg
    cases hrun.symm.trans hrun'
    exact hsound

theorem Sound.faithful (h : k.Sound made) : k.Faithful made := by
  obtain ⟨low, hlow, hle, hbetween⟩ := h.between
  refine ⟨fun b hmem => hbetween.reset_total hmem, fun b k' hrun => ?_, ?_, ⟨low, hbetween⟩, ?_, ?_, h.last, fun cfg => ?_⟩
  · obtain ⟨db, hdb, hto⟩ := hbetween.reset_ok hrun
    exact hto.restored h.checkpoints hdb
  · obtain ⟨k', hrun, -⟩ := h.makeCheckpoint
    exact ⟨k', hrun⟩
  · exact fun hne => (hbetween _).mpr ⟨hle hne, le_rfl⟩
  · obtain ⟨k', hrun, -, hlength⟩ := h.deleteOldCheckpoints
    exact ⟨k', hrun, hlength⟩
  · obtain ⟨k', hrun, -, hrestored, hlookup⟩ := h.newKVDB cfg
    exact ⟨k', hrun, hrestored, hlookup⟩

end KVDB

/-- **Checkpoints are faithful**, in every run. -/
theorem kvdb_checkpoints_faithful {κ ν : Type} [DecidableEq κ] {made : Nat → Option (KVDB.Made κ ν)} {k : KVDB κ ν}
    (h : KVDB.Reached made k) : k.Faithful made :=
  h.sound.faithful

namespace KVDB

/-- Two checkpoints with a write before each, of which one is kept. -/
def twoCheckpoints : Except String (KVDB Nat Nat) := do
  let k ← newKVDB ⟨"statedb", 1, false, false⟩ {}
  let k ← { k with current := k.current.write 7 (some 1) }.makeCheckpoint
  let k ← { k with current := k.current.write 7 (some 2) }.makeCheckpoint
  k.deleteOldCheckpoints

end KVDB

theorem kvdb_checkpoints_faithful_two :
    ∃ made k, KVDB.twoCheckpoints = .ok k ∧ k.currentBatch = 2 ∧ k.current.entries 7 = some 2 ∧
      k.checkpoints.keys.length = 1 ∧ k.Faithful made := by
  have hrun : KVDB.twoCheckpoints.map (fun k => (k.currentBatch, k.current.entries 7, k.checkpoints.keys.length)) =
      .ok (2, some 2, 1) := by
    decide +kernel
  obtain ⟨k, hk, hvalues⟩ := exists_of_map_ok hrun
  simp only [Prod.mk.injEq] at hvalues
  obtain ⟨new, hnew, hlast⟩ := except_bind_ok.mp hk
  obtain ⟨one, hone, hlast⟩ := except_bind_ok.mp hlast
  obtain ⟨two, htwo, hlast⟩ := except_bind_ok.mp hlast
  have hfirst := KVDB.Reached.makeCheckpoint _ _ one (.write _ new 7 (some 1) (.new _ new hnew)) hone
  have hsecond := KVDB.Reached.makeCheckpoint _ _ two (.write _ one 7 (some 2) hfirst) htwo
  exact ⟨_, k, hk, hvalues.1, hvalues.2.1, hvalues.2.2, kvdb_checkpoints_faithful (.deleteOld _ two k hsecond hlast)⟩

end HermezRollup
