import Mathlib.Data.List.Nodup
import Mathlib.Logic.Function.Basic
import Mathlib.Tactic.Common

/-! A queue of buckets.  Elements are appended to the bucket at `tail`, which moves on when the bucket is
full; the bucket at `head` is taken out as a whole, and `head` never catches up with `tail`.  A history
keeps, besides the queue, what was pushed, what was popped and where each element was put; over every
history nothing is lost, duplicated or reordered. -/

structure BucketQueue (α : Type) where
  head : Nat
  tail : Nat
  bucket : Nat → List α

namespace BucketQueue

variable {α : Type} (capacity : Nat)

def empty : BucketQueue α where
  head := 0
  tail := 1
  bucket := fun _ => []

def push (q : BucketQueue α) (x : α) : BucketQueue α where
  head := q.head
  tail := if capacity ≤ (q.bucket q.tail).length + 1 then q.tail + 1 else q.tail
  bucket := Function.update q.bucket q.tail (q.bucket q.tail ++ [x])

def pop (q : BucketQueue α) : BucketQueue α where
  head := q.head + 1
  tail := if q.head + 1 = q.tail then q.tail + 1 else q.tail
  bucket := Function.update q.bucket q.head []

def stored (q : BucketQueue α) : List α :=
  (List.range' q.head (q.tail + 1 - q.head)).flatMap q.bucket

/-- Buckets outside the window are empty, full buckets lie before `tail`. -/
structure Valid (q : BucketQueue α) : Prop where
  head_lt_tail : q.head < q.tail
  outside : ∀ i, i < q.head ∨ q.tail < i → q.bucket i = []
  bounded : ∀ i, (q.bucket i).length ≤ capacity
  room : (q.bucket q.tail).length < capacity

variable {capacity}

theorem valid_empty (hcapacity : 0 < capacity) : (empty : BucketQueue α).Valid capacity where
  head_lt_tail := Nat.zero_lt_one
  outside := fun _ _ => rfl
  bounded := fun _ => Nat.zero_le _
  room := hcapacity

variable {q : BucketQueue α}

theorem Valid.push (hvalid : q.Valid capacity) (hcapacity : 0 < capacity) (x : α) :
    (q.push capacity x).Valid capacity := by
  have hroom := hvalid.room
  refine ⟨?_, ?_, ?_, ?_⟩
  · have := hvalid.head_lt_tail
    simp only [BucketQueue.push]
    split <;> omega
  · intro i hi
    have hne : i ≠ q.tail := by
      have := hvalid.head_lt_tail
      simp only [BucketQueue.push] at hi
      split at hi <;> omega
    simp only [BucketQueue.push, Function.update_of_ne hne]
    apply hvalid.outside
    simp only [BucketQueue.push] at hi
    split at hi <;> omega
  · intro i
    rcases eq_or_ne i q.tail with rfl | hne
    · simp only [BucketQueue.push, Function.update_self, List.length_append, List.length_singleton]
      omega
    · simpa only [BucketQueue.push, Function.update_of_ne hne] using hvalid.bounded i
  · simp only [BucketQueue.push]
    split
    · rw [Function.update_of_ne (by omega), hvalid.outside _ (Or.inr (Nat.lt_succ_self _))]
      exact hcapacity
    · simp only [Function.update_self, List.length_append, List.length_singleton]
      omega

theorem Valid.pop (hvalid : q.Valid capacity) (hcapacity : 0 < capacity) :
    q.pop.Valid capacity := by
  have hlt := hvalid.head_lt_tail
  have hempty : ∀ i, q.bucket i = [] → Function.update q.bucket q.head [] i = [] := by
    intro i hi
    rcases eq_or_ne i q.head with rfl | hne
    · exact Function.update_self _ _ _
    · rwa [Function.update_of_ne hne]
  refine ⟨?_, ?_, ?_, ?_⟩
  · simp only [BucketQueue.pop]
    split <;> omega
  · intro i hi
    rcases eq_or_ne i q.head with rfl | hne
    · exact Function.update_self _ _ _
    · simp only [BucketQueue.pop] at hi ⊢
      apply hempty
      apply hvalid.outside
      split at hi <;> omega
  · intro i
    rcases eq_or_ne i q.head with rfl | hne
    · simp [BucketQueue.pop]
    · simpa only [BucketQueue.pop, Function.update_of_ne hne] using hvalid.bounded i
  · simp only [BucketQueue.pop]
    split
    · rw [hempty _ (hvalid.outside _ (Or.inr (Nat.lt_succ_self _)))]
      exact hcapacity
    · rw [Function.update_of_ne (by omega)]
      exact hvalid.room

/-! ### What is stored -/

theorem flatMap_update_of_lt (bucket : Nat → List α) (i : Nat) (xs : List α) {start count : Nat}
    (h : i < start ∨ start + count ≤ i) :
    (List.range' start count).flatMap (Function.update bucket i xs) = (List.range' start count).flatMap bucket := by
  apply List.flatMap_congr
  intro j hj
  rw [List.mem_range'_1] at hj
  rw [Function.update_of_ne (by omega)]

theorem stored_push (hvalid : q.Valid capacity) (x : α) :
    (q.push capacity x).stored = q.stored ++ [x] := by
  have hlt := hvalid.head_lt_tail
  have hlast : (List.range' q.head (q.tail + 1 - q.head)).flatMap (Function.update q.bucket q.tail
      (q.bucket q.tail ++ [x])) = q.stored ++ [x] := by
    rw [stored, show q.tail + 1 - q.head = (q.tail - q.head) + 1 by omega, List.range'_1_concat,
      List.flatMap_append, List.flatMap_append, flatMap_update_of_lt _ _ _ (by omega),
      show q.head + (q.tail - q.head) = q.tail by omega]
    simp
  by_cases hfull : capacity ≤ (q.bucket q.tail).length + 1
  · have htail : (q.push capacity x).tail = q.tail + 1 := if_pos hfull
    rw [stored, htail, show q.tail + 1 + 1 - (q.push capacity x).head = (q.tail + 1 - q.head) + 1 by
        simp only [BucketQueue.push]; omega, List.range'_1_concat, List.flatMap_append]
    simp only [BucketQueue.push]
    rw [hlast, show q.head + (q.tail + 1 - q.head) = q.tail + 1 by omega]
    simp [Function.update_of_ne, hvalid.outside]
  · have htail : (q.push capacity x).tail = q.tail := if_neg hfull
    rw [stored, htail]
    exact hlast

theorem stored_pop (hvalid : q.Valid capacity) :
    q.stored = q.bucket q.head ++ q.pop.stored := by
  have hlt := hvalid.head_lt_tail
  have hrest : (List.range' (q.head + 1) (q.tail - q.head)).flatMap (Function.update q.bucket q.head []) =
      (List.range' (q.head + 1) (q.tail - q.head)).flatMap q.bucket :=
    flatMap_update_of_lt _ _ _ (by omega)
  rw [stored, show q.tail + 1 - q.head = (q.tail - q.head) + 1 by omega, List.range'_succ, List.flatMap_cons,
    ← hrest]
  congr 1
  by_cases hnext : q.head + 1 = q.tail
  · have htail : q.pop.tail = q.tail + 1 := if_pos hnext
    rw [stored, htail, show q.tail + 1 + 1 - q.pop.head = (q.tail - q.head) + 1 by
        simp only [BucketQueue.pop]; omega, List.range'_1_concat, List.flatMap_append]
    simp only [BucketQueue.pop]
    rw [show q.head + 1 + (q.tail - q.head) = q.tail + 1 by omega]
    simp [Function.update_of_ne (show q.tail + 1 ≠ q.head by omega), hvalid.outside]
  · have htail : q.pop.tail = q.tail := if_neg hnext
    rw [stored, htail, show q.tail + 1 - q.pop.head = q.tail - q.head by simp only [BucketQueue.pop]; omega]
    rfl

/-! ### Histories -/

/-- A queue with everything that ever went through it: the elements pushed, the buckets popped, and
the bucket and position each element was put at. -/
structure History (α : Type) where
  queue : BucketQueue α
  pushed : List α
  popped : List (List α)
  places : List (Nat × Nat)

namespace History

def start : History α where
  queue := BucketQueue.empty
  pushed := []
  popped := []
  places := []

def push (capacity : Nat) (h : History α) (x : α) : History α where
  queue := h.queue.push capacity x
  pushed := h.pushed ++ [x]
  popped := h.popped
  places := h.places ++ [(h.queue.tail, (h.queue.bucket h.queue.tail).length)]

def pop (h : History α) : History α where
  queue := h.queue.pop
  pushed := h.pushed
  popped := h.popped ++ [h.queue.bucket h.queue.head]
  places := h.places

def contents (h : History α) (i : Nat) : List α :=
  (h.popped[i]?).getD (h.queue.bucket i)

/-- Nothing is lost, duplicated or reordered, and every element is where it was put. -/
structure Valid (capacity : Nat) (h : History α) : Prop where
  queue : h.queue.Valid capacity
  popped_length : h.popped.length = h.queue.head
  pushed_eq : h.pushed = h.popped.flatten ++ h.queue.stored
  places_length : h.places.length = h.pushed.length
  placed : ∀ entry ∈ h.places.zip h.pushed, (h.contents entry.1.1)[entry.1.2]? = some entry.2
  places_nodup : h.places.Nodup

theorem valid_start (hcapacity : 0 < capacity) : (start : History α).Valid capacity where
  queue := valid_empty hcapacity
  popped_length := rfl
  pushed_eq := rfl
  places_length := rfl
  placed := by intro entry hentry; cases hentry
  places_nodup := List.nodup_nil

variable {h : History α}

theorem contents_tail (hvalid : h.Valid capacity) :
    h.contents h.queue.tail = h.queue.bucket h.queue.tail := by
  have hlt := hvalid.queue.head_lt_tail
  rw [contents, List.getElem?_eq_none (by rw [hvalid.popped_length]; omega), Option.getD_none]

theorem contents_push (hvalid : h.Valid capacity) (x : α) (i : Nat) :
    (h.push capacity x).contents i = if i = h.queue.tail then h.contents i ++ [x] else h.contents i := by
  split
  next heq =>
    subst heq
    have hlt := hvalid.queue.head_lt_tail
    rw [contents_tail hvalid, contents, List.getElem?_eq_none (by simp only [push, hvalid.popped_length]; omega)]
    simp [push, BucketQueue.push]
  next hne => simp [contents, push, BucketQueue.push, Function.update_of_ne hne]

theorem contents_pop (hvalid : h.Valid capacity) (i : Nat) : h.pop.contents i = h.contents i := by
  have hlength := hvalid.popped_length
  rcases Nat.lt_trichotomy i h.queue.head with hlt | rfl | hgt
  · rw [contents, contents, pop, List.getElem?_append_left (by omega), List.getElem?_eq_getElem (by omega)]
    rfl
  · have hnew : h.pop.popped[h.queue.head]? = some (h.queue.bucket h.queue.head) := by
      simp only [pop, ← hlength, List.getElem?_concat_length]
    rw [contents, contents, hnew, List.getElem?_eq_none (by omega)]
    rfl
  · rw [contents, contents, pop, List.getElem?_eq_none (by simp; omega), List.getElem?_eq_none (by omega)]
    simp [BucketQueue.pop, Function.update_of_ne (show i ≠ h.queue.head by omega)]

theorem Valid.push (hvalid : h.Valid capacity) (hcapacity : 0 < capacity) (x : α) :
    (h.push capacity x).Valid capacity where
  queue := hvalid.queue.push hcapacity x
  popped_length := hvalid.popped_length
  pushed_eq := by
    simp only [History.push]
    rw [hvalid.pushed_eq, stored_push hvalid.queue, List.append_assoc]
  places_length := by simp [History.push, hvalid.places_length]
  placed := by
    intro entry hentry
    simp only [History.push] at hentry
    rw [List.zip_append hvalid.places_length, List.mem_append] at hentry
    rw [contents_push hvalid]
    rcases hentry with hold | hnew
    · have hplaced := hvalid.placed entry hold
      split
      · rw [List.getElem?_append_left (List.getElem?_eq_some_iff.mp hplaced).1]
        exact hplaced
      · exact hplaced
    · obtain rfl := List.mem_singleton.mp hnew
      rw [if_pos rfl, contents_tail hvalid]
      simp
  places_nodup := by
    simp only [History.push]
    refine List.Nodup.append hvalid.places_nodup (List.nodup_singleton _) ?_
    intro place hplace hnew
    obtain rfl := List.mem_singleton.mp hnew
    -- an older element at this place would lie behind the end of its bucket
    rw [← List.map_fst_zip (Nat.le_of_eq hvalid.places_length)] at hplace
    obtain ⟨entry, hentry, hfst⟩ := List.mem_map.mp hplace
    have hplaced := hvalid.placed entry hentry
    rw [hfst, contents_tail hvalid, List.getElem?_eq_none (Nat.le_refl _)] at hplaced
    cases hplaced

theorem Valid.pop (hvalid : h.Valid capacity) (hcapacity : 0 < capacity) :
    h.pop.Valid capacity where
  queue := hvalid.queue.pop hcapacity
  popped_length := by simp [History.pop, BucketQueue.pop, hvalid.popped_length]
  pushed_eq := by
    simp only [History.pop, List.flatten_append, List.flatten_singleton, List.append_assoc]
    rw [hvalid.pushed_eq, stored_pop hvalid.queue]
  places_length := hvalid.places_length
  placed := by
    intro entry hentry
    rw [contents_pop hvalid]
    exact hvalid.placed entry hentry
  places_nodup := hvalid.places_nodup

end History

end BucketQueue
