import Mathlib.Data.List.Basic

/-! Lists of slots that are filled from left to right.  A row of entries is written from some slot on; an
entry may leave its slot as it is, and entries behind the last slot are dropped. -/

namespace Slots

variable {α β : Type}

/-- Write entries into the slots from `k` on. -/
def fill (slots : List α) (k : Nat) (entries : List (Option α)) : List α :=
  slots.mapIdx fun i x => if k ≤ i then (entries[i - k]?.join).getD x else x

@[simp] theorem length_fill (slots : List α) (k : Nat) (entries : List (Option α)) :
    (fill slots k entries).length = slots.length := by
  rw [fill, List.length_mapIdx]

theorem getElem?_fill (slots : List α) (k : Nat) (entries : List (Option α)) (i : Nat) :
    (fill slots k entries)[i]? = slots[i]?.map fun x => if k ≤ i then (entries[i - k]?.join).getD x else x := by
  rw [fill, List.getElem?_mapIdx]

@[simp] theorem fill_nil (slots : List α) (k : Nat) : fill slots k [] = slots := by
  refine List.ext_getElem? fun i => ?_
  simp [getElem?_fill]

theorem fill_append (slots : List α) (k : Nat) (entries entries' : List (Option α)) :
    fill (fill slots k entries) (k + entries.length) entries' = fill slots k (entries ++ entries') := by
  refine List.ext_getElem? fun i => ?_
  rw [getElem?_fill, getElem?_fill, getElem?_fill, Option.map_map]
  congr 1
  funext x
  rw [Function.comp]
  by_cases hk : k ≤ i
  · by_cases hlt : i - k < entries.length
    · rw [if_neg (by omega), if_pos hk, if_pos hk, List.getElem?_append_left hlt]
    · rw [if_pos (by omega), if_pos hk, if_pos hk, List.getElem?_append_right (by omega),
        List.getElem?_eq_none (by omega : entries.length ≤ i - k), Nat.sub_sub]
      rfl
  · rw [if_neg (by omega), if_neg hk, if_neg hk]

theorem fill_fill (slots : List α) {k : Nat} {entries : List (Option α)} (hk : k = entries.length)
    (entries' : List (Option α)) : fill (fill slots 0 entries) k entries' = fill slots 0 (entries ++ entries') := by
  rw [← fill_append, Nat.zero_add, hk]

theorem fill_singleton (slots : List α) (k : Nat) (x : α) : fill slots k [some x] = slots.set k x := by
  refine List.ext_getElem? fun i => ?_
  rw [getElem?_fill, List.getElem?_set]
  by_cases hki : k = i
  · subst hki
    by_cases hlt : k < slots.length
    · simp [hlt]
    · simp [hlt]
  · rw [if_neg hki]
    by_cases hk : k ≤ i
    · have hnone : ([some x] : List (Option α))[i - k]? = none := List.getElem?_eq_none (by simp; omega)
      simp [hnone]
    · simp [hk]

theorem fill_none (slots : List α) (k : Nat) : fill slots k [none] = slots := by
  refine List.ext_getElem? fun i => ?_
  rw [getElem?_fill]
  cases h : i - k <;> simp

theorem fill_cons (slots : List α) (k : Nat) (entry : Option α) (entries : List (Option α)) :
    fill slots k (entry :: entries) = fill (fill slots k [entry]) (k + 1) entries := by
  rw [← List.singleton_append, ← fill_append]
  rfl

theorem getElem?_fill_some {slots : List α} {k i : Nat} {entries : List (Option α)} {x : α} (hi : i < slots.length)
    (hk : k ≤ i) (h : entries[i - k]? = some (some x)) : (fill slots k entries)[i]? = some x := by
  rw [getElem?_fill, List.getElem?_eq_getElem hi, Option.map_some, if_pos hk, h]
  rfl

theorem getElem?_fill_none {slots : List α} {k i : Nat} {entries : List (Option α)}
    (h : i < k ∨ entries[i - k]? = some none) : (fill slots k entries)[i]? = slots[i]? := by
  rw [getElem?_fill]
  rcases h with hlt | hnone
  · simp [Nat.not_le.mpr hlt]
  · simp [hnone]

/-- The entries of a row of values, which may depend on the slot. -/
def rows (f : Nat → β → Option α) (k : Nat) (xs : List β) : List (Option α) :=
  xs.mapIdx fun j x => f (k + j) x

@[simp] theorem rows_nil (f : Nat → β → Option α) (k : Nat) : rows f k [] = [] := rfl

theorem rows_cons (f : Nat → β → Option α) (k : Nat) (x : β) (xs : List β) :
    rows f k (x :: xs) = f k x :: rows f (k + 1) xs := by
  rw [rows, rows, List.mapIdx_cons, Nat.add_zero]
  simp only [Nat.add_assoc, Nat.add_comm 1]

theorem getElem?_rows (f : Nat → β → Option α) (k : Nat) (xs : List β) (i : Nat) :
    (rows f k xs)[i]? = xs[i]?.map (f (k + i)) := by
  rw [rows, List.getElem?_mapIdx]

end Slots
