import Mathlib.Algebra.BigOperators.Group.Finset.Piecewise
import Mathlib.Algebra.Order.BigOperators.Group.Finset
import Mathlib.Data.Finmap
import Mathlib.Data.Finset.Sort
import Mathlib.Tactic.Abel

/-! Sums over the entries of a finite map, its entries in the order of their keys, and sums over all bit
vectors of a width.  Each comes with the rule for changing one entry. -/

namespace Finmap

variable {α β M : Type} [DecidableEq α]

theorem keys_insert (m : Finmap fun _ : α => β) (a : α) (b : β) : (m.insert a b).keys = Insert.insert a m.keys := by
  ext x
  rw [mem_keys, mem_insert, Finset.mem_insert, mem_keys]

section Total

variable [AddCommMonoid M] (f : α → β → M)

/-- The sum of `f` over the entries. -/
def total (m : Finmap fun _ : α => β) : M :=
  ∑ a ∈ m.keys, (m.lookup a).elim 0 (f a)

@[simp] theorem total_empty : total f ∅ = 0 := by
  rw [total, keys_empty, Finset.sum_empty]

theorem total_insert_of_notMem {m : Finmap fun _ : α => β} {a : α} (h : a ∉ m) (b : β) :
    total f (m.insert a b) = total f m + f a b := by
  have hrest : ∀ x ∈ m.keys, ((m.insert a b).lookup x).elim 0 (f x) = (m.lookup x).elim 0 (f x) := by
    intro x hx
    have hne : x ≠ a := by
      rintro rfl
      exact h (mem_keys.mp hx)
    rw [lookup_insert_of_ne _ hne]
  rw [total, keys_insert, Finset.sum_insert (fun hmem => h (mem_keys.mp hmem)), lookup_insert,
    Finset.sum_congr rfl hrest, add_comm]
  rfl

theorem total_insert (m : Finmap fun _ : α => β) (a : α) (b : β) :
    total f (m.insert a b) + (m.lookup a).elim 0 (f a) = total f m + f a b := by
  by_cases h : a ∈ m
  · have hkeys : (m.insert a b).keys = m.keys := by
      rw [keys_insert, Finset.insert_eq_of_mem (mem_keys.mpr h)]
    have hrest : ∀ x ∈ m.keys.erase a,
        ((m.insert a b).lookup x).elim 0 (f x) = (m.lookup x).elim 0 (f x) := by
      intro x hx
      rw [lookup_insert_of_ne _ (Finset.ne_of_mem_erase hx)]
    rw [total, total, hkeys, ← Finset.add_sum_erase _ _ (mem_keys.mpr h),
      ← Finset.add_sum_erase m.keys (fun x => (m.lookup x).elim 0 (f x)) (mem_keys.mpr h),
      Finset.sum_congr rfl hrest, lookup_insert]
    dsimp only [Option.elim_some]
    abel
  · rw [lookup_eq_none.mpr h, total_insert_of_notMem f h]
    exact add_zero _

theorem total_congr {f g : α → β → M} {m : Finmap fun _ : α => β}
    (h : ∀ a b, m.lookup a = some b → f a b = g a b) : total f m = total g m := by
  apply Finset.sum_congr rfl
  intro a ha
  obtain ⟨b, hb⟩ := mem_iff.mp (mem_keys.mp ha)
  rw [hb]
  exact h a b hb

end Total

theorem total_le_total {f g : α → β → Nat} (m : Finmap fun _ : α => β) (h : ∀ a b, f a b ≤ g a b) :
    total f m ≤ total g m := by
  apply Finset.sum_le_sum
  intro a _
  cases m.lookup a with
  | none => exact Nat.le_refl _
  | some b => exact h a b

theorem total_add_le_total {f g : α → β → Nat} {m : Finmap fun _ : α => β} (h : ∀ a b, f a b ≤ g a b) {a : α} {b : β}
    (hlookup : m.lookup a = some b) {x : Nat} (hx : f a b + x ≤ g a b) : total f m + x ≤ total g m := by
  have hmem : a ∈ m.keys := mem_keys.mpr (mem_of_lookup_eq_some hlookup)
  have hrest : ∑ c ∈ m.keys.erase a, (m.lookup c).elim 0 (f c) ≤ ∑ c ∈ m.keys.erase a, (m.lookup c).elim 0 (g c) := by
    apply Finset.sum_le_sum
    intro c _
    cases m.lookup c with
    | none => exact Nat.le_refl _
    | some d => exact h c d
  rw [total, total, ← Finset.add_sum_erase _ _ hmem,
    ← Finset.add_sum_erase m.keys (fun c => (m.lookup c).elim 0 (g c)) hmem, hlookup]
  dsimp only [Option.elim_some]
  omega

/-- The entries in the order of their keys. -/
def sortedEntries [LinearOrder α] (m : Finmap fun _ : α => β) : List (α × β) :=
  (m.keys.sort (· ≤ ·)).filterMap fun a => (m.lookup a).map fun b => (a, b)

theorem mem_sortedEntries [LinearOrder α] {m : Finmap fun _ : α => β} {a : α} {b : β} :
    (a, b) ∈ m.sortedEntries ↔ m.lookup a = some b := by
  rw [sortedEntries, List.mem_filterMap]
  constructor
  · rintro ⟨x, -, hx⟩
    obtain ⟨y, hy, heq⟩ := Option.map_eq_some_iff.mp hx
    cases heq
    exact hy
  · intro h
    refine ⟨a, ?_, by rw [h]; rfl⟩
    rw [Finset.mem_sort, mem_keys]
    exact mem_of_lookup_eq_some h

theorem sortedEntries_empty [LinearOrder α] : (∅ : Finmap fun _ : α => β).sortedEntries = [] := by
  simp [sortedEntries]

theorem sortedEntries_pairwise [LinearOrder α] (m : Finmap fun _ : α => β) :
    m.sortedEntries.Pairwise fun left right => left.1 ≠ right.1 := by
  refine List.Pairwise.filterMap _ ?_ (Finset.sort_nodup m.keys (· ≤ ·))
  intro a a' hne left hleft right hright
  obtain ⟨b, -, rfl⟩ := Option.map_eq_some_iff.mp hleft
  obtain ⟨b', -, rfl⟩ := Option.map_eq_some_iff.mp hright
  exact hne

/-- The keys in ascending order, by a sort that computes. -/
def ascendingKeys [LinearOrder α] (m : Finmap fun _ : α => β) : List α :=
  Quot.liftOn m.keys.val (List.insertionSort (· ≤ ·)) fun l l' h =>
    (((List.perm_insertionSort _ l).trans h).trans (List.perm_insertionSort _ l').symm).eq_of_pairwise'
      (List.pairwise_insertionSort _ l) (List.pairwise_insertionSort _ l')

end Finmap

theorem Finset.sum_apply_update {ι α M : Type} [DecidableEq ι] [AddCommMonoid M] {s : Finset ι} (f : ι → α → M)
    (g : ι → α) {k : ι} (hk : k ∈ s) (x : α) :
    (∑ i ∈ s, f i (Function.update g k x i)) + f k (g k) = (∑ i ∈ s, f i (g i)) + f k x := by
  have hrest : ∀ i ∈ s.erase k, f i (Function.update g k x i) = f i (g i) := by
    intro i hi
    rw [Function.update_of_ne (Finset.ne_of_mem_erase hi)]
  rw [← Finset.add_sum_erase s (fun i => f i (Function.update g k x i)) hk,
    ← Finset.add_sum_erase s (fun i => f i (g i)) hk, Finset.sum_congr rfl hrest, Function.update_self]
  abel

namespace BitVec

instance instFintype (w : Nat) : Fintype (BitVec w) :=
  Fintype.ofEquiv (Fin (2 ^ w)) ⟨BitVec.ofFin, BitVec.toFin, fun _ => rfl, fun _ => rfl⟩

theorem sum_apply_update {w : Nat} {α M : Type} [AddCommMonoid M] (f : BitVec w → α → M) (g : BitVec w → α)
    (k : BitVec w) (x : α) :
    (∑ i, f i (Function.update g k x i)) + f k (g k) = (∑ i, f i (g i)) + f k x :=
  Finset.sum_apply_update f g (Finset.mem_univ k) x

end BitVec
