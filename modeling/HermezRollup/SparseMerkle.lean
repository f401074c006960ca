import Mathlib.Data.List.Basic
import Mathlib.Data.Nat.Bitwise
import Mathlib.Tactic.Common

/-! Sparse Merkle trees.  A leaf sits as high as it can on the path that the bits of its key spell, least
significant bit first; an empty subtree hashes to a fixed value.  A proof is the list of siblings along
the path, from the root down.  The siblings of a leaf lead back to the root, and siblings of any length
that lead from a leaf to the root of a tree show that the tree has the leaf, if the hashes do not
collide. -/

namespace SparseMerkle

inductive Tree (α : Type) where
  | empty
  | leaf (key : Nat) (value : α)
  | node (left right : Tree α)

/-- The hash functions of a tree and the hash of an empty one. -/
structure Hashing (α : Type) where
  hashNode : α → α → α
  hashLeaf : Nat → α → α
  zero : α

structure Hashing.CollisionFree {α : Type} (H : Hashing α) : Prop where
  node_inj : ∀ {left right left' right'}, H.hashNode left right = H.hashNode left' right' →
    left = left' ∧ right = right'
  leaf_inj : ∀ {key value key' value'}, H.hashLeaf key value = H.hashLeaf key' value' → key = key' ∧ value = value'
  node_ne_leaf : ∀ left right key value, H.hashNode left right ≠ H.hashLeaf key value
  node_ne_zero : ∀ left right, H.hashNode left right ≠ H.zero
  leaf_ne_zero : ∀ key value, H.hashLeaf key value ≠ H.zero

variable {α : Type} (H : Hashing α)

namespace Tree

def hash : Tree α → α
  | empty => H.zero
  | leaf key value => H.hashLeaf key value
  | node left right => H.hashNode left.hash right.hash

/-- The leaf at the end of the path of a key, below `depth`; it may be the leaf of another key. -/
def leafAt (key : Nat) : (depth : Nat) → Tree α → Option (Nat × α)
  | _, empty => none
  | _, leaf key' value => some (key', value)
  | depth, node left right => if key.testBit depth then leafAt key (depth + 1) right else leafAt key (depth + 1) left

/-- The hashes beside the path of a key. -/
def siblings (key : Nat) : (depth : Nat) → Tree α → List α
  | _, empty => []
  | _, leaf _ _ => []
  | depth, node left right =>
    if key.testBit depth then left.hash H :: siblings key (depth + 1) right
    else right.hash H :: siblings key (depth + 1) left

end Tree

def parent (key depth : Nat) (sibling child : α) : α :=
  if key.testBit depth then H.hashNode sibling child else H.hashNode child sibling

/-- The root that siblings lead to from a node on the path of a key. -/
def climb (key : Nat) : (depth : Nat) → List α → α → α
  | _, [], child => child
  | depth, sibling :: rest, child => parent H key depth sibling (climb key (depth + 1) rest child)

theorem climb_concat (key depth : Nat) (siblings : List α) (sibling child : α) :
    climb H key depth (siblings ++ [sibling]) child =
      climb H key depth siblings (parent H key (depth + siblings.length) sibling child) := by
  induction siblings generalizing depth with
  | nil => rfl
  | cons first rest ih =>
    rw [List.cons_append, climb, climb, ih, List.length_cons, Nat.add_right_comm, Nat.add_assoc]

theorem climb_siblings {key depth : Nat} {tree : Tree α} {value : α}
    (h : tree.leafAt key depth = some (key, value)) :
    climb H key depth (tree.siblings H key depth) (H.hashLeaf key value) = tree.hash H := by
  induction tree generalizing depth with
  | empty => cases h
  | leaf key' value' =>
    cases h
    rfl
  | node left right ihleft ihright =>
    rw [Tree.leafAt] at h
    rw [Tree.siblings]
    by_cases hbit : key.testBit depth
    · rw [if_pos hbit] at h ⊢
      rw [climb, ihright h, parent, if_pos hbit, Tree.hash]
    · rw [if_neg hbit] at h ⊢
      rw [climb, ihleft h, parent, if_neg hbit, Tree.hash]

/-- Whatever siblings lead from a leaf to the root of a tree, the tree has the leaf. -/
theorem leafAt_of_climb {H : Hashing α} (hfree : H.CollisionFree) {key depth : Nat} {siblings : List α}
    {tree : Tree α} {value : α} (h : climb H key depth siblings (H.hashLeaf key value) = tree.hash H) :
    tree.leafAt key depth = some (key, value) := by
  induction siblings generalizing depth tree with
  | nil =>
    cases tree with
    | empty => exact absurd h (hfree.leaf_ne_zero _ _)
    | leaf key' value' =>
      obtain ⟨rfl, rfl⟩ := hfree.leaf_inj h
      rfl
    | node left right => exact absurd h.symm (hfree.node_ne_leaf _ _ _ _)
  | cons sibling rest ih =>
    rw [climb, parent] at h
    by_cases hbit : key.testBit depth
    · rw [if_pos hbit] at h
      cases tree with
      | empty => exact absurd h (hfree.node_ne_zero _ _)
      | leaf key' value' => exact absurd h (hfree.node_ne_leaf _ _ _ _)
      | node left right => rw [Tree.leafAt, if_pos hbit, ih (hfree.node_inj h).2]
    · rw [if_neg hbit] at h
      cases tree with
      | empty => exact absurd h (hfree.node_ne_zero _ _)
      | leaf key' value' => exact absurd h (hfree.node_ne_leaf _ _ _ _)
      | node left right => rw [Tree.leafAt, if_neg hbit, ih (hfree.node_inj h).1]

/-! ### The tree of a list of entries -/

/-- The tree of some entries at most `levels` below `depth`. -/
def build : (levels depth : Nat) → List (Nat × α) → Tree α
  | _, _, [] => .empty
  | _, _, [entry] => .leaf entry.1 entry.2
  | 0, _, _ :: _ :: _ => .empty
  | levels + 1, depth, first :: second :: rest =>
    .node (build levels (depth + 1) ((first :: second :: rest).filter fun entry => !entry.1.testBit depth))
      (build levels (depth + 1) ((first :: second :: rest).filter fun entry => entry.1.testBit depth))

theorem mem_of_leafAt_build {levels depth key : Nat} {entries : List (Nat × α)} {entry : Nat × α}
    (h : (build levels depth entries).leafAt key depth = some entry) : entry ∈ entries := by
  induction levels generalizing depth entries with
  | zero =>
    match entries with
    | [] => cases h
    | [only] =>
      cases h
      exact List.mem_singleton.mpr rfl
    | _ :: _ :: _ => cases h
  | succ levels ih =>
    match entries with
    | [] => cases h
    | [only] =>
      cases h
      exact List.mem_singleton.mpr rfl
    | first :: second :: rest =>
      rw [build, Tree.leafAt] at h
      split at h
      · exact List.mem_of_mem_filter (ih h)
      · exact List.mem_of_mem_filter (ih h)

/-- Entries with different keys are all found, if the keys fit in the levels. -/
theorem leafAt_build {levels depth : Nat} {entries : List (Nat × α)}
    (hkeys : entries.Pairwise fun left right => left.1 ≠ right.1)
    (hpath : ∀ left ∈ entries, ∀ right ∈ entries, left.1 % 2 ^ depth = right.1 % 2 ^ depth)
    (hfits : ∀ entry ∈ entries, entry.1 < 2 ^ (depth + levels)) {entry : Nat × α} (hmem : entry ∈ entries) :
    (build levels depth entries).leafAt entry.1 depth = some entry := by
  induction levels generalizing depth entries with
  | zero =>
    match entries with
    | [only] =>
      obtain rfl := List.mem_singleton.mp hmem
      rfl
    | first :: second :: rest =>
      -- two keys on one path of full length are equal
      simp only [Nat.add_zero] at hfits
      have hsame := hpath first (by simp) second (by simp)
      rw [Nat.mod_eq_of_lt (hfits first (by simp)), Nat.mod_eq_of_lt (hfits second (by simp))] at hsame
      exact absurd hsame (List.rel_of_pairwise_cons hkeys (by simp))
  | succ levels ih =>
    match entries with
    | [only] =>
      obtain rfl := List.mem_singleton.mp hmem
      rfl
    | first :: second :: rest =>
      have hlonger : ∀ left ∈ first :: second :: rest, ∀ right ∈ first :: second :: rest,
          left.1.testBit depth = right.1.testBit depth →
            left.1 % 2 ^ (depth + 1) = right.1 % 2 ^ (depth + 1) := by
        intro left hleft right hright hbit
        rw [Nat.mod_pow_succ, Nat.mod_pow_succ, hpath left hleft right hright]
        rw [Nat.testBit_eq_decide_div_mod_eq, Nat.testBit_eq_decide_div_mod_eq, decide_eq_decide] at hbit
        have : left.1 / 2 ^ depth % 2 = right.1 / 2 ^ depth % 2 := by omega
        rw [this]
      have hfits' : ∀ entry ∈ first :: second :: rest, entry.1 < 2 ^ (depth + 1 + levels) := by
        intro entry hentry
        rw [Nat.add_right_comm, Nat.add_assoc]
        exact hfits entry hentry
      rw [build, Tree.leafAt]
      by_cases hbit : entry.1.testBit depth
      · rw [if_pos hbit]
        apply ih (hkeys.filter _)
        · intro left hleft right hright
          obtain ⟨hleft, hleftBit⟩ := List.mem_filter.mp hleft
          obtain ⟨hright, hrightBit⟩ := List.mem_filter.mp hright
          exact hlonger left hleft right hright (hleftBit.trans hrightBit.symm)
        · exact fun other hother => hfits' other (List.mem_of_mem_filter hother)
        · exact List.mem_filter.mpr ⟨hmem, hbit⟩
      · rw [if_neg hbit]
        apply ih (hkeys.filter _)
        · intro left hleft right hright
          obtain ⟨hleft, hleftBit⟩ := List.mem_filter.mp hleft
          obtain ⟨hright, hrightBit⟩ := List.mem_filter.mp hright
          rw [Bool.not_eq_true'] at hleftBit hrightBit
          exact hlonger left hleft right hright (hleftBit.trans hrightBit.symm)
        · exact fun other hother => hfits' other (List.mem_of_mem_filter hother)
        · exact List.mem_filter.mpr ⟨hmem, by simpa using hbit⟩

/-! ### Libraries of trees -/

/-- What a library computes for the leaves of a tree, each a key and a value, and what is assumed of it. -/
structure Trees (levels : Nat) where
  root : List (Nat × α) → α
  siblings : List (Nat × α) → Nat → List α
  root_nil : root [] = H.zero
  root_cons : ∀ leaf leaves, (∃ key value, root (leaf :: leaves) = H.hashLeaf key value) ∨
    ∃ left right, root (leaf :: leaves) = H.hashNode left right
  climb_siblings : ∀ {leaves}, (leaves.Pairwise fun left right => left.1 ≠ right.1) →
    (∀ leaf ∈ leaves, leaf.1 < 2 ^ levels) → ∀ {leaf}, leaf ∈ leaves →
      climb H leaf.1 0 (siblings leaves leaf.1) (H.hashLeaf leaf.1 leaf.2) = root leaves

/-- The trees above are such a library. -/
def Trees.built (levels : Nat) : Trees H (levels + 1) where
  root leaves := (build (levels + 1) 0 leaves).hash H
  siblings leaves key := (build (levels + 1) 0 leaves).siblings H key 0
  root_nil := rfl
  root_cons := by
    rintro leaf (_ | ⟨second, rest⟩)
    · exact .inl ⟨_, _, rfl⟩
    · exact .inr ⟨_, _, rfl⟩
  climb_siblings := by
    intro leaves hkeys hfits leaf hmem
    rw [← Nat.zero_add (levels + 1)] at hfits
    exact SparseMerkle.climb_siblings H (leafAt_build hkeys (fun _ _ _ _ => by simp [Nat.mod_one]) hfits hmem)

end SparseMerkle
