import HermezRollup.FinmapTotal
import Mathlib.Algebra.Order.Ring.Int
import Mathlib.Tactic.LinearCombination
import Mathlib.Tactic.Ring

/-! Bookkeeping.  A book is a finite map of accounts, each with a balance that is never negative; an entry
adds to the balance of one account, which may be a new one.  Where a book is changed by entries only, every
account holds exactly what was posted to it, at the end and at every point on the way, and any weighted sum
of the balances changes by the weighted sum of the entries. -/

namespace Bookkeeping

variable {ι α : Type}

def posted (weight : ι → Int) (entries : List (ι × Int)) : Int :=
  (entries.map fun entry => weight entry.1 * entry.2).sum

@[simp] theorem posted_nil (weight : ι → Int) : posted weight [] = 0 := rfl

@[simp] theorem posted_cons (weight : ι → Int) (entry : ι × Int) (entries : List (ι × Int)) :
    posted weight (entry :: entries) = weight entry.1 * entry.2 + posted weight entries := by
  simp [posted]

@[simp] theorem posted_append (weight : ι → Int) (entries entries' : List (ι × Int)) :
    posted weight (entries ++ entries') = posted weight entries + posted weight entries' := by
  simp [posted]

variable [DecidableEq ι]

def only (i : ι) : ι → Int :=
  fun j => if j = i then 1 else 0

variable (balance : α → Nat)

/-- What an account holds; an account that does not exist holds nothing. -/
def holds (book : Finmap fun _ : ι => α) (i : ι) : Int :=
  (book.lookup i).elim 0 fun a => (balance a : Int)

/-- A weighted sum of all balances. -/
def weigh (weight : ι → Int) (book : Finmap fun _ : ι => α) : Int :=
  book.total fun i a => weight i * (balance a : Int)

/-- A book is changed by entries only: each one rewrites one account, with exactly the amount more. -/
inductive Posts : (Finmap fun _ : ι => α) → List (ι × Int) → (Finmap fun _ : ι => α) → Prop
  | nil (book : Finmap fun _ : ι => α) : Posts book [] book
  | cons {book book' : Finmap fun _ : ι => α} {i : ι} {amount : Int} {entries : List (ι × Int)} (a : α)
      (ha : (balance a : Int) = holds balance book i + amount) (hrest : Posts (book.insert i a) entries book') :
      Posts book ((i, amount) :: entries) book'

variable {balance} {book book' book'' : Finmap fun _ : ι => α} {entries entries' : List (ι × Int)}

theorem holds_of_lookup {i : ι} {a : α} (h : book.lookup i = some a) : holds balance book i = balance a := by
  rw [holds, h, Option.elim_some]

theorem holds_nonneg (book : Finmap fun _ : ι => α) (i : ι) : 0 ≤ holds balance book i := by
  rw [holds]
  cases book.lookup i with
  | none => exact Int.le_refl 0
  | some a => exact Int.natCast_nonneg _

theorem Posts.single {i : ι} {amount : Int} (a : α) (ha : (balance a : Int) = holds balance book i + amount) :
    Posts balance book [(i, amount)] (book.insert i a) :=
  .cons a ha (.nil _)

theorem Posts.append (h : Posts balance book entries book') (h' : Posts balance book' entries' book'') :
    Posts balance book (entries ++ entries') book'' := by
  induction h with
  | nil => exact h'
  | cons a ha _ ih => exact .cons a ha (ih h')

/-- Any weighted sum of the balances changes by the weighted sum of the entries. -/
theorem Posts.weigh (h : Posts balance book entries book') (weight : ι → Int) :
    weigh balance weight book' = weigh balance weight book + posted weight entries := by
  induction h with
  | nil => simp
  | @cons book book' i amount entries a ha _ ih =>
    have hinsert := Finmap.total_insert (fun j b => weight j * (balance b : Int)) book i a
    have hold : (book.lookup i).elim 0 (fun b => weight i * (balance b : Int)) = weight i * holds balance book i := by
      rw [holds]
      cases book.lookup i <;> simp
    rw [hold, ha] at hinsert
    rw [ih, posted_cons]
    simp only [Bookkeeping.weigh]
    linear_combination hinsert

theorem Posts.holds (h : Posts balance book entries book') (i : ι) :
    holds balance book' i = holds balance book i + posted (only i) entries := by
  induction h with
  | nil => simp
  | @cons book book' j amount entries a ha _ ih =>
    rw [ih, posted_cons, only]
    by_cases hij : i = j
    · subst hij
      rw [if_pos rfl, Bookkeeping.holds, Finmap.lookup_insert, Option.elim_some, ha]
      ring
    · rw [if_neg (Ne.symm hij), Bookkeeping.holds, Finmap.lookup_insert_of_ne _ hij, ← Bookkeeping.holds]
      ring

theorem Posts.mem (h : Posts balance book entries book') {i : ι} (hi : i ∈ book) : i ∈ book' := by
  induction h with
  | nil => exact hi
  | cons a ha _ ih => exact ih (Finmap.mem_insert.mpr (Or.inr hi))

theorem Posts.split (h : Posts balance book (entries ++ entries') book'') :
    ∃ book', Posts balance book entries book' ∧ Posts balance book' entries' book'' := by
  induction entries generalizing book with
  | nil => exact ⟨book, .nil book, h⟩
  | cons entry entries ih =>
    cases h with
    | cons a ha hrest =>
      obtain ⟨book', hfirst, hsecond⟩ := ih hrest
      exact ⟨book', .cons a ha hfirst, hsecond⟩

/-- **No account is ever overdrawn**: what it held at first and the entries up to any point never sum up to
a negative amount. -/
theorem Posts.running_nonneg (h : Posts balance book entries book') (hleading : entries' <+: entries) (i : ι) :
    0 ≤ Bookkeeping.holds balance book i + posted (only i) entries' := by
  obtain ⟨rest, rfl⟩ := hleading
  obtain ⟨mid, hmid, -⟩ := h.split
  rw [← hmid.holds i]
  exact holds_nonneg mid i

end Bookkeeping
