import HermezRollup.SdkFees

/-! The largest amount that an account can send and still pay a minimum fee (`getMaxAmountFromMinimumFee` of
`hermezjs/src/tx-utils.js`).

The next amount is what the balance leaves after the fee of the last one.  The index of the fee never grows along
these amounts, and while it stays the same, neighbours close in on each other from alternating sides. -/

namespace HermezRollup

/-- The fee that an amount pays when it has to be at least `minimumFee`. -/
def feeToPay (minimumFee amount : Nat) : Nat :=
  getFeeValue (getFeeIndex minimumFee amount) amount

/-- How the loop of `getMaxAmountFromMinimumFee` is left: with a fee that takes the whole amount, with the best remainder
once more, or at `i === 100`. -/
inductive LoopExit where
  | noAmount
  | sameRemainder
  | gaveUp
  deriving DecidableEq

/-- The loop of `getMaxAmountFromMinimumFee`, for at most the given number of rounds.  The amount is never above the
balance, so that no difference is negative. -/
def maxAmountLoop (minimumFee balance : Nat) : Nat → Nat → Nat → Nat → Option (LoopExit × Nat)
  | 0, _, _, _ => none
  | rounds + 1, maxAmount, bestRemainingAmount, i =>
    let feeIndex := getFeeIndex minimumFee maxAmount
    let fee := getFeeValue feeIndex maxAmount
    if maxAmount ≤ fee then some (.noAmount, 0)
    else
      let amountAndFee := maxAmount + fee
      if balance < amountAndFee then maxAmountLoop minimumFee balance rounds (balance - fee) bestRemainingAmount i
      else
        let remainingAmount := balance - amountAndFee
        if remainingAmount = bestRemainingAmount then some (.sameRemainder, maxAmount)
        else
          let bestRemainingAmount :=
            if remainingAmount < bestRemainingAmount then remainingAmount else bestRemainingAmount
          -- If it doesn't converge in 100 iterations, return
          if i = 100 then some (.gaveUp, maxAmount + remainingAmount)
          else maxAmountLoop minimumFee balance rounds (maxAmount + remainingAmount) bestRemainingAmount (i + 1)

/-- The amount after `amount`. -/
def nextAmount (minimumFee balance amount : Nat) : Nat :=
  balance - feeToPay minimumFee amount

variable {m B : Nat}

theorem maxAmountLoop_succ (m B rounds a best i : Nat) :
    maxAmountLoop m B (rounds + 1) a best i =
      if a ≤ feeToPay m a then some (.noAmount, 0)
      else if B < a + feeToPay m a then maxAmountLoop m B rounds (nextAmount m B a) best i
      else if B - (a + feeToPay m a) = best then some (.sameRemainder, a)
      else if i = 100 then some (.gaveUp, nextAmount m B a)
      else maxAmountLoop m B rounds (nextAmount m B a) (min (B - (a + feeToPay m a)) best) (i + 1) := by
  rw [maxAmountLoop]
  by_cases hover : B < a + feeToPay m a
  · simp only [← feeToPay.eq_1, hover, if_true, nextAmount]
  · have hnext : a + (B - (a + feeToPay m a)) = nextAmount m B a := by
      rw [nextAmount]
      omega
    have hbest : (if B - (a + feeToPay m a) < best then B - (a + feeToPay m a) else best) =
        min (B - (a + feeToPay m a)) best := by
      split <;> omega
    simp only [← feeToPay.eq_1, hover, if_false, hnext, hbest]

variable {a best i rounds : Nat}

variable {r : LoopExit × Nat}

/-- The ways a round can lead to a result. -/
inductive RoundOutcome (m B rounds a best i : Nat) (r : LoopExit × Nat) : Prop
  | nothing (hr : r = (.noAmount, 0))
  | over (hover : B < a + feeToPay m a) (hless : nextAmount m B a < a)
      (hloop : maxAmountLoop m B rounds (nextAmount m B a) best i = some r)
  | same (hunder : a + feeToPay m a ≤ B) (hr : r = (.sameRemainder, a))
  | gaveUp (hunder : a + feeToPay m a ≤ B) (hbest : B - (a + feeToPay m a) ≠ best) (hi : i = 100)
      (hr : r = (.gaveUp, nextAmount m B a))
  | under (hunder : a + feeToPay m a ≤ B) (hbest : B - (a + feeToPay m a) ≠ best) (hi : i ≠ 100)
      (hloop : maxAmountLoop m B rounds (nextAmount m B a) (min (B - (a + feeToPay m a)) best) (i + 1) = some r)

theorem roundOutcome (h : maxAmountLoop m B (rounds + 1) a best i = some r) :
    RoundOutcome m B rounds a best i r := by
  rw [maxAmountLoop_succ] at h
  split at h
  · exact .nothing (Option.some.inj h).symm
  split at h
  case isTrue hpositive hover =>
    refine .over hover ?_ h
    rw [nextAmount]
    omega
  case isFalse hover =>
    have hunder := Nat.le_of_not_lt hover
    split at h
    · exact .same hunder (Option.some.inj h).symm
    split at h
    · exact .gaveUp hunder ‹_› ‹_› (Option.some.inj h).symm
    · exact .under hunder ‹_› ‹_› h

theorem index_le_of_pays (hm : 0 < m) {j : Nat} (hj : j ≤ 255) (hpays : m ≤ getFeeValue j a) :
    getFeeIndex m a ≤ j ∧ m ≤ feeToPay m a := by
  obtain ⟨i, hindex, hi⟩ := getFeeIndex_spec hm a
  have hlt : i < j := by
    by_contra hle
    exact absurd (hi.below j (by omega)) (by omega)
  rw [feeToPay, hindex]
  refine ⟨hlt, ?_⟩
  rcases hi.pays with hpays' | hlast
  · exact hpays'
  · rwa [hlast, show 255 = j by omega]

theorem index_antitone (hm : 0 < m) {a' : Nat} (ha : a ≤ a') (hpays : m ≤ feeToPay m a) :
    getFeeIndex m a' ≤ getFeeIndex m a := by
  obtain ⟨i, hindex, hi⟩ := getFeeIndex_spec hm a
  have hlast : getFeeIndex m a ≤ 255 := hindex ▸ hi.le_last
  exact (index_le_of_pays hm hlast (hpays.trans (getFeeValue_mono (Nat.le_refl _) hlast ha))).1

theorem scaledFactor_le_of_le {s : Nat} (hs : s ≤ 161) : 20 * scaledFactor s ≤ 7 * 2 ^ 60 :=
  (Nat.mul_le_mul_left 20 (scaledFactor_mono hs (by decide))).trans (by decide +kernel)

theorem getFeeValue_sub_lt (s : Nat) {a' : Nat} (ha : a ≤ a') :
    2 ^ 60 * getFeeValue s a' < 2 ^ 60 * getFeeValue s a + (a' - a) * scaledFactor s + 2 ^ 60 := by
  rw [getFeeValue_eq, getFeeValue_eq]
  have hfloor := Nat.mul_div_le (a' * scaledFactor s) (2 ^ 60)
  have hceil := Nat.lt_mul_div_succ (a * scaledFactor s) (show 0 < 2 ^ 60 by decide)
  have hsplit : a' * scaledFactor s = a * scaledFactor s + (a' - a) * scaledFactor s := by
    rw [← Nat.add_mul, Nat.add_sub_cancel' ha]
  omega

/-- How far two neighbouring amounts may be apart to be at most 1 apart after `k` rounds, where a round shortens a
distance to less than 7/20 of it, plus 1. -/
def reach : Nat → Nat
  | 0 => 1
  | k + 1 => reach k * 20 / 7

theorem getFeeValue_sub_le_reach {s : Nat} (hs : s ≤ 161) {a' k : Nat} (ha : a ≤ a') (hreach : a' - a ≤ reach k) :
    getFeeValue s a' ≤ getFeeValue s a + reach (k - 1) := by
  have hfactor := scaledFactor_le_of_le hs
  have hlt := getFeeValue_sub_lt s ha
  have hscaled : 20 * ((a' - a) * scaledFactor s) ≤ 7 * 2 ^ 60 * (a' - a) := by
    calc 20 * ((a' - a) * scaledFactor s) = (a' - a) * (20 * scaledFactor s) := by ring
      _ ≤ (a' - a) * (7 * 2 ^ 60) := Nat.mul_le_mul_left _ hfactor
      _ = 7 * 2 ^ 60 * (a' - a) := by ring
  have hshorter : 7 * (a' - a) ≤ 20 * reach (k - 1) := by
    cases k with
    | zero =>
      rw [reach] at hreach ⊢
      omega
    | succ k =>
      rw [reach] at hreach
      rw [Nat.add_sub_cancel]
      omega
  omega

theorem getFeeValue_sub_le {s : Nat} (hs : s ≤ 161) {a' : Nat} (ha : a ≤ a') :
    getFeeValue s a' ≤ getFeeValue s a + (a' - a) := by
  have hfactor := scaledFactor_le_of_le hs
  have hlt := getFeeValue_sub_lt s ha
  have hscaled : (a' - a) * scaledFactor s ≤ (a' - a) * 2 ^ 60 := Nat.mul_le_mul_left _ (by omega)
  omega

/-- What holds of every amount the loop looks at after the balance itself. -/
structure Visited (m B a : Nat) : Prop where
  pays : m ≤ feeToPay m a
  leaves : a + m ≤ B
  index : getFeeIndex m a ≤ 161

/-- **The index never grows.** -/
theorem Visited.next (hm : 0 < m) (h : Visited m B a) :
    Visited m B (nextAmount m B a) ∧ getFeeIndex m (nextAmount m B a) ≤ getFeeIndex m a := by
  have hpays := h.pays
  have hleaves := h.leaves
  have hlower : a - (feeToPay m a - m) ≤ nextAmount m B a := by
    rw [nextAmount]
    omega
  have hshift : feeToPay m a ≤ getFeeValue (getFeeIndex m a) (a - (feeToPay m a - m)) + (a - (a - (feeToPay m a - m))) :=
    getFeeValue_sub_le h.index (Nat.sub_le _ _)
  have hindex : getFeeIndex m a ≤ 255 := h.index.trans (by decide)
  have hstill : m ≤ getFeeValue (getFeeIndex m a) (nextAmount m B a) := by
    have hmono := getFeeValue_mono (Nat.le_refl _) hindex hlower
    omega
  obtain ⟨hle, hpays'⟩ := index_le_of_pays hm hindex hstill
  refine ⟨⟨hpays', ?_, hle.trans h.index⟩, hle⟩
  rw [nextAmount]
  omega

/-- From here on the index stays the same, and the next amount is within `reach k`. -/
structure Settling (m B a k : Nat) : Prop where
  visited : Visited m B a
  index : getFeeIndex m (nextAmount m B a) = getFeeIndex m a
  below : nextAmount m B a ≤ a + reach k
  above : a ≤ nextAmount m B a + reach k

theorem nextAmount_of_index {a' : Nat} (hindex : getFeeIndex m a' = getFeeIndex m a) :
    nextAmount m B a' = B - getFeeValue (getFeeIndex m a) a' := by
  rw [nextAmount, feeToPay, hindex]

theorem Settling.turns {k : Nat} (h : Settling m B a k) :
    (a ≤ nextAmount m B a → a ≤ nextAmount m B (nextAmount m B a) ∧
      nextAmount m B (nextAmount m B a) ≤ nextAmount m B a) ∧
    (nextAmount m B a ≤ a → nextAmount m B a ≤ nextAmount m B (nextAmount m B a) ∧
      nextAmount m B (nextAmount m B a) ≤ a) := by
  have hindex := h.visited.index
  have hnow : nextAmount m B a = B - getFeeValue (getFeeIndex m a) a := nextAmount_of_index rfl
  have hnext := nextAmount_of_index (B := B) h.index
  have hlast : getFeeIndex m a ≤ 255 := hindex.trans (by decide)
  refine ⟨fun hle => ?_, fun hle => ?_⟩
  · have hmono := getFeeValue_mono (Nat.le_refl (getFeeIndex m a)) hlast hle
    have hsub := getFeeValue_sub_le hindex hle
    omega
  · have hmono := getFeeValue_mono (Nat.le_refl (getFeeIndex m a)) hlast hle
    have hsub := getFeeValue_sub_le hindex hle
    omega

theorem Settling.next (hm : 0 < m) {k : Nat} (h : Settling m B a k) : Settling m B (nextAmount m B a) (k - 1) := by
  obtain ⟨hvisited, -⟩ := h.visited.next hm
  obtain ⟨hvisited', hle⟩ := hvisited.next hm
  have hturns := h.turns
  have hindex := h.visited.index
  have hnow : nextAmount m B a = B - getFeeValue (getFeeIndex m a) a := nextAmount_of_index rfl
  have hnext := nextAmount_of_index (B := B) h.index
  have hbelow := h.below
  have habove := h.above
  refine ⟨hvisited, Nat.le_antisymm hle ?_, ?_, ?_⟩
  · -- the amount after next lies between this one and the next, which have the same index
    rcases Nat.le_total a (nextAmount m B a) with hle | hle
    · exact index_antitone hm (hturns.1 hle).2 hvisited'.pays
    · rw [h.index]
      exact index_antitone hm (hturns.2 hle).2 hvisited'.pays
  all_goals
    rcases Nat.le_total a (nextAmount m B a) with hle | hle
    · have hsub := getFeeValue_sub_le_reach hindex hle (k := k) (by omega)
      have hturn := hturns.1 hle
      omega
    · have hsub := getFeeValue_sub_le_reach hindex hle (k := k) (by omega)
      have hturn := hturns.2 hle
      omega

/-- A state of the loop that finds its amount in time.  Below distance 1 every affordable amount that is not returned
lowers the best remainder, and a remainder of 0 is that of an amount that is its own successor. -/
structure InTime (m B a best i k : Nat) : Prop where
  settling : Settling m B a k
  rests : best = 0 → nextAmount m B a = a
  count : 2 * (i + min best 2) + k ≤ 200 + if nextAmount m B a < a then 1 else 0

theorem InTime.over (hm : 0 < m) {k : Nat} (h : InTime m B a best i k) (hless : nextAmount m B a < a) :
    InTime m B (nextAmount m B a) best i (k - 1) := by
  have hturn := (h.settling.turns.2 hless.le).1
  have hcount := h.count
  rw [if_pos hless] at hcount
  refine ⟨h.settling.next hm, fun hbest => absurd (h.rests hbest) hless.ne, ?_⟩
  rw [if_neg (Nat.not_lt.mpr hturn)]
  omega

theorem InTime.under (hm : 0 < m) {k : Nat} (h : InTime m B a best i k) (hunder : a + feeToPay m a ≤ B)
    (hbest : B - (a + feeToPay m a) ≠ best) :
    ∃ k', InTime m B (nextAmount m B a) (min (B - (a + feeToPay m a)) best) (i + 1) k' := by
  have hcount := h.count
  have hnext : nextAmount m B a = a + (B - (a + feeToPay m a)) := by
    rw [nextAmount]
    omega
  rw [if_neg (by omega)] at hcount
  generalize B - (a + feeToPay m a) = remaining at hnext hbest ⊢
  have hnew : best = 0 → remaining = 0 := fun hzero => by
    have hfixed := h.rests hzero
    omega
  have hclose := h.settling.below
  have hsmaller : k = 0 → remaining ≤ 1 := fun hk => by
    rw [hk, reach] at hclose
    omega
  rcases (h.settling.turns.1 (by omega)).2.lt_or_eq with hless | hfixed
  · refine ⟨k - 1, h.settling.next hm, fun hzero => ?_, ?_⟩
    · have hsame : nextAmount m B a = a := by omega
      rw [hsame, hsame] at hless
      exact absurd hless (Nat.lt_irrefl _)
    · rw [if_pos hless]
      omega
  · obtain ⟨hvisited, hindex, -, -⟩ := h.settling.next hm
    refine ⟨0, ⟨hvisited, hindex, by omega, by omega⟩, fun _ => hfixed, ?_⟩
    rw [if_neg (by omega)]
    omega

theorem InTime.exit (hm : 0 < m) {k : Nat} (h : InTime m B a best i k)
    (hloop : maxAmountLoop m B rounds a best i = some r) : r.1 ≠ .gaveUp := by
  induction rounds generalizing a best i k with
  | zero => cases hloop
  | succ rounds ih =>
    rcases roundOutcome hloop with rfl | ⟨-, hless, hrest⟩ | ⟨-, rfl⟩ | ⟨hunder, hbest, hi, -⟩ | ⟨hunder, hbest, -, hrest⟩
    · exact LoopExit.noConfusion
    · exact ih (h.over hm hless) hrest
    · exact LoopExit.noConfusion
    · -- at the hundredth amount the best remainder is 0, and it would have been returned
      have hnext : nextAmount m B a = B - feeToPay m a := rfl
      have hcount := h.count
      rw [if_neg (by omega)] at hcount
      have hfixed := h.rests (by omega)
      omega
    · obtain ⟨k', hnext⟩ := h.under hm hunder hbest
      exact ih hnext hrest

theorem reach_large : 2 ^ 192 ≤ reach 128 := by
  decide +kernel

theorem Visited.exit (hm : 0 < m) (hB : B < 2 ^ 192) (h : Visited m B a)
    (hbest : best = 0 → nextAmount m B a = a) (hi : i + getFeeIndex m a ≤ 34 + getFeeIndex m B)
    (hloop : maxAmountLoop m B rounds a best i = some r) : r.1 ≠ .gaveUp := by
  induction rounds generalizing a best i with
  | zero => cases hloop
  | succ rounds ih =>
    have hleaves := h.leaves
    have hlowest : getFeeIndex m B ≤ getFeeIndex m a := index_antitone hm (by omega) h.pays
    obtain ⟨hvisited, hle⟩ := h.next hm
    rcases hle.eq_or_lt with hsame | hlower
    · have hfar := reach_large
      have hnext : nextAmount m B a ≤ B := Nat.sub_le _ _
      have htime : InTime m B a best i 128 := ⟨⟨h, hsame, by omega, by omega⟩, hbest, by omega⟩
      exact htime.exit hm hloop
    · have hmoves : nextAmount m B a ≠ a := fun heq => by
        rw [heq] at hlower
        exact absurd hlower (Nat.lt_irrefl _)
      have hpositive : best ≠ 0 := fun hzero => hmoves (hbest hzero)
      rcases roundOutcome hloop with rfl | ⟨-, -, hrest⟩ | ⟨-, rfl⟩ | ⟨-, -, hi', -⟩ | ⟨hunder, -, -, hrest⟩
      · exact LoopExit.noConfusion
      · exact ih hvisited (fun hzero => absurd hzero hpositive) (by omega) hrest
      · exact LoopExit.noConfusion
      · omega
      · refine ih hvisited (fun hzero => ?_) (by omega) hrest
        rw [nextAmount] at hmoves
        omega

end HermezRollup
