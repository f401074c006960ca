import HermezRollup.TxProcessor

/-! What the effective amounts of an L1 transaction guarantee.  They never exceed the amounts of the
transaction, the sender can always pay them, and an amount that takes effect moves between accounts of
one token. -/

namespace HermezRollup

variable {store : Store} {tx : L1Tx}

theorem effectiveAmounts_bounds (store : Store) (hamount : 0 ≤ tx.amount) (hdeposit : 0 ≤ tx.depositAmount) :
    (0 ≤ (effectiveAmounts store tx).1 ∧ (effectiveAmounts store tx).1 ≤ tx.amount) ∧
      0 ≤ (effectiveAmounts store tx).2 ∧ (effectiveAmounts store tx).2 ≤ tx.depositAmount := by
  rw [effectiveAmounts]
  repeat' split
  all_goals simp [hamount, hdeposit]

theorem effectiveAmounts_payable {acc : Account} (hget : store.getAccount tx.fromIdx = .ok acc)
    (hfrom : tx.fromIdx ≠ 0) (htype : tx.type ≠ some .createAccountDeposit) (hbalance : 0 ≤ acc.balance)
    (hdeposit : 0 ≤ tx.depositAmount) :
    (effectiveAmounts store tx).1 ≤ acc.balance + (effectiveAmounts store tx).2 := by
  rw [effectiveAmounts, if_neg htype, if_neg (show ¬(userThreshold ≤ tx.toIdx ∧ tx.fromIdx = 0) from fun h => hfrom h.2), hget]
  dsimp only
  repeat' split
  all_goals dsimp only; omega

theorem effectiveAmounts_covered (store : Store) (hfrom : tx.fromIdx = 0) (hto : userThreshold ≤ tx.toIdx)
    (htype : tx.type ≠ some .createAccountDeposit) (hdeposit : 0 ≤ tx.depositAmount) :
    (effectiveAmounts store tx).1 ≤ (effectiveAmounts store tx).2 := by
  rw [effectiveAmounts, if_neg htype, if_pos (show userThreshold ≤ tx.toIdx ∧ tx.fromIdx = 0 from ⟨hto, hfrom⟩)]
  repeat' split
  all_goals dsimp only; omega

/-- An amount that leaves an existing account was sent by its owner and is of its token, and an account that
receives it is of the same token. -/
theorem effectiveAmounts_spends (hfrom : tx.fromIdx ≠ 0) (htype : tx.type ≠ some .createAccountDeposit)
    (hamount : (effectiveAmounts store tx).1 ≠ 0) :
    ∃ accSender, store.getAccount tx.fromIdx = .ok accSender ∧ accSender.tokenID = tx.tokenID ∧
      accSender.ethAddr = tx.fromEthAddr ∧
      (userThreshold ≤ tx.toIdx → ∃ accReceiver, store.getAccount tx.toIdx = .ok accReceiver ∧
        accReceiver.tokenID = accSender.tokenID) := by
  rw [effectiveAmounts, if_neg htype, if_neg (show ¬(userThreshold ≤ tx.toIdx ∧ tx.fromIdx = 0) from fun h => hfrom h.2)]
    at hamount
  cases hsender : store.getAccount tx.fromIdx with
  | error e => simp [hsender] at hamount
  | ok accSender =>
    simp only [hsender] at hamount
    have htoken : tx.tokenID = accSender.tokenID := by
      by_contra hne
      simp [hne] at hamount
    have haddr : tx.fromEthAddr = accSender.ethAddr := by
      by_contra hne
      cases hreceiver : store.getAccount tx.toIdx <;> simp [hne, hreceiver, apply_ite Prod.fst] at hamount
    refine ⟨accSender, rfl, htoken.symm, haddr.symm, fun huser => ?_⟩
    have hnot : ¬(tx.toIdx = 1 ∨ tx.toIdx = 0) := by
      unfold userThreshold at huser
      omega
    cases hreceiver : store.getAccount tx.toIdx with
    | error e => simp [hreceiver, hnot, apply_ite Prod.fst] at hamount
    | ok accReceiver =>
      refine ⟨accReceiver, rfl, ?_⟩
      by_contra hne
      simp [hreceiver, hnot, Ne.symm hne, apply_ite Prod.fst] at hamount

theorem effectiveAmounts_deposits (hfrom : tx.fromIdx ≠ 0) (htype : tx.type ≠ some .createAccountDeposit)
    (hdeposit : (effectiveAmounts store tx).2 ≠ 0) :
    ∃ acc, store.getAccount tx.fromIdx = .ok acc ∧ acc.tokenID = tx.tokenID := by
  rw [effectiveAmounts, if_neg htype, if_neg (show ¬(userThreshold ≤ tx.toIdx ∧ tx.fromIdx = 0) from fun h => hfrom h.2)]
    at hdeposit
  cases hsender : store.getAccount tx.fromIdx with
  | error e => simp [hsender] at hdeposit
  | ok acc =>
    refine ⟨acc, rfl, ?_⟩
    by_contra hne
    simp [hsender, Ne.symm hne] at hdeposit

theorem effectiveAmounts_newSpends (hfrom : tx.fromIdx = 0) (hto : userThreshold ≤ tx.toIdx)
    (htype : tx.type ≠ some .createAccountDeposit) (hamount : (effectiveAmounts store tx).1 ≠ 0) :
    ∃ accReceiver, store.getAccount tx.toIdx = .ok accReceiver ∧ accReceiver.tokenID = tx.tokenID := by
  rw [effectiveAmounts, if_neg htype, if_pos (show userThreshold ≤ tx.toIdx ∧ tx.fromIdx = 0 from ⟨hto, hfrom⟩)] at hamount
  cases hreceiver : store.getAccount tx.toIdx with
  | error e => simp [hreceiver, apply_ite Prod.fst] at hamount
  | ok accReceiver =>
    refine ⟨accReceiver, rfl, ?_⟩
    by_contra hne
    simp [hreceiver, Ne.symm hne, apply_ite Prod.fst] at hamount

end HermezRollup
