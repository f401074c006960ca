import HermezRollup.ProcessTxs

/-! The accounts that receive the fees of a batch.  Of the accounts the coordinator names, the first one
of each token stays, and the map from tokens to accounts is read off those. -/

namespace HermezRollup

open Fallible

/-- The accounts that receive the fees: they exist, there is one for a token, and the map finds it. -/
structure CoordPlan (store : Store) (coordIdxs : List Nat) (coordIdxsMap : CoordIdxsMap) : Prop where
  nodup : coordIdxs.Nodup
  exist : ∀ idx ∈ coordIdxs, ∃ acc, store.getAccount idx = .ok acc
  lookup_iff : ∀ tokenID idx, coordIdxsMap.lookup tokenID = some idx ↔
    idx ∈ coordIdxs ∧ ∃ acc, store.getAccount idx = .ok acc ∧ acc.tokenID = tokenID

theorem filterCoordIdxs_ok {store : Store} {idxs : List Nat} {used : List TokenID} {out : List Nat}
    (h : TxProcessor.filterCoordIdxs store idxs used = .ok out) :
    out.Nodup ∧
    (∀ idx ∈ out, ∃ acc, store.getAccount idx = .ok acc ∧ acc.tokenID ∉ used ∧
      ∀ other ∈ out, ∀ acc', store.getAccount other = .ok acc' → acc'.tokenID = acc.tokenID → other = idx) ∧
    ∀ idx ∈ idxs, ∃ acc, store.getAccount idx = .ok acc ∧
      (acc.tokenID ∈ used ∨ ∃ i ∈ out, ∃ a, store.getAccount i = .ok a ∧ a.tokenID = acc.tokenID) := by
  induction idxs generalizing used out with
  | nil =>
    cases h
    simp
  | cons idx rest ih =>
    obtain ⟨acc, hacc, h⟩ := except_bind_ok.mp h
    split at h
    next hused =>
      obtain ⟨hnodup, hout, hall⟩ := ih h
      refine ⟨hnodup, hout, fun i hi => ?_⟩
      obtain rfl | hi := List.mem_cons.mp hi
      · exact ⟨acc, hacc, Or.inl hused⟩
      · exact hall i hi
    next hused =>
      obtain ⟨out', hfilter, hret⟩ := except_bind_ok.mp h
      cases hret
      obtain ⟨hnodup, hout, hall⟩ := ih hfilter
      -- the accounts that follow have other tokens
      have hother : ∀ i ∈ out', ∀ a, store.getAccount i = .ok a → a.tokenID ≠ acc.tokenID := by
        intro i hi a ha htoken
        obtain ⟨a', ha', hnot, -⟩ := hout i hi
        rw [ha] at ha'
        cases ha'
        exact hnot (htoken ▸ List.mem_cons_self)
      refine ⟨List.nodup_cons.mpr ⟨fun hmem => hother idx hmem acc hacc rfl, hnodup⟩, ?_, ?_⟩
      · intro i hi
        obtain rfl | hi' := List.mem_cons.mp hi
        · refine ⟨acc, hacc, hused, fun j hj a ha htoken => ?_⟩
          obtain rfl | hj' := List.mem_cons.mp hj
          · rfl
          · exact absurd htoken (hother j hj' a ha)
        · obtain ⟨a, ha, hnot, hunique⟩ := hout i hi'
          refine ⟨a, ha, fun hmem => hnot (List.mem_cons_of_mem _ hmem), fun j hj a' ha' htoken => ?_⟩
          obtain rfl | hj' := List.mem_cons.mp hj
          · rw [hacc] at ha'
            cases ha'
            exact absurd htoken.symm (hother i hi' a ha)
          · exact hunique j hj' a' ha' htoken
      · intro i hi
        obtain rfl | hi := List.mem_cons.mp hi
        · exact ⟨acc, hacc, Or.inr ⟨i, List.mem_cons_self, acc, hacc, rfl⟩⟩
        · obtain ⟨a, ha, hcovered⟩ := hall i hi
          refine ⟨a, ha, ?_⟩
          obtain hmem | ⟨j, hj, b, hb, htoken⟩ := hcovered
          · obtain htoken | hmem := List.mem_cons.mp hmem
            · exact Or.inr ⟨idx, List.mem_cons_self, acc, hacc, htoken.symm⟩
            · exact Or.inl hmem
          · exact Or.inr ⟨j, List.mem_cons_of_mem _ hj, b, hb, htoken⟩

theorem filterCoordIdxs_subset {store : Store} {idxs : List Nat} {used : List TokenID} {out : List Nat}
    (h : TxProcessor.filterCoordIdxs store idxs used = .ok out) : out ⊆ idxs := by
  induction idxs generalizing used out with
  | nil =>
    cases h
    exact List.Subset.refl _
  | cons idx rest ih =>
    obtain ⟨acc, hacc, h⟩ := except_bind_ok.mp h
    split at h
    · exact List.subset_cons_of_subset _ (ih h)
    · obtain ⟨out', hfilter, hret⟩ := except_bind_ok.mp h
      cases hret
      exact List.cons_subset_cons _ (ih hfilter)

theorem getTokenIDsFromIdxs_fold {store : Store} {idxs : List Nat} {map map' : CoordIdxsMap}
    (h : idxs.foldlM store.addTokenID map = .ok map') :
    (∀ tokenID idx, map'.lookup tokenID = some idx → map.lookup tokenID = some idx ∨
      idx ∈ idxs ∧ ∃ acc, store.getAccount idx = .ok acc ∧ acc.tokenID = tokenID) ∧
    (∀ tokenID ∈ map, tokenID ∈ map') ∧
    ∀ idx ∈ idxs, ∃ acc, store.getAccount idx = .ok acc ∧ acc.tokenID ∈ map' := by
  induction idxs generalizing map with
  | nil =>
    cases h
    exact ⟨fun _ _ h => Or.inl h, fun _ h => h, by simp⟩
  | cons idx rest ih =>
    obtain ⟨map₁, hstep, hrest⟩ := except_bind_ok.mp h
    rw [Store.addTokenID] at hstep
    cases hacc : store.getAccount idx with
    | error e => rw [hacc] at hstep; cases hstep
    | ok acc =>
      rw [hacc] at hstep
      cases hstep
      obtain ⟨hfound, hkept, hall⟩ := ih hrest
      refine ⟨fun tokenID i hlookup => ?_, fun tokenID hmem => hkept tokenID (Finmap.mem_insert.mpr (Or.inr hmem)), ?_⟩
      · obtain hinsert | ⟨hmem, a, ha, htoken⟩ := hfound tokenID i hlookup
        · by_cases htoken : tokenID = acc.tokenID
          · subst htoken
            rw [Finmap.lookup_insert] at hinsert
            cases hinsert
            exact Or.inr ⟨List.mem_cons_self, acc, hacc, rfl⟩
          · rw [Finmap.lookup_insert_of_ne _ htoken] at hinsert
            exact Or.inl hinsert
        · exact Or.inr ⟨List.mem_cons_of_mem _ hmem, a, ha, htoken⟩
      · intro i hi
        obtain rfl | hi' := List.mem_cons.mp hi
        · exact ⟨acc, hacc, hkept _ (Finmap.mem_insert.mpr (Or.inl rfl))⟩
        · exact hall i hi'

/-- **The plan of the fees** that the processor makes, and that it misses no token of the accounts the
coordinator named. -/
theorem coordPlan_of_filter {store : Store} {idxs coordIdxs : List Nat} {coordIdxsMap : CoordIdxsMap}
    (hfilter : TxProcessor.filterCoordIdxs store idxs [] = .ok coordIdxs)
    (hmap : store.getTokenIDsFromIdxs coordIdxs = .ok coordIdxsMap) :
    CoordPlan store coordIdxs coordIdxsMap ∧
      ∀ idx ∈ idxs, ∃ acc, store.getAccount idx = .ok acc ∧ acc.tokenID ∈ coordIdxsMap := by
  obtain ⟨hnodup, hout, hall⟩ := filterCoordIdxs_ok hfilter
  obtain ⟨hfound, -, hmapped⟩ := getTokenIDsFromIdxs_fold hmap
  have hexist : ∀ idx ∈ coordIdxs, ∃ acc, store.getAccount idx = .ok acc := fun idx hidx => by
    obtain ⟨acc, hacc, -⟩ := hout idx hidx
    exact ⟨acc, hacc⟩
  have hlookup : ∀ {tokenID idx}, coordIdxsMap.lookup tokenID = some idx →
      idx ∈ coordIdxs ∧ ∃ acc, store.getAccount idx = .ok acc ∧ acc.tokenID = tokenID := by
    intro tokenID idx h
    obtain hempty | hmem := hfound tokenID idx h
    · rw [Finmap.lookup_empty] at hempty
      cases hempty
    · exact hmem
  refine ⟨⟨hnodup, hexist, fun tokenID idx => ⟨hlookup, ?_⟩⟩, fun idx hidx => ?_⟩
  · rintro ⟨hmem, acc, hacc, rfl⟩
    obtain ⟨acc', hacc', hin⟩ := hmapped idx hmem
    rw [hacc] at hacc'
    cases hacc'
    obtain ⟨i, hi⟩ := Finmap.mem_iff.mp hin
    obtain ⟨himem, a, ha, htoken⟩ := hlookup hi
    obtain ⟨_, hacc', -, hunique⟩ := hout idx hmem
    rw [hacc] at hacc'
    cases hacc'
    rw [hi, hunique i himem a ha htoken]
  · obtain ⟨acc, hacc, hcovered⟩ := hall idx hidx
    obtain hused | ⟨i, hi, a, ha, htoken⟩ := hcovered
    · cases hused
    · obtain ⟨a', ha', hin⟩ := hmapped i hi
      rw [ha] at ha'
      cases ha'
      exact ⟨acc, hacc, htoken ▸ hin⟩

end HermezRollup
