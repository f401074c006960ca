import HermezRollup.StateDB

/-! The two indexes of the state database (`db/statedb/utils.go`): the account of an address, key and token, and
the account of an address and token whatever the key.  One write maintains both, guarded by the first index
alone, so the second one follows the account that most recently became the smallest of its own key. -/

namespace HermezRollup

open Fallible

/-- An account to be created, with its index. -/
abbrev Creation := Nat × Account

namespace Creation

def key (c : Creation) : Address × PublicKeyComp × TokenID :=
  (c.2.ethAddr, c.2.bjj, c.2.tokenID)

def holder (c : Creation) : Address × TokenID :=
  (c.2.ethAddr, c.2.tokenID)

theorem holder_eq_of_key_eq {c d : Creation} (h : c.key = d.key) : c.holder = d.holder := by
  simp only [key, holder, Prod.mk.injEq] at h ⊢
  exact ⟨h.1, h.2.2⟩

end Creation

/-- A lookup returns the smallest index among the created accounts that match, and an error exactly when there is
none. -/
def ReturnsSmallest (answer : Except Err Nat) (created : List Creation) (matching : Creation → Prop) : Prop :=
  (∀ idx, answer = .ok idx → (∃ c ∈ created, matching c ∧ c.1 = idx) ∧ ∀ c ∈ created, matching c → idx ≤ c.1) ∧
    ((∃ e, answer = .error e) ↔ ∀ c ∈ created, ¬matching c)

theorem returnsSmallest_ok {created : List Creation} {matching : Creation → Prop} {c : Creation} {idx : Nat}
    (hc : c ∈ created) (hmatch : matching c) (hidx : c.1 = idx) (hleast : ∀ x ∈ created, matching x → idx ≤ x.1) :
    ReturnsSmallest (.ok idx) created matching := by
  refine ⟨?_, ?_⟩
  · rintro i ⟨⟩
    exact ⟨⟨c, hc, hmatch, hidx⟩, hleast⟩
  · simp only [reduceCtorEq, exists_false, false_iff]
    exact fun hnone => hnone c hc hmatch

theorem returnsSmallest_error {created : List Creation} {matching : Creation → Prop} (e : Err)
    (hnone : ∀ c ∈ created, ¬matching c) : ReturnsSmallest (.error e) created matching :=
  ⟨by simp, by simpa using hnone⟩

/-- The account at a position was larger than an earlier one of its key when it was created. -/
def NotFirstOfKey (created : List Creation) (j : Nat) (c : Creation) : Prop :=
  ∃ k b, k < j ∧ created[k]? = some b ∧ b.key = c.key ∧ b.1 < c.1

/-- After the smallest account of an address and token no account of them was created that was the smallest of its
own key so far. -/
def NoNewKeyAfterSmallest (created : List Creation) (holder : Address × TokenID) : Prop :=
  ∀ i j d c, i < j → created[i]? = some d → created[j]? = some c → d.holder = holder → c.holder = holder →
    (∀ x ∈ created, x.holder = holder → d.1 ≤ x.1) → NotFirstOfKey created j c

namespace Store

section

variable [Libraries]

def createAccounts (s : Store) (creations : List Creation) : Except Err Store :=
  creations.foldlM (fun s c => s.createAccount c.1 c.2) s

theorem createAccounts_snoc {s s' : Store} {creations : List Creation} {c : Creation} :
    s.createAccounts (creations ++ [c]) = .ok s' ↔
      ∃ t, s.createAccounts creations = .ok t ∧ t.createAccount c.1 c.2 = .ok s' := by
  rw [createAccounts, List.foldlM_append, except_bind_ok]
  simp only [List.foldlM_cons, List.foldlM_nil, bind_pure]
  rfl

end

theorem setIdxByEthAddrBJJ_cases {s s' : Store} {c : Creation} (haddr : c.2.ethAddr ≠ emptyAddr)
    (hbjj : c.2.bjj ≠ emptyBJJComp) (h : s.setIdxByEthAddrBJJ c.1 c.2.ethAddr c.2.bjj c.2.tokenID = .ok s') :
    (∃ old, s.idxByEthAddrBJJ.lookup c.key = some old ∧ old ≤ c.1 ∧ s'.idxByEthAddrBJJ = s.idxByEthAddrBJJ ∧
        s'.idxByEthAddr = s.idxByEthAddr) ∨
      (∀ old, s.idxByEthAddrBJJ.lookup c.key = some old → c.1 < old) ∧
        s'.idxByEthAddrBJJ = s.idxByEthAddrBJJ.insert c.key c.1 ∧
        s'.idxByEthAddr = s.idxByEthAddr.insert c.holder c.1 := by
  have hput : s.putIdx c.1 c.2.ethAddr c.2.bjj c.2.tokenID = .ok s' →
      s'.idxByEthAddrBJJ = s.idxByEthAddrBJJ.insert c.key c.1 ∧
        s'.idxByEthAddr = s.idxByEthAddr.insert c.holder c.1 := by
    intro hput
    obtain ⟨_, -, hput⟩ := except_bind_ok.mp hput
    cases hput
    exact ⟨rfl, rfl⟩
  rw [setIdxByEthAddrBJJ, getIdxByEthAddrBJJ, if_neg (fun hempty => hbjj hempty.2), if_pos ⟨haddr, hbjj⟩] at h
  have hkey : (c.2.ethAddr, c.2.bjj, c.2.tokenID) = c.key := rfl
  rw [hkey] at h
  cases hlookup : s.idxByEthAddrBJJ.lookup c.key with
  | none =>
    rw [hlookup] at h
    exact Or.inr ⟨by simp, hput h⟩
  | some old =>
    rw [hlookup] at h
    simp only at h
    split at h
    next hle =>
      cases h
      exact Or.inl ⟨old, rfl, hle, rfl, rfl⟩
    next hlt =>
      refine Or.inr ⟨fun old' hold' => ?_, hput h⟩
      cases hold'
      omega

end Store

/-! ### What the two indexes hold after a sequence of creations -/

/-- The smallest index among the created accounts that match, if any does. -/
structure Least (created : List Creation) (matching : Creation → Prop) (found : Option Nat) : Prop where
  of_some : ∀ idx, found = some idx → (∃ c ∈ created, matching c ∧ c.1 = idx) ∧ ∀ c ∈ created, matching c → idx ≤ c.1
  of_none : found = none → ∀ c ∈ created, ¬matching c

/-- The last of the created accounts of a holder that was the smallest of its key when it was created. -/
structure LatestFirst (created : List Creation) (holder : Address × TokenID) (found : Option Nat) : Prop where
  of_some : ∀ idx, found = some idx → ∃ p c, created[p]? = some c ∧ c.1 = idx ∧ c.holder = holder ∧
    ¬NotFirstOfKey created p c ∧ ∀ j x, p < j → created[j]? = some x → x.holder = holder → NotFirstOfKey created j x
  of_none : found = none → ∀ c ∈ created, c.holder ≠ holder

section Snoc

variable {created : List Creation} {c : Creation} {matching : Creation → Prop} {holder : Address × TokenID}
  {found : Option Nat}

theorem Least.keep (h : Least created matching found) (hc : matching c → ∃ old, found = some old ∧ old ≤ c.1) :
    Least (created ++ [c]) matching found where
  of_some := by
    intro idx hfound
    obtain ⟨⟨d, hd, hmatch, hidx⟩, hleast⟩ := h.of_some idx hfound
    refine ⟨⟨d, List.mem_append_left _ hd, hmatch, hidx⟩, fun x hx hxmatch => ?_⟩
    rcases List.mem_append.mp hx with hx | hx
    · exact hleast x hx hxmatch
    · obtain rfl := List.mem_singleton.mp hx
      obtain ⟨old, hold, hle⟩ := hc hxmatch
      rw [hfound] at hold
      cases hold
      exact hle
  of_none := by
    intro hfound x hx hxmatch
    rcases List.mem_append.mp hx with hx | hx
    · exact h.of_none hfound x hx hxmatch
    · obtain rfl := List.mem_singleton.mp hx
      obtain ⟨old, hold, -⟩ := hc hxmatch
      rw [hfound] at hold
      cases hold

theorem Least.put (h : Least created matching found) (hc : matching c) (hsmaller : ∀ old, found = some old → c.1 < old) :
    Least (created ++ [c]) matching (some c.1) where
  of_some := by
    rintro idx ⟨⟩
    refine ⟨⟨c, by simp, hc, rfl⟩, fun x hx hxmatch => ?_⟩
    rcases List.mem_append.mp hx with hx | hx
    · cases hfound : found with
      | none => exact absurd hxmatch (h.of_none hfound x hx)
      | some old =>
        have hold := (h.of_some old hfound).2 x hx hxmatch
        have := hsmaller old hfound
        omega
    · rw [List.mem_singleton.mp hx]
  of_none := by simp

theorem notFirstOfKey_snoc {d : Creation} {j : Nat} (hj : j ≤ created.length) :
    NotFirstOfKey (created ++ [d]) j c ↔ NotFirstOfKey created j c := by
  constructor
  · rintro ⟨k, b, hk, hb, hrest⟩
    rw [List.getElem?_append_left (by omega)] at hb
    exact ⟨k, b, hk, hb, hrest⟩
  · rintro ⟨k, b, hk, hb, hrest⟩
    refine ⟨k, b, hk, ?_, hrest⟩
    rw [List.getElem?_append_left (by omega)]
    exact hb

theorem getElem?_snoc_cases {x : Creation} {j : Nat} (h : (created ++ [c])[j]? = some x) :
    (j < created.length ∧ created[j]? = some x) ∨ (j = created.length ∧ x = c) := by
  rcases Nat.lt_or_ge j created.length with hlt | hge
  · rw [List.getElem?_append_left hlt] at h
    exact Or.inl ⟨hlt, h⟩
  · have hlen : j < (created ++ [c]).length := (List.getElem?_eq_some_iff.mp h).1
    rw [List.length_append, List.length_singleton] at hlen
    obtain rfl : j = created.length := by omega
    rw [List.getElem?_concat_length] at h
    exact Or.inr ⟨rfl, (Option.some.inj h).symm⟩

theorem LatestFirst.keep (h : LatestFirst created holder found)
    (hc : c.holder = holder → found ≠ none ∧ NotFirstOfKey created created.length c) :
    LatestFirst (created ++ [c]) holder found where
  of_some := by
    intro idx hfound
    obtain ⟨p, d, hp, hidx, hholder, hfirst, hlater⟩ := h.of_some idx hfound
    have hplt : p < created.length := (List.getElem?_eq_some_iff.mp hp).1
    refine ⟨p, d, ?_, hidx, hholder, ?_, fun j x hj hx hxholder => ?_⟩
    · rw [List.getElem?_append_left hplt]
      exact hp
    · rw [notFirstOfKey_snoc hplt.le]
      exact hfirst
    · rcases getElem?_snoc_cases hx with ⟨hjlt, hx⟩ | ⟨rfl, rfl⟩
      · rw [notFirstOfKey_snoc hjlt.le]
        exact hlater j x hj hx hxholder
      · rw [notFirstOfKey_snoc (le_refl _)]
        exact (hc hxholder).2
  of_none := by
    intro hfound x hx hxholder
    rcases List.mem_append.mp hx with hx | hx
    · exact h.of_none hfound x hx hxholder
    · obtain rfl := List.mem_singleton.mp hx
      exact (hc hxholder).1 hfound

theorem latestFirst_put (hfirst : ¬NotFirstOfKey created created.length c) :
    LatestFirst (created ++ [c]) c.holder (some c.1) where
  of_some := by
    rintro idx ⟨⟩
    refine ⟨created.length, c, List.getElem?_concat_length, rfl, rfl, ?_, fun j x hj hx _ => ?_⟩
    · rw [notFirstOfKey_snoc (le_refl _)]
      exact hfirst
    · rcases getElem?_snoc_cases hx with ⟨hjlt, -⟩ | ⟨rfl, -⟩ <;> omega
  of_none := by simp

end Snoc

namespace Store

structure Indexed (s : Store) (created : List Creation) : Prop where
  accounts : ∀ c ∈ created, c.1 ∈ s.accounts
  distinct : (created.map Prod.fst).Nodup
  byKey : ∀ key, Least created (fun c => c.key = key) (s.idxByEthAddrBJJ.lookup key)
  byHolder : ∀ holder, LatestFirst created holder (s.idxByEthAddr.lookup holder)

theorem indexed_empty : Indexed {} [] where
  accounts := by simp
  distinct := by simp
  byKey _ := ⟨by simp, by simp⟩
  byHolder _ := ⟨by simp, by simp⟩

variable {s s' : Store} {created : List Creation} {c : Creation}

theorem Indexed.notFirstOfKey (h : s.Indexed created) (hfresh : c.1 ∉ s.accounts) {old : Nat}
    (hold : s.idxByEthAddrBJJ.lookup c.key = some old) (hle : old ≤ c.1) :
    s.idxByEthAddr.lookup c.holder ≠ none ∧ NotFirstOfKey created created.length c := by
  obtain ⟨⟨b, hb, hkey, hidx⟩, -⟩ := (h.byKey _).of_some old hold
  obtain ⟨k, hk⟩ := List.mem_iff_getElem?.mp hb
  refine ⟨fun hnone => ?_, k, b, (List.getElem?_eq_some_iff.mp hk).1, hk, hkey, ?_⟩
  · exact (h.byHolder _).of_none hnone b hb (Creation.holder_eq_of_key_eq hkey)
  · have hne : b.1 ≠ c.1 := fun heq => hfresh (heq ▸ h.accounts b hb)
    omega

theorem Indexed.firstOfKey (h : s.Indexed created)
    (hsmaller : ∀ old, s.idxByEthAddrBJJ.lookup c.key = some old → c.1 < old) :
    ¬NotFirstOfKey created created.length c := by
  rintro ⟨k, b, -, hb, hkey, hlt⟩
  have hbmem : b ∈ created := List.mem_of_getElem? hb
  cases hlookup : s.idxByEthAddrBJJ.lookup c.key with
  | none => exact (h.byKey _).of_none hlookup b hbmem hkey
  | some old =>
    have := hsmaller old hlookup
    have := ((h.byKey _).of_some old hlookup).2 b hbmem hkey
    omega

section

variable [Libraries]

theorem Indexed.snoc (h : s.Indexed created) (haddr : c.2.ethAddr ≠ emptyAddr) (hbjj : c.2.bjj ≠ emptyBJJComp)
    (hcreate : s.createAccount c.1 c.2 = .ok s') : s'.Indexed (created ++ [c]) := by
  obtain ⟨-, hfresh, hencodable, _, _, haccounts⟩ := createAccount_ok hcreate
  obtain ⟨accounts, -, hset⟩ := except_bind_ok.mp hcreate
  have hcases := setIdxByEthAddrBJJ_cases haddr hbjj hset
  refine ⟨fun d hd => ?_, ?_, fun key => ?_, fun holder => ?_⟩
  · rw [haccounts]
    rcases List.mem_append.mp hd with hd | hd
    · exact Finmap.mem_insert.mpr (Or.inr (h.accounts d hd))
    · rw [List.mem_singleton.mp hd]
      exact Finmap.mem_insert.mpr (Or.inl rfl)
  · rw [List.map_append, List.map_singleton, List.nodup_append]
    refine ⟨h.distinct, List.nodup_singleton _, ?_⟩
    rintro a ha b hb rfl
    obtain ⟨d, hd, rfl⟩ := List.mem_map.mp ha
    rw [List.mem_singleton] at hb
    exact hfresh (hb ▸ h.accounts d hd)
  · rcases hcases with ⟨old, hold, hle, hmap, -⟩ | ⟨hsmaller, hmap, -⟩
    · rw [hmap]
      refine (h.byKey key).keep ?_
      rintro rfl
      exact ⟨old, hold, hle⟩
    · rw [hmap]
      by_cases hkey : key = c.key
      · subst hkey
        rw [Finmap.lookup_insert]
        exact (h.byKey c.key).put rfl hsmaller
      · rw [Finmap.lookup_insert_of_ne _ hkey]
        exact (h.byKey key).keep fun heq => absurd heq.symm hkey
  · rcases hcases with ⟨old, hold, hle, -, hmap⟩ | ⟨hsmaller, -, hmap⟩
    · rw [hmap]
      refine (h.byHolder holder).keep ?_
      rintro rfl
      exact h.notFirstOfKey hfresh hold hle
    · rw [hmap]
      by_cases hholder : holder = c.holder
      · subst hholder
        rw [Finmap.lookup_insert]
        exact latestFirst_put (h.firstOfKey hsmaller)
      · rw [Finmap.lookup_insert_of_ne _ hholder]
        exact (h.byHolder holder).keep fun heq => absurd heq.symm hholder

theorem indexed_of_createAccounts (hcreated : ∀ c ∈ created, c.2.ethAddr ≠ emptyAddr ∧ c.2.bjj ≠ emptyBJJComp)
    (hrun : ({} : Store).createAccounts created = .ok s) : s.Indexed created := by
  induction created using List.reverseRecOn generalizing s with
  | nil =>
    cases hrun
    exact indexed_empty
  | append_singleton created c ih =>
    obtain ⟨t, hprevious, hcreate⟩ := createAccounts_snoc.mp hrun
    obtain ⟨haddr, hbjj⟩ := hcreated c (by simp)
    exact (ih (fun d hd => hcreated d (List.mem_append_left _ hd)) hprevious).snoc haddr hbjj hcreate

end

theorem Indexed.returnsSmallest_byKey (h : s.Indexed created) {addr : Address} {bjj : PublicKeyComp} (tokenID : TokenID)
    (haddr : addr ≠ emptyAddr) (hbjj : bjj ≠ emptyBJJComp) :
    ReturnsSmallest (s.getIdxByEthAddrBJJ addr bjj tokenID) created fun c => c.key = (addr, bjj, tokenID) := by
  have hentry := h.byKey (addr, bjj, tokenID)
  rw [getIdxByEthAddrBJJ, if_neg (fun hempty => hbjj hempty.2), if_pos ⟨haddr, hbjj⟩]
  cases hlookup : s.idxByEthAddrBJJ.lookup (addr, bjj, tokenID) with
  | none => exact returnsSmallest_error _ (hentry.of_none hlookup)
  | some idx =>
    obtain ⟨⟨c, hc, hkey, hidx⟩, hleast⟩ := hentry.of_some idx hlookup
    exact returnsSmallest_ok hc hkey hidx hleast

theorem exists_smallest {holder : Address × TokenID} (hc : c ∈ created) (hholder : c.holder = holder) :
    ∃ (i : Nat) (d : Creation), created[i]? = some d ∧ d.holder = holder ∧
      ∀ x ∈ created, x.holder = holder → d.1 ≤ x.1 := by
  classical
  have hexists : ∃ idx, ∃ d ∈ created, d.holder = holder ∧ d.1 = idx := ⟨c.1, c, hc, hholder, rfl⟩
  obtain ⟨d, hd, hdholder, hidx⟩ := Nat.find_spec hexists
  obtain ⟨i, hi⟩ := List.mem_iff_getElem?.mp hd
  refine ⟨i, d, hi, hdholder, fun x hx hxholder => ?_⟩
  rw [hidx]
  exact Nat.find_min' hexists ⟨x, hx, hxholder, rfl⟩

/-- The index by address and token holds the smallest account exactly when no new key came after it. -/
theorem Indexed.returnsSmallest_byHolder_iff (h : s.Indexed created) (addr : Address) (tokenID : TokenID) :
    ReturnsSmallest (s.getIdxByEthAddr addr tokenID) created (fun c => c.holder = (addr, tokenID)) ↔
      NoNewKeyAfterSmallest created (addr, tokenID) := by
  have hentry := h.byHolder (addr, tokenID)
  rw [getIdxByEthAddr]
  cases hlookup : s.idxByEthAddr.lookup (addr, tokenID) with
  | none =>
    have hnone := hentry.of_none hlookup
    refine ⟨fun _ i j d c _ hd _ hholder => ?_, fun _ => returnsSmallest_error _ hnone⟩
    exact absurd hholder (hnone d (List.mem_of_getElem? hd))
  | some idx =>
    obtain ⟨p, c, hp, hidx, hholder, hfirst, hlater⟩ := hentry.of_some idx hlookup
    have hc : c ∈ created := List.mem_of_getElem? hp
    constructor
    · rintro ⟨hsmallest, -⟩ i j d x hij hd hx hdholder hxholder hdleast
      -- the smallest account is the one in the index, so whatever follows it is not the first of its key
      have hleast := (hsmallest idx rfl).2 d (List.mem_of_getElem? hd) hdholder
      have hsame : d.1 = c.1 := by
        have := hdleast c hc hholder
        omega
      have hi : i = p := by
        have hilt : i < (created.map Prod.fst).length := by
          rw [List.length_map]
          exact (List.getElem?_eq_some_iff.mp hd).1
        refine (List.getElem?_inj hilt h.distinct).mp ?_
        rw [List.getElem?_map, List.getElem?_map, hd, hp, Option.map_some, Option.map_some, hsame]
      exact hlater j x (by omega) hx hxholder
    · intro hcond
      have hleast : ∀ x ∈ created, x.holder = (addr, tokenID) → idx ≤ x.1 := by
        obtain ⟨i, d, hd, hdholder, hdleast⟩ := exists_smallest hc hholder
        have hle : idx ≤ d.1 := by
          rcases Nat.lt_trichotomy i p with hlt | rfl | hlt
          · exact absurd (hcond i p d c hlt hd hp hdholder hholder hdleast) hfirst
          · rw [hp] at hd
            cases hd
            omega
          · obtain ⟨k, b, -, hb, hkey, hblt⟩ := hlater i d hlt hd hdholder
            have := hdleast b (List.mem_of_getElem? hb) ((Creation.holder_eq_of_key_eq hkey).trans hdholder)
            omega
        exact fun x hx hxholder => le_trans hle (hdleast x hx hxholder)
      exact returnsSmallest_ok hc hholder hidx hleast

/-- **Lookups by address.**  After any accounts were created at distinct indexes in any order, the lookup by address,
key and token returns the smallest account of them.  The lookup by address and token does so exactly for those
addresses and tokens of which no account with a new smallest index of its own key was created after the smallest. -/
theorem getIdx_returnsSmallest_iff [Libraries]
    (hcreated : ∀ c ∈ created, c.2.ethAddr ≠ emptyAddr ∧ c.2.bjj ≠ emptyBJJComp)
    (hrun : ({} : Store).createAccounts created = .ok s) :
    (∀ addr bjj tokenID, addr ≠ emptyAddr → bjj ≠ emptyBJJComp →
        ReturnsSmallest (s.getIdxByEthAddrBJJ addr bjj tokenID) created fun c => c.key = (addr, bjj, tokenID)) ∧
      ∀ addr tokenID,
        ReturnsSmallest (s.getIdxByEthAddr addr tokenID) created (fun c => c.holder = (addr, tokenID)) ↔
          NoNewKeyAfterSmallest created (addr, tokenID) := by
  have h := indexed_of_createAccounts hcreated hrun
  exact ⟨fun _ _ tokenID haddr hbjj => h.returnsSmallest_byKey tokenID haddr hbjj, h.returnsSmallest_byHolder_iff⟩

/-- Accounts of one address with the given keys, at the first user indexes. -/
def accountsOfKeys (keys : List PublicKeyComp) : List Creation :=
  keys.mapIdx fun i bjj => (userThreshold + i, { tokenID := 0, bjj, ethAddr := 1 })

theorem exists_of_any {result : Except Err Store} {test : Store → Bool} (h : result.toOption.any test = true) :
    ∃ s, result = .ok s ∧ test s = true := by
  cases result with
  | ok s => exact ⟨s, rfl, h⟩
  | error e => cases h

theorem getIdx_returnsSmallest_iff_oneKey :
    ∃ s, (∀ c ∈ accountsOfKeys [5, 5], c.2.ethAddr ≠ emptyAddr ∧ c.2.bjj ≠ emptyBJJComp) ∧
      @createAccounts plainLibraries {} (accountsOfKeys [5, 5]) = .ok s ∧
      ReturnsSmallest (s.getIdxByEthAddr 1 0) (accountsOfKeys [5, 5]) fun c => c.holder = (1, 0) := by
  let := plainLibraries
  have hcreated : ∀ c ∈ accountsOfKeys [5, 5], c.2.ethAddr ≠ emptyAddr ∧ c.2.bjj ≠ emptyBJJComp := by decide
  obtain ⟨s, hrun, -⟩ := exists_of_any
    (show (createAccounts {} (accountsOfKeys [5, 5])).toOption.any (fun _ => true) = true by decide +kernel)
  refine ⟨s, hcreated, hrun, ((getIdx_returnsSmallest_iff hcreated hrun).2 1 0).mpr ?_⟩
  -- the second account has the key of the first, which is smaller
  intro i j d c hij hd hc _ _ _
  have hj : j < 2 := (List.getElem?_eq_some_iff.mp hc).1
  obtain ⟨rfl, rfl⟩ : i = 0 ∧ j = 1 := by omega
  cases hd
  cases hc
  exact ⟨0, _, by omega, rfl, by decide, by decide⟩

/-- The second account of an address has a new key: the lookup by address then returns it and not the first. -/
theorem getIdxByEthAddr_returns_newestKey :
    ∃ s, (∀ c ∈ accountsOfKeys [5, 6], c.2.ethAddr ≠ emptyAddr ∧ c.2.bjj ≠ emptyBJJComp) ∧
      @createAccounts plainLibraries {} (accountsOfKeys [5, 6]) = .ok s ∧ s.getIdxByEthAddr 1 0 = .ok 257 ∧
      ¬ReturnsSmallest (s.getIdxByEthAddr 1 0) (accountsOfKeys [5, 6]) fun c => c.holder = (1, 0) := by
  let := plainLibraries
  obtain ⟨s, hrun, htest⟩ := exists_of_any
    (show (createAccounts {} (accountsOfKeys [5, 6])).toOption.any
      (fun s => (s.getIdxByEthAddr 1 0).toOption = some 257) = true by decide +kernel)
  have hanswer : s.getIdxByEthAddr 1 0 = .ok 257 := toOption_some.mp (of_decide_eq_true htest)
  refine ⟨s, by decide, hrun, hanswer, fun hsmallest => ?_⟩
  have hfirst := (hsmallest.1 257 hanswer).2 (256, { tokenID := 0, bjj := 5, ethAddr := 1 }) (by decide) (by decide)
  omega

end Store

end HermezRollup
