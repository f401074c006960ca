import HermezRollup.QueuedL1Tx

/-! Amounts in 40 bits, across the code base: the encoder and decoder of the node (`common/float40.go`), the
decoder of the contract (`_float2Fix`) and the encoder of the SDK (`hermez-compressed-amount.js`).  Rounding down
is optimal except just above the largest mantissa of an exponent. -/

namespace HermezRollup

open Bytes Fallible

/-- `_float2Fix` in the 256-bit arithmetic of the contract. -/
def float2FixWord (float : BitVec 40) : BitVec 256 :=
  let m := (float &&& 0x7FFFFFFFF#40).setWidth 256
  let e := (float >>> 35).toNat
  m * 10#256 ^ e

/-- The loop of `NewFloat40Floor`: drop decimal digits while the mantissa does not fit. -/
def newFloat40FloorLoop : Nat → Int → Nat → Int × Nat
  | 0, m, e => (m, e)
  | fuel + 1, m, e => if thres ≤ m then newFloat40FloorLoop fuel (m / 10) (e + 1) else (m, e)

/-- `NewFloat40Floor`.  The loop runs at most once per bit of its argument. -/
def newFloat40Floor (f : Int) : Except Err Nat :=
  let (m, e) := newFloat40FloorLoop (f.toNat.log2 + 1) f 0
  if e > 31 then .error .float40E31 else .ok ((m + e * thres).natAbs % 2 ^ 64)

/-- The loop of `floorCompressAmount`; integers of the SDK are divided towards zero. -/
def floorCompressAmountLoop : Nat → Int → Nat → Int × Nat
  | 0, m, e => (m, e)
  | fuel + 1, m, e =>
    if m.tdiv 0x800000000 ≠ 0 then floorCompressAmountLoop fuel (m.tdiv 10) (e + 1) else (m, e)

/-- `floorCompressAmount`. -/
def floorCompressAmount (f : Int) : Except String Int :=
  if f = 0 then .ok 0
  else
    let (m, e) := floorCompressAmountLoop (f.natAbs.log2 + 1) f 0
    if e > 31 then .error "number too big" else .ok (m + e * 0x800000000)

/-! ### The exact encoder -/

def Float40Representable (v : Nat) : Prop :=
  ∃ m e : Nat, m < 2 ^ 35 ∧ e ≤ 31 ∧ v = m * 10 ^ e

theorem float40Mantissa_lt (f40 : Nat) : float40Mantissa f40 < 2 ^ 35 :=
  Nat.mod_lt _ (by positivity)

theorem float40Value_compose {m : Nat} (e : Nat) (hm : m < 2 ^ 35) : float40Value (m + e * 2 ^ 35) = m * 10 ^ e := by
  have hmant : float40Mantissa (m + e * 2 ^ 35) = m := by
    rw [float40Mantissa]
    omega
  have hexp : float40Exponent (m + e * 2 ^ 35) = e := by
    rw [float40Exponent]
    omega
  rw [float40Value, hmant, hexp]

theorem representable_iff_float40Value (v : Nat) :
    Float40Representable v ↔ ∃ f40, f40 < 2 ^ 40 ∧ v = float40Value f40 := by
  constructor
  · rintro ⟨m, e, hm, he, rfl⟩
    exact ⟨m + e * 2 ^ 35, by omega, (float40Value_compose e hm).symm⟩
  · rintro ⟨f40, hf40, rfl⟩
    refine ⟨float40Mantissa f40, float40Exponent f40, float40Mantissa_lt f40, ?_, rfl⟩
    rw [float40Exponent]
    omega

theorem newFloat40_isOk_iff (v : Nat) : (∃ f40, newFloat40 v = .ok f40) ↔ Float40Representable v := by
  rw [representable_iff_float40Value]
  constructor
  · rintro ⟨f40, hf40⟩
    obtain ⟨hlt, hvalue, -⟩ := newFloat40_eq_ok hf40
    exact ⟨f40, hlt, hvalue.symm⟩
  · rintro ⟨f40, hlt, rfl⟩
    exact newFloat40_total hlt

theorem float40FromBytes_float40Bytes {f40 : Nat} (h : f40 < 2 ^ 40) :
    ∃ b, float40Bytes f40 = .ok b ∧ float40FromBytes b = f40 := by
  refine ⟨bytesBE 5 f40, ?_, ?_⟩
  · rw [float40Bytes, if_neg]
    rw [maxFloat40Value]
    omega
  · rw [float40FromBytes]
    exact natOfBytesBE_bytesBE_of_lt (by omega)

theorem float40Value_lt {f40 : Nat} (h : f40 < 2 ^ 40) : float40Value f40 < 2 ^ 256 := by
  have hexp : float40Exponent f40 ≤ 31 := by
    rw [float40Exponent]
    omega
  calc float40Value f40
      ≤ 2 ^ 35 * 10 ^ 31 :=
        Nat.mul_le_mul (float40Mantissa_lt f40).le (Nat.pow_le_pow_right (by omega) hexp)
    _ < 2 ^ 256 := by norm_num

theorem toNat_ten_pow (e : Nat) : (10#256 ^ e).toNat = 10 ^ e % 2 ^ 256 := by
  induction e with
  | zero => rfl
  | succ e ih =>
    rw [BitVec.pow_succ, BitVec.toNat_mul, ih, show (10#256).toNat = 10 from rfl, Nat.mod_mul_mod, ← Nat.pow_succ]

theorem float2FixWord_toNat (float : BitVec 40) : (float2FixWord float).toNat = float40Value float.toNat := by
  have hlt := float40Value_lt float.isLt
  rw [← float2Fix_eq, float2Fix] at hlt ⊢
  have hm : (float &&& 0x7FFFFFFFF#40).toNat % 2 ^ 256 = (float &&& 0x7FFFFFFFF#40).toNat :=
    Nat.mod_eq_of_lt (by have := (float &&& 0x7FFFFFFFF#40).isLt; omega)
  rw [float2FixWord, BitVec.toNat_mul, BitVec.toNat_setWidth, toNat_ten_pow, hm, Nat.mul_mod_mod]
  exact Nat.mod_eq_of_lt hlt

/-- **Amounts in 40 bits are exact.**  The encoder accepts exactly the integers `m * 10 ^ e` with a mantissa of 35
bits and an exponent up to 31, and what it returns decodes to its argument.  Every float, canonical or not, decodes
to an integer that can be encoded again and then decodes to the same integer, is read back from its bytes, and
stands for the same integer in the contract. -/
theorem float40_exact :
    (∀ v : Nat, (∃ f40, newFloat40 v = .ok f40) ↔ ∃ m e : Nat, m < 2 ^ 35 ∧ e ≤ 31 ∧ v = m * 10 ^ e) ∧
      (∀ v f40 : Nat, newFloat40 v = .ok f40 → f40 < 2 ^ 40 ∧ float40BigInt f40 = .ok (v : Int)) ∧
      ∀ f : BitVec 40, ∃ v : Nat, float40BigInt f.toNat = .ok (v : Int) ∧
        (∃ g, newFloat40 v = .ok g ∧ float40BigInt g = .ok (v : Int)) ∧
        (∃ b, float40Bytes f.toNat = .ok b ∧ float40FromBytes b = f.toNat) ∧ (float2FixWord f).toNat = v := by
  have hdecode : ∀ v f40 : Nat, newFloat40 v = .ok f40 → f40 < 2 ^ 40 ∧ float40BigInt f40 = .ok (v : Int) := by
    intro v f40 hok
    obtain ⟨hlt, hvalue, -⟩ := newFloat40_eq_ok hok
    rw [float40BigInt_of_lt hlt, hvalue]
    exact ⟨hlt, rfl⟩
  refine ⟨newFloat40_isOk_iff, hdecode, fun f => ?_⟩
  obtain ⟨g, hg⟩ := newFloat40_total f.isLt
  exact ⟨float40Value f.toNat, float40BigInt_of_lt f.isLt, ⟨g, hg, (hdecode _ g hg).2⟩,
    float40FromBytes_float40Bytes f.isLt, float2FixWord_toNat f⟩

/-! ### Rounding down -/

/-- The number of digits that the rounding encoders drop: the mantissa fits only after the last of them. -/
structure DigitsDropped (v k : Nat) : Prop where
  fits : v / 10 ^ k < 2 ^ 35
  before : ∀ j, j < k → 2 ^ 35 ≤ v / 10 ^ j

theorem div_pow_succ (v k : Nat) : v / 10 ^ (k + 1) = v / 10 / 10 ^ k := by
  rw [Nat.div_div_eq_div_mul, pow_succ, Nat.mul_comm]

theorem DigitsDropped.cons {v k : Nat} (hbig : 2 ^ 35 ≤ v) (h : DigitsDropped (v / 10) k) : DigitsDropped v (k + 1) where
  fits := by
    rw [div_pow_succ]
    exact h.fits
  before := by
    intro j hj
    cases j with
    | zero => simpa using hbig
    | succ j =>
      rw [div_pow_succ]
      exact h.before j (by omega)

theorem newFloat40FloorLoop_eq (v fuel e : Nat) (hfuel : v < 2 ^ fuel) :
    ∃ k, newFloat40FloorLoop fuel v e = (((v / 10 ^ k : Nat) : Int), e + k) ∧ DigitsDropped v k := by
  induction fuel generalizing v e with
  | zero =>
    obtain rfl : v = 0 := by omega
    exact ⟨0, by simp [newFloat40FloorLoop], ⟨by simp, by omega⟩⟩
  | succ fuel ih =>
    rw [newFloat40FloorLoop]
    by_cases hbig : thres ≤ (v : Int)
    · obtain ⟨k, hloop, hk⟩ := ih (v / 10) (e + 1) (by rw [pow_succ] at hfuel; omega)
      refine ⟨k + 1, ?_, hk.cons (by rw [thres] at hbig; omega)⟩
      rw [if_pos hbig, show (v : Int) / 10 = ((v / 10 : Nat) : Int) by omega, hloop, div_pow_succ, Nat.add_assoc,
        Nat.add_comm 1 k]
    · refine ⟨0, ?_, ⟨?_, by omega⟩⟩
      · rw [if_neg hbig]
        simp
      · rw [thres] at hbig
        simp only [pow_zero, Nat.div_one]
        omega

theorem floorCompressAmountLoop_eq (v fuel e : Nat) :
    floorCompressAmountLoop fuel v e = newFloat40FloorLoop fuel v e := by
  induction fuel generalizing v e with
  | zero => rfl
  | succ fuel ih =>
    have hdiv : ((v : Int).tdiv 0x800000000 ≠ 0) ↔ thres ≤ (v : Int) := by
      rw [Int.tdiv_eq_ediv_of_nonneg (Int.natCast_nonneg v), thres]
      omega
    have hten : (v : Int).tdiv 10 = ((v / 10 : Nat) : Int) := by
      rw [Int.tdiv_eq_ediv_of_nonneg (Int.natCast_nonneg v)]
      omega
    rw [floorCompressAmountLoop, newFloat40FloorLoop, if_congr hdiv rfl rfl, hten, ih,
      show (v : Int) / 10 = ((v / 10 : Nat) : Int) by omega]

theorem DigitsDropped.le_31 {v k : Nat} (h : DigitsDropped v k) (hv : v ≤ (2 ^ 35 - 1) * 10 ^ 31) : k ≤ 31 := by
  by_contra hk
  have hbig := h.before 31 (by omega)
  have hsmall : v / 10 ^ 31 ≤ 2 ^ 35 - 1 := Nat.div_le_of_le_mul (by rw [Nat.mul_comm]; exact hv)
  omega

theorem newFloat40Floor_eq {v : Nat} (hv : v ≤ (2 ^ 35 - 1) * 10 ^ 31) :
    ∃ k, DigitsDropped v k ∧ k ≤ 31 ∧ newFloat40Floor v = .ok (v / 10 ^ k + k * 2 ^ 35) := by
  obtain ⟨k, hloop, hk⟩ := newFloat40FloorLoop_eq v _ 0 (Nat.lt_log2_self (n := v))
  have hk31 := hk.le_31 hv
  refine ⟨k, hk, hk31, ?_⟩
  have hencoded : (((v / 10 ^ k : Nat) : Int) + (k : Int) * thres).natAbs % 2 ^ 64 = v / 10 ^ k + k * 2 ^ 35 := by
    have hfits := hk.fits
    rw [thres]
    generalize v / 10 ^ k = m at hfits ⊢
    omega
  rw [newFloat40Floor, Int.toNat_natCast, hloop]
  simp only [Nat.zero_add, hencoded]
  rw [if_neg (by omega)]

theorem floorCompressAmount_eq {v f40 : Nat} (hv : v ≤ (2 ^ 35 - 1) * 10 ^ 31) (h : newFloat40Floor v = .ok f40) :
    floorCompressAmount v = .ok (f40 : Int) := by
  obtain ⟨k, hk, hk31, hfloor⟩ := newFloat40Floor_eq hv
  obtain ⟨k', hloop, hk'⟩ := newFloat40FloorLoop_eq v _ 0 (Nat.lt_log2_self (n := v))
  rw [hfloor] at h
  cases h
  rw [floorCompressAmount]
  by_cases hzero : (v : Int) = 0
  · obtain rfl : v = 0 := by omega
    have hk0 : k = 0 := by
      by_contra hne
      have := hk.before 0 (by omega)
      simp at this
    subst hk0
    simp
  · have hsame : k' = k := by
      rcases Nat.lt_trichotomy k' k with hlt | heq | hlt
      · have := hk.before k' hlt
        have := hk'.fits
        omega
      · exact heq
      · have := hk'.before k hlt
        have := hk.fits
        omega
    rw [if_neg hzero, Int.natAbs_natCast, floorCompressAmountLoop_eq, hloop, hsame]
    simp only [Nat.zero_add]
    rw [if_neg (by omega)]
    push_cast
    rfl

/-- Just above the largest mantissa of an exponent: the next exponent can only express a smaller integer. -/
def AboveLargestMantissa (v : Nat) : Prop :=
  ∃ k, k ≤ 30 ∧ (v / 10 ^ k = 2 ^ 35 ∨ v / 10 ^ k = 2 ^ 35 + 1)

/-- No encodable integer lies between a rounded value and the integer it was rounded from. -/
def NoneBetween (low v : Nat) : Prop :=
  ∀ m e : Nat, m < 2 ^ 35 → e ≤ 31 → ¬(low < m * 10 ^ e ∧ m * 10 ^ e ≤ v)

theorem DigitsDropped.noneBetween {v k : Nat} (h : DigitsDropped v k) (hk31 : k ≤ 31) (hv : ¬AboveLargestMantissa v) :
    NoneBetween (v / 10 ^ k * 10 ^ k) v := by
  rintro m e hm - ⟨hlow, hhigh⟩
  rcases Nat.lt_or_ge e k with hlt | hge
  · -- a smaller exponent reaches at most the largest mantissa, which the dropped digit leaves behind
    obtain ⟨j, rfl⟩ : ∃ j, k = j + 1 := ⟨k - 1, by omega⟩
    have hbig := h.before j (by omega)
    have hne : v / 10 ^ j ≠ 2 ^ 35 ∧ v / 10 ^ j ≠ 2 ^ 35 + 1 := by
      constructor
      · exact fun heq => hv ⟨j, by omega, Or.inl heq⟩
      · exact fun heq => hv ⟨j, by omega, Or.inr heq⟩
    have hdiv : v / 10 ^ (j + 1) = v / 10 ^ j / 10 := by rw [Nat.div_div_eq_div_mul, pow_succ]
    have hmant : 3435973837 ≤ v / 10 ^ (j + 1) := by omega
    have hreach : m * 10 ^ e ≤ (2 ^ 35 - 1) * 10 ^ j :=
      Nat.mul_le_mul (by omega) (Nat.pow_le_pow_right (by omega) (by omega))
    have hvalue : 3435973837 * 10 ^ (j + 1) ≤ v / 10 ^ (j + 1) * 10 ^ (j + 1) := Nat.mul_le_mul_right _ hmant
    rw [pow_succ] at hvalue hlow
    have hpos : 0 < 10 ^ j := by positivity
    omega
  · -- with the same exponent or a larger one, the quotient is the largest mantissa that stays below
    obtain ⟨d, rfl⟩ : ∃ d, e = d + k := ⟨e - k, by omega⟩
    rw [pow_add, ← Nat.mul_assoc] at hlow hhigh
    have hquotient : m * 10 ^ d ≤ v / 10 ^ k := (Nat.le_div_iff_mul_le (by positivity)).mpr hhigh
    have := Nat.mul_le_mul_right (10 ^ k) hquotient
    omega

theorem DigitsDropped.not_noneBetween {v k : Nat} (h : DigitsDropped v k) (hv : AboveLargestMantissa v) :
    ¬NoneBetween (v / 10 ^ k * 10 ^ k) v := by
  obtain ⟨j, hj, hquotient⟩ := hv
  have hdiv : v / 10 ^ (j + 1) = 3435973836 := by
    rw [pow_succ, ← Nat.div_div_eq_div_mul]
    omega
  have hk : k = j + 1 := by
    rcases Nat.lt_trichotomy k (j + 1) with hlt | heq | hlt
    · have hle : v / 10 ^ j ≤ v / 10 ^ k :=
        Nat.div_le_div_left (Nat.pow_le_pow_right (by omega) (by omega)) (by positivity)
      have := h.fits
      omega
    · exact heq
    · have := h.before (j + 1) hlt
      omega
  intro hnone
  apply hnone (2 ^ 35 - 1) j (by omega) (by omega)
  have hle : v / 10 ^ j * 10 ^ j ≤ v := Nat.div_mul_le_self v (10 ^ j)
  have hpos : 0 < 10 ^ j := by positivity
  constructor
  · rw [hk, hdiv, pow_succ]
    omega
  · refine le_trans (Nat.mul_le_mul_right _ ?_) hle
    omega

/-- **Rounding down in node and SDK.**  Up to the largest encodable integer both succeed with the same 40 bits, which
stand for an integer that is not larger; no encodable integer lies in between exactly when the argument is not just
above the largest mantissa of an exponent. -/
theorem newFloat40Floor_optimal_iff (v : Nat) (hv : v ≤ (2 ^ 35 - 1) * 10 ^ 31) :
    ∃ f40 rounded : Nat, newFloat40Floor v = .ok f40 ∧ f40 < 2 ^ 40 ∧ float40BigInt f40 = .ok (rounded : Int) ∧
      rounded ≤ v ∧ (NoneBetween rounded v ↔ ¬AboveLargestMantissa v) ∧ floorCompressAmount v = .ok (f40 : Int) := by
  obtain ⟨k, hk, hk31, hfloor⟩ := newFloat40Floor_eq hv
  have hfits := hk.fits
  have hlt : v / 10 ^ k + k * 2 ^ 35 < 2 ^ 40 := by omega
  refine ⟨_, v / 10 ^ k * 10 ^ k, hfloor, hlt, ?_, Nat.div_mul_le_self v (10 ^ k), ?_, floorCompressAmount_eq hv hfloor⟩
  · rw [float40BigInt_of_lt hlt, float40Value_compose k hfits]
  · constructor
    · exact fun hnone habove => hk.not_noneBetween habove hnone
    · exact hk.noneBetween hk31

theorem newFloat40Floor_optimal_iff_large :
    992233445565738384875750 ≤ (2 ^ 35 - 1) * 10 ^ 31 ∧ ∃ f40 rounded : Nat,
      newFloat40Floor (992233445565738384875750 : Nat) = .ok f40 ∧ f40 < 2 ^ 40 ∧
      float40BigInt f40 = .ok (rounded : Int) ∧ rounded ≤ 992233445565738384875750 ∧
      (NoneBetween rounded 992233445565738384875750 ↔ ¬AboveLargestMantissa 992233445565738384875750) ∧
      floorCompressAmount (992233445565738384875750 : Nat) = .ok (f40 : Int) :=
  ⟨by norm_num, newFloat40Floor_optimal_iff _ (by norm_num)⟩

/-- The smallest integer above the mantissas of exponent zero is rounded down by eight, past the largest of them. -/
theorem newFloat40Floor_skips_largestMantissa :
    newFloat40Floor 34359738368 = .ok (3435973836 + 2 ^ 35) ∧
      float40BigInt (3435973836 + 2 ^ 35) = .ok 34359738360 ∧
      (34359738360 < 34359738367 * 10 ^ 0 ∧ 34359738367 * 10 ^ 0 ≤ 34359738368) ∧ (34359738367 : Nat) < 2 ^ 35 := by
  refine ⟨by decide +kernel, ?_, by norm_num, by norm_num⟩
  have hlt : 3435973836 + 1 * 2 ^ 35 < 2 ^ 40 := by norm_num
  have hvalue := float40BigInt_of_lt hlt
  rw [float40Value_compose 1 (by norm_num)] at hvalue
  simpa using hvalue

end HermezRollup
