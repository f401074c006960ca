import HermezRollup.Types

/-! The 40-bit decimal floats that encode amounts (`common/float40.go`): five bits of exponent over
35 bits of mantissa, standing for `m * 10 ^ e`.  A value can have several encodings; the encoder
`newFloat40` picks the one whose mantissa is as large as possible, and `Canonical` says which
encodings those are. -/

namespace HermezRollup

open Bytes

def maxFloat40Value : Nat := 0xffffffffff

/-- Mantissas stay below this bound. -/
def thres : Int := 0x0800000000

def float40Bytes (f40 : Nat) : Except Err Bytes :=
  if f40 > maxFloat40Value then .error .float40Overflow else .ok (bytesBE 5 f40)

def float40FromBytes (b : Bytes) : Nat :=
  natOfBytesBE b

/-- `BigInt`: the integer `m * 10 ^ e` of a float, the exponent taken from the first five bits of its
bytes and the mantissa from the other 35. -/
def float40BigInt (f40 : Nat) : Except Err Int := do
  let f40Uint64 := f40 &&& 0xFFFFFFFFFF
  let f40Bytes ← float40Bytes f40
  let e := (f40Bytes.headD 0 &&& 0xF8) >>> 3
  let m := f40Uint64 &&& 0x07FFFFFFFF
  return (m : Int) * 10 ^ e.toNat

/-- The loop of `NewFloat40`: strip trailing decimal zeros while the mantissa does not fit. -/
def newFloat40Loop : Nat → Int → Nat → Int × Nat
  | 0, m, e => (m, e)
  | fuel + 1, m, e => if m % 10 = 0 ∧ thres ≤ m then newFloat40Loop fuel (m / 10) (e + 1) else (m, e)

/-- `NewFloat40`.  The loop runs at most once per bit of its argument. -/
def newFloat40 (f : Int) : Except Err Nat :=
  let (m, e) := newFloat40Loop (f.toNat.log2 + 1) f 0
  if e > 31 then .error .float40E31
  else if thres ≤ m then .error .float40NotEnoughPrecission
  else .ok ((m + e * thres).natAbs % 2 ^ 64)

/-! ### Meaning of a float -/

def float40Mantissa (f40 : Nat) : Nat := f40 % 2 ^ 35

def float40Exponent (f40 : Nat) : Nat := f40 / 2 ^ 35

/-- The integer a float stands for. -/
def float40Value (f40 : Nat) : Nat := float40Mantissa f40 * 10 ^ float40Exponent f40

/-- The encodings `newFloat40` produces: no exponent, or a mantissa that could not be multiplied by
ten once more. -/
def Float40Canonical (f40 : Nat) : Prop :=
  float40Exponent f40 = 0 ∨ 2 ^ 35 ≤ 10 * float40Mantissa f40

instance (f40 : Nat) : Decidable (Float40Canonical f40) :=
  inferInstanceAs (Decidable (_ ∨ _))

theorem float40_split (f40 : Nat) : f40 = float40Mantissa f40 + float40Exponent f40 * 2 ^ 35 := by
  unfold float40Mantissa float40Exponent
  omega

private theorem topBits_toNat (x : UInt8) : ((x &&& 0xF8) >>> 3).toNat = x.toNat / 8 := by
  have hall : ∀ b : BitVec 8, ((UInt8.ofBitVec b &&& 0xF8) >>> 3).toNat = b.toNat / 8 := by decide
  exact hall x.toBitVec

theorem float40BigInt_of_lt {f40 : Nat} (h : f40 < 2 ^ 40) :
    float40BigInt f40 = .ok (float40Value f40 : Int) := by
  have hexp : (((bytesBE 5 f40).headD 0 &&& 0xF8) >>> 3).toNat = float40Exponent f40 := by
    rw [topBits_toNat, show (bytesBE 5 f40).headD 0 = UInt8.ofNat (f40 / 256 ^ 4) from rfl, UInt8.toNat_ofNat']
    unfold float40Exponent
    omega
  have hmant : f40 &&& 0xFFFFFFFFFF &&& 0x07FFFFFFFF = float40Mantissa f40 := by
    rw [show 0xFFFFFFFFFF = 2 ^ 40 - 1 from rfl, show 0x07FFFFFFFF = 2 ^ 35 - 1 from rfl,
      Nat.and_two_pow_sub_one_eq_mod, Nat.and_two_pow_sub_one_eq_mod, Nat.mod_eq_of_lt h]
    rfl
  rw [float40BigInt, float40Bytes, if_neg (by unfold maxFloat40Value; omega)]
  simp only [bind, Except.bind, pure, Except.pure, hexp, hmant, float40Value]
  push_cast
  rfl

/-! ### The encoder -/

/-- From `m * 10 ^ k` with a canonical mantissa the loop strips exactly the `k` factors. -/
theorem newFloat40Loop_exact (m : Nat) (hm : m < 2 ^ 35) (k e fuel : Nat) (hk : k = 0 ∨ 2 ^ 35 ≤ 10 * m)
    (hfuel : m * 10 ^ k < 2 ^ fuel) :
    newFloat40Loop fuel ((m * 10 ^ k : Nat) : Int) e = ((m : Int), e + k) := by
  induction k generalizing e fuel with
  | zero =>
    cases fuel with
    | zero => simp [newFloat40Loop]
    | succ fuel =>
      rw [newFloat40Loop, if_neg (by unfold thres; omega)]
      simp
  | succ k ih =>
    have hm10 : 2 ^ 35 ≤ 10 * m := by omega
    have hpow : m * 10 ^ (k + 1) = 10 * (m * 10 ^ k) := by ring
    have hone : 1 ≤ 10 ^ k := Nat.one_le_pow _ _ (by omega)
    have hle : m ≤ m * 10 ^ k := Nat.le_mul_of_pos_right m (by omega)
    cases fuel with
    | zero => omega
    | succ fuel =>
      rw [newFloat40Loop, if_pos (by unfold thres; omega), hpow]
      rw [show ((10 * (m * 10 ^ k) : Nat) : Int) / 10 = ((m * 10 ^ k : Nat) : Int) by omega,
        ih (e + 1) fuel (Or.inr hm10) (by rw [hpow, pow_succ] at hfuel; omega)]
      rw [Nat.add_assoc, Nat.add_comm 1 k]

theorem newFloat40Loop_value (v fuel e : Nat) (hfuel : v < 2 ^ fuel) :
    ∃ m k : Nat, newFloat40Loop fuel v e = ((m : Int), e + k) ∧ v = m * 10 ^ k ∧ (k = 0 ∨ 2 ^ 35 ≤ 10 * m) ∧
      (2 ^ 35 ≤ m → m % 10 ≠ 0) := by
  induction fuel generalizing v e with
  | zero =>
    obtain rfl : v = 0 := by omega
    exact ⟨0, 0, by simp [newFloat40Loop], by simp, by simp, by omega⟩
  | succ fuel ih =>
    rw [newFloat40Loop]
    by_cases hstep : (v : Int) % 10 = 0 ∧ thres ≤ (v : Int)
    · have hthres : 2 ^ 35 ≤ v := by unfold thres at hstep; omega
      obtain ⟨m, k, hrun, hv, hk, hstop⟩ := ih (v / 10) (e + 1) (by rw [pow_succ] at hfuel; omega)
      refine ⟨m, k + 1, ?_, ?_, ?_, hstop⟩
      · rw [if_pos hstep, show (v : Int) / 10 = ((v / 10 : Nat) : Int) by omega, hrun,
          Nat.add_assoc, Nat.add_comm 1 k]
      · rw [pow_succ, ← Nat.mul_assoc, ← hv]
        omega
      · rcases hk with rfl | hk
        · rw [pow_zero, Nat.mul_one] at hv
          right
          omega
        · exact Or.inr hk
    · refine ⟨v, 0, by rw [if_neg hstep]; simp, by simp, Or.inl rfl, fun hle => ?_⟩
      unfold thres at hstep
      omega

private theorem lt_two_pow_fuel (v : Nat) : v < 2 ^ ((v : Int).toNat.log2 + 1) := by
  rw [Int.toNat_natCast]
  exact Nat.lt_log2_self

/-- **The encoder inverts the decoder on canonical encodings.** -/
theorem newFloat40_float40Value {f40 : Nat} (h : f40 < 2 ^ 40) (hcanonical : Float40Canonical f40) :
    newFloat40 (float40Value f40) = .ok f40 := by
  have hm : float40Mantissa f40 < 2 ^ 35 := Nat.mod_lt _ (by positivity)
  have he : float40Exponent f40 ≤ 31 := by unfold float40Exponent; omega
  have hloop := newFloat40Loop_exact _ hm (float40Exponent f40) 0 _ hcanonical (lt_two_pow_fuel _)
  rw [newFloat40, float40Value, hloop]
  have hsplit := float40_split f40
  simp only [Nat.zero_add]
  rw [if_neg (by omega), if_neg (by unfold thres; omega)]
  unfold thres
  congr 1
  omega

/-- **What the encoder returns**: the canonical encoding of its argument. -/
theorem newFloat40_eq_ok {v f40 : Nat} (h : newFloat40 v = .ok f40) :
    f40 < 2 ^ 40 ∧ float40Value f40 = v ∧ Float40Canonical f40 := by
  obtain ⟨m, e, hloop, hv, hk, -⟩ := newFloat40Loop_value v _ 0 (lt_two_pow_fuel v)
  rw [newFloat40, hloop, Nat.zero_add] at h
  simp only at h
  split_ifs at h with he hm
  have hf : f40 = m + e * 2 ^ 35 := by
    unfold thres at h hm
    have := Except.ok.inj h
    omega
  have hmant : float40Mantissa f40 = m := by
    unfold thres at hm
    unfold float40Mantissa
    omega
  have hexp : float40Exponent f40 = e := by
    unfold thres at hm
    unfold float40Exponent
    omega
  refine ⟨by unfold thres at hm; omega, ?_, ?_⟩
  · rw [float40Value, hmant, hexp, hv]
  · rw [Float40Canonical, hmant, hexp]
    exact hk

theorem newFloat40_total {f40 : Nat} (h : f40 < 2 ^ 40) : ∃ g, newFloat40 (float40Value f40) = .ok g := by
  obtain ⟨m, e, hloop, hv, hk, hstop⟩ := newFloat40Loop_value (float40Value f40) _ 0 (lt_two_pow_fuel _)
  have hm0 : float40Mantissa f40 < 2 ^ 35 := Nat.mod_lt _ (by positivity)
  have he0 : float40Exponent f40 ≤ 31 := by unfold float40Exponent; omega
  rw [newFloat40, hloop, Nat.zero_add]
  simp only
  -- the loop cannot have stripped more zeros than the exponent, nor stopped above the bound before it
  have hpow : ∀ a b : Nat, float40Mantissa f40 * 10 ^ (a + b) = m * 10 ^ b → float40Mantissa f40 * 10 ^ a = m := by
    intro a b hab
    rw [pow_add, ← Nat.mul_assoc] at hab
    exact Nat.eq_of_mul_eq_mul_right (by positivity) hab
  unfold float40Value at hv
  rcases Nat.lt_or_ge (float40Exponent f40) e with hlt | hge
  · -- more zeros than the exponent: then `10 * m` would divide into the small mantissa
    exfalso
    obtain ⟨d, rfl⟩ : ∃ d, e = float40Exponent f40 + (d + 1) := ⟨e - float40Exponent f40 - 1, by omega⟩
    rw [Nat.add_comm, pow_add, ← Nat.mul_assoc] at hv
    have hmant : float40Mantissa f40 = m * 10 ^ (d + 1) := Nat.eq_of_mul_eq_mul_right (by positivity) hv
    have hge10 : 10 * m ≤ m * 10 ^ (d + 1) := by
      rw [pow_succ, Nat.mul_comm 10 m, ← Nat.mul_assoc, Nat.mul_right_comm]
      exact Nat.le_mul_of_pos_right _ (by positivity)
    omega
  · obtain ⟨d, hd⟩ : ∃ d, float40Exponent f40 = d + e := ⟨float40Exponent f40 - e, by omega⟩
    rw [hd] at hv
    have hm : float40Mantissa f40 * 10 ^ d = m := hpow d e hv
    have hsmall : m < 2 ^ 35 := by
      by_contra hbig
      have hmod : m % 10 ≠ 0 := hstop (by omega)
      cases d with
      | zero => rw [pow_zero, Nat.mul_one] at hm; omega
      | succ d =>
        apply hmod
        rw [← hm, pow_succ, ← Nat.mul_assoc, Nat.mul_mod_left]
    rw [if_neg (by omega), if_neg (by unfold thres; omega)]
    exact ⟨_, rfl⟩

end HermezRollup
