import HermezRollup.Bytes
import Mathlib.Data.Nat.Digits.Lemmas

/-! Numbers and bytes as texts: positional numerals, hexadecimal byte strings and the URL alphabet of base 64.
A text is a list of characters.  Base 64 goes through sextets, numbers below 64: three bytes are regrouped as
four sextets, and a sextet is a character of the alphabet. -/

abbrev Text := List Char

namespace Text

open Bytes

/-! ### Numerals -/

/-- The value of a digit; letters of either case are digits above nine. -/
def digitValue (c : Char) : Option Nat :=
  if '0' ≤ c ∧ c ≤ '9' then some (c.toNat - '0'.toNat)
  else if 'a' ≤ c ∧ c ≤ 'f' then some (c.toNat - 'a'.toNat + 10)
  else if 'A' ≤ c ∧ c ≤ 'F' then some (c.toNat - 'A'.toNat + 10)
  else none

def readNumeral (base : Nat) (text : Text) : Option Nat :=
  text.foldlM (fun acc c => do
    let d ← (digitValue c).filter (· < base)
    return acc * base + d) 0

def numeral (base n : Nat) : Text :=
  if n = 0 then ['0'] else (Nat.digits base n).reverse.map Nat.digitChar

/-- A numeral filled up with zeros from the left. -/
def padZeros (text : Text) (length : Nat) : Text :=
  List.replicate (length - text.length) '0' ++ text

/-- The last digits of a number, a fixed count of them. -/
def fixedNumeral (base : Nat) : Nat → Nat → Text
  | 0, _ => []
  | width + 1, n => Nat.digitChar (n / base ^ width % base) :: fixedNumeral base width n

/-- The bytes of a hexadecimal text, two digits each; reading stops where two digits are missing. -/
def hexBytes : Text → Bytes
  | c :: d :: text =>
    match digitValue c, digitValue d with
    | some x, some y => UInt8.ofNat (x * 16 + y) :: hexBytes text
    | _, _ => []
  | _ => []

variable {base : Nat}

theorem digitValue_digitChar {d : Nat} (h : d < 16) : digitValue (Nat.digitChar d) = some d := by
  have hall : ∀ d < 16, digitValue (Nat.digitChar d) = some d := by decide
  exact hall d h

theorem filter_digitValue {d : Nat} (hbase : base ≤ 16) (h : d < base) :
    (digitValue (Nat.digitChar d)).filter (· < base) = some d := by
  rw [digitValue_digitChar (h.trans_le hbase)]
  simp [Option.filter, h]

theorem numeral_of_lt {n : Nat} (h : n < base) : numeral base n = [Nat.digitChar n] := by
  unfold numeral
  split
  next hzero =>
    rw [hzero]
    rfl
  next hpos =>
    rw [Nat.digits_of_lt base n hpos h]
    rfl

theorem numeral_of_le {n : Nat} (hbase : 1 < base) (h : base ≤ n) :
    numeral base n = numeral base (n / base) ++ [Nat.digitChar (n % base)] := by
  have hdiv : n / base ≠ 0 := (Nat.div_pos h (by omega)).ne'
  rw [numeral, numeral, if_neg (by omega), if_neg hdiv, Nat.digits_def' hbase (by omega)]
  simp

theorem fixedNumeral_succ (width n : Nat) :
    fixedNumeral base (width + 1) n = fixedNumeral base width (n / base) ++ [Nat.digitChar (n % base)] := by
  induction width with
  | zero => simp [fixedNumeral]
  | succ width ih =>
    rw [fixedNumeral, ih, fixedNumeral, Nat.div_div_eq_div_mul, ← Nat.pow_succ']
    rfl

theorem fixedNumeral_zero (width : Nat) : fixedNumeral base width 0 = List.replicate width '0' := by
  induction width with
  | zero => rfl
  | succ width ih =>
    rw [fixedNumeral, ih, Nat.zero_div, Nat.zero_mod, List.replicate_succ]
    rfl

theorem padZeros_numeral (hbase : 1 < base) {width n : Nat} (hwidth : 0 < width) (h : n < base ^ width) :
    padZeros (numeral base n) width = fixedNumeral base width n := by
  induction width generalizing n with
  | zero => exact absurd hwidth (lt_irrefl 0)
  | succ width ih =>
    rcases Nat.lt_or_ge n base with hlt | hge
    · rw [numeral_of_lt hlt, fixedNumeral_succ, Nat.div_eq_of_lt hlt, Nat.mod_eq_of_lt hlt, fixedNumeral_zero]
      rfl
    · have hpos : 0 < width := by
        rcases Nat.eq_zero_or_pos width with rfl | hpos
        · rw [Nat.zero_add, Nat.pow_one] at h
          omega
        · exact hpos
      have hdiv : n / base < base ^ width := by
        rw [Nat.div_lt_iff_lt_mul (by omega), ← Nat.pow_succ]
        exact h
      rw [numeral_of_le hbase hge, fixedNumeral_succ, ← ih hpos hdiv, padZeros, padZeros, List.length_append,
        List.length_singleton, Nat.add_sub_add_right, List.append_assoc]

theorem readNumeral_append (text : Text) (c : Char) :
    readNumeral base (text ++ [c]) = do
      let n ← readNumeral base text
      let d ← (digitValue c).filter (· < base)
      return n * base + d := by
  rw [readNumeral, List.foldlM_append]
  simp only [List.foldlM_cons, List.foldlM_nil, bind_pure]
  rfl

theorem readNumeral_numeral (hbase : 1 < base) (hbase' : base ≤ 16) (n : Nat) :
    readNumeral base (numeral base n) = some n := by
  induction n using Nat.strong_induction_on with
  | _ n ih =>
    rcases Nat.lt_or_ge n base with hlt | hge
    · rw [numeral_of_lt hlt, ← List.nil_append [Nat.digitChar n], readNumeral_append, filter_digitValue hbase' hlt]
      simp [readNumeral]
    · rw [numeral_of_le hbase hge, readNumeral_append, ih _ (Nat.div_lt_self (by omega) hbase),
        filter_digitValue hbase' (Nat.mod_lt n (by omega))]
      exact congrArg some (Nat.div_add_mod' n base)

theorem readNumeral_replicate (hbase : 0 < base) (zeros : Nat) (text : Text) :
    readNumeral base (List.replicate zeros '0' ++ text) = readNumeral base text := by
  have hzero : (digitValue '0').filter (· < base) = some 0 := by
    rw [show digitValue '0' = some 0 from rfl]
    simp [Option.filter, hbase]
  induction zeros with
  | zero => rfl
  | succ zeros ih =>
    rw [List.replicate_succ, List.cons_append, readNumeral, List.foldlM_cons, hzero]
    simp only [Option.pure_def, Option.bind_eq_bind, Option.bind_some, Nat.zero_mul, Nat.zero_add]
    exact ih

theorem hexBytes_fixedNumeral (width n : Nat) : hexBytes (fixedNumeral 16 (2 * width) n) = bytesBE width n := by
  induction width with
  | zero => rfl
  | succ width ih =>
    have hbyte : n / 16 ^ (2 * width + 1) % 16 * 16 + n / 16 ^ (2 * width) % 16 = n / 256 ^ width % 256 := by
      rw [Nat.pow_succ, ← Nat.div_div_eq_div_mul, Nat.pow_mul, show 16 ^ 2 = 256 from rfl]
      omega
    rw [Nat.mul_succ, fixedNumeral, fixedNumeral, hexBytes, digitValue_digitChar (Nat.mod_lt _ (by decide)),
      digitValue_digitChar (Nat.mod_lt _ (by decide)), ih, bytesBE]
    dsimp only
    rw [hbyte]
    congr 1
    rw [← UInt8.toNat_inj, UInt8.toNat_ofNat', UInt8.toNat_ofNat', Nat.mod_mod]

/-! ### Base 64 -/

/-- The alphabet for URLs and file names. -/
def urlAlphabet : List Char :=
  ['A', 'B', 'C', 'D', 'E', 'F', 'G', 'H', 'I', 'J', 'K', 'L', 'M', 'N', 'O', 'P', 'Q', 'R', 'S', 'T', 'U', 'V',
    'W', 'X', 'Y', 'Z', 'a', 'b', 'c', 'd', 'e', 'f', 'g', 'h', 'i', 'j', 'k', 'l', 'm', 'n', 'o', 'p', 'q', 'r',
    's', 't', 'u', 'v', 'w', 'x', 'y', 'z', '0', '1', '2', '3', '4', '5', '6', '7', '8', '9', '-', '_']

def urlChar (sextet : Nat) : Char :=
  urlAlphabet.getD sextet 'A'

def urlSextet (c : Char) : Option Nat :=
  urlAlphabet.findIdx? (· = c)

/-- Three bytes are four sextets; what is left over at the end is filled up with zero bits. -/
def toSextets : Bytes → List Nat
  | a :: b :: c :: bytes =>
    a.toNat / 4 :: (a.toNat % 4 * 16 + b.toNat / 16) :: (b.toNat % 16 * 4 + c.toNat / 64) :: c.toNat % 64 ::
      toSextets bytes
  | [a, b] => [a.toNat / 4, a.toNat % 4 * 16 + b.toNat / 16, b.toNat % 16 * 4]
  | [a] => [a.toNat / 4, a.toNat % 4 * 16]
  | [] => []

/-- Four sextets are three bytes; a sextet alone is not a byte. -/
def ofSextets : List Nat → Bytes
  | w :: x :: y :: z :: sextets =>
    UInt8.ofNat (w * 4 + x / 16) :: UInt8.ofNat (x % 16 * 16 + y / 4) :: UInt8.ofNat (y % 4 * 64 + z) ::
      ofSextets sextets
  | [w, x, y] => [UInt8.ofNat (w * 4 + x / 16), UInt8.ofNat (x % 16 * 16 + y / 4)]
  | [w, x] => [UInt8.ofNat (w * 4 + x / 16)]
  | [_] => []
  | [] => []

def encodeURL (bytes : Bytes) : Text :=
  (toSextets bytes).map urlChar

theorem length_urlAlphabet : urlAlphabet.length = 64 :=
  rfl

theorem urlChar_eq_getElem {sextet : Nat} (h : sextet < urlAlphabet.length) : urlChar sextet = urlAlphabet[sextet] := by
  rw [urlChar, List.getD_eq_getElem?_getD, List.getElem?_eq_getElem h, Option.getD_some]

theorem urlChar_mem {sextet : Nat} (h : sextet < 64) : urlChar sextet ∈ urlAlphabet := by
  rw [← length_urlAlphabet] at h
  rw [urlChar_eq_getElem h]
  exact List.getElem_mem h

theorem urlSextet_urlChar {sextet : Nat} (h : sextet < 64) : urlSextet (urlChar sextet) = some sextet := by
  have hall : ∀ sextet < 64, urlSextet (urlChar sextet) = some sextet := by decide +kernel
  exact hall sextet h

theorem urlChar_of_urlSextet {c : Char} {sextet : Nat} (h : urlSextet c = some sextet) :
    sextet < 64 ∧ urlChar sextet = c := by
  obtain ⟨hlt, hc, -⟩ := List.findIdx?_eq_some_iff_getElem.mp h
  refine ⟨by rwa [length_urlAlphabet] at hlt, ?_⟩
  rw [urlChar_eq_getElem hlt]
  exact of_decide_eq_true hc

theorem ofSextets_toSextets (bytes : Bytes) : ofSextets (toSextets bytes) = bytes := by
  have hbyte : ∀ (x : UInt8) {n : Nat}, n = x.toNat → UInt8.ofNat n = x := by
    rintro x n rfl
    exact UInt8.ofNat_toNat
  induction bytes using toSextets.induct with
  | case1 a b c bytes ih =>
    have hb := b.toNat_lt
    have hc := c.toNat_lt
    rw [toSextets, ofSextets, ih, hbyte a (by omega), hbyte b (by omega), hbyte c (by omega)]
  | case2 a b =>
    have hb := b.toNat_lt
    rw [toSextets, ofSextets, hbyte a (by omega), hbyte b (by omega)]
  | case3 a => rw [toSextets, ofSextets, hbyte a (by omega)]
  | case4 => rfl

theorem toSextets_lt (bytes : Bytes) : ∀ sextet ∈ toSextets bytes, sextet < 64 := by
  induction bytes using toSextets.induct with
  | case1 a b c bytes ih =>
    have ha := a.toNat_lt
    have hb := b.toNat_lt
    have hc := c.toNat_lt
    rw [toSextets]
    simp only [List.forall_mem_cons]
    exact ⟨by omega, by omega, by omega, by omega, ih⟩
  | case2 a b =>
    have ha := a.toNat_lt
    have hb := b.toNat_lt
    simp only [toSextets, List.forall_mem_cons]
    exact ⟨by omega, by omega, by omega, by simp⟩
  | case3 a =>
    have ha := a.toNat_lt
    simp only [toSextets, List.forall_mem_cons]
    exact ⟨by omega, by omega, by simp⟩
  | case4 => simp [toSextets]

theorem length_toSextets {bytes : Bytes} (h : bytes.length % 3 = 0) :
    (toSextets bytes).length = bytes.length / 3 * 4 := by
  induction bytes using toSextets.induct with
  | case1 a b c bytes ih =>
    simp only [List.length_cons] at h
    simp only [toSextets, List.length_cons, ih (by omega)]
    omega
  | case2 a b => simp at h
  | case3 a => simp at h
  | case4 => rfl

theorem ofSextets_append {first : List Nat} (h : first.length % 4 = 0) (second : List Nat) :
    ofSextets (first ++ second) = ofSextets first ++ ofSextets second := by
  induction first using ofSextets.induct with
  | case1 w x y z sextets ih =>
    simp only [List.length_cons] at h
    simp only [List.cons_append, ofSextets, ih (by omega)]
  | case2 w x y => simp at h
  | case3 w x => simp at h
  | case4 w => simp at h
  | case5 => rfl

theorem length_ofSextets {sextets : List Nat} (h : sextets.length % 4 = 0) :
    (ofSextets sextets).length = sextets.length / 4 * 3 := by
  induction sextets using ofSextets.induct with
  | case1 w x y z sextets ih =>
    simp only [List.length_cons] at h
    simp only [ofSextets, List.length_cons, ih (by omega)]
    omega
  | case2 w x y => simp at h
  | case3 w x => simp at h
  | case4 w => simp at h
  | case5 => rfl

end Text
