import HermezRollup.Fallible
import HermezRollup.TextEncodings
import HermezRollup.Types

/-! Baby Jubjub keys as texts.  The node (`common/converters.go`, `common/apitypes`) and the SDK (`addresses.js`)
write a key as `hez:` and 44 characters: the 32 bytes of the key and a checksum byte, their sum, in base 64.
Both agree on the text of a key, and a text with one wrong character is refused by all readers, because one
character changes the difference between sum and checksum by less than a full turn. -/

namespace HermezRollup

open Bytes Fallible Text

def hermezPrefix : Text := ['h', 'e', 'z', ':']

/-! ### The node -/

/-- `strings.Split`; the number counts the characters of the separator that are still to be skipped. -/
def splitAround (sep : Text) : Nat → Text → List Text
  | _, [] => [[]]
  | skip + 1, _ :: text => splitAround sep skip text
  | 0, c :: text =>
    if sep.isPrefixOf (c :: text) then [] :: splitAround sep (sep.length - 1) text
    else match splitAround sep 0 text with
      | [] => [[c]]
      | part :: parts => (c :: part) :: parts

def byteLength (text : Text) : Nat :=
  (text.map Char.utf8Size).sum

/-- The sextets of a text, with the offset of a character outside the alphabet as the error; line breaks are
skipped. -/
def readSextets : Nat → Text → Except Nat (List Nat)
  | _, [] => .ok []
  | offset, c :: text =>
    if c = '\r' ∨ c = '\n' then readSextets (offset + 1) text
    else match urlSextet c with
      | none => .error offset
      | some sextet => do
        let sextets ← readSextets (offset + c.utf8Size) text
        return sextet :: sextets

/-- `base64.RawURLEncoding.DecodeString`; the error is the offset of the corrupt input. -/
def decodeString (text : Text) : Except Nat Bytes := do
  let sextets ← readSextets 0 text
  if sextets.length % 4 = 1 then .error (byteLength text - 1) else .ok (ofSextets sextets)

def corruptInputError (offset : Nat) : String :=
  s!"illegal base64 data at input byte {offset}"

def checksum : Bytes → UInt8
  | [] => 0
  | x :: bytes => bytes.foldl (· + ·) x

/-- `NewHezBJJ`. -/
def newHezBJJ (pkComp : PublicKeyComp) : Text :=
  hermezPrefix ++ encodeURL (pkComp.bytes ++ [checksum pkComp.bytes])

/-- `HezStringToBJJ`: the empty text is no key. -/
def hezStringToBJJ (bjjStr : Text) (name : String) : Except String (Option PublicKeyComp) :=
  if bjjStr = [] then .ok none
  else match splitAround hermezPrefix 0 bjjStr with
    | [_, encoded] =>
      if byteLength encoded ≠ 44 then
        .error s!"Invalid {name}, must follow this regex: ^hez:[A-Za-z0-9+/=]\x7b44\x7d$"
      else match decodeString encoded with
        | .error offset => .error s!"Invalid {name}, error decoding base64 string: {corruptInputError offset}"
        | .ok decoded =>
          if decoded.length ≠ 33 then
            .error s!"invalid {name}, error decoding base64 string: unexpected byte array length"
          else if decoded.getD 32 0 ≠ checksum (decoded.take 32) then .error s!"invalid {name}, checksum failed"
          else .ok (some (publicKeyCompFromBytes (decoded.take 32)))
    | _ => .error s!"Invalid {name}, must follow this regex: ^hez:[A-Za-z0-9+/=]\x7b44\x7d$"

/-- `hezStrToBJJ`: here the first four characters may be missing. -/
def hezStrToBJJ (text : Text) : Except String PublicKeyComp :=
  let formatErr := "invalid BJJ format. Must follow this regex: ^hez:[A-Za-z0-9_-]\x7b44\x7d$"
  let encoded := if hermezPrefix.isPrefixOf text then text.drop hermezPrefix.length else text
  if byteLength encoded ≠ 44 then .error formatErr
  else match decodeString encoded with
    | .error _ => .error formatErr
    | .ok decoded =>
      if decoded.length ≠ 33 then .error formatErr
      else if decoded.getD 32 0 ≠ checksum (decoded.take 32) then .error "checksum verification failed"
      else .ok (publicKeyCompFromBytes (decoded.take 32))

/-! ### The SDK -/

/-- The functions of `ffjavascript` and `base64url` that the SDK calls, which are not part of this repository,
and what is assumed of them. -/
class SdkLibraries where
  /-- `Scalar.fromString` of a hexadecimal text. -/
  scalarFromHex : Text → Except String Nat
  leInt2Buff : (n len : Nat) → Except String Bytes
  leBuff2int : Bytes → Nat
  beBuff2int : Bytes → Nat
  /-- `base64url.encode`. -/
  encode : Bytes → Text
  /-- `base64url.toBuffer`; `base64url.decode` gives the same bytes. -/
  toBuffer : Text → Bytes
  scalarFromHex_of_read : ∀ {digits n}, digits ≠ [] → readNumeral 16 digits = some n → scalarFromHex digits = .ok n
  leInt2Buff_of_lt : ∀ {n len}, n < 256 ^ len → leInt2Buff n len = .ok (swapEndianness (bytesBE len n))
  leBuff2int_eq : ∀ buff, leBuff2int buff = natOfBytesBE (swapEndianness buff)
  beBuff2int_eq : ∀ buff, beBuff2int buff = natOfBytesBE buff
  encode_eq : ∀ bytes, encode bytes = encodeURL bytes
  toBuffer_map : ∀ {sextets}, (∀ x ∈ sextets, x < 64) → toBuffer (sextets.map urlChar) = ofSextets sextets

open SdkLibraries

def bjjSwapBuffer [SdkLibraries] (bjjCompressedHex : Text) : Except String Bytes := do
  let bjjScalar ← scalarFromHex bjjCompressedHex
  let bjjBuff ← leInt2Buff bjjScalar 32
  let bjjSwap := padZeros (numeral 16 (beBuff2int bjjBuff)) 64
  return hexBytes bjjSwap

/-- The sum of bytes, reduced at every step. -/
def sumBytes (buff : Bytes) : Nat :=
  buff.foldl (fun sum x => (sum + x.toNat) % 2 ^ 8) 0

def hexToBase64BJJ [SdkLibraries] (bjjCompressedHex : Text) : Except String Text := do
  let bjjSwapBuffer ← bjjSwapBuffer bjjCompressedHex
  let sumBuff := [UInt8.ofNat (sumBytes bjjSwapBuffer)]
  return hermezPrefix ++ encode (bjjSwapBuffer ++ sumBuff)

/-- `replace` with the empty text: the first occurrence is taken out. -/
def withoutFirst (sub : Text) : Text → Text
  | [] => []
  | c :: text => if sub.isPrefixOf (c :: text) then (c :: text).drop sub.length else c :: withoutFirst sub text

def base64ToHexBJJ [SdkLibraries] (base64BJJ : Text) : Text :=
  let bjjSwapBuff := (toBuffer (withoutFirst hermezPrefix base64BJJ)).take 32
  padZeros (numeral 16 (leBuff2int bjjSwapBuff)) 64

/-- `bjjAddressPattern`. -/
def bjjAddressPattern (text : Text) : Bool :=
  hermezPrefix.isPrefixOf text && (text.drop hermezPrefix.length).length = 44 &&
    (text.drop hermezPrefix.length).all fun c => (urlSextet c).isSome

def isHermezBjjAddress [SdkLibraries] (bjjAddress : Text) : Except String Bool :=
  if !bjjAddressPattern bjjAddress then .ok false
  else do
    let bjjSwapBuffer ← bjjSwapBuffer (base64ToHexBJJ bjjAddress)
    let bjjDecodedBuffer := toBuffer (withoutFirst hermezPrefix bjjAddress)
    return bjjDecodedBuffer.getLast?.map UInt8.toNat = some (sumBytes bjjSwapBuffer)

/-! ### Sums of bytes -/

def totalBytes (bytes : Bytes) : Nat :=
  (bytes.map UInt8.toNat).sum

@[simp] theorem totalBytes_append (a b : Bytes) : totalBytes (a ++ b) = totalBytes a + totalBytes b := by
  simp [totalBytes]

theorem toNat_foldl_add (bytes : Bytes) (x : UInt8) :
    (bytes.foldl (· + ·) x).toNat = (x.toNat + totalBytes bytes) % 256 := by
  induction bytes generalizing x with
  | nil =>
    have hx := x.toNat_lt
    simp only [List.foldl_nil, totalBytes, List.map_nil, List.sum_nil]
    omega
  | cons y bytes ih =>
    rw [List.foldl_cons, ih, UInt8.toNat_add]
    simp only [totalBytes, List.map_cons, List.sum_cons]
    omega

theorem toNat_checksum (bytes : Bytes) : (checksum bytes).toNat = totalBytes bytes % 256 := by
  cases bytes with
  | nil => rfl
  | cons x bytes =>
    rw [checksum, toNat_foldl_add]
    simp [totalBytes]

theorem foldl_sum (bytes : Bytes) {sum : Nat} (hsum : sum < 256) :
    bytes.foldl (fun sum x => (sum + x.toNat) % 2 ^ 8) sum = (sum + totalBytes bytes) % 256 := by
  induction bytes generalizing sum with
  | nil =>
    simp only [List.foldl_nil, totalBytes, List.map_nil, List.sum_nil]
    omega
  | cons y bytes ih =>
    have hlt : (sum + y.toNat) % 2 ^ 8 < 256 := Nat.mod_lt _ (by decide)
    rw [List.foldl_cons, ih hlt]
    simp only [totalBytes, List.map_cons, List.sum_cons]
    omega

theorem sumBytes_eq (bytes : Bytes) : sumBytes bytes = totalBytes bytes % 256 := by
  rw [sumBytes, foldl_sum bytes (by decide), Nat.zero_add]

/-! ### Checksums

The bytes behind a text hold their checksum if the last byte is the sum of the others. -/

def Checked (decoded : Bytes) : Prop :=
  decoded.getD 32 0 = checksum (decoded.take 32)

instance (decoded : Bytes) : Decidable (Checked decoded) :=
  inferInstanceAs (Decidable (_ = _))

theorem checked_concat {key : Bytes} (hkey : key.length = 32) (last : UInt8) :
    Checked (key ++ [last]) ↔ last.toNat = totalBytes key % 256 := by
  rw [Checked, ← hkey, List.take_left, ← toNat_checksum, ← UInt8.toNat_inj]
  simp

/-- Sextets that differ in one place. -/
inductive OneWrong : List Nat → List Nat → Prop
  | first {w w' x y z : Nat} (h : w ≠ w') : OneWrong [w, x, y, z] [w', x, y, z]
  | second {w x x' y z : Nat} (h : x ≠ x') : OneWrong [w, x, y, z] [w, x', y, z]
  | third {w x y y' z : Nat} (h : y ≠ y') : OneWrong [w, x, y, z] [w, x, y', z]
  | fourth {w x y z z' : Nat} (h : z ≠ z') : OneWrong [w, x, y, z] [w, x, y, z']

theorem ofSextets_toNat {w x y z : Nat} (hw : w < 64) (hx : x < 64) (hy : y < 64) (hz : z < 64) :
    (ofSextets [w, x, y, z]).map UInt8.toNat = [w * 4 + x / 16, x % 16 * 16 + y / 4, y % 4 * 64 + z] := by
  have hbyte : ∀ {n : Nat}, n < 256 → (UInt8.ofNat n).toNat = n := fun h => by
    rw [UInt8.toNat_ofNat', Nat.mod_eq_of_lt h]
  simp only [ofSextets, List.map_cons, List.map_nil]
  rw [hbyte (by omega), hbyte (by omega), hbyte (by omega)]

theorem second_share_ne {x x' : Nat} (hx : x < 64) (hx' : x' < 64) (h : x ≠ x') :
    (x / 16 + x % 16 * 16) % 256 ≠ (x' / 16 + x' % 16 * 16) % 256 := by
  have hlow : x / 16 < 4 ∧ x' / 16 < 4 := by omega
  have hhigh : x % 16 < 16 ∧ x' % 16 < 16 := by omega
  have hsplit : ¬(x / 16 = x' / 16 ∧ x % 16 = x' % 16) := by omega
  generalize x / 16 = low, x' / 16 = low', x % 16 = high, x' % 16 = high' at hlow hhigh hsplit ⊢
  rw [Nat.mod_eq_of_lt (by omega), Nat.mod_eq_of_lt (by omega)]
  omega

theorem third_share_ne {y y' : Nat} (hy : y < 64) (hy' : y' < 64) (h : y ≠ y') :
    (y / 4 + y % 4 * 64) % 256 ≠ (y' / 4 + y' % 4 * 64) % 256 ∧
      (y / 4 + y' % 4 * 64) % 256 ≠ (y' / 4 + y % 4 * 64) % 256 := by
  have hlow : y / 4 < 16 ∧ y' / 4 < 16 := by omega
  have hhigh : y % 4 < 4 ∧ y' % 4 < 4 := by omega
  have hsplit : ¬(y / 4 = y' / 4 ∧ y % 4 = y' % 4) := by omega
  generalize y / 4 = low, y' / 4 = low', y % 4 = high, y' % 4 = high' at hlow hhigh hsplit ⊢
  rw [Nat.mod_eq_of_lt (by omega), Nat.mod_eq_of_lt (by omega), Nat.mod_eq_of_lt (by omega), Nat.mod_eq_of_lt (by omega)]
  omega

/-- A wrong sextet changes the sum of three bytes, and also their sum when the last one is counted against
the others. -/
theorem OneWrong.sum_ne {group group' : List Nat} (h : OneWrong group group') (hlt : ∀ x ∈ group, x < 64)
    (hlt' : ∀ x ∈ group', x < 64) : ∃ p q r p' q' r' : Nat, (ofSextets group).map UInt8.toNat = [p, q, r] ∧
      (ofSextets group').map UInt8.toNat = [p', q', r'] ∧ (p + q + r) % 256 ≠ (p' + q' + r') % 256 ∧
      (p + q + r') % 256 ≠ (p' + q' + r) % 256 := by
  cases h with
  | first h =>
    simp only [List.forall_mem_cons] at hlt hlt'
    obtain ⟨hw, hx, hy, hz, -⟩ := hlt
    refine ⟨_, _, _, _, _, _, ofSextets_toNat hw hx hy hz, ofSextets_toNat hlt'.1 hx hy hz, ?_, ?_⟩ <;> omega
  | second h =>
    simp only [List.forall_mem_cons] at hlt hlt'
    obtain ⟨hw, hx, hy, hz, -⟩ := hlt
    have hsum := second_share_ne hx hlt'.2.1 h
    refine ⟨_, _, _, _, _, _, ofSextets_toNat hw hx hy hz, ofSextets_toNat hw hlt'.2.1 hy hz, ?_, ?_⟩
    · intro heq
      exact hsum (by omega)
    · intro heq
      exact hsum (by omega)
  | third h =>
    simp only [List.forall_mem_cons] at hlt hlt'
    obtain ⟨hw, hx, hy, hz, -⟩ := hlt
    obtain ⟨hsum, hagainst⟩ := third_share_ne hy hlt'.2.2.1 h
    refine ⟨_, _, _, _, _, _, ofSextets_toNat hw hx hy hz, ofSextets_toNat hw hx hlt'.2.2.1 hz, ?_, ?_⟩
    · intro heq
      exact hsum (by omega)
    · intro heq
      exact hagainst (by omega)
  | fourth h =>
    simp only [List.forall_mem_cons] at hlt hlt'
    obtain ⟨hw, hx, hy, hz, -⟩ := hlt
    refine ⟨_, _, _, _, _, _, ofSextets_toNat hw hx hy hz, ofSextets_toNat hw hx hy hlt'.2.2.2.1, ?_, ?_⟩ <;> omega

theorem oneWrong_set {sextets : List Nat} (hlength : sextets.length % 4 = 0) {i v : Nat} (hi : i < sextets.length)
    (hne : sextets[i]? ≠ some v) :
    ∃ before group group' behind, before.length % 4 = 0 ∧ sextets = before ++ group ++ behind ∧
      sextets.set i v = before ++ group' ++ behind ∧ OneWrong group group' := by
  induction sextets using ofSextets.induct generalizing i with
  | case1 w x y z sextets ih =>
    rcases i with _ | _ | _ | _ | j
    · exact ⟨[], [w, x, y, z], [v, x, y, z], sextets, rfl, rfl, rfl, .first (by simpa using hne)⟩
    · exact ⟨[], [w, x, y, z], [w, v, y, z], sextets, rfl, rfl, rfl, .second (by simpa using hne)⟩
    · exact ⟨[], [w, x, y, z], [w, x, v, z], sextets, rfl, rfl, rfl, .third (by simpa using hne)⟩
    · exact ⟨[], [w, x, y, z], [w, x, y, v], sextets, rfl, rfl, rfl, .fourth (by simpa using hne)⟩
    · simp only [List.length_cons] at hlength hi
      obtain ⟨before, group, group', behind, hbefore, hsplit, hset, hone⟩ :=
        ih (by omega) (i := j) (by omega) (by simpa using hne)
      refine ⟨w :: x :: y :: z :: before, group, group', behind, ?_, ?_, ?_, hone⟩
      · simp only [List.length_cons]
        omega
      · rw [hsplit]
        rfl
      · simp only [List.set_cons_succ, hset]
        rfl
  | case2 w x y => simp at hlength
  | case3 w x => simp at hlength
  | case4 w => simp at hlength
  | case5 => simp at hi

theorem length_eq_three {group : Bytes} {p q r : Nat} (h : group.map UInt8.toNat = [p, q, r]) : group.length = 3 := by
  rw [← List.length_map UInt8.toNat, h]
  rfl

/-- **A wrong character breaks the checksum.** -/
theorem not_checked_set {sextets : List Nat} (hlength : sextets.length = 44) (hlt : ∀ x ∈ sextets, x < 64)
    (hchecked : Checked (ofSextets sextets)) {i v : Nat} (hi : i < 44) (hv : v < 64) (hne : sextets[i]? ≠ some v) :
    ¬Checked (ofSextets (sextets.set i v)) := by
  intro hchecked'
  obtain ⟨before, group, group', behind, hbefore, hsplit, hset, hone⟩ :=
    oneWrong_set (by rw [hlength]) (by rw [hlength]; exact hi) hne
  have hgroup : group.length = 4 ∧ group'.length = 4 := by cases hone <;> exact ⟨rfl, rfl⟩
  have hlt' : ∀ x ∈ sextets.set i v, x < 64 := by
    intro x hx
    rcases List.mem_or_eq_of_mem_set hx with hx | rfl
    · exact hlt x hx
    · exact hv
  rw [hset] at hchecked' hlt'
  rw [hsplit] at hchecked hlt hlength
  rw [List.append_assoc, ofSextets_append hbefore, ofSextets_append (by rw [hgroup.1])] at hchecked
  rw [List.append_assoc, ofSextets_append hbefore, ofSextets_append (by rw [hgroup.2])] at hchecked'
  obtain ⟨p, q, r, p', q', r', hbytes, hbytes', hsum, hagainst⟩ := hone.sum_ne
    (fun x hx => hlt x (List.mem_append_left _ (List.mem_append_right _ hx)))
    (fun x hx => hlt' x (List.mem_append_left _ (List.mem_append_right _ hx)))
  have hcount : (ofSextets before).length + (ofSextets behind).length = 30 := by
    simp only [List.length_append, hgroup.1] at hlength
    rw [length_ofSextets hbefore, length_ofSextets (by omega)]
    omega
  have htotal : totalBytes (ofSextets group) = p + q + r := by
    rw [totalBytes, hbytes]
    simp [Nat.add_assoc]
  have htotal' : totalBytes (ofSextets group') = p' + q' + r' := by
    rw [totalBytes, hbytes']
    simp [Nat.add_assoc]
  have hthree := length_eq_three hbytes
  have hthree' := length_eq_three hbytes'
  rcases List.eq_nil_or_concat' (ofSextets behind) with hnil | ⟨rest, last, hlast⟩
  · -- the checksum itself is in the group
    obtain ⟨a, b, c, habc⟩ := List.length_eq_three.mp hthree
    obtain ⟨a', b', c', habc'⟩ := List.length_eq_three.mp hthree'
    rw [habc] at hbytes
    rw [habc'] at hbytes'
    simp only [List.map_cons, List.map_nil, List.cons.injEq, and_true] at hbytes hbytes'
    rw [hnil] at hchecked hchecked' hcount
    rw [habc, List.append_nil, show [a, b, c] = [a, b] ++ [c] from rfl, ← List.append_assoc,
      checked_concat (by simp only [List.length_append, List.length_cons, List.length_nil] at hcount ⊢; omega),
      totalBytes_append] at hchecked
    rw [habc', List.append_nil, show [a', b', c'] = [a', b'] ++ [c'] from rfl, ← List.append_assoc,
      checked_concat (by simp only [List.length_append, List.length_cons, List.length_nil] at hcount ⊢; omega),
      totalBytes_append] at hchecked'
    simp only [totalBytes, List.map_cons, List.map_nil, List.sum_cons, List.sum_nil, hbytes.1, hbytes.2.1, hbytes.2.2,
      hbytes'.1, hbytes'.2.1, hbytes'.2.2] at hchecked hchecked'
    exact hagainst (by omega)
  · rw [hlast] at hchecked hchecked' hcount
    simp only [List.length_append, List.length_singleton] at hcount
    rw [← List.append_assoc, ← List.append_assoc, checked_concat (by simp only [List.length_append]; omega),
      totalBytes_append, totalBytes_append, htotal] at hchecked
    rw [← List.append_assoc, ← List.append_assoc, checked_concat (by simp only [List.length_append]; omega),
      totalBytes_append, totalBytes_append, htotal'] at hchecked'
    exact hsum (by omega)

/-! ### Texts of the alphabet

What the readers make of 44 characters of the alphabet, which stand for 33 bytes. -/

variable {sextets : List Nat}

theorem urlChar_plain {sextet : Nat} (h : sextet < 64) :
    urlChar sextet ≠ '\r' ∧ urlChar sextet ≠ '\n' ∧ urlChar sextet ≠ '+' ∧ urlChar sextet ≠ '/' ∧
      urlChar sextet ≠ ':' ∧ (urlChar sextet).utf8Size = 1 := by
  have hall : ∀ sextet < 64, urlChar sextet ≠ '\r' ∧ urlChar sextet ≠ '\n' ∧ urlChar sextet ≠ '+' ∧
      urlChar sextet ≠ '/' ∧ urlChar sextet ≠ ':' ∧ (urlChar sextet).utf8Size = 1 := by decide +kernel
  exact hall sextet h

theorem byteLength_map (h : ∀ x ∈ sextets, x < 64) : byteLength (sextets.map urlChar) = sextets.length := by
  induction sextets with
  | nil => rfl
  | cons x sextets ih =>
    rw [List.forall_mem_cons] at h
    obtain ⟨-, -, -, -, -, hsize⟩ := urlChar_plain h.1
    have hrest := ih h.2
    rw [byteLength] at hrest ⊢
    rw [List.map_cons, List.map_cons, List.sum_cons, hsize, hrest, List.length_cons, Nat.add_comm]

theorem readSextets_map (h : ∀ x ∈ sextets, x < 64) (offset : Nat) :
    readSextets offset (sextets.map urlChar) = .ok sextets := by
  induction sextets generalizing offset with
  | nil => rfl
  | cons x sextets ih =>
    rw [List.forall_mem_cons] at h
    obtain ⟨hcr, hlf, -, -, -, -⟩ := urlChar_plain h.1
    rw [List.map_cons, readSextets, if_neg (by simp [hcr, hlf]), urlSextet_urlChar h.1]
    dsimp only
    rw [ih h.2]
    rfl

theorem decodeString_map (hlength : sextets.length % 4 = 0) (h : ∀ x ∈ sextets, x < 64) :
    decodeString (sextets.map urlChar) = .ok (ofSextets sextets) := by
  rw [decodeString, readSextets_map h]
  exact if_neg (by omega)

namespace PlainSdk

/-- `BigInt` of the digits behind `0x`. -/
def bigIntOfHex (digits : Text) : Except String Nat :=
  if digits = [] then .error "SyntaxError: Cannot convert 0x to a BigInt"
  else match readNumeral 16 digits with
    | none => .error s!"SyntaxError: Cannot convert 0x{String.ofList digits} to a BigInt"
    | some n => .ok n

def scalarFromHex : Text → Except String Nat
  | '0' :: 'x' :: digits => bigIntOfHex digits
  | digits => bigIntOfHex digits

theorem scalarFromHex_of_read {digits : Text} {n : Nat} (hne : digits ≠ []) (h : readNumeral 16 digits = some n) :
    scalarFromHex digits = .ok n := by
  have hplain : bigIntOfHex digits = .ok n := by
    rw [bigIntOfHex, if_neg hne, h]
  unfold scalarFromHex
  split
  next digits =>
    -- `x` is not a digit
    rw [← List.singleton_append, ← List.replicate_one, readNumeral_replicate (by decide), readNumeral,
      List.foldlM_cons] at h
    cases h
  next => exact hplain

/-- Both alphabets are read, and characters outside of them are skipped. -/
def toBuffer (text : Text) : Bytes :=
  ofSextets (text.filterMap fun c => if c = '+' then some 62 else if c = '/' then some 63 else urlSextet c)

theorem toBuffer_map (h : ∀ x ∈ sextets, x < 64) : toBuffer (sextets.map urlChar) = ofSextets sextets := by
  have hread : ∀ x ∈ sextets, (if urlChar x = '+' then some 62 else if urlChar x = '/' then some 63 else
      urlSextet (urlChar x)) = some x := by
    intro x hx
    obtain ⟨-, -, hplus, hslash, -, -⟩ := urlChar_plain (h x hx)
    rw [if_neg hplus, if_neg hslash, urlSextet_urlChar (h x hx)]
  rw [toBuffer, List.filterMap_map]
  congr 1
  exact (List.filterMap_congr hread).trans List.filterMap_some

end PlainSdk

/-- The packages by their documentation. -/
@[reducible] def plainSdk : SdkLibraries where
  scalarFromHex := PlainSdk.scalarFromHex
  leInt2Buff n len :=
    if n < 256 ^ len then .ok (swapEndianness (bytesBE len n)) else .error "Number does not fit in this length"
  leBuff2int buff := natOfBytesBE (swapEndianness buff)
  beBuff2int := natOfBytesBE
  encode := encodeURL
  toBuffer := PlainSdk.toBuffer
  scalarFromHex_of_read := PlainSdk.scalarFromHex_of_read
  leInt2Buff_of_lt h := if_pos h
  leBuff2int_eq _ := rfl
  beBuff2int_eq _ := rfl
  encode_eq _ := rfl
  toBuffer_map := PlainSdk.toBuffer_map

theorem withoutFirst_hermezPrefix (text : Text) : withoutFirst hermezPrefix (hermezPrefix ++ text) = text := by
  rw [hermezPrefix, List.cons_append, withoutFirst, if_pos (by simp)]
  rfl

theorem splitAround_hermezPrefix {text : Text} (h : ':' ∉ text) : splitAround hermezPrefix 0 text = [text] := by
  induction text with
  | nil => rfl
  | cons c text ih =>
    have hno : ¬hermezPrefix.isPrefixOf (c :: text) = true := by
      rw [List.isPrefixOf_iff_prefix]
      intro hprefixed
      exact h (hprefixed.subset (by simp [hermezPrefix]))
    rw [List.mem_cons, not_or] at h
    rw [splitAround, if_neg hno, ih h.2]

theorem splitAround_key (h : ∀ x ∈ sextets, x < 64) :
    splitAround hermezPrefix 0 (hermezPrefix ++ sextets.map urlChar) = [[], sextets.map urlChar] := by
  have hcolon : ':' ∉ sextets.map urlChar := by
    intro hmem
    obtain ⟨x, hx, hcolon⟩ := List.mem_map.mp hmem
    exact (urlChar_plain (h x hx)).2.2.2.2.1 hcolon
  have hsplit := splitAround_hermezPrefix hcolon
  rw [hermezPrefix, List.cons_append, splitAround, if_pos (by simp)]
  exact congrArg ([] :: ·) hsplit

theorem hezStringToBJJ_map (hlength : sextets.length = 44) (h : ∀ x ∈ sextets, x < 64) (name : String) :
    hezStringToBJJ (hermezPrefix ++ sextets.map urlChar) name =
      if Checked (ofSextets sextets) then .ok (some (publicKeyCompFromBytes ((ofSextets sextets).take 32)))
      else .error s!"invalid {name}, checksum failed" := by
  have hbytes : (ofSextets sextets).length = 33 := by rw [length_ofSextets (by rw [hlength]), hlength]
  rw [hezStringToBJJ, if_neg (by simp [hermezPrefix]), splitAround_key h]
  dsimp only
  rw [byteLength_map h, if_neg (not_not.mpr hlength), decodeString_map (by rw [hlength]) h]
  dsimp only
  rw [if_neg (not_not.mpr hbytes), ite_not]
  rfl

theorem hezStrToBJJ_map (hlength : sextets.length = 44) (h : ∀ x ∈ sextets, x < 64) :
    hezStrToBJJ (hermezPrefix ++ sextets.map urlChar) =
      if Checked (ofSextets sextets) then .ok (publicKeyCompFromBytes ((ofSextets sextets).take 32))
      else .error "checksum verification failed" := by
  have hbytes : (ofSextets sextets).length = 33 := by rw [length_ofSextets (by rw [hlength]), hlength]
  have hprefixed : hermezPrefix.isPrefixOf (hermezPrefix ++ sextets.map urlChar) = true := by simp
  simp only [hezStrToBJJ]
  rw [if_pos hprefixed, List.drop_left, byteLength_map h, if_neg (not_not.mpr hlength),
    decodeString_map (by rw [hlength]) h]
  dsimp only
  rw [if_neg (not_not.mpr hbytes), ite_not]
  rfl

theorem bjjSwapBuffer_of_read [SdkLibraries] {digits : Text} (hne : digits ≠ []) {pk : PublicKeyComp}
    (h : readNumeral 16 digits = some pk.toNat) : bjjSwapBuffer digits = .ok pk.bytes := by
  have hlength : (swapEndianness (bytesBE 32 pk.toNat)).length = 32 := by simp
  have hlt : natOfBytesBE (swapEndianness (bytesBE 32 pk.toNat)) < 16 ^ 64 := by
    have hbytes := natOfBytesBE_lt (swapEndianness (bytesBE 32 pk.toNat))
    rw [hlength] at hbytes
    exact hbytes
  have hback := bytesBE_natOfBytesBE (swapEndianness (bytesBE 32 pk.toNat))
  rw [hlength] at hback
  have hhex : hexBytes (fixedNumeral 16 64 (natOfBytesBE (swapEndianness (bytesBE 32 pk.toNat)))) = pk.bytes :=
    (hexBytes_fixedNumeral 32 _).trans hback
  rw [bjjSwapBuffer, scalarFromHex_of_read hne h, except_ok_bind, leInt2Buff_of_lt pk.isLt, except_ok_bind,
    beBuff2int_eq, padZeros_numeral (by decide) (by decide) hlt]
  dsimp only
  rw [hhex]
  rfl

theorem publicKeyComp_bytes {key : Bytes} (h : key.length = 32) : (publicKeyCompFromBytes key).bytes = key := by
  have hlt := natOfBytesBE_lt (swapEndianness key)
  rw [length_swapEndianness, h] at hlt
  have hmod : natOfBytesBE (swapEndianness key) % 2 ^ 256 = natOfBytesBE (swapEndianness key) := Nat.mod_eq_of_lt hlt
  rw [publicKeyCompFromBytes, PublicKeyComp.bytes, BitVec.toNat_ofNat, hmod]
  have hback := bytesBE_natOfBytesBE (swapEndianness key)
  rw [length_swapEndianness, h] at hback
  rw [hback, swapEndianness_swapEndianness]

theorem leBuff2int_bytes [SdkLibraries] (pk : PublicKeyComp) : leBuff2int pk.bytes = pk.toNat := by
  rw [leBuff2int_eq, swapEndianness_publicKeyComp_bytes, natOfBytesBE_bytesBE_of_lt pk.isLt]

theorem base64ToHexBJJ_map [SdkLibraries] (h : ∀ x ∈ sextets, x < 64) {pk : PublicKeyComp}
    (hkey : (ofSextets sextets).take 32 = pk.bytes) :
    base64ToHexBJJ (hermezPrefix ++ sextets.map urlChar) = padZeros (numeral 16 pk.toNat) 64 := by
  rw [base64ToHexBJJ, withoutFirst_hermezPrefix, toBuffer_map h, hkey, leBuff2int_bytes]

theorem readNumeral_padZeros (n width : Nat) : readNumeral 16 (padZeros (numeral 16 n) width) = some n := by
  rw [padZeros, readNumeral_replicate (by decide), readNumeral_numeral (by decide) (by decide)]

theorem numeral_ne_nil (n : Nat) : numeral 16 n ≠ [] := by
  rcases Nat.lt_or_ge n 16 with hlt | hge
  · rw [numeral_of_lt hlt]
    exact List.cons_ne_nil _ _
  · rw [numeral_of_le (by decide) hge]
    exact List.append_ne_nil_of_right_ne_nil _ (List.cons_ne_nil _ _)

theorem isHermezBjjAddress_map [SdkLibraries] (hlength : sextets.length = 44) (h : ∀ x ∈ sextets, x < 64) :
    isHermezBjjAddress (hermezPrefix ++ sextets.map urlChar) =
      .ok (decide (Checked (ofSextets sextets))) := by
  have hbytes : (ofSextets sextets).length = 33 := by rw [length_ofSextets (by rw [hlength]), hlength]
  have hkey : (ofSextets sextets).take 32 = (publicKeyCompFromBytes ((ofSextets sextets).take 32)).bytes :=
    (publicKeyComp_bytes (by rw [List.length_take, hbytes]; rfl)).symm
  have hpattern : bjjAddressPattern (hermezPrefix ++ sextets.map urlChar) = true := by
    have hall : (sextets.map urlChar).all (fun c => (urlSextet c).isSome) = true := by
      rw [List.all_map, List.all_eq_true]
      intro x hx
      simp [urlSextet_urlChar (h x hx)]
    rw [bjjAddressPattern, List.drop_left, List.length_map, hlength, hall]
    simp
  have hread := readNumeral_padZeros (publicKeyCompFromBytes ((ofSextets sextets).take 32)).toNat 64
  have hne : padZeros (numeral 16 (publicKeyCompFromBytes ((ofSextets sextets).take 32)).toNat) 64 ≠ [] :=
    List.append_ne_nil_of_right_ne_nil _ (numeral_ne_nil _)
  rw [isHermezBjjAddress, hpattern, Bool.not_true, if_neg Bool.false_ne_true, base64ToHexBJJ_map h hkey,
    bjjSwapBuffer_of_read hne hread, except_ok_bind, withoutFirst_hermezPrefix, toBuffer_map h, ← hkey, sumBytes_eq,
    ← toNat_checksum]
  have hlast : (ofSextets sextets).getLast? = some ((ofSextets sextets).getD 32 0) := by
    rw [List.getLast?_eq_getElem?, hbytes, List.getD_eq_getElem?_getD, List.getElem?_eq_getElem (by omega)]
    rfl
  dsimp only
  rw [hlast, Option.map_some]
  simp only [Option.some.injEq, UInt8.toNat_inj]
  rfl

/-! ### The text of a key -/

theorem length_publicKeyComp_bytes (pk : PublicKeyComp) : pk.bytes.length = 32 := by
  simp [PublicKeyComp.bytes]

def keySextets (pk : PublicKeyComp) : List Nat :=
  toSextets (pk.bytes ++ [checksum pk.bytes])

theorem length_keySextets (pk : PublicKeyComp) : (keySextets pk).length = 44 := by
  have hlength : (pk.bytes ++ [checksum pk.bytes]).length = 33 := by
    rw [List.length_append, length_publicKeyComp_bytes, List.length_singleton]
  rw [keySextets, length_toSextets (by rw [hlength]), hlength]

theorem keySextets_lt (pk : PublicKeyComp) : ∀ x ∈ keySextets pk, x < 64 :=
  toSextets_lt _

theorem take_keySextets (pk : PublicKeyComp) : (ofSextets (keySextets pk)).take 32 = pk.bytes := by
  rw [keySextets, ofSextets_toSextets, ← length_publicKeyComp_bytes pk, List.take_left]

theorem checked_keySextets (pk : PublicKeyComp) : Checked (ofSextets (keySextets pk)) := by
  rw [keySextets, ofSextets_toSextets, checked_concat (length_publicKeyComp_bytes pk), toNat_checksum]

/-- All readers refuse a text. -/
structure Rejected [SdkLibraries] (text : Text) : Prop where
  hezStringToBJJ : ∀ name, ∃ e, hezStringToBJJ text name = .error e
  hezStrToBJJ : ∃ e, hezStrToBJJ text = .error e
  isHermezBjjAddress : isHermezBjjAddress text = .ok false

theorem rejected_of_not_checked [SdkLibraries] (hlength : sextets.length = 44) (h : ∀ x ∈ sextets, x < 64)
    (hchecked : ¬Checked (ofSextets sextets)) : Rejected (hermezPrefix ++ sextets.map urlChar) where
  hezStringToBJJ name := by
    rw [hezStringToBJJ_map hlength h, if_neg hchecked]
    exact ⟨_, rfl⟩
  hezStrToBJJ := by
    rw [hezStrToBJJ_map hlength h, if_neg hchecked]
    exact ⟨_, rfl⟩
  isHermezBjjAddress := by
    rw [isHermezBjjAddress_map hlength h, decide_eq_false hchecked]

/-- **Textual keys round-trip and detect single errors.**  Node and SDK write the same text for a key, all readers
give the key back, and all of them refuse the text with one character replaced. -/
theorem hezBJJ_roundTrip [SdkLibraries] (pk : PublicKeyComp) :
    ∃ encoded : Text, encoded.length = 44 ∧ (∀ c ∈ encoded, c ∈ urlAlphabet) ∧
      newHezBJJ pk = hermezPrefix ++ encoded ∧
      (∀ zeros, hexToBase64BJJ (List.replicate zeros '0' ++ numeral 16 pk.toNat) = .ok (hermezPrefix ++ encoded)) ∧
      (∀ name, hezStringToBJJ (hermezPrefix ++ encoded) name = .ok (some pk)) ∧
      hezStrToBJJ (hermezPrefix ++ encoded) = .ok pk ∧
      base64ToHexBJJ (hermezPrefix ++ encoded) = padZeros (numeral 16 pk.toNat) 64 ∧
      isHermezBjjAddress (hermezPrefix ++ encoded) = .ok true ∧
      ∀ i < 44, ∀ c ∈ urlAlphabet, encoded[i]? ≠ some c → Rejected (hermezPrefix ++ encoded.set i c) := by
  have hlength := length_keySextets pk
  have hlt := keySextets_lt pk
  have hchecked := checked_keySextets pk
  have hkey := take_keySextets pk
  have hpk : publicKeyCompFromBytes pk.bytes = pk := publicKeyCompFromBytes_swap pk
  refine ⟨(keySextets pk).map urlChar, by rw [List.length_map, hlength], ?_, rfl, ?_, ?_, ?_, ?_, ?_, ?_⟩
  · intro c hc
    obtain ⟨x, hx, rfl⟩ := List.mem_map.mp hc
    exact urlChar_mem (hlt x hx)
  · intro zeros
    have hread : readNumeral 16 (List.replicate zeros '0' ++ numeral 16 pk.toNat) = some pk.toNat := by
      rw [readNumeral_replicate (by decide), readNumeral_numeral (by decide) (by decide)]
    rw [hexToBase64BJJ, bjjSwapBuffer_of_read (List.append_ne_nil_of_right_ne_nil _ (numeral_ne_nil _)) hread,
      except_ok_bind, sumBytes_eq, ← toNat_checksum, UInt8.ofNat_toNat]
    dsimp only
    rw [encode_eq]
    rfl
  · intro name
    rw [hezStringToBJJ_map hlength hlt, if_pos hchecked, hkey, hpk]
  · rw [hezStrToBJJ_map hlength hlt, if_pos hchecked, hkey, hpk]
  · exact base64ToHexBJJ_map hlt hkey
  · rw [isHermezBjjAddress_map hlength hlt, decide_eq_true hchecked]
  · intro i hi c hc hne
    obtain ⟨v, hv⟩ : ∃ v, urlSextet c = some v := by
      rw [← Option.isSome_iff_exists, urlSextet, List.findIdx?_isSome, List.any_eq_true]
      exact ⟨c, hc, by simp⟩
    obtain ⟨hv64, rfl⟩ := urlChar_of_urlSextet hv
    have hne' : (keySextets pk)[i]? ≠ some v := by
      intro heq
      rw [List.getElem?_map, heq] at hne
      exact hne rfl
    have hlt' : ∀ x ∈ (keySextets pk).set i v, x < 64 := by
      intro x hx
      rcases List.mem_or_eq_of_mem_set hx with hx | rfl
      · exact hlt x hx
      · exact hv64
    rw [← List.map_set]
    exact rejected_of_not_checked (by rw [List.length_set, hlength]) hlt'
      (not_checked_set hlength hlt hchecked hi hv64 hne')

theorem hezBJJ_roundTrip_plain :
    ∃ encoded : Text, newHezBJJ 1 = hermezPrefix ++ encoded ∧
      @hexToBase64BJJ plainSdk (numeral 16 1) = .ok (hermezPrefix ++ encoded) ∧
      @isHermezBjjAddress plainSdk (hermezPrefix ++ encoded) = .ok true := by
  obtain ⟨encoded, -, -, hnew, hhex, -, -, -, hvalid, -⟩ := @hezBJJ_roundTrip plainSdk 1
  exact ⟨encoded, hnew, hhex 0, hvalid⟩

end HermezRollup
