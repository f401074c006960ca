import Mathlib

/-! Big-endian byte strings.  A byte string is a list of bytes; fixed-width fields are written with
`bytesBE` and read back with `natOfBytesBE`.  A record encoded as the concatenation of fixed-width
fields is decoded by cutting slices at fixed offsets, so besides the round trips this module has the
rules for slices of appended strings. -/

/-- A string of bytes, most significant byte first when it stands for a number. -/
abbrev Bytes := List UInt8

instance : LawfulBEq Bytes :=
  inferInstance

namespace Bytes

/-- The number a byte string stands for, read big-endian. -/
def natOfBytesBE (b : Bytes) : Nat :=
  b.foldl (fun acc x => acc * 256 + x.toNat) 0

/-- The `width` low bytes of a number, big-endian. -/
def bytesBE : Nat → Nat → Bytes
  | 0, _ => []
  | width + 1, value => UInt8.ofNat (value / 256 ^ width) :: bytesBE width value

/-- The half-open slice `b[from:to]`. -/
def slice (b : Bytes) (start stop : Nat) : Bytes :=
  (b.drop start).take (stop - start)

def swapEndianness (b : Bytes) : Bytes :=
  b.reverse

def zeros (n : Nat) : Bytes :=
  List.replicate n 0

/-! ### Values of byte strings -/

private theorem foldl_eq (b : Bytes) (acc : Nat) :
    b.foldl (fun acc x => acc * 256 + x.toNat) acc = acc * 256 ^ b.length + natOfBytesBE b := by
  induction b generalizing acc with
  | nil => simp [natOfBytesBE]
  | cons x b ih =>
    simp only [natOfBytesBE, List.foldl_cons, List.length_cons]
    rw [ih, ih (0 * 256 + x.toNat)]
    ring

@[simp] theorem natOfBytesBE_nil : natOfBytesBE [] = 0 := rfl

theorem natOfBytesBE_cons (x : UInt8) (b : Bytes) :
    natOfBytesBE (x :: b) = x.toNat * 256 ^ b.length + natOfBytesBE b := by
  rw [natOfBytesBE, List.foldl_cons, foldl_eq]
  simp

theorem natOfBytesBE_append (a b : Bytes) :
    natOfBytesBE (a ++ b) = natOfBytesBE a * 256 ^ b.length + natOfBytesBE b := by
  rw [natOfBytesBE, List.foldl_append, foldl_eq]
  rfl

theorem natOfBytesBE_lt (b : Bytes) : natOfBytesBE b < 256 ^ b.length := by
  induction b with
  | nil => simp
  | cons x b ih =>
    rw [natOfBytesBE_cons, List.length_cons, pow_succ]
    have hx : x.toNat ≤ 255 := Nat.lt_succ_iff.mp x.toNat_lt
    calc x.toNat * 256 ^ b.length + natOfBytesBE b
        < x.toNat * 256 ^ b.length + 256 ^ b.length := by omega
      _ = (x.toNat + 1) * 256 ^ b.length := by ring
      _ ≤ 256 * 256 ^ b.length := Nat.mul_le_mul_right _ (by omega)
      _ = 256 ^ b.length * 256 := by ring

@[simp] theorem natOfBytesBE_zeros (n : Nat) : natOfBytesBE (zeros n) = 0 := by
  induction n with
  | zero => rfl
  | succ n ih =>
    rw [zeros, List.replicate_succ, natOfBytesBE_cons]
    simpa [zeros] using ih

/-! ### Round trips -/

@[simp] theorem length_bytesBE (width value : Nat) : (bytesBE width value).length = width := by
  induction width with
  | zero => rfl
  | succ width ih => rw [bytesBE, List.length_cons, ih]

theorem natOfBytesBE_bytesBE (width value : Nat) : natOfBytesBE (bytesBE width value) = value % 256 ^ width := by
  induction width with
  | zero => simp [bytesBE, Nat.mod_one]
  | succ width ih =>
    have hbyte : (UInt8.ofNat (value / 256 ^ width)).toNat = value / 256 ^ width % 256 := UInt8.toNat_ofNat'
    rw [bytesBE, natOfBytesBE_cons, length_bytesBE, ih, hbyte, pow_succ, Nat.mod_mul]
    ring

theorem natOfBytesBE_bytesBE_of_lt {width value : Nat} (h : value < 256 ^ width) :
    natOfBytesBE (bytesBE width value) = value := by
  rw [natOfBytesBE_bytesBE, Nat.mod_eq_of_lt h]

theorem bytesBE_mod (width value : Nat) {n : Nat} (h : width ≤ n) :
    bytesBE width (value % 256 ^ n) = bytesBE width value := by
  induction width with
  | zero => rfl
  | succ width ih =>
    rw [bytesBE, bytesBE, ih (by omega)]
    congr 1
    apply UInt8.toNat_inj.mp
    rw [UInt8.toNat_ofNat', UInt8.toNat_ofNat']
    obtain ⟨d, rfl⟩ : ∃ d, n = width + (1 + d) := ⟨n - width - 1, by omega⟩
    rw [pow_add, Nat.mod_mul_right_div_self, pow_add, pow_one, Nat.mod_mul_right_mod]

theorem bytesBE_natOfBytesBE (b : Bytes) : bytesBE b.length (natOfBytesBE b) = b := by
  induction b with
  | nil => rfl
  | cons x b ih =>
    have hlt : natOfBytesBE b < 256 ^ b.length := natOfBytesBE_lt b
    have hpos : 0 < 256 ^ b.length := by positivity
    rw [List.length_cons, bytesBE, natOfBytesBE_cons]
    congr 1
    · rw [Nat.add_comm, Nat.add_mul_div_right _ _ hpos, Nat.div_eq_of_lt hlt]
      simp
    · rw [← bytesBE_mod b.length _ (le_refl _), Nat.add_comm, Nat.add_mul_mod_self_right,
        Nat.mod_eq_of_lt hlt, ih]

theorem bytesBE_inj {width a b : Nat} (ha : a < 256 ^ width) (hb : b < 256 ^ width)
    (h : bytesBE width a = bytesBE width b) : a = b := by
  rw [← natOfBytesBE_bytesBE_of_lt ha, h, natOfBytesBE_bytesBE_of_lt hb]

theorem bytesBE_zero (width : Nat) : bytesBE width 0 = zeros width := by
  induction width with
  | zero => rfl
  | succ width ih =>
    rw [bytesBE, ih, Nat.zero_div]
    rfl

theorem drop_bytesBE (wide narrow value : Nat) (h : narrow ≤ wide) :
    (bytesBE wide value).drop (wide - narrow) = bytesBE narrow value := by
  induction wide with
  | zero =>
    obtain rfl : narrow = 0 := by omega
    rfl
  | succ wide ih =>
    rcases Nat.eq_or_lt_of_le h with rfl | hlt
    · simp
    · rw [show wide + 1 - narrow = (wide - narrow) + 1 by omega, bytesBE, List.drop_succ_cons,
        ih (by omega)]

@[simp] theorem length_zeros (n : Nat) : (zeros n).length = n :=
  List.length_replicate

@[simp] theorem swapEndianness_swapEndianness (b : Bytes) : swapEndianness (swapEndianness b) = b :=
  List.reverse_reverse b

@[simp] theorem length_swapEndianness (b : Bytes) : (swapEndianness b).length = b.length :=
  List.length_reverse

/-! ### Slices -/

theorem length_slice (b : Bytes) (start stop : Nat) (h : stop ≤ b.length) :
    (slice b start stop).length = stop - start := by
  rw [slice, List.length_take, List.length_drop]
  omega

theorem slice_append_left (a b : Bytes) (start stop : Nat) (h : stop ≤ a.length) :
    slice (a ++ b) start stop = slice a start stop := by
  rcases Nat.le_total start stop with hle | hle
  · rw [slice, slice, List.drop_append_of_le_length (by omega),
      List.take_append_of_le_length (by rw [List.length_drop]; omega)]
  · rw [slice, slice, Nat.sub_eq_zero_of_le hle, List.take_zero, List.take_zero]

theorem slice_append_right (a b : Bytes) (start stop : Nat) (h : a.length ≤ start) :
    slice (a ++ b) start stop = slice b (start - a.length) (stop - a.length) := by
  rw [slice, slice, List.drop_append, List.drop_eq_nil_of_le h, List.nil_append]
  congr 1
  omega

theorem slice_append_end (a b : Bytes) {start stop : Nat} (hstart : start = a.length)
    (hstop : stop = a.length + b.length) : slice (a ++ b) start stop = b := by
  subst hstart hstop
  rw [slice_append_right a b _ _ (le_refl _), Nat.sub_self, Nat.add_sub_cancel_left]
  simp [slice]

@[simp] theorem slice_full (b : Bytes) : slice b 0 b.length = b := by
  simp [slice]

theorem slice_all {b : Bytes} {n : Nat} (h : b.length = n) : slice b 0 n = b := by
  subst h
  exact slice_full b

theorem slice_slice (b : Bytes) (start stop first last : Nat) (h : start + last ≤ stop) :
    slice (slice b start stop) first last = slice b (start + first) (start + last) := by
  rw [slice, slice, slice, List.drop_take, List.drop_drop, List.take_take]
  congr 1
  omega

/-! ### Chunks -/

/-- The whole chunks of a size at the front of a byte string. -/
def chunks (size : Nat) (b : Bytes) : List Bytes :=
  (List.range (b.length / size)).map fun i => slice b (i * size) ((i + 1) * size)

@[simp] theorem length_chunks (size : Nat) (b : Bytes) : (chunks size b).length = b.length / size := by
  simp [chunks]

@[simp] theorem chunks_nil (size : Nat) : chunks size [] = [] := by
  simp [chunks]

theorem length_of_mem_chunks {size : Nat} {b chunk : Bytes} (hmem : chunk ∈ chunks size b) :
    chunk.length = size := by
  rw [chunks, List.mem_map] at hmem
  obtain ⟨i, hi, rfl⟩ := hmem
  have hlt : i + 1 ≤ b.length / size := List.mem_range.mp hi
  have hpos : 0 < size := Nat.pos_of_ne_zero (by rintro rfl; simp at hlt)
  rw [length_slice _ _ _ ((Nat.le_div_iff_mul_le hpos).mp hlt), Nat.add_mul, Nat.one_mul, Nat.add_sub_cancel_left]

theorem chunks_append {size : Nat} {a : Bytes} (hpos : 0 < size) (hwhole : size ∣ a.length) (b : Bytes) :
    chunks size (a ++ b) = chunks size a ++ chunks size b := by
  obtain ⟨n, hn⟩ := hwhole
  have hdiv : a.length / size = n := by rw [hn, Nat.mul_div_cancel_left _ hpos]
  have hcount : (a ++ b).length / size = n + b.length / size := by
    rw [List.length_append, hn, Nat.mul_add_div hpos]
  rw [chunks, chunks, chunks, hcount, hdiv, List.range_add, List.map_append, List.map_map]
  congr 1
  · apply List.map_congr_left
    intro i hi
    refine slice_append_left _ _ _ _ ?_
    rw [hn, Nat.mul_comm]
    exact Nat.mul_le_mul_left _ (List.mem_range.mp hi)
  · apply List.map_congr_left
    intro i _
    rw [Function.comp_apply, slice_append_right _ _ _ _ (by rw [hn, Nat.add_mul, Nat.mul_comm n]; omega), hn]
    congr 1
    · rw [Nat.add_mul, Nat.mul_comm n, Nat.add_sub_cancel_left]
    · rw [Nat.add_assoc, Nat.add_mul, Nat.mul_comm n, Nat.add_sub_cancel_left]

theorem chunks_singleton {size : Nat} {b : Bytes} (hpos : 0 < size) (hb : b.length = size) : chunks size b = [b] := by
  rw [chunks, hb, Nat.div_self hpos]
  simp only [List.range_one, List.map_cons, List.map_nil, Nat.zero_mul, Nat.zero_add, Nat.one_mul]
  rw [← hb, slice_full]

theorem chunks_prefix (size : Nat) (a b : Bytes) :
    (chunks size (a ++ b)).take (a.length / size) = chunks size a := by
  rcases Nat.eq_zero_or_pos size with rfl | hpos
  · simp [chunks]
  · have hle : a.length / size ≤ (a ++ b).length / size :=
      Nat.div_le_div_right (by rw [List.length_append]; omega)
    rw [chunks, chunks, ← List.map_take, List.take_range, Nat.min_eq_left hle]
    apply List.map_congr_left
    intro i hi
    have hlt : i + 1 ≤ a.length / size := List.mem_range.mp hi
    exact slice_append_left _ _ _ _ ((Nat.le_div_iff_mul_le hpos).mp hlt)

end Bytes
