import Mathlib.Algebra.Group.Nat.Defs
import Mathlib.Data.List.Basic
import Mathlib.Tactic.Common

/-!
# Bytes - little-endian words and buffers

Packed structures on a wire are concatenations of little-endian words, and
programs move them through buffers of fixed size.  This file defines the
fixed-width encoding of a number, its inverse, and the copy of a block to the
start of a buffer or into it.

Main results:

- Theorems {lit}`value_bytes` and {lit}`bytes_value`: decoding a word of fixed width
  inverts its encoding, and the other way round.
- Theorem {lit}`word_bytes`: a word inside an encoded word.
- Theorem {lit}`bitField_succ_eq_iff`: when a bit field has the value of the one
  that is a bit wider.
- Theorem {lit}`take_overwrite`: after a copy the buffer starts with the block.
- Theorem {lit}`take_storeAt`: what a buffer holds up to the end of a block that was
  copied into it.
-/

namespace LittleEndian

/-! ## Words -/

/-- The {lit}`k` low bytes of a number, lowest byte first. -/
def bytes : ℕ → ℕ → List UInt8
  | 0, _ => []
  | k + 1, v => UInt8.ofNat v :: bytes k (v / 256)

/-- The number that bytes encode, lowest byte first. -/
def value : List UInt8 → ℕ
  | [] => 0
  | b :: bs => b.toNat + 256 * value bs

@[simp]
theorem length_bytes (k v : ℕ) : (bytes k v).length = k := by
  induction k generalizing v with
  | zero => rfl
  | succ k ih => rw [bytes, List.length_cons, ih]

/-- A number that fits into the width is decoded again. -/
theorem value_bytes {k v : ℕ} (h : v < 256 ^ k) : value (bytes k v) = v := by
  induction k generalizing v with
  | zero =>
      rw [Nat.pow_zero, Nat.lt_one_iff] at h
      rw [h]
      rfl
  | succ k ih =>
      have hhigh : v / 256 < 256 ^ k := by
        rw [Nat.pow_succ] at h
        omega
      have hlow : (UInt8.ofNat v).toNat = v % 256 := UInt8.toNat_ofNat'
      rw [bytes, value, ih hhigh, hlow]
      omega

/-- Bytes encode a number of their width. -/
theorem value_lt (bs : List UInt8) : value bs < 256 ^ bs.length := by
  induction bs with
  | nil => exact Nat.one_pos
  | cons b bs ih =>
      have hlt : b.toNat < 256 := b.toNat_lt
      rw [value, List.length_cons, Nat.pow_succ]
      omega

/-- Bytes are the encoding of the number that they encode. -/
theorem bytes_value (bs : List UInt8) : bytes bs.length (value bs) = bs := by
  induction bs with
  | nil => rfl
  | cons b bs ih =>
      have hlt : b.toNat < 256 := b.toNat_lt
      have hlow : UInt8.ofNat (b.toNat + 256 * value bs) = b := by
        apply UInt8.toNat_inj.mp
        rw [UInt8.toNat_ofNat']
        omega
      have hhigh : (b.toNat + 256 * value bs) / 256 = value bs := by omega
      rw [List.length_cons, value, bytes, hlow, hhigh, ih]

theorem value_bytes_uint16 (v : UInt16) : value (bytes 2 v.toNat) = v.toNat :=
  value_bytes v.toNat_lt

theorem value_bytes_uint32 (v : UInt32) : value (bytes 4 v.toNat) = v.toNat :=
  value_bytes v.toNat_lt

/-- Only as much of a number is encoded as fits into the width. -/
theorem value_bytes_mod (k v : ℕ) : value (bytes k v) = v % 256 ^ k := by
  induction k generalizing v with
  | zero => rw [bytes, value, Nat.pow_zero, Nat.mod_one]
  | succ k ih =>
      have hlow : (UInt8.ofNat v).toNat = v % 256 := UInt8.toNat_ofNat'
      rw [bytes, value, ih, hlow, Nat.pow_succ, Nat.mul_comm (256 ^ k), Nat.mod_mul]

/-- Leaving out the low bytes divides. -/
theorem drop_bytes (i k v : ℕ) : (bytes (i + k) v).drop i = bytes k (v / 256 ^ i) := by
  induction i generalizing v with
  | zero => rw [Nat.zero_add, List.drop_zero, Nat.pow_zero, Nat.div_one]
  | succ i ih =>
      rw [Nat.add_right_comm, bytes, List.drop_succ_cons, ih, Nat.div_div_eq_div_mul,
        Nat.pow_succ, Nat.mul_comm 256]

/-- The low bytes are an encoding of smaller width. -/
theorem take_bytes (j k v : ℕ) : (bytes (j + k) v).take j = bytes j v := by
  induction j generalizing v with
  | zero => rfl
  | succ j ih => rw [Nat.add_right_comm, bytes, List.take_succ_cons, ih, bytes]

/-! ## Words in a buffer -/

/-- The word of {lit}`k` bytes at an offset of a buffer. -/
def word (offset k : ℕ) (buffer : List UInt8) : ℕ :=
  value ((buffer.drop offset).take k)

/-- A word inside an encoded word. -/
theorem word_bytes {i j k : ℕ} (h : i + j ≤ k) (v : ℕ) :
    word i j (bytes k v) = v / 256 ^ i % 256 ^ j := by
  obtain ⟨rest, rfl⟩ := Nat.exists_eq_add_of_le h
  rw [word, Nat.add_assoc, drop_bytes, take_bytes, value_bytes_mod]

/-- The low byte of a word, and the bytes behind it. -/
theorem word_succ (offset k : ℕ) (buffer : List UInt8) :
    word offset (k + 1) buffer =
      (buffer.getD offset 0).toNat + 256 * word (offset + 1) k buffer := by
  induction offset generalizing buffer with
  | zero =>
      cases buffer with
      | nil => simp [word, value]
      | cons b bs => rfl
  | succ offset ih =>
      cases buffer with
      | nil => simp [word, value]
      | cons b bs => exact ih bs

/-- A word behind some bytes of a buffer. -/
theorem word_drop (i j k : ℕ) (buffer : List UInt8) :
    word i k (buffer.drop j) = word (j + i) k buffer := by
  rw [word, word, List.drop_drop]

/-- A word in front of the end of a block. -/
theorem word_append {offset k : ℕ} {block : List UInt8} (h : offset + k ≤ block.length)
    (rest : List UInt8) : word offset k (block ++ rest) = word offset k block := by
  have hdrop : offset ≤ block.length := by omega
  have htake : k ≤ (block.drop offset).length := by
    rw [List.length_drop]
    omega
  rw [word, word, List.drop_append_of_le_length hdrop, List.take_append_of_le_length htake]

/-! ## Bit fields -/

/-- The field of {lit}`k` bits from bit {lit}`lo` of a word on; fields fill a word
from its lowest bit. -/
def bitField (lo k v : ℕ) : BitVec k :=
  BitVec.ofNat k (v / 2 ^ lo)

theorem toNat_bitField (lo k v : ℕ) : (bitField lo k v).toNat = v / 2 ^ lo % 2 ^ k :=
  BitVec.toNat_ofNat _ _

/-- A field of eight bits at a byte boundary is a byte of the buffer. -/
theorem bitField_byte {i k : ℕ} (h : i < k) (offset : ℕ) (buffer : List UInt8) :
    bitField (8 * i) 8 (word offset k buffer) = (buffer.getD (offset + i) 0).toBitVec := by
  apply BitVec.eq_of_toNat_eq
  rw [toNat_bitField, UInt8.toNat_toBitVec]
  induction i generalizing offset k with
  | zero =>
      obtain ⟨k, rfl⟩ := Nat.exists_eq_succ_of_ne_zero (Nat.ne_zero_of_lt h)
      have hb : (buffer.getD offset 0).toNat < 256 := UInt8.toNat_lt _
      rw [word_succ, Nat.mul_zero, Nat.pow_zero, Nat.div_one, Nat.add_zero offset]
      omega
  | succ i ih =>
      obtain ⟨k, rfl⟩ := Nat.exists_eq_succ_of_ne_zero (Nat.ne_zero_of_lt h)
      have hb : (buffer.getD offset 0).toNat < 256 := UInt8.toNat_lt _
      have hshift : word offset (k + 1) buffer / 256 = word (offset + 1) k buffer := by
        rw [word_succ]
        omega
      have hpow : 2 ^ (8 * (i + 1)) = 256 * 2 ^ (8 * i) := by
        rw [Nat.mul_succ, Nat.pow_add, Nat.mul_comm]
      rw [Nat.succ_eq_add_one, hpow, ← Nat.div_div_eq_div_mul, hshift,
        ih (Nat.lt_of_succ_lt_succ h) (offset + 1), Nat.add_right_comm, Nat.add_assoc]

/-- A field of one bit. -/
theorem bitField_one (lo v : ℕ) : bitField lo 1 v = BitVec.ofBool (v.testBit lo) := by
  apply BitVec.eq_of_toNat_eq
  rw [toNat_bitField, BitVec.toNat_ofBool, Nat.testBit_eq_decide_div_mod_eq, Nat.pow_one]
  rcases Nat.mod_two_eq_zero_or_one (v / 2 ^ lo) with hzero | hone
  · simp [hzero]
  · simp [hone]

/-- A field has the value of the one that is a bit wider unless that bit is set. -/
theorem bitField_succ_eq_iff (lo k v : ℕ) :
    (bitField lo (k + 1) v).toNat = (bitField lo k v).toNat ↔ v.testBit (lo + k) = false := by
  have hbit : v.testBit (lo + k) = decide (v / 2 ^ lo / 2 ^ k % 2 = 1) := by
    rw [Nat.testBit_eq_decide_div_mod_eq, Nat.pow_add, Nat.div_div_eq_div_mul]
  rw [toNat_bitField, toNat_bitField, Nat.pow_succ, Nat.mod_mul, hbit, decide_eq_false_iff_not]
  have hpos : 0 < 2 ^ k := Nat.two_pow_pos k
  rcases Nat.mod_two_eq_zero_or_one (v / 2 ^ lo / 2 ^ k) with hzero | hone
  · simp [hzero]
  · simp [hone]

end LittleEndian

namespace Buffer

universe u

variable {α : Type u}

/-! ## Copies to the start of a buffer -/

/-- Copy a block to the start of a buffer; the rest of the buffer stays. -/
def overwrite (buffer block : List α) : List α :=
  block ++ buffer.drop block.length

/-- A block that fits keeps the size of the buffer. -/
theorem length_overwrite {buffer block : List α} (h : block.length ≤ buffer.length) :
    (overwrite buffer block).length = buffer.length := by
  rw [overwrite, List.length_append, List.length_drop]
  omega

/-- After a copy the buffer starts with the block. -/
@[simp]
theorem take_overwrite (buffer block : List α) :
    (overwrite buffer block).take block.length = block := by
  rw [overwrite, List.take_left]

theorem take_overwrite_of_eq {buffer block : List α} {k : ℕ} (h : block.length = k) :
    (overwrite buffer block).take k = block := by
  rw [← h, take_overwrite]

/-- Buffers that agree on their first bytes do so after a copy. -/
theorem take_overwrite_congr {buffer buffer' : List α} {k : ℕ}
    (h : buffer'.take k = buffer.take k) (block : List α) :
    (overwrite buffer' block).take k = (overwrite buffer block).take k := by
  have hdrop := congrArg (List.drop block.length) h
  rw [List.drop_take, List.drop_take] at hdrop
  rw [overwrite, overwrite, List.take_append, List.take_append, hdrop]

/-- A block of some length decides on as many bytes of the buffer. -/
theorem take_overwrite_of_le {buffer block : List α} {k : ℕ} (h : k ≤ block.length) :
    (overwrite buffer block).take k = block.take k := by
  rw [overwrite, List.take_append_of_le_length h]

/-! ## Copies into a buffer -/

/-- Copy a block to a position of a buffer; the rest of the buffer stays. -/
def storeAt (buffer : List α) (position : ℕ) (block : List α) : List α :=
  buffer.take position ++ overwrite (buffer.drop position) block

/-- A block that fits keeps the size of the buffer. -/
theorem length_storeAt {buffer block : List α} {position : ℕ}
    (h : position + block.length ≤ buffer.length) :
    (storeAt buffer position block).length = buffer.length := by
  have hfits : block.length ≤ (buffer.drop position).length := by
    rw [List.length_drop]
    omega
  rw [storeAt, List.length_append, length_overwrite hfits, List.length_take, List.length_drop]
  omega

/-- Behind a copy the buffer holds what it held before the position, and the block. -/
theorem take_storeAt {buffer : List α} {position : ℕ} (h : position ≤ buffer.length)
    (block : List α) :
    (storeAt buffer position block).take (position + block.length) =
      buffer.take position ++ block := by
  have hlength : (buffer.take position).length = position := by
    rw [List.length_take]
    omega
  rw [storeAt, overwrite, ← List.append_assoc, List.take_left']
  rw [List.length_append, hlength]

end Buffer
