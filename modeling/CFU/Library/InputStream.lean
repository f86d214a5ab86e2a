import Mathlib.Data.List.Basic
import Mathlib.Tactic.Common

/-!
# Input streams - reading a file with sticky error bits

A file opened for reading has a position and two error bits.  A read that finds
the stream in order stores what is left of the file up to the requested size and
sets both bits when that is too little; a read that finds an error bit set
stores nothing.

Main results:

- Theorem {lit}`read_append`: a read of bytes that are there consumes them.
- Theorem {lit}`read_short`: a read behind the end stores the rest and sets both
  error bits.
- Theorem {lit}`seekBeginning_clear`: clearing the bits and seeking to the
  beginning gives the stream as it was opened.
-/

/-- An open file: its bytes, the bytes behind the read position, and the error
bits. -/
@[ext]
structure InputStream where
  file : List UInt8
  rest : List UInt8
  suffix : rest <:+ file
  eofbit : Bool
  failbit : Bool

namespace InputStream

/-! ## Operations -/

/-- A file as it is opened. -/
def openFile (file : List UInt8) : InputStream where
  file := file
  rest := file
  suffix := List.suffix_refl file
  eofbit := false
  failbit := false

/-- No error bit is set. -/
def good (s : InputStream) : Bool :=
  !s.eofbit && !s.failbit

/-- Read up to {lit}`k` bytes: the bytes stored, and the stream behind them. -/
def read (s : InputStream) (k : ℕ) : List UInt8 × InputStream :=
  if s.good then
    (s.rest.take k,
      { s with
        rest := s.rest.drop k
        suffix := (List.drop_suffix k s.rest).trans s.suffix
        eofbit := decide (s.rest.length < k)
        failbit := decide (s.rest.length < k) })
  else
    ([], { s with failbit := true })

/-- Clear the error bits. -/
def clear (s : InputStream) : InputStream :=
  { s with eofbit := false, failbit := false }

/-- Seek to the beginning, unless an earlier operation failed. -/
def seekBeginning (s : InputStream) : InputStream :=
  if s.failbit then { s with eofbit := false }
  else { s with rest := s.file, suffix := List.suffix_refl s.file, eofbit := false }

/-! ## Lemmas -/

@[simp]
theorem openFile_good (file : List UInt8) : (openFile file).good = true :=
  rfl

@[simp]
theorem openFile_rest (file : List UInt8) : (openFile file).rest = file :=
  rfl

/-- The stream behind bytes that are there. -/
def skip (s : InputStream) (k : ℕ) : InputStream :=
  { s with
    rest := s.rest.drop k
    suffix := (List.drop_suffix k s.rest).trans s.suffix }

@[simp]
theorem skip_rest (s : InputStream) (k : ℕ) : (s.skip k).rest = s.rest.drop k :=
  rfl

@[simp]
theorem skip_file (s : InputStream) (k : ℕ) : (s.skip k).file = s.file :=
  rfl

@[simp]
theorem skip_good (s : InputStream) (k : ℕ) : (s.skip k).good = s.good :=
  rfl

/-- No error bit is set while the stream is in order. -/
theorem bits_of_good {s : InputStream} (h : s.good = true) :
    s.eofbit = false ∧ s.failbit = false := by
  unfold good at h
  simpa using h

/-- A read of bytes that are there consumes them. -/
theorem read_append {s : InputStream} (hgood : s.good = true) {block tail : List UInt8}
    (hrest : s.rest = block ++ tail) {k : ℕ} (hlength : block.length = k) :
    s.read k = (block, s.skip k) := by
  have henough : ¬ s.rest.length < k := by
    rw [hrest, List.length_append]
    omega
  have htake : s.rest.take k = block := by
    rw [hrest, ← hlength, List.take_left]
  rw [read, if_pos hgood, htake]
  refine congrArg _ ?_
  ext1
  · rfl
  · rfl
  · simp [henough, skip, (bits_of_good hgood).1]
  · simp [henough, skip, (bits_of_good hgood).2]

/-- A read behind the end stores what is left. -/
theorem read_short {s : InputStream} (hgood : s.good = true) {k : ℕ} (hshort : s.rest.length < k) :
    (s.read k).1 = s.rest ∧ (s.read k).2.rest = [] ∧ (s.read k).2.file = s.file ∧
      (s.read k).2.eofbit = true ∧ (s.read k).2.failbit = true := by
  rw [read, if_pos hgood]
  have hle : s.rest.length ≤ k := Nat.le_of_lt hshort
  exact ⟨List.take_of_length_le hle, List.drop_of_length_le hle, rfl, decide_eq_true hshort,
    decide_eq_true hshort⟩

/-- A stream with an error stores nothing. -/
theorem read_of_not_good {s : InputStream} (hbad : s.good = false) (k : ℕ) :
    s.read k = ([], { s with failbit := true }) := by
  rw [read, hbad]
  rfl

@[simp]
theorem read_file (s : InputStream) (k : ℕ) : (s.read k).2.file = s.file := by
  unfold read
  split <;> rfl

/-- Clearing the error bits and seeking to the beginning reopens the file. -/
@[simp]
theorem seekBeginning_clear (s : InputStream) : s.clear.seekBeginning = openFile s.file :=
  rfl

end InputStream
