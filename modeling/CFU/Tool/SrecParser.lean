import CFU.Tool.Reports
import CFU.Library.InputStream

/-!
# CFU tool - reading a payload file

A payload file is a sequence of records: a little-endian address, a length byte
and that many data bytes.  {lit}`ProcessSrecBin` reads one of them into the content
report, through a buffer of 64 bytes that is never checked against the length.

Main results:

- Theorem {lit}`processSrecBin_record`: a record at the read position is read
  completely.
- Theorem {lit}`processSrecBin_end`: at the end of the file nothing is read.
-/

namespace CFU
namespace Tool

open LittleEndian Buffer

/-! ## The parser -/

/-- What stops the tool in the middle of a function. -/
inductive Fault where
  | stackOverrun
  | invalidParameter
deriving DecidableEq, Repr

/-- The size of {lit}`pBuff`. -/
def pBuffSize : ℕ := 64

/-- {lit}`memcpy_s` into {lit}`contentData.data`. -/
def ContentData.memcpyData (contentData : ContentData) (pBuff : List UInt8) (count : ℕ) :
    Except Fault ContentData :=
  if h : count ≤ maxHidContentPayload then
    .ok
      { contentData with
        data := overwrite contentData.data (pBuff.take count)
        data_length := by
          rw [length_overwrite, contentData.data_length]
          rw [List.length_take, contentData.data_length]
          omega }
  else
    .error .invalidParameter

/-- {lit}`ProcessSrecBin`.  A read that stores more than {lit}`pBuff` holds overruns
the stack. -/
def processSrecBin (srecBinStream : InputStream) (contentData : ContentData) :
    Except Fault (Bool × InputStream × ContentData) :=
  if srecBinStream.eofbit then
    .ok (false, srecBinStream, { contentData with length := 0 })
  else
    let (block₁, stream₁) := srecBinStream.read 4
    let pBuff₁ := overwrite (List.replicate pBuffSize 0) block₁
    let address := UInt32.ofNat (value (pBuff₁.take 4))
    let (block₂, stream₂) := stream₁.read 1
    let pBuff₂ := overwrite pBuff₁ block₂
    let length := pBuff₂.getD 0 0
    if length == 0 then
      .ok (false, stream₂, { contentData with length := length, address := address })
    else
      let (block₃, stream₃) := stream₂.read length.toNat
      if pBuffSize < block₃.length then
        .error .stackOverrun
      else
        let contentData := { contentData with length := length, address := address }
        match contentData.memcpyData (overwrite pBuff₂ block₃) length.toNat with
        | .ok contentData => .ok (true, stream₃, contentData)
        | .error fault => .error fault

/-! ## Records -/

/-- A record that fits into a content report. -/
structure Record where
  address : UInt32
  data : List UInt8
  data_pos : 0 < data.length
  data_le : data.length ≤ maxHidContentPayload

/-- A record of one byte. -/
def byteRecord (address : UInt32) (byte : UInt8) : Record where
  address := address
  data := [byte]
  data_pos := Nat.zero_lt_one
  data_le := Nat.le_add_left 1 51

/-- The length byte of a record. -/
def Record.length (record : Record) : UInt8 :=
  UInt8.ofNat record.data.length

theorem Record.toNat_length (record : Record) : record.length.toNat = record.data.length := by
  have hle := record.data_le
  rw [Record.length, UInt8.toNat_ofNat', Nat.mod_eq_of_lt]
  unfold maxHidContentPayload at hle
  omega

theorem Record.length_ne_zero (record : Record) : record.length ≠ 0 := by
  intro h
  have hpos := record.data_pos
  have hzero := congrArg UInt8.toNat h
  rw [record.toNat_length] at hzero
  simp only [UInt8.toNat_zero] at hzero
  omega

/-- The bytes of a record in a payload file. -/
def Record.toBytes (record : Record) : List UInt8 :=
  bytes 4 record.address.toNat ++ record.length :: record.data

/-- The payload file of a list of records. -/
def payload (records : List Record) : List UInt8 :=
  records.flatMap Record.toBytes

/-- The address of the first record, from which the tool counts those of the blocks. -/
def firstAddress (records : List Record) : UInt32 :=
  (records.head?.map Record.address).getD 0

/-- A content report that holds a record and keeps its other fields. -/
def ContentData.load (contentData : ContentData) (record : Record) : ContentData :=
  { contentData with
    length := record.length
    address := record.address
    data := overwrite contentData.data record.data
    data_length := by
      rw [length_overwrite, contentData.data_length]
      rw [contentData.data_length]
      exact record.data_le }

/-- The length of a record in a payload file. -/
theorem Record.length_toBytes (record : Record) :
    record.toBytes.length = 4 + (1 + record.data.length) := by
  rw [Record.toBytes, List.length_append, length_bytes, List.length_cons, Nat.add_comm 1]

/-- The stream behind the address, the length byte and the data of a record. -/
def Record.behind (record : Record) (s : InputStream) : InputStream :=
  ((s.skip 4).skip 1).skip record.data.length

@[simp]
theorem Record.behind_good (record : Record) (s : InputStream) :
    (record.behind s).good = s.good :=
  rfl

@[simp]
theorem Record.behind_file (record : Record) (s : InputStream) :
    (record.behind s).file = s.file :=
  rfl

/-- Behind a record the file goes on with what follows the record. -/
theorem Record.behind_rest {record : Record} {s : InputStream} {tail : List UInt8}
    (hrest : s.rest = record.toBytes ++ tail) : (record.behind s).rest = tail := by
  rw [Record.behind, InputStream.skip_rest, InputStream.skip_rest, InputStream.skip_rest,
    List.drop_drop, List.drop_drop, hrest, ← record.length_toBytes, List.drop_left]

/-- A record at the read position is read completely. -/
theorem processSrecBin_record {s : InputStream} (hgood : s.good = true)
    (contentData : ContentData) {record : Record} {tail : List UInt8}
    (hrest : s.rest = record.toBytes ++ tail) :
    processSrecBin s contentData = .ok (true, record.behind s, contentData.load record) := by
  have hread₁ : s.read 4 = (bytes 4 record.address.toNat, s.skip 4) :=
    InputStream.read_append hgood (by rw [hrest, Record.toBytes, List.append_assoc]) (by simp)
  have hgood₁ : (s.skip 4).good = true := hgood
  have hgood₂ : ((s.skip 4).skip 1).good = true := hgood
  have hrest₁ : (s.skip 4).rest = [record.length] ++ (record.data ++ tail) := by
    rw [InputStream.skip_rest, hrest, Record.toBytes, List.append_assoc]
    exact List.drop_left' (length_bytes 4 _)
  have hread₂ : (s.skip 4).read 1 = ([record.length], (s.skip 4).skip 1) :=
    InputStream.read_append hgood₁ hrest₁ rfl
  have hrest₂ : ((s.skip 4).skip 1).rest = record.data ++ tail := by
    rw [InputStream.skip_rest, hrest₁]
    rfl
  have hread₃ : ((s.skip 4).skip 1).read record.data.length =
      (record.data, ((s.skip 4).skip 1).skip record.data.length) :=
    InputStream.read_append hgood₂ hrest₂ rfl
  have hsmall : ¬ pBuffSize < record.data.length := by
    have hle := record.data_le
    unfold maxHidContentPayload at hle
    unfold pBuffSize
    omega
  have haddress : UInt32.ofNat (value ((overwrite (List.replicate pBuffSize 0)
      (bytes 4 record.address.toNat)).take 4)) = record.address := by
    rw [take_overwrite_of_eq (length_bytes 4 _), value_bytes record.address.toNat_lt,
      UInt32.ofNat_toNat]
  have hnonzero : ¬ (record.length == 0) = true := by
    rw [beq_iff_eq]
    exact record.length_ne_zero
  have hlength : (overwrite (overwrite (List.replicate pBuffSize 0)
      (bytes 4 record.address.toNat)) [record.length]).getD 0 0 = record.length := rfl
  rw [processSrecBin, (InputStream.bits_of_good hgood).1]
  simp only [hread₁, hread₂, Bool.false_eq_true, if_false, haddress]
  simp only [hlength, if_neg hnonzero, record.toNat_length, hread₃, if_neg hsmall,
    ContentData.memcpyData, dif_pos record.data_le, take_overwrite]
  rfl

/-- At the end of the file nothing is read, and the error bits are set. -/
theorem processSrecBin_end {s : InputStream} (hgood : s.good = true)
    (contentData : ContentData) (hrest : s.rest = []) :
    ∃ s', processSrecBin s contentData =
        .ok (false, s', { contentData with length := 0, address := 0 }) ∧
      s'.good = false ∧ s'.rest = [] ∧ s'.file = s.file := by
  have hshort : s.rest.length < 4 := by
    rw [hrest]
    decide
  obtain ⟨hblock, hrest₁, hfile₁, heof, hfail⟩ := InputStream.read_short hgood hshort
  have hbad : (s.read 4).2.good = false := by
    rw [InputStream.good, heof]
    rfl
  have hread₂ := InputStream.read_of_not_good hbad 1
  refine ⟨((s.read 4).2.read 1).2, ?_, ?_, ?_, ?_⟩
  · rw [processSrecBin, (InputStream.bits_of_good hgood).1]
    simp only [hblock, hrest, hread₂, Bool.false_eq_true, if_false]
    rfl
  · rw [hread₂, InputStream.good, heof]
    rfl
  · rw [hread₂, hrest₁]
  · rw [hread₂, hfile₁]

end Tool
end CFU
