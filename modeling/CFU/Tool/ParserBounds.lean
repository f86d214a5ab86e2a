import CFU.Tool.PayloadCalls

/-!
# CFU tool - the buffers of the parser

The length byte of a record goes through {lit}`ProcessSrecBin` unchecked.  The last read
stores as many bytes in {lit}`pBuff` as it asks for, and the copy into the report is
bounded by {lit}`memcpy_s`, whose result nothing looks at: whether the call returns is up
to the handler for invalid parameters of the C runtime.

Main results:

- Definition {lit}`processSrecBinReads`: {lit}`ProcessSrecBin` with the number of bytes
  that each of its reads stores.
- Theorem {lit}`processSrecBinReads_result`: with a handler that ends the tool it is
  {lit}`processSrecBin`.
- Theorem {lit}`buffers_kept_iff`: when both buffers hold what is put in them.
-/

namespace CFU
namespace Tool

open LittleEndian Buffer

/-! ## The reads -/

/-- {lit}`memcpy_s` into {lit}`contentData.data`.  A size that is too big for it goes to
the handler for invalid parameters, which ends the tool, or returns with the destination
zeroed. -/
def ContentData.memcpyDataHandled (handlerReturns : Bool) (contentData : ContentData)
    (pBuff : List UInt8) (count : ℕ) : Except Fault ContentData :=
  match contentData.memcpyData pBuff count with
  | .ok contentData => .ok contentData
  | .error fault =>
      if handlerReturns then
        .ok
          { contentData with
            data := ContentData.zero.data
            data_length := ContentData.zero.data_length }
      else .error fault

/-- {lit}`ProcessSrecBin`, with the number of bytes that each of its reads stores in
{lit}`pBuff`.  The handler for invalid parameters ends the tool, or it returns. -/
def processSrecBinReads (handlerReturns : Bool) (srecBinStream : InputStream)
    (contentData : ContentData) : List ℕ × Except Fault (Bool × InputStream × ContentData) :=
  if srecBinStream.eofbit then
    ([], .ok (false, srecBinStream, { contentData with length := 0 }))
  else
    let (block₁, stream₁) := srecBinStream.read 4
    let pBuff₁ := overwrite (List.replicate pBuffSize 0) block₁
    let address := UInt32.ofNat (value (pBuff₁.take 4))
    let (block₂, stream₂) := stream₁.read 1
    let pBuff₂ := overwrite pBuff₁ block₂
    let length := pBuff₂.getD 0 0
    if length == 0 then
      ([block₁.length, block₂.length],
        .ok (false, stream₂, { contentData with length := length, address := address }))
    else
      let (block₃, stream₃) := stream₂.read length.toNat
      let stored := [block₁.length, block₂.length, block₃.length]
      if pBuffSize < block₃.length then
        (stored, .error .stackOverrun)
      else
        let contentData := { contentData with length := length, address := address }
        (stored,
          (contentData.memcpyDataHandled handlerReturns (overwrite pBuff₂ block₃)
            length.toNat).map fun contentData => (true, stream₃, contentData))

/-- Every read stores at most the bytes of {lit}`pBuff`, and the length that is reported
is at most that of the data. -/
structure BuffersKept (handlerReturns : Bool) (s : InputStream) (contentData : ContentData) :
    Prop where
  reads : ∀ stored ∈ (processSrecBinReads handlerReturns s contentData).1, stored ≤ pBuffSize
  length : ∀ delivered stream contentData',
    (processSrecBinReads handlerReturns s contentData).2 = .ok (delivered, stream, contentData') →
      contentData'.length.toNat ≤ maxHidContentPayload

section Bounds

variable {s : InputStream} {contentData : ContentData} {handlerReturns : Bool}

/-- A handler that ends the tool leaves {lit}`memcpy_s` as it is. -/
theorem memcpyDataHandled_false (contentData : ContentData) (pBuff : List UInt8) (count : ℕ) :
    contentData.memcpyDataHandled false pBuff count = contentData.memcpyData pBuff count := by
  unfold ContentData.memcpyDataHandled
  cases contentData.memcpyData pBuff count with
  | ok copied => rfl
  | error fault => rfl

/-- With a handler that returns, the copy returns. -/
theorem exists_memcpyDataHandled_true (contentData : ContentData) (pBuff : List UInt8)
    (count : ℕ) :
    ∃ copied, contentData.memcpyDataHandled true pBuff count = .ok copied := by
  unfold ContentData.memcpyDataHandled
  cases contentData.memcpyData pBuff count with
  | ok copied => exact ⟨copied, rfl⟩
  | error fault => exact ⟨_, rfl⟩

/-- The copy leaves the length as it is. -/
theorem memcpyDataHandled_length {pBuff : List UInt8} {count : ℕ} {contentData' : ContentData}
    (h : contentData.memcpyDataHandled handlerReturns pBuff count = .ok contentData') :
    contentData'.length = contentData.length := by
  unfold ContentData.memcpyDataHandled ContentData.memcpyData at h
  by_cases hfits : count ≤ maxHidContentPayload
  · rw [dif_pos hfits] at h
    cases h
    rfl
  · rw [dif_neg hfits] at h
    cases handlerReturns with
    | false => cases h
    | true =>
        cases h
        rfl

/-- When the handler ends the tool, this is the parser. -/
theorem processSrecBinReads_result (s : InputStream) (contentData : ContentData) :
    (processSrecBinReads false s contentData).2 = processSrecBin s contentData := by
  unfold processSrecBinReads processSrecBin
  by_cases heof : s.eofbit = true
  · rw [if_pos heof, if_pos heof]
  · rw [if_neg heof, if_neg heof]
    dsimp only
    split
    · rfl
    · split
      · rfl
      · dsimp only
        rw [memcpyDataHandled_false]
        split
        · rename_i hcopied
          rw [hcopied]
          rfl
        · rename_i hcopied
          rw [hcopied]
          rfl

/-! ## The bounds -/

theorem length_read_le (s : InputStream) (k : ℕ) : (s.read k).1.length ≤ k := by
  unfold InputStream.read
  split
  · exact List.length_take_le _ _
  · exact Nat.zero_le _

/-- The reads fit into {lit}`pBuff` if the last of them does. -/
theorem reads_le_iff (hgood : s.good = true) :
    (∀ stored ∈ (processSrecBinReads handlerReturns s contentData).1, stored ≤ pBuffSize) ↔
      min (lengthByte s.rest).toNat (s.rest.length - 5) ≤ pBuffSize := by
  have haddress : (s.read 4).1.length ≤ pBuffSize :=
    Nat.le_trans (length_read_le s 4) (by decide)
  have hlength : ((s.read 4).2.read 1).1.length ≤ pBuffSize :=
    Nat.le_trans (length_read_le _ 1) (by decide)
  have hthird := length_third_read hgood (lengthByte s.rest).toNat
  unfold processSrecBinReads
  simp only [(InputStream.bits_of_good hgood).1, Bool.false_eq_true, if_false, getD_pBuff hgood,
    beq_iff_eq, hthird]
  by_cases hzero : lengthByte s.rest = 0
  · simp [hzero, haddress, hlength]
  · rw [if_neg hzero]
    split
    · simp [haddress, hlength]
    · simp [haddress, hlength]

/-- A call that returns reports the length byte. -/
theorem length_of_result (hgood : s.good = true) {delivered : Bool} {stream : InputStream}
    {contentData' : ContentData}
    (h : (processSrecBinReads handlerReturns s contentData).2 =
      .ok (delivered, stream, contentData')) :
    contentData'.length = lengthByte s.rest := by
  unfold processSrecBinReads at h
  simp only [(InputStream.bits_of_good hgood).1, Bool.false_eq_true, if_false, getD_pBuff hgood,
    beq_iff_eq] at h
  split at h
  · cases h
    rfl
  · split at h
    · cases h
    · dsimp only at h
      cases hcopied : ContentData.memcpyDataHandled handlerReturns _ _ _ with
      | error fault =>
          rw [hcopied] at h
          cases h
      | ok copied =>
          rw [hcopied] at h
          cases h
          exact memcpyDataHandled_length hcopied

/-- A call that returns although the handler would have ended the tool reports a length
that fits. -/
theorem lengthByte_le_of_result (hgood : s.good = true) {delivered : Bool} {stream : InputStream}
    {contentData' : ContentData}
    (h : (processSrecBinReads false s contentData).2 = .ok (delivered, stream, contentData')) :
    (lengthByte s.rest).toNat ≤ maxHidContentPayload := by
  have hverdict := processSrecBin_verdict hgood contentData
  rw [processSrecBinReads_result] at h
  rw [h] at hverdict
  unfold verdict at hverdict
  split at hverdict
  · rename_i hzero
    rw [hzero]
    exact Nat.zero_le _
  · split at hverdict
    · cases hverdict
    · split at hverdict
      · cases hverdict
      · omega

/-- A stream with an error stores nothing, and no length is reported. -/
theorem buffersKept_of_not_good (hbad : s.good = false) :
    BuffersKept handlerReturns s contentData := by
  by_cases heof : s.eofbit = true
  · have hrun : processSrecBinReads handlerReturns s contentData =
        ([], .ok (false, s, { contentData with length := 0 })) := by
      rw [processSrecBinReads, if_pos heof]
    constructor
    · simp [hrun]
    · intro delivered stream contentData' h
      rw [hrun] at h
      cases h
      exact Nat.zero_le _
  · have hread := InputStream.read_of_not_good hbad 4
    have hagain := InputStream.read_of_not_good (s := { s with failbit := true })
      (by simp [InputStream.good]) 1
    have hrun : processSrecBinReads handlerReturns s contentData =
        ([0, 0], .ok (false, { s with failbit := true },
          { contentData with length := 0, address := 0 })) := by
      rw [processSrecBinReads, if_neg heof]
      simp only [hread, hagain]
      rfl
    constructor
    · simp [hrun]
    · intro delivered stream contentData' h
      rw [hrun] at h
      cases h
      exact Nat.zero_le _

/-- A call whose last read fits returns if the handler does. -/
theorem exists_result_of_handlerReturns (contentData : ContentData) (hgood : s.good = true)
    (hfits : min (lengthByte s.rest).toNat (s.rest.length - 5) ≤ pBuffSize) :
    ∃ delivered stream contentData',
      (processSrecBinReads true s contentData).2 = .ok (delivered, stream, contentData') := by
  have hthird := length_third_read hgood (lengthByte s.rest).toNat
  unfold processSrecBinReads
  simp only [(InputStream.bits_of_good hgood).1, Bool.false_eq_true, if_false, getD_pBuff hgood,
    beq_iff_eq, hthird]
  by_cases hzero : lengthByte s.rest = 0
  · rw [if_pos hzero]
    exact ⟨_, _, _, rfl⟩
  · rw [if_neg hzero, if_neg (Nat.not_lt_of_le hfits)]
    dsimp only
    obtain ⟨copied, hcopied⟩ := exists_memcpyDataHandled_true _ _ _
    rw [hcopied]
    exact ⟨_, _, _, rfl⟩

/-- Both buffers hold what is put in them, for every stream, exactly when the last read
stores at most 64 bytes and, if the handler for invalid parameters returns, the length
byte is at most 52. -/
theorem buffers_kept_iff (handlerReturns : Bool) (s : InputStream) (contentData : ContentData) :
    BuffersKept handlerReturns s contentData ↔
      (s.good = true →
        if handlerReturns then (lengthByte s.rest).toNat ≤ maxHidContentPayload
        else min (lengthByte s.rest).toNat (s.rest.length - 5) ≤ pBuffSize) := by
  constructor
  · intro hkept hgood
    have hfits := (reads_le_iff hgood).mp hkept.reads
    cases handlerReturns with
    | false => exact hfits
    | true =>
        obtain ⟨delivered, stream, contentData', hresult⟩ :=
          exists_result_of_handlerReturns contentData hgood hfits
        have hreported := hkept.length delivered stream contentData' hresult
        rw [length_of_result hgood hresult] at hreported
        exact hreported
  · intro hbound
    by_cases hgood : s.good = true
    · have hhere := hbound hgood
      cases handlerReturns with
      | false =>
          refine ⟨(reads_le_iff hgood).mpr hhere, ?_⟩
          intro delivered stream contentData' hresult
          rw [length_of_result hgood hresult]
          exact lengthByte_le_of_result hgood hresult
      | true =>
          have hlength : (lengthByte s.rest).toNat ≤ maxHidContentPayload := hhere
          have hfits : min (lengthByte s.rest).toNat (s.rest.length - 5) ≤ pBuffSize := by
            unfold maxHidContentPayload at hlength
            unfold pBuffSize
            omega
          refine ⟨(reads_le_iff hgood).mpr hfits, ?_⟩
          intro delivered stream contentData' hresult
          rw [length_of_result hgood hresult]
          exact hlength
    · exact buffersKept_of_not_good (by simpa using hgood)

end Bounds

/-! ## A record of 65 bytes -/

/-- A record with a length byte of 65, and as many bytes behind it. -/
def longRecord : List UInt8 :=
  [0, 0, 0, 0, 65] ++ List.replicate 65 0

/-- Its read stores 65 bytes in the 64 of the buffer. -/
theorem longRecord_overruns :
    65 ∈ (processSrecBinReads false (.openFile longRecord) .zero).1 ∧
      ¬ BuffersKept false (.openFile longRecord) .zero := by
  have hread : 65 ∈ (processSrecBinReads false (.openFile longRecord) .zero).1 := by
    decide
  refine ⟨hread, ?_⟩
  intro hkept
  exact absurd (hkept.reads 65 hread) (by decide)

end Tool
end CFU
