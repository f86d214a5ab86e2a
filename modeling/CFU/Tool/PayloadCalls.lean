import CFU.Tool.FwUpdate
import Mathlib.Data.List.Forall2

/-!
# CFU tool - the calls of the parser on a payload file

Both passes over a payload file call {lit}`ProcessSrecBin` until it does not return
{lit}`TRUE`, and change the content report between the calls.  The calls are listed
here with arbitrary contents of the report before each of them.  None of the reads
checks how many bytes it got, so what a call returns is decided by one byte of what
is left of the file.

Main results:

- Theorem {lit}`processSrecBin_verdict`: what a call returns, for whatever is left of
  the file.
- Theorem {lit}`payload_roundTrip`: on a payload file every pass sees the records.
- Theorem {lit}`payload_sound_iff`: on which files every call does what the format
  says.
-/

namespace CFU
namespace Tool

open LittleEndian Buffer

variable {D : Type}

/-! ## Calls -/

/-- A call of {lit}`ProcessSrecBin`: the stream and the report before it. -/
structure SrecBinCall where
  stream : InputStream
  contentData : ContentData

def SrecBinCall.result (call : SrecBinCall) : Except Fault (Bool × InputStream × ContentData) :=
  processSrecBin call.stream call.contentData

/-- The calls of a pass from a stream on, at most {lit}`rounds` of them; {lit}`before k`
is the report before call {lit}`k`. -/
def srecBinCalls : ℕ → (ℕ → ContentData) → InputStream → List SrecBinCall
  | 0, _, _ => []
  | rounds + 1, before, stream =>
      ⟨stream, before 0⟩ ::
        match processSrecBin stream (before 0) with
        | .ok (true, stream, _) => srecBinCalls rounds (fun k => before (k + 1)) stream
        | _ => []

/-- The call returns {lit}`TRUE` and leaves the record in the report. -/
def SrecBinCall.Yields (call : SrecBinCall) (record : Record) : Prop :=
  ∃ stream contentData, call.result = .ok (true, stream, contentData) ∧
    contentData.address = record.address ∧ contentData.length = record.length ∧
    contentData.data.take record.data.length = record.data

/-- The call returns {lit}`FALSE` and leaves nothing of the file. -/
def SrecBinCall.Ends (call : SrecBinCall) : Prop :=
  ∃ stream contentData, call.result = .ok (false, stream, contentData) ∧ stream.rest = []

/-- What the report held before a call does not decide what the call returns. -/
theorem processSrecBin_returns {s s' : InputStream} {contentData contentData' : ContentData}
    {delivered : Bool} (h : processSrecBin s contentData = .ok (delivered, s', contentData'))
    (other : ContentData) : ∃ other', processSrecBin s other = .ok (delivered, s', other') := by
  unfold processSrecBin at h ⊢
  by_cases heof : s.eofbit = true
  · rw [if_pos heof] at h ⊢
    cases h
    exact ⟨_, rfl⟩
  · rw [if_neg heof] at h ⊢
    dsimp only at h ⊢
    split at h
    · rename_i hzero
      rw [if_pos hzero]
      cases h
      exact ⟨_, rfl⟩
    · rename_i hzero
      rw [if_neg hzero]
      split at h
      · cases h
      · rename_i hstored
        rw [if_neg hstored]
        unfold ContentData.memcpyData at h ⊢
        split at h
        · rename_i hcopied
          split at hcopied
          · rename_i hsize
            rw [dif_pos hsize]
            cases h
            exact ⟨_, rfl⟩
          · cases hcopied
        · cases h

/-! ## Payload files -/

/-- The calls at the records of a payload. -/
def recordCalls : List Record → (ℕ → ContentData) → InputStream → List SrecBinCall
  | [], _, _ => []
  | record :: records, before, stream =>
      ⟨stream, before 0⟩ ::
        recordCalls records (fun k => before (k + 1)) (record.behind stream)

/-- The stream behind the records of a payload. -/
def behindAll (records : List Record) (stream : InputStream) : InputStream :=
  records.foldl (fun stream record => record.behind stream) stream

theorem behindAll_good {records : List Record} {stream : InputStream}
    (hgood : stream.good = true) : (behindAll records stream).good = true := by
  induction records generalizing stream with
  | nil => exact hgood
  | cons record records ih => exact ih ((record.behind_good stream).trans hgood)

theorem behindAll_rest {records : List Record} {stream : InputStream} {tail : List UInt8}
    (hrest : stream.rest = payload records ++ tail) : (behindAll records stream).rest = tail := by
  induction records generalizing stream with
  | nil => exact hrest
  | cons record records ih =>
      have hsplit : stream.rest = record.toBytes ++ (payload records ++ tail) := by
        rw [hrest, payload, List.flatMap_cons, List.append_assoc]
        rfl
      exact ih (Record.behind_rest hsplit)

/-- A pass calls the parser at each record, and then on what follows them. -/
theorem srecBinCalls_payload (records : List Record) {stream : InputStream} {tail : List UInt8}
    (hgood : stream.good = true) (hrest : stream.rest = payload records ++ tail) (rounds : ℕ)
    (before : ℕ → ContentData) :
    srecBinCalls (records.length + rounds) before stream =
      recordCalls records before stream ++
        srecBinCalls rounds (fun k => before (records.length + k)) (behindAll records stream) := by
  induction records generalizing stream before with
  | nil => simp [recordCalls, behindAll]
  | cons record records ih =>
      have hsplit : stream.rest = record.toBytes ++ (payload records ++ tail) := by
        rw [hrest, payload, List.flatMap_cons, List.append_assoc]
        rfl
      have hbehind : (record.behind stream).good = true := hgood
      have hshift : (fun k => before (records.length + 1 + k)) =
          fun k => before (records.length + k + 1) := by
        funext k
        rw [Nat.add_right_comm]
      rw [List.length_cons, Nat.add_right_comm, srecBinCalls,
        processSrecBin_record hgood (before 0) hsplit, hshift]
      exact congrArg _ (ih hbehind (Record.behind_rest hsplit) fun k => before (k + 1))

/-- Each of the calls at the records returns its record. -/
theorem recordCalls_result {records : List Record} {stream : InputStream} {tail : List UInt8}
    (hgood : stream.good = true) (hrest : stream.rest = payload records ++ tail)
    (before : ℕ → ContentData) :
    List.Forall₂ (fun call record => ∃ tail, call.stream.rest = record.toBytes ++ tail ∧
        call.result =
          .ok (true, record.behind call.stream, call.contentData.load record))
      (recordCalls records before stream) records := by
  induction records generalizing stream before with
  | nil => exact .nil
  | cons record records ih =>
      have hsplit : stream.rest = record.toBytes ++ (payload records ++ tail) := by
        rw [hrest, payload, List.flatMap_cons, List.append_assoc]
        rfl
      refine .cons ⟨_, hsplit, processSrecBin_record hgood (before 0) hsplit⟩ ?_
      have hbehind : (record.behind stream).good = true := hgood
      exact ih hbehind (Record.behind_rest hsplit) fun k => before (k + 1)

/-- The sending pass as a loop over records. -/
def sendRecords (device : HidDevice D) (report : HidReportIdInfo) (waits : ℕ)
    (totalContentPacketCount : UInt32) : List Record → Transfer → D → Outcome × D
  | [], t, d => (.returned (transferCompleted totalContentPacketCount t.contentPacketsSent), d)
  | record :: records, t, d =>
      let t := t.onRecord report totalContentPacketCount record
      match device.setOutputReport (t.outputReport report) d with
      | (false, d) => (.returned false, d)
      | (true, d) =>
          match awaitContentResponse device t.contentdata.sequenceNumber waits
            t.inputReportBuffer d with
          | (.waiting, _, d) => (.unfinished, d)
          | (.rejected, _, d) => (.returned false, d)
          | (.acknowledged, inputReportBuffer, d) =>
              sendRecords device report waits totalContentPacketCount records
                (t.advance inputReportBuffer) d

/-- On a payload file the sending pass is the loop over the records. -/
theorem sendBlocks_eq_sendRecords (device : HidDevice D) (report : HidReportIdInfo) (waits : ℕ)
    (totalContentPacketCount : UInt32) {records : List Record} {blocks : ℕ}
    (hblocks : records.length < blocks) {t : Transfer} (hgood : t.stream.good = true)
    (hrest : t.stream.rest = payload records) (d : D) :
    sendBlocks device report waits totalContentPacketCount blocks t d =
      sendRecords device report waits totalContentPacketCount records t d := by
  induction records generalizing blocks t d with
  | nil =>
      obtain ⟨blocks, rfl⟩ := Nat.exists_eq_add_one_of_ne_zero (Nat.ne_zero_of_lt hblocks)
      rw [sendBlocks_end device hgood hrest, sendRecords]
  | cons record records ih =>
      obtain ⟨blocks, rfl⟩ := Nat.exists_eq_add_one_of_ne_zero (Nat.ne_zero_of_lt hblocks)
      have hsplit : t.stream.rest = record.toBytes ++ payload records := hrest
      have hless : records.length < blocks := by
        rw [List.length_cons] at hblocks
        omega
      rw [sendBlocks_record device hgood hsplit, sendRecords]
      dsimp only
      generalize ht : t.onRecord report totalContentPacketCount record = t'
      have hstream : t'.stream = record.behind t.stream := by
        rw [← ht]
        rfl
      rcases device.setOutputReport (t'.outputReport report) d with ⟨_ | _, d₁⟩
      · rfl
      · dsimp only
        rcases awaitContentResponse device t'.contentdata.sequenceNumber waits
          t'.inputReportBuffer d₁ with ⟨_ | _ | _, inputReportBuffer, d₂⟩
        · apply ih hless
          · exact (congrArg InputStream.good hstream).trans hgood
          · exact (congrArg InputStream.rest hstream).trans (Record.behind_rest hsplit)
        · rfl
        · rfl

/-- On the file of any list of records a pass calls the parser once for each record,
which it delivers in order whatever the report held, and once more at the end, which
consumes the file.  The counting pass counts the records, and after the rewind the
sending pass is a loop over the same records. -/
theorem payload_roundTrip (records : List Record) (before : ℕ → ContentData) :
    (∃ delivered ended,
      srecBinCalls (roundsFor (payload records)) before (.openFile (payload records)) =
        delivered ++ [ended] ∧
      List.Forall₂ SrecBinCall.Yields delivered records ∧ ended.Ends) ∧
    ∀ contentdata, ∃ stream contentdata',
      countContentPackets (roundsFor (payload records)) (.openFile (payload records))
          contentdata 0 =
        .ok (UInt32.ofNat records.length, stream, contentdata') ∧
      ∀ {D : Type} (device : HidDevice D) (report : HidReportIdInfo) (waits : ℕ)
        (totalContentPacketCount : UInt32) (t : Transfer) (d : D),
        t.stream = stream.clear.seekBeginning →
          sendBlocks device report waits totalContentPacketCount (roundsFor (payload records)) t
              d =
            sendRecords device report waits totalContentPacketCount records t d := by
  have hgood : (InputStream.openFile (payload records)).good = true := rfl
  constructor
  · have hrest : (InputStream.openFile (payload records)).rest = payload records ++ [] :=
      (List.append_nil _).symm
    obtain ⟨rounds, hrounds⟩ := Nat.exists_eq_add_of_lt (length_lt_roundsFor records)
    have hend := processSrecBin_end (behindAll_good hgood) (before records.length)
      (behindAll_rest hrest)
    obtain ⟨stream, hresult, -, hconsumed, -⟩ := hend
    refine ⟨recordCalls records before (.openFile (payload records)),
      ⟨behindAll records (.openFile (payload records)), before records.length⟩, ?_, ?_,
      ⟨_, _, hresult, hconsumed⟩⟩
    · rw [hrounds, Nat.add_assoc, srecBinCalls_payload records hgood hrest, srecBinCalls,
        Nat.add_zero, hresult]
    · refine List.Forall₂.imp ?_ (recordCalls_result hgood hrest before)
      rintro call record ⟨-, -, hcall⟩
      exact ⟨_, _, hcall, rfl, rfl, take_overwrite _ _⟩
  · intro contentdata
    obtain ⟨stream, contentdata', hcount, hfile, -⟩ :=
      countContentPackets_payload hgood (InputStream.openFile_rest _)
        (length_lt_roundsFor records) contentdata 0
    rw [UInt32.zero_add] at hcount
    refine ⟨stream, contentdata', hcount, ?_⟩
    intro D device report waits totalContentPacketCount t d hstream
    rw [InputStream.seekBeginning_clear, hfile] at hstream
    apply sendBlocks_eq_sendRecords device report waits _ (length_lt_roundsFor records)
    · rw [hstream]
      rfl
    · rw [hstream]
      rfl

/-! ## Any file -/

/-- The byte that a call takes for the length: behind a whole address it is the
length byte, otherwise the first byte that is left. -/
def lengthByte (rest : List UInt8) : UInt8 :=
  if rest.length < 5 then rest.getD 0 0 else rest.getD 4 0

/-- What a call on a stream in order returns. -/
def verdict (rest : List UInt8) : Except Fault Bool :=
  if lengthByte rest = 0 then .ok false
  else if pBuffSize < min (lengthByte rest).toNat (rest.length - 5) then .error .stackOverrun
  else if maxHidContentPayload < (lengthByte rest).toNat then .error .invalidParameter
  else .ok true

section Verdict

variable {s : InputStream}

/-- What the first two reads leave in the first byte of {lit}`pBuff`. -/
theorem getD_pBuff (hgood : s.good = true) :
    (overwrite (overwrite (List.replicate pBuffSize 0) (s.read 4).1)
        ((s.read 4).2.read 1).1).getD 0 0 = lengthByte s.rest := by
  obtain ⟨heof, hfail⟩ := InputStream.bits_of_good hgood
  by_cases hshort : s.rest.length < 5
  · rw [lengthByte, if_pos hshort]
    rcases hrest : s.rest with _ | ⟨b₀, _ | ⟨b₁, _ | ⟨b₂, _ | ⟨b₃, _ | ⟨b₄, tail⟩⟩⟩⟩⟩
    · simp [InputStream.read, InputStream.good, heof, hfail, hrest, overwrite, pBuffSize]
    · simp [InputStream.read, InputStream.good, heof, hfail, hrest, overwrite]
    · simp [InputStream.read, InputStream.good, heof, hfail, hrest, overwrite]
    · simp [InputStream.read, InputStream.good, heof, hfail, hrest, overwrite]
    · simp [InputStream.read, InputStream.good, heof, hfail, hrest, overwrite]
    · rw [hrest] at hshort
      simp only [List.length_cons] at hshort
      omega
  · rw [lengthByte, if_neg hshort]
    rcases hrest : s.rest with _ | ⟨b₀, _ | ⟨b₁, _ | ⟨b₂, _ | ⟨b₃, _ | ⟨b₄, tail⟩⟩⟩⟩⟩
    · simp [hrest] at hshort
    · simp [hrest] at hshort
    · simp [hrest] at hshort
    · simp [hrest] at hshort
    · simp [hrest] at hshort
    · simp [InputStream.read, InputStream.good, heof, hfail, hrest, overwrite]

/-- How much the third read stores. -/
theorem length_third_read (hgood : s.good = true) (length : ℕ) :
    (((s.read 4).2.read 1).2.read length).1.length = min length (s.rest.length - 5) := by
  obtain ⟨heof, hfail⟩ := InputStream.bits_of_good hgood
  rcases hrest : s.rest with _ | ⟨b₀, _ | ⟨b₁, _ | ⟨b₂, _ | ⟨b₃, _ | ⟨b₄, tail⟩⟩⟩⟩⟩ <;>
    simp [InputStream.read, InputStream.good, heof, hfail, hrest]

/-- A call decides on the length byte alone, and on how much is left behind it. -/
theorem processSrecBin_verdict (hgood : s.good = true) (contentData : ContentData) :
    (processSrecBin s contentData).map Prod.fst = verdict s.rest := by
  have hthird := length_third_read hgood (lengthByte s.rest).toNat
  unfold processSrecBin verdict
  simp only [(InputStream.bits_of_good hgood).1, Bool.false_eq_true, if_false, getD_pBuff hgood,
    beq_iff_eq, hthird]
  by_cases hzero : lengthByte s.rest = 0
  · rw [if_pos hzero, if_pos hzero]
    rfl
  · rw [if_neg hzero, if_neg hzero]
    by_cases hoverrun : pBuffSize < min (lengthByte s.rest).toNat (s.rest.length - 5)
    · rw [if_pos hoverrun, if_pos hoverrun]
      rfl
    · rw [if_neg hoverrun, if_neg hoverrun]
      by_cases hlarge : maxHidContentPayload < (lengthByte s.rest).toNat
      · rw [if_pos hlarge, ContentData.memcpyData, dif_neg (by omega)]
        rfl
      · rw [if_neg hlarge, ContentData.memcpyData, dif_pos (by omega)]
        rfl

end Verdict

/-! ## Sound calls -/

/-- A call does what the format says: {lit}`TRUE` means a complete record at the read
position that was delivered and consumed, {lit}`FALSE` means that nothing was left,
and bytes that are neither stop the tool without writing outside of {lit}`pBuff`. -/
def SrecBinCall.Sound (call : SrecBinCall) : Prop :=
  match call.result with
  | .ok (true, stream, contentData) =>
      ∃ record : Record, call.stream.rest = record.toBytes ++ stream.rest ∧
        contentData = call.contentData.load record
  | .ok (false, stream, _) => call.stream.rest = [] ∧ stream.rest = []
  | .error .invalidParameter =>
      call.stream.rest ≠ [] ∧ ∀ (record : Record) tail, call.stream.rest ≠ record.toBytes ++ tail
  | .error .stackOverrun => False

/-- What is left of the file has a length byte above the size of a content block,
but not more bytes than {lit}`pBuff` holds are stored for it. -/
structure Oversized (rest : List UInt8) : Prop where
  large : maxHidContentPayload < (lengthByte rest).toNat
  stored : min (lengthByte rest).toNat (rest.length - 5) ≤ pBuffSize

theorem verdict_eq_invalidParameter_iff {rest : List UInt8} :
    verdict rest = .error .invalidParameter ↔ Oversized rest := by
  unfold verdict
  constructor
  · intro h
    split at h
    · cases h
    · split at h
      · cases h
      · rename_i hstored
        split at h
        · rename_i hlarge
          exact ⟨hlarge, Nat.le_of_not_lt hstored⟩
        · cases h
  · rintro ⟨hlarge, hstored⟩
    have hzero : ¬ lengthByte rest = 0 := by
      intro hzero
      rw [hzero] at hlarge
      cases hlarge
    rw [if_neg hzero, if_neg (Nat.not_lt_of_le hstored), if_pos hlarge]

theorem verdict_eq_false_iff {rest : List UInt8} :
    verdict rest = .ok false ↔ lengthByte rest = 0 := by
  unfold verdict
  by_cases hzero : lengthByte rest = 0
  · simp [hzero]
  · rw [if_neg hzero]
    split
    · simp [hzero]
    · split
      · simp [hzero]
      · simp [hzero]

section Sound

variable {stream : InputStream} {tail : List UInt8}

/-- A call on a stream in order returns {lit}`FALSE` exactly on a zero length byte. -/
theorem processSrecBin_false_iff (hgood : stream.good = true) (contentData : ContentData) :
    (∃ stream' contentData', processSrecBin stream contentData =
        .ok (false, stream', contentData')) ↔ lengthByte stream.rest = 0 := by
  rw [← verdict_eq_false_iff, ← processSrecBin_verdict hgood contentData]
  rcases processSrecBin stream contentData with fault | ⟨delivered, stream', contentData'⟩
  · simp [Except.map]
  · simp [Except.map]

/-- A call on a stream in order stops the tool exactly on oversized bytes. -/
theorem processSrecBin_invalidParameter_iff (hgood : stream.good = true)
    (contentData : ContentData) :
    processSrecBin stream contentData = .error .invalidParameter ↔ Oversized stream.rest := by
  rw [← verdict_eq_invalidParameter_iff, ← processSrecBin_verdict hgood contentData]
  cases processSrecBin stream contentData with
  | ok result => simp [Except.map]
  | error fault => simp [Except.map]

/-- The call at a record is sound. -/
theorem sound_of_record (hgood : stream.good = true) {record : Record}
    (hrest : stream.rest = record.toBytes ++ tail) (contentData : ContentData) :
    (SrecBinCall.mk stream contentData).Sound := by
  rw [SrecBinCall.Sound, SrecBinCall.result, processSrecBin_record hgood contentData hrest]
  refine ⟨record, ?_, rfl⟩
  rw [Record.behind_rest hrest]
  exact hrest

/-- The call at the end of the file is sound. -/
theorem sound_of_end (hgood : stream.good = true) (hrest : stream.rest = [])
    (contentData : ContentData) : (SrecBinCall.mk stream contentData).Sound := by
  obtain ⟨stream', hend, -, hrest', -⟩ := processSrecBin_end hgood contentData hrest
  rw [SrecBinCall.Sound, SrecBinCall.result, hend]
  exact ⟨hrest, hrest'⟩

/-- The call on oversized bytes is sound. -/
theorem sound_of_oversized (hgood : stream.good = true) (hrest : Oversized stream.rest)
    (contentData : ContentData) : (SrecBinCall.mk stream contentData).Sound := by
  have hfault := (processSrecBin_invalidParameter_iff hgood contentData).mpr hrest
  rw [SrecBinCall.Sound, SrecBinCall.result, hfault]
  constructor
  · intro hempty
    obtain ⟨stream', hend, -⟩ := processSrecBin_end hgood contentData hempty
    rw [hend] at hfault
    cases hfault
  · intro record tail hrecord
    rw [processSrecBin_record hgood contentData hrecord] at hfault
    cases hfault

/-- On records that are followed by nothing or by oversized bytes all calls are
sound. -/
theorem sound_of_payload (htail : tail = [] ∨ Oversized tail) {records : List Record}
    (hgood : stream.good = true) (hrest : stream.rest = payload records ++ tail) (rounds : ℕ)
    (before : ℕ → ContentData) :
    ∀ call ∈ srecBinCalls rounds before stream, call.Sound := by
  induction rounds generalizing records stream before with
  | zero => simp [srecBinCalls]
  | succ rounds ih =>
      intro call hcall
      rw [srecBinCalls, List.mem_cons] at hcall
      cases records with
      | nil =>
          have hleft : stream.rest = tail := hrest
          rcases htail with hnothing | hoversized
          · have hend : stream.rest = [] := hleft.trans hnothing
            obtain ⟨stream', hresult, -⟩ := processSrecBin_end hgood (before 0) hend
            rw [hresult, List.mem_nil_iff, or_false] at hcall
            rw [hcall]
            exact sound_of_end hgood hend (before 0)
          · rw [← hleft] at hoversized
            rw [(processSrecBin_invalidParameter_iff hgood (before 0)).mpr hoversized,
              List.mem_nil_iff, or_false] at hcall
            rw [hcall]
            exact sound_of_oversized hgood hoversized (before 0)
      | cons record records =>
          have hsplit : stream.rest = record.toBytes ++ (payload records ++ tail) := by
            rw [hrest, payload, List.flatMap_cons, List.append_assoc]
            rfl
          have hbehind : (record.behind stream).good = true := hgood
          rw [processSrecBin_record hgood (before 0) hsplit] at hcall
          rcases hcall with rfl | hlater
          · exact sound_of_record hgood hsplit (before 0)
          · exact ih hbehind (Record.behind_rest hsplit) _ call hlater

/-- Where all calls of a pass are sound, the file consists of records, followed by
nothing or by oversized bytes. -/
theorem payload_of_sound {rounds : ℕ} (hrounds : remaining stream < rounds)
    (hgood : stream.good = true) (before : ℕ → ContentData)
    (hsound : ∀ call ∈ srecBinCalls rounds before stream, call.Sound) :
    ∃ records tail, stream.rest = payload records ++ tail ∧ (tail = [] ∨ Oversized tail) := by
  induction rounds generalizing stream before with
  | zero => omega
  | succ rounds ih =>
      have hfirst := hsound ⟨stream, before 0⟩ List.mem_cons_self
      rw [srecBinCalls] at hsound
      rw [SrecBinCall.Sound, SrecBinCall.result] at hfirst
      rcases hresult : processSrecBin stream (before 0) with fault | ⟨_ | _, stream', contentData'⟩
      · cases fault with
        | stackOverrun =>
            rw [hresult] at hfirst
            exact hfirst.elim
        | invalidParameter =>
            exact ⟨[], stream.rest, rfl,
              .inr ((processSrecBin_invalidParameter_iff hgood (before 0)).mp hresult)⟩
      · rw [hresult] at hfirst
        exact ⟨[], [], hfirst.1, .inl rfl⟩
      · rw [hresult] at hfirst hsound
        obtain ⟨record, hrecord, -⟩ := hfirst
        have hless := processSrecBin_remaining_lt hresult
        have hbehind := processSrecBin_record hgood (before 0) hrecord
        rw [hresult, Except.ok.injEq, Prod.mk.injEq, Prod.mk.injEq] at hbehind
        have hgood' : stream'.good = true := by
          rw [hbehind.2.1]
          exact hgood
        obtain ⟨records, tail, hrest, htail⟩ := ih (by omega) hgood' _
          fun call hcall => hsound call (List.mem_cons_of_mem _ hcall)
        refine ⟨record :: records, tail, ?_, htail⟩
        rw [hrecord, hrest, payload, payload, List.flatMap_cons, List.append_assoc]

end Sound

/-- Every call on a file is sound, whatever the content report held before it, if
and only if the file consists of records, followed by nothing or by bytes whose
length byte exceeds the content block without overrunning {lit}`pBuff`. -/
theorem payload_sound_iff (file : List UInt8) :
    (∀ rounds before, ∀ call ∈ srecBinCalls rounds before (.openFile file), call.Sound) ↔
      ∃ records tail, file = payload records ++ tail ∧ (tail = [] ∨ Oversized tail) := by
  constructor
  · intro hsound
    exact payload_of_sound (remaining_openFile_lt file) rfl (fun _ => ContentData.zero)
      (hsound (roundsFor file) _)
  · rintro ⟨records, tail, hfile, htail⟩ rounds before
    exact sound_of_payload htail rfl hfile rounds before

/-! ## A truncated file -/

/-- A record of four bytes of which only one is there. -/
def truncatedFile : List UInt8 := [0, 0, 0, 0, 4, 0xAA]

theorem truncatedFile_delivered :
    ¬ ∀ rounds before, ∀ call ∈ srecBinCalls rounds before (.openFile truncatedFile),
      call.Sound := by
  intro hsound
  have hfirst : (SrecBinCall.mk (.openFile truncatedFile) ContentData.zero).Sound :=
    hsound 1 (fun _ => ContentData.zero) _ List.mem_cons_self
  obtain ⟨record, hrecord, -⟩ := hfirst
  have hlength : record.length = 4 :=
    (congrArg (fun file => file.getD 4 0) hrecord).symm
  have hsize := congrArg List.length hrecord
  have hdata := record.toNat_length
  rw [hlength] at hdata
  rw [List.length_append, record.length_toBytes, ← hdata] at hsize
  change 6 = 9 + _ at hsize
  omega

end Tool
end CFU
