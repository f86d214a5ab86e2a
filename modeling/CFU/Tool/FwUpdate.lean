import CFU.Tool.SrecParser

/-!
# CFU tool - the transfer

{lit}`FwUpdateOfferSrec` offers an image to a device and, when the offer is
accepted, walks the payload file twice: once to count its records and once to
send a content report for each of them.  Every report waits for its response,
for as long as it takes; the number of waits is a parameter of the model.

Main results:

- Theorem {lit}`processSrecBin_remaining_lt`: every record that is read takes the
  stream closer to its end, so the loops over the file end.
- Theorem {lit}`sendPayload_finishes`: a device that answers lets both passes end.
- Theorem {lit}`sendBlocks_monotone`: what the calls of the device respect, the
  sending loop respects.
- Theorem {lit}`sendPayload_payload`: on a payload file the sending pass starts at
  the first record, with the number of the records.
-/

namespace CFU
namespace Tool

open Buffer

variable {D : Type}

/-! ## How a run ends -/

/-- The value that the tool returns, a fault in the middle of a function, or
neither within the number of waits that it was given. -/
inductive Outcome where
  | returned (ret : Bool)
  | faulted (fault : Fault)
  | unfinished
deriving DecidableEq, Repr

/-! ## Handles and report ids -/

/-- What the calls before the offer yield: whether the handles could be had, the
report ids that {lit}`PopulateReportId` finds, and the buffer that the read
thread allocates. -/
structure Setup where
  readEvent : Bool
  deviceRead : Bool
  contentId : Option UInt8
  contentResponseId : Option UInt8
  offerId : Option UInt8
  offerResponseId : Option UInt8
  deviceWrite : Bool
  readThread : Bool
  inputReportBuffer : List UInt8

/-- {lit}`PopulateReportId` for the four usages of an update. -/
def populateReportIds (protocolSettings : CfuHidDeviceConfiguration) (setup : Setup) :
    Option CfuHidDeviceConfiguration := do
  let contentId ← setup.contentId
  let contentResponseId ← setup.contentResponseId
  let offerId ← setup.offerId
  let offerResponseId ← setup.offerResponseId
  return {
    fwUpdateOfferResponse := { protocolSettings.fwUpdateOfferResponse with id := offerResponseId }
    fwUpdateContentResponse :=
      { protocolSettings.fwUpdateContentResponse with id := contentResponseId }
    fwUpdateOffer := { protocolSettings.fwUpdateOffer with id := offerId }
    fwUpdateContent := { protocolSettings.fwUpdateContent with id := contentId } }

/-! ## The offer -/

/-- The sixteen bytes that are read from the offer file. -/
def offerReadBuff (offerFile : List UInt8) : List UInt8 :=
  overwrite (List.replicate 16 0) (offerFile.take 16)

/-- {lit}`reportBuffer` when the offer is sent. -/
def offerReportBuffer (id forceReset forceIgnoreVersion : UInt8) (offerFile : List UInt8) :
    List UInt8 :=
  overwrite (List.replicate reportLengthStandard 0)
    (offerData id forceReset forceIgnoreVersion (offerReadBuff offerFile))

/-- The statuses with which the tool goes on. -/
def offerAccepted (status : UInt8) : Bool :=
  status == firmwareUpdateOfferAccept || status == firmwareUpdateOfferCommandReady

/-- Send the offer and wait once for the response: whether the tool goes on.  That
the offer could not be sent is only printed. -/
def sendOffer (device : HidDevice D) (report inputReportBuffer : List UInt8) (d : D) :
    Bool × List UInt8 × D :=
  let sent := device.setOutputReport report d
  match device.waitForReadEvent sent.2 with
  | (none, d) => (false, inputReportBuffer, d)
  | (some inputReport, d) =>
      let inputReportBuffer := overwrite inputReportBuffer inputReport
      (offerAccepted (offerResponseStatus inputReportBuffer), inputReportBuffer, d)

/-! ## The counting pass -/

/-- The first loop over {lit}`ProcessSrecBin`. -/
def countContentPackets :
    ℕ → InputStream → ContentData → UInt32 → Except Outcome (UInt32 × InputStream × ContentData)
  | 0, _, _, _ => .error .unfinished
  | blocks + 1, stream, contentdata, totalContentPacketCount =>
      match processSrecBin stream contentdata with
      | .error fault => .error (.faulted fault)
      | .ok (false, stream, contentdata) => .ok (totalContentPacketCount, stream, contentdata)
      | .ok (true, stream, contentdata) =>
          countContentPackets blocks stream contentdata (totalContentPacketCount + 1)

/-! ## The sending pass -/

/-- How the wait for the response to a block ends. -/
inductive Ack where
  | acknowledged
  | rejected
  | waiting
deriving DecidableEq, Repr

/-- The loop {lit}`while (waiting)`. -/
def awaitContentResponse (device : HidDevice D) (sequenceNumber : UInt16) :
    ℕ → List UInt8 → D → Ack × List UInt8 × D
  | 0, inputReportBuffer, d => (.waiting, inputReportBuffer, d)
  | waits + 1, inputReportBuffer, d =>
      match device.waitForReadEvent d with
      | (none, d) => awaitContentResponse device sequenceNumber waits inputReportBuffer d
      | (some inputReport, d) =>
          let inputReportBuffer := overwrite inputReportBuffer inputReport
          if contentResponseStatus inputReportBuffer != firmwareUpdateSuccess then
            (.rejected, inputReportBuffer, d)
          else if contentResponseSequenceNumber inputReportBuffer != sequenceNumber then
            awaitContentResponse device sequenceNumber waits inputReportBuffer d
          else
            (.acknowledged, inputReportBuffer, d)

/-- The variables that the sending loop changes. -/
structure Transfer where
  stream : InputStream
  contentdata : ContentData
  startAddress : UInt32
  contentPacketsSent : UInt32
  inputReportBuffer : List UInt8

/-- The flags of a block. -/
def blockFlags (totalContentPacketCount contentPacketsSent : UInt32) : UInt8 :=
  let flags := if contentPacketsSent == 0 then firmwareUpdateFlagFirstBlock else 0
  -- the assignment for the last block drops the flag of the first one
  if contentPacketsSent + 1 == totalContentPacketCount then firmwareUpdateFlagLastBlock
  else flags

section Flags

variable {totalContentPacketCount contentPacketsSent : UInt32}

/-- The flag of the last block is the only one that it has. -/
theorem blockFlags_last (h : contentPacketsSent + 1 = totalContentPacketCount) :
    blockFlags totalContentPacketCount contentPacketsSent =
      firmwareUpdateFlagLastBlock := by
  unfold blockFlags
  rw [h, if_pos (beq_self_eq_true _)]

theorem blockFlags_first (h : totalContentPacketCount ≠ 1) :
    blockFlags totalContentPacketCount 0 = firmwareUpdateFlagFirstBlock := by
  unfold blockFlags
  have hne : ¬ (0 + 1 == totalContentPacketCount) = true := by
    rw [beq_iff_eq, UInt32.zero_add]
    exact Ne.symm h
  rw [if_neg hne]
  rfl

theorem blockFlags_middle (hfirst : contentPacketsSent ≠ 0)
    (hlast : contentPacketsSent + 1 ≠ totalContentPacketCount) :
    blockFlags totalContentPacketCount contentPacketsSent = 0 := by
  unfold blockFlags
  have hfirst' : ¬ (contentPacketsSent == 0) = true := by
    rw [beq_iff_eq]
    exact hfirst
  have hlast' : ¬ (contentPacketsSent + 1 == totalContentPacketCount) = true := by
    rw [beq_iff_eq]
    exact hlast
  rw [if_neg hlast', if_neg hfirst']

end Flags

/-- The address of the first block, once there is one. -/
def blockStart (contentPacketsSent startAddress address : UInt32) : UInt32 :=
  if contentPacketsSent == 0 then address else startAddress

/-- The loop body up to the call that sends the block: {lit}`ProcessSrecBin` has
left {lit}`stream` and {lit}`contentdata`. -/
def Transfer.prepareBlock (t : Transfer) (report : HidReportIdInfo)
    (totalContentPacketCount : UInt32) (stream : InputStream) (contentdata : ContentData) :
    Transfer :=
  let startAddress := blockStart t.contentPacketsSent t.startAddress contentdata.address
  { t with
    stream := stream
    startAddress := startAddress
    contentdata :=
      { contentdata with
        id := report.id
        flags := blockFlags totalContentPacketCount t.contentPacketsSent
        address := contentdata.address - startAddress } }

@[simp]
theorem Transfer.prepareBlock_inputReportBuffer (t : Transfer) (report : HidReportIdInfo)
    (totalContentPacketCount : UInt32) (stream : InputStream) (contentdata : ContentData) :
    (t.prepareBlock report totalContentPacketCount stream contentdata).inputReportBuffer =
      t.inputReportBuffer :=
  rfl

@[simp]
theorem Transfer.prepareBlock_flags (t : Transfer) (report : HidReportIdInfo)
    (totalContentPacketCount : UInt32) (stream : InputStream) (contentdata : ContentData) :
    (t.prepareBlock report totalContentPacketCount stream contentdata).contentdata.flags =
      blockFlags totalContentPacketCount t.contentPacketsSent :=
  rfl

@[simp]
theorem Transfer.prepareBlock_sequenceNumber (t : Transfer) (report : HidReportIdInfo)
    (totalContentPacketCount : UInt32) (stream : InputStream) (contentdata : ContentData) :
    (t.prepareBlock report totalContentPacketCount stream
      contentdata).contentdata.sequenceNumber = contentdata.sequenceNumber :=
  rfl

/-- The end of the loop body. -/
def Transfer.advance (t : Transfer) (inputReportBuffer : List UInt8) : Transfer :=
  { t with
    contentdata := { t.contentdata with sequenceNumber := t.contentdata.sequenceNumber + 1 }
    contentPacketsSent := t.contentPacketsSent + 1
    inputReportBuffer := inputReportBuffer }

/-- The test after the loop.  {lit}`contentPacketsSent * 100.0 / totalContentPacketCount`
is below 100.0 exactly when fewer packets were sent; without any packets it is not
a number, or infinite, and not below anything. -/
def transferCompleted (totalContentPacketCount contentPacketsSent : UInt32) : Bool :=
  !(totalContentPacketCount != 0 && decide (contentPacketsSent < totalContentPacketCount))

/-- The bytes that a content report passes to {lit}`SetOutputReport`. -/
def Transfer.outputReport (t : Transfer) (report : HidReportIdInfo) : List UInt8 :=
  t.contentdata.toBytes.take (report.size.toNat + 1)

/-- The second loop over {lit}`ProcessSrecBin`, and what follows it. -/
def sendBlocks (device : HidDevice D) (report : HidReportIdInfo) (waits : ℕ)
    (totalContentPacketCount : UInt32) : ℕ → Transfer → D → Outcome × D
  | 0, _, d => (.unfinished, d)
  | blocks + 1, t, d =>
      match processSrecBin t.stream t.contentdata with
      | .error fault => (.faulted fault, d)
      | .ok (false, _, _) =>
          (.returned (transferCompleted totalContentPacketCount t.contentPacketsSent), d)
      | .ok (true, stream, contentdata) =>
          let t := t.prepareBlock report totalContentPacketCount stream contentdata
          match device.setOutputReport (t.outputReport report) d with
          | (false, d) => (.returned false, d)
          | (true, d) =>
              match awaitContentResponse device t.contentdata.sequenceNumber waits
                t.inputReportBuffer d with
              | (.waiting, _, d) => (.unfinished, d)
              | (.rejected, _, d) => (.returned false, d)
              | (.acknowledged, inputReportBuffer, d) =>
                  sendBlocks device report waits totalContentPacketCount blocks
                    (t.advance inputReportBuffer) d

/-! ## The tool -/

/-- The number of rounds that suffices for a loop over a file. -/
def roundsFor (file : List UInt8) : ℕ :=
  file.length + 2

/-- The two passes over the payload file. -/
def sendPayload (device : HidDevice D) (report : HidReportIdInfo) (waits : ℕ)
    (srecBinFile inputReportBuffer : List UInt8) (d : D) : Outcome × D :=
  let contentdata := { ContentData.zero with flags := firmwareUpdateFlagFirstBlock }
  match countContentPackets (roundsFor srecBinFile) (.openFile srecBinFile) contentdata 0 with
  | .error outcome => (outcome, d)
  | .ok (totalContentPacketCount, stream, contentdata) =>
      sendBlocks device report waits totalContentPacketCount (roundsFor srecBinFile)
        { stream := stream.clear.seekBeginning
          contentdata := contentdata
          startAddress := 0
          contentPacketsSent := 0
          inputReportBuffer := inputReportBuffer } d

/-- The offer and, when it is accepted, the payload. -/
def offerAndSend (device : HidDevice D) (protocolSettings : CfuHidDeviceConfiguration)
    (waits : ℕ) (offerFile srecBinFile : List UInt8) (forceIgnoreVersion forceReset : UInt8)
    (inputReportBuffer : List UInt8) (d : D) : Outcome × D :=
  let report := protocolSettings.fwUpdateOffer
  let reportBuffer := offerReportBuffer report.id forceReset forceIgnoreVersion offerFile
  match sendOffer device (reportBuffer.take (report.size.toNat + 1)) inputReportBuffer d with
  | (false, _, d) => (.returned false, d)
  | (true, inputReportBuffer, d) =>
      sendPayload device protocolSettings.fwUpdateContent waits srecBinFile inputReportBuffer d

/-- {lit}`FwUpdateOfferSrec`.  A file is {lean}`none` when it cannot be opened. -/
def fwUpdateOfferSrec (device : HidDevice D) (setup : Setup) (waits : ℕ)
    (protocolSettings : CfuHidDeviceConfiguration) (offerPath srecBinPath : Option (List UInt8))
    (forceIgnoreVersion forceReset : UInt8) (d : D) : Outcome × D :=
  if !setup.readEvent || !setup.deviceRead then
    (.returned false, d)
  else
    match populateReportIds protocolSettings setup with
    | none => (.returned false, d)
    | some protocolSettings =>
        if !setup.deviceWrite || !setup.readThread then
          (.returned false, d)
        else
          match offerPath, srecBinPath with
          | some offerFile, some srecBinFile =>
              offerAndSend device protocolSettings waits offerFile srecBinFile
                forceIgnoreVersion forceReset setup.inputReportBuffer d
          | _, _ => (.returned false, d)

/-! ## The loops over the file end -/

/-- A bound on the records that can still be read. -/
def remaining (s : InputStream) : ℕ :=
  s.rest.length + (if s.eofbit then 0 else 1)

/-- A read never moves the stream away from its end. -/
theorem rest_length_read_le (s : InputStream) (k : ℕ) :
    (s.read k).2.rest.length ≤ s.rest.length := by
  unfold InputStream.read
  split
  · rw [List.length_drop]
    omega
  · exact Nat.le_refl _

/-- Once the end was seen it stays seen. -/
theorem eofbit_read {s : InputStream} (h : s.eofbit = true) (k : ℕ) :
    (s.read k).2.eofbit = true := by
  have hbad : s.good = false := by
    rw [InputStream.good, h]
    rfl
  rw [InputStream.read_of_not_good hbad]
  exact h

/-- The reads of an address and of a length byte take the stream closer to its
end, unless neither of them stores anything. -/
theorem remaining_read_lt {s : InputStream} (heof : s.eofbit = false) (hfail : s.failbit = false)
    (k₂ k₃ : ℕ) : remaining (((s.read 4).2.read k₂).2.read k₃).2 < remaining s := by
  have hgood : s.good = true := by
    rw [InputStream.good, heof, hfail]
    rfl
  have h₂ := rest_length_read_le (s.read 4).2 k₂
  have h₃ := rest_length_read_le ((s.read 4).2.read k₂).2 k₃
  by_cases hshort : s.rest.length < 4
  · obtain ⟨-, hrest, -, hend, -⟩ := InputStream.read_short hgood hshort
    have hends := eofbit_read (eofbit_read hend k₂) k₃
    rw [hrest, List.length_nil] at h₂
    rw [remaining, remaining, hends, heof, if_pos rfl, if_neg Bool.false_ne_true]
    omega
  · have hrest : (s.read 4).2.rest.length + 4 = s.rest.length := by
      rw [InputStream.read, if_pos hgood, List.length_drop]
      omega
    have hbit : (if (((s.read 4).2.read k₂).2.read k₃).2.eofbit then 0 else 1) ≤ 1 := by
      split <;> decide
    rw [remaining, remaining, heof, if_neg Bool.false_ne_true]
    omega

/-- A record is delivered after three reads of a stream in order. -/
theorem processSrecBin_true {s s' : InputStream} {contentData contentData' : ContentData}
    (h : processSrecBin s contentData = .ok (true, s', contentData')) :
    s.eofbit = false ∧ s.failbit = false ∧
      ∃ k, s' = (((s.read 4).2.read 1).2.read k).2 := by
  unfold processSrecBin at h
  cases heof : s.eofbit with
  | true =>
      rw [heof] at h
      simp at h
  | false =>
      simp only [heof, Bool.false_eq_true, if_false] at h
      split at h
      · simp at h
      · rename_i hlength
        refine ⟨rfl, ?_, ?_⟩
        · -- a failed stream leaves the zeros of the buffer, so the length byte is zero
          by_contra hfail
          have hbad : s.good = false := by
            rw [InputStream.good, Bool.not_eq_false] at *
            simp [hfail]
          have hread₁ := InputStream.read_of_not_good hbad 4
          have hbad₁ : (s.read 4).2.good = false := by
            rw [hread₁, InputStream.good]
            simp
          have hread₂ := InputStream.read_of_not_good hbad₁ 1
          apply hlength
          rw [hread₂, hread₁]
          rfl
        · split at h
          · cases h
          · split at h
            · cases h
              exact ⟨_, rfl⟩
            · cases h

/-- The parser stays in its file. -/
theorem processSrecBin_file (stream : InputStream) (contentdata : ContentData) :
    ∀ delivered stream' contentdata',
      processSrecBin stream contentdata = .ok (delivered, stream', contentdata') →
        stream'.file = stream.file := by
  intro delivered stream' contentdata' h
  unfold processSrecBin at h
  split at h
  · cases h
    rfl
  · dsimp only at h
    split at h
    · cases h
      simp
    · split at h
      · cases h
      · split at h
        · cases h
          simp
        · cases h

theorem ContentData.memcpyData_sequenceNumber {contentData contentData' : ContentData}
    {pBuff : List UInt8} {count : ℕ} (h : contentData.memcpyData pBuff count = .ok contentData') :
    contentData'.sequenceNumber = contentData.sequenceNumber := by
  unfold ContentData.memcpyData at h
  split at h
  · cases h
    rfl
  · cases h

/-- The parser leaves the sequence number alone. -/
theorem processSrecBin_sequenceNumber {stream stream' : InputStream}
    {contentdata contentdata' : ContentData} {delivered : Bool}
    (h : processSrecBin stream contentdata = .ok (delivered, stream', contentdata')) :
    contentdata'.sequenceNumber = contentdata.sequenceNumber := by
  unfold processSrecBin at h
  split at h
  · cases h
    rfl
  · dsimp only at h
    split at h
    · cases h
      rfl
    · split at h
      · cases h
      · split at h
        · rename_i hmemcpy
          cases h
          have hkept := ContentData.memcpyData_sequenceNumber hmemcpy
          exact hkept
        · cases h

/-- Every record that is read takes the stream closer to its end. -/
theorem processSrecBin_remaining_lt {s s' : InputStream} {contentData contentData' : ContentData}
    (h : processSrecBin s contentData = .ok (true, s', contentData')) :
    remaining s' < remaining s := by
  obtain ⟨heof, hfail, k, rfl⟩ := processSrecBin_true h
  exact remaining_read_lt heof hfail 1 k

/-- The counting pass comes to the end of any file. -/
theorem countContentPackets_finishes {blocks : ℕ} {stream : InputStream}
    (hblocks : remaining stream < blocks) (contentdata : ContentData)
    (totalContentPacketCount : UInt32) :
    countContentPackets blocks stream contentdata totalContentPacketCount ≠
      .error .unfinished := by
  induction blocks generalizing stream contentdata totalContentPacketCount with
  | zero => omega
  | succ blocks ih =>
      unfold countContentPackets
      split
      · simp
      · simp
      · rename_i hrecord
        have hless := processSrecBin_remaining_lt hrecord
        exact ih (by omega) _ _

/-- The counting pass reads the file that it was given. -/
theorem countContentPackets_file (blocks : ℕ) (stream : InputStream) (contentdata : ContentData)
    (totalContentPacketCount : UInt32) :
    ∀ total stream' contentdata',
      countContentPackets blocks stream contentdata totalContentPacketCount =
        .ok (total, stream', contentdata') → stream'.file = stream.file := by
  induction blocks generalizing stream contentdata totalContentPacketCount with
  | zero =>
      intro total stream' contentdata' h
      cases h
  | succ blocks ih =>
      intro total stream' contentdata' h
      have hfile := processSrecBin_file stream contentdata
      unfold countContentPackets at h
      rcases hrecord : processSrecBin stream contentdata with fault | ⟨_ | _, stream₁, contentdata₁⟩
      · rw [hrecord] at h
        cases h
      · rw [hrecord] at h
        cases h
        exact hfile _ _ _ hrecord
      · rw [hrecord] at h
        exact (ih _ _ _ _ _ _ h).trans (hfile _ _ _ hrecord)

/-- The counting pass leaves the sequence number alone. -/
theorem countContentPackets_sequenceNumber {blocks : ℕ} {stream stream' : InputStream}
    {contentdata contentdata' : ContentData} {count total : UInt32}
    (h : countContentPackets blocks stream contentdata count =
      .ok (total, stream', contentdata')) :
    contentdata'.sequenceNumber = contentdata.sequenceNumber := by
  induction blocks generalizing stream contentdata count with
  | zero => cases h
  | succ blocks ih =>
      rw [countContentPackets] at h
      rcases hrecord : processSrecBin stream contentdata with fault | ⟨_ | _, stream₁, contentdata₁⟩
      · rw [hrecord] at h
        cases h
      · rw [hrecord] at h
        cases h
        exact processSrecBin_sequenceNumber hrecord
      · rw [hrecord] at h
        exact (ih h).trans (processSrecBin_sequenceNumber hrecord)

/-- The rounds that a file is given suffice. -/
theorem remaining_openFile_lt (file : List UInt8) :
    remaining (.openFile file) < roundsFor file := by
  unfold remaining roundsFor InputStream.openFile
  simp

/-- A device that answers every wait lets the sending pass come to its end. -/
theorem sendBlocks_finishes {device : HidDevice D} {waits : ℕ}
    (hanswers : ∀ sequenceNumber inputReportBuffer d,
      (awaitContentResponse device sequenceNumber waits inputReportBuffer d).1 ≠ .waiting)
    (report : HidReportIdInfo) (totalContentPacketCount : UInt32) {blocks : ℕ} {t : Transfer}
    (hblocks : remaining t.stream < blocks) (d : D) :
    (sendBlocks device report waits totalContentPacketCount blocks t d).1 ≠ .unfinished := by
  induction blocks generalizing t d with
  | zero => omega
  | succ blocks ih =>
      unfold sendBlocks
      rcases hrecord : processSrecBin t.stream t.contentdata with fault |
        ⟨_ | _, stream, contentdata⟩
      · simp
      · simp
      · have hless := processSrecBin_remaining_lt hrecord
        dsimp only
        split
        · simp
        · split
          · rename_i hwaiting
            exact absurd (congrArg Prod.fst hwaiting) (hanswers _ _ _)
          · simp
          · apply ih
            show remaining stream < blocks
            omega

/-- With such a device the tool comes to an end on any payload file. -/
theorem sendPayload_finishes {device : HidDevice D} {waits : ℕ}
    (hanswers : ∀ sequenceNumber inputReportBuffer d,
      (awaitContentResponse device sequenceNumber waits inputReportBuffer d).1 ≠ .waiting)
    (report : HidReportIdInfo) (srecBinFile inputReportBuffer : List UInt8) (d : D) :
    (sendPayload device report waits srecBinFile inputReportBuffer d).1 ≠ .unfinished := by
  unfold sendPayload
  dsimp only
  have hcount := countContentPackets_finishes (remaining_openFile_lt srecBinFile)
    { ContentData.zero with flags := firmwareUpdateFlagFirstBlock } 0
  have hfile := countContentPackets_file (roundsFor srecBinFile) (.openFile srecBinFile)
    { ContentData.zero with flags := firmwareUpdateFlagFirstBlock } 0
  split
  · rename_i outcome herror
    intro hunfinished
    rw [herror] at hcount
    exact hcount (congrArg Except.error hunfinished)
  · rename_i total stream contentdata hok
    apply sendBlocks_finishes hanswers
    have hsame : stream.file = srecBinFile := hfile _ _ _ hok
    show remaining stream.clear.seekBeginning < roundsFor srecBinFile
    rw [InputStream.seekBeginning_clear, hsame]
    exact remaining_openFile_lt srecBinFile

/-! ## What the device observes -/

/-- A preorder on the states of a device that its calls respect. -/
structure HidDevice.Respects (device : HidDevice D) (R : D → D → Prop) : Prop where
  refl (d : D) : R d d
  trans {d₁ d₂ d₃ : D} : R d₁ d₂ → R d₂ d₃ → R d₁ d₃
  setOutputReport (report : List UInt8) (d : D) : R d (device.setOutputReport report d).2
  waitForReadEvent (d : D) : R d (device.waitForReadEvent d).2

section Respects

variable {device : HidDevice D} {R : D → D → Prop}

theorem awaitContentResponse_monotone (hR : device.Respects R) (sequenceNumber : UInt16)
    (waits : ℕ) (inputReportBuffer : List UInt8) (d : D) :
    R d (awaitContentResponse device sequenceNumber waits inputReportBuffer d).2.2 := by
  induction waits generalizing inputReportBuffer d with
  | zero => exact hR.refl d
  | succ waits ih =>
      have hwait := hR.waitForReadEvent d
      unfold awaitContentResponse
      generalize device.waitForReadEvent d = result at hwait
      rcases result with ⟨_ | inputReport, d'⟩
      · exact hR.trans hwait (ih _ _)
      · dsimp only
        split
        · exact hwait
        · split
          · exact hR.trans hwait (ih _ _)
          · exact hwait

/-- What the calls of the device respect, the sending loop respects. -/
theorem sendBlocks_monotone (hR : device.Respects R) (report : HidReportIdInfo) (waits : ℕ)
    (totalContentPacketCount : UInt32) (blocks : ℕ) (t : Transfer) (d : D) :
    R d (sendBlocks device report waits totalContentPacketCount blocks t d).2 := by
  induction blocks generalizing t d with
  | zero => exact hR.refl d
  | succ blocks ih =>
      unfold sendBlocks
      rcases hrecord : processSrecBin t.stream t.contentdata with fault |
        ⟨_ | _, stream, contentdata⟩
      · exact hR.refl d
      · exact hR.refl d
      · dsimp only
        generalize t.prepareBlock report totalContentPacketCount stream contentdata = t'
        have hset := hR.setOutputReport (t'.outputReport report) d
        generalize device.setOutputReport (t'.outputReport report) d = sent at hset
        rcases sent with ⟨_ | _, d₁⟩
        · exact hset
        · dsimp only
          have hawait := awaitContentResponse_monotone hR t'.contentdata.sequenceNumber waits
            t'.inputReportBuffer d₁
          generalize awaitContentResponse device t'.contentdata.sequenceNumber waits
            t'.inputReportBuffer d₁ = answer at hawait
          rcases answer with ⟨_ | _ | _, inputReportBuffer, d₂⟩
          · exact hR.trans (hR.trans hset hawait) (ih _ _)
          · exact hR.trans hset hawait
          · exact hR.trans hset hawait

end Respects

/-! ## Payload files of records -/

/-- A payload file has more bytes than records. -/
theorem length_le_payload (records : List Record) : records.length ≤ (payload records).length := by
  induction records with
  | nil => exact Nat.le_refl 0
  | cons record records ih =>
      have hbytes := record.length_toBytes
      rw [payload, List.flatMap_cons, List.length_append, List.length_cons]
      rw [payload] at ih
      omega

/-- Counting the first record and then the others counts them all. -/
theorem add_length_cons (count : UInt32) (record : Record) (records : List Record) :
    count + UInt32.ofNat (record :: records).length =
      count + 1 + UInt32.ofNat records.length := by
  rw [List.length_cons, UInt32.ofNat_add, UInt32.add_assoc, UInt32.add_comm 1]
  rfl

/-- The counting pass counts the records, and leaves the sequence number alone. -/
theorem countContentPackets_payload {records : List Record} {blocks : ℕ} {stream : InputStream}
    (hgood : stream.good = true) (hrest : stream.rest = payload records)
    (hblocks : records.length < blocks) (contentdata : ContentData)
    (totalContentPacketCount : UInt32) :
    ∃ stream' contentdata',
      countContentPackets blocks stream contentdata totalContentPacketCount =
        .ok (totalContentPacketCount + UInt32.ofNat records.length, stream', contentdata') ∧
      stream'.file = stream.file ∧
      contentdata'.sequenceNumber = contentdata.sequenceNumber := by
  induction records generalizing blocks stream contentdata totalContentPacketCount with
  | nil =>
      obtain ⟨blocks, rfl⟩ := Nat.exists_eq_add_one_of_ne_zero (Nat.ne_zero_of_lt hblocks)
      obtain ⟨stream', hend, -, -, hfile⟩ := processSrecBin_end hgood contentdata hrest
      refine ⟨stream', { contentdata with length := 0, address := 0 }, ?_, hfile, rfl⟩
      have hzero : totalContentPacketCount + UInt32.ofNat 0 = totalContentPacketCount :=
        UInt32.add_zero _
      rw [countContentPackets, hend, List.length_nil, hzero]
  | cons record records ih =>
      obtain ⟨blocks, rfl⟩ := Nat.exists_eq_add_one_of_ne_zero (Nat.ne_zero_of_lt hblocks)
      have hsplit : stream.rest = record.toBytes ++ payload records := hrest
      have hrecord := processSrecBin_record hgood contentdata hsplit
      have hgood' : (record.behind stream).good = true := hgood
      have hless : records.length < blocks := by
        rw [List.length_cons] at hblocks
        omega
      obtain ⟨stream', contentdata', hcount, hfile, hsequence⟩ :=
        ih hgood' (Record.behind_rest hsplit) hless (contentdata.load record)
          (totalContentPacketCount + 1)
      refine ⟨stream', contentdata', ?_, hfile, hsequence⟩
      rw [countContentPackets, hrecord, add_length_cons]
      exact hcount

/-- The state in which the sending pass starts on a payload file. -/
structure StartsOn (t : Transfer) (records : List Record) (inputReportBuffer : List UInt8) :
    Prop where
  stream : t.stream = .openFile (payload records)
  sequenceNumber : t.contentdata.sequenceNumber = 0
  startAddress : t.startAddress = 0
  contentPacketsSent : t.contentPacketsSent = 0
  inputReportBuffer : t.inputReportBuffer = inputReportBuffer

theorem StartsOn.good {t : Transfer} {records : List Record} {inputReportBuffer : List UInt8}
    (h : StartsOn t records inputReportBuffer) : t.stream.good = true := by
  rw [h.stream, InputStream.openFile_good]

theorem StartsOn.rest {t : Transfer} {records : List Record} {inputReportBuffer : List UInt8}
    (h : StartsOn t records inputReportBuffer) : t.stream.rest = payload records := by
  rw [h.stream, InputStream.openFile_rest]

/-- The rounds that a payload file is given suffice for its records. -/
theorem length_lt_roundsFor (records : List Record) :
    records.length < roundsFor (payload records) := by
  have hle := length_le_payload records
  unfold roundsFor
  omega

/-- The counting pass over a payload file counts its records, and behind the rewind the
sending pass starts on them. -/
theorem countContentPackets_startsOn (records : List Record) (inputReportBuffer : List UInt8) :
    ∃ stream contentdata,
      countContentPackets (roundsFor (payload records)) (.openFile (payload records))
          { ContentData.zero with flags := firmwareUpdateFlagFirstBlock } 0 =
        .ok (UInt32.ofNat records.length, stream, contentdata) ∧
      StartsOn ⟨stream.clear.seekBeginning, contentdata, 0, 0, inputReportBuffer⟩ records
        inputReportBuffer := by
  obtain ⟨stream, contentdata, hcount, hfile, hsequence⟩ :=
    countContentPackets_payload (InputStream.openFile_good _) (InputStream.openFile_rest _)
      (length_lt_roundsFor records)
      { ContentData.zero with flags := firmwareUpdateFlagFirstBlock } 0
  rw [UInt32.zero_add] at hcount
  refine ⟨stream, contentdata, hcount, ?_, hsequence, rfl, rfl, rfl⟩
  show stream.clear.seekBeginning = _
  rw [InputStream.seekBeginning_clear, hfile]
  rfl

/-- On a payload file the sending pass starts with the number of its records. -/
theorem sendPayload_payload (device : HidDevice D) (report : HidReportIdInfo) (waits : ℕ)
    (records : List Record) (inputReportBuffer : List UInt8) (d : D) :
    ∃ t, StartsOn t records inputReportBuffer ∧
      sendPayload device report waits (payload records) inputReportBuffer d =
        sendBlocks device report waits (UInt32.ofNat records.length)
          (roundsFor (payload records)) t d := by
  obtain ⟨stream, contentdata, hcount, hstarts⟩ :=
    countContentPackets_startsOn records inputReportBuffer
  refine ⟨_, hstarts, ?_⟩
  rw [sendPayload]
  dsimp only
  rw [hcount]

/-- The variables when the block of a record is sent. -/
def Transfer.onRecord (t : Transfer) (report : HidReportIdInfo) (totalContentPacketCount : UInt32)
    (record : Record) : Transfer :=
  t.prepareBlock report totalContentPacketCount (record.behind t.stream)
    (t.contentdata.load record)

/-- On a record the sending loop prepares a block, sends it and waits. -/
theorem sendBlocks_record (device : HidDevice D) {t : Transfer} (hgood : t.stream.good = true)
    {record : Record} {tail : List UInt8} (hrest : t.stream.rest = record.toBytes ++ tail)
    (report : HidReportIdInfo) (waits : ℕ) (totalContentPacketCount : UInt32) (blocks : ℕ) (d : D) :
    sendBlocks device report waits totalContentPacketCount (blocks + 1) t d =
      let t' := t.onRecord report totalContentPacketCount record
      match device.setOutputReport (t'.outputReport report) d with
      | (false, d) => (.returned false, d)
      | (true, d) =>
          match awaitContentResponse device t'.contentdata.sequenceNumber waits
            t'.inputReportBuffer d with
          | (.waiting, _, d) => (.unfinished, d)
          | (.rejected, _, d) => (.returned false, d)
          | (.acknowledged, inputReportBuffer, d) =>
              sendBlocks device report waits totalContentPacketCount blocks
                (t'.advance inputReportBuffer) d := by
  rw [sendBlocks, processSrecBin_record hgood t.contentdata hrest]
  rfl

/-- At the end of the file the sending loop ends. -/
theorem sendBlocks_end (device : HidDevice D) {t : Transfer} (hgood : t.stream.good = true)
    (hrest : t.stream.rest = []) (report : HidReportIdInfo) (waits : ℕ)
    (totalContentPacketCount : UInt32) (blocks : ℕ) (d : D) :
    sendBlocks device report waits totalContentPacketCount (blocks + 1) t d =
      (.returned (transferCompleted totalContentPacketCount t.contentPacketsSent), d) := by
  obtain ⟨stream, hend, -⟩ := processSrecBin_end hgood t.contentdata hrest
  rw [sendBlocks, hend]

end Tool
end CFU
