import CFU.Tool.PayloadCalls

/-!
# CFU tool - what passes between the tool and the device

A device whose calls are logged behaves like the device without the log, so a run
of the tool may be read off its log: which reports were sent, which waits timed
out, and which input reports were seen in between.

Main results:

- Theorem {lit}`fwUpdateOfferSrec_logged`: logging does not change a run.
- Theorem {lit}`sendBlocks_log`: a transfer that succeeds consists of rounds, each of
  which sends one block and waits until it is acknowledged.
-/

namespace CFU
namespace Tool

open Buffer

variable {D E : Type}

/-! ## Logs -/

/-- What the tool or the device does: a report is sent, and taken or not; a wait
times out; an input report is seen. -/
inductive Exchange where
  | sent (report : List UInt8) (taken : Bool)
  | timedOut
  | received (inputReport : List UInt8)
deriving DecidableEq, Repr

def Exchange.isSent : Exchange → Bool
  | .sent .. => true
  | _ => false

/-- What {lit}`InputReportBuffer` holds after some exchanges. -/
def bufferAfter (inputReportBuffer : List UInt8) (exchanges : List Exchange) : List UInt8 :=
  exchanges.foldl
    (fun inputReportBuffer e =>
      match e with
      | .received inputReport => overwrite inputReportBuffer inputReport
      | _ => inputReportBuffer)
    inputReportBuffer

/-- A device together with the exchanges so far. -/
structure Logged (D : Type) where
  device : D
  log : List Exchange

/-- Log the calls of a device. -/
def HidDevice.logged (device : HidDevice D) : HidDevice (Logged D) where
  setOutputReport report d :=
    ((device.setOutputReport report d.device).1,
      ⟨(device.setOutputReport report d.device).2,
        d.log ++ [.sent report (device.setOutputReport report d.device).1]⟩)
  waitForReadEvent d :=
    ((device.waitForReadEvent d.device).1,
      ⟨(device.waitForReadEvent d.device).2,
        d.log ++
          [match (device.waitForReadEvent d.device).1 with
            | none => .timedOut
            | some inputReport => .received inputReport]⟩)

/-! ## One wait for a content response -/

/-- What the tool makes of the buffer while a block is pending; {lean}`none` means
that it keeps waiting. -/
def answerOf (sequenceNumber : UInt16) (inputReportBuffer : List UInt8) : Option Ack :=
  if contentResponseStatus inputReportBuffer != firmwareUpdateSuccess then some .rejected
  else if contentResponseSequenceNumber inputReportBuffer != sequenceNumber then none
  else some .acknowledged

theorem answerOf_failure {inputReportBuffer : List UInt8}
    (hstatus : contentResponseStatus inputReportBuffer ≠ firmwareUpdateSuccess)
    (sequenceNumber : UInt16) : answerOf sequenceNumber inputReportBuffer = some .rejected := by
  rw [answerOf, if_pos (bne_iff_ne.mpr hstatus)]

theorem answerOf_success {inputReportBuffer : List UInt8}
    (hstatus : contentResponseStatus inputReportBuffer = firmwareUpdateSuccess)
    (sequenceNumber : UInt16) :
    answerOf sequenceNumber inputReportBuffer =
      if contentResponseSequenceNumber inputReportBuffer = sequenceNumber then some .acknowledged
      else none := by
  by_cases hsequence : contentResponseSequenceNumber inputReportBuffer = sequenceNumber
  · simp [answerOf, hstatus, hsequence]
  · simp [answerOf, hstatus, hsequence]

theorem answerOf_eq_acknowledged_iff {sequenceNumber : UInt16} {inputReportBuffer : List UInt8} :
    answerOf sequenceNumber inputReportBuffer = some .acknowledged ↔
      contentResponseStatus inputReportBuffer = firmwareUpdateSuccess ∧
        contentResponseSequenceNumber inputReportBuffer = sequenceNumber := by
  by_cases hstatus : contentResponseStatus inputReportBuffer = firmwareUpdateSuccess
  · simp [answerOf_success hstatus, hstatus]
  · simp [answerOf_failure hstatus, hstatus]

theorem answerOf_eq_none_iff {sequenceNumber : UInt16} {inputReportBuffer : List UInt8} :
    answerOf sequenceNumber inputReportBuffer = none ↔
      contentResponseStatus inputReportBuffer = firmwareUpdateSuccess ∧
        contentResponseSequenceNumber inputReportBuffer ≠ sequenceNumber := by
  by_cases hstatus : contentResponseStatus inputReportBuffer = firmwareUpdateSuccess
  · simp [answerOf_success hstatus, hstatus]
  · simp [answerOf_failure hstatus, hstatus]

/-! ## Responses -/

theorem contentResponseStatus_take (buffer : List UInt8) :
    contentResponseStatus (buffer.take 6) = contentResponseStatus buffer := by
  simp [contentResponseStatus, List.getD_eq_getElem?_getD]

theorem contentResponseSequenceNumber_take (buffer : List UInt8) :
    contentResponseSequenceNumber (buffer.take 6) = contentResponseSequenceNumber buffer := by
  rw [contentResponseSequenceNumber, contentResponseSequenceNumber, List.drop_take, List.take_take]
  rfl

/-- The tool only reads the first six bytes while a block is pending. -/
theorem answerOf_congr {buffer buffer' : List UInt8} (h : buffer'.take 6 = buffer.take 6)
    (sequenceNumber : UInt16) :
    answerOf sequenceNumber buffer' = answerOf sequenceNumber buffer := by
  rw [answerOf, answerOf, ← contentResponseStatus_take buffer',
    ← contentResponseSequenceNumber_take buffer', h, contentResponseStatus_take,
    contentResponseSequenceNumber_take]

/-- What the tool makes of a response of full size is read off the response. -/
theorem answerOf_overwrite {inputReport : List UInt8} (h : 6 ≤ inputReport.length)
    (sequenceNumber : UInt16) (buffer : List UInt8) :
    answerOf sequenceNumber (overwrite buffer inputReport) =
      answerOf sequenceNumber inputReport :=
  answerOf_congr (take_overwrite_of_le h) sequenceNumber

/-- An input report that reports success for a sequence number. -/
structure IsResponse (sequenceNumber : UInt16) (inputReport : List UInt8) : Prop where
  size : 6 ≤ inputReport.length
  status : contentResponseStatus inputReport = firmwareUpdateSuccess
  sequenceNumber : contentResponseSequenceNumber inputReport = sequenceNumber

/-- A response of full size that is read as an acknowledgement reports success itself. -/
theorem isResponse_of_acknowledged {sequenceNumber : UInt16}
    {inputReportBuffer inputReport : List UInt8} (hsize : 6 ≤ inputReport.length)
    (h : answerOf sequenceNumber (overwrite inputReportBuffer inputReport) =
      some .acknowledged) : IsResponse sequenceNumber inputReport := by
  rw [answerOf_overwrite hsize, answerOf_eq_acknowledged_iff] at h
  exact ⟨hsize, h.1, h.2⟩

theorem answerOf_response {sequenceNumber : UInt16} {inputReport : List UInt8}
    (h : IsResponse sequenceNumber inputReport) (inputReportBuffer : List UInt8) :
    answerOf sequenceNumber (overwrite inputReportBuffer inputReport) = some .acknowledged := by
  rw [answerOf_overwrite h.size, answerOf_eq_acknowledged_iff]
  exact ⟨h.status, h.sequenceNumber⟩

/-! ## Single waits -/

section Wait

variable {device : HidDevice D} {d d' : D}

/-- After a timeout the tool waits again. -/
theorem awaitContentResponse_timedOut (h : device.waitForReadEvent d = (none, d'))
    (sequenceNumber : UInt16) (waits : ℕ) (inputReportBuffer : List UInt8) :
    awaitContentResponse device sequenceNumber (waits + 1) inputReportBuffer d =
      awaitContentResponse device sequenceNumber waits inputReportBuffer d' := by
  rw [awaitContentResponse, h]

/-- After an input report the tool decides on the buffer. -/
theorem awaitContentResponse_received {inputReport : List UInt8}
    (h : device.waitForReadEvent d = (some inputReport, d')) (sequenceNumber : UInt16)
    (waits : ℕ) (inputReportBuffer : List UInt8) :
    awaitContentResponse device sequenceNumber (waits + 1) inputReportBuffer d =
      match answerOf sequenceNumber (overwrite inputReportBuffer inputReport) with
      | some ack => (ack, overwrite inputReportBuffer inputReport, d')
      | none =>
          awaitContentResponse device sequenceNumber waits
            (overwrite inputReportBuffer inputReport) d' := by
  rw [awaitContentResponse, h, answerOf]
  dsimp only
  split
  · rfl
  · split
    · rfl
    · rfl

end Wait

/-! ## A device that another one carries along -/

/-- The calls of {lit}`device` are those of {lit}`device'` on a part of its state. -/
structure HidDevice.Projects (device' : HidDevice E) (device : HidDevice D) (f : E → D) :
    Prop where
  setOutputReport (report : List UInt8) (e : E) :
    device.setOutputReport report (f e) = Prod.map id f (device'.setOutputReport report e)
  waitForReadEvent (e : E) :
    device.waitForReadEvent (f e) = Prod.map id f (device'.waitForReadEvent e)

section Projects

variable {device : HidDevice D} {device' : HidDevice E} {f : E → D}

theorem sendOffer_projects (h : device'.Projects device f) (report inputReportBuffer : List UInt8)
    (e : E) :
    sendOffer device report inputReportBuffer (f e) =
      Prod.map id (Prod.map id f) (sendOffer device' report inputReportBuffer e) := by
  rw [sendOffer, sendOffer, h.setOutputReport]
  dsimp only [Prod.map]
  rw [h.waitForReadEvent]
  rcases device'.waitForReadEvent (device'.setOutputReport report e).2 with ⟨_ | inputReport, e'⟩
  · rfl
  · rfl

theorem awaitContentResponse_projects (h : device'.Projects device f) (sequenceNumber : UInt16)
    (waits : ℕ) (inputReportBuffer : List UInt8) (e : E) :
    awaitContentResponse device sequenceNumber waits inputReportBuffer (f e) =
      Prod.map id (Prod.map id f)
        (awaitContentResponse device' sequenceNumber waits inputReportBuffer e) := by
  induction waits generalizing inputReportBuffer e with
  | zero => rfl
  | succ waits ih =>
      have hwait := h.waitForReadEvent e
      rcases hcarried : device'.waitForReadEvent e with ⟨_ | inputReport, e'⟩
      · rw [hcarried] at hwait
        rw [awaitContentResponse_timedOut hwait, awaitContentResponse_timedOut hcarried]
        exact ih inputReportBuffer e'
      · rw [hcarried] at hwait
        rw [awaitContentResponse_received hwait, awaitContentResponse_received hcarried]
        cases answerOf sequenceNumber (overwrite inputReportBuffer inputReport) with
        | some ack => rfl
        | none => exact ih _ e'

theorem sendBlocks_projects (h : device'.Projects device f) (report : HidReportIdInfo)
    (waits : ℕ) (totalContentPacketCount : UInt32) (blocks : ℕ) (t : Transfer) (e : E) :
    sendBlocks device report waits totalContentPacketCount blocks t (f e) =
      Prod.map id f (sendBlocks device' report waits totalContentPacketCount blocks t e) := by
  induction blocks generalizing t e with
  | zero => rfl
  | succ blocks ih =>
      rw [sendBlocks, sendBlocks]
      rcases processSrecBin t.stream t.contentdata with fault | ⟨_ | _, stream, contentdata⟩
      · rfl
      · rfl
      · dsimp only
        generalize t.prepareBlock report totalContentPacketCount stream contentdata = t'
        rw [h.setOutputReport]
        rcases device'.setOutputReport (t'.outputReport report) e with ⟨_ | _, e₁⟩
        · rfl
        · dsimp only [Prod.map, id]
          rw [awaitContentResponse_projects h]
          rcases awaitContentResponse device' t'.contentdata.sequenceNumber waits
            t'.inputReportBuffer e₁ with ⟨_ | _ | _, inputReportBuffer, e₂⟩
          · exact ih _ e₂
          · rfl
          · rfl

theorem sendPayload_projects (h : device'.Projects device f) (report : HidReportIdInfo)
    (waits : ℕ) (srecBinFile inputReportBuffer : List UInt8) (e : E) :
    sendPayload device report waits srecBinFile inputReportBuffer (f e) =
      Prod.map id f (sendPayload device' report waits srecBinFile inputReportBuffer e) := by
  unfold sendPayload
  dsimp only
  rcases countContentPackets (roundsFor srecBinFile) (.openFile srecBinFile)
    { ContentData.zero with flags := firmwareUpdateFlagFirstBlock } 0 with
    outcome | ⟨total, stream, contentdata⟩
  · rfl
  · exact sendBlocks_projects h report waits total _ _ e

theorem offerAndSend_projects (h : device'.Projects device f)
    (protocolSettings : CfuHidDeviceConfiguration) (waits : ℕ)
    (offerFile srecBinFile : List UInt8) (forceIgnoreVersion forceReset : UInt8)
    (inputReportBuffer : List UInt8) (e : E) :
    offerAndSend device protocolSettings waits offerFile srecBinFile forceIgnoreVersion forceReset
        inputReportBuffer (f e) =
      Prod.map id f (offerAndSend device' protocolSettings waits offerFile srecBinFile
        forceIgnoreVersion forceReset inputReportBuffer e) := by
  unfold offerAndSend
  dsimp only
  rw [sendOffer_projects h]
  rcases sendOffer device' _ inputReportBuffer e with ⟨_ | _, buffer, e'⟩
  · rfl
  · exact sendPayload_projects h _ waits srecBinFile buffer e'

/-- The tool cannot tell the device from the one that carries it along. -/
theorem fwUpdateOfferSrec_projects (h : device'.Projects device f) (setup : Setup) (waits : ℕ)
    (protocolSettings : CfuHidDeviceConfiguration) (offerPath srecBinPath : Option (List UInt8))
    (forceIgnoreVersion forceReset : UInt8) (e : E) :
    fwUpdateOfferSrec device setup waits protocolSettings offerPath srecBinPath
        forceIgnoreVersion forceReset (f e) =
      Prod.map id f (fwUpdateOfferSrec device' setup waits protocolSettings offerPath srecBinPath
        forceIgnoreVersion forceReset e) := by
  unfold fwUpdateOfferSrec
  split
  · rfl
  · split
    · rfl
    · split
      · rfl
      · split
        · exact offerAndSend_projects h _ waits _ _ forceIgnoreVersion forceReset _ e
        · rfl

end Projects

/-- The log is carried along by the device. -/
theorem logged_projects (device : HidDevice D) :
    device.logged.Projects device Logged.device :=
  ⟨fun _ _ => rfl, fun _ => rfl⟩

/-- Logging does not change a run. -/
theorem fwUpdateOfferSrec_logged (device : HidDevice D) (setup : Setup) (waits : ℕ)
    (protocolSettings : CfuHidDeviceConfiguration) (offerPath srecBinPath : Option (List UInt8))
    (forceIgnoreVersion forceReset : UInt8) (d : D) (log : List Exchange) :
    fwUpdateOfferSrec device setup waits protocolSettings offerPath srecBinPath
        forceIgnoreVersion forceReset d =
      Prod.map id Logged.device (fwUpdateOfferSrec device.logged setup waits protocolSettings
        offerPath srecBinPath forceIgnoreVersion forceReset ⟨d, log⟩) :=
  fwUpdateOfferSrec_projects (logged_projects device) setup waits protocolSettings offerPath
    srecBinPath forceIgnoreVersion forceReset ⟨d, log⟩

/-! ## Rounds -/

/-- The exchanges of one block: the block is sent, the tool waits, and the answer is
seen. -/
structure Round where
  contentdata : ContentData
  waited : List Exchange
  answer : List UInt8

def Round.exchanges (report : HidReportIdInfo) (round : Round) : List Exchange :=
  .sent (round.contentdata.toBytes.take (report.size.toNat + 1)) true ::
    (round.waited ++ [.received round.answer])

/-- What the buffer holds when the answer was seen. -/
def Round.bufferAfter (round : Round) (inputReportBuffer : List UInt8) : List UInt8 :=
  Tool.bufferAfter inputReportBuffer (round.waited ++ [.received round.answer])

/-- The tool goes on waiting for the response to a block: nothing is sent, and nothing that
it sees decides about the block. -/
def KeepsWaiting (sequenceNumber : UInt16) : List UInt8 → List Exchange → Prop
  | _, [] => True
  | _, .sent .. :: _ => False
  | inputReportBuffer, .timedOut :: waited =>
      KeepsWaiting sequenceNumber inputReportBuffer waited
  | inputReportBuffer, .received inputReport :: waited =>
      answerOf sequenceNumber (overwrite inputReportBuffer inputReport) = none ∧
        KeepsWaiting sequenceNumber (overwrite inputReportBuffer inputReport) waited

theorem KeepsWaiting.not_isSent {sequenceNumber : UInt16} {inputReportBuffer : List UInt8}
    {waited : List Exchange} (h : KeepsWaiting sequenceNumber inputReportBuffer waited) :
    ∀ e ∈ waited, e.isSent = false := by
  induction waited generalizing inputReportBuffer with
  | nil => simp
  | cons e waited ih =>
      rw [List.forall_mem_cons]
      cases e with
      | sent => exact h.elim
      | timedOut => exact ⟨rfl, ih h⟩
      | received => exact ⟨rfl, ih h.2⟩

/-- The wait of a round as the tool reads it: block {lit}`k` is acknowledged by what the
buffer holds behind the last input report, whoever sent that report. -/
structure Round.Acknowledged (round : Round) (k : ℕ) (inputReportBuffer : List UInt8) :
    Prop where
  sequenceNumber : round.contentdata.sequenceNumber = UInt16.ofNat k
  waiting : KeepsWaiting (UInt16.ofNat k) inputReportBuffer round.waited
  acknowledged :
    answerOf (UInt16.ofNat k) (round.bufferAfter inputReportBuffer) = some .acknowledged

/-- Every round from block {lit}`k` on is acknowledged. -/
def AllAcknowledged : ℕ → List UInt8 → List Round → Prop
  | _, _, [] => True
  | k, inputReportBuffer, round :: rounds =>
      round.Acknowledged k inputReportBuffer ∧
        AllAcknowledged (k + 1) (round.bufferAfter inputReportBuffer) rounds

/-- The counting pass counts {lit}`total` packets when it has already counted
{lit}`count` and goes on from {lit}`stream`. -/
def Counts (stream : InputStream) (count total : UInt32) : Prop :=
  ∃ blocks contentdata stream' contentdata',
    countContentPackets blocks stream contentdata count = .ok (total, stream', contentdata')

/-- The counting pass does what the sending pass does at the same position. -/
theorem Counts.of_delivered {stream stream' : InputStream} {count total : UInt32}
    (h : Counts stream count total) {contentdata contentdata' : ContentData}
    (hdelivered : processSrecBin stream contentdata = .ok (true, stream', contentdata')) :
    Counts stream' (count + 1) total := by
  obtain ⟨blocks, other, s, c, hcount⟩ := h
  obtain ⟨other', hother⟩ := processSrecBin_returns hdelivered other
  cases blocks with
  | zero => cases hcount
  | succ blocks =>
      rw [countContentPackets, hother] at hcount
      exact ⟨blocks, other', s, c, hcount⟩

theorem Counts.of_ended {stream stream' : InputStream} {count total : UInt32}
    (h : Counts stream count total) {contentdata contentdata' : ContentData}
    (hended : processSrecBin stream contentdata = .ok (false, stream', contentdata')) :
    total = count := by
  obtain ⟨blocks, other, s, c, hcount⟩ := h
  obtain ⟨other', hother⟩ := processSrecBin_returns hended other
  cases blocks with
  | zero => cases hcount
  | succ blocks =>
      rw [countContentPackets, hother] at hcount
      cases hcount
      rfl

section Log

variable {device : HidDevice D}

/-- A log only grows. -/
theorem logged_respects (device : HidDevice D) :
    device.logged.Respects fun e e' => e.log <+: e'.log where
  refl e := List.prefix_refl e.log
  trans := List.IsPrefix.trans
  setOutputReport _ e := List.prefix_append e.log _
  waitForReadEvent e := List.prefix_append e.log _

theorem logged_setOutputReport {report : List UInt8} {e : Logged D} {taken : Bool} {d : D}
    (h : device.setOutputReport report e.device = (taken, d)) :
    device.logged.setOutputReport report e = (taken, ⟨d, e.log ++ [.sent report taken]⟩) := by
  simp [HidDevice.logged, h]

theorem logged_timedOut {e : Logged D} {d : D}
    (h : device.waitForReadEvent e.device = (none, d)) :
    device.logged.waitForReadEvent e = (none, ⟨d, e.log ++ [.timedOut]⟩) := by
  simp [HidDevice.logged, h]

theorem logged_received {e : Logged D} {d : D} {inputReport : List UInt8}
    (h : device.waitForReadEvent e.device = (some inputReport, d)) :
    device.logged.waitForReadEvent e =
      (some inputReport, ⟨d, e.log ++ [.received inputReport]⟩) := by
  simp [HidDevice.logged, h]

/-- A wait that ends with an acknowledgement has seen the answer last. -/
theorem awaitContentResponse_log {sequenceNumber : UInt16} {waits : ℕ}
    {inputReportBuffer buffer : List UInt8} {e e' : Logged D}
    (h : awaitContentResponse device.logged sequenceNumber waits inputReportBuffer e =
      (.acknowledged, buffer, e')) :
    ∃ waited answer, e'.log = e.log ++ (waited ++ [.received answer]) ∧
      KeepsWaiting sequenceNumber inputReportBuffer waited ∧
      buffer = bufferAfter inputReportBuffer (waited ++ [.received answer]) ∧
      answerOf sequenceNumber buffer = some .acknowledged := by
  induction waits generalizing inputReportBuffer e with
  | zero => cases h
  | succ waits ih =>
      rcases hwait : device.waitForReadEvent e.device with ⟨_ | inputReport, d⟩
      · rw [awaitContentResponse_timedOut (logged_timedOut hwait)] at h
        obtain ⟨waited, answer, hlog, hwaiting, hbuffer, hanswer⟩ := ih h
        refine ⟨.timedOut :: waited, answer, ?_, hwaiting, hbuffer, hanswer⟩
        rw [hlog, List.append_assoc]
        rfl
      · rw [awaitContentResponse_received (logged_received hwait)] at h
        cases hdecision : answerOf sequenceNumber (overwrite inputReportBuffer inputReport) with
        | some ack =>
            rw [hdecision] at h
            cases h
            exact ⟨[], inputReport, rfl, trivial, rfl, hdecision⟩
        | none =>
            rw [hdecision] at h
            obtain ⟨waited, answer, hlog, hwaiting, hbuffer, hanswer⟩ := ih h
            refine ⟨.received inputReport :: waited, answer, ?_, ⟨hdecision, hwaiting⟩, hbuffer,
              hanswer⟩
            rw [hlog, List.append_assoc]
            rfl

/-- The round of a delivered block in a sending pass that returns {lit}`TRUE`. -/
theorem sendBlocks_returned_true {report : HidReportIdInfo} {waits blocks : ℕ} {total : UInt32}
    {t t' : Transfer} {stream : InputStream} {contentdata : ContentData}
    (hcall : processSrecBin t.stream t.contentdata = .ok (true, stream, contentdata))
    (ht : t.prepareBlock report total stream contentdata = t') {d d' : D}
    (h : sendBlocks device report waits total (blocks + 1) t d = (.returned true, d')) :
    ∃ d₁ buffer d₂, device.setOutputReport (t'.outputReport report) d = (true, d₁) ∧
      awaitContentResponse device t'.contentdata.sequenceNumber waits t'.inputReportBuffer d₁ =
        (.acknowledged, buffer, d₂) ∧
      sendBlocks device report waits total blocks (t'.advance buffer) d₂ =
        (.returned true, d') := by
  rw [sendBlocks, hcall] at h
  dsimp only at h
  rw [ht] at h
  rcases hsent : device.setOutputReport (t'.outputReport report) d with ⟨_ | _, d₁⟩
  · rw [hsent] at h
    cases h
  · rw [hsent] at h
    dsimp only at h
    rcases hawait : awaitContentResponse device t'.contentdata.sequenceNumber waits
      t'.inputReportBuffer d₁ with ⟨_ | _ | _, buffer, d₂⟩
    · rw [hawait] at h
      exact ⟨d₁, buffer, d₂, rfl, hawait, h⟩
    · rw [hawait] at h
      cases h
    · rw [hawait] at h
      cases h

/-- A sending pass that returns {lit}`TRUE` consists of acknowledged rounds, the last of
which carries the flag of the last block.  Without rounds the parser delivered
nothing. -/
theorem sendBlocks_log {report : HidReportIdInfo} {waits blocks k : ℕ} {total : UInt32}
    {t : Transfer} (hcounts : Counts t.stream t.contentPacketsSent total)
    (hsequence : t.contentdata.sequenceNumber = UInt16.ofNat k) {e e' : Logged D}
    (h : sendBlocks device.logged report waits total blocks t e = (.returned true, e')) :
    ∃ rounds, e'.log = e.log ++ rounds.flatMap (Round.exchanges report) ∧
      AllAcknowledged k t.inputReportBuffer rounds ∧
      (∀ last ∈ rounds.getLast?, last.contentdata.flags = firmwareUpdateFlagLastBlock) ∧
      (rounds = [] → total = t.contentPacketsSent ∧ ∃ stream contentdata,
        processSrecBin t.stream t.contentdata = .ok (false, stream, contentdata)) := by
  induction blocks generalizing k t e with
  | zero => cases h
  | succ blocks ih =>
      rcases hcall : processSrecBin t.stream t.contentdata with fault |
        ⟨_ | _, stream, contentdata⟩
      · rw [sendBlocks, hcall] at h
        cases h
      · rw [sendBlocks, hcall] at h
        have hsame := congrArg Prod.snd h
        refine ⟨[], ?_, trivial, by simp, fun _ => ⟨hcounts.of_ended hcall, _, _, rfl⟩⟩
        rw [List.flatMap_nil, List.append_nil]
        exact congrArg Logged.log hsame.symm
      · obtain ⟨t', ht⟩ : ∃ t', t.prepareBlock report total stream contentdata = t' := ⟨_, rfl⟩
        have hbuffer : t'.inputReportBuffer = t.inputReportBuffer := by simp [← ht]
        have hflags : t'.contentdata.flags = blockFlags total t.contentPacketsSent := by
          simp [← ht]
        have hsequence' : t'.contentdata.sequenceNumber = UInt16.ofNat k := by
          rw [← ht, Transfer.prepareBlock_sequenceNumber, processSrecBin_sequenceNumber hcall,
            hsequence]
        obtain ⟨d₁, buffer, d₂, hsent, hawait, hrest⟩ := sendBlocks_returned_true hcall ht h
        rcases htaken : device.setOutputReport (t'.outputReport report) e.device with ⟨taken, d⟩
        rw [logged_setOutputReport htaken, Prod.mk.injEq] at hsent
        obtain ⟨rfl, rfl⟩ := hsent
        obtain ⟨waited, answer, hlog, hwaiting, hafter, hanswer⟩ := awaitContentResponse_log hawait
        have hnext : Counts (t'.advance buffer).stream (t'.advance buffer).contentPacketsSent
            total := by
          rw [← ht]
          exact hcounts.of_delivered hcall
        have hadvanced : (t'.advance buffer).contentdata.sequenceNumber =
            UInt16.ofNat (k + 1) := by
          show t'.contentdata.sequenceNumber + 1 = _
          rw [hsequence', UInt16.ofNat_add]
          rfl
        obtain ⟨rounds, hrounds, hall, hlast, hnothing⟩ := ih hnext hadvanced hrest
        rw [hbuffer, hsequence'] at hwaiting
        rw [hbuffer] at hafter
        rw [hsequence'] at hanswer
        subst hafter
        refine ⟨⟨t'.contentdata, waited, answer⟩ :: rounds, ?_,
          ⟨⟨hsequence', hwaiting, hanswer⟩, hall⟩, ?_,
          fun hempty => absurd hempty (List.cons_ne_nil _ _)⟩
        · rw [hrounds, hlog]
          simp [Round.exchanges, Transfer.outputReport]
        · cases rounds with
          | nil =>
              -- the two counters meet behind this block, so its flag was set
              have htotal : total = t.contentPacketsSent + 1 := by
                rw [(hnothing rfl).1, ← ht]
                rfl
              intro last hmem
              obtain rfl : (⟨t'.contentdata, waited, answer⟩ : Round) = last :=
                Option.some.inj hmem
              rw [hflags]
              exact blockFlags_last htotal.symm
          | cons round rounds =>
              intro last hmem
              rw [List.getLast?_cons_cons] at hmem
              exact hlast last hmem

end Log

end Tool
end CFU
