import CFU.Simulator.ResponseDelivery
import CFU.Transfer.EndToEnd
import CFU.Transfer.ReportLayouts

/-!
# CFU transfer - the tool against the virtual device

The virtual device takes a write report, signals its worker, and the worker sends the
response as an input report while the tool waits.  The tool sends its next report only
behind the response to the last one, so no signal is lost, and a session is decided by the
answer to its offer.

Main results:

- Definition {lit}`simulatedDevice`: the virtual device as the tool sees it.
- Theorem {lit}`run_simulated`: how a session with the virtual device ends, and what it
  leaves.
-/

namespace CFU
namespace Transfer

open Simulator Tool Buffer EventRuns LittleEndian

/-! ## The device -/

/-- The packet of an output report. -/
def reportPacket (report : List UInt8) : HidXferPacket where
  reportId := report.getD 0 0
  reportBufferLen := report.length
  reportBuffer i := report.getD i 0

/-- A write report, and the signal behind it. -/
def reportTurns (report : List UInt8) : List Turn :=
  [.writeReport (reportPacket report), .workReady]

/-- The virtual device as the tool sees it: the worker runs while the tool waits.  A
report that is refused changes nothing. -/
def simulatedDevice (values : ComponentFirmwareUpdate) : HidDevice DeliveryState where
  setOutputReport report s :=
    match finalState (deliveryStep values) s (reportTurns report) with
    | some s' => (true, s')
    | none => (false, s)
  waitForReadEvent s :=
    match finalState (deliveryStep values) s workerTurns with
    | some s' =>
        ((inputReports (trace (deliveryStep values) s workerTurns)).head?.map
          InputReport.reportBuffer, s')
    | none => (none, s)

/-- The device with nothing in its queue. -/
def atRest (deviceContext : DeviceContext) : DeliveryState where
  deviceContext := deviceContext
  responses := SignalledQueue.empty

/-- The device with one response in its queue, and the signal for it. -/
def answering (deviceContext : DeviceContext) (responseBuffer : ResponseBuffer) :
    DeliveryState where
  deviceContext := deviceContext
  responses :=
    { queue := [responseBuffer]
      producers := 0
      signalled := true
      worker := .idle }

/-- The names that the driver framework declares have the values that the tool uses. -/
structure SpeaksProtocol (values : ComponentFirmwareUpdate) : Prop where
  offerAccept : values.offerAccept = firmwareUpdateOfferAccept
  offerReject : offerAccepted values.offerReject = false
  flagLastBlock : values.flagLastBlock = firmwareUpdateFlagLastBlock
  success : values.success = firmwareUpdateSuccess

theorem speaksProtocol_protocolValues : SpeaksProtocol protocolValues :=
  ⟨rfl, rfl, rfl, rfl⟩

section Device

variable {values : ComponentFirmwareUpdate} {deviceContext deviceContext' : DeviceContext}
  {report : List UInt8} {responseBuffer : ResponseBuffer}

/-- A structure of the size of the report takes its fields from the report. -/
theorem structureBytes_reportPacket {size : ℕ} (hsize : report.length = size) :
    (reportPacket report).structureBytes size = report := by
  subst hsize
  apply List.ext_getElem
  · simp [HidXferPacket.structureBytes]
  · intro i hi hi'
    simp [HidXferPacket.structureBytes, reportPacket, List.getD_eq_getElem?_getD, hi']

/-- A report that is accepted is in the queue with its signal. -/
theorem setOutputReport_simulated
    (hwrite : cfuDeviceWriteReport values deviceContext true (reportPacket report) =
      (.enqueued responseBuffer, deviceContext')) :
    (simulatedDevice values).setOutputReport report (atRest deviceContext) =
      (true, answering deviceContext' responseBuffer) := by
  have hturns : finalState (deliveryStep values) (atRest deviceContext) (reportTurns report) =
      some (answering deviceContext' responseBuffer) := by
    have hcontext : (atRest deviceContext).deviceContext = deviceContext := rfl
    simp only [reportTurns, finalState, deliveryStep, hcontext, hwrite]
    rfl
  simp only [simulatedDevice, hturns]

/-- The wait behind it reads the response. -/
theorem waitForReadEvent_simulated :
    (simulatedDevice values).waitForReadEvent (answering deviceContext responseBuffer) =
      (some responseBuffer.response, atRest deviceContext) :=
  rfl

/-- The device takes an offer. -/
theorem writeReport_offer (hlength : report.length = fwUpdateOfferCommandLength)
    (hid : report.getD 0 0 = reportIdOfferOutput) :
    cfuDeviceWriteReport values deviceContext true (reportPacket report) =
      (.enqueued (.offer (offerOutput values deviceContext (.ofBytes report)).1),
        (offerOutput values deviceContext (.ofBytes report)).2) := by
  have hlong : ¬ (reportPacket report).reportBufferLen <
      sizeofOutputReportLength + reportIdLength := by
    show ¬ report.length < 4 + 1
    rw [hlength]
    decide
  have hreport : (reportPacket report).reportId = reportIdOfferOutput := hid
  rw [cfuDeviceWriteReport, if_neg hlong, structureBytes_reportPacket hlength]
  simp [hreport]

/-- The device takes a block. -/
theorem writeReport_content (hlength : report.length = fwUpdateContentCommandLength)
    (hid : report.getD 0 0 = reportIdPayloadOutput) :
    cfuDeviceWriteReport values deviceContext true (reportPacket report) =
      (.enqueued (.content (payloadOutput values deviceContext (.ofBytes report)).1),
        (payloadOutput values deviceContext (.ofBytes report)).2) := by
  have hlong : ¬ (reportPacket report).reportBufferLen <
      sizeofOutputReportLength + reportIdLength := by
    show ¬ report.length < 4 + 1
    rw [hlength]
    decide
  have hreport : (reportPacket report).reportId = reportIdPayloadOutput := hid
  have hne : reportIdPayloadOutput ≠ reportIdOfferOutput := reportIdOfferOutput_ne.symm
  have hbytes : (reportPacket report).structureBytes fwUpdateContentCommandLength = report :=
    structureBytes_reportPacket hlength
  rw [cfuDeviceWriteReport, if_neg hlong, hbytes]
  simp [hreport, hne]

end Device

/-! ## Uploads -/

/-- What the tool brings to a session: its settings, with the report sizes of the settings
file, an offer file, and a payload file of records. -/
structure Upload where
  protocolSettings : CfuHidDeviceConfiguration
  offer_size : protocolSettings.fwUpdateOffer.size = 16
  content_size : protocolSettings.fwUpdateContent.size = 60
  inputReportBuffer : List UInt8
  offerFile : List UInt8
  forceIgnoreVersion : UInt8
  forceReset : UInt8
  records : List Record

/-- The report ids that the descriptor of the virtual device gives to the usages. -/
def simulatedIds : ReportIds where
  offer := reportIdOfferOutput
  content := reportIdPayloadOutput
  offerResponse := reportIdOfferInput
  contentResponse := reportIdPayloadInput

namespace Upload

variable (x : Upload)

/-- {lit}`FwUpdateOfferSrec` against the virtual device. -/
def run (values : ComponentFirmwareUpdate) (waits : ℕ) (s : DeliveryState) :
    Outcome × DeliveryState :=
  fwUpdateOfferSrec (simulatedDevice values) (Setup.ready simulatedIds x.inputReportBuffer)
    (waits + 1) x.protocolSettings (some x.offerFile) (some (payload x.records))
    x.forceIgnoreVersion x.forceReset s

/-- The settings after the report ids were found. -/
def reports : CfuHidDeviceConfiguration where
  fwUpdateOfferResponse :=
    { x.protocolSettings.fwUpdateOfferResponse with id := reportIdOfferInput }
  fwUpdateContentResponse :=
    { x.protocolSettings.fwUpdateContentResponse with id := reportIdPayloadInput }
  fwUpdateOffer := { x.protocolSettings.fwUpdateOffer with id := reportIdOfferOutput }
  fwUpdateContent := { x.protocolSettings.fwUpdateContent with id := reportIdPayloadOutput }

/-- The entry for offers after the report ids were found. -/
def offerInfo : HidReportIdInfo :=
  { x.protocolSettings.fwUpdateOffer with id := reportIdOfferOutput }

/-- The entry for content. -/
def contentInfo : HidReportIdInfo :=
  { x.protocolSettings.fwUpdateContent with id := reportIdPayloadOutput }

/-- The offer that the device receives. -/
def offer : Simulator.FwUpdateOfferCommand :=
  .ofBytes (offerData reportIdOfferOutput x.forceReset x.forceIgnoreVersion
    (offerReadBuff x.offerFile))

/-- The device accepts the offer. -/
def accepted (values : ComponentFirmwareUpdate) (deviceContext : DeviceContext) : Bool :=
  (offerStatus values deviceContext x.offer).1 == values.offerAccept

/-- The device behind the session: an accepted offer may have saved its version, and a
payload commits the pending version of the current component. -/
def after (values : ComponentFirmwareUpdate) (deviceContext : DeviceContext) : DeviceContext :=
  if x.accepted values deviceContext then
    if x.records.isEmpty then (offerStatus values deviceContext x.offer).2.2
    else (offerStatus values deviceContext x.offer).2.2.commit
  else deviceContext

end Upload

section Session

variable {values : ComponentFirmwareUpdate} {deviceContext : DeviceContext}

/-! ### The offer -/

/-- The tool sends the offer and judges it by the answer of the device. -/
theorem sendOffer_simulated (x : Upload) (inputReportBuffer : List UInt8) :
    ∃ inputReportBuffer',
      sendOffer (simulatedDevice values)
          ((offerReportBuffer x.offerInfo.id x.forceReset x.forceIgnoreVersion
            x.offerFile).take (x.offerInfo.size.toNat + 1)) inputReportBuffer
          (atRest deviceContext) =
        (offerAccepted (offerStatus values deviceContext x.offer).1, inputReportBuffer',
          atRest (offerStatus values deviceContext x.offer).2.2) := by
  have hlength : (offerData reportIdOfferOutput x.forceReset x.forceIgnoreVersion
      (offerReadBuff x.offerFile)).length = fwUpdateOfferCommandLength :=
    length_offerData _ _
  have hsize : x.offerInfo.size.toNat + 1 = 17 := by
    show x.protocolSettings.fwUpdateOffer.size.toNat + 1 = 17
    rw [x.offer_size]
    rfl
  have hreport : (offerReportBuffer x.offerInfo.id x.forceReset x.forceIgnoreVersion
      x.offerFile).take (x.offerInfo.size.toNat + 1) =
        offerData reportIdOfferOutput x.forceReset x.forceIgnoreVersion
          (offerReadBuff x.offerFile) := by
    rw [offerReportBuffer, hsize, take_overwrite_of_eq]
    · rfl
    · exact length_offerData _ _
  have hwrite := @writeReport_offer values deviceContext _ hlength rfl
  have hset := setOutputReport_simulated hwrite
  refine ⟨overwrite inputReportBuffer
    (offerOutput values deviceContext x.offer).1.asBytes, ?_⟩
  rw [sendOffer, hreport]
  dsimp only
  rw [hset, waitForReadEvent_simulated]
  rfl

/-! ### The content -/

/-- The device behind a block. -/
def afterBlock (values : ComponentFirmwareUpdate) (deviceContext : DeviceContext)
    (flags : UInt8) : DeviceContext :=
  if flags &&& values.flagLastBlock ≠ 0 then deviceContext.commit else deviceContext

/-- The device answers a block with success and its sequence number. -/
theorem awaitContentResponse_simulated (hvalues : SpeaksProtocol values)
    (sequenceNumber : UInt16) (waits : ℕ) (inputReportBuffer : List UInt8) :
    ∃ inputReportBuffer',
      awaitContentResponse (simulatedDevice values) sequenceNumber (waits + 1)
          inputReportBuffer (answering deviceContext
            (.content (contentResponse values.success sequenceNumber))) =
        (.acknowledged, inputReportBuffer', atRest deviceContext) := by
  refine ⟨overwrite inputReportBuffer (contentResponse values.success sequenceNumber).asBytes,
    ?_⟩
  have hstatus : contentResponseStatus (overwrite inputReportBuffer
      (contentResponse values.success sequenceNumber).asBytes) = firmwareUpdateSuccess :=
    hvalues.success
  have hsequence : contentResponseSequenceNumber (overwrite inputReportBuffer
      (contentResponse values.success sequenceNumber).asBytes) = sequenceNumber := by
    have htake : ((overwrite inputReportBuffer
        (contentResponse values.success sequenceNumber).asBytes).drop 1).take 2 =
          bytes 2 sequenceNumber.toNat :=
      rfl
    rw [contentResponseSequenceNumber, htake, value_bytes_uint16, UInt16.ofNat_toNat]
  rw [awaitContentResponse, waitForReadEvent_simulated]
  simp [ResponseBuffer.response, hstatus, hsequence]

/-- The device takes a content report. -/
theorem setOutputReport_block {report : HidReportIdInfo} (hid : report.id = reportIdPayloadOutput)
    (hsize : report.size = 60) {t : Transfer} (ht : t.contentdata.id = report.id) :
    (simulatedDevice values).setOutputReport (t.outputReport report) (atRest deviceContext) =
      (true, answering (afterBlock values deviceContext t.contentdata.flags)
        (.content (contentResponse values.success t.contentdata.sequenceNumber))) := by
  have hlength : t.contentdata.toBytes.length = fwUpdateContentCommandLength :=
    t.contentdata.length_toBytes
  have hbytes : t.outputReport report = t.contentdata.toBytes := by
    have hfits : t.contentdata.toBytes.length ≤ report.size.toNat + 1 := by
      rw [hlength, hsize]
      decide
    rw [Transfer.outputReport, List.take_of_length_le hfits]
  have hreport : t.contentdata.toBytes.getD 0 0 = reportIdPayloadOutput := ht.trans hid
  have hreads := simulatorReadsContent t.contentdata
  rw [hbytes, setOutputReport_simulated (writeReport_content hlength hreport), payloadOutput,
    hreads.2.flags_eq, hreads.2.sequenceNumber_eq]
  rfl

/-- One round of the sending loop. -/
theorem sendBlocks_simulated (hvalues : SpeaksProtocol values) {report : HidReportIdInfo}
    (hid : report.id = reportIdPayloadOutput) (hsize : report.size = 60) {t : Transfer}
    (hgood : t.stream.good = true) {record : Record} {tail : List UInt8}
    (hrest : t.stream.rest = record.toBytes ++ tail) (waits blocks : ℕ)
    (totalContentPacketCount : UInt32) :
    ∃ inputReportBuffer,
      sendBlocks (simulatedDevice values) report (waits + 1) totalContentPacketCount (blocks + 1)
          t (atRest deviceContext) =
        sendBlocks (simulatedDevice values) report (waits + 1) totalContentPacketCount blocks
          ((t.onRecord report totalContentPacketCount record).advance inputReportBuffer)
          (atRest (afterBlock values deviceContext
            (blockFlags totalContentPacketCount t.contentPacketsSent))) := by
  obtain ⟨inputReportBuffer, hawait⟩ := @awaitContentResponse_simulated values
    (afterBlock values deviceContext (blockFlags totalContentPacketCount t.contentPacketsSent))
    hvalues
    (t.onRecord report totalContentPacketCount record).contentdata.sequenceNumber waits
    (t.onRecord report totalContentPacketCount record).inputReportBuffer
  refine ⟨inputReportBuffer, ?_⟩
  rw [sendBlocks_record _ hgood hrest]
  dsimp only
  rw [setOutputReport_block hid hsize rfl]
  dsimp only
  rw [show (t.onRecord report totalContentPacketCount record).contentdata.flags =
    blockFlags totalContentPacketCount t.contentPacketsSent from rfl, hawait]

/-- A block that is not the last one commits nothing, and the last one commits. -/
theorem afterBlock_blockFlags (hvalues : SpeaksProtocol values)
    {totalContentPacketCount contentPacketsSent : UInt32} :
    afterBlock values deviceContext (blockFlags totalContentPacketCount contentPacketsSent) =
      if contentPacketsSent + 1 = totalContentPacketCount then deviceContext.commit
      else deviceContext := by
  unfold afterBlock
  rw [hvalues.flagLastBlock]
  by_cases hlast : contentPacketsSent + 1 = totalContentPacketCount
  · have hset : firmwareUpdateFlagLastBlock &&& firmwareUpdateFlagLastBlock ≠ 0 := by decide
    rw [blockFlags_last hlast, if_pos hset, if_pos hlast]
  · have hclear : blockFlags totalContentPacketCount contentPacketsSent &&&
        firmwareUpdateFlagLastBlock = 0 := by
      by_cases hfirst : contentPacketsSent = 0
      · have hseveral : totalContentPacketCount ≠ 1 := by
          rintro rfl
          rw [hfirst] at hlast
          exact hlast (UInt32.zero_add 1)
        rw [hfirst, blockFlags_first hseveral]
        decide
      · rw [blockFlags_middle hfirst hlast]
        decide
    rw [hclear, if_neg (not_not.2 rfl), if_neg hlast]

/-- The sending loop comes to the end of the file, and its last block commits. -/
theorem sendBlocks_commits (hvalues : SpeaksProtocol values) {report : HidReportIdInfo}
    (hid : report.id = reportIdPayloadOutput) (hsize : report.size = 60) {total : ℕ}
    (htotal : total ≤ 2 ^ 32) {records : List Record} {t : Transfer}
    (hgood : t.stream.good = true) (hrest : t.stream.rest = payload records) {sent : ℕ}
    (hsent : t.contentPacketsSent = UInt32.ofNat sent) (hcount : sent + records.length = total)
    {blocks : ℕ} (hblocks : records.length < blocks) (waits : ℕ) :
    sendBlocks (simulatedDevice values) report (waits + 1) (UInt32.ofNat total) blocks t
        (atRest deviceContext) =
      (.returned true,
        atRest (if records.isEmpty then deviceContext else deviceContext.commit)) := by
  induction records generalizing blocks t sent deviceContext with
  | nil =>
      obtain ⟨blocks, rfl⟩ := Nat.exists_eq_add_one_of_ne_zero (Nat.ne_zero_of_lt hblocks)
      rw [List.length_nil, Nat.add_zero] at hcount
      rw [sendBlocks_end _ hgood hrest, hsent, hcount]
      simp [transferCompleted]
  | cons record records ih =>
      obtain ⟨blocks, rfl⟩ := Nat.exists_eq_add_one_of_ne_zero (Nat.ne_zero_of_lt hblocks)
      rw [List.length_cons] at hcount
      obtain ⟨inputReportBuffer, hround⟩ := @sendBlocks_simulated values deviceContext hvalues
        report hid hsize t hgood record (payload records) hrest waits blocks
        (UInt32.ofNat total)
      have hnext : ((t.onRecord report (UInt32.ofNat total) record).advance
          inputReportBuffer).contentPacketsSent = UInt32.ofNat (sent + 1) := by
        show t.contentPacketsSent + 1 = _
        rw [hsent, UInt32.ofNat_add]
        rfl
      have hgood' : ((t.onRecord report (UInt32.ofNat total) record).advance
          inputReportBuffer).stream.good = true := hgood
      rw [hround, ih hgood' (Record.behind_rest hrest) hnext (by omega)
        (Nat.lt_of_succ_lt_succ hblocks), afterBlock_blockFlags hvalues, hsent]
      by_cases hlast : records = []
      · subst hlast
        have hend : UInt32.ofNat sent + 1 = UInt32.ofNat total := by
          rw [← hcount, UInt32.ofNat_add]
          rfl
        simp [hend]
      · have hpos : 0 < records.length := List.length_pos_iff.mpr hlast
        have hmiddle : UInt32.ofNat sent + 1 ≠ UInt32.ofNat total := by
          intro heq
          have hnext : UInt32.ofNat sent + 1 = UInt32.ofNat (sent + 1) := by
            rw [UInt32.ofNat_add]
            rfl
          rw [hnext] at heq
          have hnat := congrArg UInt32.toNat heq
          rw [UInt32.toNat_ofNat', UInt32.toNat_ofNat'] at hnat
          omega
        simp [hmiddle, hlast]

/-- The device accepts an offer with the status of acceptance, or turns it down and stays
as it is. -/
theorem offerStatus_cases (values : ComponentFirmwareUpdate) (deviceContext : DeviceContext)
    (offerCommand : Simulator.FwUpdateOfferCommand) :
    (offerStatus values deviceContext offerCommand).1 = values.offerAccept ∨
      ((offerStatus values deviceContext offerCommand).1 = values.offerReject ∧
        (offerStatus values deviceContext offerCommand).2.2 = deviceContext) := by
  by_cases hordinary : offerCommand.Ordinary
  · rw [offerStatus_of_ordinary hordinary]
    by_cases hupdated : deviceContext.componentsUpdated deviceContext.currentComponentIndex = true
    · rw [if_pos hupdated]
      exact .inr ⟨rfl, rfl⟩
    · rw [if_neg hupdated]
      by_cases hid : deviceContext.componentIds deviceContext.currentComponentIndex =
          offerCommand.componentId
      · rw [if_pos hid]
        exact .inl rfl
      · rw [if_neg hid]
        exact .inr ⟨rfl, rfl⟩
  · rw [offerStatus_of_not_ordinary hordinary]
    exact .inl rfl

/-- A session with the virtual device is decided by the answer to the offer.  The tool
reports success when the device accepts, the last block commits what the offer left, and
the device is at rest again. -/
theorem run_simulated (hvalues : SpeaksProtocol values) (x : Upload)
    (htotal : x.records.length ≤ 2 ^ 32) (waits : ℕ) :
    x.run values waits (atRest deviceContext) =
      (.returned (x.accepted values deviceContext), atRest (x.after values deviceContext)) := by
  have hrun : x.run values waits (atRest deviceContext) =
      offerAndSend (simulatedDevice values) x.reports (waits + 1) x.offerFile
        (payload x.records) x.forceIgnoreVersion x.forceReset x.inputReportBuffer
        (atRest deviceContext) :=
    rfl
  obtain ⟨inputReportBuffer, hsend⟩ := @sendOffer_simulated values deviceContext x
    x.inputReportBuffer
  rw [hrun, offerAndSend, show x.reports.fwUpdateOffer = x.offerInfo from rfl, hsend]
  rcases offerStatus_cases values deviceContext x.offer with haccept | ⟨hreject, hsame⟩
  · have haccepted : x.accepted values deviceContext = true := by
      rw [Upload.accepted, haccept, beq_self_eq_true]
    have hgoes : offerAccepted values.offerAccept = true := by
      rw [hvalues.offerAccept]
      rfl
    obtain ⟨t, hstart, hpayload⟩ := sendPayload_payload (simulatedDevice values) x.contentInfo
      (waits + 1) x.records inputReportBuffer
      (atRest (offerStatus values deviceContext x.offer).2.2)
    have hid : x.contentInfo.id = reportIdPayloadOutput := rfl
    have hsent : t.contentPacketsSent = UInt32.ofNat 0 := hstart.contentPacketsSent
    rw [haccept, hgoes, haccepted, Upload.after, if_pos haccepted]
    dsimp only
    rw [show x.reports.fwUpdateContent = x.contentInfo from rfl, hpayload]
    exact sendBlocks_commits hvalues hid x.content_size htotal hstart.good hstart.rest hsent
      (Nat.zero_add _) (length_lt_roundsFor x.records) waits
  · have hrefused : x.accepted values deviceContext = false := by
      rw [Upload.accepted, hreject, beq_eq_false_iff_ne]
      exact values.offerAccept_ne_offerReject.symm
    rw [hreject, hvalues.offerReject, hsame, hrefused, Upload.after, hrefused]
    rfl

end Session

end Transfer
end CFU
