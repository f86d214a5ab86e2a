import CFU.Transfer.BlockPlan
import CFU.Transfer.WireAgreement

/-!
# CFU transfer - the engine as a device

A device hands every output report to the entry point of the engine that its
report id names, and queues the response as an input report.  Reports are
delivered once and in order.  The device keeps the calls that the engine made
on the platform.

Main results:

- Definition {lit}`engineDevice`: the device that the tool talks to.
- Theorem {lit}`engineDevice_respects_calls`: the recorded calls only grow.
- Theorems {lit}`sendBlocks_answered` and {lit}`sendBlocks_hung`: one round of the
  sending loop when the engine answers, and when it does not.
-/

namespace CFU
namespace Transfer

open Firmware Tool Buffer

variable {W : Type} {n : ℕ}

/-! ## The device -/

/-- The report ids of the four usages of an update. -/
structure ReportIds where
  offer : UInt8
  content : UInt8
  offerResponse : UInt8
  contentResponse : UInt8
deriving DecidableEq, Repr

/-- The engine, unless an entry point never returned, the calls that it made, and
the input reports that were not read yet. -/
structure DeviceState (W : Type) (n : ℕ) where
  config : Option (Config W n)
  calls : List (Call n)
  inputReports : List (List UInt8)

/-- A device on which nothing is under way. -/
def DeviceState.quiet (c : Config W n) (calls : List (Call n)) : DeviceState W n where
  config := some c
  calls := calls
  inputReports := []

/-- The event that an output report stands for.  An offer is answered in the
buffer {lit}`pResponse`. -/
def reportEvent (ids : ReportIds) (pResponse : FwUpdateOfferResponse) :
    List UInt8 → Option (Event n)
  | [] => none
  | id :: buffer =>
      if id = ids.content then some (.content (decodeContentCommand buffer))
      else if id = ids.offer then some (.offer (decodeOfferCommand buffer) pResponse)
      else none

/-- The input reports that a response becomes. -/
def responseReports (ids : ReportIds) : Except Halt Response → List (List UInt8)
  | .ok (.offer pResponse) => [ids.offerResponse :: encodeOfferResponse pResponse]
  | .ok (.content pResponse) => [ids.contentResponse :: encodeContentResponse pResponse]
  | .ok .done => []
  | .error _ => []

/-- The device after the engine processed an event. -/
def DeviceState.process (P : Platform W n) (ids : ReportIds) (c : Config W n) (e : Event n)
    (d : DeviceState W n) : DeviceState W n where
  config := (step P c e).2
  calls := d.calls ++ (step P c e).1.calls
  inputReports := d.inputReports ++ responseReports ids (step P c e).1.response

/-- The firmware engine on a platform as the tool sees it.  A report that no entry
point takes, or that comes after one never returned, has no effect. -/
def engineDevice (P : Platform W n) (ids : ReportIds) (pResponse : FwUpdateOfferResponse) :
    HidDevice (DeviceState W n) where
  setOutputReport report d :=
    match d.config, reportEvent ids pResponse report with
    | some c, some e => (true, d.process P ids c e)
    | _, _ => (true, d)
  waitForReadEvent d :=
    match d.inputReports with
    | [] => (none, d)
    | inputReport :: inputReports => (some inputReport, { d with inputReports := inputReports })

/-- The recorded calls only grow. -/
theorem engineDevice_respects_calls (P : Platform W n) (ids : ReportIds)
    (pResponse : FwUpdateOfferResponse) :
    (engineDevice P ids pResponse).Respects fun d d' => d.calls <+: d'.calls where
  refl d := List.prefix_refl d.calls
  trans := List.IsPrefix.trans
  setOutputReport report d := by
    unfold engineDevice
    dsimp only
    split
    · exact List.prefix_append _ _
    · exact List.prefix_refl _
  waitForReadEvent d := by
    unfold engineDevice
    dsimp only
    split
    · exact List.prefix_refl _
    · exact List.prefix_refl _

/-! ## Waiting for an answer -/

section Wait

variable (P : Platform W n) (ids : ReportIds) (pResponse : FwUpdateOfferResponse)

/-- A device that has nothing to say is waited for in vain. -/
theorem awaitContentResponse_silent {d : DeviceState W n} (hsilent : d.inputReports = [])
    (sequenceNumber : UInt16) (waits : ℕ) (inputReportBuffer : List UInt8) :
    awaitContentResponse (engineDevice P ids pResponse) sequenceNumber waits inputReportBuffer d =
      (.waiting, inputReportBuffer, d) := by
  induction waits with
  | zero => rfl
  | succ waits ih =>
      have hwait : (engineDevice P ids pResponse).waitForReadEvent d = (none, d) := by
        unfold engineDevice
        dsimp only
        rw [hsilent]
      rw [awaitContentResponse, hwait]
      exact ih

/-- The first wait reads the response to a block. -/
theorem awaitContentResponse_answered (config : Option (Config W n)) (calls : List (Call n))
    (pCommand : FwUpdateContentCommand) (status : UInt8) (waits : ℕ)
    (inputReportBuffer : List UInt8) :
    ∃ inputReportBuffer',
      awaitContentResponse (engineDevice P ids pResponse) pCommand.sequenceNumber (waits + 1)
          inputReportBuffer ⟨config, calls,
            [ids.contentResponse :: encodeContentResponse (contentResponse pCommand status)]⟩ =
        (if status = firmwareUpdateStatusSuccess then .acknowledged else .rejected,
          inputReportBuffer', ⟨config, calls, []⟩) := by
  refine ⟨overwrite inputReportBuffer
    (ids.contentResponse :: encodeContentResponse (contentResponse pCommand status)), ?_⟩
  have hstatus : (contentResponse pCommand status).status = status := rfl
  have hsequence : (contentResponse pCommand status).sequenceNumber = pCommand.sequenceNumber :=
    rfl
  have hsuccess : Tool.firmwareUpdateSuccess = firmwareUpdateStatusSuccess := rfl
  rw [awaitContentResponse]
  dsimp only [engineDevice]
  rw [contentResponseStatus_overwrite, contentResponseSequenceNumber_overwrite, hstatus,
    hsequence, hsuccess]
  by_cases h : status = firmwareUpdateStatusSuccess
  · rw [h]
    simp
  · simp [h]

end Wait

/-! ## The offer -/

section Offer

variable {P : Platform W n} {ids : ReportIds} (pResponse : FwUpdateOfferResponse)
  {report : HidReportIdInfo} {c : Config W n} {forceReset forceIgnoreVersion : UInt8}
  {offerFile : List UInt8}

/-- The offer that the engine receives for an offer file. -/
def offeredCommand (forceReset forceIgnoreVersion : UInt8) (offerFile : List UInt8) :
    FwUpdateOfferCommand :=
  decodeOfferCommand ((offerData 0 forceReset forceIgnoreVersion (offerReadBuff offerFile)).drop 1)

/-- The bytes that the tool passes on as its offer. -/
def offerReport (report : HidReportIdInfo) (forceReset forceIgnoreVersion : UInt8)
    (offerFile : List UInt8) : List UInt8 :=
  (offerReportBuffer report.id forceReset forceIgnoreVersion offerFile).take
    (report.size.toNat + 1)

theorem length_offerData (id : UInt8) (offerFile : List UInt8) :
    (offerData id forceReset forceIgnoreVersion (offerReadBuff offerFile)).length = 17 := by
  have hread : (offerReadBuff offerFile).length = 16 := by
    unfold offerReadBuff
    rw [length_overwrite, List.length_replicate]
    rw [List.length_replicate]
    exact List.length_take_le 16 offerFile
  simp [offerData, hread]

/-- The engine receives the offer. -/
theorem setOutputReport_offer (hid : report.id = ids.offer) (hne : ids.offer ≠ ids.content)
    (hsize : report.size = 16) (calls : List (Call n)) :
    (engineDevice P ids pResponse).setOutputReport
        (offerReport report forceReset forceIgnoreVersion offerFile) (.quiet c calls) =
      (true, (DeviceState.quiet c calls).process P ids c
        (.offer (offeredCommand forceReset forceIgnoreVersion offerFile) pResponse)) := by
  have hbytes : offerReport report forceReset forceIgnoreVersion offerFile = ids.offer ::
      (offerData 0 forceReset forceIgnoreVersion (offerReadBuff offerFile)).drop 1 := by
    have hlength : (offerData report.id forceReset forceIgnoreVersion
        (offerReadBuff offerFile)).length = report.size.toNat + 1 := by
      rw [length_offerData, hsize]
      rfl
    rw [offerReport, offerReportBuffer, take_overwrite_of_eq hlength, ← hid]
    rfl
  rw [hbytes]
  simp only [engineDevice, DeviceState.quiet, reportEvent, if_neg hne, if_true, offeredCommand]

/-- An offer that the engine answers decides by its status whether the tool goes on. -/
theorem sendOffer_answered (hid : report.id = ids.offer) (hne : ids.offer ≠ ids.content)
    (hsize : report.size = 16) {calls : List (Call n)} {response : FwUpdateOfferResponse}
    {after : Option (Config W n)}
    (hstep : step P c (.offer (offeredCommand forceReset forceIgnoreVersion offerFile)
      pResponse) = (offerOutput calls response, after)) (inputReportBuffer : List UInt8) :
    sendOffer (engineDevice P ids pResponse)
        (offerReport report forceReset forceIgnoreVersion offerFile) inputReportBuffer
        (.quiet c []) =
      (offerAccepted response.status,
        overwrite inputReportBuffer (ids.offerResponse :: encodeOfferResponse response),
        ⟨after, calls, []⟩) := by
  unfold sendOffer
  dsimp only
  rw [setOutputReport_offer pResponse hid hne hsize, DeviceState.process, hstep]
  rw [← offerResponseStatus_overwrite inputReportBuffer ids.offerResponse response]
  rfl

/-- Without an answer to the offer the tool gives up. -/
theorem sendOffer_hung (hid : report.id = ids.offer) (hne : ids.offer ≠ ids.content)
    (hsize : report.size = 16) {calls : List (Call n)} {reason : Halt}
    {after : Option (Config W n)}
    (hstep : step P c (.offer (offeredCommand forceReset forceIgnoreVersion offerFile)
      pResponse) = (⟨calls, .error reason⟩, after)) (inputReportBuffer : List UInt8) :
    sendOffer (engineDevice P ids pResponse)
        (offerReport report forceReset forceIgnoreVersion offerFile) inputReportBuffer
        (.quiet c []) =
      (false, inputReportBuffer, ⟨after, calls, []⟩) := by
  unfold sendOffer
  dsimp only
  rw [setOutputReport_offer pResponse hid hne hsize, DeviceState.process, hstep]
  rfl

end Offer

/-! ## One round of the sending loop -/

section Round

variable {P : Platform W n} {ids : ReportIds} (pResponse : FwUpdateOfferResponse)
  {report : HidReportIdInfo} {t : Transfer} {record : Record} {tail : List UInt8}

/-- The engine receives a content report as its command. -/
theorem setOutputReport_content (hid : report.id = ids.content) (hsize : report.size = 60)
    (ht : t.contentdata.id = report.id) (c : Config W n) (calls : List (Call n)) :
    (engineDevice P ids pResponse).setOutputReport (t.outputReport report) (.quiet c calls) =
      (true, (DeviceState.quiet c calls).process P ids c
        (.content (receivedCommand t.contentdata))) := by
  have hbytes : t.outputReport report = ids.content :: t.contentdata.toBytes.drop 1 := by
    have hlength : t.contentdata.toBytes.length ≤ report.size.toNat + 1 := by
      rw [ContentData.length_toBytes, hsize]
      decide
    rw [Transfer.outputReport, List.take_of_length_le hlength, ← hid, ← ht]
    rfl
  rw [hbytes]
  simp only [engineDevice, DeviceState.quiet, reportEvent, if_true, decodeContentCommand_toBytes]

/-- The command that the engine receives for a record. -/
def recordCommand (t : Transfer) (report : HidReportIdInfo) (totalContentPacketCount : UInt32)
    (record : Record) : FwUpdateContentCommand :=
  receivedCommand (t.onRecord report totalContentPacketCount record).contentdata

theorem recordCommand_eq (t : Transfer) (report : HidReportIdInfo)
    (totalContentPacketCount : UInt32) (record : Record) :
    recordCommand t report totalContentPacketCount record =
      receivedCommand (t.onRecord report totalContentPacketCount record).contentdata :=
  rfl

theorem recordCommand_sequenceNumber (t : Transfer) (report : HidReportIdInfo)
    (totalContentPacketCount : UInt32) (record : Record) :
    (t.onRecord report totalContentPacketCount record).contentdata.sequenceNumber =
      (recordCommand t report totalContentPacketCount record).sequenceNumber :=
  rfl

/-- The block that is planned for a record. -/
def plannedBlock (t : Transfer) (totalContentPacketCount : UInt32) (record : Record) : Block where
  flags := blockFlags totalContentPacketCount t.contentPacketsSent
  offset := record.address - blockStart t.contentPacketsSent t.startAddress record.address
  record := record

/-- The command carries the block that is planned for the record. -/
theorem carries_recordCommand (t : Transfer) (report : HidReportIdInfo)
    (totalContentPacketCount : UInt32) (record : Record) :
    Carries (recordCommand t report totalContentPacketCount record)
      (plannedBlock t totalContentPacketCount record) where
  flags := rfl
  address := rfl
  length := rfl
  data := by
    have hlength : (recordCommand t report totalContentPacketCount record).length.toNat =
        record.data.length :=
      record.toNat_length
    rw [hlength]
    exact take_overwrite t.contentdata.data record.data

section Answer

variable (hgood : t.stream.good = true) (hrest : t.stream.rest = record.toBytes ++ tail)
  (hid : report.id = ids.content) (hsize : report.size = 60) {totalContentPacketCount : UInt32}
  {c : Config W n} {blockCalls : List (Call n)} {after : Option (Config W n)}

include hgood hrest hid hsize

/-- A block that the engine answers is followed by the next record, or by the end
of the transfer when the answer is an error. -/
theorem sendBlocks_answered {status : UInt8}
    (hstep : step P c (.content (recordCommand t report totalContentPacketCount record)) =
      (contentOutput (recordCommand t report totalContentPacketCount record) blockCalls status,
        after)) (waits blocks : ℕ) (calls : List (Call n)) :
    ∃ inputReportBuffer,
      sendBlocks (engineDevice P ids pResponse) report (waits + 1) totalContentPacketCount
          (blocks + 1) t (.quiet c calls) =
        if status = firmwareUpdateStatusSuccess then
          sendBlocks (engineDevice P ids pResponse) report (waits + 1) totalContentPacketCount
            blocks ((t.onRecord report totalContentPacketCount record).advance inputReportBuffer)
            ⟨after, calls ++ blockCalls, []⟩
        else (.returned false, ⟨after, calls ++ blockCalls, []⟩) := by
  obtain ⟨inputReportBuffer, hawait⟩ := awaitContentResponse_answered P ids pResponse
    after (calls ++ blockCalls) (recordCommand t report totalContentPacketCount record) status
    waits (t.onRecord report totalContentPacketCount record).inputReportBuffer
  refine ⟨inputReportBuffer, ?_⟩
  rw [sendBlocks_record _ hgood hrest]
  dsimp only
  rw [setOutputReport_content pResponse hid hsize rfl, DeviceState.process, ← recordCommand_eq,
    hstep]
  dsimp only [DeviceState.quiet, responseReports, contentOutput, List.nil_append]
  rw [recordCommand_sequenceNumber, hawait]
  by_cases hstatus : status = firmwareUpdateStatusSuccess
  · rw [if_pos hstatus, if_pos hstatus]
  · rw [if_neg hstatus, if_neg hstatus]

/-- A block whose processing never returns leaves the tool waiting. -/
theorem sendBlocks_hung {reason : Halt}
    (hstep : step P c (.content (recordCommand t report totalContentPacketCount record)) =
      (⟨blockCalls, .error reason⟩, after)) (waits blocks : ℕ) (calls : List (Call n)) :
    sendBlocks (engineDevice P ids pResponse) report waits totalContentPacketCount (blocks + 1) t
        (.quiet c calls) =
      (.unfinished, ⟨after, calls ++ blockCalls, []⟩) := by
  rw [sendBlocks_record _ hgood hrest]
  dsimp only
  rw [setOutputReport_content pResponse hid hsize rfl, DeviceState.process, ← recordCommand_eq,
    hstep]
  dsimp only [DeviceState.quiet, responseReports, List.append_nil]
  rw [awaitContentResponse_silent P ids pResponse rfl]
  rfl

end Answer

end Round

end Transfer
end CFU
