import CFU.Library.Reading
import CFU.Simulator.Device

/-!
# CFU simulator - reads of a write report

{lit}`CfuDevice_WriteReport` takes every packet that is as long as
{lit}`sizeof(OUTPUT_REPORT_LENGTH)` and a report id.  The name stands for a number, so
this asks for five bytes, while the version of an offer and the address of a content
command end at the ninth.

Main results:

- Definition {lit}`cfuDeviceWriteReportReading`: {lit}`CfuDevice_WriteReport` with the
  bytes of the packet that it reads.
- Theorem {lit}`run_cfuDeviceWriteReportReading`: it is {lit}`cfuDeviceWriteReport`.
- Theorem {lit}`reads_inside_packet_iff`: when all reads are inside the packet.

Current gaps:

- The arguments of {lit}`TraceEvents` are read if its level is enabled, which is a
  parameter here; the events of all arguments are at the level of information.
-/

namespace CFU
namespace Simulator

open LittleEndian

/-! ## The reads -/

section Readings

variable (values : ComponentFirmwareUpdate) (tracing : Bool) (deviceContext : DeviceContext)

/-- {lit}`TraceEvents`, with the offsets of its arguments. -/
def traceEvents {α : Type} (arguments : List ℕ) (next : Reading UInt8 α) : Reading UInt8 α :=
  Reading.visit (if tracing then arguments else []) next

/-- Save the version of an offer, field by field. -/
def savePendingReading : Reading UInt8 DeviceContext :=
  (Reading.cell 8).bind fun majorVersion =>
    (Reading.cells 6 2).bind fun minorVersion =>
      (Reading.cell 5).bind fun variant =>
        .done (deviceContext.savePending
          { variant := variant
            minorVersion := UInt16.ofNat (value minorVersion)
            majorVersion := majorVersion })

/-- The branches on an offer.  The component id is at offset 3. -/
def offerStatusReading : Reading UInt8 (UInt8 × UInt8 × DeviceContext) :=
  (Reading.cell 3).bind fun componentId =>
    if componentId = 0xFF then
      -- the information code and the token
      traceEvents tracing [1, 4] (.done (values.offerAccept, 0, deviceContext))
    else (Reading.cell 3).bind fun componentId =>
      if componentId = 0xFE then
        traceEvents tracing [1, 4] (.done (values.offerAccept, 0, deviceContext))
      else
        -- all fields of the component information and the version
        traceEvents tracing [3, 2, 2, 1, 4, 8, 6, 7, 5]
          (if !deviceContext.componentsUpdated deviceContext.currentComponentIndex then
            (Reading.cell 3).bind fun componentId =>
              if deviceContext.componentIds deviceContext.currentComponentIndex ≠
                  componentId then
                .done (values.offerReject, values.offerRejectInvMcu, deviceContext)
              else
                (savePendingReading deviceContext).bind fun saved =>
                  .done (values.offerAccept, 0, saved)
          else
            .done (values.offerReject, values.offerRejectSwapPending, deviceContext))

/-- The case {lit}`REPORT_ID_OFFER_OUTPUT`.  The token is at offset 4. -/
def offerOutputReading : Reading UInt8 (FwUpdateOfferResponse × DeviceContext) :=
  (offerStatusReading values tracing deviceContext).bind fun status =>
    (Reading.cell 4).bind fun token =>
      .done (offerResponse status.1 status.2.1 token, status.2.2)

/-- The case {lit}`REPORT_ID_PAYLOAD_OUTPUT`.  The flags are at offset 1; those of the
first block and of a verification are only traced. -/
def payloadOutputReading : Reading UInt8 (FwUpdateContentResponse × DeviceContext) :=
  -- the sequence number, the address and the length
  traceEvents tracing [3, 4, 5, 6, 7, 8, 2]
    (Reading.visit [1]
      ((Reading.cell 1).bind fun flags =>
        Reading.visit [1]
          ((Reading.cells 3 2).bind fun sequenceNumber =>
            .done (contentResponse values.success (UInt16.ofNat (value sequenceNumber)),
              if flags &&& values.flagLastBlock ≠ 0 then deviceContext.commit
              else deviceContext))))

/-- {lit}`CfuDevice_WriteReport`, with the bytes of {lit}`reportBuffer` that it reads. -/
def cfuDeviceWriteReportReading (fetched : Bool) (reportId : UInt8) (reportBufferLen : ℕ) :
    Reading UInt8 (WriteOutcome × DeviceContext) :=
  if reportBufferLen < sizeofOutputReportLength + reportIdLength then
    .done (.invalidDeviceRequest, deviceContext)
  else if reportId ≠ reportIdPayloadOutput ∧ reportId ≠ reportIdOfferOutput then
    .done (.invalidDeviceRequest, deviceContext)
  else if !fetched then
    .done (.fetchFailed, deviceContext)
  else if reportId = reportIdOfferOutput then
    (offerOutputReading values tracing deviceContext).bind fun answer =>
      .done (.enqueued (.offer answer.1), answer.2)
  else
    (payloadOutputReading values tracing deviceContext).bind fun answer =>
      .done (.enqueued (.content answer.1), answer.2)

/-- All bytes that a write report reads are inside its packet. -/
def ReadsInside (fetched : Bool) (packet : HidXferPacket) : Prop :=
  Reading.Within packet.reportBufferLen
    (cfuDeviceWriteReportReading values tracing deviceContext fetched packet.reportId
      packet.reportBufferLen) packet.reportBuffer

end Readings

section Erasure

variable {values : ComponentFirmwareUpdate} {tracing fetched : Bool}
  {deviceContext : DeviceContext} {packet : HidXferPacket}

/-! ## What is read is what the device acts on -/

@[simp]
theorem run_traceEvents {α : Type} (arguments : List ℕ) (next : Reading UInt8 α)
    (memory : ℕ → UInt8) :
    (traceEvents tracing arguments next).run memory = next.run memory :=
  Reading.run_visit _ _

/-- The offer command of a packet. -/
abbrev HidXferPacket.offerCommand (packet : HidXferPacket) : FwUpdateOfferCommand :=
  .ofBytes (packet.structureBytes fwUpdateOfferCommandLength)

/-- The content command of a packet. -/
abbrev HidXferPacket.contentCommand (packet : HidXferPacket) : FwUpdateContentCommand :=
  .ofBytes (packet.structureBytes fwUpdateContentCommandLength)

theorem componentId_offerCommand (packet : HidXferPacket) :
    packet.offerCommand.componentId = packet.reportBuffer 3 :=
  rfl

theorem run_savePendingReading :
    (savePendingReading deviceContext).run packet.reportBuffer =
      deviceContext.savePending packet.offerCommand.version :=
  rfl

theorem run_offerStatusReading :
    (offerStatusReading values tracing deviceContext).run packet.reportBuffer =
      offerStatus values deviceContext packet.offerCommand := by
  rw [offerStatus, offerStatusReading, Reading.run_bind, Reading.run_cell,
    componentId_offerCommand]
  by_cases hinformation : packet.reportBuffer 3 = 0xFF
  · rw [if_pos hinformation, if_pos hinformation, run_traceEvents, Reading.run_done]
  · rw [if_neg hinformation, if_neg hinformation, Reading.run_bind, Reading.run_cell]
    by_cases hextended : packet.reportBuffer 3 = 0xFE
    · rw [if_pos hextended, if_pos hextended, run_traceEvents, Reading.run_done]
    · rw [if_neg hextended, if_neg hextended, run_traceEvents]
      cases hupdated : deviceContext.componentsUpdated deviceContext.currentComponentIndex with
      | true => rfl
      | false =>
          by_cases hid : deviceContext.componentIds deviceContext.currentComponentIndex =
              packet.reportBuffer 3
          · simp [hid, run_savePendingReading]
          · simp [hid]

theorem run_offerOutputReading :
    (offerOutputReading values tracing deviceContext).run packet.reportBuffer =
      offerOutput values deviceContext packet.offerCommand := by
  rw [offerOutputReading, Reading.run_bind, run_offerStatusReading]
  rfl

theorem run_payloadOutputReading :
    (payloadOutputReading values tracing deviceContext).run packet.reportBuffer =
      payloadOutput values deviceContext packet.contentCommand := by
  rw [payloadOutputReading, run_traceEvents]
  rfl

/-- The reads of a write report give the answer and the state of the device. -/
theorem run_cfuDeviceWriteReportReading (values : ComponentFirmwareUpdate) (tracing : Bool)
    (deviceContext : DeviceContext) (fetched : Bool) (packet : HidXferPacket) :
    (cfuDeviceWriteReportReading values tracing deviceContext fetched packet.reportId
      packet.reportBufferLen).run packet.reportBuffer =
      cfuDeviceWriteReport values deviceContext fetched packet := by
  unfold cfuDeviceWriteReportReading cfuDeviceWriteReport
  by_cases hlength : packet.reportBufferLen < sizeofOutputReportLength + reportIdLength
  · rw [if_pos hlength, if_pos hlength, Reading.run_done]
  · rw [if_neg hlength, if_neg hlength]
    by_cases hid : packet.reportId ≠ reportIdPayloadOutput ∧ packet.reportId ≠ reportIdOfferOutput
    · rw [if_pos hid, if_pos hid, Reading.run_done]
    · rw [if_neg hid, if_neg hid]
      cases fetched with
      | false => rfl
      | true =>
          by_cases hoffer : packet.reportId = reportIdOfferOutput
          · simp [hoffer, run_offerOutputReading]
          · simp [hoffer, run_payloadOutputReading]

/-! ## The bound on the reads -/

/-- The end of the version of an offer, and of the address of a content command. -/
def fieldsEnd : ℕ := 9

/-- The fields of the command that the device reads are inside the five bytes that it
asks for. -/
def NeedsFiveBytes (tracing : Bool) (deviceContext : DeviceContext) : Command → Prop
  | .offer offerCommand => ¬ offerCommand.Ordinary ∨
      (tracing = false ∧
        ¬ (deviceContext.componentsUpdated deviceContext.currentComponentIndex = false ∧
          deviceContext.componentIds deviceContext.currentComponentIndex =
            offerCommand.componentId))
  | .content _ => tracing = false

theorem within_traceEvents {α : Type} {bound : ℕ} {memory : ℕ → UInt8} (arguments : List ℕ)
    (next : Reading UInt8 α) :
    Reading.Within bound (traceEvents tracing arguments next) memory ↔
      (tracing = true → ∀ offset ∈ arguments, offset < bound) ∧
        Reading.Within bound next memory := by
  rw [traceEvents, Reading.within_visit]
  cases tracing with
  | true => simp
  | false => simp

theorem within_savePendingReading {bound : ℕ} {memory : ℕ → UInt8} :
    Reading.Within bound (savePendingReading deviceContext) memory ↔ fieldsEnd ≤ bound := by
  simp only [savePendingReading, Reading.within_bind, Reading.within_cell,
    Reading.within_cells 6 Nat.zero_lt_two, Reading.within_done, and_true, fieldsEnd]
  omega

/-- An information or an extended command is read up to its token. -/
theorem within_traceEvents_token {bound : ℕ} {memory : ℕ → UInt8} (hbound : 5 ≤ bound)
    (answer : UInt8 × UInt8 × DeviceContext) :
    Reading.Within bound (traceEvents tracing [1, 4] (.done answer)) memory := by
  rw [within_traceEvents]
  refine ⟨?_, Reading.within_done _⟩
  intro _ offset hoffset
  simp only [List.mem_cons, List.not_mem_nil, or_false] at hoffset
  omega

/-- The trace of an ordinary offer reads its version. -/
theorem forall_ordinary_arguments_iff {bound : ℕ} :
    (∀ offset ∈ [3, 2, 2, 1, 4, 8, 6, 7, 5], offset < bound) ↔ fieldsEnd ≤ bound := by
  simp only [List.forall_mem_cons, List.not_mem_nil, fieldsEnd]
  constructor
  · rintro ⟨-, -, -, -, -, h, -⟩
    omega
  · intro h
    refine ⟨?_, ?_, ?_, ?_, ?_, ?_, ?_, ?_, ?_, by simp⟩ <;> omega

/-- The reads of an offer in a packet of five bytes or more. -/
theorem within_offerStatusReading {bound : ℕ} (hbound : 5 ≤ bound) :
    Reading.Within bound (offerStatusReading values tracing deviceContext) packet.reportBuffer ↔
      fieldsEnd ≤ bound ∨ NeedsFiveBytes tracing deviceContext (.offer packet.offerCommand) := by
  have hthree : 3 < bound := by omega
  simp only [NeedsFiveBytes, FwUpdateOfferCommand.Ordinary, componentId_offerCommand]
  rw [offerStatusReading, Reading.within_bind, Reading.within_cell, Reading.run_cell]
  by_cases hinformation : packet.reportBuffer 3 = 0xFF
  · simp [hinformation, hthree, within_traceEvents_token hbound]
  · rw [if_neg hinformation, Reading.within_bind, Reading.within_cell, Reading.run_cell]
    by_cases hextended : packet.reportBuffer 3 = 0xFE
    · simp [hextended, hthree, within_traceEvents_token hbound]
    · rw [if_neg hextended, within_traceEvents, forall_ordinary_arguments_iff]
      cases hupdated : deviceContext.componentsUpdated deviceContext.currentComponentIndex with
      | true =>
          cases tracing with
          | true => simp [hthree, Reading.within_done, hinformation, hextended]
          | false => simp [hthree, Reading.within_done]
      | false =>
          by_cases hid : deviceContext.componentIds deviceContext.currentComponentIndex =
              packet.reportBuffer 3
          · simp [hthree, hid, Reading.within_bind, Reading.within_cell, Reading.within_done,
              within_savePendingReading, hinformation, hextended]
            intro hend _
            exact hend
          · cases tracing with
            | true =>
                simp [hthree, hid, Reading.within_bind, Reading.within_cell, Reading.within_done,
                  hinformation, hextended]
            | false =>
                simp [hthree, hid, Reading.within_bind, Reading.within_cell, Reading.within_done]

/-- The reads of a content command in a packet of five bytes or more. -/
theorem within_payloadOutputReading {bound : ℕ} (hbound : 5 ≤ bound) :
    Reading.Within bound (payloadOutputReading values tracing deviceContext)
        packet.reportBuffer ↔
      fieldsEnd ≤ bound ∨
        NeedsFiveBytes tracing deviceContext (.content packet.contentCommand) := by
  have hone : 1 < bound := by omega
  have hfive : 3 + 2 ≤ bound := by omega
  have harguments : (∀ offset ∈ [3, 4, 5, 6, 7, 8, 2], offset < bound) ↔ fieldsEnd ≤ bound := by
    simp only [List.forall_mem_cons, List.not_mem_nil, fieldsEnd]
    constructor
    · rintro ⟨-, -, -, -, -, h, -⟩
      omega
    · intro h
      refine ⟨?_, ?_, ?_, ?_, ?_, ?_, ?_, by simp⟩ <;> omega
  rw [payloadOutputReading, within_traceEvents, harguments]
  cases tracing with
  | true =>
      simp [NeedsFiveBytes, Reading.within_visit, Reading.within_bind, Reading.within_cell,
        Reading.within_cells 3 Nat.zero_lt_two, Reading.within_done, hone, hfive]
  | false =>
      simp [NeedsFiveBytes, Reading.within_visit, Reading.within_bind, Reading.within_cell,
        Reading.within_cells 3 Nat.zero_lt_two, Reading.within_done, hone, hfive]

theorem within_offerOutputReading {bound : ℕ} (hbound : 5 ≤ bound) :
    Reading.Within bound (offerOutputReading values tracing deviceContext)
        packet.reportBuffer ↔
      fieldsEnd ≤ bound ∨ NeedsFiveBytes tracing deviceContext (.offer packet.offerCommand) := by
  have hfour : 4 < bound := by omega
  rw [offerOutputReading, Reading.within_bind, within_offerStatusReading hbound]
  simp [Reading.within_bind, Reading.within_cell, Reading.within_done, hfour]

/-- A write report reads inside its packet, exactly when the packet is refused, or has
nine bytes, or has a command of which five bytes are enough: an information or an extended
command, and unless the events are traced a content command and an offer that the device
does not accept. -/
theorem reads_inside_packet_iff (values : ComponentFirmwareUpdate) (tracing : Bool)
    (deviceContext : DeviceContext) (fetched : Bool) (packet : HidXferPacket) :
    ReadsInside values tracing deviceContext fetched packet ↔
      ∀ command, (Request.writeReport fetched packet).command = some command →
        fieldsEnd ≤ packet.reportBufferLen ∨ NeedsFiveBytes tracing deviceContext command := by
  unfold ReadsInside cfuDeviceWriteReportReading
  by_cases hlength : packet.reportBufferLen < sizeofOutputReportLength + reportIdLength
  · simp [hlength, Request.command, Reading.within_done]
  · have hbound : 5 ≤ packet.reportBufferLen := Nat.le_of_not_lt hlength
    cases fetched with
    | false =>
        rw [if_neg hlength]
        by_cases hid : packet.reportId ≠ reportIdPayloadOutput ∧
            packet.reportId ≠ reportIdOfferOutput
        · simp [hid, Request.command, Reading.within_done]
        · rw [if_neg hid]
          simp [Request.command, Reading.within_done]
    | true =>
        by_cases hoffer : packet.reportId = reportIdOfferOutput
        · simp [hlength, hoffer, Request.command, Reading.within_bind, Reading.within_done,
            within_offerOutputReading hbound]
        · by_cases hpayload : packet.reportId = reportIdPayloadOutput
          · simp [hlength, hpayload, reportIdOfferOutput_ne.symm, Request.command,
              Reading.within_bind, Reading.within_done, within_payloadOutputReading hbound]
          · simp [hlength, hoffer, hpayload, Request.command, Reading.within_done]

end Erasure

/-! ## A short offer -/

/-- An offer for the first component that ends at its token. -/
def shortOffer : HidXferPacket where
  reportId := reportIdOfferOutput
  reportBufferLen := 5
  reportBuffer i := if i = 0 then reportIdOfferOutput else if i = 3 then componentIdMcu else 0

/-- The device accepts it, and reads its version behind the packet. -/
theorem shortOffer_read_behind :
    ¬ ReadsInside protocolValues false startedDevice true shortOffer := by
  intro hinside
  have hread : 8 < shortOffer.reportBufferLen := by
    apply hinside
    decide
  exact absurd hread (by decide)

end Simulator
end CFU
