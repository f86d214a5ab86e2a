import CFU.Library.Runs
import CFU.Simulator.Reports

/-!
# CFU simulator - the virtual device

The device updates its components in turn.  An offer for the current component leaves
its version in a slot for pending versions, and a last block makes the pending version
the version of the component and turns to the next one.  Nothing but the slot connects
the two: a last block is taken whether or not an offer came before it.

Main results:

- Definition {lit}`cfuDeviceWriteReport`: {lit}`CfuDevice_WriteReport`.
- Theorem {lit}`step_effect`: what one request can do to the device.
- Theorem {lit}`accepts_iff_offers`: which ordinary offers the device accepts.

Current gaps:

- The values of the protocol are declared by the driver framework's modules, which are
  not part of the repository.
-/

namespace CFU
namespace Simulator

open EventRuns

/-! ## The context of the device -/

/-- {lit}`NUMBER_OF_COMPONENTS` -/
def numberOfComponents : ℕ := 2

/-- {lit}`DEVICE_CONTEXT`, without its modules.  The arrays are counted by their index,
and have {lit}`NUMBER_OF_COMPONENTS` entries. -/
structure DeviceContext where
  currentComponentIndex : ℕ
  componentIds : ℕ → UInt8
  componentsUpdated : ℕ → Bool
  componentVersion : ℕ → ComponentVersion
  pendingComponentVersion : ℕ → ComponentVersion

/-- A version of zeroed memory. -/
def zeroVersion : ComponentVersion where
  variant := 0
  minorVersion := 0
  majorVersion := 0

/-- The context when the framework has created it. -/
def zeroedContext : DeviceContext where
  currentComponentIndex := 0
  componentIds _ := 0
  componentsUpdated _ := false
  componentVersion _ := zeroVersion
  pendingComponentVersion _ := zeroVersion

/-- {lit}`COMPONENT_ID_MCU` -/
def componentIdMcu : UInt8 := 0x30

/-- {lit}`COMPONENT_ID_AUDIO` -/
def componentIdAudio : UInt8 := 0x02

/-- {lit}`FIRMWARE_VERSION_MAJOR`, {lit}`FIRMWARE_VERSION_MINOR` and
{lit}`FIRMWARE_VERSION_VARIANT` -/
def firmwareVersion : ComponentVersion where
  variant := 5
  minorVersion := 4
  majorVersion := 123

/-- {lit}`CfuDevice_EvtDevicePrepareHardware`, up to the start of the worker thread. -/
def cfuDeviceEvtDevicePrepareHardware (deviceContext : DeviceContext) : DeviceContext :=
  { deviceContext with
    componentIds := Function.update
      (Function.update deviceContext.componentIds 0 componentIdMcu) 1 componentIdAudio
    componentVersion := Function.update
      (Function.update deviceContext.componentVersion 0 firmwareVersion) 1 firmwareVersion }

/-- The device when it starts. -/
def startedDevice : DeviceContext :=
  cfuDeviceEvtDevicePrepareHardware zeroedContext

/-- Save the version of an offer for the current component. -/
def DeviceContext.savePending (deviceContext : DeviceContext) (version : ComponentVersion) :
    DeviceContext :=
  { deviceContext with
    pendingComponentVersion := Function.update deviceContext.pendingComponentVersion
      deviceContext.currentComponentIndex version }

/-- The pending version becomes the version of the current component. -/
def DeviceContext.commit (deviceContext : DeviceContext) : DeviceContext :=
  { deviceContext with
    componentsUpdated := Function.update deviceContext.componentsUpdated
      deviceContext.currentComponentIndex true
    componentVersion := Function.update deviceContext.componentVersion
      deviceContext.currentComponentIndex
      (deviceContext.pendingComponentVersion deviceContext.currentComponentIndex)
    currentComponentIndex := (deviceContext.currentComponentIndex + 1) % numberOfComponents }

/-! ## Reports -/

/-- {lit}`REPORT_ID_VERSIONS_FEATURE` -/
def reportIdVersionsFeature : UInt8 := 0x20

/-- {lit}`REPORT_ID_PAYLOAD_OUTPUT` -/
def reportIdPayloadOutput : UInt8 := 0x20

/-- {lit}`REPORT_ID_PAYLOAD_INPUT` -/
def reportIdPayloadInput : UInt8 := 0x22

/-- {lit}`REPORT_ID_OFFER_OUTPUT` -/
def reportIdOfferOutput : UInt8 := 0x25

/-- {lit}`REPORT_ID_OFFER_INPUT` -/
def reportIdOfferInput : UInt8 := 0x25

/-- {lit}`sizeof(OUTPUT_REPORT_LENGTH)`: the size of the number, which is an
{lit}`int`. -/
def sizeofOutputReportLength : ℕ := 4

/-- {lit}`REPORT_ID_LENGTH` -/
def reportIdLength : ℕ := 1

/-- {lit}`HID_XFER_PACKET`, with the memory from the start of its buffer on. -/
structure HidXferPacket where
  reportId : UInt8
  reportBufferLen : ℕ
  reportBuffer : ℕ → UInt8

/-- The memory that a structure of some size takes its fields from. -/
def HidXferPacket.structureBytes (packet : HidXferPacket) (size : ℕ) : List UInt8 :=
  (List.range size).map packet.reportBuffer

/-- The values of {lit}`COMPONENT_FIRMWARE_UPDATE_OFFER_ACCEPT` and the other names that
the modules of the driver framework declare. -/
structure ComponentFirmwareUpdate where
  offerAccept : UInt8
  offerReject : UInt8
  offerRejectInvMcu : UInt8
  offerRejectSwapPending : UInt8
  flagLastBlock : UInt8
  success : UInt8
  offerAccept_ne_offerReject : offerAccept ≠ offerReject

/-- The values that the protocol gives these names. -/
def protocolValues : ComponentFirmwareUpdate where
  offerAccept := 1
  offerReject := 2
  offerRejectInvMcu := 1
  offerRejectSwapPending := 2
  flagLastBlock := 0x40
  success := 0
  offerAccept_ne_offerReject := by decide

/-- {lit}`RESPONSE_BUFFER`: the type of the response, and the response. -/
inductive ResponseBuffer where
  | offer (offerResponse : FwUpdateOfferResponse)
  | content (contentResponse : FwUpdateContentResponse)
deriving DecidableEq, Repr

/-- {lit}`RESPONSE_BUFFER.Response` -/
def ResponseBuffer.response : ResponseBuffer → List UInt8
  | .offer offerResponse => offerResponse.asBytes
  | .content contentResponse => contentResponse.asBytes

/-- The answer to an offer. -/
def offerResponse (currentStatus rejectReason token : UInt8) : FwUpdateOfferResponse where
  reportId := reportIdOfferInput
  reserved0 := 0
  token := token
  reserved1 := 0
  rejectReasonCode := rejectReason
  reserved2 := 0
  status := currentStatus
  reserved3 := 0
  behind := 0

/-- The answer to a content command. -/
def contentResponse (status : UInt8) (sequenceNumber : UInt16) : FwUpdateContentResponse where
  reportId := reportIdPayloadInput
  sequenceNumber := sequenceNumber
  reserved0 := 0
  status := status
  reserved1 := 0
  reserved2 := 0
  behind := 0

section Device

variable (values : ComponentFirmwareUpdate)

/-- The branches on an offer: the status, the reject reason, and the context. -/
def offerStatus (deviceContext : DeviceContext) (offerCommand : FwUpdateOfferCommand) :
    UInt8 × UInt8 × DeviceContext :=
  -- an information or an extended command
  if offerCommand.componentId = 0xFF then (values.offerAccept, 0, deviceContext)
  else if offerCommand.componentId = 0xFE then (values.offerAccept, 0, deviceContext)
  else if !deviceContext.componentsUpdated deviceContext.currentComponentIndex then
    if deviceContext.componentIds deviceContext.currentComponentIndex ≠
        offerCommand.componentId then
      (values.offerReject, values.offerRejectInvMcu, deviceContext)
    else
      (values.offerAccept, 0, deviceContext.savePending offerCommand.version)
  else
    (values.offerReject, values.offerRejectSwapPending, deviceContext)

/-- The case {lit}`REPORT_ID_OFFER_OUTPUT`. -/
def offerOutput (deviceContext : DeviceContext) (offerCommand : FwUpdateOfferCommand) :
    FwUpdateOfferResponse × DeviceContext :=
  let status := offerStatus values deviceContext offerCommand
  (offerResponse status.1 status.2.1 offerCommand.token, status.2.2)

/-- The case {lit}`REPORT_ID_PAYLOAD_OUTPUT`. -/
def payloadOutput (deviceContext : DeviceContext) (contentCommand : FwUpdateContentCommand) :
    FwUpdateContentResponse × DeviceContext :=
  (contentResponse values.success contentCommand.sequenceNumber,
    if contentCommand.flags &&& values.flagLastBlock ≠ 0 then deviceContext.commit
    else deviceContext)

/-- How a write report is completed; the response of one that succeeds is in the queue. -/
inductive WriteOutcome where
  | invalidDeviceRequest
  | fetchFailed
  | enqueued (responseBuffer : ResponseBuffer)
deriving DecidableEq, Repr

/-- {lit}`CfuDevice_WriteReport`, when {lit}`DMF_BufferQueue_Fetch` has a buffer or has
none. -/
def cfuDeviceWriteReport (deviceContext : DeviceContext) (fetched : Bool)
    (packet : HidXferPacket) : WriteOutcome × DeviceContext :=
  if packet.reportBufferLen < sizeofOutputReportLength + reportIdLength then
    (.invalidDeviceRequest, deviceContext)
  else if packet.reportId ≠ reportIdPayloadOutput ∧ packet.reportId ≠ reportIdOfferOutput then
    (.invalidDeviceRequest, deviceContext)
  else if !fetched then
    (.fetchFailed, deviceContext)
  else if packet.reportId = reportIdOfferOutput then
    let answer := offerOutput values deviceContext
      (.ofBytes (packet.structureBytes fwUpdateOfferCommandLength))
    (.enqueued (.offer answer.1), answer.2)
  else
    let answer := payloadOutput values deviceContext
      (.ofBytes (packet.structureBytes fwUpdateContentCommandLength))
    (.enqueued (.content answer.1), answer.2)

/-- The versions that the device reports. -/
def firmwareVersionResponse (deviceContext : DeviceContext) : GetFwVersionResponse where
  reportId := reportIdVersionsFeature
  componentCount := UInt8.ofNat numberOfComponents
  protocolRevision := 2
  componentVersionsAndProperty :=
    [⟨deviceContext.componentVersion 0, deviceContext.componentIds 0⟩,
      ⟨deviceContext.componentVersion 1, deviceContext.componentIds 1⟩] ++
      List.replicate 5 ⟨zeroVersion, 0⟩

/-- {lit}`CfuDevice_GetFeatureReport` -/
def cfuDeviceGetFeatureReport (deviceContext : DeviceContext) (packet : HidXferPacket) :
    Option GetFwVersionResponse :=
  if packet.reportBufferLen < getFwVersionResponseLength then none
  else if packet.reportId ≠ reportIdVersionsFeature then none
  else some (firmwareVersionResponse deviceContext)

/-! ## Runs -/

/-- What the host asks of the device. -/
inductive Request where
  | writeReport (fetched : Bool) (packet : HidXferPacket)
  | getFeatureReport (packet : HidXferPacket)

inductive Completion where
  | writeReport (outcome : WriteOutcome)
  | getFeatureReport (response : Option GetFwVersionResponse)
deriving DecidableEq, Repr

/-- One request of a run. -/
def step (deviceContext : DeviceContext) : Request → Completion × Option DeviceContext
  | .writeReport fetched packet =>
      let result := cfuDeviceWriteReport values deviceContext fetched packet
      (.writeReport result.1, some result.2)
  | .getFeatureReport packet =>
      (.getFeatureReport (cfuDeviceGetFeatureReport deviceContext packet), some deviceContext)

end Device

/-- A request of a run, with the device before and after it. -/
abbrev DeviceTransition :=
  Transition DeviceContext Request Completion

/-! ## Commands -/

/-- A command that the device takes. -/
inductive Command where
  | offer (offerCommand : FwUpdateOfferCommand)
  | content (contentCommand : FwUpdateContentCommand)

/-- The command of a request, unless the device refuses the request or the request is
for the versions. -/
def Request.command : Request → Option Command
  | .getFeatureReport _ => none
  | .writeReport fetched packet =>
      if packet.reportBufferLen < sizeofOutputReportLength + reportIdLength then none
      else if !fetched then none
      else if packet.reportId = reportIdOfferOutput then
        some (.offer (.ofBytes (packet.structureBytes fwUpdateOfferCommandLength)))
      else if packet.reportId = reportIdPayloadOutput then
        some (.content (.ofBytes (packet.structureBytes fwUpdateContentCommandLength)))
      else none

/-- An offer that is neither an information nor an extended command. -/
def FwUpdateOfferCommand.Ordinary (offerCommand : FwUpdateOfferCommand) : Prop :=
  offerCommand.componentId ≠ 0xFF ∧ offerCommand.componentId ≠ 0xFE

section Steps

variable {values : ComponentFirmwareUpdate} {deviceContext deviceContext' : DeviceContext}
  {request : Request} {offerCommand : FwUpdateOfferCommand}
  {contentCommand : FwUpdateContentCommand}

/-- Offers and content commands come under different report ids. -/
theorem reportIdOfferOutput_ne : reportIdOfferOutput ≠ reportIdPayloadOutput := by
  decide

/-- A command comes in a packet that is long enough, under its report id, and there was a
buffer for the response. -/
theorem command_writeReport {fetched : Bool} {packet : HidXferPacket} {command : Command}
    (h : (Request.writeReport fetched packet).command = some command) :
    ¬ packet.reportBufferLen < sizeofOutputReportLength + reportIdLength ∧ fetched = true ∧
      ((packet.reportId = reportIdOfferOutput ∧
          command = .offer (.ofBytes (packet.structureBytes fwUpdateOfferCommandLength))) ∨
        (packet.reportId = reportIdPayloadOutput ∧
          command = .content (.ofBytes (packet.structureBytes fwUpdateContentCommandLength)))) := by
  by_cases hlength : packet.reportBufferLen < sizeofOutputReportLength + reportIdLength
  · simp [Request.command, hlength] at h
  · cases fetched with
    | false => simp [Request.command] at h
    | true =>
        refine ⟨hlength, rfl, ?_⟩
        by_cases hoffer : packet.reportId = reportIdOfferOutput
        · simp [Request.command, hlength, hoffer] at h
          exact .inl ⟨hoffer, h.symm⟩
        · by_cases hpayload : packet.reportId = reportIdPayloadOutput
          · simp [Request.command, hlength, hpayload, reportIdOfferOutput_ne.symm] at h
            exact .inr ⟨hpayload, h.symm⟩
          · simp [Request.command, hlength, hpayload, hoffer] at h

theorem step_of_offer (h : request.command = some (.offer offerCommand)) :
    step values deviceContext request =
      (.writeReport (.enqueued (.offer (offerOutput values deviceContext offerCommand).1)),
        some (offerOutput values deviceContext offerCommand).2) := by
  cases request with
  | getFeatureReport packet => simp [Request.command] at h
  | writeReport fetched packet =>
      obtain ⟨hlength, rfl, ⟨hoffer, hcommand⟩ | ⟨-, hcommand⟩⟩ := command_writeReport h
      · cases hcommand
        simp [step, cfuDeviceWriteReport, hlength, hoffer]
      · cases hcommand

theorem step_of_content (h : request.command = some (.content contentCommand)) :
    step values deviceContext request =
      (.writeReport (.enqueued (.content (payloadOutput values deviceContext contentCommand).1)),
        some (payloadOutput values deviceContext contentCommand).2) := by
  cases request with
  | getFeatureReport packet => simp [Request.command] at h
  | writeReport fetched packet =>
      obtain ⟨hlength, rfl, ⟨-, hcommand⟩ | ⟨hpayload, hcommand⟩⟩ := command_writeReport h
      · cases hcommand
      · cases hcommand
        simp [step, cfuDeviceWriteReport, hlength, hpayload, reportIdOfferOutput_ne.symm]

/-- Any other request leaves the device alone. -/
theorem step_of_none (h : request.command = none) :
    (step values deviceContext request).2 = some deviceContext := by
  cases request with
  | getFeatureReport packet => rfl
  | writeReport fetched packet =>
      by_cases hlength : packet.reportBufferLen < sizeofOutputReportLength + reportIdLength
      · simp [step, cfuDeviceWriteReport, hlength]
      · cases fetched with
        | false => simp [step, cfuDeviceWriteReport, hlength, apply_ite]
        | true =>
            by_cases hoffer : packet.reportId = reportIdOfferOutput
            · simp [Request.command, hlength, hoffer] at h
            · by_cases hpayload : packet.reportId = reportIdPayloadOutput
              · simp [Request.command, hlength, hpayload, reportIdOfferOutput_ne.symm] at h
              · simp [step, cfuDeviceWriteReport, hlength, hpayload, hoffer]

/-- The answer to an ordinary offer. -/
theorem offerStatus_of_ordinary (hordinary : offerCommand.Ordinary) :
    offerStatus values deviceContext offerCommand =
      if deviceContext.componentsUpdated deviceContext.currentComponentIndex then
        (values.offerReject, values.offerRejectSwapPending, deviceContext)
      else if deviceContext.componentIds deviceContext.currentComponentIndex =
          offerCommand.componentId then
        (values.offerAccept, 0, deviceContext.savePending offerCommand.version)
      else (values.offerReject, values.offerRejectInvMcu, deviceContext) := by
  rw [offerStatus, if_neg hordinary.1, if_neg hordinary.2]
  by_cases hupdated : deviceContext.componentsUpdated deviceContext.currentComponentIndex = true
  · simp [hupdated]
  · by_cases hid : deviceContext.componentIds deviceContext.currentComponentIndex =
        offerCommand.componentId
    · simp [hupdated, hid]
    · simp [hupdated, hid]

/-- An ordinary offer is accepted if it is for the current component and that is not
updated. -/
theorem offerStatus_eq_offerAccept_iff (hordinary : offerCommand.Ordinary) :
    (offerStatus values deviceContext offerCommand).1 = values.offerAccept ↔
      deviceContext.componentsUpdated deviceContext.currentComponentIndex = false ∧
        deviceContext.componentIds deviceContext.currentComponentIndex =
          offerCommand.componentId := by
  have hreject := values.offerAccept_ne_offerReject.symm
  rw [offerStatus_of_ordinary hordinary]
  by_cases hupdated : deviceContext.componentsUpdated deviceContext.currentComponentIndex = true
  · simp [hupdated, hreject]
  · by_cases hid : deviceContext.componentIds deviceContext.currentComponentIndex =
        offerCommand.componentId
    · simp [hupdated, hid]
    · simp [hupdated, hid, hreject]

/-- Information and extended commands do not change the device. -/
theorem offerStatus_of_not_ordinary (hspecial : ¬ offerCommand.Ordinary) :
    offerStatus values deviceContext offerCommand = (values.offerAccept, 0, deviceContext) := by
  unfold FwUpdateOfferCommand.Ordinary at hspecial
  by_cases hinformation : offerCommand.componentId = 0xFF
  · rw [offerStatus, if_pos hinformation]
  · by_cases hextended : offerCommand.componentId = 0xFE
    · rw [offerStatus, if_neg hinformation, if_pos hextended]
    · exact absurd ⟨hinformation, hextended⟩ hspecial

/-- The request offers this version to the component of this index, which is the current
one and was not updated. -/
def Offers (t : DeviceTransition) (i : ℕ) (version : ComponentVersion) : Prop :=
  ∃ offerCommand, t.event.command = some (.offer offerCommand) ∧ offerCommand.Ordinary ∧
    offerCommand.version = version ∧ t.before.currentComponentIndex = i ∧
    t.before.componentsUpdated i = false ∧ t.before.componentIds i = offerCommand.componentId

/-- The request is a content command with the flag of the last block. -/
def TakesLastBlock (values : ComponentFirmwareUpdate) (request : Request) : Prop :=
  ∃ contentCommand, request.command = some (.content contentCommand) ∧
    contentCommand.flags &&& values.flagLastBlock ≠ 0

/-- What a request does: it leaves the device alone, saves the version that it offers, or
commits the pending version of the current component. -/
inductive Effect (values : ComponentFirmwareUpdate) (deviceContext : DeviceContext)
    (request : Request) : DeviceContext → Prop where
  | nothing
      (offers : ∀ i version,
        ¬ Offers (transition (step values) deviceContext request) i version)
      (lastBlock : ¬ TakesLastBlock values request) :
      Effect values deviceContext request deviceContext
  | saves (version : ComponentVersion)
      (offers : Offers (transition (step values) deviceContext request)
        deviceContext.currentComponentIndex version)
      (lastBlock : ¬ TakesLastBlock values request) :
      Effect values deviceContext request (deviceContext.savePending version)
  | commits
      (offers : ∀ i version,
        ¬ Offers (transition (step values) deviceContext request) i version)
      (lastBlock : TakesLastBlock values request) :
      Effect values deviceContext request deviceContext.commit

theorem effect_of_none (h : request.command = none) :
    Effect values deviceContext request deviceContext := by
  apply Effect.nothing
  · rintro i version ⟨offerCommand, hoffer, -⟩
    simp [h] at hoffer
  · rintro ⟨contentCommand, hcontent, -⟩
    simp [h] at hcontent

theorem effect_of_content (h : request.command = some (.content contentCommand)) :
    Effect values deviceContext request
      (payloadOutput values deviceContext contentCommand).2 := by
  have hoffers : ∀ i version,
      ¬ Offers (transition (step values) deviceContext request) i version := by
    rintro i version ⟨offerCommand, hoffer, -⟩
    simp [h] at hoffer
  by_cases hlast : contentCommand.flags &&& values.flagLastBlock = 0
  · have hafter : (payloadOutput values deviceContext contentCommand).2 = deviceContext := by
      simp [payloadOutput, hlast]
    rw [hafter]
    apply Effect.nothing hoffers
    rintro ⟨contentCommand', hcontent, hflag⟩
    rw [h, Option.some.injEq, Command.content.injEq] at hcontent
    rw [← hcontent] at hflag
    exact hflag hlast
  · have hafter : (payloadOutput values deviceContext contentCommand).2 =
        deviceContext.commit := by
      simp [payloadOutput, hlast]
    rw [hafter]
    exact Effect.commits hoffers ⟨contentCommand, h, hlast⟩

/-- An offer is for a component exactly when it is ordinary, and the component is the
current one, not updated and the one that the offer names. -/
theorem offers_iff (h : request.command = some (.offer offerCommand)) (i : ℕ)
    (version : ComponentVersion) :
    Offers (transition (step values) deviceContext request) i version ↔
      offerCommand.Ordinary ∧ offerCommand.version = version ∧
        deviceContext.currentComponentIndex = i ∧ deviceContext.componentsUpdated i = false ∧
        deviceContext.componentIds i = offerCommand.componentId := by
  constructor
  · rintro ⟨offerCommand', hoffer, hoffers⟩
    rw [transition_event, h, Option.some.injEq, Command.offer.injEq] at hoffer
    rw [hoffer]
    exact hoffers
  · intro hoffers
    exact ⟨offerCommand, h, hoffers⟩

theorem effect_of_offer (h : request.command = some (.offer offerCommand)) :
    Effect values deviceContext request (offerOutput values deviceContext offerCommand).2 := by
  have hlast : ¬ TakesLastBlock values request := by
    rintro ⟨contentCommand, hcontent, -⟩
    simp [h] at hcontent
  show Effect values deviceContext request (offerStatus values deviceContext offerCommand).2.2
  by_cases hordinary : offerCommand.Ordinary
  · rw [offerStatus_of_ordinary hordinary]
    by_cases hupdated :
        deviceContext.componentsUpdated deviceContext.currentComponentIndex = true
    · rw [if_pos hupdated]
      apply Effect.nothing _ hlast
      intro i version hoffers
      obtain ⟨-, -, rfl, hnot, -⟩ := (offers_iff h i version).mp hoffers
      rw [hupdated] at hnot
      cases hnot
    · rw [if_neg hupdated]
      by_cases hid : deviceContext.componentIds deviceContext.currentComponentIndex =
          offerCommand.componentId
      · rw [if_pos hid]
        apply Effect.saves offerCommand.version _ hlast
        apply (offers_iff h _ _).mpr
        exact ⟨hordinary, rfl, rfl, by simpa using hupdated, hid⟩
      · rw [if_neg hid]
        apply Effect.nothing _ hlast
        intro i version hoffers
        obtain ⟨-, -, rfl, -, hsame⟩ := (offers_iff h i version).mp hoffers
        exact hid hsame
  · rw [offerStatus_of_not_ordinary hordinary]
    apply Effect.nothing _ hlast
    intro i version hoffers
    exact hordinary ((offers_iff h i version).mp hoffers).1

/-- Every request has one of these effects. -/
theorem step_effect
    (hafter : (step values deviceContext request).2 = some deviceContext') :
    Effect values deviceContext request deviceContext' := by
  cases hcommand : request.command with
  | none =>
      rw [step_of_none hcommand, Option.some.injEq] at hafter
      rw [← hafter]
      exact effect_of_none hcommand
  | some command =>
      cases command with
      | offer offerCommand =>
          rw [step_of_offer hcommand, Option.some.injEq] at hafter
          rw [← hafter]
          exact effect_of_offer hcommand
      | content contentCommand =>
          rw [step_of_content hcommand, Option.some.injEq] at hafter
          rw [← hafter]
          exact effect_of_content hcommand

/-- A last block is always taken. -/
theorem step_of_takesLastBlock (h : TakesLastBlock values request) :
    (step values deviceContext request).2 = some deviceContext.commit := by
  obtain ⟨contentCommand, hcontent, hflag⟩ := h
  rw [step_of_content hcontent]
  simp [payloadOutput, hflag]

/-! ## Devices that were started -/

/-- The current component is one of the components, and they have the ids that they were
given at the start. -/
structure Started (deviceContext : DeviceContext) : Prop where
  currentComponentIndex_lt : deviceContext.currentComponentIndex < numberOfComponents
  componentIds : deviceContext.componentIds = startedDevice.componentIds

theorem started_startedDevice : Started startedDevice where
  currentComponentIndex_lt := Nat.zero_lt_two
  componentIds := rfl

theorem lt_numberOfComponents_iff (i : ℕ) : i < numberOfComponents ↔ i = 0 ∨ i = 1 := by
  unfold numberOfComponents
  omega

/-- The two components have different ids. -/
theorem startedDevice_componentIds_injective {i j : ℕ} (hi : i < numberOfComponents)
    (hj : j < numberOfComponents)
    (h : startedDevice.componentIds i = startedDevice.componentIds j) : i = j := by
  rw [lt_numberOfComponents_iff] at hi hj
  have hne : startedDevice.componentIds 0 ≠ startedDevice.componentIds 1 := by decide
  rcases hi with rfl | rfl
  · rcases hj with rfl | rfl
    · rfl
    · exact absurd h hne
  · rcases hj with rfl | rfl
    · exact absurd h.symm hne
    · rfl

/-- A request keeps the current component in range and the ids as they are. -/
theorem Started.step (hstarted : Started deviceContext)
    (hafter : (Simulator.step values deviceContext request).2 = some deviceContext') :
    Started deviceContext' := by
  cases step_effect hafter with
  | nothing => exact hstarted
  | saves version => exact ⟨hstarted.currentComponentIndex_lt, hstarted.componentIds⟩
  | commits => exact ⟨Nat.mod_lt _ Nat.zero_lt_two, hstarted.componentIds⟩

/-- The device accepts an ordinary offer of this version for this component id. -/
def Accepts (values : ComponentFirmwareUpdate) (t : DeviceTransition) (componentId : UInt8)
    (version : ComponentVersion) : Prop :=
  ∃ offerCommand response, t.event.command = some (.offer offerCommand) ∧
    offerCommand.Ordinary ∧ offerCommand.componentId = componentId ∧
    offerCommand.version = version ∧
    t.output = .writeReport (.enqueued (.offer response)) ∧ response.status = values.offerAccept

/-- A started device accepts the ordinary offers for the current component that is not
updated, and no others. -/
theorem accepts_iff_offers (hstarted : Started deviceContext) {i : ℕ}
    (hi : i < numberOfComponents) (version : ComponentVersion) :
    Accepts values (transition (step values) deviceContext request)
        (startedDevice.componentIds i) version ↔
      Offers (transition (step values) deviceContext request) i version := by
  constructor
  · rintro ⟨offerCommand, response, hoffer, hordinary, hid, hversion, hanswer, hstatus⟩
    rw [transition_event] at hoffer
    rw [transition_output, step_of_offer hoffer] at hanswer
    cases hanswer
    obtain ⟨hupdated, hcurrent⟩ := (offerStatus_eq_offerAccept_iff hordinary).mp hstatus
    have hindex : deviceContext.currentComponentIndex = i := by
      apply startedDevice_componentIds_injective hstarted.currentComponentIndex_lt hi
      rw [← hstarted.componentIds, hcurrent, hid, hstarted.componentIds]
    rw [offers_iff hoffer]
    rw [hindex] at hupdated hcurrent
    exact ⟨hordinary, hversion, hindex, hupdated, hcurrent⟩
  · rintro ⟨offerCommand, hoffer, hordinary, hversion, hindex, hupdated, hid⟩
    rw [transition_event] at hoffer
    rw [transition_before] at hindex hupdated hid
    have hcomponent : offerCommand.componentId = startedDevice.componentIds i := by
      rw [← hid, hstarted.componentIds]
    have hanswer : (transition (step values) deviceContext request).output =
        .writeReport (.enqueued (.offer (offerOutput values deviceContext offerCommand).1)) := by
      rw [transition_output, step_of_offer hoffer]
    rw [← hindex] at hupdated hid
    exact ⟨offerCommand, _, hoffer, hordinary, hcomponent, hversion, hanswer,
      (offerStatus_eq_offerAccept_iff hordinary).mpr ⟨hupdated, hid⟩⟩

end Steps

end Simulator
end CFU
