import CFU.Firmware.Platform

/-!
# CFU firmware - the update engine

The functions of {lit}`ComponentFwUpdate.c` as programs over the static
variables.  A content command is dispatched on its flags alone; an offer is
answered by one arm of a chain of guards or shown to the first registration
with its component id.

Main results:

- Definition {lit}`processCFWUContent`: {lit}`ProcessCFWUContent`.
- Definition {lit}`processCFWUOffer`: {lit}`ProcessCFWUOffer`.
- Definition {lit}`step`: one entry point called on one event.
-/

namespace CFU
namespace Firmware

variable {W : Type} {n : ℕ}

/-! ## Callbacks and initialization -/

/-- The update in progress, if any, is over. -/
def EngineState.endUpdate (s : EngineState n) : EngineState n :=
  { s with currentOffer := { s.currentOffer with updateInProgress := false } }

/-- {lit}`_ReadCompleteCallback` -/
def readCompleteCallback : EngineM W n Unit :=
  modifyEngine EngineState.endUpdate

/-- {lit}`_UpdateTimerCallback` -/
def updateTimerCallback : EngineM W n Unit := do
  modifyEngine EngineState.endUpdate
  bspTimerStop (← getEngine).updateTimer

/-- {lit}`FirmwareUpdateInit` -/
def firmwareUpdateInit : EngineM W n UInt32 := do
  let timer ← bspTimerCreate maxFwUpdateTimeFailSafeMs
  modifyEngine fun s => { s with updateTimer := timer }
  bspTimerStop timer
  return 0

/-- {lit}`IComponentFirmwareUpdateRegisterComponent` -/
def iComponentFirmwareUpdateRegisterComponent (pRegistration : Option (Fin n)) :
    EngineM W n Unit := do
  match pRegistration with
  | none => return
  | some r =>
      modifyEngine fun s =>
        { s with
          pNext := Function.update s.pNext r s.pFirstComponentIFace
          pFirstComponentIFace := some r }

/-! ## Calls through a registration -/

section Component

variable (P : Platform W n)

def callProcessOffer (pRegistration : Fin n) (pCommand : FwUpdateOfferCommand)
    (pResponse : FwUpdateOfferResponse) : EngineM W n (McuStatus × FwUpdateOfferResponse) :=
  external ((P.registration pRegistration).interface.processOffer pCommand pResponse)
    fun r => .processOffer pRegistration pCommand r.2

def callGetCrcOffset (pRegistration : Fin n) (crcOffset : UInt32) :
    EngineM W n (McuStatus × UInt32) :=
  external ((P.registration pRegistration).interface.getCrcOffset crcOffset)
    fun r => .getCrcOffset pRegistration r.1 r.2

/-- The component may call the completion handler before it returns. -/
def callNotifySuccess (pRegistration : Option (Fin n)) (forceReset : Bool) :
    EngineM W n McuStatus := do
  match pRegistration with
  | none => halt .nullDereference
  | some r =>
      let result ← external ((P.registration r).interface.notifySuccess forceReset)
        (.notifySuccess r forceReset)
      if result.readCompleted then
        readCompleteCallback
      return result.status

end Component

/-! ## Content commands -/

section Content

variable (P : Platform W n)

/-- The branch of {lit}`ProcessCFWUContent` for the first block. -/
def processFirstBlock (pCommand : FwUpdateContentCommand) (componentId : UInt8) :
    EngineM W n UInt8 := do
  if (← iCompFwUpdateBspPrepare P componentId) == 0 then
    if (← iCompFwUpdateBspWrite P pCommand.address pCommand.pData pCommand.length
        componentId) != 0 then
      return firmwareUpdateStatusErrorWrite
    return firmwareUpdateStatusSuccess
  else
    return firmwareUpdateStatusErrorPrepare

/-- The CRC check and the authentication of the last block's branch. -/
def validateImage (componentId : UInt8) (getCrcOffsetResult : McuStatus)
    (crcOffset : UInt32) : EngineM W n UInt8 := do
  if !mcuSuccess getCrcOffsetResult then
    return firmwareUpdateStatusErrorInvalid
  else if getCrcOffsetResult != mcuStatusCfuCrcCheckNotRequired then
    let (calcResult, calculatedCrc) ← iCompFwUpdateBspCalcCRC P componentId
    if calcResult != 0 then
      return firmwareUpdateStatusErrorCrc
    let (readResult, crc) ← iCompFwUpdateBspRead P crcOffset 2 componentId
    if readResult != 0 then
      return firmwareUpdateStatusErrorCrc
    if crc != calculatedCrc then
      return firmwareUpdateStatusErrorCrc
    if (← iCompFwUpdateBspAuthenticateFWImage P) != 0 then
      return firmwareUpdateStatusErrorSignature
    return firmwareUpdateStatusSuccess
  else
    if (← iCompFwUpdateBspAuthenticateFWImage P) != 0 then
      return firmwareUpdateStatusErrorSignature
    return firmwareUpdateStatusSuccess

/-- Notify the component of its validated image. -/
def notifyComponent (pRegistration : Option (Fin n)) : EngineM W n UInt8 := do
  let forceReset := (← getEngine).currentOffer.forceReset
  if mcuSuccess (← callNotifySuccess P pRegistration forceReset) then
    modifyEngine fun s => { s with bankSwapPending := true }
    return firmwareUpdateStatusSuccess
  else
    return firmwareUpdateStatusErrorComplete

/-- The last block's branch after its block is written: find the component, ask
for the CRC offset, validate the image and notify the component. -/
def completeImage (componentId : UInt8) : EngineM W n UInt8 := do
  let pRegistration ← findRegistration P componentId
  let (getCrcOffsetResult, crcOffset) ←
    match pRegistration with
    | some r => callGetCrcOffset P r 0
    | none => pure (mcuStatusDefaultError, 0)
  let status ← validateImage P componentId getCrcOffsetResult crcOffset
  if status == firmwareUpdateStatusSuccess then
    notifyComponent P pRegistration
  else
    return status

/-- The branch of {lit}`ProcessCFWUContent` for the last block. -/
def processLastBlock (pCommand : FwUpdateContentCommand) (componentId : UInt8) :
    EngineM W n UInt8 := do
  if (← iCompFwUpdateBspWrite P pCommand.address pCommand.pData pCommand.length
      componentId) == 0 then
    completeImage P componentId
  else
    return firmwareUpdateStatusErrorWrite

/-- The branch of {lit}`ProcessCFWUContent` for any other block. -/
def processMiddleBlock (pCommand : FwUpdateContentCommand) (componentId : UInt8) :
    EngineM W n UInt8 := do
  if (← iCompFwUpdateBspWrite P pCommand.address pCommand.pData pCommand.length
      componentId) != 0 then
    return firmwareUpdateStatusErrorWrite
  return firmwareUpdateStatusSuccess

/-- The dispatch of {lit}`ProcessCFWUContent` on the flags of the command. -/
def processBlock (pCommand : FwUpdateContentCommand) (componentId : UInt8) :
    EngineM W n UInt8 :=
  if pCommand.isFirstBlock then
    processFirstBlock P pCommand componentId
  else if pCommand.isLastBlock then
    processLastBlock P pCommand componentId
  else
    processMiddleBlock P pCommand componentId

/-- The response to a content command. -/
def contentResponse (pCommand : FwUpdateContentCommand) (status : UInt8) :
    FwUpdateContentResponse :=
  { FwUpdateContentResponse.zero with
    sequenceNumber := pCommand.sequenceNumber
    status := status }

/-- {lit}`ProcessCFWUContent` -/
def processCFWUContent (pCommand : FwUpdateContentCommand) :
    EngineM W n FwUpdateContentResponse := do
  let componentId := (← getEngine).currentOffer.activeComponentId
  let status ← processBlock P pCommand componentId
  if status != firmwareUpdateStatusSuccess then
    modifyEngine EngineState.endUpdate
  return contentResponse pCommand status

end Content

/-! ## Offer commands -/

section Offer

variable (P : Platform W n)

/-- A response of the engine itself: everything but these three bytes is zero. -/
def offerResponse (pCommand : FwUpdateOfferCommand) (status rejectReasonCode : UInt8) :
    FwUpdateOfferResponse :=
  { FwUpdateOfferResponse.zero with
    status := status
    rejectReasonCode := rejectReasonCode
    token := pCommand.componentInfo.token }

/-- The engine turns a rejection of an old version around on request. -/
def overrideOldFw (pCommand : FwUpdateOfferCommand) (pResponse : FwUpdateOfferResponse) :
    FwUpdateOfferResponse :=
  if pCommand.componentInfo.forceIgnoreVersion && pResponse.status == firmwareUpdateOfferReject &&
      pResponse.rejectReasonCode == firmwareOfferRejectOldFw then
    { pResponse with status := firmwareUpdateOfferAccept }
  else
    pResponse

/-- An accepted offer becomes the current one. -/
def EngineState.startUpdate (s : EngineState n) (pCommand : FwUpdateOfferCommand) :
    EngineState n :=
  { s with
    currentOffer :=
      { activeComponentId := pCommand.componentInfo.componentId
        forceReset := pCommand.componentInfo.forceImmediateReset
        updateInProgress := true } }

/-- The search for the offer's component, and what happens when it is found. -/
def presentOffer (pCommand : FwUpdateOfferCommand) (pResponse : FwUpdateOfferResponse) :
    EngineM W n FwUpdateOfferResponse := do
  match ← findRegistration P pCommand.componentInfo.componentId with
  | none => return pResponse
  | some pRegistration =>
      let (_, reply) ← callProcessOffer P pRegistration pCommand pResponse
      let response := overrideOldFw pCommand reply
      if response.status == firmwareUpdateOfferAccept then
        bspTimerRestart (← getEngine).updateTimer
        modifyEngine fun s => s.startUpdate pCommand
      return response

/-- {lit}`ProcessCFWUOffer`.  The value of {lit}`pResponse` is what the caller's
buffer holds before the call. -/
def processCFWUOffer (pCommand : FwUpdateOfferCommand) (pResponse : FwUpdateOfferResponse) :
    EngineM W n FwUpdateOfferResponse := do
  let s ← getEngine
  if s.currentOffer.updateInProgress then
    return offerResponse pCommand firmwareUpdateOfferBusy firmwareUpdateOfferBusy
  else if pCommand.componentInfo.componentId == cfuSpecialOfferCmd then
    -- a special command other than GET_STATUS goes on to the registration list
    if pCommand.asSpecialOffer.commandCode == cfuSpecialOfferGetStatus then
      return offerResponse pCommand firmwareUpdateOfferCommandReady 0
    else
      presentOffer P pCommand pResponse
  else if s.bankSwapPending then
    return offerResponse pCommand firmwareUpdateOfferReject firmwareUpdateOfferSwapPending
  else
    presentOffer P pCommand pResponse

end Offer

/-! ## Events -/

/-- A call of one of the entry points.  An offer comes with the contents of the
buffer for its response. -/
inductive Event (n : ℕ) where
  | registerComponent (pRegistration : Option (Fin n))
  | firmwareUpdateInit
  | offer (pCommand : FwUpdateOfferCommand) (pResponse : FwUpdateOfferResponse)
  | content (pCommand : FwUpdateContentCommand)
  | readComplete
  | updateTimer
deriving DecidableEq, Repr

/-- What an entry point leaves for its caller. -/
inductive Response where
  | done
  | offer (pResponse : FwUpdateOfferResponse)
  | content (pResponse : FwUpdateContentResponse)
deriving DecidableEq, Repr

/-- The calls that an entry point made, and how it ended. -/
structure Output (n : ℕ) where
  calls : List (Call n)
  response : Except Halt Response

/-- The static variables and the world between two events. -/
structure Config (W : Type) (n : ℕ) where
  engine : EngineState n
  world : W

/-- Call the entry point of an event. -/
def runEvent (P : Platform W n) : Event n → EngineM W n Response
  | .registerComponent pRegistration => do
      iComponentFirmwareUpdateRegisterComponent pRegistration
      return .done
  | .firmwareUpdateInit => do
      let _ ← firmwareUpdateInit
      return .done
  | .offer pCommand pResponse => do
      return .offer (← processCFWUOffer P pCommand pResponse)
  | .content pCommand => do
      return .content (← processCFWUContent P pCommand)
  | .readComplete => do
      readCompleteCallback
      return .done
  | .updateTimer => do
      updateTimerCallback
      return .done

/-- One event of a run.  An entry point that never returns ends the run. -/
def step (P : Platform W n) (c : Config W n) (e : Event n) : Output n × Option (Config W n) :=
  match runEvent P e { engine := c.engine, world := c.world, calls := [] } with
  | .ok response sys => ⟨⟨sys.calls, .ok response⟩, some ⟨sys.engine, sys.world⟩⟩
  | .error reason sys => ⟨⟨sys.calls, .error reason⟩, none⟩

/-- The static variables at power on.  The links in the registration objects are
not initialized by the engine. -/
def EngineState.powerOn (pNext : Fin n → Option (Fin n)) : EngineState n where
  currentOffer := ⟨0, false, false⟩
  pFirstComponentIFace := none
  pNext := pNext
  updateTimer := 0
  bankSwapPending := false

end Firmware
end CFU
