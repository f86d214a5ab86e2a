import Mathlib.Tactic.Common

/-!
# CFU firmware - commands and responses

The packed structures that the host exchanges with the firmware and the values
of their status, reason and flag bytes, as {lit}`ComponentFwUpdate.h` declares
them.  Bit fields are bit vectors of their own width; a reserved byte array is
one bit vector, so that a response buffer can hold any bytes.

Main results:

- Definition {lit}`FwUpdateOfferCommand.asSpecialOffer`: the cast that reads an
  offer as a special command.
- Definition {lit}`FwUpdateOfferCommand.isGetStatus`: the one special command
  that the engine answers itself.
-/

namespace CFU
namespace Firmware

/-! ## Values of the protocol -/

def cfuOfferMetadataInfoCmd : UInt8 := 0xFF
def cfuSpecialOfferCmd : UInt8 := 0xFE
def cfuSpecialOfferGetStatus : UInt8 := 0x03

def firmwareOfferRejectOldFw : UInt8 := 0x00
def firmwareUpdateOfferAccept : UInt8 := 0x01
def firmwareUpdateOfferReject : UInt8 := 0x02
def firmwareUpdateOfferBusy : UInt8 := 0x03
def firmwareUpdateOfferCommandReady : UInt8 := 0x04
def firmwareUpdateOfferSwapPending : UInt8 := 0x02

def firmwareUpdateFlagFirstBlock : UInt8 := 0x80
def firmwareUpdateFlagLastBlock : UInt8 := 0x40

def firmwareUpdateStatusSuccess : UInt8 := 0x00
def firmwareUpdateStatusErrorPrepare : UInt8 := 0x01
def firmwareUpdateStatusErrorWrite : UInt8 := 0x02
def firmwareUpdateStatusErrorComplete : UInt8 := 0x03
def firmwareUpdateStatusErrorCrc : UInt8 := 0x05
def firmwareUpdateStatusErrorSignature : UInt8 := 0x06
def firmwareUpdateStatusErrorInvalid : UInt8 := 0x0B

/-! ## Offers -/

/-- {lit}`FWUPDATE_OFFER_COMMAND.componentInfo` -/
structure ComponentInfo where
  segmentNumber : UInt8
  reserved0 : BitVec 6
  forceImmediateReset : Bool
  forceIgnoreVersion : Bool
  componentId : UInt8
  token : UInt8
deriving DecidableEq, Repr

/-- {lit}`FWUPDATE_OFFER_COMMAND.productInfo` -/
structure ProductInfo where
  protocolRevision : BitVec 4
  bank : BitVec 2
  reserved0 : BitVec 2
  milestone : BitVec 3
  reserved1 : BitVec 5
  productId : UInt16
deriving DecidableEq, Repr

/-- {lit}`FWUPDATE_OFFER_COMMAND` -/
structure FwUpdateOfferCommand where
  componentInfo : ComponentInfo
  version : UInt32
  hwVariantMask : UInt32
  productInfo : ProductInfo
deriving DecidableEq, Repr

/-- The first four bytes of {lit}`FWUPDATE_SPECIAL_OFFER_COMMAND`; the engine
reads nothing behind them. -/
structure SpecialOfferCommand where
  commandCode : UInt8
  reserved0 : UInt8
  shouldBe0xFE : UInt8
  token : UInt8
deriving DecidableEq, Repr

/-- The byte that holds the reserved bits and the two force bits. -/
def ComponentInfo.flagByte (info : ComponentInfo) : UInt8 :=
  UInt8.ofNat (info.reserved0.toNat + 64 * info.forceImmediateReset.toNat +
    128 * info.forceIgnoreVersion.toNat)

/-- The cast from an offer to a special offer keeps the bytes. -/
def FwUpdateOfferCommand.asSpecialOffer (pCommand : FwUpdateOfferCommand) :
    SpecialOfferCommand where
  commandCode := pCommand.componentInfo.segmentNumber
  reserved0 := pCommand.componentInfo.flagByte
  shouldBe0xFE := pCommand.componentInfo.componentId
  token := pCommand.componentInfo.token

/-- A special offer that asks for the status of the engine. -/
def FwUpdateOfferCommand.isGetStatus (pCommand : FwUpdateOfferCommand) : Bool :=
  pCommand.componentInfo.componentId == cfuSpecialOfferCmd &&
    pCommand.asSpecialOffer.commandCode == cfuSpecialOfferGetStatus

/-- An offer for a component with no version and no force bits. -/
def FwUpdateOfferCommand.plain (componentId token : UInt8) : FwUpdateOfferCommand where
  componentInfo := ⟨0, 0, false, false, componentId, token⟩
  version := 0
  hwVariantMask := 0
  productInfo := ⟨0, 0, 0, 0, 0, 0⟩

/-- {lit}`FWUPDATE_OFFER_RESPONSE` -/
structure FwUpdateOfferResponse where
  reserved0 : BitVec 24
  token : UInt8
  reserved1 : UInt32
  rejectReasonCode : UInt8
  reserved2 : BitVec 24
  status : UInt8
  reserved3 : BitVec 24
deriving DecidableEq, Repr

/-- The response after {lit}`memset(pResponse, 0, sizeof *pResponse)`. -/
def FwUpdateOfferResponse.zero : FwUpdateOfferResponse where
  reserved0 := 0
  token := 0
  reserved1 := 0
  rejectReasonCode := 0
  reserved2 := 0
  status := 0
  reserved3 := 0

/-! ## Content -/

/-- {lit}`FWUPDATE_CONTENT_COMMAND`.  The field {lit}`pData` lists the bytes from
the start of the data array on. -/
structure FwUpdateContentCommand where
  flags : UInt8
  length : UInt8
  sequenceNumber : UInt16
  address : UInt32
  pData : List UInt8
deriving DecidableEq, Repr

def FwUpdateContentCommand.isFirstBlock (pCommand : FwUpdateContentCommand) : Bool :=
  pCommand.flags &&& firmwareUpdateFlagFirstBlock != 0

def FwUpdateContentCommand.isLastBlock (pCommand : FwUpdateContentCommand) : Bool :=
  pCommand.flags &&& firmwareUpdateFlagLastBlock != 0

/-- A block of an image with these flags. -/
def FwUpdateContentCommand.block (flags : UInt8) (address : UInt32) (bytes : List UInt8) :
    FwUpdateContentCommand where
  flags := flags
  length := UInt8.ofNat bytes.length
  sequenceNumber := 0
  address := address
  pData := bytes

/-- {lit}`FWUPDATE_CONTENT_RESPONSE` -/
structure FwUpdateContentResponse where
  sequenceNumber : UInt16
  reserved0 : UInt16
  status : UInt8
  reserved1 : BitVec 24
  reserved2 : BitVec 64
deriving DecidableEq, Repr

def FwUpdateContentResponse.zero : FwUpdateContentResponse where
  sequenceNumber := 0
  reserved0 := 0
  status := 0
  reserved1 := 0
  reserved2 := 0

end Firmware
end CFU
