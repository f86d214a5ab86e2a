import CFU.Library.Bytes

/-!
# CFU simulator - reports

The packed structures that {lit}`CfuDevice.h` declares for the virtual device.
They start with the report id, and a response is a union of its structure with an
array of bytes that is longer than the structure.

Main results:

- Definitions {lit}`FwUpdateOfferCommand.ofBytes` and
  {lit}`FwUpdateContentCommand.ofBytes`: a received report as a command.
- Definitions {lit}`FwUpdateOfferResponse.asBytes` and
  {lit}`FwUpdateContentResponse.asBytes`: the bytes of a response.
-/

namespace CFU
namespace Simulator

open LittleEndian

/-! ## Versions -/

/-- {lit}`COMPONENT_VERSION` -/
structure ComponentVersion where
  variant : UInt8
  minorVersion : UInt16
  majorVersion : UInt8
deriving DecidableEq, Repr

/-- The union of {lit}`AsUInt32` and the three fields. -/
def ComponentVersion.ofUInt32 (asUInt32 : UInt32) : ComponentVersion where
  variant := (bytes 4 asUInt32.toNat).getD 0 0
  minorVersion := UInt16.ofNat (word 1 2 (bytes 4 asUInt32.toNat))
  majorVersion := (bytes 4 asUInt32.toNat).getD 3 0

/-! ## Offer commands -/

/-- The size of {lit}`FWUPDATE_OFFER_COMMAND` -/
def fwUpdateOfferCommandLength : ℕ := 17

/-- {lit}`FWUPDATE_OFFER_COMMAND`, as far as the device acts on it. -/
structure FwUpdateOfferCommand where
  componentId : UInt8
  token : UInt8
  version : ComponentVersion
deriving DecidableEq, Repr

def FwUpdateOfferCommand.ofBytes (report : List UInt8) : FwUpdateOfferCommand where
  componentId := report.getD 3 0
  token := report.getD 4 0
  version :=
    { variant := report.getD 5 0
      minorVersion := UInt16.ofNat (word 6 2 report)
      majorVersion := report.getD 8 0 }

/-! ## Content commands -/

/-- The size of {lit}`FWUPDATE_CONTENT_COMMAND` -/
def fwUpdateContentCommandLength : ℕ := 61

/-- The size of {lit}`FWUPDATE_CONTENT_COMMAND.Data` -/
def contentDataLength : ℕ := 52

/-- {lit}`FWUPDATE_CONTENT_COMMAND` -/
structure FwUpdateContentCommand where
  reportId : UInt8
  flags : UInt8
  length : UInt8
  sequenceNumber : UInt16
  address : UInt32
  data : List UInt8
deriving DecidableEq, Repr

def FwUpdateContentCommand.ofBytes (report : List UInt8) : FwUpdateContentCommand where
  reportId := report.getD 0 0
  flags := report.getD 1 0
  length := report.getD 2 0
  sequenceNumber := UInt16.ofNat (word 3 2 report)
  address := UInt32.ofNat (word 5 4 report)
  data := (report.drop 9).take contentDataLength

/-! ## Responses -/

/-- {lit}`HID_CFU_OFFER_RESPONSE_LENGTH_BYTES` and
{lit}`HID_CFU_CONTENT_RESPONSE_LENGTH_BYTES` -/
def hidCfuResponseLengthBytes : ℕ := 17

/-- {lit}`FWUPDATE_OFFER_RESPONSE`.  The last byte of {lit}`AsBytes` lies behind the
structure. -/
structure FwUpdateOfferResponse where
  reportId : UInt8
  reserved0 : BitVec 24
  token : UInt8
  reserved1 : UInt32
  rejectReasonCode : UInt8
  reserved2 : BitVec 24
  status : UInt8
  reserved3 : BitVec 16
  behind : UInt8
deriving DecidableEq, Repr

def FwUpdateOfferResponse.asBytes (response : FwUpdateOfferResponse) : List UInt8 :=
  [response.reportId] ++ bytes 3 response.reserved0.toNat ++ [response.token] ++
    bytes 4 response.reserved1.toNat ++ [response.rejectReasonCode] ++
    bytes 3 response.reserved2.toNat ++ [response.status] ++
    bytes 2 response.reserved3.toNat ++ [response.behind]

/-- {lit}`FWUPDATE_CONTENT_RESPONSE`.  The last four bytes of {lit}`AsBytes` lie
behind the structure. -/
structure FwUpdateContentResponse where
  reportId : UInt8
  sequenceNumber : UInt16
  reserved0 : UInt16
  status : UInt8
  reserved1 : BitVec 24
  reserved2 : UInt32
  behind : BitVec 32
deriving DecidableEq, Repr

def FwUpdateContentResponse.asBytes (response : FwUpdateContentResponse) : List UInt8 :=
  [response.reportId] ++ bytes 2 response.sequenceNumber.toNat ++
    bytes 2 response.reserved0.toNat ++ [response.status] ++
    bytes 3 response.reserved1.toNat ++ bytes 4 response.reserved2.toNat ++
    bytes 4 response.behind.toNat

/-- {lit}`COMPONENT_VERSION_AND_PROPERTY`, without the bits of the property that are
always zero. -/
structure ComponentVersionAndProperty where
  componentVersion : ComponentVersion
  componentId : UInt8
deriving DecidableEq, Repr

/-- The size of {lit}`GET_FWVERSION_RESPONSE` -/
def getFwVersionResponseLength : ℕ := 61

/-- {lit}`GET_FWVERSION_RESPONSE`, with the fields of its header. -/
structure GetFwVersionResponse where
  reportId : UInt8
  componentCount : UInt8
  protocolRevision : UInt8
  componentVersionsAndProperty : List ComponentVersionAndProperty
deriving DecidableEq, Repr

/-- Both unions have the size of their byte array. -/
@[simp]
theorem FwUpdateOfferResponse.length_asBytes (response : FwUpdateOfferResponse) :
    response.asBytes.length = hidCfuResponseLengthBytes := by
  simp [FwUpdateOfferResponse.asBytes, hidCfuResponseLengthBytes]

@[simp]
theorem FwUpdateContentResponse.length_asBytes (response : FwUpdateContentResponse) :
    response.asBytes.length = hidCfuResponseLengthBytes := by
  simp [FwUpdateContentResponse.asBytes, hidCfuResponseLengthBytes]

end Simulator
end CFU
