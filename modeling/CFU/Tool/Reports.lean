import CFU.Library.Bytes

/-!
# CFU tool - reports and the device

The standalone tool exchanges HID reports with a device.  The structures that
it sends and reads are packed, so each is given by its bytes; the device is
whatever takes an output report and delivers input reports.

Main results:

- Definition {lit}`ContentData.toBytes`: the bytes of a content report.
- Definitions {lit}`OfferData.ofBytes`, {lit}`OfferResponseReportBlob.ofBytes` and
  {lit}`ContentResponseReportBlob.ofBytes`: the casts from bytes to the packed structures.
- Structure {lit}`HidDevice`: the device as the tool sees it.
-/

namespace CFU
namespace Tool

open LittleEndian

/-! ## Values of the protocol -/

def firmwareUpdateFlagFirstBlock : UInt8 := 0x80
def firmwareUpdateFlagLastBlock : UInt8 := 0x40

def firmwareUpdateOfferAccept : UInt8 := 0x01
def firmwareUpdateOfferCommandReady : UInt8 := 0x04

def firmwareUpdateSuccess : UInt8 := 0x00

/-- {lit}`MAX_HID_CONTENT_PAYLOAD` -/
def maxHidContentPayload : ℕ := 52

/-- {lit}`REPORT_LENGTH_STANDARD` -/
def reportLengthStandard : ℕ := 61

/-! ## Settings -/

/-- The report id and the size of {lit}`HidReportIdInfo`. -/
structure HidReportIdInfo where
  id : UInt8
  size : UInt16
deriving DecidableEq, Repr

/-- The four entries of {lit}`CfuHidDeviceConfiguration.Reports` that an update
uses. -/
structure CfuHidDeviceConfiguration where
  fwUpdateOfferResponse : HidReportIdInfo
  fwUpdateContentResponse : HidReportIdInfo
  fwUpdateOffer : HidReportIdInfo
  fwUpdateContent : HidReportIdInfo
deriving DecidableEq, Repr

/-! ## Output reports -/

/-- {lit}`ContentData` -/
structure ContentData where
  id : UInt8
  flags : UInt8
  length : UInt8
  sequenceNumber : UInt16
  address : UInt32
  data : List UInt8
  data_length : data.length = maxHidContentPayload

/-- A zeroed {lit}`ContentData`. -/
def ContentData.zero : ContentData where
  id := 0
  flags := 0
  length := 0
  sequenceNumber := 0
  address := 0
  data := List.replicate maxHidContentPayload 0
  data_length := List.length_replicate

/-- The packed structure in memory. -/
def ContentData.toBytes (contentData : ContentData) : List UInt8 :=
  [contentData.id, contentData.flags, contentData.length] ++
    bytes 2 contentData.sequenceNumber.toNat ++ bytes 4 contentData.address.toNat ++
    contentData.data

/-- A content report fills a standard report. -/
@[simp]
theorem ContentData.length_toBytes (contentData : ContentData) :
    contentData.toBytes.length = reportLengthStandard := by
  simp [ContentData.toBytes, contentData.data_length, maxHidContentPayload,
    reportLengthStandard]

/-- The byte of an offer that holds six reserved bits and the two force bits,
after both were assigned. -/
def setForceBits (flagByte forceReset forceIgnoreVersion : UInt8) : UInt8 :=
  (flagByte &&& (0x3F : UInt8)) ||| ((forceReset &&& (1 : UInt8)) <<< (6 : UInt8)) |||
    ((forceIgnoreVersion &&& (1 : UInt8)) <<< (7 : UInt8))

/-- {lit}`offerDataUnion` when it is sent: the report id and sixteen bytes of the
offer file with the force bits replaced. -/
def offerData (id forceReset forceIgnoreVersion : UInt8) (readBuff : List UInt8) : List UInt8 :=
  [id, readBuff.getD 0 0, setForceBits (readBuff.getD 1 0) forceReset forceIgnoreVersion] ++
    readBuff.drop 2

/-! ## Input reports -/

/-- {lit}`OfferResponseReportBlob.status` -/
def offerResponseStatus (inputReportBuffer : List UInt8) : UInt8 :=
  inputReportBuffer.getD 13 0

/-- {lit}`ContentResponseReportBlob.sequenceNumber` -/
def contentResponseSequenceNumber (inputReportBuffer : List UInt8) : UInt16 :=
  UInt16.ofNat (value ((inputReportBuffer.drop 1).take 2))

/-- {lit}`ContentResponseReportBlob.status` -/
def contentResponseStatus (inputReportBuffer : List UInt8) : UInt8 :=
  inputReportBuffer.getD 5 0

/-! ## The packed structures -/

/-- {lit}`ComponentInfo` -/
structure ComponentInfo where
  segment : UInt8
  reserved : BitVec 6
  forceReset : BitVec 1
  forceIgnoreVersion : BitVec 1
  componentId : UInt8
  token : UInt8
deriving DecidableEq, Repr

/-- {lit}`ProductInfo` -/
structure ProductInfo where
  protocolRevision : BitVec 4
  bank : BitVec 2
  reserved0 : BitVec 2
  milestone : BitVec 4
  reserved1 : BitVec 4
  platformId : UInt16
deriving DecidableEq, Repr

/-- {lit}`OfferData` -/
structure OfferData where
  id : UInt8
  componentInfo : ComponentInfo
  version : UInt32
  compatVariantMask : UInt32
  productInfo : ProductInfo
deriving DecidableEq, Repr

def ComponentInfo.ofBytes (data : List UInt8) : ComponentInfo where
  segment := data.getD 0 0
  reserved := bitField 0 6 (data.getD 1 0).toNat
  forceReset := bitField 6 1 (data.getD 1 0).toNat
  forceIgnoreVersion := bitField 7 1 (data.getD 1 0).toNat
  componentId := data.getD 2 0
  token := data.getD 3 0

def ProductInfo.ofBytes (data : List UInt8) : ProductInfo where
  protocolRevision := bitField 0 4 (data.getD 0 0).toNat
  bank := bitField 4 2 (data.getD 0 0).toNat
  reserved0 := bitField 6 2 (data.getD 0 0).toNat
  milestone := bitField 0 4 (data.getD 1 0).toNat
  reserved1 := bitField 4 4 (data.getD 1 0).toNat
  platformId := UInt16.ofNat (word 2 2 data)

/-- {lit}`OfferDataUnion`: its {lit}`data` as {lit}`offerData`. -/
def OfferData.ofBytes (data : List UInt8) : OfferData where
  id := data.getD 0 0
  componentInfo := ComponentInfo.ofBytes (data.drop 1)
  version := UInt32.ofNat (word 5 4 data)
  compatVariantMask := UInt32.ofNat (word 9 4 data)
  productInfo := ProductInfo.ofBytes (data.drop 13)

/-- {lit}`OfferResponseReportBlob` -/
structure OfferResponseReportBlob where
  id : UInt8
  reserved0 : BitVec 24
  token : BitVec 8
  reserved1 : UInt32
  rrCode : BitVec 8
  reserved2 : BitVec 24
  status : BitVec 8
  reserved3 : BitVec 24
deriving DecidableEq, Repr

/-- The bit fields of this structure lie in words of four bytes. -/
def OfferResponseReportBlob.ofBytes (data : List UInt8) : OfferResponseReportBlob where
  id := data.getD 0 0
  reserved0 := bitField 0 24 (word 1 4 data)
  token := bitField 24 8 (word 1 4 data)
  reserved1 := UInt32.ofNat (word 5 4 data)
  rrCode := bitField 0 8 (word 9 4 data)
  reserved2 := bitField 8 24 (word 9 4 data)
  status := bitField 0 8 (word 13 4 data)
  reserved3 := bitField 8 24 (word 13 4 data)

/-- {lit}`ContentResponseReportBlob` -/
structure ContentResponseReportBlob where
  id : UInt8
  sequenceNumber : UInt16
  reserved0 : UInt16
  status : BitVec 8
  reserved1 : BitVec 24
  reserved2 : UInt32
  reserved3 : UInt32
deriving DecidableEq, Repr

def ContentResponseReportBlob.ofBytes (data : List UInt8) : ContentResponseReportBlob where
  id := data.getD 0 0
  sequenceNumber := UInt16.ofNat (word 1 2 data)
  reserved0 := UInt16.ofNat (word 3 2 data)
  status := bitField 0 8 (word 5 4 data)
  reserved1 := bitField 8 24 (word 5 4 data)
  reserved2 := UInt32.ofNat (word 9 4 data)
  reserved3 := UInt32.ofNat (word 13 4 data)

/-- {lit}`VersionFormat` -/
structure VersionFormat where
  variant : UInt8
  minor : UInt16
  major : UInt8
deriving DecidableEq, Repr

/-- The union of {lit}`dVersion` and {lit}`version` in {lit}`VersionReport`. -/
def VersionFormat.ofDVersion (dVersion : UInt32) : VersionFormat where
  variant := (bytes 4 dVersion.toNat).getD 0 0
  minor := UInt16.ofNat (word 1 2 (bytes 4 dVersion.toNat))
  major := (bytes 4 dVersion.toNat).getD 3 0

/-! ## The device -/

/-- A device: it takes output reports, and a wait for the read event either
times out or delivers the bytes of one input report. -/
structure HidDevice (D : Type) where
  setOutputReport (report : List UInt8) : D → Bool × D
  waitForReadEvent : D → Option (List UInt8) × D

end Tool
end CFU
