import CFU.Tool.Reports
import CFU.Firmware.WireFormat

/-!
# CFU transfer - both sides read the same bytes

The tool and the firmware declare the structures of a report separately.  A
content report that the tool packs is unpacked by the firmware into the same
values, and the tool finds the status and the sequence number of a response
where the firmware puts them.

Main results:

- Theorem {lit}`decodeContentCommand_toBytes`: the firmware's view of a content
  report.
- Theorems {lit}`contentResponseStatus_overwrite` and
  {lit}`contentResponseSequenceNumber_overwrite`: the tool's view of a content
  response.
- Theorem {lit}`offerResponseStatus_overwrite`: the tool's view of an offer response.
-/

namespace CFU
namespace Transfer

open Firmware Tool LittleEndian Buffer

/-! ## Content -/

/-- The content command that the firmware receives for the tool's structure. -/
def receivedCommand (contentData : ContentData) : FwUpdateContentCommand where
  flags := contentData.flags
  length := contentData.length
  sequenceNumber := contentData.sequenceNumber
  address := contentData.address
  pData := contentData.data

/-- Behind the report id the firmware finds the fields of the tool's structure. -/
theorem decodeContentCommand_toBytes (contentData : ContentData) :
    decodeContentCommand (contentData.toBytes.drop 1) = receivedCommand contentData := by
  have hsequence : ((contentData.toBytes.drop 1).drop 2).take 2 =
      bytes 2 contentData.sequenceNumber.toNat :=
    rfl
  have haddress : ((contentData.toBytes.drop 1).drop 4).take 4 =
      bytes 4 contentData.address.toNat :=
    rfl
  rw [decodeContentCommand, wordAt, wordAt, hsequence, haddress]
  rw [value_bytes_uint16, UInt16.ofNat_toNat]
  rw [value_bytes_uint32, UInt32.ofNat_toNat]
  rfl

/-- The tool reads the status that the firmware wrote. -/
theorem contentResponseStatus_overwrite (inputReportBuffer : List UInt8) (id : UInt8)
    (pResponse : FwUpdateContentResponse) :
    contentResponseStatus (overwrite inputReportBuffer (id :: encodeContentResponse pResponse)) =
      pResponse.status :=
  rfl

/-- The tool reads the sequence number that the firmware wrote. -/
theorem contentResponseSequenceNumber_overwrite (inputReportBuffer : List UInt8) (id : UInt8)
    (pResponse : FwUpdateContentResponse) :
    contentResponseSequenceNumber
        (overwrite inputReportBuffer (id :: encodeContentResponse pResponse)) =
      pResponse.sequenceNumber := by
  have htake :
      ((overwrite inputReportBuffer (id :: encodeContentResponse pResponse)).drop 1).take 2 =
        bytes 2 pResponse.sequenceNumber.toNat :=
    rfl
  rw [contentResponseSequenceNumber, htake,
    value_bytes_uint16, UInt16.ofNat_toNat]

/-! ## Offers -/

/-- The tool reads the status that the firmware wrote. -/
theorem offerResponseStatus_overwrite (inputReportBuffer : List UInt8) (id : UInt8)
    (pResponse : FwUpdateOfferResponse) :
    offerResponseStatus (overwrite inputReportBuffer (id :: encodeOfferResponse pResponse)) =
      pResponse.status :=
  rfl

end Transfer
end CFU
