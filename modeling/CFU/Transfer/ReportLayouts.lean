import CFU.Simulator.Reports
import CFU.Tool.FwUpdate
import CFU.Transfer.WireAgreement

/-!
# CFU transfer - three declarations of one layout

The tool, the firmware and the simulator declare the structures of a report
separately: with bit fields of a byte, with bit fields of a word of four bytes, or
with arrays of bytes.  Field by field the declarations are compared here on every
buffer.

Main results:

- Theorem {lit}`offerWireFormat_agrees_iff`: the offer that the tool builds reads the
  same for the firmware exactly when bit 3 of its milestone byte is clear.
- Theorem {lit}`reportLayouts_agree`: content commands, both responses and version
  words read the same in all declarations.
-/

namespace CFU
namespace Transfer

open Firmware Tool LittleEndian Buffer

/-! ## Offers -/

/-- The shared fields of the two declarations of an offer have the same values. -/
structure OfferFieldsAgree (offerData : OfferData) (pCommand : FwUpdateOfferCommand) :
    Prop where
  segment : offerData.componentInfo.segment = pCommand.componentInfo.segmentNumber
  forceReset :
    offerData.componentInfo.forceReset =
      BitVec.ofBool pCommand.componentInfo.forceImmediateReset
  forceIgnoreVersion :
    offerData.componentInfo.forceIgnoreVersion =
      BitVec.ofBool pCommand.componentInfo.forceIgnoreVersion
  componentId : offerData.componentInfo.componentId = pCommand.componentInfo.componentId
  token : offerData.componentInfo.token = pCommand.componentInfo.token
  version : offerData.version = pCommand.version
  variantMask : offerData.compatVariantMask = pCommand.hwVariantMask
  protocolRevision :
    offerData.productInfo.protocolRevision = pCommand.productInfo.protocolRevision
  bank : offerData.productInfo.bank = pCommand.productInfo.bank
  milestone :
    offerData.productInfo.milestone.toNat = pCommand.productInfo.milestone.toNat
  productId : offerData.productInfo.platformId = pCommand.productInfo.productId

/-- The tool gives four bits to the milestone and the firmware three.  In every
other field the declarations agree on every buffer. -/
theorem offerFieldsAgree_iff (data : List UInt8) :
    OfferFieldsAgree (OfferData.ofBytes data) (decodeOfferCommand (data.drop 1)) ↔
      (data.getD 14 0).toNat.testBit 3 = false := by
  have hproduct : (data.drop 1).drop 12 = data.drop 13 := List.drop_drop
  have hmilestoneByte : (data.drop 13).getD 1 0 = data.getD 14 0 := by
    simp [List.getElem?_drop]
  have hmilestone :
      (OfferData.ofBytes data).productInfo.milestone.toNat =
          (decodeOfferCommand (data.drop 1)).productInfo.milestone.toNat ↔
        (data.getD 14 0).toNat.testBit 3 = false := by
    have hiff := bitField_succ_eq_iff 0 3 (data.getD 14 0).toNat
    rw [← hiff, decodeOfferCommand, hproduct, decodeProductInfo, hmilestoneByte,
      toNat_bitField 0 3, Nat.pow_zero, Nat.div_one, BitVec.toNat_ofNat, OfferData.ofBytes,
      ProductInfo.ofBytes, hmilestoneByte]
  constructor
  · intro hagree
    exact hmilestone.mp hagree.milestone
  · intro hclear
    refine ⟨rfl, bitField_one 6 _, bitField_one 7 _, rfl, rfl, ?_, ?_, ?_, ?_,
      hmilestone.mpr hclear, ?_⟩
    · exact congrArg UInt32.ofNat (word_drop 4 1 4 data).symm
    · exact congrArg UInt32.ofNat (word_drop 8 1 4 data).symm
    · rw [decodeOfferCommand, hproduct, decodeProductInfo, OfferData.ofBytes,
        ProductInfo.ofBytes, bitField, Nat.pow_zero, Nat.div_one]
    · rw [decodeOfferCommand, hproduct]
      rfl
    · rw [decodeOfferCommand, hproduct]
      rfl

/-- A report carries an offer file: the report id, and the bytes of the file with
only the force bits replaced. -/
structure CarriesOfferFile (id forceReset forceIgnoreVersion : UInt8)
    (offerFile data : List UInt8) : Prop where
  length : data.length = 17
  id : data.getD 0 0 = id
  bytes : ∀ i < 16, i ≠ 1 → data.getD (i + 1) 0 = offerFile.getD i 0
  reservedBits : ∀ i < 6, (data.getD 2 0).toNat.testBit i = (offerFile.getD 1 0).toNat.testBit i
  forceReset : (data.getD 2 0).toNat.testBit 6 = forceReset.toNat.testBit 0
  forceIgnoreVersion : (data.getD 2 0).toNat.testBit 7 = forceIgnoreVersion.toNat.testBit 0

/-- The bits of the flag byte of a sent offer. -/
theorem testBit_setForceBits (flagByte forceReset forceIgnoreVersion : UInt8) {i : ℕ}
    (hi : i < 8) :
    (setForceBits flagByte forceReset forceIgnoreVersion).toNat.testBit i =
      if i = 6 then forceReset.toNat.testBit 0
      else if i = 7 then forceIgnoreVersion.toNat.testBit 0
      else flagByte.toNat.testBit i := by
  have hmask : (0x3F : UInt8).toNat = 2 ^ 6 - 1 := rfl
  have hone : (1 : UInt8).toNat = 2 ^ 1 - 1 := rfl
  have hsix : (6 : UInt8).toNat % 8 = 6 := rfl
  have hseven : (7 : UInt8).toNat % 8 = 7 := rfl
  rw [setForceBits]
  simp only [UInt8.toNat_or, UInt8.toNat_and, UInt8.toNat_shiftLeft, hmask, hone, hsix, hseven,
    Nat.testBit_or, Nat.testBit_and, Nat.testBit_two_pow_sub_one, Nat.testBit_mod_two_pow,
    Nat.testBit_shiftLeft]
  by_cases h6 : i = 6
  · subst h6
    simp
  · by_cases h7 : i = 7
    · subst h7
      simp
    · have hlow : i < 6 := by omega
      have hnot6 : ¬ 6 ≤ i := by omega
      have hnot7 : ¬ 7 ≤ i := by omega
      simp [h6, h7, hlow, hnot6, hnot7]

/-- The union that the tool sends carries the file that it has read. -/
theorem carriesOfferFile_offerData (id forceReset forceIgnoreVersion : UInt8)
    {offerFile : List UInt8} (hfile : offerFile.length = 16) :
    CarriesOfferFile id forceReset forceIgnoreVersion offerFile
      (offerData id forceReset forceIgnoreVersion offerFile) := by
  have hflag : (offerData id forceReset forceIgnoreVersion offerFile).getD 2 0 =
      setForceBits (offerFile.getD 1 0) forceReset forceIgnoreVersion :=
    rfl
  refine ⟨?_, rfl, ?_, ?_, ?_, ?_⟩
  · simp [offerData, hfile]
  · intro i hi hflagByte
    match i with
    | 0 => rfl
    | 1 => exact absurd rfl hflagByte
    | i + 2 => simp [offerData, List.getElem?_drop, Nat.add_comm 2 i]
  · intro i hi
    have h6 : i ≠ 6 := by omega
    have h7 : i ≠ 7 := by omega
    rw [hflag, testBit_setForceBits _ _ _ (by omega), if_neg h6, if_neg h7]
  · rw [hflag, testBit_setForceBits _ _ _ (by omega), if_pos rfl]
  · rw [hflag, testBit_setForceBits _ _ _ (by omega), if_neg (by omega), if_pos rfl]

/-- For every offer file of sixteen bytes the first 17 bytes of the tool's report
carry the file, and all shared fields read the same for the tool and for the
firmware, exactly when bit 3 of the milestone byte of the file is clear. -/
theorem offerWireFormat_agrees_iff (id forceReset forceIgnoreVersion : UInt8)
    (offerFile : List UInt8) (hfile : offerFile.length = 16) :
    (CarriesOfferFile id forceReset forceIgnoreVersion offerFile
        ((offerReportBuffer id forceReset forceIgnoreVersion offerFile).take 17) ∧
      OfferFieldsAgree
        (OfferData.ofBytes ((offerReportBuffer id forceReset forceIgnoreVersion offerFile).take 17))
        (decodeOfferCommand
          (((offerReportBuffer id forceReset forceIgnoreVersion offerFile).take 17).drop 1))) ↔
      (offerFile.getD 13 0).toNat.testBit 3 = false := by
  have hread : offerReadBuff offerFile = offerFile := by
    have hall : offerFile.take 16 = offerFile := List.take_of_length_le (Nat.le_of_eq hfile)
    have hnothing : (List.replicate 16 (0 : UInt8)).drop offerFile.length = [] := by simp [hfile]
    rw [offerReadBuff, hall, overwrite, hnothing, List.append_nil]
  have hcarries := carriesOfferFile_offerData id forceReset forceIgnoreVersion hfile
  have hreport : (offerReportBuffer id forceReset forceIgnoreVersion offerFile).take 17 =
      offerData id forceReset forceIgnoreVersion offerFile := by
    rw [offerReportBuffer, hread, take_overwrite_of_eq hcarries.length]
  rw [hreport, offerFieldsAgree_iff, hcarries.bytes 13 (by omega) (by omega)]
  exact and_iff_right hcarries

/-- A file with milestone 2 and the highest bit of the version bits clear. -/
theorem offerWireFormat_agrees_milestoneTwo :
    OfferFieldsAgree
      (OfferData.ofBytes ((offerReportBuffer 0x25 1 0
        [0, 0x3F, 1, 0xB0, 1, 2, 3, 4, 0, 0, 0, 0, 0x12, 0x02, 0xBE, 0xBE]).take 17))
      (decodeOfferCommand (((offerReportBuffer 0x25 1 0
        [0, 0x3F, 1, 0xB0, 1, 2, 3, 4, 0, 0, 0, 0, 0x12, 0x02, 0xBE, 0xBE]).take 17).drop 1)) :=
  ((offerWireFormat_agrees_iff 0x25 1 0
    [0, 0x3F, 1, 0xB0, 1, 2, 3, 4, 0, 0, 0, 0, 0x12, 0x02, 0xBE, 0xBE] rfl).mpr rfl).2

/-- A file whose milestone byte is 8: the tool reads milestone 8, the firmware 0. -/
theorem offerWireFormat_milestoneEight :
    ¬ OfferFieldsAgree
      (OfferData.ofBytes ((offerReportBuffer 0x25 0 0
        [0, 0, 1, 0xB0, 0, 0, 0, 0, 0, 0, 0, 0, 0x02, 0x08, 0, 0]).take 17))
      (decodeOfferCommand (((offerReportBuffer 0x25 0 0
        [0, 0, 1, 0xB0, 0, 0, 0, 0, 0, 0, 0, 0, 0x02, 0x08, 0, 0]).take 17).drop 1)) := by
  intro hagree
  exact absurd hagree.milestone (by decide)

/-! ## Content commands -/

/-- What a receiver of a content report reads is what the tool packed. -/
structure ContentFieldsAgree (contentData : ContentData) (flags length : UInt8)
    (sequenceNumber : UInt16) (address : UInt32) (data : List UInt8) : Prop where
  flags_eq : flags = contentData.flags
  length_eq : length = contentData.length
  sequenceNumber_eq : sequenceNumber = contentData.sequenceNumber
  address_eq : address = contentData.address
  data_eq : data.take length.toNat = contentData.data.take contentData.length.toNat

/-- The firmware reads the report behind the report id. -/
def FirmwareReadsContent (contentData : ContentData) : Prop :=
  let pCommand := decodeContentCommand (contentData.toBytes.drop 1)
  ContentFieldsAgree contentData pCommand.flags pCommand.length pCommand.sequenceNumber
    pCommand.address pCommand.pData

/-- The simulator reads the report with the report id. -/
def SimulatorReadsContent (contentData : ContentData) : Prop :=
  let command := Simulator.FwUpdateContentCommand.ofBytes contentData.toBytes
  command.reportId = contentData.id ∧
    ContentFieldsAgree contentData command.flags command.length command.sequenceNumber
      command.address command.data

theorem firmwareReadsContent (contentData : ContentData) :
    FirmwareReadsContent contentData := by
  rw [FirmwareReadsContent, decodeContentCommand_toBytes]
  exact ⟨rfl, rfl, rfl, rfl, rfl⟩

theorem simulatorReadsContent (contentData : ContentData) :
    SimulatorReadsContent contentData := by
  have hsequence : word 3 2 contentData.toBytes = contentData.sequenceNumber.toNat :=
    value_bytes_uint16 contentData.sequenceNumber
  have haddress : word 5 4 contentData.toBytes = contentData.address.toNat :=
    value_bytes_uint32 contentData.address
  have hdata : (contentData.toBytes.drop 9).take Simulator.contentDataLength =
      contentData.data :=
    List.take_of_length_le (Nat.le_of_eq contentData.data_length)
  rw [SimulatorReadsContent, Simulator.FwUpdateContentCommand.ofBytes, hsequence, haddress,
    hdata, UInt16.ofNat_toNat, UInt32.ofNat_toNat]
  exact ⟨rfl, rfl, rfl, rfl, rfl, rfl⟩

/-! ## Responses -/

/-- The tool reads this sequence number and this status in a content response. -/
structure ReadsContentResponse (inputReport : List UInt8) (sequenceNumber : UInt16)
    (status : UInt8) : Prop where
  sequenceNumber_eq :
    (ContentResponseReportBlob.ofBytes inputReport).sequenceNumber = sequenceNumber
  status_eq : (ContentResponseReportBlob.ofBytes inputReport).status = status.toBitVec

/-- The tool reads these three bytes in an offer response. -/
structure ReadsOfferResponse (inputReport : List UInt8) (token rrCode status : UInt8) :
    Prop where
  token_eq : (OfferResponseReportBlob.ofBytes inputReport).token = token.toBitVec
  rrCode_eq : (OfferResponseReportBlob.ofBytes inputReport).rrCode = rrCode.toBitVec
  status_eq : (OfferResponseReportBlob.ofBytes inputReport).status = status.toBitVec

/-- The status on which the sending loop acts is the bit field of the declaration. -/
theorem contentResponseReportBlob_status (inputReport : List UInt8) :
    (ContentResponseReportBlob.ofBytes inputReport).status =
      (contentResponseStatus inputReport).toBitVec :=
  bitField_byte (i := 0) (k := 4) (by omega) 5 inputReport

/-- So is the status on which the tool accepts an offer. -/
theorem offerResponseReportBlob_status (inputReport : List UInt8) :
    (OfferResponseReportBlob.ofBytes inputReport).status =
      (offerResponseStatus inputReport).toBitVec :=
  bitField_byte (i := 0) (k := 4) (by omega) 13 inputReport

/-- The bit fields of the tool's content response are bytes of the report. -/
theorem readsContentResponse_of_bytes {inputReport : List UInt8} {sequenceNumber : UInt16}
    {status : UInt8} (hsequence : word 1 2 inputReport = sequenceNumber.toNat)
    (hstatus : contentResponseStatus inputReport = status) :
    ReadsContentResponse inputReport sequenceNumber status := by
  constructor
  · rw [ContentResponseReportBlob.ofBytes, hsequence, UInt16.ofNat_toNat]
  · rw [contentResponseReportBlob_status, hstatus]

/-- So are those of its offer response. -/
theorem readsOfferResponse_of_bytes {inputReport : List UInt8} {token rrCode status : UInt8}
    (htoken : inputReport.getD 4 0 = token) (hrrCode : inputReport.getD 9 0 = rrCode)
    (hstatus : offerResponseStatus inputReport = status) :
    ReadsOfferResponse inputReport token rrCode status := by
  refine ⟨?_, ?_, ?_⟩
  · rw [← htoken]
    exact bitField_byte (i := 3) (k := 4) (by omega) 1 inputReport
  · rw [← hrrCode]
    exact bitField_byte (i := 0) (k := 4) (by omega) 9 inputReport
  · rw [offerResponseReportBlob_status, hstatus]

/-! ## Versions -/

/-- The tool, the simulator and the firmware split a version word into the same
fields. -/
structure VersionFieldsAgree (version : UInt32) : Prop where
  simulatorMajor : (Simulator.ComponentVersion.ofUInt32 version).majorVersion =
    (VersionFormat.ofDVersion version).major
  simulatorMinor : (Simulator.ComponentVersion.ofUInt32 version).minorVersion =
    (VersionFormat.ofDVersion version).minor
  simulatorVariant : (Simulator.ComponentVersion.ofUInt32 version).variant =
    (VersionFormat.ofDVersion version).variant
  firmwareMajor : (fwVersionField fwVersionMajorShift fwVersionMajorMask version).toNat =
    (VersionFormat.ofDVersion version).major.toNat
  firmwareMinor : (fwVersionField fwVersionMinorShift fwVersionMinorMask version).toNat =
    (VersionFormat.ofDVersion version).minor.toNat
  firmwareBuild : (fwVersionField fwVersionBuildShift fwVersionBuildMask version).toNat =
    (VersionFormat.ofDVersion version).variant.toNat

section Version

variable (version : UInt32)

theorem toNat_versionFormat_variant :
    (VersionFormat.ofDVersion version).variant.toNat = version.toNat % 2 ^ 8 :=
  UInt8.toNat_ofNat'

theorem toNat_versionFormat_minor :
    (VersionFormat.ofDVersion version).minor.toNat = version.toNat / 2 ^ 8 % 2 ^ 16 := by
  have hword : word 1 2 (bytes 4 version.toNat) = version.toNat / 2 ^ 8 % 2 ^ 16 :=
    word_bytes (by omega) version.toNat
  rw [VersionFormat.ofDVersion, hword, UInt16.toNat_ofNat', Nat.mod_mod]

theorem toNat_versionFormat_major :
    (VersionFormat.ofDVersion version).major.toNat = version.toNat / 2 ^ 24 % 2 ^ 8 := by
  have hbyte : (VersionFormat.ofDVersion version).major.toNat =
      version.toNat / 256 / 256 / 256 % 2 ^ 8 :=
    UInt8.toNat_ofNat'
  rw [hbyte]
  omega

/-- The three fields determine the word. -/
theorem version_eq_of_fields {version' : UInt32}
    (h : VersionFormat.ofDVersion version' = VersionFormat.ofDVersion version) :
    version' = version := by
  have hvariant := congrArg (fun v => v.variant.toNat) h
  have hminor := congrArg (fun v => v.minor.toNat) h
  have hmajor := congrArg (fun v => v.major.toNat) h
  simp only [toNat_versionFormat_variant, toNat_versionFormat_minor,
    toNat_versionFormat_major] at hvariant hminor hmajor
  have hlt := version.toNat_lt
  have hlt' := version'.toNat_lt
  apply UInt32.toNat_inj.mp
  omega

theorem versionFieldsAgree : VersionFieldsAgree version := by
  refine ⟨rfl, rfl, rfl, ?_, ?_, ?_⟩
  · rw [toNat_versionFormat_major]
    exact toNat_fwVersionField (k := 8) (by decide) rfl version
  · rw [toNat_versionFormat_minor]
    exact toNat_fwVersionField (k := 16) (by decide) rfl version
  · rw [toNat_versionFormat_variant, toNat_fwVersionField (k := 8) (by decide) rfl version]
    exact congrArg (· % 2 ^ 8) (Nat.div_one _)

end Version

/-! ## All declarations -/

/-- A content report reads the same for the firmware and for the simulator; in
the responses of both the tool reads what they wrote, whatever its buffer held
before; and a version word has the same three fields everywhere, which determine
it. -/
theorem reportLayouts_agree (contentData : ContentData) (inputReportBuffer : List UInt8)
    (id : UInt8) (contentResponse : FwUpdateContentResponse)
    (offerResponse : FwUpdateOfferResponse)
    (simulatedContentResponse : Simulator.FwUpdateContentResponse)
    (simulatedOfferResponse : Simulator.FwUpdateOfferResponse) (version : UInt32) :
    FirmwareReadsContent contentData ∧ SimulatorReadsContent contentData ∧
    ReadsContentResponse
      (overwrite inputReportBuffer (id :: encodeContentResponse contentResponse))
      contentResponse.sequenceNumber contentResponse.status ∧
    ReadsContentResponse (overwrite inputReportBuffer simulatedContentResponse.asBytes)
      simulatedContentResponse.sequenceNumber simulatedContentResponse.status ∧
    ReadsOfferResponse
      (overwrite inputReportBuffer (id :: encodeOfferResponse offerResponse))
      offerResponse.token offerResponse.rejectReasonCode offerResponse.status ∧
    ReadsOfferResponse (overwrite inputReportBuffer simulatedOfferResponse.asBytes)
      simulatedOfferResponse.token simulatedOfferResponse.rejectReasonCode
      simulatedOfferResponse.status ∧
    VersionFieldsAgree version ∧
    ∀ version', VersionFormat.ofDVersion version' = VersionFormat.ofDVersion version →
      version' = version := by
  refine ⟨firmwareReadsContent contentData, simulatorReadsContent contentData, ?_, ?_, ?_, ?_,
    versionFieldsAgree version, fun _ => version_eq_of_fields version⟩
  · exact readsContentResponse_of_bytes (value_bytes_uint16 contentResponse.sequenceNumber) rfl
  · exact readsContentResponse_of_bytes
      (value_bytes_uint16 simulatedContentResponse.sequenceNumber) rfl
  · exact readsOfferResponse_of_bytes rfl rfl rfl
  · exact readsOfferResponse_of_bytes rfl rfl rfl

end Transfer
end CFU
