import CFU.Firmware.Commands
import CFU.Library.Bytes

/-!
# CFU firmware - commands and responses as bytes

The casts between a buffer behind the report id and the packed structures of
{lit}`ComponentFwUpdate.h`.  Words are little-endian, and bit fields fill a byte
from its lowest bit.

Main results:

- Definitions {lit}`decodeOfferCommand` and {lit}`decodeContentCommand`: a received
  buffer as a command.
- Definitions {lit}`encodeOfferResponse` and {lit}`encodeContentResponse`: a
  response as sixteen bytes.
-/

namespace CFU
namespace Firmware

open LittleEndian

/-! ## Commands -/

/-- The word of {lit}`k` bytes at an offset of a buffer. -/
def wordAt (offset k : ℕ) (buffer : List UInt8) : ℕ :=
  value ((buffer.drop offset).take k)

def decodeComponentInfo (buffer : List UInt8) : ComponentInfo where
  segmentNumber := buffer.getD 0 0
  reserved0 := BitVec.ofNat 6 (buffer.getD 1 0).toNat
  forceImmediateReset := (buffer.getD 1 0).toNat.testBit 6
  forceIgnoreVersion := (buffer.getD 1 0).toNat.testBit 7
  componentId := buffer.getD 2 0
  token := buffer.getD 3 0

def decodeProductInfo (buffer : List UInt8) : ProductInfo where
  protocolRevision := BitVec.ofNat 4 (buffer.getD 0 0).toNat
  bank := BitVec.ofNat 2 ((buffer.getD 0 0).toNat / 2 ^ 4)
  reserved0 := BitVec.ofNat 2 ((buffer.getD 0 0).toNat / 2 ^ 6)
  milestone := BitVec.ofNat 3 (buffer.getD 1 0).toNat
  reserved1 := BitVec.ofNat 5 ((buffer.getD 1 0).toNat / 2 ^ 3)
  productId := UInt16.ofNat (wordAt 2 2 buffer)

/-- A buffer as {lit}`FWUPDATE_OFFER_COMMAND`. -/
def decodeOfferCommand (buffer : List UInt8) : FwUpdateOfferCommand where
  componentInfo := decodeComponentInfo buffer
  version := UInt32.ofNat (wordAt 4 4 buffer)
  hwVariantMask := UInt32.ofNat (wordAt 8 4 buffer)
  productInfo := decodeProductInfo (buffer.drop 12)

/-- A buffer as {lit}`FWUPDATE_CONTENT_COMMAND`. -/
def decodeContentCommand (buffer : List UInt8) : FwUpdateContentCommand where
  flags := buffer.getD 0 0
  length := buffer.getD 1 0
  sequenceNumber := UInt16.ofNat (wordAt 2 2 buffer)
  address := UInt32.ofNat (wordAt 4 4 buffer)
  pData := buffer.drop 8

/-! ## Responses -/

/-- The bytes of {lit}`FWUPDATE_OFFER_RESPONSE`. -/
def encodeOfferResponse (pResponse : FwUpdateOfferResponse) : List UInt8 :=
  bytes 3 pResponse.reserved0.toNat ++ [pResponse.token] ++
    bytes 4 pResponse.reserved1.toNat ++ [pResponse.rejectReasonCode] ++
    bytes 3 pResponse.reserved2.toNat ++ [pResponse.status] ++
    bytes 3 pResponse.reserved3.toNat

/-- The bytes of {lit}`FWUPDATE_CONTENT_RESPONSE`. -/
def encodeContentResponse (pResponse : FwUpdateContentResponse) : List UInt8 :=
  bytes 2 pResponse.sequenceNumber.toNat ++ bytes 2 pResponse.reserved0.toNat ++
    [pResponse.status] ++ bytes 3 pResponse.reserved1.toNat ++
    bytes 8 pResponse.reserved2.toNat

/-- A response fills the size that the host gives to its report. -/
@[simp]
theorem length_encodeOfferResponse (pResponse : FwUpdateOfferResponse) :
    (encodeOfferResponse pResponse).length = 16 := by
  simp [encodeOfferResponse]

@[simp]
theorem length_encodeContentResponse (pResponse : FwUpdateContentResponse) :
    (encodeContentResponse pResponse).length = 16 := by
  simp [encodeContentResponse]

/-! ## Version words -/

def fwVersionMajorShift : UInt32 := 24
def fwVersionMajorMask : UInt32 := 0xFF

def fwVersionMinorShift : UInt32 := 8
def fwVersionMinorMask : UInt32 := 0xFFFF

def fwVersionBuildShift : UInt32 := 0
def fwVersionBuildMask : UInt32 := 0xFF

/-- The field of a version word with this shift and mask. -/
def fwVersionField (shift mask version : UInt32) : UInt32 :=
  (version >>> shift) &&& mask

/-- A mask of low bits leaves a remainder. -/
theorem toNat_fwVersionField {shift mask : UInt32} {k : ℕ} (hshift : shift.toNat < 32)
    (hmask : mask.toNat = 2 ^ k - 1) (version : UInt32) :
    (fwVersionField shift mask version).toNat = version.toNat / 2 ^ shift.toNat % 2 ^ k := by
  rw [fwVersionField, UInt32.toNat_and, UInt32.toNat_shiftRight, hmask,
    Nat.and_two_pow_sub_one_eq_mod, Nat.mod_eq_of_lt hshift, Nat.shiftRight_eq_div_pow]

end Firmware
end CFU
