import Mathlib.Tactic.Common
import Mathlib.Tactic.IntervalCases

/-!
# CFU firmware - status words

Every component function returns an {lit}`MCU_STATUS` word: a fixed flag bit,
two severity bits, a module number and a code.  The engine never compares such
a word with {lit}`MCU_STATUS_SUCCESS`; it tests the flag bit and the upper
severity bit with {lit}`MCU_SUCCESS`.

Main results:

- Theorem {lit}`mcuSuccess_makeMcuStatus`: a word made by the macro tests as a
  success exactly when the upper bit of its severity is clear.
- Theorem {lit}`mcuSuccess_crcCheckNotRequired`: the word that asks the engine to
  skip the CRC check tests as a failure.
-/

namespace CFU
namespace Firmware

/-- The 32-bit word that component functions return. -/
abbrev McuStatus := UInt32

/-! ## Building and testing a status -/

def mcuStatusModuleGeneral : UInt32 := 0x00
def mcuStatusModuleCfu : UInt32 := 0x01

def severityCodeSuccess : UInt32 := 0
def severityCodeWarning : UInt32 := 2
def severityCodeError : UInt32 := 3

def mcuStatusFlag : UInt32 := 0x80000000

def makeSev (s : UInt32) : UInt32 := (s &&& 0x3) <<< 24
def makeMod (m : UInt32) : UInt32 := (m &&& 0xFF) <<< 16
def makeCode (c : UInt32) : UInt32 := c &&& 0xFFFF

/-- {lit}`MAKE_MCU_STATUS` -/
def makeMcuStatus (sev mod code : UInt32) : McuStatus :=
  mcuStatusFlag ||| makeSev sev ||| makeMod mod ||| makeCode code

/-- The flag bit and bit 25, which is set for a warning or an error. -/
def mcuStatusTestMask : UInt32 :=
  mcuStatusFlag ||| makeSev severityCodeWarning

/-- {lit}`MCU_SUCCESS` -/
def mcuSuccess (status : McuStatus) : Bool :=
  status &&& mcuStatusTestMask == mcuStatusFlag

/-! ## Status words that the engine uses -/

def mcuStatusSuccess : McuStatus :=
  makeMcuStatus severityCodeSuccess mcuStatusModuleGeneral 0x00

def mcuStatusDefaultError : McuStatus :=
  makeMcuStatus severityCodeError mcuStatusModuleGeneral 0x1E

def mcuStatusCfuCrcCheckNotRequired : McuStatus :=
  makeMcuStatus severityCodeError mcuStatusModuleCfu 0x07

theorem mcuStatusTestMask_eq : mcuStatusTestMask = 0x82000000 := by
  decide

/-- The test mask keeps the flag and the upper severity bit of a status. -/
theorem makeMcuStatus_and_testMask (sev mod code : UInt32) :
    makeMcuStatus sev mod code &&& mcuStatusTestMask =
      mcuStatusFlag ||| makeSev (sev &&& 2) := by
  rw [mcuStatusTestMask_eq, ← UInt32.toBitVec_inj]
  simp only [makeMcuStatus, makeSev, makeMod, makeCode, mcuStatusFlag,
    UInt32.toBitVec_and, UInt32.toBitVec_or, UInt32.toBitVec_shiftLeft]
  ext i hi
  interval_cases i <;> simp

/-- The upper bit of the severity, which warnings and errors set, decides the test. -/
theorem mcuSuccess_makeMcuStatus (sev mod code : UInt32) :
    mcuSuccess (makeMcuStatus sev mod code) = true ↔ sev &&& 2 = 0 := by
  rw [mcuSuccess, beq_iff_eq, makeMcuStatus_and_testMask]
  constructor
  · intro h
    have hbit := congrArg (fun x : UInt32 => x.toBitVec.getLsbD 25) h
    have hone : sev.toBitVec.getLsbD 1 = false := by
      simpa [makeSev, mcuStatusFlag] using hbit
    rw [← UInt32.toBitVec_inj]
    ext i hi
    interval_cases i <;> simp_all
  · intro h
    rw [h]
    decide

/-- The status that the engine assumes before it has asked a component. -/
@[simp]
theorem mcuSuccess_defaultError : mcuSuccess mcuStatusDefaultError = false := by
  rw [← Bool.not_eq_true, mcuStatusDefaultError, mcuSuccess_makeMcuStatus]
  decide

/-- A component that needs no CRC check says so with an error severity. -/
@[simp]
theorem mcuSuccess_crcCheckNotRequired :
    mcuSuccess mcuStatusCfuCrcCheckNotRequired = false := by
  rw [← Bool.not_eq_true, mcuStatusCfuCrcCheckNotRequired, mcuSuccess_makeMcuStatus]
  decide

end Firmware
end CFU
