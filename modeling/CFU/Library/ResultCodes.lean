import Mathlib.Tactic.Common

/-!
# Result codes - statuses and errors of 32 bits

Three conventions for the code that a call returns.  A status of the kernel and a
result handle report a failure in their highest bit.  An error of the Win32 functions is
0 or positive, so that the highest bit says nothing about it.

Main results:

- Theorem {lit}`ntSuccess_win32Error`: taken for a status, every error is a success.
- Theorem {lit}`succeeded_hresultFromWin32`: the result handle that is made from an error
  reports success for the error 0 only.
-/

namespace ResultCode

/-- {lit}`NT_SUCCESS` -/
def ntSuccess (status : UInt32) : Bool :=
  decide (status < 0x80000000)

/-- {lit}`SUCCEEDED` -/
def succeeded (hr : UInt32) : Bool :=
  decide (hr < 0x80000000)

/-- {lit}`HRESULT_FROM_WIN32` -/
def hresultFromWin32 (x : UInt32) : UInt32 :=
  if x = 0 then x
  else if x < 0x80000000 then (x &&& 0xFFFF) ||| 0x80070000
  else x

/-- {lit}`S_OK` -/
def sOk : UInt32 := 0

/-- {lit}`E_OUTOFMEMORY` -/
def eOutOfMemory : UInt32 := 0x8007000E

/-- {lit}`E_FAIL` -/
def eFail : UInt32 := 0x80004005

/-- {lit}`E_INVALIDARG` -/
def eInvalidArg : UInt32 := 0x80070057

/-- {lit}`ERROR_NOT_FOUND` -/
def errorNotFound : UInt32 := 1168

/-- {lit}`STATUS_SUCCESS` -/
def statusSuccess : UInt32 := 0

/-- An error of the Win32 functions. -/
structure Win32Error where
  code : UInt32
  code_lt : code < 0x80000000

/-- {lit}`ERROR_SUCCESS` -/
def Win32Error.success : Win32Error where
  code := 0
  code_lt := by decide

/-- Taken for a status, every error is a success. -/
@[simp]
theorem ntSuccess_win32Error (error : Win32Error) : ntSuccess error.code = true :=
  decide_eq_true error.code_lt

/-- The result handle made from an error reports success for the error 0 only. -/
theorem succeeded_hresultFromWin32 (x : UInt32) :
    succeeded (hresultFromWin32 x) = true ↔ x = 0 := by
  unfold hresultFromWin32 succeeded
  by_cases hzero : x = 0
  · subst hzero
    simp
  · rw [if_neg hzero, decide_eq_true_eq]
    by_cases hsmall : x < 0x80000000
    · rw [if_pos hsmall, UInt32.lt_iff_toNat_lt, UInt32.toNat_or]
      have hle : (0x80070000 : UInt32).toNat ≤
          (x &&& 0xFFFF).toNat ||| (0x80070000 : UInt32).toNat := Nat.right_le_or
      have hhigh : (0x80000000 : UInt32).toNat ≤ (0x80070000 : UInt32).toNat := by decide
      constructor
      · intro h
        omega
      · intro h
        exact absurd h hzero
    · rw [if_neg hsmall]
      exact iff_of_false hsmall hzero

/-- A status that is no success does not become a result handle for success. -/
theorem not_succeeded_of_not_ntSuccess {status : UInt32} (h : ntSuccess status = false) :
    succeeded (hresultFromWin32 status) = false := by
  rw [← Bool.not_eq_true, succeeded_hresultFromWin32]
  rintro rfl
  simp [ntSuccess] at h

end ResultCode
