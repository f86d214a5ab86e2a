import CFU.Driver.FirmwareFiles
import CFU.Library.ResultCodes
import Mathlib.Data.List.TakeWhile

/-!
# CFU driver - the firmware in the registry

The driver enumerates the subkeys of its registry key and collects the names of the
firmware files that it finds under them.  Two of the functions that it calls return
errors of the Win32 functions, which the driver takes for statuses.

Main results:

- Definition {lit}`registrySubKeysFromHandleEnumerate`, for any enumeration function.
- Theorem {lit}`subKeysLoop_callback_iff`: for which subkeys the enumeration function is
  called.
- Theorem {lit}`enumeratesFirmware_iff`: for which outcomes of the calls the enumeration
  reports its failures and collects the firmware.
-/

namespace CFU
namespace Driver

open ResultCode

/-! ## The enumeration -/

section Enumeration

variable {K C : Type}

/-- The outcomes of the calls for one subkey: what {lit}`RegEnumKeyEx` returns, the name in
the buffer behind it, and the status of {lit}`WdfRegistryOpenKey` with the key. -/
structure SubKeyOutcome (K : Type) where
  regEnumKeyEx : Win32Error
  subKeyName : List Char
  openKey : UInt32
  firmwareInformationSubkey : K

/-- The outcomes of the calls.  There is a subkey for each that {lit}`numberOfSubKeys`
counts behind {lit}`RegQueryInfoKey`. -/
structure RegistryOutcomes (K : Type) where
  regQueryInfoKey : Win32Error
  memoryCreate : UInt32
  subKeys : List (SubKeyOutcome K)

/-- A call with its outcome. -/
inductive RegistryCall (K : Type) where
  | queryInfoKey (error : Win32Error)
  | eventLogWrite
  | memoryCreate (status : UInt32)
  | enumKeyEx (o : SubKeyOutcome K)
  | openKey (o : SubKeyOutcome K)
  | enumerationFunction (o : SubKeyOutcome K)

/-- The status that is returned, the context of the enumeration function, and the calls
that were made. -/
structure EnumerationResult (K C : Type) where
  ntStatus : UInt32
  context : C
  calls : List (RegistryCall K)

/-- A call in front of others. -/
def EnumerationResult.after (r : EnumerationResult K C) (calls : List (RegistryCall K)) :
    EnumerationResult K C :=
  { r with calls := calls ++ r.calls }

variable (registryEnumerationFunction : K → List Char → C → UInt32 × C)

/-- The loop over the subkeys. -/
def subKeysLoop : List (SubKeyOutcome K) → UInt32 → C → EnumerationResult K C
  | [], ntStatus, c => { ntStatus := ntStatus, context := c, calls := [] }
  | o :: rest, _, c =>
      if ntSuccess o.regEnumKeyEx.code then
        if ntSuccess o.openKey then
          let result := registryEnumerationFunction o.firmwareInformationSubkey o.subKeyName c
          -- a failure of the enumeration function is not kept
          (subKeysLoop rest (if ntSuccess result.1 then result.1 else statusSuccess) result.2).after
            [.enumKeyEx o, .openKey o, .enumerationFunction o]
        else { ntStatus := o.openKey, context := c, calls := [.enumKeyEx o, .openKey o] }
      else { ntStatus := o.regEnumKeyEx.code, context := c, calls := [.enumKeyEx o] }

/-- {lit}`Registry_SubKeysFromHandleEnumerate` -/
def registrySubKeysFromHandleEnumerate (outcomes : RegistryOutcomes K) (c : C) :
    EnumerationResult K C :=
  let queried := RegistryCall.queryInfoKey outcomes.regQueryInfoKey
  if ntSuccess outcomes.regQueryInfoKey.code then
    if outcomes.subKeys.isEmpty then
      { ntStatus := outcomes.regQueryInfoKey.code
        context := c
        calls := [queried, .eventLogWrite] }
    else if ntSuccess outcomes.memoryCreate then
      (subKeysLoop registryEnumerationFunction outcomes.subKeys outcomes.memoryCreate c).after
        [queried, .memoryCreate outcomes.memoryCreate]
    else
      { ntStatus := outcomes.memoryCreate
        context := c
        calls := [queried, .memoryCreate outcomes.memoryCreate] }
  else { ntStatus := outcomes.regQueryInfoKey.code, context := c, calls := [queried] }

end Enumeration

/-! ## The enumeration function -/

section EnumerationFunction

variable {Name : Type}

/-- The outcomes of the calls on the key of a subkey. -/
structure FirmwareKey (Name : Type) where
  createOfferFileName : UInt32
  createPayloadFileName : UInt32
  queryOffer : UInt32
  offerFileName : Name
  queryPayload : UInt32
  payloadFileName : Name
  memoryCreate : UInt32
  collectionAdd : UInt32

/-- The entry for a subkey. -/
def FirmwareKey.firmwareInformation (key : FirmwareKey Name) : DriverFirmwareInformation Name where
  offerFileName := key.offerFileName
  payloadFileName := key.payloadFileName
  offerContentMemory := none
  payloadContentMemory := none

/-- {lit}`Registry_FirmwareInformationEnumerate`: the status, and
{lit}`FirmwareBlobCollection` behind it.  The name is for the trace only. -/
def registryFirmwareInformationEnumerate (rootKey : FirmwareKey Name) (_keyNameString : List Char)
    (firmwareBlobCollection : List (DriverFirmwareInformation Name)) :
    UInt32 × List (DriverFirmwareInformation Name) :=
  if ntSuccess rootKey.createOfferFileName then
    if ntSuccess rootKey.createPayloadFileName then
      if ntSuccess rootKey.queryOffer then
        if ntSuccess rootKey.queryPayload then
          if ntSuccess rootKey.memoryCreate then
            if ntSuccess rootKey.collectionAdd then
              (rootKey.collectionAdd, firmwareBlobCollection ++ [rootKey.firmwareInformation])
            else (rootKey.collectionAdd, firmwareBlobCollection)
          else (rootKey.memoryCreate, firmwareBlobCollection)
        else (rootKey.queryPayload, firmwareBlobCollection)
      else (rootKey.queryOffer, firmwareBlobCollection)
    else (rootKey.createPayloadFileName, firmwareBlobCollection)
  else (rootKey.createOfferFileName, firmwareBlobCollection)

/-- Both strings of the subkey were read and stored. -/
def FirmwareKey.isStored (key : FirmwareKey Name) : Bool :=
  ntSuccess key.createOfferFileName && ntSuccess key.createPayloadFileName &&
    ntSuccess key.queryOffer && ntSuccess key.queryPayload && ntSuccess key.memoryCreate &&
    ntSuccess key.collectionAdd

/-- The entry that a subkey contributes. -/
def FirmwareKey.entry (key : FirmwareKey Name) : Option (DriverFirmwareInformation Name) :=
  if key.isStored then some key.firmwareInformation else none

/-- The enumeration function adds the entry of the subkey. -/
theorem registryFirmwareInformationEnumerate_collection (key : FirmwareKey Name)
    (name : List Char) (collection : List (DriverFirmwareInformation Name)) :
    (registryFirmwareInformationEnumerate key name collection).2 =
      collection ++ key.entry.toList := by
  unfold registryFirmwareInformationEnumerate FirmwareKey.entry FirmwareKey.isStored
  by_cases hoffer : ntSuccess key.createOfferFileName = true
  swap
  · simp [hoffer]
  by_cases hpayload : ntSuccess key.createPayloadFileName = true
  swap
  · simp [hoffer, hpayload]
  by_cases hqueryOffer : ntSuccess key.queryOffer = true
  swap
  · simp [hoffer, hpayload, hqueryOffer]
  by_cases hqueryPayload : ntSuccess key.queryPayload = true
  swap
  · simp [hoffer, hpayload, hqueryOffer, hqueryPayload]
  by_cases hmemory : ntSuccess key.memoryCreate = true
  swap
  · simp [hoffer, hpayload, hqueryOffer, hqueryPayload, hmemory]
  by_cases hadd : ntSuccess key.collectionAdd = true
  · simp [hoffer, hpayload, hqueryOffer, hqueryPayload, hmemory, hadd]
  · simp [hoffer, hpayload, hqueryOffer, hqueryPayload, hmemory, hadd]

end EnumerationFunction

/-! ## The loop -/

section Loop

variable {K C : Type} {registryEnumerationFunction : K → List Char → C → UInt32 × C}
  {subKeys : List (SubKeyOutcome K)}

/-- The key of the subkey is opened. -/
def SubKeyOutcome.opens (o : SubKeyOutcome K) : Bool :=
  ntSuccess o.openKey

/-- The call failed, in the convention of its function. -/
def RegistryCall.Failed : RegistryCall K → Prop
  | queryInfoKey error => error.code ≠ 0
  | eventLogWrite => False
  | memoryCreate status => ntSuccess status = false
  | enumKeyEx o => o.regEnumKeyEx.code ≠ 0
  | openKey o => o.opens = false
  | enumerationFunction _ => False

/-- The status behind the enumeration function. -/
def keptStatus (ntStatus : UInt32) : UInt32 :=
  if ntSuccess ntStatus then ntStatus else statusSuccess

theorem ntSuccess_keptStatus (ntStatus : UInt32) : ntSuccess (keptStatus ntStatus) = true := by
  unfold keptStatus
  by_cases h : ntSuccess ntStatus = true
  · rw [if_pos h]
    exact h
  · rw [if_neg h]
    rfl

/-- A subkey whose key is opened: the result of {lit}`RegEnumKeyEx` does not matter. -/
theorem subKeysLoop_opened {o : SubKeyOutcome K} (ho : o.opens = true) (ntStatus : UInt32)
    (c : C) :
    subKeysLoop registryEnumerationFunction (o :: subKeys) ntStatus c =
      (subKeysLoop registryEnumerationFunction subKeys
          (keptStatus
            (registryEnumerationFunction o.firmwareInformationSubkey o.subKeyName c).1)
          (registryEnumerationFunction o.firmwareInformationSubkey o.subKeyName c).2).after
        [.enumKeyEx o, .openKey o, .enumerationFunction o] := by
  unfold SubKeyOutcome.opens at ho
  rw [subKeysLoop, if_pos (ntSuccess_win32Error _), if_pos ho]
  rfl

theorem subKeysLoop_notOpened {o : SubKeyOutcome K} (ho : o.opens = false) (ntStatus : UInt32)
    (c : C) :
    subKeysLoop registryEnumerationFunction (o :: subKeys) ntStatus c =
      { ntStatus := o.openKey, context := c, calls := [.enumKeyEx o, .openKey o] } := by
  unfold SubKeyOutcome.opens at ho
  rw [subKeysLoop, if_pos (ntSuccess_win32Error _), ho]
  rfl

variable (registryEnumerationFunction) in
/-- The enumeration function is called for the subkeys in front of the first one that
cannot be opened. -/
theorem subKeysLoop_callback_iff (o : SubKeyOutcome K) (ntStatus : UInt32) (c : C) :
    .enumerationFunction o ∈
        (subKeysLoop registryEnumerationFunction subKeys ntStatus c).calls ↔
      o ∈ subKeys.takeWhile SubKeyOutcome.opens := by
  induction subKeys generalizing ntStatus c with
  | nil => simp [subKeysLoop]
  | cons first rest ih =>
      by_cases hfirst : first.opens = true
      · rw [subKeysLoop_opened hfirst, List.takeWhile_cons_of_pos hfirst]
        simp [EnumerationResult.after, ih]
      · rw [subKeysLoop_notOpened (Bool.eq_false_iff.2 hfirst), List.takeWhile_cons_of_neg hfirst]
        simp

/-- The status of the loop tells whether a key could not be opened. -/
theorem subKeysLoop_failed_iff {ntStatus : UInt32} (hstatus : ntSuccess ntStatus = true) (c : C) :
    ntSuccess (subKeysLoop registryEnumerationFunction subKeys ntStatus c).ntStatus = false ↔
      ∃ o ∈ subKeys, o.opens = false := by
  induction subKeys generalizing ntStatus c with
  | nil => simp [subKeysLoop, hstatus]
  | cons first rest ih =>
      by_cases hfirst : first.opens = true
      · rw [subKeysLoop_opened hfirst]
        simp [EnumerationResult.after, ih (ntSuccess_keptStatus _), hfirst]
      · have hclosed := Bool.eq_false_iff.2 hfirst
        rw [subKeysLoop_notOpened hclosed]
        unfold SubKeyOutcome.opens at hclosed
        simp [SubKeyOutcome.opens, hclosed]

variable (registryEnumerationFunction) in
/-- A key that cannot be opened is a call that failed. -/
theorem subKeysLoop_calls_failed (h : ∃ o ∈ subKeys, o.opens = false) (ntStatus : UInt32)
    (c : C) :
    ∃ call ∈ (subKeysLoop registryEnumerationFunction subKeys ntStatus c).calls,
      call.Failed := by
  induction subKeys generalizing ntStatus c with
  | nil => simp at h
  | cons first rest ih =>
      by_cases hfirst : first.opens = true
      · have hrest : ∃ o ∈ rest, o.opens = false := by simpa [hfirst] using h
        rw [subKeysLoop_opened hfirst]
        obtain ⟨call, hcall, hfailed⟩ := ih hrest _ _
        exact ⟨call, List.mem_append_right _ hcall, hfailed⟩
      · have hclosed := Bool.eq_false_iff.2 hfirst
        rw [subKeysLoop_notOpened hclosed]
        exact ⟨.openKey first, by simp, hclosed⟩

/-- The calls of a loop that opens every key. -/
theorem subKeysLoop_calls (h : ∀ o ∈ subKeys, o.opens = true) (ntStatus : UInt32) (c : C) :
    (subKeysLoop registryEnumerationFunction subKeys ntStatus c).calls =
      subKeys.flatMap fun o => [.enumKeyEx o, .openKey o, .enumerationFunction o] := by
  induction subKeys generalizing ntStatus c with
  | nil => rfl
  | cons first rest ih =>
      rw [List.forall_mem_cons] at h
      rw [subKeysLoop_opened h.1, List.flatMap_cons, ← ih h.2]
      rfl

/-- When every key is opened, a call that failed is one of {lit}`RegEnumKeyEx`. -/
theorem exists_failed_iff_of_opened (h : ∀ o ∈ subKeys, o.opens = true) (ntStatus : UInt32)
    (c : C) :
    (∃ call ∈ (subKeysLoop registryEnumerationFunction subKeys ntStatus c).calls, call.Failed) ↔
      ∃ o ∈ subKeys, o.regEnumKeyEx.code ≠ 0 := by
  rw [subKeysLoop_calls h]
  constructor
  · rintro ⟨call, hcall, hfailed⟩
    rw [List.mem_flatMap] at hcall
    obtain ⟨o, ho, hmem⟩ := hcall
    simp only [List.mem_cons, List.not_mem_nil, or_false] at hmem
    rcases hmem with rfl | rfl | rfl
    · exact ⟨o, ho, hfailed⟩
    · have hopen := h o ho
      rw [RegistryCall.Failed, hopen] at hfailed
      simp at hfailed
    · exact hfailed.elim
  · rintro ⟨o, ho, hcode⟩
    refine ⟨.enumKeyEx o, ?_, hcode⟩
    rw [List.mem_flatMap]
    exact ⟨o, ho, List.mem_cons_self⟩

/-- The collection behind a loop that opens every key. -/
theorem subKeysLoop_collection {Name : Type} {subKeys : List (SubKeyOutcome (FirmwareKey Name))}
    (h : ∀ o ∈ subKeys, o.opens = true) (ntStatus : UInt32)
    (collection : List (DriverFirmwareInformation Name)) :
    (subKeysLoop registryFirmwareInformationEnumerate subKeys ntStatus collection).context =
      collection ++ subKeys.filterMap fun o => o.firmwareInformationSubkey.entry := by
  induction subKeys generalizing ntStatus collection with
  | nil => simp [subKeysLoop]
  | cons first rest ih =>
      rw [List.forall_mem_cons] at h
      rw [subKeysLoop_opened h.1]
      show (subKeysLoop _ rest _ _).context = _
      rw [ih h.2, registryFirmwareInformationEnumerate_collection, List.append_assoc]
      cases hentry : first.firmwareInformationSubkey.entry with
      | none => simp [hentry]
      | some entry => simp [hentry]

end Loop

/-! ## Runs -/

section Runs

variable {Name : Type}

/-- The enumeration function sees keys of enumerated names only, a call that failed makes the
status fail, and without one the collection gets the entries of the subkeys in order. -/
structure EnumeratesFirmware (outcomes : RegistryOutcomes (FirmwareKey Name))
    (collection : List (DriverFirmwareInformation Name))
    (result : EnumerationResult (FirmwareKey Name) (List (DriverFirmwareInformation Name))) :
    Prop where
  enumerated : ∀ o, .enumerationFunction o ∈ result.calls →
    o.regEnumKeyEx.code = 0 ∧ o.opens = true
  reported : (∃ call ∈ result.calls, call.Failed) → ntSuccess result.ntStatus = false
  collected : (∀ call ∈ result.calls, ¬ call.Failed) →
    result.context =
      collection ++ outcomes.subKeys.filterMap fun o => o.firmwareInformationSubkey.entry

/-- The firmware is enumerated: an error of {lit}`RegQueryInfoKey` is followed by a failure of
another call, and no {lit}`RegEnumKeyEx` fails whose buffer names a key that is opened. -/
def RegistryOutcomes.Enumerable {K : Type} (outcomes : RegistryOutcomes K) : Prop :=
  (outcomes.regQueryInfoKey.code = 0 ∨
      (outcomes.subKeys ≠ [] ∧
        (ntSuccess outcomes.memoryCreate = false ∨ ∃ o ∈ outcomes.subKeys, o.opens = false))) ∧
    (ntSuccess outcomes.memoryCreate = true →
      ∀ o ∈ outcomes.subKeys.takeWhile SubKeyOutcome.opens, o.regEnumKeyEx.code = 0)

section Stages

variable {K C : Type} {registryEnumerationFunction : K → List Char → C → UInt32 × C}
  {outcomes : RegistryOutcomes K} (c : C)

/-- Without subkeys the result of {lit}`RegQueryInfoKey` is returned. -/
theorem enumerate_noSubKeys (h : outcomes.subKeys = []) :
    registrySubKeysFromHandleEnumerate registryEnumerationFunction outcomes c =
      { ntStatus := outcomes.regQueryInfoKey.code
        context := c
        calls := [.queryInfoKey outcomes.regQueryInfoKey, .eventLogWrite] } := by
  rw [registrySubKeysFromHandleEnumerate, h]
  simp

theorem enumerate_noMemory (h : outcomes.subKeys ≠ [])
    (hmemory : ntSuccess outcomes.memoryCreate = false) :
    registrySubKeysFromHandleEnumerate registryEnumerationFunction outcomes c =
      { ntStatus := outcomes.memoryCreate
        context := c
        calls := [.queryInfoKey outcomes.regQueryInfoKey,
          .memoryCreate outcomes.memoryCreate] } := by
  rw [registrySubKeysFromHandleEnumerate]
  simp [h, hmemory]

theorem enumerate_loop (h : outcomes.subKeys ≠ [])
    (hmemory : ntSuccess outcomes.memoryCreate = true) :
    registrySubKeysFromHandleEnumerate registryEnumerationFunction outcomes c =
      (subKeysLoop registryEnumerationFunction outcomes.subKeys outcomes.memoryCreate c).after
        [.queryInfoKey outcomes.regQueryInfoKey, .memoryCreate outcomes.memoryCreate] := by
  rw [registrySubKeysFromHandleEnumerate]
  simp [h, hmemory]

end Stages

variable {outcomes : RegistryOutcomes (FirmwareKey Name)}
  {collection : List (DriverFirmwareInformation Name)}

/-- The run without subkeys. -/
theorem enumeratesFirmware_noSubKeys (h : outcomes.subKeys = []) :
    EnumeratesFirmware outcomes collection
        (registrySubKeysFromHandleEnumerate registryFirmwareInformationEnumerate outcomes
          collection) ↔
      outcomes.regQueryInfoKey.code = 0 := by
  rw [enumerate_noSubKeys collection h]
  constructor
  · intro hrun
    by_contra hcode
    have hfailed := hrun.reported ⟨.queryInfoKey outcomes.regQueryInfoKey, by simp, hcode⟩
    rw [ntSuccess_win32Error] at hfailed
    simp at hfailed
  · intro hcode
    constructor
    · intro o ho
      simp at ho
    · rintro ⟨call, hcall, hfailed⟩
      simp only [List.mem_cons, List.not_mem_nil, or_false] at hcall
      rcases hcall with rfl | rfl
      · exact absurd hcode hfailed
      · exact hfailed.elim
    · intro _
      simp [h]

/-- The run without memory for the names. -/
theorem enumeratesFirmware_noMemory (h : outcomes.subKeys ≠ [])
    (hmemory : ntSuccess outcomes.memoryCreate = false)
    (collection : List (DriverFirmwareInformation Name)) :
    EnumeratesFirmware outcomes collection
      (registrySubKeysFromHandleEnumerate registryFirmwareInformationEnumerate outcomes
        collection) := by
  rw [enumerate_noMemory collection h hmemory]
  constructor
  · intro o ho
    simp at ho
  · intro _
    exact hmemory
  · intro hnone
    exact absurd hmemory (hnone (.memoryCreate outcomes.memoryCreate) (by simp))

/-- The enumeration function is called as the loop calls it. -/
theorem enumerationFunction_iff (h : outcomes.subKeys ≠ [])
    (hmemory : ntSuccess outcomes.memoryCreate = true)
    (collection : List (DriverFirmwareInformation Name)) (o : SubKeyOutcome (FirmwareKey Name)) :
    .enumerationFunction o ∈
        (registrySubKeysFromHandleEnumerate registryFirmwareInformationEnumerate outcomes
          collection).calls ↔
      o ∈ outcomes.subKeys.takeWhile SubKeyOutcome.opens := by
  rw [enumerate_loop collection h hmemory,
    ← subKeysLoop_callback_iff registryFirmwareInformationEnumerate o outcomes.memoryCreate
      collection]
  simp [EnumerationResult.after]

/-- The run when a key cannot be opened. -/
theorem enumeratesFirmware_notOpened (h : outcomes.subKeys ≠ [])
    (hmemory : ntSuccess outcomes.memoryCreate = true)
    (hclosed : ∃ o ∈ outcomes.subKeys, o.opens = false) :
    EnumeratesFirmware outcomes collection
        (registrySubKeysFromHandleEnumerate registryFirmwareInformationEnumerate outcomes
          collection) ↔
      ∀ o ∈ outcomes.subKeys.takeWhile SubKeyOutcome.opens, o.regEnumKeyEx.code = 0 := by
  constructor
  · intro hrun o ho
    exact (hrun.enumerated o ((enumerationFunction_iff h hmemory collection o).2 ho)).1
  · intro hcodes
    have hcalled := enumerationFunction_iff h hmemory collection
    constructor
    · intro o ho
      have hmem := (hcalled o).1 ho
      exact ⟨hcodes o hmem, List.mem_takeWhile_imp hmem⟩
    · intro _
      rw [enumerate_loop collection h hmemory]
      exact (subKeysLoop_failed_iff hmemory collection).2 hclosed
    · intro hnone
      rw [enumerate_loop collection h hmemory] at hnone
      obtain ⟨call, hcall, hfailed⟩ :=
        subKeysLoop_calls_failed registryFirmwareInformationEnumerate hclosed
          outcomes.memoryCreate collection
      exact absurd hfailed (hnone call (List.mem_append_right _ hcall))

theorem takeWhile_of_opened {K : Type} {subKeys : List (SubKeyOutcome K)}
    (hopened : ∀ o ∈ subKeys, o.opens = true) :
    subKeys.takeWhile SubKeyOutcome.opens = subKeys :=
  List.takeWhile_eq_self_iff.2 hopened

/-- The run when every key is opened. -/
theorem enumeratesFirmware_opened (h : outcomes.subKeys ≠ [])
    (hmemory : ntSuccess outcomes.memoryCreate = true)
    (hopened : ∀ o ∈ outcomes.subKeys, o.opens = true) :
    EnumeratesFirmware outcomes collection
        (registrySubKeysFromHandleEnumerate registryFirmwareInformationEnumerate outcomes
          collection) ↔
      outcomes.regQueryInfoKey.code = 0 ∧ ∀ o ∈ outcomes.subKeys, o.regEnumKeyEx.code = 0 := by
  have hcalled := enumerationFunction_iff h hmemory collection
  have hstatus : ¬ ntSuccess (subKeysLoop registryFirmwareInformationEnumerate outcomes.subKeys
      outcomes.memoryCreate collection).ntStatus = false := by
    rw [subKeysLoop_failed_iff hmemory]
    rintro ⟨o, ho, hclosed⟩
    rw [hopened o ho] at hclosed
    simp at hclosed
  rw [takeWhile_of_opened hopened] at hcalled
  constructor
  · intro hrun
    constructor
    · by_contra hcode
      have hreported := hrun.reported
      rw [enumerate_loop collection h hmemory] at hreported
      exact hstatus (hreported ⟨.queryInfoKey outcomes.regQueryInfoKey,
        List.mem_append_left _ List.mem_cons_self, hcode⟩)
    · intro o ho
      exact (hrun.enumerated o ((hcalled o).2 ho)).1
  · rintro ⟨hquery, hcodes⟩
    constructor
    · intro o ho
      have hmem := (hcalled o).1 ho
      exact ⟨hcodes o hmem, hopened o hmem⟩
    · rw [enumerate_loop collection h hmemory]
      rintro ⟨call, hcall, hfailed⟩
      rcases List.mem_append.1 hcall with hfirst | hloop
      · simp only [List.mem_cons, List.not_mem_nil, or_false] at hfirst
        rcases hfirst with rfl | rfl
        · exact absurd hquery hfailed
        · rw [RegistryCall.Failed, hmemory] at hfailed
          simp at hfailed
      · obtain ⟨o, ho, hcode⟩ :=
          (exists_failed_iff_of_opened hopened outcomes.memoryCreate collection).1
            ⟨call, hloop, hfailed⟩
        exact absurd (hcodes o ho) hcode
    · intro _
      rw [enumerate_loop collection h hmemory]
      exact subKeysLoop_collection hopened outcomes.memoryCreate collection

/-- For which outcomes of the calls the enumeration reports its failures, looks only under
enumerated names, and collects the firmware. -/
theorem enumeratesFirmware_iff (outcomes : RegistryOutcomes (FirmwareKey Name))
    (collection : List (DriverFirmwareInformation Name)) :
    EnumeratesFirmware outcomes collection
        (registrySubKeysFromHandleEnumerate registryFirmwareInformationEnumerate outcomes
          collection) ↔
      outcomes.Enumerable := by
  unfold RegistryOutcomes.Enumerable
  by_cases hnil : outcomes.subKeys = []
  · rw [enumeratesFirmware_noSubKeys hnil, hnil]
    simp
  · by_cases hmemory : ntSuccess outcomes.memoryCreate = true
    · by_cases hclosed : ∃ o ∈ outcomes.subKeys, o.opens = false
      · rw [enumeratesFirmware_notOpened hnil hmemory hclosed]
        constructor
        · intro hcodes
          exact ⟨Or.inr ⟨hnil, Or.inr hclosed⟩, fun _ => hcodes⟩
        · rintro ⟨_, hcodes⟩
          exact hcodes hmemory
      · have hopened : ∀ o ∈ outcomes.subKeys, o.opens = true := by
          intro o ho
          by_contra hopen
          exact hclosed ⟨o, ho, Bool.eq_false_iff.2 hopen⟩
        rw [enumeratesFirmware_opened hnil hmemory hopened, takeWhile_of_opened hopened]
        constructor
        · rintro ⟨hquery, hcodes⟩
          exact ⟨Or.inl hquery, fun _ => hcodes⟩
        · rintro ⟨hquery | ⟨_, hfailed | hfailed⟩, hcodes⟩
          · exact ⟨hquery, hcodes hmemory⟩
          · rw [hmemory] at hfailed
            simp at hfailed
          · exact absurd hfailed hclosed
    · have hfailed := Bool.eq_false_iff.2 hmemory
      have hrun := enumeratesFirmware_noMemory hnil hfailed collection
      constructor
      · intro _
        exact ⟨Or.inr ⟨hnil, Or.inl hfailed⟩, fun hsuccess => absurd hsuccess hmemory⟩
      · intro _
        exact hrun

/-- {lit}`ERROR_ACCESS_DENIED` -/
def accessDenied : Win32Error where
  code := 5
  code_lt := by decide

/-- {lit}`ERROR_MORE_DATA` -/
def moreData : Win32Error where
  code := 234
  code_lt := by decide

/-- A subkey whose name could not be read, and whose buffer names the parent key. -/
def unnamedSubKey : SubKeyOutcome (FirmwareKey String) where
  regEnumKeyEx := moreData
  subKeyName := []
  openKey := 0
  firmwareInformationSubkey :=
    { createOfferFileName := 0, createPayloadFileName := 0, queryOffer := 0,
      offerFileName := "offer.bin", queryPayload := 0, payloadFileName := "payload.bin",
      memoryCreate := 0, collectionAdd := 0 }

/-- An error of {lit}`RegQueryInfoKey` is returned as a success, and the enumeration function
is called for a name that was not read. -/
theorem win32_errors_taken_for_success :
    ntSuccess (registrySubKeysFromHandleEnumerate registryFirmwareInformationEnumerate
        { regQueryInfoKey := accessDenied, memoryCreate := 0, subKeys := [] }
        ([] : List (DriverFirmwareInformation String))).ntStatus = true ∧
      (registrySubKeysFromHandleEnumerate registryFirmwareInformationEnumerate
        { regQueryInfoKey := .success, memoryCreate := 0, subKeys := [unnamedSubKey] } []).calls =
      [.queryInfoKey .success, .memoryCreate 0, .enumKeyEx unnamedSubKey, .openKey unnamedSubKey,
        .enumerationFunction unnamedSubKey] ∧
      unnamedSubKey.regEnumKeyEx.code ≠ 0 := by
  refine ⟨rfl, rfl, ?_⟩
  decide

end Runs

end Driver
end CFU
