import CFU.Library.Bytes
import CFU.Library.ResultCodes
import CFU.Tool.Settings
import Mathlib.Data.List.GetD

/-!
# CFU tool - the search for devices

The tool walks through the list of HID interfaces and asks each one that passes the
filters of the settings for its version.  An interface is listed when its query left a
success code behind.

Main results:

- Theorem {lit}`getVersion_outcome`: for which interfaces the code of the query says
  whether the device answered.
- Theorem {lit}`walkInterfaces_of_judged`: the list when no interface is misjudged.
- Theorem {lit}`walkInterfaces_length`: every interface that is misjudged adds one entry.
- Theorem {lit}`lists_answering_iff`: which searches list the devices that answered and
  return a matching code.
-/

namespace CFU
namespace Tool

open LittleEndian ResultCode

/-! ## Interfaces -/

section Interfaces

/-- {lit}`HIDP_CAPS`, as far as it is used. -/
structure HidpCaps where
  usage : UInt16
  usagePage : UInt16
  featureReportByteLength : UInt16
  numberInputValueCaps : UInt16
  numberOutputValueCaps : UInt16
  numberFeatureValueCaps : UInt16
deriving DecidableEq, Repr

/-- The status of {lit}`HidP_GetSpecificValueCaps`, the number of entries that it found,
and the report id of the first one. -/
structure ValueCapsAnswer where
  status : UInt32
  count : UInt16
  reportId : UInt8
deriving DecidableEq, Repr

/-- An interface of the list, with what the calls on it answer.  The first calls fail with
a last error.  The preparsed data and the capabilities are fetched twice. -/
structure HidInterface where
  devicePath : List Char
  devicePath_ne : devicePath ≠ []
  createFileError : Option UInt32
  preparsedDataError : Option UInt32
  capsStatus : UInt32
  caps : HidpCaps
  preparsedDataAgain : Bool
  capsStatusAgain : UInt32
  capsAgain : HidpCaps
  getSpecificValueCaps : HidpReportType → UInt16 → UInt16 → UInt16 → ValueCapsAnswer
  getFeature : UInt8 → Option (ℕ → UInt8)

/-- {lit}`VersionReport` -/
structure VersionReport where
  id : UInt8
  header : UInt32
  dVersion : UInt32
  property : UInt32
deriving DecidableEq, Repr

/-- The report after {lit}`memset`. -/
def VersionReport.zero : VersionReport where
  id := 0
  header := 0
  dVersion := 0
  property := 0

/-- The packed structure at the start of a buffer. -/
def VersionReport.ofBytes (buffer : List UInt8) : VersionReport where
  id := buffer.getD 0 0
  header := UInt32.ofNat (word 1 4 buffer)
  dVersion := UInt32.ofNat (word 5 4 buffer)
  property := UInt32.ofNat (word 9 4 buffer)

/-- {lit}`sizeof(VersionReport)` -/
def sizeofVersionReport : ℕ := 13

/-- {lit}`PathAndVersion` -/
structure PathAndVersion where
  devicePath : List Char
  version : VersionReport
deriving DecidableEq, Repr

/-- What goes wrong in memory: a byte is written behind an allocation without bytes, or
{lit}`memcpy_s` finds its destination too small. -/
inductive QueryFault where
  | heapOverrun
  | invalidParameter
deriving DecidableEq, Repr

/-- The size of {lit}`reportBuffer`. -/
def reportBufferSize : ℕ := 1024

/-- A digit of {lit}`%X`. -/
def hexDigit (digit : ℕ) : Char :=
  if digit < 10 then Char.ofNat (48 + digit) else Char.ofNat (55 + digit)

/-- {lit}`%04X` -/
def fourHexDigits (value : UInt16) : List Char :=
  [hexDigit (value.toNat / 4096), hexDigit (value.toNat / 256 % 16),
    hexDigit (value.toNat / 16 % 16), hexDigit (value.toNat % 16)]

/-- {lit}`vidPidFilterString`: the product is left out unless both are set. -/
def vidPidFilterString (vid pid : UInt16) : List Char :=
  if vid = 0 then "VID_".toList ++ fourHexDigits vid
  else if pid = 0 then "VID_".toList ++ fourHexDigits vid
  else "VID_".toList ++ fourHexDigits vid ++ ("&PID_".toList ++ fourHexDigits pid)

/-- {lit}`wcsstr`: whether a text contains another one. -/
def wcsstr : List Char → List Char → Bool
  | [], part => part.isEmpty
  | c :: text, part => part.isPrefixOf (c :: text) || wcsstr text part

/-- The path contains the filter. -/
def HidInterface.matchesPath (i : HidInterface) (vid pid : UInt16) : Bool :=
  wcsstr i.devicePath (vidPidFilterString vid pid)

/-- The top level collection is filtered when it is set. -/
def HidInterface.matchesUsageTlc (i : HidInterface) (usageTlc : UInt16) : Bool :=
  decide (usageTlc = 0) || decide (i.caps.usage = usageTlc)

/-- {lit}`PopulateReportId`: the report id when the usage is found. -/
def HidInterface.populateReportId (i : HidInterface) (inOutFeature : HidpReportType)
    (usage : UInt16) : Option UInt8 :=
  if i.preparsedDataAgain then
    if ntSuccess i.capsStatusAgain then
      let answer := i.getSpecificValueCaps inOutFeature 0 usage
        (i.capsAgain.numberFeatureValueCaps + i.capsAgain.numberInputValueCaps +
          i.capsAgain.numberOutputValueCaps)
      if ntSuccess answer.status then
        if answer.count = 0 then none else some answer.reportId
      else none
    else none
  else none

/-- {lit}`HidP_GetSpecificValueCaps` for the features of a usage. -/
def HidInterface.featureValueCaps (i : HidInterface) (usagePage usage : UInt16) :
    ValueCapsAnswer :=
  i.getSpecificValueCaps .feature usagePage usage i.capsAgain.numberFeatureValueCaps

/-- {lit}`GetFeatureReport`: {lit}`reportBuffer` and the length read when it succeeds. -/
def HidInterface.getFeatureReport (i : HidInterface) (usagePage usage : UInt16) :
    Except QueryFault (Option (List UInt8 × ℕ)) :=
  if i.capsAgain.numberFeatureValueCaps = 0 then .ok none
  else if ntSuccess (i.featureValueCaps usagePage usage).status then
    if (i.featureValueCaps usagePage usage).count = 1 then
      -- the report id is written to the first byte before the call
      if i.capsAgain.featureReportByteLength = 0 then .error .heapOverrun
      else
        match i.getFeature (i.featureValueCaps usagePage usage).reportId with
        | none => .ok none
        | some cells =>
            let reportLength := i.capsAgain.featureReportByteLength.toNat
            if reportLength ≤ reportBufferSize then
              .ok (some ((List.range reportLength).map cells ++
                List.replicate (reportBufferSize - reportLength) 0, reportLength))
            else .error .invalidParameter
    else .ok none
  else .ok none

/-- The id of a report is stored in the settings. -/
def ProtocolSettings.setReportId (settings : ProtocolSettings) (report : FwCfuUpdateReports)
    (id : UInt8) : ProtocolSettings :=
  { settings with
    reports := Function.update settings.reports report { settings.reports report with id := id } }

/-- The end of {lit}`GetVersion`, behind the call of {lit}`GetFeatureReport`. -/
def judgeFeatureReport (settings : ProtocolSettings) :
    Except QueryFault (Option (List UInt8 × ℕ)) →
      Except QueryFault (UInt32 × VersionReport × ProtocolSettings)
  | .error fault => .error fault
  -- there is no branch for a query that fails
  | .ok none => .ok (sOk, .zero, settings)
  | .ok (some (reportBuffer, reportLengthRead)) =>
      if reportLengthRead < sizeofVersionReport then
        .ok (hresultFromWin32 errorNotFound, .zero, settings)
      else .ok (sOk, .ofBytes reportBuffer, settings)

/-- {lit}`GetVersion` behind the call of {lit}`HidD_GetPreparsedData`. -/
def getOpenedVersion (i : HidInterface) (settings : ProtocolSettings) :
    Except QueryFault (UInt32 × VersionReport × ProtocolSettings) :=
  if ntSuccess i.capsStatus then
    if i.caps.usagePage = settings.usagePage then
      if i.matchesUsageTlc settings.usageTlc then
        match i.populateReportId (settings.reports .fwUpdateVersion).inOutFeature
          (settings.reports .fwUpdateVersion).usage with
        | none => .ok (hresultFromWin32 errorNotFound, .zero, settings)
        | some id =>
            let settings := settings.setReportId .fwUpdateVersion id
            judgeFeatureReport settings
              (i.getFeatureReport settings.usagePage (settings.reports .fwUpdateVersion).usage)
      else .ok (hresultFromWin32 errorNotFound, .zero, settings)
    else .ok (hresultFromWin32 errorNotFound, .zero, settings)
  else .ok (hresultFromWin32 i.capsStatus, .zero, settings)

/-- {lit}`GetVersion`: the code, {lit}`VerReport`, and the settings behind it. -/
def getVersion (i : HidInterface) (settings : ProtocolSettings) :
    Except QueryFault (UInt32 × VersionReport × ProtocolSettings) :=
  if i.matchesPath settings.vid settings.pid then
    match i.createFileError with
    | some lastError => .ok (hresultFromWin32 lastError, .zero, settings)
    | none =>
        match i.preparsedDataError with
        | some lastError => .ok (hresultFromWin32 lastError, .zero, settings)
        | none => getOpenedVersion i settings
  else .ok (hresultFromWin32 errorNotFound, .zero, settings)

/-- The walk over the list. -/
def walkInterfaces : List HidInterface → UInt32 → List PathAndVersion → ProtocolSettings →
    Except QueryFault (UInt32 × List PathAndVersion × ProtocolSettings)
  | [], hr, vectorInterfaces, settings => .ok (hr, vectorInterfaces, settings)
  | i :: rest, _, vectorInterfaces, settings =>
      match getVersion i settings with
      | .error fault => .error fault
      | .ok (hr, version, settings) =>
          if succeeded hr then
            walkInterfaces rest hr (vectorInterfaces ++ [⟨i.devicePath, version⟩]) settings
          else walkInterfaces rest hr vectorInterfaces settings

/-- How the list of the interfaces is retrieved. -/
inductive InterfaceList where
  | sizeUnknown (cr : UInt32) (hcr : cr ≠ 0)
  | outOfMemory
  | notRetrieved (cr : UInt32) (hcr : cr ≠ 0)
  | retrieved (interfaces : List HidInterface)

/-- {lit}`RetrieveDevicesWithVersions`: the code, {lit}`VectorInterfaces`, and the
settings behind it. -/
def retrieveDevicesWithVersions (list : InterfaceList) (settings : ProtocolSettings) :
    Except QueryFault (UInt32 × List PathAndVersion × ProtocolSettings) :=
  match list with
  | .sizeUnknown cr _ => .ok (hresultFromWin32 cr, [], settings)
  | .outOfMemory => .ok (eOutOfMemory, [], settings)
  | .notRetrieved cr _ => .ok (hresultFromWin32 cr, [], settings)
  | .retrieved interfaces =>
      match walkInterfaces interfaces sOk [] settings with
      | .error fault => .error fault
      | .ok (hr, vectorInterfaces, settings) =>
          .ok (if vectorInterfaces.isEmpty then hr else sOk, vectorInterfaces, settings)

end Interfaces

/-! ## Answers -/

section Answers

/-- What the settings ask for. -/
structure VersionQuery where
  vid : UInt16
  pid : UInt16
  usagePage : UInt16
  usageTlc : UInt16
  usage : UInt16
  inOutFeature : HidpReportType
deriving DecidableEq, Repr

/-- The query of the settings. -/
def ProtocolSettings.versionQuery (settings : ProtocolSettings) : VersionQuery where
  vid := settings.vid
  pid := settings.pid
  usagePage := settings.usagePage
  usageTlc := settings.usageTlc
  usage := (settings.reports .fwUpdateVersion).usage
  inOutFeature := (settings.reports .fwUpdateVersion).inOutFeature

@[simp]
theorem versionQuery_setReportId (settings : ProtocolSettings) (report : FwCfuUpdateReports)
    (id : UInt8) : (settings.setReportId report id).versionQuery = settings.versionQuery := by
  by_cases hreport : report = .fwUpdateVersion
  · subst hreport
    simp [ProtocolSettings.versionQuery, ProtocolSettings.setReportId]
  · simp [ProtocolSettings.versionQuery, ProtocolSettings.setReportId,
      Function.update_of_ne (Ne.symm hreport)]

variable (q : VersionQuery) (i : HidInterface)

/-- The interface could be opened and its capabilities read. -/
def HidInterface.Opened : Prop :=
  i.createFileError = none ∧ i.preparsedDataError = none ∧ ntSuccess i.capsStatus = true

/-- The interface passes the filters of the settings. -/
def HidInterface.PassesFilters : Prop :=
  i.matchesPath q.vid q.pid = true ∧ i.caps.usagePage = q.usagePage ∧
    i.matchesUsageTlc q.usageTlc = true

/-- The interface could be opened, passes the filters, and has a report for the version. -/
structure HidInterface.IsQueried : Prop where
  opened : i.Opened
  filters : i.PassesFilters q
  reportId : (i.populateReportId q.inOutFeature q.usage).isSome = true

/-- The report that answers the feature query. -/
def HidInterface.FeatureAnswer (report : List UInt8) : Prop :=
  i.capsAgain.numberFeatureValueCaps ≠ 0 ∧
    ntSuccess (i.featureValueCaps q.usagePage q.usage).status = true ∧
    (i.featureValueCaps q.usagePage q.usage).count = 1 ∧
    ∃ cells, i.getFeature (i.featureValueCaps q.usagePage q.usage).reportId = some cells ∧
      report = (List.range i.capsAgain.featureReportByteLength.toNat).map cells

/-- The interface belongs in the list, with the version that it reported. -/
def HidInterface.Reports (version : VersionReport) : Prop :=
  i.IsQueried q ∧ ∃ report, i.FeatureAnswer q report ∧ sizeofVersionReport ≤ report.length ∧
    version = .ofBytes report

/-- The code of the query does not say whether the interface belongs in the list: a call
failed without a last error, nothing answered the feature query, or the report does not
fit into the buffer. -/
inductive HidInterface.Misjudged : Prop
  | createFile (hpath : i.matchesPath q.vid q.pid = true) (herror : i.createFileError = some 0)
  | preparsedData (hpath : i.matchesPath q.vid q.pid = true) (hopen : i.createFileError = none)
      (herror : i.preparsedDataError = some 0)
  | unanswered (hqueried : i.IsQueried q) (hanswer : ∀ report, ¬ i.FeatureAnswer q report)
  | misfit (hqueried : i.IsQueried q) (report : List UInt8) (hanswer : i.FeatureAnswer q report)
      (hlength : report = [] ∨ reportBufferSize < report.length)

variable {q i}

/-- A report of the feature query is unique. -/
theorem HidInterface.FeatureAnswer.unique {report report' : List UInt8}
    (h : i.FeatureAnswer q report) (h' : i.FeatureAnswer q report') : report = report' := by
  obtain ⟨_, _, _, cells, hcells, rfl⟩ := h
  obtain ⟨_, _, _, cells', hcells', rfl⟩ := h'
  rw [hcells, Option.some.injEq] at hcells'
  rw [hcells']

theorem HidInterface.FeatureAnswer.length {report : List UInt8} (h : i.FeatureAnswer q report) :
    report.length = i.capsAgain.featureReportByteLength.toNat := by
  obtain ⟨_, _, _, cells, _, rfl⟩ := h
  simp

/-- What stands behind the report in the buffer does not matter. -/
theorem VersionReport.ofBytes_append {report : List UInt8}
    (h : sizeofVersionReport ≤ report.length) (rest : List UInt8) :
    ofBytes (report ++ rest) = ofBytes report := by
  unfold sizeofVersionReport at h
  have hid : (report ++ rest).getD 0 0 = report.getD 0 0 :=
    List.getD_append report rest 0 0 (by omega)
  unfold ofBytes
  rw [hid, word_append (by omega), word_append (by omega), word_append (by omega)]

/-- What {lit}`GetFeatureReport` makes of the answer to the feature query. -/
inductive FeatureOutcome (q : VersionQuery) (i : HidInterface) :
    Except QueryFault (Option (List UInt8 × ℕ)) → Prop
  | nothing (hanswer : ∀ report, ¬ i.FeatureAnswer q report) : FeatureOutcome q i (.ok none)
  | overrun (hlength : ∀ report, i.FeatureAnswer q report → report = []) :
      FeatureOutcome q i (.error .heapOverrun)
  | tooLong (report : List UInt8) (hanswer : i.FeatureAnswer q report)
      (hlength : reportBufferSize < report.length) :
      FeatureOutcome q i (.error .invalidParameter)
  | report (report : List UInt8) (hanswer : i.FeatureAnswer q report) (hne : report ≠ [])
      (hlength : report.length ≤ reportBufferSize) :
      FeatureOutcome q i (.ok (some
        (report ++ List.replicate (reportBufferSize - report.length) 0, report.length)))

theorem getFeatureReport_outcome (q : VersionQuery) (i : HidInterface) :
    FeatureOutcome q i (i.getFeatureReport q.usagePage q.usage) := by
  unfold HidInterface.getFeatureReport
  by_cases hcaps : i.capsAgain.numberFeatureValueCaps = 0
  · rw [if_pos hcaps]
    exact .nothing fun _ hanswer => hanswer.1 hcaps
  rw [if_neg hcaps]
  by_cases hstatus : ntSuccess (i.featureValueCaps q.usagePage q.usage).status = true
  swap
  · rw [if_neg hstatus]
    exact .nothing fun _ hanswer => hstatus hanswer.2.1
  rw [if_pos hstatus]
  by_cases hcount : (i.featureValueCaps q.usagePage q.usage).count = 1
  swap
  · rw [if_neg hcount]
    exact .nothing fun _ hanswer => hcount hanswer.2.2.1
  rw [if_pos hcount]
  by_cases hzero : i.capsAgain.featureReportByteLength = 0
  · rw [if_pos hzero]
    apply FeatureOutcome.overrun
    intro report hanswer
    have hlength := hanswer.length
    rw [hzero] at hlength
    exact List.eq_nil_of_length_eq_zero hlength
  rw [if_neg hzero]
  cases hfeature : i.getFeature (i.featureValueCaps q.usagePage q.usage).reportId with
  | none =>
      apply FeatureOutcome.nothing
      rintro report ⟨_, _, _, cells, hcells, _⟩
      rw [hfeature] at hcells
      simp at hcells
  | some cells =>
      have hanswer : i.FeatureAnswer q
          ((List.range i.capsAgain.featureReportByteLength.toNat).map cells) :=
        ⟨hcaps, hstatus, hcount, cells, hfeature, rfl⟩
      have hlength := hanswer.length
      have hpos : i.capsAgain.featureReportByteLength.toNat ≠ 0 := by
        intro h
        exact hzero (UInt16.toNat_inj.1 h)
      by_cases hfits : i.capsAgain.featureReportByteLength.toNat ≤ reportBufferSize
      · have houtcome := FeatureOutcome.report _ hanswer
          (List.ne_nil_of_length_pos (by omega)) (by omega)
        rw [hlength] at houtcome
        simpa [hfits] using houtcome
      · have houtcome := FeatureOutcome.tooLong _ hanswer (by omega)
        simpa [hfits] using houtcome

/-- An interface that is not queried does not belong in the list. -/
theorem not_reports_of_not_queried (h : ¬ i.IsQueried q) (version : VersionReport) :
    ¬ i.Reports q version :=
  fun hreports => h hreports.1

theorem not_misjudged_of_not_queried (h : ¬ i.IsQueried q)
    (hcreate : i.matchesPath q.vid q.pid = true → i.createFileError ≠ some 0)
    (hdata : i.createFileError = none → i.preparsedDataError ≠ some 0) : ¬ i.Misjudged q := by
  intro hmisjudged
  cases hmisjudged with
  | createFile hpath herror => exact hcreate hpath herror
  | preparsedData _ hopen herror => exact hdata hopen herror
  | unanswered hqueried _ => exact h hqueried
  | misfit hqueried _ _ _ => exact h hqueried

theorem not_misjudged_of_answer (h : i.IsQueried q) {report : List UInt8}
    (hanswer : i.FeatureAnswer q report) (hne : report ≠ [])
    (hlength : report.length ≤ reportBufferSize) : ¬ i.Misjudged q := by
  intro hmisjudged
  cases hmisjudged with
  | createFile _ herror =>
      rw [h.opened.1] at herror
      simp at herror
  | preparsedData _ _ herror =>
      rw [h.opened.2.1] at herror
      simp at herror
  | unanswered _ hno => exact hno report hanswer
  | misfit _ report' hanswer' hlength' =>
      rw [hanswer'.unique hanswer] at hlength'
      rcases hlength' with hnil | hlong
      · exact hne hnil
      · omega

/-- What a query says about an interface. -/
inductive QueryOutcome (i : HidInterface) (settings : ProtocolSettings) :
    Except QueryFault (UInt32 × VersionReport × ProtocolSettings) → Prop
  | lists (version : VersionReport) (settings' : ProtocolSettings)
      (hkept : settings'.versionQuery = settings.versionQuery)
      (hreports : i.Reports settings.versionQuery version)
      (hjudged : ¬ i.Misjudged settings.versionQuery) :
      QueryOutcome i settings (.ok (sOk, version, settings'))
  | skips (hr : UInt32) (version : VersionReport) (settings' : ProtocolSettings)
      (hfailed : succeeded hr = false)
      (hkept : settings'.versionQuery = settings.versionQuery)
      (hreports : ∀ version, ¬ i.Reports settings.versionQuery version)
      (hjudged : ¬ i.Misjudged settings.versionQuery) :
      QueryOutcome i settings (.ok (hr, version, settings'))
  | misjudges (hr : UInt32) (version : VersionReport) (settings' : ProtocolSettings)
      (hsucceeded : succeeded hr = true)
      (hkept : settings'.versionQuery = settings.versionQuery)
      (hreports : ∀ version, ¬ i.Reports settings.versionQuery version)
      (hmisjudged : i.Misjudged settings.versionQuery) :
      QueryOutcome i settings (.ok (hr, version, settings'))
  | faults (fault : QueryFault) (hmisjudged : i.Misjudged settings.versionQuery) :
      QueryOutcome i settings (.error fault)

variable {settings : ProtocolSettings}

/-- A call that fails leaves its last error as the code. -/
theorem QueryOutcome.of_lastError (lastError : UInt32)
    (hqueried : ¬ i.IsQueried settings.versionQuery)
    (hmisjudged : i.Misjudged settings.versionQuery ↔ lastError = 0) :
    QueryOutcome i settings (.ok (hresultFromWin32 lastError, .zero, settings)) := by
  have hreports := not_reports_of_not_queried hqueried
  by_cases hzero : lastError = 0
  · have hsucceeded := (succeeded_hresultFromWin32 lastError).2 hzero
    exact .misjudges _ _ _ hsucceeded rfl hreports (hmisjudged.2 hzero)
  · have hfailed : succeeded (hresultFromWin32 lastError) = false := by
      rw [← Bool.not_eq_true, succeeded_hresultFromWin32]
      exact hzero
    exact .skips _ _ _ hfailed rfl hreports (fun h => hzero (hmisjudged.1 h))

/-- An interface that is turned down is skipped. -/
theorem QueryOutcome.of_turnedDown {hr : UInt32} (hfailed : succeeded hr = false)
    (hqueried : ¬ i.IsQueried settings.versionQuery)
    (hcreate : i.matchesPath settings.vid settings.pid = true → i.createFileError ≠ some 0)
    (hdata : i.createFileError = none → i.preparsedDataError ≠ some 0) :
    QueryOutcome i settings (.ok (hr, .zero, settings)) :=
  .skips _ _ _ hfailed rfl (not_reports_of_not_queried hqueried)
    (not_misjudged_of_not_queried hqueried hcreate hdata)

theorem succeeded_notFound : succeeded (hresultFromWin32 errorNotFound) = false := by
  decide

/-- The end of a query of an interface that is asked for its version. -/
theorem QueryOutcome.of_queried {settings' : ProtocolSettings}
    (hqueried : i.IsQueried settings.versionQuery)
    (hkept : settings'.versionQuery = settings.versionQuery)
    {answer : Except QueryFault (Option (List UInt8 × ℕ))}
    (hanswer : FeatureOutcome settings.versionQuery i answer) :
    QueryOutcome i settings (judgeFeatureReport settings' answer) := by
  cases hanswer with
  | nothing hno =>
      apply QueryOutcome.misjudges _ _ _ rfl hkept _ (.unanswered hqueried hno)
      rintro version ⟨_, report, hreport, _⟩
      exact hno report hreport
  | overrun hnil =>
      apply QueryOutcome.faults
      by_cases hno : ∀ report, ¬ i.FeatureAnswer settings.versionQuery report
      · exact .unanswered hqueried hno
      · rw [not_forall] at hno
        obtain ⟨report, hreport⟩ := hno
        rw [not_not] at hreport
        exact .misfit hqueried report hreport (Or.inl (hnil report hreport))
  | tooLong report hreport hlength =>
      exact .faults _ (.misfit hqueried report hreport (Or.inr hlength))
  | report report hreport hne hlength =>
      have hjudged := not_misjudged_of_answer hqueried hreport hne hlength
      by_cases hshort : report.length < sizeofVersionReport
      · rw [judgeFeatureReport, if_pos hshort]
        apply QueryOutcome.skips _ _ _ succeeded_notFound hkept _ hjudged
        rintro version ⟨_, report', hreport', hlong, _⟩
        rw [hreport'.unique hreport] at hlong
        omega
      · rw [judgeFeatureReport, if_neg hshort]
        have hlong : sizeofVersionReport ≤ report.length := Nat.le_of_not_lt hshort
        exact .lists _ _ hkept
          ⟨hqueried, report, hreport, hlong, VersionReport.ofBytes_append hlong _⟩ hjudged

theorem usage_setReportId (settings : ProtocolSettings) (report : FwCfuUpdateReports)
    (id : UInt8) :
    ((settings.setReportId report id).reports .fwUpdateVersion).usage =
      (settings.reports .fwUpdateVersion).usage :=
  congrArg VersionQuery.usage (versionQuery_setReportId settings report id)

/-- The query of an interface that could be opened. -/
theorem getOpenedVersion_outcome (hcreate : i.createFileError = none)
    (hdata : i.preparsedDataError = none) (hpath : i.matchesPath settings.vid settings.pid = true) :
    QueryOutcome i settings (getOpenedVersion i settings) := by
  have hcreate' : i.matchesPath settings.vid settings.pid = true → i.createFileError ≠ some 0 := by
    simp [hcreate]
  have hdata' : i.createFileError = none → i.preparsedDataError ≠ some 0 := by
    simp [hdata]
  unfold getOpenedVersion
  by_cases hcaps : ntSuccess i.capsStatus = true
  swap
  · rw [if_neg hcaps]
    have hqueried : ¬ i.IsQueried settings.versionQuery := fun h => hcaps h.opened.2.2
    have hfailed := not_succeeded_of_not_ntSuccess (Bool.eq_false_iff.2 hcaps)
    exact .of_turnedDown hfailed hqueried hcreate' hdata'
  rw [if_pos hcaps]
  by_cases hpage : i.caps.usagePage = settings.usagePage
  swap
  · rw [if_neg hpage]
    have hqueried : ¬ i.IsQueried settings.versionQuery := fun h => hpage h.filters.2.1
    exact .of_turnedDown succeeded_notFound hqueried hcreate' hdata'
  rw [if_pos hpage]
  by_cases htlc : i.matchesUsageTlc settings.usageTlc = true
  swap
  · rw [if_neg htlc]
    have hqueried : ¬ i.IsQueried settings.versionQuery := fun h => htlc h.filters.2.2
    exact .of_turnedDown succeeded_notFound hqueried hcreate' hdata'
  rw [if_pos htlc]
  cases hid : i.populateReportId (settings.reports .fwUpdateVersion).inOutFeature
    (settings.reports .fwUpdateVersion).usage with
  | none =>
      have hqueried : ¬ i.IsQueried settings.versionQuery := by
        intro h
        have hsome : (i.populateReportId (settings.reports .fwUpdateVersion).inOutFeature
          (settings.reports .fwUpdateVersion).usage).isSome = true := h.reportId
        simp [hid] at hsome
      exact .of_turnedDown succeeded_notFound hqueried hcreate' hdata'
  | some id =>
      have hqueried : i.IsQueried settings.versionQuery :=
        { opened := ⟨hcreate, hdata, hcaps⟩
          filters := ⟨hpath, hpage, htlc⟩
          reportId := Option.isSome_iff_exists.2 ⟨id, hid⟩ }
      have hanswer := getFeatureReport_outcome settings.versionQuery i
      show QueryOutcome i settings (judgeFeatureReport _ _)
      rw [usage_setReportId]
      exact .of_queried hqueried (versionQuery_setReportId settings _ id) hanswer

/-- The query of one interface. -/
theorem getVersion_outcome (i : HidInterface) (settings : ProtocolSettings) :
    QueryOutcome i settings (getVersion i settings) := by
  unfold getVersion
  by_cases hpath : i.matchesPath settings.vid settings.pid = true
  swap
  · rw [if_neg hpath]
    have hqueried : ¬ i.IsQueried settings.versionQuery := fun h => hpath h.filters.1
    refine .skips _ _ _ succeeded_notFound rfl (not_reports_of_not_queried hqueried) ?_
    intro hmisjudged
    cases hmisjudged with
    | createFile hpath' _ => exact hpath hpath'
    | preparsedData hpath' _ _ => exact hpath hpath'
    | unanswered h _ => exact hqueried h
    | misfit h _ _ _ => exact hqueried h
  rw [if_pos hpath]
  cases hcreate : i.createFileError with
  | some lastError =>
      have hqueried : ¬ i.IsQueried settings.versionQuery := by
        intro h
        simp [h.opened.1] at hcreate
      apply QueryOutcome.of_lastError lastError hqueried
      constructor
      · intro hmisjudged
        by_contra hne
        apply not_misjudged_of_not_queried hqueried _ _ hmisjudged
        · simp [hcreate, hne]
        · simp [hcreate]
      · rintro rfl
        exact .createFile hpath hcreate
  | none =>
      cases hdata : i.preparsedDataError with
      | some lastError =>
          have hqueried : ¬ i.IsQueried settings.versionQuery := by
            intro h
            simp [h.opened.2.1] at hdata
          apply QueryOutcome.of_lastError lastError hqueried
          constructor
          · intro hmisjudged
            by_contra hne
            apply not_misjudged_of_not_queried hqueried _ _ hmisjudged
            · simp [hcreate]
            · simp [hdata, hne]
          · rintro rfl
            exact .preparsedData hpath hcreate hdata
      | none => exact getOpenedVersion_outcome hcreate hdata hpath

end Answers

/-! ## The list -/

section Listing

variable {q : VersionQuery} {i : HidInterface} {interfaces : List HidInterface}
  {settings : ProtocolSettings} {devices vectorInterfaces : List PathAndVersion}

/-- The interfaces that belong in the list, in order, with their versions. -/
inductive ListsReporting (q : VersionQuery) : List HidInterface → List PathAndVersion → Prop
  | nil : ListsReporting q [] []
  | reports {i : HidInterface} {version : VersionReport} {rest : List HidInterface}
      {devices : List PathAndVersion} (hreports : i.Reports q version)
      (hrest : ListsReporting q rest devices) :
      ListsReporting q (i :: rest) (⟨i.devicePath, version⟩ :: devices)
  | skips {i : HidInterface} {rest : List HidInterface} {devices : List PathAndVersion}
      (hreports : ∀ version, ¬ i.Reports q version) (hrest : ListsReporting q rest devices) :
      ListsReporting q (i :: rest) devices

theorem walkInterfaces_ok {hr : UInt32} {version : VersionReport} {settings' : ProtocolSettings}
    (h : getVersion i settings = .ok (hr, version, settings')) (hr' : UInt32)
    (vectorInterfaces : List PathAndVersion) :
    walkInterfaces (i :: interfaces) hr' vectorInterfaces settings =
      if succeeded hr then
        walkInterfaces interfaces hr (vectorInterfaces ++ [⟨i.devicePath, version⟩]) settings'
      else walkInterfaces interfaces hr vectorInterfaces settings' := by
  rw [walkInterfaces, h]

/-- When no interface is misjudged, those that belong in the list are appended, and the
code of the last interface is left. -/
theorem walkInterfaces_of_judged (hjudged : ∀ i ∈ interfaces, ¬ i.Misjudged q)
    (hquery : settings.versionQuery = q) (hr : UInt32)
    (vectorInterfaces : List PathAndVersion) :
    ∃ hr' devices settings',
      walkInterfaces interfaces hr vectorInterfaces settings =
          .ok (hr', vectorInterfaces ++ devices, settings') ∧
        ListsReporting q interfaces devices ∧
        (interfaces = [] → hr' = hr) ∧
        (interfaces ≠ [] → devices = [] → succeeded hr' = false) := by
  induction interfaces generalizing settings hr vectorInterfaces with
  | nil =>
      refine ⟨hr, [], settings, ?_, .nil, fun _ => rfl, fun h => absurd rfl h⟩
      rw [walkInterfaces, List.append_nil]
  | cons i interfaces ih =>
      rw [List.forall_mem_cons] at hjudged
      have houtcome := getVersion_outcome i settings
      generalize hversion : getVersion i settings = outcome at houtcome
      cases houtcome with
      | lists version settings' hkept hreports _ =>
          obtain ⟨hr', devices, last, hwalk, hlist, _, hcode⟩ :=
            ih hjudged.2 (hkept.trans hquery) sOk (vectorInterfaces ++ [⟨i.devicePath, version⟩])
          rw [hquery] at hreports
          refine ⟨hr', ⟨i.devicePath, version⟩ :: devices, last, ?_, .reports hreports hlist,
            ?_, ?_⟩
          · rw [walkInterfaces_ok hversion, if_pos (by decide), hwalk, List.append_assoc]
            rfl
          · simp
          · simp
      | skips hr₁ version settings' hfailed hkept hreports _ =>
          obtain ⟨hr', devices, last, hwalk, hlist, hend, hcode⟩ :=
            ih hjudged.2 (hkept.trans hquery) hr₁ vectorInterfaces
          rw [hquery] at hreports
          refine ⟨hr', devices, last, ?_, .skips hreports hlist, ?_, ?_⟩
          · rw [walkInterfaces_ok hversion, hfailed]
            exact hwalk
          · simp
          · intro _ hnil
            by_cases hlast : interfaces = []
            · rw [hend hlast, hfailed]
            · exact hcode hlast hnil
      | misjudges _ _ _ _ _ _ hmisjudged =>
          rw [hquery] at hmisjudged
          exact absurd hmisjudged hjudged.1
      | faults _ hmisjudged =>
          rw [hquery] at hmisjudged
          exact absurd hmisjudged hjudged.1

/-- The walk appends every interface that belongs in the list, and one more for each that
is misjudged. -/
theorem walkInterfaces_length (hquery : settings.versionQuery = q) {hr hr' : UInt32}
    {vectorInterfaces last : List PathAndVersion} {settings' : ProtocolSettings}
    (hwalk : walkInterfaces interfaces hr vectorInterfaces settings = .ok (hr', last, settings'))
    (hlist : ListsReporting q interfaces devices) :
    vectorInterfaces.length + devices.length ≤ last.length ∧
      ((∃ i ∈ interfaces, i.Misjudged q) →
        vectorInterfaces.length + devices.length < last.length) := by
  induction interfaces generalizing settings hr vectorInterfaces devices with
  | nil =>
      cases hlist
      rw [walkInterfaces, Except.ok.injEq, Prod.mk.injEq, Prod.mk.injEq] at hwalk
      rw [hwalk.2.1]
      simp
  | cons i interfaces ih =>
      have houtcome := getVersion_outcome i settings
      generalize hversion : getVersion i settings = outcome at houtcome
      cases houtcome with
      | lists version settings₁ hkept hreports hjudged =>
          rw [walkInterfaces_ok hversion, if_pos (by decide)] at hwalk
          rw [hquery] at hreports hjudged
          cases hlist with
          | skips hno _ => exact absurd hreports (hno version)
          | reports _ hrest =>
              obtain ⟨hle, hlt⟩ := ih (hkept.trans hquery) hwalk hrest
              rw [List.length_append, List.length_singleton] at hle hlt
              rw [List.length_cons, List.exists_mem_cons_iff, or_iff_right hjudged]
              constructor
              · omega
              · intro hmisjudged
                have hstrict := hlt hmisjudged
                omega
      | skips hr₁ version settings₁ hfailed hkept hreports hjudged =>
          rw [walkInterfaces_ok hversion, hfailed] at hwalk
          rw [hquery] at hreports hjudged
          cases hlist with
          | reports hreports' _ => exact absurd hreports' (hreports _)
          | skips _ hrest =>
              rw [List.exists_mem_cons_iff, or_iff_right hjudged]
              exact ih (hkept.trans hquery) hwalk hrest
      | misjudges hr₁ version settings₁ hsucceeded hkept hreports hmisjudged =>
          rw [walkInterfaces_ok hversion, if_pos hsucceeded] at hwalk
          rw [hquery] at hreports
          cases hlist with
          | reports hreports' _ => exact absurd hreports' (hreports _)
          | skips _ hrest =>
              obtain ⟨hle, _⟩ := ih (hkept.trans hquery) hwalk hrest
              rw [List.length_append, List.length_singleton] at hle
              constructor
              · omega
              · intro _
                omega
      | faults fault _ =>
          rw [walkInterfaces, hversion] at hwalk
          simp at hwalk

/-- Without the list of the interfaces nothing is found and the code says so. -/
theorem retrieveDevicesWithVersions_not_retrieved {list : InterfaceList}
    (h : ∀ interfaces, list ≠ .retrieved interfaces) (settings : ProtocolSettings) :
    ∃ hr, retrieveDevicesWithVersions list settings = .ok (hr, [], settings) ∧
      succeeded hr = false := by
  have hfailed : ∀ cr : UInt32, cr ≠ 0 → succeeded (hresultFromWin32 cr) = false := by
    intro cr hcr
    rw [← Bool.not_eq_true, succeeded_hresultFromWin32]
    exact hcr
  cases list with
  | sizeUnknown cr hcr => exact ⟨_, rfl, hfailed cr hcr⟩
  | outOfMemory => exact ⟨_, rfl, by decide⟩
  | notRetrieved cr hcr => exact ⟨_, rfl, hfailed cr hcr⟩
  | retrieved interfaces => exact absurd rfl (h interfaces)

theorem retrieveDevicesWithVersions_ok {hr : UInt32} {settings' : ProtocolSettings}
    (h : walkInterfaces interfaces sOk [] settings = .ok (hr, devices, settings')) :
    retrieveDevicesWithVersions (.retrieved interfaces) settings =
      .ok (if devices.isEmpty then hr else sOk, devices, settings') := by
  rw [retrieveDevicesWithVersions, h]

/-- The search lists the devices that answered, and its code says whether there are any. -/
def ListsAnswering (interfaces : List HidInterface) (settings : ProtocolSettings) : Prop :=
  ∃ hr devices settings',
    retrieveDevicesWithVersions (.retrieved interfaces) settings = .ok (hr, devices, settings') ∧
      ListsReporting settings.versionQuery interfaces devices ∧
      (succeeded hr = true ↔ devices ≠ [])

/-- Which searches list the devices that answered and return a matching code. -/
theorem lists_answering_iff (interfaces : List HidInterface) (settings : ProtocolSettings) :
    ListsAnswering interfaces settings ↔
      interfaces ≠ [] ∧ ∀ i ∈ interfaces, ¬ i.Misjudged settings.versionQuery := by
  constructor
  · rintro ⟨hr, devices, settings', hrun, hlist, hcode⟩
    cases hwalk : walkInterfaces interfaces sOk [] settings with
    | error fault =>
        rw [retrieveDevicesWithVersions, hwalk] at hrun
        simp at hrun
    | ok result =>
        obtain ⟨hr₁, devices₁, settings₁⟩ := result
        rw [retrieveDevicesWithVersions_ok hwalk, Except.ok.injEq, Prod.mk.injEq,
          Prod.mk.injEq] at hrun
        obtain ⟨hhr, rfl, rfl⟩ := hrun
        constructor
        · rintro rfl
          cases hlist
          rw [walkInterfaces, Except.ok.injEq, Prod.mk.injEq] at hwalk
          rw [← hhr, ← hwalk.1] at hcode
          exact hcode.1 (by decide) rfl
        · intro i hi hmisjudged
          have hlt := (walkInterfaces_length rfl hwalk hlist).2 ⟨i, hi, hmisjudged⟩
          simp at hlt
  · rintro ⟨hne, hjudged⟩
    obtain ⟨hr, devices, settings', hwalk, hlist, _, hcode⟩ :=
      walkInterfaces_of_judged hjudged rfl sOk []
    rw [List.nil_append] at hwalk
    refine ⟨_, devices, settings', retrieveDevicesWithVersions_ok hwalk, hlist, ?_⟩
    by_cases hnil : devices = []
    · subst hnil
      have hfailed := hcode hne rfl
      simp [hfailed]
    · have hsucceeded : succeeded sOk = true := by decide
      simp [hnil, hsucceeded]

/-- An interface of the vendor 1 whose feature query fails. -/
def silentInterface : HidInterface where
  devicePath := "VID_0001".toList
  devicePath_ne := List.cons_ne_nil _ _
  createFileError := none
  preparsedDataError := none
  capsStatus := 0
  caps :=
    { usage := 0, usagePage := 0, featureReportByteLength := 61, numberInputValueCaps := 0,
      numberOutputValueCaps := 0, numberFeatureValueCaps := 1 }
  preparsedDataAgain := true
  capsStatusAgain := 0
  capsAgain :=
    { usage := 0, usagePage := 0, featureReportByteLength := 61, numberInputValueCaps := 0,
      numberOutputValueCaps := 0, numberFeatureValueCaps := 1 }
  getSpecificValueCaps := fun _ _ _ _ => { status := 0, count := 1, reportId := 32 }
  getFeature := fun _ => none

/-- Settings for the vendor 1. -/
def vendorSettings : ProtocolSettings :=
  { ProtocolSettings.zero with vid := 1 }

/-- A device that never answered is listed with the version 0. -/
theorem silentInterface_listed :
    retrieveDevicesWithVersions (.retrieved [silentInterface]) vendorSettings =
        .ok (sOk, [⟨silentInterface.devicePath, .zero⟩],
          vendorSettings.setReportId .fwUpdateVersion 32) ∧
      (∀ version, ¬ silentInterface.Reports vendorSettings.versionQuery version) ∧
      ¬ ListsAnswering [silentInterface] vendorSettings := by
  have hrun : retrieveDevicesWithVersions (.retrieved [silentInterface]) vendorSettings =
      .ok (sOk, [⟨silentInterface.devicePath, .zero⟩],
        vendorSettings.setReportId .fwUpdateVersion 32) := by
    rfl
  have hreports : ∀ version, ¬ silentInterface.Reports vendorSettings.versionQuery version := by
    rintro version ⟨_, report, ⟨_, _, _, cells, hcells, _⟩, _⟩
    have hnone : ∀ reportId, silentInterface.getFeature reportId = none := fun _ => rfl
    rw [hnone] at hcells
    cases hcells
  refine ⟨hrun, hreports, ?_⟩
  rintro ⟨hr, devices, settings', hrun', hlist, _⟩
  rw [hrun, Except.ok.injEq, Prod.mk.injEq, Prod.mk.injEq] at hrun'
  rw [← hrun'.2.1] at hlist
  cases hlist with
  | reports h _ => exact hreports _ h
  | skips _ hrest => cases hrest

end Listing

end Tool
end CFU
