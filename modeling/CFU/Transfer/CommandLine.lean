import CFU.Tool.Main
import CFU.Transfer.FlashImage
import CFU.Transfer.ReportLayouts

/-!
# CFU transfer - an update from the command line

The whole way of an update: the arguments and the settings file, the search for devices,
the choice among them, and the session with the engine behind the path that was chosen.

Main results:

- Theorem {lit}`Invocation.run_eq`: the tool returns what the session does.
- Theorem {lit}`Invocation.exit_zero`: the options set the force flags of the offer, behind
  the return value 0 the image is in the flash, and the tool returns it when the product
  takes the update.
-/

namespace CFU
namespace Tool

open ResultCode

/-- A device that reports is in the list. -/
theorem ListsReporting.ne_nil {q : VersionQuery} {interfaces : List HidInterface}
    {devices : List PathAndVersion} (hlist : ListsReporting q interfaces devices)
    (hanswered : ∃ i ∈ interfaces, ∃ version, i.Reports q version) : devices ≠ [] := by
  induction hlist with
  | nil => simp at hanswered
  | reports hreports hrest ih => exact List.cons_ne_nil _ _
  | skips hreports hrest ih =>
      apply ih
      obtain ⟨i, hi, version, hversion⟩ := hanswered
      rcases List.mem_cons.1 hi with rfl | hrest'
      · exact absurd hversion (hreports version)
      · exact ⟨i, hrest', version, hversion⟩

end Tool

namespace Transfer

open Firmware Tool Buffer ResultCode Stores LabelledPaths

variable {W : Type} {n : ℕ}

/-- A call of the tool for an update, on a host where some interface answers the search,
none is misjudged, and the path that is chosen leads to the product of the session. -/
structure Invocation (W : Type) (n : ℕ) where
  session : Session W n
  host : Host (DeviceState W n)
  rounds : ℕ
  command : List Char
  settingsPath : List Char
  offerPath : List Char
  srecBinPath : List Char
  options : List (List Char)
  protocolSettings : ProtocolSettings
  interfaces : List HidInterface
  initialized : succeeded host.coInitializeEx = true
  isUpdate : comparewsi command "update".toList = true
  settings_read :
    readProtocolSettingsFile (host.settingsFile settingsPath) = (true, protocolSettings)
  settings_reports : protocolSettings.updateReports = session.protocolSettings
  offer_read : host.binaryFile offerPath = some session.offerFile
  srecBin_read : host.binaryFile srecBinPath = some (payload session.records)
  flags : parseOptions options = (session.forceIgnoreVersion, session.forceReset)
  retrieved : host.interfaceList = .retrieved interfaces
  judged : ∀ i ∈ interfaces, ¬ i.Misjudged protocolSettings.versionQuery
  answered : ∃ i ∈ interfaces, ∃ version, i.Reports protocolSettings.versionQuery version
  selects : ∀ devices, ListsReporting protocolSettings.versionQuery interfaces devices →
    ∃ selected, deviceSelect rounds devices host.cin = some selected
  attached : ∀ (devices : List PathAndVersion) (i : ℕ) (chosen : PathAndVersion),
    ListsReporting protocolSettings.versionQuery interfaces devices →
      deviceSelect rounds devices host.cin = some (some i) → devices[i]? = some chosen →
      host.device chosen.devicePath =
          engineDevice session.platform session.ids session.pResponse ∧
        host.setup chosen.devicePath protocolSettings =
          Setup.ready session.ids session.inputReportBuffer

namespace Invocation

/-- The arguments behind the name of the program. -/
def argv (v : Invocation W n) : List (List Char) :=
  v.command :: v.settingsPath :: v.offerPath :: v.srecBinPath :: v.options

/-- The tool with these arguments. -/
def run (v : Invocation W n) (waits : ℕ) : MainResult × DeviceState W n :=
  tmain v.host v.rounds (waits + 1) v.argv (.quiet v.session.config [])

/-- The search leaves the reports of an update as they were. -/
theorem setup_of_reports (host : Host (DeviceState W n)) (devicePath : List Char)
    {settings settings' : ProtocolSettings}
    (hreports : ∀ report, report ≠ .fwUpdateVersion →
      settings'.reports report = settings.reports report) :
    host.setup devicePath settings' = host.setup devicePath settings ∧
      settings'.updateReports = settings.updateReports := by
  have hcontent := hreports .fwUpdateContent (by decide)
  have hcontentResponse := hreports .fwUpdateContentResponse (by decide)
  have hoffer := hreports .fwUpdateOffer (by decide)
  have hofferResponse := hreports .fwUpdateOfferResponse (by decide)
  constructor
  · simp only [Host.setup, Host.reportId, hcontent, hcontentResponse, hoffer, hofferResponse]
  · simp only [ProtocolSettings.updateReports, hcontent, hcontentResponse, hoffer,
      hofferResponse]

/-- The tool returns what the session does, and leaves the device as the session does. -/
theorem run_eq (v : Invocation W n) (waits : ℕ) :
    v.run waits = (mainResultOf (v.session.run waits).1, (v.session.run waits).2) := by
  obtain ⟨hr, devices, settings, hwalk, hlist, -, -⟩ :=
    walkInterfaces_of_judged v.judged rfl sOk []
  rw [List.nil_append] at hwalk
  have hne := hlist.ne_nil v.answered
  obtain ⟨selected, hselect⟩ := v.selects devices hlist
  obtain ⟨i, chosen, rfl, hchosen⟩ := deviceSelect_chosen v.host v.rounds hne hselect
  obtain ⟨hdevice, hsetup⟩ := v.attached devices i chosen hlist hselect hchosen
  have hsearch : retrieveDevicesWithVersions v.host.interfaceList v.protocolSettings =
      .ok (sOk, devices, settings) := by
    have hempty : devices.isEmpty = false := by simpa using hne
    rw [v.retrieved, retrieveDevicesWithVersions_ok hwalk, hempty]
    rfl
  obtain ⟨hkept, hreports⟩ := setup_of_reports v.host chosen.devicePath
    fun report hreport => reports_of_walkInterfaces hwalk hreport
  rw [run, argv, tmain_update v.host v.rounds _ v.initialized v.isUpdate,
    fwUpdateMain_of_selected v.host v.rounds _ v.settings_read hsearch (by decide) hselect
      hchosen]
  simp only [updateInterface, v.flags, v.offer_read, v.srecBin_read, hdevice, hkept, hsetup,
    hreports, v.settings_reports]
  rfl

/-- The return value 0 is that of a session that succeeded. -/
theorem exited_zero_iff (v : Invocation W n) (waits : ℕ) :
    (v.run waits).1 = .exited 0 ↔ (v.session.run waits).1 = .returned true := by
  rw [run_eq]
  dsimp only
  cases (v.session.run waits).1 with
  | returned ret =>
      cases ret with
      | true => exact iff_of_true rfl rfl
      | false => exact iff_of_false (by decide) (by decide)
  | faulted fault => exact iff_of_false (by simp [mainResultOf]) (by simp)
  | unfinished => exact iff_of_false (by simp [mainResultOf]) (by simp)

/-- The engine reads the force flags off the parameters of the tool. -/
theorem offeredCommand_flags (forceReset forceIgnoreVersion : UInt8) (offerFile : List UInt8) :
    (offeredCommand forceReset forceIgnoreVersion offerFile).componentInfo.forceImmediateReset =
        forceReset.toNat.testBit 0 ∧
      (offeredCommand forceReset forceIgnoreVersion offerFile).componentInfo.forceIgnoreVersion =
        forceIgnoreVersion.toNat.testBit 0 := by
  have hreset := testBit_setForceBits ((offerReadBuff offerFile).getD 1 0) forceReset
    forceIgnoreVersion (i := 6) (by decide)
  have hignore := testBit_setForceBits ((offerReadBuff offerFile).getD 1 0) forceReset
    forceIgnoreVersion (i := 7) (by decide)
  exact ⟨hreset, hignore⟩

/-- The engine receives a force flag exactly when some option names it. -/
theorem offer_flags (v : Invocation W n) :
    (v.session.offer.componentInfo.forceIgnoreVersion = true ↔
        ∃ option ∈ v.options, comparewsi option "forceIgnoreVersion".toList = true) ∧
      (v.session.offer.componentInfo.forceImmediateReset = true ↔
        ∃ option ∈ v.options, comparewsi option "forceReset".toList = true) := by
  have hflags := v.flags
  rw [parseOptions_eq, Prod.mk.injEq] at hflags
  obtain ⟨hignore, hreset⟩ := hflags
  obtain ⟨himmediate, hversion⟩ :=
    offeredCommand_flags v.session.forceReset v.session.forceIgnoreVersion v.session.offerFile
  have hbit : ∀ b : Bool, (if b then (1 : UInt8) else 0).toNat.testBit 0 = b := by decide
  constructor
  · rw [Session.offer, hversion, ← hignore, hbit, List.any_eq_true]
  · rw [Session.offer, himmediate, ← hreset, hbit, List.any_eq_true]

/-- Settings for a vendor and a product, with a usage for each report. -/
def productValues : SettingsField → Option UInt16
  | .vid => some 1
  | .pid => some 1
  | .usagePage => some 1
  | .usageTlc => some 1
  | .usage .fwUpdateVersion => some 0x20
  | .usage .fwUpdateOffer => some 0x21
  | .usage .fwUpdateContent => some 0x22
  | .usage .fwUpdateOfferResponse => some 0x23
  | .usage .fwUpdateContentResponse => some 0x24

/-- The interface of the product. -/
def productInterface : HidInterface where
  devicePath := "VID_0001&PID_0001".toList
  devicePath_ne := List.cons_ne_nil _ _
  createFileError := none
  preparsedDataError := none
  capsStatus := 0
  caps :=
    { usage := 1, usagePage := 1, featureReportByteLength := 61, numberInputValueCaps := 2,
      numberOutputValueCaps := 2, numberFeatureValueCaps := 1 }
  preparsedDataAgain := true
  capsStatusAgain := 0
  capsAgain :=
    { usage := 1, usagePage := 1, featureReportByteLength := 61, numberInputValueCaps := 2,
      numberOutputValueCaps := 2, numberFeatureValueCaps := 1 }
  getSpecificValueCaps := fun _ _ usage _ =>
    { status := 0, count := 1, reportId := usage.toUInt8 }
  getFeature := fun _ => some fun _ => 0

/-- What the product asks the interface for. -/
def productQuery : VersionQuery :=
  (settingsOf productValues).versionQuery

theorem productInterface_queried : productInterface.IsQueried productQuery where
  opened := ⟨rfl, rfl, rfl⟩
  filters := ⟨by decide, rfl, by decide⟩
  reportId := rfl

theorem productInterface_answers :
    productInterface.FeatureAnswer productQuery ((List.range 61).map fun _ => 0) :=
  ⟨by decide, rfl, rfl, fun _ => 0, rfl, rfl⟩

theorem productInterface_reports :
    productInterface.Reports productQuery (.ofBytes ((List.range 61).map fun _ => 0)) :=
  ⟨productInterface_queried, _, productInterface_answers, by decide, rfl⟩

theorem productInterface_judged : ¬ productInterface.Misjudged productQuery := by
  intro hmisjudged
  cases hmisjudged with
  | createFile _ herror => cases herror
  | preparsedData _ _ herror => cases herror
  | unanswered _ hanswer => exact hanswer _ productInterface_answers
  | misfit _ report hanswer hlength =>
      rw [hanswer.unique productInterface_answers] at hlength
      exact absurd hlength (by decide)

/-- The search lists the product alone. -/
theorem listsReporting_product {devices : List PathAndVersion}
    (hlist : ListsReporting productQuery [productInterface] devices) :
    ∃ version, devices = [⟨productInterface.devicePath, version⟩] := by
  cases hlist with
  | skips hreports _ => exact absurd productInterface_reports (hreports _)
  | reports _ hrest =>
      cases hrest
      exact ⟨_, rfl⟩

/-- The product of a session, found by a host that has the files of the session. -/
def productHost (x : Session W n) : Host (DeviceState W n) where
  coInitializeEx := 0
  settingsFile := fun _ => some (settingsOf productValues).text
  binaryFile := fun path =>
    if path = "offer".toList then some x.offerFile else some (payload x.records)
  interfaceList := .retrieved [productInterface]
  cin := .ofText []
  opening := fun _ => ⟨true, true, true, true, x.inputReportBuffer⟩
  populateReportId := fun _ _ usage => some usage.toUInt8
  device := fun _ => engineDevice x.platform x.ids x.pResponse

theorem productHost_settings (x : Session W n) :
    readProtocolSettingsFile ((productHost x).settingsFile []) =
      (true, settingsOf productValues) := by
  show (true, readLines (.ofText (settingsOf productValues).text) .zero) = _
  rw [readLines_text, settingsOf_values (readable_settingsOf _)]

/-- The three records in the order of their addresses, with a reset behind the update. -/
def resetInOrder : Session Flash 1 :=
  { Session.inOrder with forceReset := 1 }

/-- The update of the product with three records and an option. -/
def updateInOrder : Invocation Flash 1 where
  session := resetInOrder
  host := productHost resetInOrder
  rounds := 1
  command := "Update".toList
  settingsPath := []
  offerPath := "offer".toList
  srecBinPath := "image".toList
  options := ["FORCERESET".toList]
  protocolSettings := settingsOf productValues
  interfaces := [productInterface]
  initialized := by decide
  isUpdate := by decide
  settings_read := productHost_settings _
  settings_reports := rfl
  offer_read := rfl
  srecBin_read := rfl
  flags := rfl
  retrieved := rfl
  judged := by
    rw [List.forall_mem_singleton]
    exact productInterface_judged
  answered := ⟨_, List.mem_singleton_self _, _, productInterface_reports⟩
  selects := by
    intro devices hlist
    obtain ⟨version, rfl⟩ := listsReporting_product hlist
    exact ⟨_, rfl⟩
  attached := fun _ _ _ _ _ _ => ⟨rfl, rfl⟩

end Invocation

end Transfer
end CFU
