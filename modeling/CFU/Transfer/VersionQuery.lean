import CFU.Tool.Discovery
import CFU.Transfer.SimulatedSeries

/-!
# CFU transfer - the version that the tool lists

The virtual device answers the version query with a feature report of its components.  The
tool reads the header and the entry of the first component, and splits the version into
its fields.  So it lists the version in the offer file of the first session that reported
success, or the version that the device was made with.

Main results:

- Definition {lit}`GetFwVersionResponse.asBytes`: the feature report.
- Theorem {lit}`mem_walkInterfaces`: an interface that reports a version is in the list.
- Theorem {lit}`version_behind_series`: what the tool lists behind a series of sessions.
-/

namespace CFU
namespace Simulator

open LittleEndian

/-! ## The feature report -/

/-- The bytes of {lit}`COMPONENT_VERSION`. -/
def ComponentVersion.asBytes (version : ComponentVersion) : List UInt8 :=
  [version.variant] ++ bytes 2 version.minorVersion.toNat ++ [version.majorVersion]

/-- The bytes of {lit}`COMPONENT_VERSION_AND_PROPERTY`: of the property only
{lit}`ComponentId` is not zero. -/
def ComponentVersionAndProperty.asBytes (entry : ComponentVersionAndProperty) : List UInt8 :=
  entry.componentVersion.asBytes ++ [0, entry.componentId, 0, 0]

/-- The bytes of {lit}`GET_FWVERSION_RESPONSE`.  The revision has the low four bits of the
last byte of the header. -/
def GetFwVersionResponse.asBytes (response : GetFwVersionResponse) : List UInt8 :=
  [response.reportId, response.componentCount, 0, 0, response.protocolRevision &&& 0x0F] ++
    response.componentVersionsAndProperty.flatMap ComponentVersionAndProperty.asBytes

@[simp]
theorem ComponentVersion.length_asBytes (version : ComponentVersion) :
    version.asBytes.length = 4 := by
  simp [ComponentVersion.asBytes]

/-- The version of an offer is the four bytes that it was read from. -/
theorem asBytes_version_ofBytes {report : List UInt8} (h : 9 ≤ report.length) :
    (FwUpdateOfferCommand.ofBytes report).version.asBytes = (report.drop 5).take 4 := by
  have hlength : ((report.drop 6).take 2).length = 2 := by
    simp
    omega
  have hlt : word 6 2 report < 2 ^ 16 := by
    have hvalue := value_lt ((report.drop 6).take 2)
    rw [hlength] at hvalue
    exact hvalue
  have hminor : bytes 2 (UInt16.ofNat (word 6 2 report)).toNat = (report.drop 6).take 2 := by
    have hbytes := bytes_value ((report.drop 6).take 2)
    rw [hlength] at hbytes
    rw [UInt16.toNat_ofNat_of_lt' hlt]
    exact hbytes
  have h5 : 5 < report.length := by omega
  have h8 : 8 < report.length := by omega
  have hthree : (report.drop 6).take 3 = (report.drop 6).take 2 ++ [report[8]] := by
    have hmiddle : 2 < (report.drop 6).length := by
      rw [List.length_drop]
      omega
    rw [List.take_succ_eq_append_getElem hmiddle, List.getElem_drop]
  calc
    (FwUpdateOfferCommand.ofBytes report).version.asBytes =
        [report.getD 5 0] ++ bytes 2 (UInt16.ofNat (word 6 2 report)).toNat ++
          [report.getD 8 0] := rfl
    _ = report[5] :: ((report.drop 6).take 2 ++ [report[8]]) := by
        rw [hminor]
        simp [List.getD_eq_getElem?_getD, h5, h8]
    _ = (report.drop 5).take 4 := by
        rw [List.drop_eq_getElem_cons h5, List.take_succ_cons, hthree]

/-- The feature report has the size of its structure. -/
theorem length_firmwareVersionResponse (deviceContext : DeviceContext) :
    (firmwareVersionResponse deviceContext).asBytes.length = getFwVersionResponseLength := by
  simp [firmwareVersionResponse, GetFwVersionResponse.asBytes,
    ComponentVersionAndProperty.asBytes, getFwVersionResponseLength]

end Simulator

namespace Tool

open ResultCode

/-! ## The list of the tool -/

section Walk

variable {q : VersionQuery} {i : HidInterface} {interfaces : List HidInterface}
  {settings settings' : ProtocolSettings} {version version' : VersionReport}
  {vectorInterfaces last : List PathAndVersion} {hr hr' : UInt32}

/-- An interface reports one version. -/
theorem HidInterface.Reports.unique (h : i.Reports q version) (h' : i.Reports q version') :
    version' = version := by
  obtain ⟨-, report, hanswer, -, rfl⟩ := h
  obtain ⟨-, report', hanswer', -, rfl⟩ := h'
  rw [hanswer'.unique hanswer]

/-- The walk keeps what it has found. -/
theorem mem_walkInterfaces_of_mem {device : PathAndVersion} (hmem : device ∈ vectorInterfaces)
    (hwalk : walkInterfaces interfaces hr vectorInterfaces settings =
      .ok (hr', last, settings')) : device ∈ last := by
  induction interfaces generalizing hr vectorInterfaces settings with
  | nil =>
      rw [walkInterfaces] at hwalk
      cases hwalk
      exact hmem
  | cons i interfaces ih =>
      cases hversion : getVersion i settings with
      | error fault =>
          rw [walkInterfaces, hversion] at hwalk
          cases hwalk
      | ok answer =>
          obtain ⟨hr₁, version, settings₁⟩ := answer
          rw [walkInterfaces_ok hversion] at hwalk
          by_cases hsucceeded : succeeded hr₁ = true
          · rw [if_pos hsucceeded] at hwalk
            exact ih (List.mem_append_left _ hmem) hwalk
          · rw [if_neg hsucceeded] at hwalk
            exact ih hmem hwalk

/-- An interface that reports a version is in the list, unless the walk faults. -/
theorem mem_walkInterfaces (hquery : settings.versionQuery = q) (hi : i ∈ interfaces)
    (hreports : i.Reports q version)
    (hwalk : walkInterfaces interfaces hr vectorInterfaces settings =
      .ok (hr', last, settings')) : ⟨i.devicePath, version⟩ ∈ last := by
  induction interfaces generalizing hr vectorInterfaces settings with
  | nil => simp at hi
  | cons j interfaces ih =>
      have houtcome := getVersion_outcome j settings
      generalize hversion : getVersion j settings = outcome at houtcome
      rw [List.mem_cons] at hi
      cases houtcome with
      | lists version' settings₁ hkept hlisted _ =>
          rw [walkInterfaces_ok hversion, if_pos (by decide)] at hwalk
          rcases hi with rfl | hi
          · rw [hquery] at hlisted
            rw [← hreports.unique hlisted]
            exact mem_walkInterfaces_of_mem (List.mem_append_right _ List.mem_cons_self) hwalk
          · exact ih (hkept.trans hquery) hi hwalk
      | skips hr₁ version' settings₁ hfailed hkept hno _ =>
          rw [walkInterfaces_ok hversion, hfailed] at hwalk
          rcases hi with rfl | hi
          · rw [hquery] at hno
            exact absurd hreports (hno version)
          · exact ih (hkept.trans hquery) hi hwalk
      | misjudges hr₁ version' settings₁ hsucceeded hkept hno _ =>
          rw [walkInterfaces_ok hversion, if_pos hsucceeded] at hwalk
          rcases hi with rfl | hi
          · rw [hquery] at hno
            exact absurd hreports (hno version)
          · exact ih (hkept.trans hquery) hi hwalk
      | faults fault _ =>
          rw [walkInterfaces, hversion] at hwalk
          cases hwalk

/-- An interface that reports a version is listed, and the search succeeds. -/
theorem mem_retrieveDevices {devices : List PathAndVersion} (hi : i ∈ interfaces)
    (hreports : i.Reports settings.versionQuery version)
    (hlist : retrieveDevicesWithVersions (.retrieved interfaces) settings =
      .ok (hr, devices, settings')) : hr = sOk ∧ ⟨i.devicePath, version⟩ ∈ devices := by
  rw [retrieveDevicesWithVersions] at hlist
  cases hwalk : walkInterfaces interfaces sOk [] settings with
  | error fault =>
      rw [hwalk] at hlist
      cases hlist
  | ok answer =>
      obtain ⟨hr', vectorInterfaces, settings₁⟩ := answer
      have hmem := mem_walkInterfaces rfl hi hreports hwalk
      rw [hwalk, Except.ok.injEq, Prod.mk.injEq, Prod.mk.injEq] at hlist
      obtain ⟨hcode, rfl, -⟩ := hlist
      have hsome : vectorInterfaces.isEmpty = false := by
        rw [List.isEmpty_eq_false_iff]
        exact List.ne_nil_of_mem hmem
      rw [hsome] at hcode
      exact ⟨hcode.symm, hmem⟩

end Walk

end Tool

namespace Transfer

open Simulator Tool LittleEndian EventRuns ResultCode

/-! ## The virtual device in the list -/

/-- The interface is that of the virtual device: it passes the filters, the usage for the
version has one report, of the size that the device declares, and the device answers the
query. -/
structure Serves (deviceContext : DeviceContext) (q : VersionQuery) (i : HidInterface) :
    Prop where
  queried : i.IsQueried q
  numberFeatureValueCaps : i.capsAgain.numberFeatureValueCaps ≠ 0
  featureValueCaps :
    i.featureValueCaps q.usagePage q.usage = ⟨0, 1, reportIdVersionsFeature⟩
  featureReportByteLength :
    i.capsAgain.featureReportByteLength.toNat = getFwVersionResponseLength
  getFeature : ∀ reportBuffer, i.getFeature reportIdVersionsFeature =
    (cfuDeviceGetFeatureReport deviceContext
      ⟨reportIdVersionsFeature, i.capsAgain.featureReportByteLength.toNat, reportBuffer⟩).map
        fun response j => response.asBytes.getD j 0

/-- The version report of a device whose first component has this version word. -/
def listedVersion (dVersion : UInt32) : VersionReport where
  id := reportIdVersionsFeature
  header := 0x02000002
  dVersion := dVersion
  property := 0x3000

/-- The version in the offer file of a session. -/
def Upload.fileVersion (x : Upload) : UInt32 :=
  UInt32.ofNat (word 4 4 (offerReadBuff x.offerFile))

section Serves

variable {deviceContext : DeviceContext} {q : VersionQuery} {i : HidInterface}

/-- The device reports the version of its first component. -/
theorem Serves.reports (h : Serves deviceContext q i)
    (hid : deviceContext.componentIds 0 = componentIdMcu) :
    i.Reports q (listedVersion
      (UInt32.ofNat (value (deviceContext.componentVersion 0).asBytes))) := by
  have hlength := length_firmwareVersionResponse deviceContext
  refine ⟨h.queried, (firmwareVersionResponse deviceContext).asBytes, ?_, ?_, ?_⟩
  · refine ⟨h.numberFeatureValueCaps, ?_, ?_,
      fun j => (firmwareVersionResponse deviceContext).asBytes.getD j 0, ?_, ?_⟩
    · rw [h.featureValueCaps]
      rfl
    · rw [h.featureValueCaps]
    · rw [h.featureValueCaps, h.getFeature fun _ => 0, h.featureReportByteLength]
      rfl
    · rw [h.featureReportByteLength]
      exact (structureBytes_reportPacket hlength).symm
  · rw [hlength]
    decide
  · have hheader : word 1 4 (firmwareVersionResponse deviceContext).asBytes = 0x02000002 := by
      show value [UInt8.ofNat numberOfComponents, 0, 0, 2 &&& 0x0F] = _
      decide
    have hversion : word 5 4 (firmwareVersionResponse deviceContext).asBytes =
        value (deviceContext.componentVersion 0).asBytes :=
      rfl
    have hproperty : word 9 4 (firmwareVersionResponse deviceContext).asBytes =
        value [0, deviceContext.componentIds 0, 0, 0] :=
      rfl
    unfold VersionReport.ofBytes
    rw [hheader, hversion, hproperty, hid]
    rfl

end Serves

/-- The version of an offer is the word in its file. -/
theorem value_asBytes_offer (x : Upload) :
    UInt32.ofNat (value x.offer.version.asBytes) = x.fileVersion := by
  have hlength : (offerData reportIdOfferOutput x.forceReset x.forceIgnoreVersion
      (offerReadBuff x.offerFile)).length = 17 :=
    length_offerData _ _
  have hdrop : (offerData reportIdOfferOutput x.forceReset x.forceIgnoreVersion
      (offerReadBuff x.offerFile)).drop 5 = (offerReadBuff x.offerFile).drop 4 := by
    simp [offerData]
  rw [Upload.offer, asBytes_version_ofBytes (by omega), hdrop]
  rfl

/-- Behind a series of sessions for components the tool lists the virtual device with the
version in the offer file of the first session that reported success, and without one with
the version that the device was made with. -/
theorem version_behind_series {values : ComponentFirmwareUpdate}
    (hvalues : SpeaksProtocol values) (waits : ℕ) (xs : List Upload)
    (hordinary : ∀ x ∈ xs, x.offer.Ordinary) (hrecords : ∀ x ∈ xs, x.records ≠ [])
    (htotal : ∀ x ∈ xs, x.records.length ≤ 2 ^ 32) {s : DeliveryState}
    (hfinal : finalState (session values waits) (atRest startedDevice) xs = some s)
    {interfaces : List HidInterface} {i : HidInterface} (hi : i ∈ interfaces)
    {settings settings' : ProtocolSettings}
    (hserves : Serves s.deviceContext settings.versionQuery i) {hr : UInt32}
    {devices : List PathAndVersion}
    (hlist : retrieveDevicesWithVersions (.retrieved interfaces) settings =
      .ok (hr, devices, settings')) :
    hr = sOk ∧
      ⟨i.devicePath, listedVersion
        (((successful (trace (session values waits) (atRest startedDevice) xs)).map
          Upload.fileVersion).headD 0x7B000405)⟩ ∈ devices := by
  obtain ⟨hsuccessful, deviceContext, hreach, hupdating⟩ :=
    updating_startedDevice.series hvalues waits hordinary hrecords htotal
  rw [hreach, Option.some.injEq] at hfinal
  subst hfinal
  have hid : deviceContext.componentIds 0 = componentIdMcu := by
    rw [hupdating.componentIds]
    rfl
  have hversion : UInt32.ofNat (value (deviceContext.componentVersion 0).asBytes) =
      ((successful (trace (session values waits) (atRest startedDevice) xs)).map
        Upload.fileVersion).headD 0x7B000405 := by
    rw [hupdating.componentVersion 0 (by decide), hsuccessful]
    cases updates (updateOrder.drop [].length) xs with
    | nil => decide
    | cons x rest => exact value_asBytes_offer x
  have hreports := hserves.reports hid
  simp only [atRest] at hreports
  rw [hversion] at hreports
  exact mem_retrieveDevices hi hreports hlist

/-! ## The list behind four sessions -/

/-- An interface of the vendor 1 that the virtual device serves. -/
def servingInterface (deviceContext : DeviceContext) : HidInterface :=
  { silentInterface with
    getFeature := fun reportId =>
      (cfuDeviceGetFeatureReport deviceContext
        ⟨reportId, getFwVersionResponseLength, fun _ => 0⟩).map
          fun response j => response.asBytes.getD j 0 }

theorem serves_servingInterface (deviceContext : DeviceContext) :
    Serves deviceContext vendorSettings.versionQuery (servingInterface deviceContext) where
  queried :=
    { opened := ⟨rfl, rfl, rfl⟩
      filters := ⟨show silentInterface.matchesPath 1 0 = true by decide, rfl, rfl⟩
      reportId := rfl }
  numberFeatureValueCaps := show silentInterface.capsAgain.numberFeatureValueCaps ≠ 0 by decide
  featureValueCaps := rfl
  featureReportByteLength := rfl
  getFeature _ := rfl

theorem version_behind_series_four :
    ∃ s devices settings',
      finalState (session protocolValues 0) (atRest startedDevice) fourUploads = some s ∧
        retrieveDevicesWithVersions (.retrieved [servingInterface s.deviceContext])
          vendorSettings = .ok (sOk, devices, settings') ∧
        ⟨"VID_0001".toList, listedVersion 0x07000102⟩ ∈ devices := by
  refine ⟨_, _, _, rfl, rfl, ?_⟩
  exact (version_behind_series speaksProtocol_protocolValues 0 fourUploads
    (forall_mem_fourUploads fun _ variant h => ordinary_variantUpload h variant)
    (forall_mem_fourUploads fun _ _ _ => List.cons_ne_nil _ _)
    (forall_mem_fourUploads fun _ _ _ => Nat.one_le_two_pow) rfl
    (List.mem_singleton_self (servingInterface _)) (serves_servingInterface _) rfl).2

end Transfer

end CFU
