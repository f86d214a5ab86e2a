import CFU.Firmware.RegistrationList
import CFU.Transfer.VersionQuery

/-!
# CFU transfer - the version of the firmware that the tool lists

The engine puts a new component at the front of its list, and its report starts with the
front of the list.  The tool reads one entry behind the header.  So what the tool lists for
a product is the version of the component that was registered last, even when the report
has no room for the others.

Main results:

- Definition {lit}`GetFwVersionResponse.asBytes`: the bytes of the response.
- Theorem {lit}`tool_lists_last_registered`: what the tool lists behind any run of the
  engine.

Current gaps:

- The report id and the padding of the feature report belong to the transport of the
  product, which is not part of the repository.
-/

namespace CFU
namespace Firmware

open LittleEndian EventRuns

variable {W : Type} {n : ℕ}

/-! ## The response as bytes -/

/-- The bytes of {lit}`GET_FWVERSION_RESPONSE`. -/
def GetFwVersionResponse.asBytes (response : GetFwVersionResponse) : List UInt8 :=
  [response.componentCount] ++ bytes 2 response.reserved0.toNat ++
    [UInt8.ofBitVec (response.extensionFlag ++ response.reserved1 ++ response.fwUpdateRevision)] ++
      (List.range blobWords).flatMap fun i => bytes 4 (response.words i).toNat

@[simp]
theorem GetFwVersionResponse.length_asBytes (response : GetFwVersionResponse) :
    response.asBytes.length = 24 := by
  simp [GetFwVersionResponse.asBytes, blobWords, List.range_succ]

/-- The first word behind the header. -/
theorem GetFwVersionResponse.word_version (response : GetFwVersionResponse) :
    word 4 4 response.asBytes = (response.words 0).toNat := by
  have hbytes : (response.asBytes.drop 4).take 4 = bytes 4 (response.words 0).toNat := rfl
  rw [word, hbytes, value_bytes_uint32]

/-- The second word behind the header. -/
theorem GetFwVersionResponse.word_productInfo (response : GetFwVersionResponse) :
    word 8 4 response.asBytes = (response.words 1).toNat := by
  have hbytes : (response.asBytes.drop 8).take 4 = bytes 4 (response.words 1).toNat := rfl
  rw [word, hbytes, value_bytes_uint32]

/-- The header fields that the report sets for every list. -/
structure GetFwVersionResponse.Announces (response : GetFwVersionResponse) : Prop where
  reserved0 : response.reserved0 = 0
  fwUpdateRevision : response.fwUpdateRevision = cpfwuRevision
  reserved1 : response.reserved1 = 0
  extensionFlag : response.extensionFlag = 0

/-- The header of such a report: the number of components and the revision. -/
theorem GetFwVersionResponse.Announces.word_header {response : GetFwVersionResponse}
    (h : response.Announces) :
    word 0 4 response.asBytes = response.componentCount.toNat + 0x02000000 := by
  have hbytes : (response.asBytes.drop 0).take 4 =
      response.componentCount :: (bytes 2 response.reserved0.toNat ++
        [UInt8.ofBitVec (response.extensionFlag ++ response.reserved1 ++
          response.fwUpdateRevision)]) :=
    rfl
  rw [word, hbytes, h.reserved0, h.fwUpdateRevision, h.reserved1, h.extensionFlag, value]
  have hrest : value (bytes 2 (0 : UInt16).toNat ++
      [UInt8.ofBitVec ((0 : BitVec 1) ++ (0 : BitVec 3) ++ cpfwuRevision)]) = 0x020000 := by
    decide
  rw [hrest]

/-- A report announces the revision, whatever the list holds. -/
theorem announces_of_run {interface : Fin n → VersionInterface W}
    {pResponse report : GetFwVersionResponse} {sys sys' : Sys W n}
    (hrun : processCFWUGetFWVersion interface pResponse sys = .ok report sys') :
    report.Announces := by
  rw [processCFWUGetFWVersion] at hrun
  dsimp only at hrun
  split at hrun
  · cases hrun
  · cases hrun
    exact ⟨rfl, rfl, rfl, rfl⟩

/-- The report of a list starts with its first component. -/
theorem report_of_lists {interface : Fin n → VersionInterface W}
    {version productInfo : Fin n → UInt32}
    (hstores : StoresDescription interface version productInfo) {sys : Sys W n} {r : Fin n}
    {rest : List (Fin n)} (hlists : sys.engine.Lists (r :: rest))
    (pResponse : GetFwVersionResponse) :
    ∃ report sys', processCFWUGetFWVersion interface pResponse sys = .ok report sys' ∧
      report.Announces ∧ report.componentCount = UInt8.ofNat (rest.length + 1) ∧
      report.words 0 = version r ∧ report.words 1 = productInfo r := by
  obtain ⟨report, sys', hrun, hwords, hcount⟩ :=
    processCFWUGetFWVersion_of_chain interface hlists pResponse
  have hfirst : (r :: rest)[0]? = some r := rfl
  obtain ⟨hversion, hproductInfo⟩ := foldl_visit_words hstores
    ⟨sys.world, pResponse.cleared.words, 0, 0⟩ (r :: rest) hfirst
  refine ⟨report, sys', hrun, announces_of_run hrun, hcount, ?_, ?_⟩
  · rw [hwords]
    exact hversion
  · rw [hwords]
    exact hproductInfo

end Firmware

namespace Transfer

open Firmware Tool LittleEndian EventRuns ResultCode

/-! ## The product in the list -/

/-- The interface passes the filters, the usage for the version has one report, and the
query is answered with these bytes. -/
structure ServesReport (featureReport : List UInt8) (reportId : UInt8) (q : VersionQuery)
    (i : HidInterface) : Prop where
  queried : i.IsQueried q
  numberFeatureValueCaps : i.capsAgain.numberFeatureValueCaps ≠ 0
  featureValueCaps : i.featureValueCaps q.usagePage q.usage = ⟨0, 1, reportId⟩
  featureReportByteLength : i.capsAgain.featureReportByteLength.toNat = featureReport.length
  getFeature : i.getFeature reportId = some fun j => featureReport.getD j 0

/-- What the tool lists for a product whose report counts the components. -/
def listedReport (reportId : UInt8) (componentCount : ℕ) (version productInfo : UInt32) :
    VersionReport where
  id := reportId
  header := UInt32.ofNat (componentCount % 256 + 0x02000000)
  dVersion := version
  property := productInfo

section Serves

variable {featureReport : List UInt8} {reportId : UInt8} {q : VersionQuery} {i : HidInterface}

/-- The interface reports what the tool reads from the feature report. -/
theorem ServesReport.reports (h : ServesReport featureReport reportId q i)
    (hlength : sizeofVersionReport ≤ featureReport.length) :
    i.Reports q (.ofBytes featureReport) := by
  refine ⟨h.queried, featureReport, ?_, hlength, rfl⟩
  refine ⟨h.numberFeatureValueCaps, ?_, ?_, fun j => featureReport.getD j 0, ?_, ?_⟩
  · rw [h.featureValueCaps]
    rfl
  · rw [h.featureValueCaps]
  · rw [h.featureValueCaps, h.getFeature]
  · rw [h.featureReportByteLength]
    apply List.ext_getElem
    · simp
    · intro j hj hj'
      simp [List.getD_eq_getElem?_getD, hj]

end Serves

/-- The tool reads the header and the first component of the response. -/
theorem ofBytes_featureReport {response : GetFwVersionResponse} (h : response.Announces)
    (reportId : UInt8) (padding : List UInt8) {componentCount : ℕ}
    (hcount : response.componentCount = UInt8.ofNat componentCount) :
    VersionReport.ofBytes (reportId :: (response.asBytes ++ padding)) =
      listedReport reportId componentCount (response.words 0) (response.words 1) := by
  have hlength := response.length_asBytes
  have hbehind : ∀ offset, offset + 4 ≤ 24 →
      word (1 + offset) 4 (reportId :: (response.asBytes ++ padding)) =
        word offset 4 response.asBytes := by
    intro offset hoffset
    rw [← word_drop, List.drop_one, List.tail_cons, word_append (by omega)]
  have hheader := (hbehind 0 (by decide)).trans h.word_header
  have hversion := (hbehind 4 (by decide)).trans response.word_version
  have hproductInfo := (hbehind 8 (by decide)).trans response.word_productInfo
  rw [VersionReport.ofBytes, listedReport, hheader, hversion, hproductInfo, hcount,
    UInt8.toNat_ofNat', UInt32.ofNat_toNat, UInt32.ofNat_toNat]
  rfl

/-- Behind any run of the engine in which no object was registered twice, the report on
the versions is finished, and an interface that answers the query of the tool with it, and
with any padding, is listed with the version and the product info of the component that
was registered last. -/
theorem tool_lists_last_registered {W : Type} {n : ℕ} {P : Platform W n}
    {pNext : Fin n → Option (Fin n)} {world : W} {es : List (Event n)} {c : Config W n}
    (hreach : finalState (step P) (Config.powerOn pNext world) es = some c)
    (hnodup : (pushed es).Nodup) {r : Fin n} (hlast : (pushed es).getLast? = some r)
    {interface : Fin n → VersionInterface W} {version productInfo : Fin n → UInt32}
    (hstores : StoresDescription interface version productInfo)
    (pResponse : GetFwVersionResponse) :
    ∃ report sys', processCFWUGetFWVersion interface pResponse c.start = .ok report sys' ∧
      ∀ (reportId : UInt8) (padding : List UInt8) (interfaces : List HidInterface)
        (i : HidInterface) (settings settings' : ProtocolSettings) (hr : UInt32)
        (devices : List PathAndVersion), i ∈ interfaces →
        ServesReport (reportId :: (report.asBytes ++ padding)) reportId
          settings.versionQuery i →
        retrieveDevicesWithVersions (.retrieved interfaces) settings =
          .ok (hr, devices, settings') →
        hr = sOk ∧
          ⟨i.devicePath, listedReport reportId (pushed es).length (version r)
            (productInfo r)⟩ ∈ devices := by
  obtain ⟨earlier, hearlier⟩ := List.getLast?_eq_some_iff.mp hlast
  have hlists : c.engine.Lists (r :: earlier.reverse) := by
    rw [chain_of_run hreach, hearlier, List.reverse_append]
    exact ⟨rfl, hearlier ▸ hnodup⟩
  obtain ⟨report, sys', hrun, hannounces, hcount, hversion, hproductInfo⟩ :=
    @report_of_lists W n interface version productInfo hstores c.start r earlier.reverse hlists
      pResponse
  have hlength : earlier.reverse.length + 1 = (pushed es).length := by
    rw [hearlier, List.length_reverse, List.length_append, List.length_singleton]
  rw [hlength] at hcount
  refine ⟨report, sys', hrun, ?_⟩
  intro reportId padding interfaces i settings settings' hr devices hi hserves hlist
  have hsize : sizeofVersionReport ≤ (reportId :: (report.asBytes ++ padding)).length := by
    rw [List.length_cons, List.length_append, report.length_asBytes, sizeofVersionReport]
    omega
  have hreports := hserves.reports hsize
  rw [ofBytes_featureReport hannounces reportId padding hcount, hversion, hproductInfo]
    at hreports
  exact mem_retrieveDevices hi hreports hlist

/-! ## Two components -/

/-- An interface of the vendor 1 whose feature report of 25 bytes has the id 32. -/
def reportingInterface (featureReport : List UInt8) : HidInterface :=
  { silentInterface with
    capsAgain := { silentInterface.capsAgain with featureReportByteLength := 25 }
    getFeature := fun _ => some fun j => featureReport.getD j 0 }

theorem servesReport_reportingInterface {featureReport : List UInt8}
    (hlength : featureReport.length = 25) :
    ServesReport featureReport 32 vendorSettings.versionQuery
      (reportingInterface featureReport) where
  queried :=
    { opened := ⟨rfl, rfl, rfl⟩
      filters := ⟨show silentInterface.matchesPath 1 0 = true by decide, rfl, rfl⟩
      reportId := rfl }
  numberFeatureValueCaps := show silentInterface.capsAgain.numberFeatureValueCaps ≠ 0 by decide
  featureValueCaps := rfl
  featureReportByteLength := hlength.symm
  getFeature := rfl

/-- Of two components the second one is listed, with the number of both. -/
theorem tool_lists_last_registered_second :
    ∃ c report sys', finalState (step (acceptingPlatform fun _ => 1))
        (Config.powerOn (fun _ => none) ()) offerToSharedId = some c ∧
      processCFWUGetFWVersion placeInterface ⟨0, 0, 0, 0, 0, fun _ => 0⟩ c.start =
        .ok report sys' ∧
      ∃ devices settings', retrieveDevicesWithVersions
          (.retrieved [reportingInterface (32 :: (report.asBytes ++ []))]) vendorSettings =
            .ok (sOk, devices, settings') ∧
        ⟨"VID_0001".toList, listedReport 32 2 1 1⟩ ∈ devices := by
  obtain ⟨report, sys', hrun, hlists⟩ := @tool_lists_last_registered Unit 2
    (acceptingPlatform fun _ => 1) (fun _ => none) () offerToSharedId _ rfl (by decide)
    secondComponent rfl placeInterface _ _ storesDescription_placeInterface
    ⟨0, 0, 0, 0, 0, fun _ => 0⟩
  refine ⟨_, report, sys', rfl, hrun, ?_⟩
  cases hrun
  refine ⟨_, _, rfl, ?_⟩
  exact (hlists 32 [] _ _ _ _ _ _ (List.mem_singleton_self _)
    (servesReport_reportingInterface rfl) rfl).2

end Transfer
end CFU
