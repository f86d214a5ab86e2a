import CFU.Simulator.CommittedVersions
import CFU.Transfer.SimulatedDevice

/-!
# CFU transfer - a series of sessions with the virtual device

The virtual device updates its components in turn, and each of them once.  A series of
sessions therefore updates the first component with the first session for it, and the
next component with the first session for it behind that one; every other session is
turned away.

Main results:

- Definition {lit}`updates`: the sessions of a series that update a component.
- Theorem {lit}`series_updates`: these are the sessions that report success, and the
  device reports their versions.
-/

namespace CFU
namespace Transfer

open Simulator Tool EventRuns

/-! ## The order of the updates -/

/-- The ids of the components, in the order of their updates. -/
def updateOrder : List UInt8 :=
  [componentIdMcu, componentIdAudio]

/-- The first session for the first component, the first one behind it for the next
component, and so on. -/
def updates : List UInt8 → List Upload → List Upload
  | _, [] => []
  | [], _ :: _ => []
  | id :: ids, x :: xs =>
      if x.offer.componentId = id then x :: updates ids xs else updates (id :: ids) xs

@[simp]
theorem updates_nil (xs : List Upload) : updates [] xs = [] := by
  cases xs with
  | nil => rfl
  | cons x xs => rfl

@[simp]
theorem updates_nil_right (ids : List UInt8) : updates ids [] = [] := by
  cases ids with
  | nil => rfl
  | cons id ids => rfl

/-- A session for the next component updates it. -/
theorem updates_drop (ids : List UInt8) (k : ℕ) (x : Upload) (xs : List Upload) :
    updates (ids.drop k) (x :: xs) =
      if ids[k]? = some x.offer.componentId then x :: updates (ids.drop (k + 1)) xs
      else updates (ids.drop k) xs := by
  by_cases hk : k < ids.length
  · rw [List.drop_eq_getElem_cons hk, updates, List.getElem?_eq_getElem hk]
    by_cases hid : x.offer.componentId = ids[k]
    · simp [hid]
    · simp [hid, Ne.symm hid]
  · have hnil : ids.drop k = [] := List.drop_eq_nil_of_le (by omega)
    have hnone : ids[k]? = none := List.getElem?_eq_none (by omega)
    rw [hnil, hnone]
    simp

/-- The device after updates of its first components to these versions. -/
structure Updating (versions : List ComponentVersion) (deviceContext : DeviceContext) :
    Prop where
  length_le : versions.length ≤ numberOfComponents
  currentComponentIndex :
    deviceContext.currentComponentIndex = versions.length % numberOfComponents
  componentsUpdated : ∀ i, deviceContext.componentsUpdated i = decide (i < versions.length)
  componentIds : deviceContext.componentIds = startedDevice.componentIds
  componentVersion : ∀ i, i < numberOfComponents →
    deviceContext.componentVersion i = versions.getD i firmwareVersion

section Order

variable {values : ComponentFirmwareUpdate} {deviceContext : DeviceContext}
  {versions : List ComponentVersion} {version : ComponentVersion} {i : ℕ}

theorem updating_startedDevice : Updating [] startedDevice := by
  apply Updating.mk
  · exact Nat.zero_le _
  · rfl
  · intro i
    rfl
  · rfl
  · intro i hi
    rw [lt_numberOfComponents_iff] at hi
    rcases hi with rfl | rfl
    · rfl
    · rfl

/-- The components of a started device are in the order of their updates. -/
theorem componentIds_startedDevice (hi : i < numberOfComponents) :
    updateOrder[i]? = some (startedDevice.componentIds i) := by
  rw [lt_numberOfComponents_iff] at hi
  rcases hi with rfl | rfl
  · rfl
  · rfl

/-- The device accepts the ordinary offers for the next component. -/
theorem Updating.accepted_iff (h : Updating versions deviceContext) {x : Upload}
    (hordinary : x.offer.Ordinary) :
    x.accepted values deviceContext = true ↔
      updateOrder[versions.length]? = some x.offer.componentId := by
  rw [Upload.accepted, beq_iff_eq, offerStatus_eq_offerAccept_iff hordinary,
    h.componentsUpdated, h.currentComponentIndex, h.componentIds]
  by_cases hnext : versions.length < numberOfComponents
  · rw [Nat.mod_eq_of_lt hnext, componentIds_startedDevice hnext]
    simp
  · have hall : versions.length = numberOfComponents := by
      have hle := h.length_le
      omega
    rw [hall]
    simp [updateOrder, numberOfComponents]

/-- An update of the next component. -/
theorem Updating.commit (h : Updating versions deviceContext)
    (hnext : versions.length < numberOfComponents) :
    Updating (versions ++ [version]) (deviceContext.savePending version).commit := by
  have hcurrent : (deviceContext.savePending version).currentComponentIndex =
      versions.length := by
    show deviceContext.currentComponentIndex = _
    rw [h.currentComponentIndex, Nat.mod_eq_of_lt hnext]
  have hlength : (versions ++ [version]).length = versions.length + 1 :=
    List.length_append
  apply Updating.mk
  · omega
  · rw [hlength]
    show ((deviceContext.savePending version).currentComponentIndex + 1) % _ = _
    rw [hcurrent]
  · intro i
    rw [hlength]
    show Function.update deviceContext.componentsUpdated
      (deviceContext.savePending version).currentComponentIndex true i = _
    rw [hcurrent]
    by_cases hi : i = versions.length
    · simp [hi]
    · rw [Function.update_of_ne hi, h.componentsUpdated]
      simp only [decide_eq_decide]
      omega
  · exact h.componentIds
  · intro i hi
    show Function.update deviceContext.componentVersion
      (deviceContext.savePending version).currentComponentIndex
      (Function.update deviceContext.pendingComponentVersion
        deviceContext.currentComponentIndex version
        (deviceContext.savePending version).currentComponentIndex) i = _
    have hsame : (deviceContext.savePending version).currentComponentIndex =
        deviceContext.currentComponentIndex := rfl
    rw [← hsame, hcurrent, Function.update_self]
    by_cases hlast : i = versions.length
    · simp [hlast]
    · rw [Function.update_of_ne hlast, h.componentVersion i hi]
      rw [List.getD_eq_getElem?_getD, List.getD_eq_getElem?_getD]
      by_cases hbefore : i < versions.length
      · rw [List.getElem?_append_left hbefore]
      · rw [List.getElem?_eq_none (by omega), List.getElem?_eq_none (by omega)]

/-- A session while a component is the next one updates it, and any other session is
turned away. -/
theorem Updating.run (h : Updating versions deviceContext) (hvalues : SpeaksProtocol values)
    {x : Upload} (hordinary : x.offer.Ordinary) (hrecords : x.records ≠ [])
    (htotal : x.records.length ≤ 2 ^ 32) (waits : ℕ) :
    (updateOrder[versions.length]? = some x.offer.componentId ∧
        ∃ deviceContext', x.run values waits (atRest deviceContext) =
            (.returned true, atRest deviceContext') ∧
          Updating (versions ++ [x.offer.version]) deviceContext') ∨
      (updateOrder[versions.length]? ≠ some x.offer.componentId ∧
        x.run values waits (atRest deviceContext) =
          (.returned false, atRest deviceContext)) := by
  have haccepted := @Updating.accepted_iff values _ _ h x hordinary
  rw [run_simulated hvalues x htotal waits]
  by_cases hnext : updateOrder[versions.length]? = some x.offer.componentId
  · have htrue := haccepted.mpr hnext
    have hlt : versions.length < numberOfComponents :=
      (List.getElem?_eq_some_iff.mp hnext).1
    have hoffers := (offerStatus_eq_offerAccept_iff hordinary).mp (beq_iff_eq.mp htrue)
    have hsaves : (offerStatus values deviceContext x.offer).2.2 =
        deviceContext.savePending x.offer.version := by
      rw [offerStatus_of_ordinary hordinary, if_neg (by simp [hoffers.1]), if_pos hoffers.2]
    have hafter : x.after values deviceContext =
        (deviceContext.savePending x.offer.version).commit := by
      rw [Upload.after, if_pos htrue, if_neg (by simp [hrecords]), hsaves]
    rw [htrue, hafter]
    exact .inl ⟨hnext, _, rfl, h.commit hlt⟩
  · have hfalse : x.accepted values deviceContext = false :=
      Bool.eq_false_iff.mpr (mt haccepted.mp hnext)
    rw [hfalse, Upload.after, hfalse]
    exact .inr ⟨hnext, rfl⟩

end Order

/-! ## Series -/

/-- One session of a series. -/
def session (values : ComponentFirmwareUpdate) (waits : ℕ) (s : DeliveryState) (x : Upload) :
    Outcome × Option DeliveryState :=
  ((x.run values waits s).1, some (x.run values waits s).2)

/-- The sessions that report success. -/
def successful (ts : List (Transition DeliveryState Upload Outcome)) : List Upload :=
  (ts.filter fun t => t.output = .returned true).map Transition.event

section Series

variable {values : ComponentFirmwareUpdate} {deviceContext : DeviceContext}
  {versions : List ComponentVersion} {xs : List Upload}

/-- A series of sessions goes on with the next component. -/
theorem Updating.series (hvalues : SpeaksProtocol values) (waits : ℕ)
    (hordinary : ∀ x ∈ xs, x.offer.Ordinary) (hrecords : ∀ x ∈ xs, x.records ≠ [])
    (htotal : ∀ x ∈ xs, x.records.length ≤ 2 ^ 32) (h : Updating versions deviceContext) :
    successful (trace (session values waits) (atRest deviceContext) xs) =
        updates (updateOrder.drop versions.length) xs ∧
      ∃ deviceContext',
        finalState (session values waits) (atRest deviceContext) xs =
            some (atRest deviceContext') ∧
          Updating (versions ++ (updates (updateOrder.drop versions.length) xs).map
            fun x => x.offer.version) deviceContext' := by
  induction xs generalizing versions deviceContext with
  | nil =>
      refine ⟨by simp [successful], deviceContext, rfl, ?_⟩
      simpa using h
  | cons x xs ih =>
      simp only [List.mem_cons, forall_eq_or_imp] at hordinary hrecords htotal
      rcases h.run hvalues hordinary.1 hrecords.1 htotal.1 waits with
        ⟨hnext, deviceContext', hrun, hupdating⟩ | ⟨hother, hrun⟩
      · have hlength : (versions ++ [x.offer.version]).length = versions.length + 1 :=
          List.length_append
        obtain ⟨hsuccessful, after, hfinal, hafter⟩ :=
          ih hordinary.2 hrecords.2 htotal.2 hupdating
        rw [hlength] at hsuccessful hafter
        have hstep : session values waits (atRest deviceContext) x =
            (.returned true, some (atRest deviceContext')) := by
          rw [session, hrun]
        rw [updates_drop, if_pos hnext]
        refine ⟨?_, after, ?_, ?_⟩
        · rw [trace, hstep, ← hsuccessful]
          simp [successful, transition, hstep]
        · rw [finalState, hstep]
          exact hfinal
        · rw [List.map_cons, List.append_cons]
          exact hafter
      · obtain ⟨hsuccessful, after, hfinal, hafter⟩ := ih hordinary.2 hrecords.2 htotal.2 h
        have hstep : session values waits (atRest deviceContext) x =
            (.returned false, some (atRest deviceContext)) := by
          rw [session, hrun]
        rw [updates_drop, if_neg hother]
        refine ⟨?_, after, ?_, hafter⟩
        · rw [trace, hstep, ← hsuccessful]
          simp [successful, transition, hstep]
        · rw [finalState, hstep]
          exact hfinal

end Series

/-- In a series of sessions for components, with payloads of records, the sessions that
report success are the first one for the first component and the first one for the
second component behind it.  Afterwards the device reports the versions of their offers
for these components, and the version that it was made with for the others. -/
theorem series_updates {values : ComponentFirmwareUpdate} (hvalues : SpeaksProtocol values)
    (waits : ℕ) (xs : List Upload) (hordinary : ∀ x ∈ xs, x.offer.Ordinary)
    (hrecords : ∀ x ∈ xs, x.records ≠ []) (htotal : ∀ x ∈ xs, x.records.length ≤ 2 ^ 32) :
    successful (trace (session values waits) (atRest startedDevice) xs) =
        updates updateOrder xs ∧
      ∃ deviceContext,
        finalState (session values waits) (atRest startedDevice) xs =
            some (atRest deviceContext) ∧
          ∀ i, i < numberOfComponents →
            reportedVersion deviceContext i =
              ((updates updateOrder xs).map fun x => x.offer.version).getD i firmwareVersion := by
  obtain ⟨hsuccessful, deviceContext, hfinal, hupdating⟩ :=
    updating_startedDevice.series hvalues waits hordinary hrecords htotal
  refine ⟨hsuccessful, deviceContext, hfinal, ?_⟩
  intro i hi
  rw [reportedVersion_eq hi, hupdating.componentVersion i hi]
  rfl

/-! ## Four sessions -/

/-- The four report sizes of a CFU device. -/
def cfuReportSizes : CfuHidDeviceConfiguration := ⟨⟨0, 16⟩, ⟨0, 16⟩, ⟨0, 16⟩, ⟨0, 60⟩⟩

theorem cfuReportSizes_offer : cfuReportSizes.fwUpdateOffer.size = 16 := rfl

theorem cfuReportSizes_content : cfuReportSizes.fwUpdateContent.size = 60 := rfl

/-- A session for a component, with a variant and one record. -/
def variantUpload (componentId variant : UInt8) : Upload where
  protocolSettings := cfuReportSizes
  offer_size := cfuReportSizes_offer
  content_size := cfuReportSizes_content
  inputReportBuffer := List.replicate 17 0
  offerFile := [0, 0, componentId, 0, variant, 1, 0, 7] ++ List.replicate 8 0
  forceIgnoreVersion := 0
  forceReset := 0
  records := [byteRecord 0x1000 0xAA]

/-- The second component comes too early, and the first one is updated once. -/
def fourUploads : List Upload :=
  [variantUpload componentIdAudio 1, variantUpload componentIdMcu 2,
    variantUpload componentIdMcu 3, variantUpload componentIdAudio 4]

theorem forall_mem_fourUploads {motive : Upload → Prop}
    (hany : ∀ componentId variant, componentId ∈ updateOrder →
      motive (variantUpload componentId variant)) : ∀ x ∈ fourUploads, motive x := by
  intro x hx
  simp only [fourUploads, List.mem_cons, List.not_mem_nil, or_false] at hx
  rcases hx with rfl | rfl | rfl | rfl
  · exact hany _ _ (by decide)
  · exact hany _ _ (by decide)
  · exact hany _ _ (by decide)
  · exact hany _ _ (by decide)

theorem ordinary_variantUpload {componentId : UInt8} (h : componentId ∈ updateOrder)
    (variant : UInt8) : (variantUpload componentId variant).offer.Ordinary := by
  simp only [updateOrder, List.mem_cons, List.not_mem_nil, or_false] at h
  have hid : (variantUpload componentId variant).offer.componentId = componentId := rfl
  unfold FwUpdateOfferCommand.Ordinary
  rw [hid]
  rcases h with rfl | rfl
  · decide
  · decide

theorem series_updates_four :
    successful (trace (session protocolValues 0) (atRest startedDevice) fourUploads) =
        [variantUpload componentIdMcu 2, variantUpload componentIdAudio 4] ∧
      ∃ deviceContext,
        finalState (session protocolValues 0) (atRest startedDevice) fourUploads =
            some (atRest deviceContext) ∧
          reportedVersion deviceContext 0 = ⟨2, 1, 7⟩ ∧
          reportedVersion deviceContext 1 = ⟨4, 1, 7⟩ := by
  obtain ⟨hsuccessful, deviceContext, hfinal, hversions⟩ :=
    series_updates speaksProtocol_protocolValues 0 fourUploads
      (forall_mem_fourUploads fun _ variant h => ordinary_variantUpload h variant)
      (forall_mem_fourUploads fun _ _ _ => List.cons_ne_nil _ _)
      (forall_mem_fourUploads fun _ _ _ => Nat.one_le_two_pow)
  exact ⟨hsuccessful, deviceContext, hfinal, hversions 0 (by decide), hversions 1 (by decide)⟩

end Transfer
end CFU
