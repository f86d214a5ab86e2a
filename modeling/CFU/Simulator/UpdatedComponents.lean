import CFU.Simulator.CommittedVersions

/-!
# CFU simulator - components that were updated

A component that was updated stays as it is: the device rejects the ordinary offers for
it, and a further last block writes the version that it already has.  The latter holds
because the slot for pending versions and the version agree from the update on.

Main results:

- Theorem {lit}`slotsAgree_of_finalState`: the pending version of an updated component is
  its version.
- Theorem {lit}`updated_component_frozen`: nothing changes the versions of an updated
  component, and ordinary offers for it are rejected.
-/

namespace CFU
namespace Simulator

open EventRuns

section Updated

variable {values : ComponentFirmwareUpdate} {deviceContext deviceContext' : DeviceContext}
  {request : Request} {requests : List Request} {i : ℕ} {version : ComponentVersion}

/-! ## The slot of an updated component -/

/-- The slots of the updated components hold the versions that were committed. -/
def SlotsAgree (deviceContext : DeviceContext) : Prop :=
  ∀ i, deviceContext.componentsUpdated i = true →
    deviceContext.pendingComponentVersion i = deviceContext.componentVersion i

theorem slotsAgree_startedDevice : SlotsAgree startedDevice := by
  intro i hupdated
  cases hupdated

/-- An offer saves its version in the slot of a component that is not updated. -/
theorem SlotsAgree.savePending (h : SlotsAgree deviceContext)
    (hnot : deviceContext.componentsUpdated deviceContext.currentComponentIndex = false) :
    SlotsAgree (deviceContext.savePending version) := by
  intro i hupdated
  have hi : i ≠ deviceContext.currentComponentIndex := by
    rintro rfl
    exact absurd hupdated (by simp [DeviceContext.savePending, hnot])
  calc
    (deviceContext.savePending version).pendingComponentVersion i =
        deviceContext.pendingComponentVersion i := Function.update_of_ne hi _ _
    _ = deviceContext.componentVersion i := h i hupdated

/-- A last block makes the slot and the version of its component agree. -/
theorem SlotsAgree.commit (h : SlotsAgree deviceContext) : SlotsAgree deviceContext.commit := by
  intro i hupdated
  by_cases hi : i = deviceContext.currentComponentIndex
  · have hversion : deviceContext.commit.componentVersion deviceContext.currentComponentIndex =
        deviceContext.pendingComponentVersion deviceContext.currentComponentIndex :=
      Function.update_self _ _ _
    rw [hi]
    exact hversion.symm
  · have hbefore : deviceContext.componentsUpdated i = true := by
      rw [← hupdated]
      exact (Function.update_of_ne hi _ _).symm
    calc
      deviceContext.commit.pendingComponentVersion i =
          deviceContext.componentVersion i := h i hbefore
      _ = deviceContext.commit.componentVersion i := (Function.update_of_ne hi _ _).symm

theorem SlotsAgree.step (h : SlotsAgree deviceContext)
    (hafter : (Simulator.step values deviceContext request).2 = some deviceContext') :
    SlotsAgree deviceContext' := by
  cases step_effect hafter with
  | nothing => exact h
  | saves version offers =>
      obtain ⟨-, -, -, -, -, hnot, -⟩ := offers
      exact h.savePending hnot
  | commits => exact h.commit

/-- After a run the slots of the updated components hold their versions. -/
theorem slotsAgree_of_finalState
    (hfinal : finalState (step values) startedDevice requests = some deviceContext) :
    SlotsAgree deviceContext :=
  finalState_induction (motive := fun _ deviceContext => SlotsAgree deviceContext)
    slotsAgree_startedDevice (fun _ _ _ _ _ h hafter => h.step hafter) hfinal

/-! ## Frozen versions -/

/-- The component is updated, and both its versions are this one. -/
structure Frozen (i : ℕ) (version : ComponentVersion) (deviceContext : DeviceContext) : Prop where
  componentsUpdated : deviceContext.componentsUpdated i = true
  componentVersion : deviceContext.componentVersion i = version
  pendingComponentVersion : deviceContext.pendingComponentVersion i = version

theorem Frozen.commit (h : Frozen i version deviceContext) :
    Frozen i version deviceContext.commit := by
  by_cases hi : i = deviceContext.currentComponentIndex
  · have hupdated : deviceContext.commit.componentsUpdated i = true := by
      rw [hi]
      exact Function.update_self _ _ _
    have hversion : deviceContext.commit.componentVersion i =
        deviceContext.pendingComponentVersion i := by
      rw [hi]
      exact Function.update_self _ _ _
    exact ⟨hupdated, hversion.trans h.pendingComponentVersion, h.pendingComponentVersion⟩
  · have hupdated : deviceContext.commit.componentsUpdated i =
        deviceContext.componentsUpdated i := Function.update_of_ne hi _ _
    have hversion : deviceContext.commit.componentVersion i =
        deviceContext.componentVersion i := Function.update_of_ne hi _ _
    exact ⟨hupdated.trans h.componentsUpdated, hversion.trans h.componentVersion,
      h.pendingComponentVersion⟩

/-- No request changes the versions of an updated component. -/
theorem Frozen.step (h : Frozen i version deviceContext)
    (hafter : (Simulator.step values deviceContext request).2 = some deviceContext') :
    Frozen i version deviceContext' := by
  cases step_effect hafter with
  | nothing => exact h
  | saves version' offers =>
      obtain ⟨-, -, -, -, -, hnot, -⟩ := offers
      have hi : i ≠ deviceContext.currentComponentIndex := by
        rintro rfl
        have hupdated := h.componentsUpdated
        rw [transition_before] at hnot
        rw [hnot] at hupdated
        cases hupdated
      have hpending : (deviceContext.savePending version').pendingComponentVersion i =
          deviceContext.pendingComponentVersion i := Function.update_of_ne hi _ _
      exact ⟨h.componentsUpdated, h.componentVersion, hpending.trans h.pendingComponentVersion⟩
  | commits => exact h.commit

/-- An ordinary offer for a component that is updated. -/
theorem offerOutput_of_updated {offerCommand : FwUpdateOfferCommand}
    (hupdated : deviceContext.componentsUpdated deviceContext.currentComponentIndex = true)
    (hordinary : offerCommand.Ordinary) :
    (offerOutput values deviceContext offerCommand).1 =
      offerResponse values.offerReject values.offerRejectSwapPending offerCommand.token := by
  rw [offerOutput, offerStatus_of_ordinary hordinary, if_pos hupdated]

/-- The device rejects the offer because a swap is pending. -/
def RejectsSwapPending (values : ComponentFirmwareUpdate) (t : DeviceTransition) : Prop :=
  ∃ response, t.output = .writeReport (.enqueued (.offer response)) ∧
    response.status = values.offerReject ∧
    response.rejectReasonCode = values.offerRejectSwapPending

/-- When a component is updated after a run of the device, then in every later run each
ordinary offer that is received while the component is the current one is rejected
because a swap is pending, and the versions of the component stay as they are. -/
theorem updated_component_frozen (values : ComponentFirmwareUpdate)
    (earlier later : List Request) (deviceContext : DeviceContext) (i : ℕ)
    (hreach : finalState (step values) startedDevice earlier = some deviceContext)
    (hupdated : deviceContext.componentsUpdated i = true) :
    (∀ t ∈ trace (step values) deviceContext later, ∀ offerCommand,
        t.event.command = some (.offer offerCommand) → offerCommand.Ordinary →
        t.before.currentComponentIndex = i → RejectsSwapPending values t) ∧
      ∀ deviceContext', finalState (step values) deviceContext later = some deviceContext' →
        deviceContext'.componentVersion i = deviceContext.componentVersion i ∧
          deviceContext'.pendingComponentVersion i =
            deviceContext.pendingComponentVersion i := by
  have hslot := slotsAgree_of_finalState hreach i hupdated
  have hfrozen : Frozen i (deviceContext.componentVersion i) deviceContext :=
    ⟨hupdated, rfl, hslot⟩
  constructor
  · intro t ht offerCommand hoffer hordinary hcurrent
    have hbefore : Frozen i (deviceContext.componentVersion i) t.before :=
      (forall_trace_of_invariant (Frozen i _) hfrozen
        (fun _ _ _ _ h hafter => h.step hafter) t ht).1
    have hcurrentUpdated :
        t.before.componentsUpdated t.before.currentComponentIndex = true := by
      rw [hcurrent]
      exact hbefore.componentsUpdated
    have hanswer : t.output =
        .writeReport (.enqueued (.offer (offerOutput values t.before offerCommand).1)) := by
      rw [eq_transition_of_mem_trace ht, transition_output, step_of_offer hoffer]
      rfl
    refine ⟨_, hanswer, ?_, ?_⟩
    · rw [offerOutput_of_updated hcurrentUpdated hordinary]
      rfl
    · rw [offerOutput_of_updated hcurrentUpdated hordinary]
      rfl
  · intro after hfinal
    have hafter : Frozen i (deviceContext.componentVersion i) after :=
      finalState_induction
        (motive := fun _ after => Frozen i (deviceContext.componentVersion i) after)
        hfrozen (fun _ _ _ _ _ h hstep => h.step hstep) hfinal
    exact ⟨hafter.componentVersion, hafter.pendingComponentVersion.trans hslot.symm⟩

end Updated

/-- An ordinary offer for the first component. -/
def mcuOfferReport : Request :=
  .writeReport true
    { reportId := reportIdOfferOutput
      reportBufferLen := fwUpdateOfferCommandLength
      reportBuffer i := if i = 0 then reportIdOfferOutput else if i = 3 then 0x30 else 9 }

/-- The first component is updated; a last block for the second one turns to it again. -/
theorem updated_component_frozen_again :
    finalState (step protocolValues) startedDevice [lastBlockReport] =
        some startedDevice.commit ∧
      startedDevice.commit.componentsUpdated 0 = true ∧
      (∀ t ∈ trace (step protocolValues) startedDevice.commit [lastBlockReport, mcuOfferReport],
        ∀ offerCommand, t.event.command = some (.offer offerCommand) → offerCommand.Ordinary →
          t.before.currentComponentIndex = 0 → RejectsSwapPending protocolValues t) ∧
      startedDevice.commit.commit.componentVersion 0 =
        startedDevice.commit.componentVersion 0 := by
  have hreach : finalState (step protocolValues) startedDevice [lastBlockReport] =
      some startedDevice.commit := rfl
  have hupdated : startedDevice.commit.componentsUpdated 0 = true := rfl
  have hfrozen := updated_component_frozen protocolValues [lastBlockReport]
    [lastBlockReport, mcuOfferReport] startedDevice.commit 0 hreach hupdated
  refine ⟨hreach, hupdated, hfrozen.1, ?_⟩
  exact (hfrozen.2 startedDevice.commit.commit rfl).1

end Simulator
end CFU
