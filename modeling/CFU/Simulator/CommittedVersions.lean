import CFU.Simulator.Device

/-!
# CFU simulator - the versions that the device reports

A version that the device reports should be the one that it was made with, or one that
it accepted in an offer before the last block that committed it.  A last block commits
whatever the slot for pending versions holds, and before the first offer that is the
version of zeroed memory.

Main results:

- Theorem {lit}`pendingOffered`: what the slot for pending versions holds.
- Theorem {lit}`versions_accepted_iff`: when all versions that the device reports were
  accepted before they were committed.
-/

namespace CFU
namespace Simulator

open EventRuns

/-! ## The slot for pending versions -/

/-- The slot of a component holds a version that was offered to it, or nothing was ever
offered to it and the slot is as the framework left it. -/
def PendingOffered (ts : List DeviceTransition) (deviceContext : DeviceContext) (i : ℕ) : Prop :=
  (∃ t ∈ ts, Offers t i (deviceContext.pendingComponentVersion i)) ∨
    (deviceContext.pendingComponentVersion i = zeroVersion ∧
      ∀ t ∈ ts, ∀ version, ¬ Offers t i version)

section Run

variable {values : ComponentFirmwareUpdate} {deviceContext deviceContext' : DeviceContext}
  {request : Request} {requests : List Request} {ts us : List DeviceTransition} {i : ℕ}

/-- A step that neither offers the component a version nor touches its slot. -/
theorem PendingOffered.append {t : DeviceTransition} (h : PendingOffered ts deviceContext i)
    (hoffers : ∀ version, ¬ Offers t i version)
    (hsame : deviceContext'.pendingComponentVersion i = deviceContext.pendingComponentVersion i) :
    PendingOffered (ts ++ [t]) deviceContext' i := by
  rcases h with ⟨u, hu, hversion⟩ | ⟨hzero, hnone⟩
  · refine .inl ⟨u, List.mem_append_left _ hu, ?_⟩
    rw [hsame]
    exact hversion
  · refine .inr ⟨hsame.trans hzero, ?_⟩
    intro u hu
    rw [List.mem_append, List.mem_singleton] at hu
    rcases hu with hu | rfl
    · exact hnone u hu
    · exact hoffers

/-- One request, whatever it does. -/
theorem PendingOffered.step (h : PendingOffered ts deviceContext i)
    (hafter : (Simulator.step values deviceContext request).2 = some deviceContext') :
    PendingOffered (ts ++ [transition (Simulator.step values) deviceContext request])
      deviceContext' i := by
  cases step_effect hafter with
  | nothing offers => exact h.append (offers i) rfl
  | saves version offers =>
      by_cases hi : i = deviceContext.currentComponentIndex
      · refine .inl ⟨_, List.mem_append_right _ List.mem_cons_self, ?_⟩
        have hpending : (deviceContext.savePending version).pendingComponentVersion i =
            version := by
          rw [hi]
          exact Function.update_self _ _ _
        rw [hpending, hi]
        exact offers
      · apply h.append
        · rintro version' ⟨-, -, -, -, hcurrent, -⟩
          exact hi hcurrent.symm
        · exact Function.update_of_ne hi _ _
  | commits offers => exact h.append (offers i) rfl

/-- What the slot of a component holds after a run. -/
theorem pendingOffered (hfinal : finalState (step values) startedDevice requests =
      some deviceContext) (i : ℕ) :
    PendingOffered (trace (step values) startedDevice requests) deviceContext i := by
  apply history_of_step (fun ts deviceContext => PendingOffered ts deviceContext i) _ _ hfinal
  · exact .inr ⟨rfl, by simp⟩
  · intro ts deviceContext request deviceContext' h hafter
    exact h.step hafter

/-! ## Versions that were accepted -/

/-- The version that the device reports for a component. -/
def reportedVersion (deviceContext : DeviceContext) (i : ℕ) : ComponentVersion :=
  ((firmwareVersionResponse deviceContext).componentVersionsAndProperty.getD i
    ⟨zeroVersion, 0⟩).componentVersion

@[simp]
theorem reportedVersion_eq (hi : i < numberOfComponents) (deviceContext : DeviceContext) :
    reportedVersion deviceContext i = deviceContext.componentVersion i := by
  rw [lt_numberOfComponents_iff] at hi
  rcases hi with rfl | rfl
  · rfl
  · rfl

/-- After the transitions made so far, the version of a component is that of the start,
or a last block changed it to a version that the device had accepted for the component
before, and nothing has changed it since. -/
def VersionAccepted (values : ComponentFirmwareUpdate) (ts : List DeviceTransition)
    (deviceContext : DeviceContext) (i : ℕ) : Prop :=
  reportedVersion deviceContext i = reportedVersion startedDevice i ∨
    ∃ pre t post, ts = pre ++ t :: post ∧ TakesLastBlock values t.event ∧
      reportedVersion t.before i ≠ reportedVersion deviceContext i ∧
      (∀ u ∈ post, reportedVersion u.before i = reportedVersion deviceContext i) ∧
      ∃ o ∈ pre, Accepts values o (deviceContext.componentIds i)
        (reportedVersion deviceContext i)

/-- The current component is one of the components, and the versions of all components
are accepted ones. -/
structure VersionsAccepted (values : ComponentFirmwareUpdate) (ts : List DeviceTransition)
    (deviceContext : DeviceContext) : Prop where
  currentComponentIndex_lt : deviceContext.currentComponentIndex < numberOfComponents
  version : ∀ i < numberOfComponents, VersionAccepted values ts deviceContext i

/-- Every last block comes after an offer for the component that it updates. -/
def LastBlocksOffered (values : ComponentFirmwareUpdate) (ts : List DeviceTransition) : Prop :=
  ∀ pre t post, ts = pre ++ t :: post → TakesLastBlock values t.event →
    ∃ o ∈ pre, ∃ version, Offers o t.before.currentComponentIndex version

theorem LastBlocksOffered.of_append (h : LastBlocksOffered values (ts ++ us)) :
    LastBlocksOffered values ts := by
  intro pre t post hsplit
  apply h pre t (post ++ us)
  rw [hsplit, List.append_assoc, List.cons_append]

/-- A step that does not change the version of the component. -/
theorem VersionAccepted.append (h : VersionAccepted values ts deviceContext i)
    (hids : deviceContext'.componentIds = deviceContext.componentIds)
    (hsame : reportedVersion deviceContext' i = reportedVersion deviceContext i) :
    VersionAccepted values (ts ++ [transition (step values) deviceContext request])
      deviceContext' i := by
  unfold VersionAccepted
  rw [hids, hsame]
  rcases h with hstart | ⟨pre, t, post, hsplit, hlast, hchanged, hpost, haccepted⟩
  · exact .inl hstart
  · refine .inr ⟨pre, t, post ++ [transition (step values) deviceContext request], ?_, hlast,
      hchanged, ?_, haccepted⟩
    · rw [hsplit, List.append_assoc, List.cons_append]
    · intro u hu
      rw [List.mem_append, List.mem_singleton] at hu
      rcases hu with hu | rfl
      · exact hpost u hu
      · rfl

/-- The states of a run are those of a started device. -/
theorem started_of_mem_trace {t : DeviceTransition}
    (ht : t ∈ trace (step values) startedDevice requests) : Started t.before :=
  (forall_trace_of_invariant Started started_startedDevice
    (fun _ _ _ _ hstarted hafter => hstarted.step hafter) t ht).1

theorem started_of_finalState (hfinal : finalState (step values) startedDevice requests =
    some deviceContext) : Started deviceContext :=
  finalState_induction (motive := fun _ deviceContext => Started deviceContext)
    started_startedDevice (fun _ _ _ _ _ hstarted hafter => hstarted.step hafter) hfinal

/-- In a run, the accepted ordinary offers are those for the current component that is
not updated. -/
theorem accepts_iff_offers_of_mem_trace {t : DeviceTransition}
    (ht : t ∈ trace (step values) startedDevice requests) (hi : i < numberOfComponents)
    (version : ComponentVersion) :
    Accepts values t (startedDevice.componentIds i) version ↔ Offers t i version := by
  have hstep := eq_transition_of_mem_trace ht
  rw [hstep]
  exact accepts_iff_offers (started_of_mem_trace ht) hi version

/-! ## Last blocks -/

/-- A last block reports the pending version from then on. -/
theorem reportedVersion_commit (hstarted : Started deviceContext) :
    reportedVersion deviceContext.commit deviceContext.currentComponentIndex =
      deviceContext.pendingComponentVersion deviceContext.currentComponentIndex := by
  rw [reportedVersion_eq hstarted.currentComponentIndex_lt]
  exact Function.update_self _ _ _

/-- It leaves the other components as they are. -/
theorem reportedVersion_commit_of_ne (hi : i < numberOfComponents)
    (hne : i ≠ deviceContext.currentComponentIndex) :
    reportedVersion deviceContext.commit i = reportedVersion deviceContext i := by
  rw [reportedVersion_eq hi, reportedVersion_eq hi]
  exact Function.update_of_ne hne _ _

/-- A last block after an offer for the component commits an accepted version. -/
theorem VersionAccepted.commit
    (hfinal : finalState (step values) startedDevice requests = some deviceContext)
    (hlast : TakesLastBlock values request)
    (hoffered : ∃ o ∈ trace (step values) startedDevice requests, ∃ version,
      Offers o deviceContext.currentComponentIndex version)
    (h : VersionAccepted values (trace (step values) startedDevice requests) deviceContext
      deviceContext.currentComponentIndex) :
    VersionAccepted values
      (trace (step values) startedDevice requests ++
        [transition (step values) deviceContext request])
      deviceContext.commit deviceContext.currentComponentIndex := by
  have hstarted := started_of_finalState hfinal
  by_cases hsame : reportedVersion deviceContext.commit deviceContext.currentComponentIndex =
      reportedVersion deviceContext deviceContext.currentComponentIndex
  · exact h.append rfl hsame
  · rcases pendingOffered hfinal deviceContext.currentComponentIndex with
      ⟨o, ho, hversion⟩ | ⟨-, hnone⟩
    · refine .inr ⟨_, _, [], rfl, hlast, Ne.symm hsame, by simp, o, ho, ?_⟩
      rw [reportedVersion_commit hstarted]
      show Accepts values o (deviceContext.componentIds deviceContext.currentComponentIndex) _
      rw [hstarted.componentIds,
        accepts_iff_offers_of_mem_trace ho hstarted.currentComponentIndex_lt]
      exact hversion
    · obtain ⟨o, ho, version, hoffers⟩ := hoffered
      exact absurd hoffers (hnone o ho version)

/-- In a run whose last blocks come after offers, all versions are accepted ones. -/
theorem versionAccepted_of_lastBlocksOffered
    (hfinal : finalState (step values) startedDevice requests = some deviceContext)
    (hoffered : LastBlocksOffered values (trace (step values) startedDevice requests))
    (hi : i < numberOfComponents) :
    VersionAccepted values (trace (step values) startedDevice requests) deviceContext i := by
  revert hoffered
  apply finalState_induction (motive := fun requests deviceContext =>
    LastBlocksOffered values (trace (step values) startedDevice requests) →
      VersionAccepted values (trace (step values) startedDevice requests) deviceContext i)
    _ _ hfinal
  · intro _
    exact .inl rfl
  · intro requests deviceContext request deviceContext' hreach ih hafter hoffered
    rw [trace_append_singleton request hreach] at hoffered ⊢
    have hbefore := ih hoffered.of_append
    cases step_effect hafter with
    | nothing => exact hbefore.append rfl rfl
    | saves version => exact hbefore.append rfl rfl
    | commits offers lastBlock =>
        by_cases hcurrent : i = deviceContext.currentComponentIndex
        · rw [hcurrent] at hbefore ⊢
          exact hbefore.commit hreach lastBlock (hoffered _ _ [] rfl lastBlock)
        · exact hbefore.append rfl (reportedVersion_commit_of_ne hi hcurrent)

/-- The version of zeroed memory is not the one that the device is made with. -/
theorem reportedVersion_startedDevice_ne (hi : i < numberOfComponents) :
    reportedVersion startedDevice i ≠ zeroVersion := by
  rw [lt_numberOfComponents_iff] at hi
  rcases hi with rfl | rfl
  · decide
  · decide

/-- A last block before any offer for the component commits a version that the device
never accepted. -/
theorem not_versionAccepted_commit
    (hfinal : finalState (step values) startedDevice requests = some deviceContext)
    (hnone : ∀ o ∈ trace (step values) startedDevice requests, ∀ version,
      ¬ Offers o deviceContext.currentComponentIndex version) :
    ¬ VersionAccepted values
      (trace (step values) startedDevice requests ++
        [transition (step values) deviceContext request])
      deviceContext.commit deviceContext.currentComponentIndex := by
  have hstarted := started_of_finalState hfinal
  have hzero : reportedVersion deviceContext.commit deviceContext.currentComponentIndex =
      zeroVersion := by
    rw [reportedVersion_commit hstarted]
    rcases pendingOffered hfinal deviceContext.currentComponentIndex with
      ⟨o, ho, hversion⟩ | ⟨hzero, -⟩
    · exact absurd hversion (hnone o ho _)
    · exact hzero
  unfold VersionAccepted
  rw [hzero]
  rintro (hstart | ⟨pre, t, post, hsplit, -, -, -, o, ho, haccepts⟩)
  · exact reportedVersion_startedDevice_ne hstarted.currentComponentIndex_lt hstart.symm
  · have hmem : o ∈ trace (step values) startedDevice requests := by
      have hdrop := congrArg List.dropLast hsplit
      rw [List.dropLast_concat, List.dropLast_append_cons] at hdrop
      rw [hdrop]
      exact List.mem_append_left _ ho
    apply hnone o hmem zeroVersion
    rw [← accepts_iff_offers_of_mem_trace hmem hstarted.currentComponentIndex_lt,
      ← hstarted.componentIds]
    exact haccepts

/-- Throughout a run the device reports versions that it was made with or had accepted
before they were committed, exactly when every last block comes after an ordinary offer
for the component that is current, made when it was current and not updated. -/
theorem versions_accepted_iff (values : ComponentFirmwareUpdate) (requests : List Request) :
    (∀ sofar deviceContext, sofar <+: requests →
        finalState (step values) startedDevice sofar = some deviceContext →
        VersionsAccepted values (trace (step values) startedDevice sofar) deviceContext) ↔
      LastBlocksOffered values (trace (step values) startedDevice requests) := by
  constructor
  · intro haccepted pre t post hsplit hlast
    by_contra hunoffered
    obtain ⟨sofar, rest, hrequests, hpre, hreach, -⟩ := trace_split hsplit
    have hnext : finalState (step values) startedDevice (sofar ++ [t.event]) =
        some t.before.commit := by
      rw [finalState_append_singleton, hreach, Option.bind_some, step_of_takesLastBlock hlast]
    have hprefix : sofar ++ [t.event] <+: requests :=
      ⟨rest, by rw [hrequests, List.append_assoc, List.singleton_append]⟩
    have hversion := (haccepted _ _ hprefix hnext).version _
      (started_of_finalState hreach).currentComponentIndex_lt
    rw [trace_append_singleton t.event hreach] at hversion
    refine not_versionAccepted_commit hreach ?_ hversion
    intro o ho version hoffers
    exact hunoffered ⟨o, hpre ▸ ho, version, hoffers⟩
  · intro hoffered sofar deviceContext hprefix hfinal
    have hsofar : LastBlocksOffered values (trace (step values) startedDevice sofar) := by
      obtain ⟨later, hlater⟩ : trace (step values) startedDevice sofar <+:
          trace (step values) startedDevice requests := trace_prefix startedDevice hprefix
      rw [← hlater] at hoffered
      exact hoffered.of_append
    refine ⟨(started_of_finalState hfinal).currentComponentIndex_lt, ?_⟩
    intro i hi
    exact versionAccepted_of_lastBlocksOffered hfinal hsofar hi

end Run

/-! ## A last block without an offer -/

/-- A content command without data whose only flag is that of the last block. -/
def lastBlockReport : Request :=
  .writeReport true
    { reportId := reportIdPayloadOutput
      reportBufferLen := fwUpdateContentCommandLength
      reportBuffer i := if i = 0 then reportIdPayloadOutput else if i = 1 then 0x40 else 0 }

/-- The first component reports the version of zeroed memory after it. -/
theorem unoffered_version_reported :
    reportedVersion startedDevice.commit 0 = zeroVersion ∧
      ¬ ∀ sofar deviceContext, sofar <+: [lastBlockReport] →
        finalState (step protocolValues) startedDevice sofar = some deviceContext →
        VersionsAccepted protocolValues (trace (step protocolValues) startedDevice sofar)
          deviceContext := by
  have hreach : finalState (step protocolValues) startedDevice [] = some startedDevice := rfl
  have hnext : finalState (step protocolValues) startedDevice [lastBlockReport] =
      some startedDevice.commit := rfl
  refine ⟨by decide, ?_⟩
  intro haccepted
  have hversion := (haccepted _ _ (List.prefix_refl _) hnext).version 0 Nat.zero_lt_two
  exact not_versionAccepted_commit hreach (by simp) hversion

end Simulator
end CFU
