import CFU.Firmware.FailSafeTimer
import CFU.Firmware.SuccessfulCalls

/-!
# CFU firmware - what the answer to a content command means

The answer to a content command is one status byte for about a dozen calls.  It is
success only if none of the calls failed, and any other answer ends the update and
leaves everything else as it was.  It does not mean that a last block was validated:
a block that carries both flags is handled as a first block.

Main results:

- Theorem {lit}`content_answer_reports_errors`: no error is swallowed, and none is sticky.
- Theorem {lit}`lastBlock_validated_iff`: when an answer of success to a last block means
  that the image was validated.
- Theorem {lit}`crcNotRequired_never_completes`: a component that needs no CRC check
  cannot be updated.
-/

namespace CFU
namespace Firmware

open EventRuns

variable {W : Type} {n : ℕ}

/-! ## Errors -/

/-- What the answer to a content command says about the calls that were made, and about
the static variables before and after them. -/
structure ContentAnswer (s : EngineState n) (pCommand : FwUpdateContentCommand)
    (calls : List (Call n)) (pResponse : FwUpdateContentResponse) (s' : EngineState n) :
    Prop where
  sequenceNumber : pResponse.sequenceNumber = pCommand.sequenceNumber
  reserved : pResponse.reserved0 = 0 ∧ pResponse.reserved1 = 0 ∧ pResponse.reserved2 = 0
  timers : ∀ call ∈ calls, call.isTimer = false
  allSucceed : pResponse.status = firmwareUpdateStatusSuccess → AllSucceed calls
  endUpdate : pResponse.status ≠ firmwareUpdateStatusSuccess → s' = s.endUpdate
  updateInProgress : pResponse.status = firmwareUpdateStatusSuccess →
    (∀ r forceReset result, .notifySuccess r forceReset result ∈ calls →
      result.readCompleted = false) →
    s'.currentOffer.updateInProgress = s.currentOffer.updateInProgress

/-- The calls of a validation in which every check passed do not fail. -/
theorem allSucceed_validationCalls (s : EngineState n) (pCommand : FwUpdateContentCommand)
    (r : Fin n) (componentId : UInt8) {status : McuStatus} (offset : UInt32) (crc : UInt16)
    (forceReset : Bool) {result : NotifyResult} (hstatus : mcuSuccess status = true)
    (hresult : mcuSuccess result.status = true) :
    AllSucceed (blockWrite s pCommand 0 ::
      (validationCalls r componentId status offset crc ++
        [.notifySuccess r forceReset result])) where
  succeeded := by
    simp [blockWrite, validationCalls, Call.succeeded, hstatus, hresult]
  crc := by
    simp [blockWrite, validationCalls, Call.crcAgrees]

/-- A notification that fails leaves no more behind than the end of the update. -/
theorem EngineState.afterNotify_of_failed (s : EngineState n) {result : NotifyResult}
    (hresult : mcuSuccess result.status = false) : s.afterNotify result = s.endUpdate := by
  cases hcompleted : result.readCompleted with
  | false => simp [EngineState.afterNotify, hresult, hcompleted]
  | true => simp [EngineState.afterNotify, hresult, hcompleted, EngineState.endUpdate]

/-- A notification leaves the update in progress unless the component called the
completion handler before it reported success. -/
theorem EngineState.afterNotify_updateInProgress (s : EngineState n) {result : NotifyResult}
    (hsuccess : mcuSuccess result.status = true) (hcompleted : result.readCompleted = false) :
    (s.afterNotify result).currentOffer.updateInProgress = s.currentOffer.updateInProgress := by
  simp [EngineState.afterNotify, hsuccess, hcompleted]

section Answer

variable {P : Platform W n} {s s' : EngineState n} {pCommand : FwUpdateContentCommand}
  {calls : List (Call n)} {status : UInt8}

/-- The calls and the static variables of a command that was answered with success. -/
theorem ContentExec.of_success
    (h : ContentExec P s pCommand (contentOutput pCommand calls status) (some s'))
    (hstatus : status = firmwareUpdateStatusSuccess) :
    AllSucceed calls ∧
      (s' = s ∨ ∃ r forceReset result, .notifySuccess r forceReset result ∈ calls ∧
        s' = s.afterNotify result ∧ mcuSuccess result.status = true) := by
  generalize hout : contentOutput pCommand calls status = output at h
  generalize hafter : some s' = after at h
  cases h with
  | prepareFailed =>
      obtain ⟨-, rfl⟩ := contentOutput_inj.mp hout
      cases hstatus
  | firstBlock result =>
      obtain ⟨rfl, rfl⟩ := contentOutput_inj.mp hout
      rw [writeStatus_eq_success] at hstatus
      subst hstatus
      cases hafter
      exact ⟨⟨by simp [blockWrite, Call.succeeded], by simp [Call.crcAgrees, blockWrite]⟩,
        .inl (EngineState.afterStatus_success s)⟩
  | middleBlock result =>
      obtain ⟨rfl, rfl⟩ := contentOutput_inj.mp hout
      rw [writeStatus_eq_success] at hstatus
      subst hstatus
      cases hafter
      exact ⟨⟨by simp [blockWrite, Call.succeeded], by simp⟩,
        .inl (EngineState.afterStatus_success s)⟩
  | lastWriteFailed =>
      obtain ⟨-, rfl⟩ := contentOutput_inj.mp hout
      cases hstatus
  | endlessWalk => cases hafter
  | rejected _ _ hrejected =>
      obtain ⟨-, rfl⟩ := contentOutput_inj.mp hout
      exact absurd hstatus hrejected.status_ne_success
  | @notified r _ _ _ result _ _ _ hcrcStatus =>
      obtain ⟨rfl, rfl⟩ := contentOutput_inj.mp hout
      rw [notifyStatus_eq_success] at hstatus
      cases hafter
      refine ⟨allSucceed_validationCalls _ _ _ _ _ _ _ hcrcStatus hstatus, .inr ?_⟩
      exact ⟨r, s.currentOffer.forceReset, result, by simp, rfl, hstatus⟩

/-- A command that was answered with an error ends the update and changes nothing else. -/
theorem ContentExec.of_error
    (h : ContentExec P s pCommand (contentOutput pCommand calls status) (some s'))
    (hstatus : status ≠ firmwareUpdateStatusSuccess) : s' = s.endUpdate := by
  have hended : ∀ {status}, status ≠ firmwareUpdateStatusSuccess →
      s.afterStatus status = s.endUpdate := fun hne => if_neg hne
  generalize hout : contentOutput pCommand calls status = output at h
  generalize hafter : some s' = after at h
  cases h with
  | prepareFailed => exact Option.some.inj hafter
  | firstBlock result =>
      obtain ⟨-, rfl⟩ := contentOutput_inj.mp hout
      exact (Option.some.inj hafter).trans (hended hstatus)
  | middleBlock result =>
      obtain ⟨-, rfl⟩ := contentOutput_inj.mp hout
      exact (Option.some.inj hafter).trans (hended hstatus)
  | lastWriteFailed => exact Option.some.inj hafter
  | endlessWalk => cases hafter
  | rejected => exact Option.some.inj hafter
  | notified result =>
      obtain ⟨-, rfl⟩ := contentOutput_inj.mp hout
      rw [ne_eq, notifyStatus_eq_success, Bool.not_eq_true] at hstatus
      exact (Option.some.inj hafter).trans (s.afterNotify_of_failed hstatus)

end Answer

/-- A command whose processing returns is answered, and one whose processing does not
return is a last block whose component is looked for on a list without an end. -/
theorem content_step_cases (P : Platform W n) (c : Config W n)
    (pCommand : FwUpdateContentCommand) :
    (∃ calls status c',
        step P c (.content pCommand) = (contentOutput pCommand calls status, some c') ∧
          ContentExec P c.engine pCommand (contentOutput pCommand calls status)
            (some c'.engine)) ∨
      (pCommand.isFirstBlock = false ∧ pCommand.isLastBlock = true ∧
        c.engine.lookup P c.engine.currentOffer.activeComponentId = none ∧
        step P c (.content pCommand) =
          (⟨[blockWrite c.engine pCommand 0], .error .endlessWalk⟩, none)) := by
  have hexec := contentExec_step P c pCommand
  generalize step P c (.content pCommand) = result at hexec ⊢
  rcases result with ⟨output, after⟩
  cases after with
  | none =>
      dsimp only [Option.map_none] at hexec
      generalize hafter : none = after at hexec
      cases hexec with
      | endlessWalk hfirst hlast hlookup => exact .inr ⟨hfirst, hlast, hlookup, rfl⟩
      | _ => cases hafter
  | some c' =>
      dsimp only [Option.map_some] at hexec
      have hanswered : ∃ calls status, output = contentOutput pCommand calls status := by
        generalize hafter : some c'.engine = after at hexec
        cases hexec with
        | endlessWalk => cases hafter
        | _ => exact ⟨_, _, rfl⟩
      obtain ⟨calls, status, rfl⟩ := hanswered
      exact .inl ⟨calls, status, c', rfl, hexec⟩

/-- Errors are neither swallowed nor sticky.  A command is answered with success only if
no call failed, and any other answer leaves everything but the flag of the update in
progress as it was.  The only command that is not answered is a last block whose component
is looked for on a list without an end. -/
theorem content_answer_reports_errors (P : Platform W n) (c : Config W n)
    (pCommand : FwUpdateContentCommand) :
    (∃ calls pResponse c',
        step P c (.content pCommand) = (⟨calls, .ok (.content pResponse)⟩, some c') ∧
          ContentAnswer c.engine pCommand calls pResponse c'.engine) ∨
      (pCommand.isFirstBlock = false ∧ pCommand.isLastBlock = true ∧
        c.engine.lookup P c.engine.currentOffer.activeComponentId = none ∧
        step P c (.content pCommand) =
          (⟨[blockWrite c.engine pCommand 0], .error .endlessWalk⟩, none)) := by
  rcases content_step_cases P c pCommand with ⟨calls, status, c', hstep, hexec⟩ | hendless
  · refine .inl ⟨calls, contentResponse pCommand status, c', hstep, ?_⟩
    exact
      { sequenceNumber := rfl
        reserved := ⟨rfl, rfl, rfl⟩
        timers := fun call hcall => (hexec.servesCurrentOffer call hcall).isTimer
        allSucceed := fun hstatus => (hexec.of_success hstatus).1
        endUpdate := hexec.of_error
        updateInProgress := by
          intro hstatus hcallback
          rcases (hexec.of_success hstatus).2 with
            hsame | ⟨r, forceReset, result, hnotify, hafter, hsuccess⟩
          · rw [hsame]
          · rw [hafter]
            have hcompleted := hcallback r forceReset result hnotify
            exact c.engine.afterNotify_updateInProgress hsuccess hcompleted }
  · exact .inr hendless

/-! ## A block that is first and last -/

/-- The calls that validate the image of the active component and notify it, each of
them with a result of success. -/
structure ImageAccepted (P : Platform W n) (s : EngineState n) (calls : List (Call n))
    (r : Fin n) (status : McuStatus) (offset : UInt32) (result : NotifyResult) : Prop where
  lookup : s.lookup P s.currentOffer.activeComponentId = some (some r)
  getCrcOffset : .getCrcOffset r status offset ∈ calls
  crc : status = mcuStatusCfuCrcCheckNotRequired ∨
    ∃ crc, .calcCRC s.currentOffer.activeComponentId 0 crc ∈ calls ∧
      .read offset 2 s.currentOffer.activeComponentId 0 crc ∈ calls
  authenticated : .authenticateFWImage 0 ∈ calls
  notified : .notifySuccess r s.currentOffer.forceReset result ∈ calls
  accepted : mcuSuccess result.status = true

/-- An answer of success to this command means that the image was validated, and that
the component was prepared before a first block was written. -/
def SuccessMeansValidated (P : Platform W n) (c : Config W n)
    (pCommand : FwUpdateContentCommand) : Prop :=
  ∀ pResponse, (step P c (.content pCommand)).1.response = .ok (.content pResponse) →
    pResponse.status = firmwareUpdateStatusSuccess →
      (∃ r status offset result,
        ImageAccepted P c.engine (step P c (.content pCommand)).1.calls r status offset result) ∧
      (pCommand.isFirstBlock = true →
        List.Sublist
          [.prepare c.engine.currentOffer.activeComponentId 0, blockWrite c.engine pCommand 0]
          (step P c (.content pCommand)).1.calls)

/-- The component is prepared for an image and the block of the command is written. -/
def FirstBlockStored (P : Platform W n) (c : Config W n) (pCommand : FwUpdateContentCommand) :
    Prop :=
  let id := c.engine.currentOffer.activeComponentId
  let prepared := P.bsp.prepare id c.world
  prepared.1 = 0 ∧
    (P.bsp.write pCommand.address (pCommand.pData.take pCommand.length.toNat) pCommand.length id
      prepared.2).1 = 0

section FirstBlock

variable {P : Platform W n} {c : Config W n} {pCommand : FwUpdateContentCommand}

/-- A first block that is stored is answered with success, after these two calls alone. -/
theorem step_content_of_firstBlockStored (hfirst : pCommand.isFirstBlock = true)
    (hstored : FirstBlockStored P c pCommand) :
    (step P c (.content pCommand)).1 =
      contentOutput pCommand
        [.prepare c.engine.currentOffer.activeComponentId 0, blockWrite c.engine pCommand 0]
        firmwareUpdateStatusSuccess := by
  obtain ⟨hprepare, hwrite⟩ := hstored
  have hblock : processBlock P pCommand c.engine.currentOffer.activeComponentId c.start =
      .ok firmwareUpdateStatusSuccess
        ⟨c.engine, (P.bsp.write pCommand.address (pCommand.pData.take pCommand.length.toNat)
            pCommand.length c.engine.currentOffer.activeComponentId
            (P.bsp.prepare c.engine.currentOffer.activeComponentId c.world).2).2,
          [.prepare c.engine.currentOffer.activeComponentId 0,
            blockWrite c.engine pCommand 0]⟩ := by
    simp [processBlock, hfirst, processFirstBlock, iCompFwUpdateBspPrepare,
      iCompFwUpdateBspWrite, Config.start, hprepare, hwrite, blockWrite]
  rw [step_content_of_ok hblock]

/-- A first block that is not stored is not answered with success. -/
theorem firstBlockStored_of_success (hfirst : pCommand.isFirstBlock = true)
    {pResponse : FwUpdateContentResponse}
    (hanswer : (step P c (.content pCommand)).1.response = .ok (.content pResponse))
    (hstatus : pResponse.status = firmwareUpdateStatusSuccess) :
    FirstBlockStored P c pCommand := by
  have hprepareError : firmwareUpdateStatusErrorPrepare ≠ firmwareUpdateStatusSuccess := by
    decide
  have hwriteError : firmwareUpdateStatusErrorWrite ≠ firmwareUpdateStatusSuccess := by
    decide
  by_contra hstored
  rcases hprepare : P.bsp.prepare c.engine.currentOffer.activeComponentId c.world with
    ⟨result, w₁⟩
  rcases hwrite : P.bsp.write pCommand.address (pCommand.pData.take pCommand.length.toNat)
    pCommand.length c.engine.currentOffer.activeComponentId w₁ with ⟨writeResult, w₂⟩
  simp only [FirstBlockStored, hprepare, not_and] at hstored
  have hblock : ∃ status sys, status ≠ firmwareUpdateStatusSuccess ∧
      processBlock P pCommand c.engine.currentOffer.activeComponentId c.start =
        .ok status sys := by
    by_cases hresult : result = 0
    · have hwriteResult := hstored hresult
      rw [hwrite] at hwriteResult
      refine ⟨_, ⟨c.engine, w₂, [.prepare c.engine.currentOffer.activeComponentId 0,
        blockWrite c.engine pCommand writeResult]⟩, hwriteError, ?_⟩
      simp [processBlock, hfirst, processFirstBlock, iCompFwUpdateBspPrepare,
        iCompFwUpdateBspWrite, Config.start, hprepare, hwrite, hresult, hwriteResult, blockWrite]
    · refine ⟨_, ⟨c.engine, w₁, [.prepare c.engine.currentOffer.activeComponentId result]⟩,
        hprepareError, ?_⟩
      simp [processBlock, hfirst, processFirstBlock, iCompFwUpdateBspPrepare,
        Config.start, hprepare, hresult]
  obtain ⟨status, sys, hne, hrun⟩ := hblock
  rw [step_content_of_ok hrun] at hanswer
  cases hanswer
  exact hne hstatus

/-- A last block that is no first block is validated before it is answered with
success. -/
theorem imageAccepted_of_success (hfirst : pCommand.isFirstBlock = false)
    (hlast : pCommand.isLastBlock = true) {pResponse : FwUpdateContentResponse}
    (hanswer : (step P c (.content pCommand)).1.response = .ok (.content pResponse))
    (hstatus : pResponse.status = firmwareUpdateStatusSuccess) :
    ∃ r status offset result,
      ImageAccepted P c.engine (step P c (.content pCommand)).1.calls r status offset result := by
  have hexec := contentExec_step P c pCommand
  generalize (step P c (.content pCommand)).2.map Config.engine = after at hexec
  generalize (step P c (.content pCommand)).1 = output at hexec hanswer
  cases hexec with
  | prepareFailed hfirst' =>
      rw [hfirst] at hfirst'
      cases hfirst'
  | firstBlock _ hfirst' =>
      rw [hfirst] at hfirst'
      cases hfirst'
  | middleBlock _ _ hlast' =>
      rw [hlast] at hlast'
      cases hlast'
  | lastWriteFailed =>
      cases hanswer
      cases hstatus
  | endlessWalk => cases hanswer
  | rejected _ _ hrejected =>
      cases hanswer
      exact absurd hstatus hrejected.status_ne_success
  | @notified r status offset crc result _ _ hlookup =>
      cases hanswer
      refine ⟨r, status, offset, result, ?_⟩
      exact
        { lookup := hlookup
          getCrcOffset := by simp [contentOutput, validationCalls]
          crc := .inr ⟨crc, by simp [contentOutput, validationCalls]⟩
          authenticated := by simp [contentOutput, validationCalls]
          notified := by simp [contentOutput]
          accepted := notifyStatus_eq_success.mp hstatus }

end FirstBlock

/-- An answer of success to a last block means that the image was validated, except for
a block that is also a first block and is stored. -/
theorem lastBlock_validated_iff (P : Platform W n) (c : Config W n)
    (pCommand : FwUpdateContentCommand) (hlast : pCommand.isLastBlock = true) :
    SuccessMeansValidated P c pCommand ↔
      pCommand.isFirstBlock = false ∨ ¬ FirstBlockStored P c pCommand := by
  constructor
  · intro hvalidated
    by_contra hcontra
    rw [not_or, Bool.not_eq_false, not_not] at hcontra
    obtain ⟨hfirst, hstored⟩ := hcontra
    have hstep := step_content_of_firstBlockStored hfirst hstored
    obtain ⟨⟨r, status, offset, result, haccepted⟩, -⟩ :=
      hvalidated (contentResponse pCommand firmwareUpdateStatusSuccess)
        (congrArg Output.response hstep) rfl
    have hauthenticated := haccepted.authenticated
    rw [hstep] at hauthenticated
    simp [contentOutput, blockWrite] at hauthenticated
  · rintro (hfirst | hstored) pResponse hanswer hstatus
    · refine ⟨imageAccepted_of_success hfirst hlast hanswer hstatus, ?_⟩
      intro hfirst'
      rw [hfirst] at hfirst'
      cases hfirst'
    · have hfirst : pCommand.isFirstBlock = false := by
        by_contra hfirst
        rw [Bool.not_eq_false] at hfirst
        exact hstored (firstBlockStored_of_success hfirst hanswer hstatus)
      refine ⟨imageAccepted_of_success hfirst hlast hanswer hstatus, ?_⟩
      intro hfirst'
      rw [hfirst] at hfirst'
      cases hfirst'

theorem lastBlock_validated_iff_oneBlock :
    ∃ c, finalState (step (acceptingPlatform fun _ => 1)) (Config.powerOn (fun _ => none) ())
        acceptedOffer = some c ∧
      SuccessMeansValidated (acceptingPlatform fun _ => 1) c
        (.block firmwareUpdateFlagLastBlock 0 [0xAA]) :=
  ⟨_, rfl, (lastBlock_validated_iff (acceptingPlatform fun _ => 1) _
    (.block firmwareUpdateFlagLastBlock 0 [0xAA]) (by decide)).mpr (.inl (by decide))⟩

/-- The image of an accepted offer in one block that is both first and last. -/
def oneBlockImage : FwUpdateContentCommand :=
  .block (firmwareUpdateFlagFirstBlock ||| firmwareUpdateFlagLastBlock) 0 [0xAA]

/-- It is written and answered with success, and nothing checks it. -/
theorem oneBlockImage_not_validated :
    ∃ c, finalState (step (acceptingPlatform fun _ => 1)) (Config.powerOn (fun _ => none) ())
        acceptedOffer = some c ∧
      ¬ SuccessMeansValidated (acceptingPlatform fun _ => 1) c oneBlockImage := by
  refine ⟨_, rfl, ?_⟩
  intro hvalidated
  obtain ⟨⟨r, status, offset, result, haccepted⟩, -⟩ :=
    hvalidated (contentResponse oneBlockImage firmwareUpdateStatusSuccess) rfl rfl
  have hcalls : Call.authenticateFWImage 0 ∈
      [Call.prepare 1 0, Call.write (n := 1) 0 [0xAA] 1 1 0] := haccepted.authenticated
  simp at hcalls

/-! ## A component without a CRC -/

/-- The image of a component that needs no CRC check is accepted without one. -/
def CompletesWithoutCrc (P : Platform W n) (c : Config W n)
    (pCommand : FwUpdateContentCommand) : Prop :=
  ∃ calls c', step P c (.content pCommand) =
      (contentOutput pCommand calls firmwareUpdateStatusSuccess, some c') ∧
    c'.engine.bankSwapPending = true ∧
    ∀ componentId result crc, .calcCRC componentId result crc ∉ calls

/-- The last block is written, and its component says that it needs no CRC check. -/
structure CrcNotRequired (P : Platform W n) (c : Config W n) (pCommand : FwUpdateContentCommand)
    (r : Fin n) (offset : UInt32) (w₁ w₂ : W) : Prop where
  first : pCommand.isFirstBlock = false
  last : pCommand.isLastBlock = true
  lookup : c.engine.lookup P c.engine.currentOffer.activeComponentId = some (some r)
  write : P.bsp.write pCommand.address (pCommand.pData.take pCommand.length.toNat)
    pCommand.length c.engine.currentOffer.activeComponentId c.world = (0, w₁)
  getCrcOffset : (P.registration r).interface.getCrcOffset 0 w₁ =
    ((mcuStatusCfuCrcCheckNotRequired, offset), w₂)

/-- The word that asks to skip the CRC check is taken for a failure before it is
compared. -/
theorem step_content_of_crcNotRequired {P : Platform W n} {c : Config W n}
    {pCommand : FwUpdateContentCommand} {r : Fin n} {offset : UInt32} {w₁ w₂ : W}
    (h : CrcNotRequired P c pCommand r offset w₁ w₂) :
    step P c (.content pCommand) =
      (contentOutput pCommand
          [blockWrite c.engine pCommand 0, .getCrcOffset r mcuStatusCfuCrcCheckNotRequired offset]
          firmwareUpdateStatusErrorInvalid,
        some ⟨c.engine.endUpdate, w₂⟩) := by
  have hblock : processBlock P pCommand c.engine.currentOffer.activeComponentId c.start =
      .ok firmwareUpdateStatusErrorInvalid
        ⟨c.engine, w₂, [blockWrite c.engine pCommand 0,
          .getCrcOffset r mcuStatusCfuCrcCheckNotRequired offset]⟩ := by
    have hne : firmwareUpdateStatusErrorInvalid ≠ firmwareUpdateStatusSuccess := by
      decide
    simp [processBlock, h.first, h.last, processLastBlock, iCompFwUpdateBspWrite, Config.start,
      h.write, completeImage, findRegistration, h.lookup, callGetCrcOffset, h.getCrcOffset,
      validateImage, hne, blockWrite]
  rw [step_content_of_ok hblock]
  rfl

/-- An image is authenticated only behind a CRC offset that was found. -/
theorem crcOffset_found_of_authenticated (P : Platform W n) (c : Config W n)
    (pCommand : FwUpdateContentCommand) {r : Fin n} {status : McuStatus} {offset : UInt32}
    {result : Int32}
    (hcall : .getCrcOffset r status offset ∈ (step P c (.content pCommand)).1.calls)
    (hauthenticated : .authenticateFWImage result ∈ (step P c (.content pCommand)).1.calls) :
    mcuSuccess status = true := by
  have hexec := contentExec_step P c pCommand
  generalize (step P c (.content pCommand)).2.map Config.engine = after at hexec
  generalize (step P c (.content pCommand)).1 = output at hexec hcall hauthenticated
  cases hexec with
  | prepareFailed => simp [contentOutput] at hcall
  | firstBlock => simp [contentOutput, blockWrite] at hcall
  | middleBlock => simp [contentOutput, blockWrite] at hcall
  | lastWriteFailed => simp [contentOutput, blockWrite] at hcall
  | endlessWalk => simp [blockWrite] at hcall
  | rejected _ _ hrejected =>
      cases hrejected with
      | notAuthentic _ hstatus =>
          simp [contentOutput, blockWrite] at hcall
          rw [hcall.2.1]
          exact hstatus
      | _ => simp [contentOutput, blockWrite] at hauthenticated
  | notified _ _ _ _ hstatus =>
      simp [contentOutput, blockWrite, validationCalls] at hcall
      rw [hcall.2.1]
      exact hstatus

/-- No component that needs no CRC check can be updated, and no component whose CRC
offset cannot be found has its image authenticated. -/
theorem crcNotRequired_never_completes (P : Platform W n) (c : Config W n)
    (pCommand : FwUpdateContentCommand) :
    (∀ r offset w₁ w₂, CrcNotRequired P c pCommand r offset w₁ w₂ →
      ¬ CompletesWithoutCrc P c pCommand) ∧
    ∀ r status offset result,
      .getCrcOffset r status offset ∈ (step P c (.content pCommand)).1.calls →
        mcuSuccess status = false →
          .authenticateFWImage result ∉ (step P c (.content pCommand)).1.calls := by
  constructor
  · rintro r offset w₁ w₂ hnotRequired ⟨calls, c', hstep, -, -⟩
    rw [step_content_of_crcNotRequired hnotRequired, Prod.mk.injEq, contentOutput_inj] at hstep
    exact absurd hstep.1.2 (by decide)
  · intro r status offset result hcall hstatus hauthenticated
    rw [crcOffset_found_of_authenticated P c pCommand hcall hauthenticated] at hstatus
    cases hstatus

/-- A product whose only component needs no CRC check; every other call succeeds. -/
def crcFreePlatform : Platform Unit 1 where
  bsp := (acceptingPlatform fun _ : Fin 1 => 1).bsp
  registration _ :=
    { interface :=
        { acceptingInterface with
          getCrcOffset := fun _ world => ((mcuStatusCfuCrcCheckNotRequired, 0), world) }
      componentId := 1 }

theorem crcNotRequired_never_completes_crcFree :
    ∃ c, finalState (step crcFreePlatform) (Config.powerOn (fun _ => none) ()) acceptedOffer =
        some c ∧
      ¬ CompletesWithoutCrc crcFreePlatform c (.block firmwareUpdateFlagLastBlock 0 [0xAA]) := by
  refine ⟨_, rfl, ?_⟩
  refine (crcNotRequired_never_completes crcFreePlatform _
    (.block firmwareUpdateFlagLastBlock 0 [0xAA])).1 onlyComponent 0 () () ?_
  exact ⟨by decide, by decide, rfl, rfl, rfl⟩

/-- The block is written, the image would be authenticated and the component would
report success, yet the answer is an error. -/
theorem crcFree_update_rejected :
    ∃ c, finalState (step crcFreePlatform) (Config.powerOn (fun _ => none) ()) acceptedOffer =
        some c ∧
      (∃ offset, CrcNotRequired crcFreePlatform c (.block firmwareUpdateFlagLastBlock 0 [0xAA])
        onlyComponent offset () ()) ∧
      (crcFreePlatform.bsp.authenticateFWImage ()).1 = 0 ∧
      mcuSuccess ((crcFreePlatform.registration onlyComponent).interface.notifySuccess
        c.engine.currentOffer.forceReset ()).1.status = true ∧
      ¬ CompletesWithoutCrc crcFreePlatform c (.block firmwareUpdateFlagLastBlock 0 [0xAA]) := by
  refine ⟨_, rfl, ⟨0, by decide, by decide, rfl, rfl, rfl⟩, rfl, by decide, ?_⟩
  rintro ⟨calls, c', hstep, -, -⟩
  have hstatus : firmwareUpdateStatusErrorInvalid = firmwareUpdateStatusSuccess := by
    rw [step_content_of_crcNotRequired ⟨by decide, by decide, rfl, rfl, rfl⟩, Prod.mk.injEq,
      contentOutput_inj] at hstep
    exact hstep.1.2
  revert hstatus
  decide

end Firmware
end CFU
