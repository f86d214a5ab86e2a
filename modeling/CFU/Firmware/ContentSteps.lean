import CFU.Firmware.Engine

/-!
# CFU firmware - what a content command does

Every run of {lit}`ProcessCFWUContent` follows one of seven paths.  Each path is
given by the calls it makes, the response, and the static variables it leaves.
Later files argue by cases on these paths and never unfold the engine code.

Main results:

- Relation {lit}`ContentExec`: the seven paths, with all their guards.
- Theorem {lit}`contentExec_step`: the engine follows one of them.
- Theorem {lit}`ImageRejected.status_ne_success`: a rejected image is never
  answered with success.
-/

namespace CFU
namespace Firmware

variable {W : Type} {n : ℕ}

/-! ## Validating the image -/

/-- The calls of a validation in which every check passed. -/
def validationCalls (r : Fin n) (componentId : UInt8) (status : McuStatus) (offset : UInt32)
    (crc : UInt16) : List (Call n) :=
  [.getCrcOffset r status offset, .calcCRC componentId 0 crc,
    .read offset 2 componentId 0 crc, .authenticateFWImage 0]

/-- The validations that end before the component is notified, each with its
calls and its status. -/
inductive ImageRejected (P : Platform W n) (s : EngineState n) (componentId : UInt8) :
    List (Call n) → UInt8 → Prop where
  | notRegistered (hlookup : s.lookup P componentId = some none) :
      ImageRejected P s componentId [] firmwareUpdateStatusErrorInvalid
  | noCrcOffset {r : Fin n} {status : McuStatus} {offset : UInt32}
      (hlookup : s.lookup P componentId = some (some r))
      (hstatus : mcuSuccess status = false) :
      ImageRejected P s componentId [.getCrcOffset r status offset]
        firmwareUpdateStatusErrorInvalid
  | calcFailed {r : Fin n} {status : McuStatus} {offset result : UInt32} {crc : UInt16}
      (hlookup : s.lookup P componentId = some (some r))
      (hstatus : mcuSuccess status = true) (hresult : result ≠ 0) :
      ImageRejected P s componentId
        [.getCrcOffset r status offset, .calcCRC componentId result crc]
        firmwareUpdateStatusErrorCrc
  | readFailed {r : Fin n} {status : McuStatus} {offset result : UInt32}
      {calculatedCrc crc : UInt16} (hlookup : s.lookup P componentId = some (some r))
      (hstatus : mcuSuccess status = true) (hresult : result ≠ 0) :
      ImageRejected P s componentId
        [.getCrcOffset r status offset, .calcCRC componentId 0 calculatedCrc,
          .read offset 2 componentId result crc]
        firmwareUpdateStatusErrorCrc
  | crcMismatch {r : Fin n} {status : McuStatus} {offset : UInt32}
      {calculatedCrc crc : UInt16} (hlookup : s.lookup P componentId = some (some r))
      (hstatus : mcuSuccess status = true) (hcrc : crc ≠ calculatedCrc) :
      ImageRejected P s componentId
        [.getCrcOffset r status offset, .calcCRC componentId 0 calculatedCrc,
          .read offset 2 componentId 0 crc]
        firmwareUpdateStatusErrorCrc
  | notAuthentic {r : Fin n} {status : McuStatus} {offset : UInt32} {crc : UInt16}
      {result : Int32} (hlookup : s.lookup P componentId = some (some r))
      (hstatus : mcuSuccess status = true) (hresult : result ≠ 0) :
      ImageRejected P s componentId
        [.getCrcOffset r status offset, .calcCRC componentId 0 crc,
          .read offset 2 componentId 0 crc, .authenticateFWImage result]
        firmwareUpdateStatusErrorSignature

/-- A rejected image is never answered with success. -/
theorem ImageRejected.status_ne_success {P : Platform W n} {s : EngineState n}
    {componentId status : UInt8} {calls : List (Call n)}
    (h : ImageRejected P s componentId calls status) :
    status ≠ firmwareUpdateStatusSuccess := by
  cases h <;> decide

/-- The two ways out of a validation that has asked for the CRC offset. -/
theorem validateImage_run (P : Platform W n) (sys : Sys W n) {componentId : UInt8} {r : Fin n}
    {s : EngineState n} (hlookup : s.lookup P componentId = some (some r))
    (status : McuStatus) (offset : UInt32) :
    ∃ result world calls,
      validateImage P componentId status offset sys =
        .ok result { sys with world := world, calls := sys.calls ++ calls } ∧
      ((result = firmwareUpdateStatusSuccess ∧ mcuSuccess status = true ∧
          ∃ crc, .getCrcOffset r status offset :: calls =
            validationCalls r componentId status offset crc) ∨
        ImageRejected P s componentId (.getCrcOffset r status offset :: calls) result) := by
  cases hstatus : mcuSuccess status with
  | false =>
      refine ⟨_, sys.world, [], ?_, .inr (.noCrcOffset hlookup hstatus)⟩
      simp [validateImage, hstatus, pure_run]
  | true =>
      have hrequired : (status != mcuStatusCfuCrcCheckNotRequired) = true := by
        rw [bne_iff_ne]
        rintro rfl
        simp at hstatus
      rcases hcalc : P.bsp.calcCRC componentId sys.world with ⟨⟨calcResult, calculatedCrc⟩, w₁⟩
      rcases hread : P.bsp.read offset 2 componentId w₁ with ⟨⟨readResult, crc⟩, w₂⟩
      rcases hauth : P.bsp.authenticateFWImage w₂ with ⟨authResult, w₃⟩
      simp only [validateImage, hstatus, hrequired, Bool.not_true, Bool.false_eq_true,
        if_false, if_true, iCompFwUpdateBspCalcCRC, iCompFwUpdateBspRead,
        iCompFwUpdateBspAuthenticateFWImage, bind_run, pure_run, ite_run, external_run,
        hcalc, hread, hauth, bne_iff_ne, List.append_assoc, List.cons_append, List.nil_append]
      by_cases hcalcResult : calcResult = 0
      · subst hcalcResult
        by_cases hreadResult : readResult = 0
        · subst hreadResult
          by_cases hcrc : crc = calculatedCrc
          · subst hcrc
            by_cases hauthResult : authResult = 0
            · subst hauthResult
              simp only [ne_eq, not_true, if_false]
              exact ⟨_, _, _, rfl, .inl ⟨rfl, trivial, _, rfl⟩⟩
            · simp only [ne_eq, not_true, hauthResult, not_false_iff, if_true, if_false]
              exact ⟨_, _, _, rfl, .inr (.notAuthentic hlookup hstatus hauthResult)⟩
          · simp only [ne_eq, not_true, hcrc, not_false_iff, if_true, if_false]
            exact ⟨_, _, _, rfl, .inr (.crcMismatch hlookup hstatus hcrc)⟩
        · simp only [ne_eq, not_true, hreadResult, not_false_iff, if_true, if_false]
          exact ⟨_, _, _, rfl, .inr (.readFailed hlookup hstatus hreadResult)⟩
      · simp only [ne_eq, hcalcResult, not_false_iff, if_true]
        exact ⟨_, _, _, rfl, .inr (.calcFailed hlookup hstatus hcalcResult)⟩

/-! ## The paths of a content command -/

/-- The write that every branch makes for the block of a command. -/
def blockWrite (s : EngineState n) (pCommand : FwUpdateContentCommand) (result : UInt32) :
    Call n :=
  .write pCommand.address (pCommand.pData.take pCommand.length.toNat) pCommand.length
    s.currentOffer.activeComponentId result

/-- The static variables after a content command was answered with {lit}`status`. -/
def EngineState.afterStatus (s : EngineState n) (status : UInt8) : EngineState n :=
  if status = firmwareUpdateStatusSuccess then s else s.endUpdate

/-- The status of a block that has only to be written. -/
def writeStatus (result : UInt32) : UInt8 :=
  if result = 0 then firmwareUpdateStatusSuccess else firmwareUpdateStatusErrorWrite

/-- The status of a last block whose component was notified. -/
def notifyStatus (result : NotifyResult) : UInt8 :=
  if mcuSuccess result.status then firmwareUpdateStatusSuccess
  else firmwareUpdateStatusErrorComplete

@[simp]
theorem writeStatus_eq_success {result : UInt32} :
    writeStatus result = firmwareUpdateStatusSuccess ↔ result = 0 := by
  have hne : firmwareUpdateStatusErrorWrite ≠ firmwareUpdateStatusSuccess := by decide
  by_cases hresult : result = 0
  · simp [writeStatus, hresult]
  · simp [writeStatus, hresult, hne]

@[simp]
theorem notifyStatus_eq_success {result : NotifyResult} :
    notifyStatus result = firmwareUpdateStatusSuccess ↔ mcuSuccess result.status = true := by
  have hne : firmwareUpdateStatusErrorComplete ≠ firmwareUpdateStatusSuccess := by decide
  by_cases hresult : mcuSuccess result.status = true
  · simp [notifyStatus, hresult]
  · simp [notifyStatus, hresult, hne]

@[simp]
theorem EngineState.afterStatus_success (s : EngineState n) :
    s.afterStatus firmwareUpdateStatusSuccess = s :=
  if_pos rfl

/-- The static variables after a component was notified. -/
def EngineState.afterNotify (s : EngineState n) (result : NotifyResult) : EngineState n :=
  let s' := if result.readCompleted then s.endUpdate else s
  if mcuSuccess result.status then { s' with bankSwapPending := true } else s'.endUpdate

/-- A content command that the engine answered. -/
def contentOutput (pCommand : FwUpdateContentCommand) (calls : List (Call n))
    (status : UInt8) : Output n where
  calls := calls
  response := .ok (.content (contentResponse pCommand status))

/-- The paths of {lit}`ProcessCFWUContent` from {lit}`s`: the output, and the static
variables afterwards. -/
inductive ContentExec (P : Platform W n) (s : EngineState n)
    (pCommand : FwUpdateContentCommand) : Output n → Option (EngineState n) → Prop where
  | prepareFailed {result : UInt32} (hfirst : pCommand.isFirstBlock = true)
      (hresult : result ≠ 0) :
      ContentExec P s pCommand
        (contentOutput pCommand [.prepare s.currentOffer.activeComponentId result]
          firmwareUpdateStatusErrorPrepare)
        (some s.endUpdate)
  | firstBlock (result : UInt32) (hfirst : pCommand.isFirstBlock = true) :
      ContentExec P s pCommand
        (contentOutput pCommand
          [.prepare s.currentOffer.activeComponentId 0, blockWrite s pCommand result]
          (writeStatus result))
        (some (s.afterStatus (writeStatus result)))
  | middleBlock (result : UInt32) (hfirst : pCommand.isFirstBlock = false)
      (hlast : pCommand.isLastBlock = false) :
      ContentExec P s pCommand
        (contentOutput pCommand [blockWrite s pCommand result] (writeStatus result))
        (some (s.afterStatus (writeStatus result)))
  | lastWriteFailed {result : UInt32} (hfirst : pCommand.isFirstBlock = false)
      (hlast : pCommand.isLastBlock = true) (hresult : result ≠ 0) :
      ContentExec P s pCommand
        (contentOutput pCommand [blockWrite s pCommand result] firmwareUpdateStatusErrorWrite)
        (some s.endUpdate)
  | endlessWalk (hfirst : pCommand.isFirstBlock = false)
      (hlast : pCommand.isLastBlock = true)
      (hlookup : s.lookup P s.currentOffer.activeComponentId = none) :
      ContentExec P s pCommand ⟨[blockWrite s pCommand 0], .error .endlessWalk⟩ none
  | rejected {calls : List (Call n)} {status : UInt8} (hfirst : pCommand.isFirstBlock = false)
      (hlast : pCommand.isLastBlock = true)
      (hrejected : ImageRejected P s s.currentOffer.activeComponentId calls status) :
      ContentExec P s pCommand
        (contentOutput pCommand (blockWrite s pCommand 0 :: calls) status)
        (some s.endUpdate)
  | notified {r : Fin n} {status : McuStatus} {offset : UInt32} {crc : UInt16}
      (result : NotifyResult) (hfirst : pCommand.isFirstBlock = false)
      (hlast : pCommand.isLastBlock = true)
      (hlookup : s.lookup P s.currentOffer.activeComponentId = some (some r))
      (hstatus : mcuSuccess status = true) :
      ContentExec P s pCommand
        (contentOutput pCommand
          (blockWrite s pCommand 0 ::
            (validationCalls r s.currentOffer.activeComponentId status offset crc ++
              [.notifySuccess r s.currentOffer.forceReset result]))
          (notifyStatus result))
        (some (s.afterNotify result))

/-! ## The engine follows one of the paths -/

section Follow

variable {P : Platform W n} {c : Config W n} {pCommand : FwUpdateContentCommand}

/-- The system in which an entry point starts. -/
def Config.start (c : Config W n) : Sys W n :=
  { engine := c.engine, world := c.world, calls := [] }

/-- A block that was processed determines the rest of the command. -/
theorem step_content_of_ok {status : UInt8} {sys : Sys W n}
    (h : processBlock P pCommand c.engine.currentOffer.activeComponentId c.start =
      .ok status sys) :
    step P c (.content pCommand) =
      (contentOutput pCommand sys.calls status,
        some ⟨sys.engine.afterStatus status, sys.world⟩) := by
  rw [Config.start] at h
  by_cases hstatus : status = firmwareUpdateStatusSuccess
  · simp [step, runEvent, processCFWUContent, h, hstatus, contentOutput,
      EngineState.afterStatus]
  · simp [step, runEvent, processCFWUContent, h, hstatus, contentOutput,
      EngineState.afterStatus]

/-- A block whose processing never returns determines the command. -/
theorem step_content_of_error {reason : Halt} {sys : Sys W n}
    (h : processBlock P pCommand c.engine.currentOffer.activeComponentId c.start =
      .error reason sys) :
    step P c (.content pCommand) = (⟨sys.calls, .error reason⟩, none) := by
  rw [Config.start] at h
  simp [step, runEvent, processCFWUContent, h]

theorem contentExec_firstBlock (hfirst : pCommand.isFirstBlock = true) :
    ContentExec P c.engine pCommand (step P c (.content pCommand)).1
      ((step P c (.content pCommand)).2.map Config.engine) := by
  rcases hprepare : P.bsp.prepare c.engine.currentOffer.activeComponentId c.world with
    ⟨result, w₁⟩
  rcases hwrite : P.bsp.write pCommand.address (pCommand.pData.take pCommand.length.toNat)
    pCommand.length c.engine.currentOffer.activeComponentId w₁ with ⟨writeResult, w₂⟩
  by_cases hresult : result = 0
  · subst hresult
    have hblock : processBlock P pCommand c.engine.currentOffer.activeComponentId c.start =
        .ok (writeStatus writeResult)
          ⟨c.engine, w₂, [.prepare c.engine.currentOffer.activeComponentId 0,
            blockWrite c.engine pCommand writeResult]⟩ := by
      by_cases hwr : writeResult = 0 <;>
        simp [processBlock, hfirst, processFirstBlock, iCompFwUpdateBspPrepare,
          iCompFwUpdateBspWrite, Config.start, hprepare, hwrite, writeStatus, blockWrite, hwr]
    rw [step_content_of_ok hblock]
    exact .firstBlock writeResult hfirst
  · have hblock : processBlock P pCommand c.engine.currentOffer.activeComponentId c.start =
        .ok firmwareUpdateStatusErrorPrepare
          ⟨c.engine, w₁, [.prepare c.engine.currentOffer.activeComponentId result]⟩ := by
      simp [processBlock, hfirst, processFirstBlock, iCompFwUpdateBspPrepare,
        Config.start, hprepare, hresult]
    rw [step_content_of_ok hblock]
    exact .prepareFailed hfirst hresult

theorem contentExec_middleBlock (hfirst : pCommand.isFirstBlock = false)
    (hlast : pCommand.isLastBlock = false) :
    ContentExec P c.engine pCommand (step P c (.content pCommand)).1
      ((step P c (.content pCommand)).2.map Config.engine) := by
  rcases hwrite : P.bsp.write pCommand.address (pCommand.pData.take pCommand.length.toNat)
    pCommand.length c.engine.currentOffer.activeComponentId c.world with ⟨result, w⟩
  have hblock : processBlock P pCommand c.engine.currentOffer.activeComponentId c.start =
      .ok (writeStatus result) ⟨c.engine, w, [blockWrite c.engine pCommand result]⟩ := by
    by_cases hresult : result = 0 <;>
      simp [processBlock, hfirst, hlast, processMiddleBlock, iCompFwUpdateBspWrite,
        Config.start, hwrite, writeStatus, blockWrite, hresult]
  rw [step_content_of_ok hblock]
  exact .middleBlock result hfirst hlast

/-- Notifying a component calls it once and keeps its verdict. -/
theorem notifyComponent_run (r : Fin n) (sys : Sys W n) :
    ∃ result sys', notifyComponent P (some r) sys = .ok (notifyStatus result) sys' ∧
      sys'.calls = sys.calls ++ [.notifySuccess r sys.engine.currentOffer.forceReset result] ∧
      sys'.engine.afterStatus (notifyStatus result) = sys.engine.afterNotify result := by
  rcases hnotify : (P.registration r).interface.notifySuccess
    sys.engine.currentOffer.forceReset sys.world with ⟨result, w⟩
  have hcomplete : firmwareUpdateStatusErrorComplete ≠ firmwareUpdateStatusSuccess := by
    decide
  cases hcompleted : result.readCompleted <;> cases hstatus : mcuSuccess result.status <;>
    simp [notifyComponent, callNotifySuccess, readCompleteCallback, hnotify, hcompleted,
      hstatus, notifyStatus, EngineState.afterStatus, EngineState.afterNotify, hcomplete]

/-- A search that finds nothing rejects the image. -/
theorem completeImage_of_none {sys : Sys W n} {componentId : UInt8}
    (hlookup : sys.engine.lookup P componentId = some none) :
    completeImage P componentId sys = .ok firmwareUpdateStatusErrorInvalid sys := by
  have hinvalid : firmwareUpdateStatusErrorInvalid ≠ firmwareUpdateStatusSuccess := by
    decide
  simp [completeImage, findRegistration, hlookup, validateImage, hinvalid]

/-- A search that finds a registration asks it for the CRC offset. -/
theorem completeImage_of_some (sys : Sys W n) {componentId : UInt8} {r : Fin n}
    (hlookup : sys.engine.lookup P componentId = some (some r)) :
    ∃ status sys', completeImage P componentId sys = .ok status sys' ∧
      ((∃ calls, sys'.calls = sys.calls ++ calls ∧ sys'.engine = sys.engine ∧
          ImageRejected P sys.engine componentId calls status) ∨
        ∃ crcStatus offset crc result, mcuSuccess crcStatus = true ∧
          status = notifyStatus result ∧
          sys'.calls = sys.calls ++ (validationCalls r componentId crcStatus offset crc ++
            [.notifySuccess r sys.engine.currentOffer.forceReset result]) ∧
          sys'.engine.afterStatus status = sys.engine.afterNotify result) := by
  rcases hcrc : (P.registration r).interface.getCrcOffset 0 sys.world with
    ⟨⟨crcStatus, offset⟩, w⟩
  obtain ⟨status, w', calls, hrun, hcases⟩ := validateImage_run P
    { sys with world := w, calls := sys.calls ++ [.getCrcOffset r crcStatus offset] }
    hlookup crcStatus offset
  rcases hcases with ⟨rfl, hstatus, crc, hcalls⟩ | hrejected
  · obtain ⟨result, sys', hnotify, hsysCalls, hengine⟩ := notifyComponent_run (P := P) r
      { sys with world := w', calls := sys.calls ++ .getCrcOffset r crcStatus offset :: calls }
    refine ⟨notifyStatus result, sys', ?_, .inr ⟨crcStatus, offset, crc, result, hstatus, rfl,
      ?_, hengine⟩⟩
    · simpa [completeImage, findRegistration, hlookup, callGetCrcOffset, hcrc, hrun]
        using hnotify
    · rw [hsysCalls, hcalls, List.append_assoc]
  · have hne := hrejected.status_ne_success
    refine ⟨status,
      { sys with world := w', calls := sys.calls ++ .getCrcOffset r crcStatus offset :: calls },
      ?_, .inl ⟨_, rfl, rfl, hrejected⟩⟩
    simp [completeImage, findRegistration, hlookup, callGetCrcOffset, hcrc, hrun, hne]

theorem contentExec_lastBlock (hfirst : pCommand.isFirstBlock = false)
    (hlast : pCommand.isLastBlock = true) :
    ContentExec P c.engine pCommand (step P c (.content pCommand)).1
      ((step P c (.content pCommand)).2.map Config.engine) := by
  rcases hwrite : P.bsp.write pCommand.address (pCommand.pData.take pCommand.length.toNat)
    pCommand.length c.engine.currentOffer.activeComponentId c.world with ⟨result, w⟩
  by_cases hresult : result = 0
  · subst hresult
    have hblock : processBlock P pCommand c.engine.currentOffer.activeComponentId c.start =
        completeImage P c.engine.currentOffer.activeComponentId
          ⟨c.engine, w, [blockWrite c.engine pCommand 0]⟩ := by
      simp [processBlock, hfirst, hlast, processLastBlock, iCompFwUpdateBspWrite,
        Config.start, hwrite, blockWrite]
    cases hlookup : c.engine.lookup P c.engine.currentOffer.activeComponentId with
    | none =>
        have hhang : completeImage P c.engine.currentOffer.activeComponentId
            ⟨c.engine, w, [blockWrite c.engine pCommand 0]⟩ =
              .error .endlessWalk ⟨c.engine, w, [blockWrite c.engine pCommand 0]⟩ := by
          simp [completeImage, findRegistration, hlookup]
        rw [step_content_of_error (hblock.trans hhang)]
        exact .endlessWalk hfirst hlast hlookup
    | some found =>
        cases found with
        | none =>
            rw [step_content_of_ok (hblock.trans (completeImage_of_none hlookup))]
            exact .rejected hfirst hlast (.notRegistered hlookup)
        | some r =>
            obtain ⟨status, sys', hrun, hcases⟩ := completeImage_of_some
              ⟨c.engine, w, [blockWrite c.engine pCommand 0]⟩ hlookup
            rw [step_content_of_ok (hblock.trans hrun)]
            rcases hcases with ⟨calls, hcalls, hengine, hrejected⟩ |
              ⟨crcStatus, offset, crc, result, hstatus, rfl, hcalls, hengine⟩
            · have hend : sys'.engine.afterStatus status = c.engine.endUpdate := by
                rw [EngineState.afterStatus, if_neg hrejected.status_ne_success, hengine]
              rw [hcalls, Option.map_some, hend]
              exact .rejected hfirst hlast hrejected
            · rw [hcalls, Option.map_some, hengine]
              exact .notified result hfirst hlast hlookup hstatus
  · have hblock : processBlock P pCommand c.engine.currentOffer.activeComponentId c.start =
        .ok firmwareUpdateStatusErrorWrite
          ⟨c.engine, w, [blockWrite c.engine pCommand result]⟩ := by
      simp [processBlock, hfirst, hlast, processLastBlock, iCompFwUpdateBspWrite,
        Config.start, hwrite, hresult, blockWrite]
    rw [step_content_of_ok hblock]
    exact .lastWriteFailed hfirst hlast hresult

/-- Every content command follows one of the seven paths. -/
theorem contentExec_step (P : Platform W n) (c : Config W n)
    (pCommand : FwUpdateContentCommand) :
    ContentExec P c.engine pCommand (step P c (.content pCommand)).1
      ((step P c (.content pCommand)).2.map Config.engine) := by
  cases hfirst : pCommand.isFirstBlock with
  | true => exact contentExec_firstBlock hfirst
  | false =>
      cases hlast : pCommand.isLastBlock with
      | true => exact contentExec_lastBlock hfirst hlast
      | false => exact contentExec_middleBlock hfirst hlast

end Follow

end Firmware
end CFU
