import CFU.Firmware.Engine

/-!
# CFU firmware - what an offer and a callback do

Every run of {lit}`ProcessCFWUOffer` follows one of seven paths: the engine
answers the offer itself, the walk of the registration list fails, or the
handler of the component that it finds declines or accepts.  The remaining
entry points have one path each.

Main results:

- Relation {lit}`OfferExec`: the seven paths, with all their guards.
- Theorem {lit}`offerExec_step`: the engine follows one of them.
- Theorem {lit}`acceptsReply_iff`: which replies of a handler start an update.
-/

namespace CFU
namespace Firmware

variable {W : Type} {n : ℕ}

/-! ## The paths of an offer -/

/-- The engine shows the offer to the registration list: it is idle, the offer
is not answered by the engine itself, and either no bank swap is pending or the
offer is a special command. -/
def EngineState.reachesList (s : EngineState n) (pCommand : FwUpdateOfferCommand) : Bool :=
  !s.currentOffer.updateInProgress && !pCommand.isGetStatus &&
    (pCommand.componentInfo.componentId == cfuSpecialOfferCmd || !s.bankSwapPending)

/-- A handler's reply to this offer starts an update. -/
def acceptsReply (pCommand : FwUpdateOfferCommand) (reply : FwUpdateOfferResponse) : Bool :=
  (overrideOldFw pCommand reply).status == firmwareUpdateOfferAccept

/-- An update is started by an acceptance, or by the rejection of an old version
when the offer asks to ignore the version. -/
theorem acceptsReply_iff (pCommand : FwUpdateOfferCommand) (reply : FwUpdateOfferResponse) :
    acceptsReply pCommand reply = true ↔
      reply.status = firmwareUpdateOfferAccept ∨
        (reply.status = firmwareUpdateOfferReject ∧
          reply.rejectReasonCode = firmwareOfferRejectOldFw ∧
          pCommand.componentInfo.forceIgnoreVersion = true) := by
  have hne : firmwareUpdateOfferReject ≠ firmwareUpdateOfferAccept := by decide
  unfold acceptsReply overrideOldFw
  split
  · rename_i h
    rw [Bool.and_eq_true, Bool.and_eq_true, beq_iff_eq, beq_iff_eq] at h
    simp [h]
  · rename_i h
    rw [Bool.and_eq_true, Bool.and_eq_true, beq_iff_eq, beq_iff_eq] at h
    rw [beq_iff_eq]
    constructor
    · exact Or.inl
    · rintro (haccept | ⟨hreject, hold, hignore⟩)
      · exact haccept
      · exact (h ⟨⟨hignore, hreject⟩, hold⟩).elim

/-- What the handler of a registration does with an offer. -/
def handleOffer (P : Platform W n) (c : Config W n) (pCommand : FwUpdateOfferCommand)
    (pResponse : FwUpdateOfferResponse) (r : Fin n) : FwUpdateOfferResponse × W :=
  let result := (P.registration r).interface.processOffer pCommand pResponse c.world
  (result.1.2, result.2)

/-- An offer that the engine answered. -/
def offerOutput (calls : List (Call n)) (pResponse : FwUpdateOfferResponse) : Output n where
  calls := calls
  response := .ok (.offer pResponse)

/-- The paths of {lit}`ProcessCFWUOffer` from {lit}`c` with {lit}`pResponse` in the
buffer of the caller: the output, and the configuration afterwards. -/
inductive OfferExec (P : Platform W n) (c : Config W n) (pCommand : FwUpdateOfferCommand)
    (pResponse : FwUpdateOfferResponse) : Output n → Option (Config W n) → Prop where
  | busy (hbusy : c.engine.currentOffer.updateInProgress = true) :
      OfferExec P c pCommand pResponse
        (offerOutput []
          (offerResponse pCommand firmwareUpdateOfferBusy firmwareUpdateOfferBusy))
        (some c)
  | ready (hidle : c.engine.currentOffer.updateInProgress = false)
      (hget : pCommand.isGetStatus = true) :
      OfferExec P c pCommand pResponse
        (offerOutput [] (offerResponse pCommand firmwareUpdateOfferCommandReady 0))
        (some c)
  | swapPending (hidle : c.engine.currentOffer.updateInProgress = false)
      (hordinary : pCommand.componentInfo.componentId ≠ cfuSpecialOfferCmd)
      (hpending : c.engine.bankSwapPending = true) :
      OfferExec P c pCommand pResponse
        (offerOutput []
          (offerResponse pCommand firmwareUpdateOfferReject firmwareUpdateOfferSwapPending))
        (some c)
  | endlessWalk (hreach : c.engine.reachesList pCommand = true)
      (hlookup : c.engine.lookup P pCommand.componentInfo.componentId = none) :
      OfferExec P c pCommand pResponse ⟨[], .error .endlessWalk⟩ none
  | notRegistered (hreach : c.engine.reachesList pCommand = true)
      (hlookup : c.engine.lookup P pCommand.componentInfo.componentId = some none) :
      OfferExec P c pCommand pResponse (offerOutput [] pResponse) (some c)
  | declined {r : Fin n} (hreach : c.engine.reachesList pCommand = true)
      (hlookup : c.engine.lookup P pCommand.componentInfo.componentId = some (some r))
      (hdeclined : acceptsReply pCommand (handleOffer P c pCommand pResponse r).1 = false) :
      OfferExec P c pCommand pResponse
        (offerOutput [.processOffer r pCommand (handleOffer P c pCommand pResponse r).1]
          (overrideOldFw pCommand (handleOffer P c pCommand pResponse r).1))
        (some ⟨c.engine, (handleOffer P c pCommand pResponse r).2⟩)
  | accepted {r : Fin n} (hreach : c.engine.reachesList pCommand = true)
      (hlookup : c.engine.lookup P pCommand.componentInfo.componentId = some (some r))
      (haccepted : acceptsReply pCommand (handleOffer P c pCommand pResponse r).1 = true) :
      OfferExec P c pCommand pResponse
        (offerOutput
          [.processOffer r pCommand (handleOffer P c pCommand pResponse r).1,
            .timerRestart c.engine.updateTimer]
          (overrideOldFw pCommand (handleOffer P c pCommand pResponse r).1))
        (some ⟨c.engine.startUpdate pCommand, (handleOffer P c pCommand pResponse r).2⟩)

section Follow

variable {P : Platform W n} {c : Config W n} {pCommand : FwUpdateOfferCommand}
  {pResponse : FwUpdateOfferResponse}

/-- The search of the registration list follows one of the last four paths. -/
theorem offerExec_present (hreach : c.engine.reachesList pCommand = true)
    (hrun : processCFWUOffer P pCommand pResponse ⟨c.engine, c.world, []⟩ =
      presentOffer P pCommand pResponse ⟨c.engine, c.world, []⟩) :
    OfferExec P c pCommand pResponse (step P c (.offer pCommand pResponse)).1
      (step P c (.offer pCommand pResponse)).2 := by
  cases hlookup : c.engine.lookup P pCommand.componentInfo.componentId with
  | none =>
      have hstep : step P c (.offer pCommand pResponse) = (⟨[], .error .endlessWalk⟩, none) := by
        simp [step, runEvent, hrun, presentOffer, findRegistration, hlookup]
      rw [hstep]
      exact .endlessWalk hreach hlookup
  | some found =>
      cases found with
      | none =>
          have hstep : step P c (.offer pCommand pResponse) =
              (offerOutput [] pResponse, some c) := by
            simp [step, runEvent, hrun, presentOffer, findRegistration, hlookup, offerOutput]
          rw [hstep]
          exact .notRegistered hreach hlookup
      | some r =>
          cases haccept : acceptsReply pCommand (handleOffer P c pCommand pResponse r).1 with
          | false =>
              have hstep : step P c (.offer pCommand pResponse) =
                  (offerOutput [.processOffer r pCommand (handleOffer P c pCommand pResponse r).1]
                    (overrideOldFw pCommand (handleOffer P c pCommand pResponse r).1),
                  some ⟨c.engine, (handleOffer P c pCommand pResponse r).2⟩) := by
                have hne : (overrideOldFw pCommand
                    ((P.registration r).interface.processOffer pCommand pResponse
                      c.world).1.2).status ≠ firmwareUpdateOfferAccept := by
                  simpa [acceptsReply, handleOffer] using haccept
                simp [step, runEvent, hrun, presentOffer, findRegistration, hlookup,
                  callProcessOffer, offerOutput, handleOffer, hne]
              rw [hstep]
              exact .declined hreach hlookup haccept
          | true =>
              have hstep : step P c (.offer pCommand pResponse) =
                  (offerOutput
                    [.processOffer r pCommand (handleOffer P c pCommand pResponse r).1,
                      .timerRestart c.engine.updateTimer]
                    (overrideOldFw pCommand (handleOffer P c pCommand pResponse r).1),
                  some ⟨c.engine.startUpdate pCommand,
                    (handleOffer P c pCommand pResponse r).2⟩) := by
                have heq : (overrideOldFw pCommand
                    ((P.registration r).interface.processOffer pCommand pResponse
                      c.world).1.2).status = firmwareUpdateOfferAccept := by
                  simpa [acceptsReply, handleOffer] using haccept
                simp [step, runEvent, hrun, presentOffer, findRegistration, hlookup,
                  callProcessOffer, offerOutput, handleOffer, heq, bspTimerRestart]
              rw [hstep]
              exact .accepted hreach hlookup haccept

/-- Every offer follows one of the seven paths. -/
theorem offerExec_step (P : Platform W n) (c : Config W n) (pCommand : FwUpdateOfferCommand)
    (pResponse : FwUpdateOfferResponse) :
    OfferExec P c pCommand pResponse (step P c (.offer pCommand pResponse)).1
      (step P c (.offer pCommand pResponse)).2 := by
  cases hbusy : c.engine.currentOffer.updateInProgress with
  | true =>
      have hstep : step P c (.offer pCommand pResponse) =
          (offerOutput []
            (offerResponse pCommand firmwareUpdateOfferBusy firmwareUpdateOfferBusy),
            some c) := by
        simp [step, runEvent, processCFWUOffer, hbusy, offerOutput]
      rw [hstep]
      exact .busy hbusy
  | false =>
      by_cases hspecial : pCommand.componentInfo.componentId = cfuSpecialOfferCmd
      · by_cases hstatus : pCommand.asSpecialOffer.commandCode = cfuSpecialOfferGetStatus
        · have hstep : step P c (.offer pCommand pResponse) =
              (offerOutput [] (offerResponse pCommand firmwareUpdateOfferCommandReady 0),
                some c) := by
            simp [step, runEvent, processCFWUOffer, hbusy, hspecial, hstatus, offerOutput]
          rw [hstep]
          exact .ready hbusy (by simp [FwUpdateOfferCommand.isGetStatus, hspecial, hstatus])
        · refine offerExec_present ?_ ?_
          · simp [EngineState.reachesList, FwUpdateOfferCommand.isGetStatus, hbusy, hspecial,
              hstatus]
          · simp [processCFWUOffer, hbusy, hspecial, hstatus]
      · cases hpending : c.engine.bankSwapPending with
        | true =>
            have hstep : step P c (.offer pCommand pResponse) =
                (offerOutput []
                  (offerResponse pCommand firmwareUpdateOfferReject
                    firmwareUpdateOfferSwapPending), some c) := by
              simp [step, runEvent, processCFWUOffer, hbusy, hspecial, hpending, offerOutput]
            rw [hstep]
            exact .swapPending hbusy hspecial hpending
        | false =>
            refine offerExec_present ?_ ?_
            · simp [EngineState.reachesList, FwUpdateOfferCommand.isGetStatus, hbusy, hspecial,
                hpending]
            · simp [processCFWUOffer, hbusy, hspecial, hpending]

end Follow

/-! ## The remaining entry points -/

section Remaining

variable (P : Platform W n) (c : Config W n)

/-- Pushing a registration object on the list, unless the pointer is null. -/
def EngineState.register (s : EngineState n) : Option (Fin n) → EngineState n
  | none => s
  | some r =>
      { s with
        pNext := Function.update s.pNext r s.pFirstComponentIFace
        pFirstComponentIFace := some r }

@[simp]
theorem step_registerComponent (pRegistration : Option (Fin n)) :
    step P c (.registerComponent pRegistration) =
      (⟨[], .ok .done⟩, some ⟨c.engine.register pRegistration, c.world⟩) := by
  cases pRegistration <;> rfl

@[simp]
theorem step_firmwareUpdateInit :
    step P c .firmwareUpdateInit =
      (⟨[.timerCreate maxFwUpdateTimeFailSafeMs, .timerStop 1], .ok .done⟩,
        some ⟨{ c.engine with updateTimer := 1 }, c.world⟩) :=
  rfl

@[simp]
theorem step_readComplete :
    step P c .readComplete = (⟨[], .ok .done⟩, some ⟨c.engine.endUpdate, c.world⟩) :=
  rfl

@[simp]
theorem step_updateTimer :
    step P c .updateTimer =
      (⟨[.timerStop c.engine.updateTimer], .ok .done⟩,
        some ⟨c.engine.endUpdate, c.world⟩) :=
  rfl

end Remaining

end Firmware
end CFU
