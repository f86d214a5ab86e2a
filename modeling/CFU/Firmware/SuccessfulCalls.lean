import CFU.Firmware.EngineRuns
import Mathlib.Data.List.Chain

/-!
# CFU firmware - calls that do not fail

The platform calls of a content command report their own success, and the two
CRC values are compared by the engine.  When a run makes no call that fails,
every block for a registered component is answered with success.

Main results:

- Definition {lit}`AllSucceed`: no call fails, and the CRC values agree.
- Theorem {lit}`content_succeeds`: then the engine answers with success.
-/

namespace CFU
namespace Firmware

variable {W : Type} {n : ℕ}

/-! ## Whom a call is for -/

/-- The call names the component, or goes to its registration.  An authentication
names nobody. -/
def Call.isFor (r : Fin n) (componentId : UInt8) : Call n → Bool
  | .prepare id _ => id == componentId
  | .write _ _ _ id _ => id == componentId
  | .calcCRC id _ _ => id == componentId
  | .read _ _ id _ _ => id == componentId
  | .getCrcOffset r' _ _ => r' == r
  | .notifySuccess r' _ _ => r' == r
  | .authenticateFWImage _ => true
  | .processOffer .. | .timerCreate _ | .timerRestart _ | .timerStop _ => false

/-- A call for the current offer is for the registration that the search for the
active component finds. -/
theorem Call.ServesCurrentOffer.isFor {P : Platform W n} {s : EngineState n} {call : Call n}
    (h : call.ServesCurrentOffer P s) {r : Fin n}
    (hlookup : s.lookup P s.currentOffer.activeComponentId = some (some r)) :
    call.isFor r s.currentOffer.activeComponentId = true := by
  have hfound : ∀ r', s.lookup P s.currentOffer.activeComponentId = some (some r') →
      (r' == r) = true := by
    intro r' hr'
    rw [hlookup] at hr'
    cases hr'
    exact beq_self_eq_true r
  cases call with
  | getCrcOffset r' => exact hfound r' h
  | notifySuccess r' => exact hfound r' h.1
  | authenticateFWImage => rfl
  | prepare => exact beq_iff_eq.mpr h
  | write => exact beq_iff_eq.mpr h
  | calcCRC => exact beq_iff_eq.mpr h
  | read => exact beq_iff_eq.mpr h
  | processOffer => exact h.elim
  | timerCreate => exact h.elim
  | timerRestart => exact h.elim
  | timerStop => exact h.elim

/-- Content for a registered component makes calls for that component only. -/
theorem content_calls_isFor {P : Platform W n} {c : Config W n} {r : Fin n}
    (hlookup : c.engine.lookup P c.engine.currentOffer.activeComponentId = some (some r))
    (pCommand : FwUpdateContentCommand) :
    ∀ call ∈ (step P c (.content pCommand)).1.calls,
      call.isFor r c.engine.currentOffer.activeComponentId = true := by
  intro call hcall
  have hserves := (contentExec_step P c pCommand).servesCurrentOffer call hcall
  exact hserves.isFor hlookup

/-- An offer is answered, or its processing never returns; none of its calls is
for an image. -/
theorem offer_output_cases (P : Platform W n) (c : Config W n) (pCommand : FwUpdateOfferCommand)
    (pResponse : FwUpdateOfferResponse) :
    (∃ calls response c', step P c (.offer pCommand pResponse) =
        (offerOutput calls response, some c') ∧
        ∀ r componentId, ∀ call ∈ calls, Call.isFor r componentId call = false) ∨
      ∃ calls reason after, step P c (.offer pCommand pResponse) =
        (⟨calls, .error reason⟩, after) := by
  have hexec := offerExec_step P c pCommand pResponse
  generalize step P c (.offer pCommand pResponse) = result at hexec
  rcases result with ⟨output, after⟩
  cases hexec with
  | busy => exact .inl ⟨_, _, _, rfl, by simp⟩
  | ready => exact .inl ⟨_, _, _, rfl, by simp⟩
  | swapPending => exact .inl ⟨_, _, _, rfl, by simp⟩
  | endlessWalk => exact .inr ⟨_, _, _, rfl⟩
  | notRegistered => exact .inl ⟨_, _, _, rfl, by simp⟩
  | declined => exact .inl ⟨_, _, _, rfl, by simp [Call.isFor]⟩
  | accepted => exact .inl ⟨_, _, _, rfl, by simp [Call.isFor]⟩

/-- A request for the status leaves the static variables alone. -/
theorem step_offer_of_isGetStatus {P : Platform W n} {c c' : Config W n}
    {pCommand : FwUpdateOfferCommand} {pResponse : FwUpdateOfferResponse}
    (hget : pCommand.isGetStatus = true)
    (hafter : (step P c (.offer pCommand pResponse)).2 = some c') : c'.engine = c.engine := by
  have hexec := offerExec_step P c pCommand pResponse
  generalize step P c (.offer pCommand pResponse) = result at hexec hafter
  rcases result with ⟨output, after⟩
  have hlist : c.engine.reachesList pCommand = false := by
    rw [EngineState.reachesList, hget]
    simp
  cases hexec with
  | busy => cases hafter; rfl
  | ready => cases hafter; rfl
  | swapPending => cases hafter; rfl
  | endlessWalk => cases hafter
  | notRegistered => cases hafter; rfl
  | declined => cases hafter; rfl
  | accepted hreach =>
      rw [hlist] at hreach
      cases hreach

/-! ## Calls that do not fail -/

/-- The call reports success. -/
def Call.succeeded : Call n → Bool
  | .prepare _ result => result == 0
  | .write _ _ _ _ result => result == 0
  | .getCrcOffset _ result _ => mcuSuccess result
  | .calcCRC _ result _ => result == 0
  | .read _ _ _ result _ => result == 0
  | .authenticateFWImage result => result == 0
  | .notifySuccess _ _ result => mcuSuccess result.status
  | .processOffer .. | .timerCreate _ | .timerRestart _ | .timerStop _ => true

/-- A CRC that is read right after one was calculated agrees with it. -/
def Call.crcAgrees : Call n → Call n → Bool
  | .calcCRC _ _ calculatedCrc, .read _ _ _ _ crc => crc == calculatedCrc
  | _, _ => true

/-- No call fails, and the CRC that is read is the one that was calculated. -/
structure AllSucceed (calls : List (Call n)) : Prop where
  succeeded : ∀ call ∈ calls, call.succeeded = true
  crc : calls.IsChain fun call next => call.crcAgrees next = true

instance (calls : List (Call n)) : Decidable (AllSucceed calls) :=
  decidable_of_iff
    ((∀ call ∈ calls, call.succeeded = true) ∧
      calls.IsChain fun call next => call.crcAgrees next = true)
    ⟨fun h => ⟨h.1, h.2⟩, fun h => ⟨h.succeeded, h.crc⟩⟩

/-- Calls among calls that do not fail do not fail. -/
theorem AllSucceed.of_among {calls calls' : List (Call n)} (h : AllSucceed calls)
    (hamong : calls' <:+: calls) : AllSucceed calls' where
  succeeded call hcall := h.succeeded call (hamong.subset hcall)
  crc := List.IsChain.infix h.crc hamong

/-- An image is not rejected when its component is registered and no call fails. -/
theorem ImageRejected.not_allSucceed {P : Platform W n} {s : EngineState n}
    {componentId status : UInt8} {calls : List (Call n)} {r : Fin n}
    (h : ImageRejected P s componentId calls status)
    (hlookup : s.lookup P componentId = some (some r)) : ¬ AllSucceed calls := by
  intro hall
  cases h with
  | notRegistered hnone =>
      rw [hlookup] at hnone
      cases hnone
  | noCrcOffset _ hstatus =>
      have hsucceeded := hall.succeeded _ List.mem_cons_self
      rw [Call.succeeded, hstatus] at hsucceeded
      cases hsucceeded
  | calcFailed _ _ hresult =>
      have hsucceeded := hall.succeeded _ (List.mem_cons_of_mem _ List.mem_cons_self)
      exact hresult (beq_iff_eq.mp hsucceeded)
  | readFailed _ _ hresult =>
      have hsucceeded := hall.succeeded _
        (List.mem_cons_of_mem _ (List.mem_cons_of_mem _ List.mem_cons_self))
      exact hresult (beq_iff_eq.mp hsucceeded)
  | crcMismatch _ _ hcrc =>
      have hchain := List.isChain_of_isChain_cons hall.crc
      have hagrees := (List.isChain_cons_cons.mp hchain).1
      exact hcrc (beq_iff_eq.mp hagrees)
  | @notAuthentic r' status' offset crc result _ _ hresult =>
      have hsucceeded := hall.succeeded (.authenticateFWImage result) (by simp)
      exact hresult (beq_iff_eq.mp hsucceeded)

/-- Two answers to a command are the same when the calls and the status are. -/
theorem contentOutput_inj {pCommand : FwUpdateContentCommand} {calls calls' : List (Call n)}
    {status status' : UInt8} :
    contentOutput pCommand calls status = contentOutput pCommand calls' status' ↔
      calls = calls' ∧ status = status' := by
  constructor
  · intro h
    simp only [contentOutput, contentResponse, Output.mk.injEq, Except.ok.injEq,
      Response.content.injEq, FwUpdateContentResponse.mk.injEq] at h
    exact ⟨h.1, h.2.2.2.1⟩
  · rintro ⟨rfl, rfl⟩
    rfl

/-- A content command is answered with some status, or never. -/
theorem content_output_cases (P : Platform W n) (c : Config W n)
    (pCommand : FwUpdateContentCommand) :
    (∃ calls status, (step P c (.content pCommand)).1 = contentOutput pCommand calls status) ∨
      ∃ calls reason, (step P c (.content pCommand)).1 = ⟨calls, .error reason⟩ := by
  have hexec := contentExec_step P c pCommand
  generalize (step P c (.content pCommand)).2.map Config.engine = after at hexec
  generalize (step P c (.content pCommand)).1 = output at hexec
  cases hexec with
  | prepareFailed => exact .inl ⟨_, _, rfl⟩
  | firstBlock => exact .inl ⟨_, _, rfl⟩
  | middleBlock => exact .inl ⟨_, _, rfl⟩
  | lastWriteFailed => exact .inl ⟨_, _, rfl⟩
  | endlessWalk => exact .inr ⟨_, _, rfl⟩
  | rejected => exact .inl ⟨_, _, rfl⟩
  | notified => exact .inl ⟨_, _, rfl⟩

/-- When no call fails, a block for a registered component is answered with
success. -/
theorem content_succeeds {P : Platform W n} {c : Config W n} {r : Fin n}
    (hlookup : c.engine.lookup P c.engine.currentOffer.activeComponentId = some (some r))
    (pCommand : FwUpdateContentCommand)
    (hall : AllSucceed (step P c (.content pCommand)).1.calls) :
    ∃ blockCalls, (step P c (.content pCommand)).1 =
      contentOutput pCommand blockCalls firmwareUpdateStatusSuccess := by
  have hexec := contentExec_step P c pCommand
  generalize (step P c (.content pCommand)).2.map Config.engine = after at hexec
  generalize (step P c (.content pCommand)).1 = output at hexec hall
  cases hexec with
  | prepareFailed _ hresult =>
      have hsucceeded := hall.succeeded _ List.mem_cons_self
      exact absurd (beq_iff_eq.mp hsucceeded) hresult
  | firstBlock result =>
      have hsucceeded := hall.succeeded _ (List.mem_cons_of_mem _ List.mem_cons_self)
      refine ⟨_, contentOutput_inj.mpr ⟨rfl, ?_⟩⟩
      rw [writeStatus_eq_success]
      exact beq_iff_eq.mp hsucceeded
  | middleBlock result =>
      have hsucceeded := hall.succeeded _ List.mem_cons_self
      refine ⟨_, contentOutput_inj.mpr ⟨rfl, ?_⟩⟩
      rw [writeStatus_eq_success]
      exact beq_iff_eq.mp hsucceeded
  | lastWriteFailed _ _ hresult =>
      have hsucceeded := hall.succeeded _ List.mem_cons_self
      exact absurd (beq_iff_eq.mp hsucceeded) hresult
  | endlessWalk _ _ hnone =>
      rw [hlookup] at hnone
      cases hnone
  | rejected _ _ hrejected =>
      have hcalls := hall.of_among (List.suffix_cons _ _).isInfix
      exact absurd hcalls (hrejected.not_allSucceed hlookup)
  | @notified r' status offset crc result =>
      have hsucceeded := hall.succeeded
        (.notifySuccess r' c.engine.currentOffer.forceReset result) (by simp [contentOutput])
      refine ⟨_, contentOutput_inj.mpr ⟨rfl, ?_⟩⟩
      rw [notifyStatus_eq_success]
      exact hsucceeded

end Firmware
end CFU
