import CFU.Firmware.ContentSteps
import CFU.Firmware.OfferSteps
import CFU.Library.Runs

/-!
# CFU firmware - runs of the engine

A run calls the entry points of the engine in any order.  Its trace lists the
transitions with the calls that each made, so accepted offers, flash accesses
and notifications are read off the trace.

Main results:

- Theorem {lit}`step_of_acceptance`: what an accepted offer requires and leaves.
- Theorem {lit}`step_currentOffer`: nothing else replaces the current offer.
- Theorem {lit}`bankSwapPending_of_mem_trace`: a pending bank swap stays pending.
- Theorem {lit}`ContentExec.servesCurrentOffer`: every call of a content command
  is for the component of the current offer.
- Theorem {lit}`activeOffer_of_run`: the current offer is the most recently
  accepted one.
-/

namespace CFU
namespace Firmware

open EventRuns

variable {W : Type} {n : ℕ}

/-! ## Traces of the engine -/

/-- One executed event of the engine. -/
abbrev EngineTransition (W : Type) (n : ℕ) :=
  Transition (Config W n) (Event n) (Output n)

/-- The transitions of a run from {lit}`c`. -/
abbrev engineTrace (P : Platform W n) (c : Config W n) (es : List (Event n)) :
    List (EngineTransition W n) :=
  trace (step P) c es

/-- The configuration in which the product starts. -/
def Config.powerOn (pNext : Fin n → Option (Fin n)) (world : W) : Config W n where
  engine := EngineState.powerOn pNext
  world := world

/-! ## Kinds of calls and events -/

/-- The two calls that change the flash of a component. -/
def Call.changesFlash : Call n → Bool
  | .prepare .. | .write .. => true
  | _ => false

def Call.isWrite : Call n → Bool
  | .write .. => true
  | _ => false

def Call.isNotifySuccess : Call n → Bool
  | .notifySuccess .. => true
  | _ => false

def Call.isProcessOffer : Call n → Bool
  | .processOffer .. => true
  | _ => false

def Event.isContent : Event n → Bool
  | .content _ => true
  | _ => false

theorem Event.isContent_iff {e : Event n} :
    e.isContent = true ↔ ∃ pCommand, e = .content pCommand := by
  cases e with
  | content pCommand => exact iff_of_true rfl ⟨pCommand, rfl⟩
  | _ => simp [Event.isContent]

def Event.isOffer : Event n → Bool
  | .offer .. => true
  | _ => false

/-! ## Accepted offers -/

/-- An offer that started an update, the registration whose handler was asked,
and the response that the handler left. -/
structure Acceptance (n : ℕ) where
  pCommand : FwUpdateOfferCommand
  pRegistration : Fin n
  reply : FwUpdateOfferResponse
deriving DecidableEq, Repr

/-- The offer that a transition accepted. -/
def acceptance (t : EngineTransition W n) : Option (Acceptance n) :=
  match t.output.calls with
  | .processOffer pRegistration pCommand reply :: _ =>
      if acceptsReply pCommand reply then some ⟨pCommand, pRegistration, reply⟩ else none
  | _ => none

/-- The offer that was accepted most recently in a list of transitions. -/
def lastAccepted (ts : List (EngineTransition W n)) : Option (Acceptance n) :=
  (ts.filterMap acceptance).getLast?

@[simp]
theorem lastAccepted_nil : lastAccepted ([] : List (EngineTransition W n)) = none :=
  rfl

theorem lastAccepted_append_singleton (ts : List (EngineTransition W n))
    (t : EngineTransition W n) :
    lastAccepted (ts ++ [t]) = (acceptance t).or (lastAccepted ts) := by
  cases h : acceptance t <;> simp [lastAccepted, h]

/-! ## What one step does -/

section Step

variable {P : Platform W n} {c c' : Config W n} {e : Event n}

/-- A content command never accepts an offer. -/
theorem ContentExec.calls_head {s : EngineState n} {pCommand : FwUpdateContentCommand}
    {output : Output n} {after : Option (EngineState n)}
    (h : ContentExec P s pCommand output after) :
    (∃ result calls, output.calls =
        .prepare s.currentOffer.activeComponentId result :: calls) ∨
      ∃ result calls, output.calls = blockWrite s pCommand result :: calls := by
  cases h with
  | prepareFailed => exact .inl ⟨_, _, rfl⟩
  | firstBlock => exact .inl ⟨_, _, rfl⟩
  | middleBlock => exact .inr ⟨_, _, rfl⟩
  | lastWriteFailed => exact .inr ⟨_, _, rfl⟩
  | endlessWalk => exact .inr ⟨_, _, rfl⟩
  | rejected => exact .inr ⟨_, _, rfl⟩
  | notified => exact .inr ⟨_, _, rfl⟩

/-- Every content command prepares or writes the flash. -/
theorem content_changesFlash (P : Platform W n) (c : Config W n)
    (pCommand : FwUpdateContentCommand) :
    ∃ call ∈ (step P c (.content pCommand)).1.calls, call.changesFlash = true := by
  rcases (contentExec_step P c pCommand).calls_head with ⟨result, calls, hcalls⟩ |
    ⟨result, calls, hcalls⟩
  · exact ⟨_, by rw [hcalls]; exact List.mem_cons_self, rfl⟩
  · exact ⟨_, by rw [hcalls]; exact List.mem_cons_self, rfl⟩

@[simp]
theorem acceptance_content (pCommand : FwUpdateContentCommand) :
    acceptance (transition (step P) c (.content pCommand)) = none := by
  rcases (contentExec_step P c pCommand).calls_head with ⟨result, calls, hcalls⟩ |
    ⟨result, calls, hcalls⟩
  · simp [acceptance, hcalls]
  · simp [acceptance, hcalls, blockWrite]

/-- What an accepted offer requires of the engine, and the state that it leaves. -/
theorem step_of_acceptance {a : Acceptance n}
    (h : acceptance (transition (step P) c e) = some a) :
    (∃ pResponse, e = .offer a.pCommand pResponse) ∧
      c.engine.reachesList a.pCommand = true ∧
      c.engine.lookup P a.pCommand.componentInfo.componentId = some (some a.pRegistration) ∧
      acceptsReply a.pCommand a.reply = true ∧
      (step P c e).1.calls =
        [.processOffer a.pRegistration a.pCommand a.reply,
          .timerRestart c.engine.updateTimer] ∧
      (step P c e).2.map Config.engine = some (c.engine.startUpdate a.pCommand) := by
  cases e with
  | content pCommand => simp at h
  | registerComponent => simp [acceptance] at h
  | firmwareUpdateInit => simp [acceptance] at h
  | readComplete => simp [acceptance] at h
  | updateTimer => simp [acceptance] at h
  | offer pCommand pResponse =>
      rw [acceptance, transition_output] at h
      generalize hstep : step P c (.offer pCommand pResponse) = result at h
      have hexec := offerExec_step P c pCommand pResponse
      rw [hstep] at hexec
      rcases result with ⟨output, after⟩
      cases hexec with
      | busy => simp at h
      | ready => simp at h
      | swapPending => simp at h
      | endlessWalk => simp at h
      | notRegistered => simp at h
      | declined _ _ hdeclined => simp [hdeclined] at h
      | accepted hreach hlookup haccepted =>
          simp only [haccepted, if_true, Option.some.injEq] at h
          subst h
          exact ⟨⟨_, rfl⟩, hreach, hlookup, haccepted, rfl, rfl⟩

/-- An offer that no handler accepts leaves the static variables alone. -/
theorem step_offer_of_acceptance_none {pCommand : FwUpdateOfferCommand}
    {pResponse : FwUpdateOfferResponse}
    (hnone : acceptance (transition (step P) c (.offer pCommand pResponse)) = none)
    (hafter : (step P c (.offer pCommand pResponse)).2 = some c') :
    c'.engine = c.engine ∧
      (c.engine.currentOffer.updateInProgress = true →
        (step P c (.offer pCommand pResponse)).1.calls = []) := by
  have hexec := offerExec_step P c pCommand pResponse
  rw [acceptance, transition_output] at hnone
  generalize step P c (.offer pCommand pResponse) = result at hnone hafter hexec
  rcases result with ⟨output, after⟩
  cases hexec with
  | busy => cases hafter; exact ⟨rfl, fun _ => rfl⟩
  | ready hidle => cases hafter; exact ⟨rfl, fun _ => rfl⟩
  | swapPending hidle => cases hafter; exact ⟨rfl, fun _ => rfl⟩
  | endlessWalk => cases hafter
  | notRegistered => cases hafter; exact ⟨rfl, fun _ => rfl⟩
  | declined hreach =>
      cases hafter
      refine ⟨rfl, fun hbusy => ?_⟩
      simp [EngineState.reachesList, hbusy] at hreach
  | accepted _ _ haccepted =>
      simp [haccepted] at hnone

/-- The static variables that a content command can leave. -/
theorem ContentExec.after_cases {s s' : EngineState n} {pCommand : FwUpdateContentCommand}
    {output : Output n} (h : ContentExec P s pCommand output (some s')) :
    s' = s ∨ s' = s.endUpdate ∨ ∃ result, s' = s.afterNotify result := by
  have hstatus : ∀ status, s.afterStatus status = s ∨ s.afterStatus status = s.endUpdate := by
    intro status
    unfold EngineState.afterStatus
    split
    · exact .inl rfl
    · exact .inr rfl
  cases h with
  | prepareFailed => exact .inr (.inl rfl)
  | firstBlock result => exact (hstatus _).imp id .inl
  | middleBlock result => exact (hstatus _).imp id .inl
  | lastWriteFailed => exact .inr (.inl rfl)
  | rejected => exact .inr (.inl rfl)
  | notified result => exact .inr (.inr ⟨result, rfl⟩)

@[simp]
theorem EngineState.endUpdate_currentOffer (s : EngineState n) :
    s.endUpdate.currentOffer = { s.currentOffer with updateInProgress := false } :=
  rfl

@[simp]
theorem EngineState.endUpdate_bankSwapPending (s : EngineState n) :
    s.endUpdate.bankSwapPending = s.bankSwapPending :=
  rfl

@[simp]
theorem EngineState.startUpdate_bankSwapPending (s : EngineState n)
    (pCommand : FwUpdateOfferCommand) :
    (s.startUpdate pCommand).bankSwapPending = s.bankSwapPending :=
  rfl

@[simp]
theorem EngineState.register_currentOffer (s : EngineState n) (pRegistration : Option (Fin n)) :
    (s.register pRegistration).currentOffer = s.currentOffer := by
  cases pRegistration <;> rfl

@[simp]
theorem EngineState.register_bankSwapPending (s : EngineState n)
    (pRegistration : Option (Fin n)) :
    (s.register pRegistration).bankSwapPending = s.bankSwapPending := by
  cases pRegistration <;> rfl

/-- A notification keeps the current offer or ends the update. -/
theorem EngineState.afterNotify_currentOffer (s : EngineState n) (result : NotifyResult) :
    (s.afterNotify result).currentOffer = s.currentOffer ∨
      (s.afterNotify result).currentOffer = s.endUpdate.currentOffer := by
  cases hcompleted : result.readCompleted <;> cases hstatus : mcuSuccess result.status <;>
    simp [EngineState.afterNotify, hcompleted, hstatus]

@[simp]
theorem EngineState.afterNotify_bankSwapPending (s : EngineState n) (result : NotifyResult) :
    (s.afterNotify result).bankSwapPending = (s.bankSwapPending || mcuSuccess result.status) := by
  cases hcompleted : result.readCompleted <;> cases hstatus : mcuSuccess result.status <;>
    simp [EngineState.afterNotify, hcompleted, hstatus]

/-- Without an accepted offer a step keeps the current offer or ends its update. -/
theorem step_currentOffer (hnone : acceptance (transition (step P) c e) = none)
    (hafter : (step P c e).2 = some c') :
    c'.engine.currentOffer = c.engine.currentOffer ∨
      c'.engine.currentOffer = c.engine.endUpdate.currentOffer := by
  cases e with
  | registerComponent pRegistration =>
      rw [step_registerComponent, Option.some.injEq] at hafter
      subst hafter
      exact .inl (EngineState.register_currentOffer _ _)
  | firmwareUpdateInit =>
      rw [step_firmwareUpdateInit, Option.some.injEq] at hafter
      subst hafter
      exact .inl rfl
  | offer pCommand pResponse =>
      exact .inl (congrArg _ (step_offer_of_acceptance_none hnone hafter).1)
  | content pCommand =>
      have hexec := contentExec_step P c pCommand
      rw [hafter, Option.map_some] at hexec
      rcases hexec.after_cases with hsame | hended | ⟨result, hnotified⟩
      · exact .inl (congrArg _ hsame)
      · exact .inr (congrArg _ hended)
      · rw [hnotified]
        exact EngineState.afterNotify_currentOffer _ result
  | readComplete =>
      rw [step_readComplete, Option.some.injEq] at hafter
      subst hafter
      exact .inr rfl
  | updateTimer =>
      rw [step_updateTimer, Option.some.injEq] at hafter
      subst hafter
      exact .inr rfl

/-- No step takes a pending bank swap back. -/
theorem step_bankSwapPending (hpending : c.engine.bankSwapPending = true)
    (hafter : (step P c e).2 = some c') : c'.engine.bankSwapPending = true := by
  cases haccept : acceptance (transition (step P) c e) with
  | some a =>
      obtain ⟨-, -, -, -, -, hengine⟩ := step_of_acceptance haccept
      rw [hafter, Option.map_some, Option.some.injEq] at hengine
      rw [hengine, EngineState.startUpdate_bankSwapPending, hpending]
  | none =>
      cases e with
      | offer pCommand pResponse =>
          rw [(step_offer_of_acceptance_none haccept hafter).1, hpending]
      | content pCommand =>
          have hexec := contentExec_step P c pCommand
          rw [hafter, Option.map_some] at hexec
          rcases hexec.after_cases with hsame | hended | ⟨result, hnotified⟩
          · rw [hsame, hpending]
          · rw [hended, EngineState.endUpdate_bankSwapPending, hpending]
          · rw [hnotified, EngineState.afterNotify_bankSwapPending, hpending, Bool.true_or]
      | registerComponent =>
          rw [step_registerComponent, Option.some.injEq] at hafter
          rw [← hafter, EngineState.register_bankSwapPending, hpending]
      | firmwareUpdateInit => cases hafter; simpa using hpending
      | readComplete => cases hafter; simpa using hpending
      | updateTimer => cases hafter; simpa using hpending

end Step

/-! ## Whom a content command serves -/

/-- A call that is made for the current offer: it names the active component,
or goes to the registration that a search for the active component finds. -/
def Call.ServesCurrentOffer (P : Platform W n) (s : EngineState n) : Call n → Prop
  | .prepare componentId _ => componentId = s.currentOffer.activeComponentId
  | .write _ _ _ componentId _ => componentId = s.currentOffer.activeComponentId
  | .calcCRC componentId _ _ => componentId = s.currentOffer.activeComponentId
  | .read _ _ componentId _ _ => componentId = s.currentOffer.activeComponentId
  | .getCrcOffset r _ _ => s.lookup P s.currentOffer.activeComponentId = some (some r)
  | .notifySuccess r forceReset _ =>
      s.lookup P s.currentOffer.activeComponentId = some (some r) ∧
        forceReset = s.currentOffer.forceReset
  | .authenticateFWImage _ => True
  | .processOffer .. => False
  | .timerCreate _ | .timerRestart _ | .timerStop _ => False

/-- The calls of a rejected validation are made for the current offer. -/
theorem ImageRejected.servesCurrentOffer {P : Platform W n} {s : EngineState n}
    {status : UInt8} {calls : List (Call n)}
    (h : ImageRejected P s s.currentOffer.activeComponentId calls status) :
    ∀ call ∈ calls, call.ServesCurrentOffer P s := by
  cases h with
  | notRegistered => simp
  | noCrcOffset hlookup => simp [Call.ServesCurrentOffer, hlookup]
  | calcFailed hlookup => simp [Call.ServesCurrentOffer, hlookup]
  | readFailed hlookup => simp [Call.ServesCurrentOffer, hlookup]
  | crcMismatch hlookup => simp [Call.ServesCurrentOffer, hlookup]
  | notAuthentic hlookup => simp [Call.ServesCurrentOffer, hlookup]

/-- A validation that was rejected notifies nobody. -/
theorem ImageRejected.isNotifySuccess {P : Platform W n} {s : EngineState n}
    {componentId status : UInt8} {calls : List (Call n)}
    (h : ImageRejected P s componentId calls status) :
    ∀ call ∈ calls, call.isNotifySuccess = false := by
  cases h <;> simp [Call.isNotifySuccess]

/-- Every call of a content command is made for the current offer. -/
theorem ContentExec.servesCurrentOffer {P : Platform W n} {s : EngineState n}
    {pCommand : FwUpdateContentCommand} {output : Output n} {after : Option (EngineState n)}
    (h : ContentExec P s pCommand output after) :
    ∀ call ∈ output.calls, call.ServesCurrentOffer P s := by
  have hwrite : ∀ result, (blockWrite s pCommand result).ServesCurrentOffer P s :=
    fun _ => rfl
  cases h with
  | prepareFailed => simp [contentOutput, Call.ServesCurrentOffer]
  | firstBlock result => simpa [contentOutput, Call.ServesCurrentOffer] using hwrite result
  | middleBlock result => simpa [contentOutput] using hwrite result
  | lastWriteFailed => simpa [contentOutput] using hwrite _
  | endlessWalk => simpa using hwrite 0
  | rejected _ _ hrejected =>
      simpa [contentOutput, hwrite] using hrejected.servesCurrentOffer
  | notified result _ _ hlookup _ =>
      simp [contentOutput, blockWrite, validationCalls, Call.ServesCurrentOffer, hlookup]

/-- Only content commands change the flash or notify a component. -/
theorem step_calls_of_not_content (P : Platform W n) (c : Config W n) {e : Event n}
    (h : e.isContent = false) :
    ∀ call ∈ (step P c e).1.calls,
      call.changesFlash = false ∧ call.isNotifySuccess = false := by
  cases e with
  | content => simp [Event.isContent] at h
  | registerComponent => simp
  | firmwareUpdateInit => simp [Call.changesFlash, Call.isNotifySuccess]
  | readComplete => simp
  | updateTimer => simp [Call.changesFlash, Call.isNotifySuccess]
  | offer pCommand pResponse =>
      have hexec := offerExec_step P c pCommand pResponse
      generalize step P c (.offer pCommand pResponse) = result at hexec
      rcases result with ⟨output, after⟩
      cases hexec <;> simp [Call.changesFlash, Call.isNotifySuccess]

/-! ## What a run does -/

section Run

variable {P : Platform W n} {c c' : Config W n} {es : List (Event n)}

/-- Once a bank swap is pending it stays pending. -/
theorem bankSwapPending_of_mem_trace (hpending : c.engine.bankSwapPending = true)
    {t : EngineTransition W n} (ht : t ∈ engineTrace P c es) :
    t.before.engine.bankSwapPending = true :=
  (forall_trace_of_invariant (fun c => c.engine.bankSwapPending = true) hpending
    (fun _ _ _ _ hpre hstep => step_bankSwapPending hpre hstep) t ht).1

/-- The current offer is the most recently accepted one, also after its update
has ended. -/
theorem activeOffer_of_run (hreach : finalState (step P) c es = some c') {a : Acceptance n}
    (hlast : lastAccepted (engineTrace P c es) = some a) :
    c'.engine.currentOffer.activeComponentId = a.pCommand.componentInfo.componentId ∧
      c'.engine.currentOffer.forceReset = a.pCommand.componentInfo.forceImmediateReset := by
  refine history_of_step
    (fun pre (c : Config W n) => ∀ a, lastAccepted pre = some a →
      c.engine.currentOffer.activeComponentId = a.pCommand.componentInfo.componentId ∧
        c.engine.currentOffer.forceReset = a.pCommand.componentInfo.forceImmediateReset)
    (by simp) ?_ hreach a hlast
  intro pre c₁ e c₂ hpre hstep a ha
  rw [lastAccepted_append_singleton] at ha
  cases haccept : acceptance (transition (step P) c₁ e) with
  | some a' =>
      rw [haccept, Option.some_or, Option.some.injEq] at ha
      subst ha
      obtain ⟨-, -, -, -, -, hengine⟩ := step_of_acceptance haccept
      rw [hstep, Option.map_some, Option.some.injEq] at hengine
      rw [hengine]
      exact ⟨rfl, rfl⟩
  | none =>
      rw [haccept, Option.none_or] at ha
      rcases step_currentOffer haccept hstep with hsame | hended
      · rw [hsame]
        exact hpre a ha
      · rw [hended]
        exact hpre a ha

end Run

/-! ## Runs of a product with one component -/

/-- Register component 1 and have an offer for it accepted. -/
def acceptedOffer : List (Event 1) :=
  [.registerComponent (some onlyComponent), .offer (.plain 1 0) .zero]

/-- The events of an accepted offer and of an image of one last block. -/
def oneBlockUpdate : List (Event 1) :=
  acceptedOffer ++ [.content (.block firmwareUpdateFlagLastBlock 0 [0xAA])]

/-- A run of the product whose only component has id 1 and accepts everything. -/
abbrev sampleTrace (es : List (Event 1)) : List (EngineTransition Unit 1) :=
  engineTrace (acceptingPlatform fun _ => 1) (Config.powerOn (fun _ => none) ()) es

end Firmware
end CFU
