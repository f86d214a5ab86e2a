import CFU.Firmware.SuccessfulCalls

/-!
# CFU firmware - what the answer to an offer depends on

The engine clears the buffer for the response only on the paths on which it answers
the offer itself.  Otherwise the response is what a handler makes of the buffer, and
an offer for a component that nobody registered leaves the buffer as it was.  The
answer to a request for the status does not depend on a pending bank swap, although
the answer to the next offer does.

Main results:

- Theorem {lit}`offer_independent_iff`: when the response to an offer does not depend
  on what the buffer held.
- Theorem {lit}`ready_offer_presented_iff`: when the first offer behind an answer of
  READY is presented to its component.
-/

namespace CFU
namespace Firmware

open EventRuns

variable {W : Type} {n : ℕ}

/-! ## Handlers -/

/-- The handler of {lit}`r` writes the whole response to this offer. -/
def WritesWholeResponse (P : Platform W n) (pCommand : FwUpdateOfferCommand) (world : W)
    (r : Fin n) : Prop :=
  ∃ status reply world', ∀ pResponse,
    (P.registration r).interface.processOffer pCommand pResponse world =
      ((status, reply), world')

/-- The handler of {lit}`r` returns an error and leaves the buffer untouched. -/
def LeavesResponseUntouched (P : Platform W n) (pCommand : FwUpdateOfferCommand) (world : W)
    (r : Fin n) : Prop :=
  ∃ status world', mcuSuccess status = false ∧ ∀ pResponse,
    (P.registration r).interface.processOffer pCommand pResponse world =
      ((status, pResponse), world')

/-- Every handler does the one or the other. -/
def WholeOrUntouched (P : Platform W n) : Prop :=
  ∀ pCommand world r, WritesWholeResponse P pCommand world r ∨
    LeavesResponseUntouched P pCommand world r

/-- The token of a response stays when a rejection is turned around. -/
@[simp]
theorem overrideOldFw_token (pCommand : FwUpdateOfferCommand)
    (pResponse : FwUpdateOfferResponse) :
    (overrideOldFw pCommand pResponse).token = pResponse.token := by
  unfold overrideOldFw
  split <;> rfl

/-! ## The response and the buffer -/

/-- The answer of the engine to an offer that it shows to no component. -/
def engineAnswer (s : EngineState n) (pCommand : FwUpdateOfferCommand) : FwUpdateOfferResponse :=
  if s.currentOffer.updateInProgress then
    offerResponse pCommand firmwareUpdateOfferBusy firmwareUpdateOfferBusy
  else if pCommand.isGetStatus then
    offerResponse pCommand firmwareUpdateOfferCommandReady 0
  else
    offerResponse pCommand firmwareUpdateOfferReject firmwareUpdateOfferSwapPending

section Paths

variable {P : Platform W n} {c : Config W n} {pCommand : FwUpdateOfferCommand}

/-- An offer that is shown to no component is answered the same whatever the buffer
held. -/
theorem step_offer_of_not_reachesList (hreach : c.engine.reachesList pCommand = false)
    (pResponse : FwUpdateOfferResponse) :
    step P c (.offer pCommand pResponse) =
      (offerOutput [] (engineAnswer c.engine pCommand), some c) := by
  have hexec := offerExec_step P c pCommand pResponse
  generalize step P c (.offer pCommand pResponse) = result at hexec ⊢
  rcases result with ⟨output, after⟩
  cases hexec with
  | busy hbusy => simp [engineAnswer, offerOutput, hbusy]
  | ready hidle hget => simp [engineAnswer, offerOutput, hidle, hget]
  | swapPending hidle hordinary =>
      have hget : pCommand.isGetStatus = false := by
        simp [FwUpdateOfferCommand.isGetStatus, hordinary]
      simp [engineAnswer, offerOutput, hidle, hget]
  | endlessWalk hreach' => simp [hreach] at hreach'
  | notRegistered hreach' => simp [hreach] at hreach'
  | declined hreach' => simp [hreach] at hreach'
  | accepted hreach' => simp [hreach] at hreach'

/-- An offer that is shown to the registration list. -/
theorem step_offer_of_reachesList (hreach : c.engine.reachesList pCommand = true)
    (pResponse : FwUpdateOfferResponse) :
    match c.engine.lookup P pCommand.componentInfo.componentId with
    | none => step P c (.offer pCommand pResponse) = (⟨[], .error .endlessWalk⟩, none)
    | some none => step P c (.offer pCommand pResponse) = (offerOutput [] pResponse, some c)
    | some (some r) =>
        ∃ calls, (step P c (.offer pCommand pResponse)).1 =
            offerOutput calls (overrideOldFw pCommand (handleOffer P c pCommand pResponse r).1) ∧
          (step P c (.offer pCommand pResponse)).2.map Config.engine =
            some (if acceptsReply pCommand (handleOffer P c pCommand pResponse r).1 then
              c.engine.startUpdate pCommand else c.engine) := by
  have hexec := offerExec_step P c pCommand pResponse
  generalize step P c (.offer pCommand pResponse) = result at hexec ⊢
  rcases result with ⟨output, after⟩
  cases hexec with
  | busy hbusy => simp [EngineState.reachesList, hbusy] at hreach
  | ready _ hget => simp [EngineState.reachesList, hget] at hreach
  | swapPending _ hordinary hpending =>
      simp [EngineState.reachesList, hordinary, hpending] at hreach
  | endlessWalk _ hlookup => simp [hlookup]
  | notRegistered _ hlookup => simp [hlookup, offerOutput]
  | declined _ hlookup hdeclined =>
      simp only [hlookup, hdeclined]
      exact ⟨_, rfl, rfl⟩
  | accepted _ hlookup haccepted =>
      simp only [hlookup, haccepted]
      exact ⟨_, rfl, rfl⟩

end Paths

/-- The response to the offer, and the static variables behind it, are the same
whatever the buffer for the response held. -/
def BufferIndependent (P : Platform W n) (c : Config W n) (pCommand : FwUpdateOfferCommand) :
    Prop :=
  ∀ pResponse₁ pResponse₂,
    (step P c (.offer pCommand pResponse₁)).1.response =
        (step P c (.offer pCommand pResponse₂)).1.response ∧
      (step P c (.offer pCommand pResponse₁)).2.map Config.engine =
        (step P c (.offer pCommand pResponse₂)).2.map Config.engine

/-- The offer is shown to a component whose handler leaves the buffer untouched, or its
component is looked for in vain. -/
def LeavesBuffer (P : Platform W n) (c : Config W n) (pCommand : FwUpdateOfferCommand) : Prop :=
  c.engine.reachesList pCommand = true ∧
    (c.engine.lookup P pCommand.componentInfo.componentId = some none ∨
      ∃ r, c.engine.lookup P pCommand.componentInfo.componentId = some (some r) ∧
        LeavesResponseUntouched P pCommand c.world r)

section Buffer

variable {P : Platform W n} {c : Config W n} {pCommand : FwUpdateOfferCommand}

/-- The token of such a response is that of the buffer. -/
theorem token_of_leavesBuffer (h : LeavesBuffer P c pCommand)
    (pResponse : FwUpdateOfferResponse) :
    ∃ reply, (step P c (.offer pCommand pResponse)).1.response = .ok (.offer reply) ∧
      reply.token = pResponse.token := by
  obtain ⟨hreach, hnone | ⟨r, hlookup, status, world', -, huntouched⟩⟩ := h
  · have hstep := step_offer_of_reachesList (P := P) hreach pResponse
    rw [hnone] at hstep
    exact ⟨pResponse, congrArg (fun result => result.1.response) hstep, rfl⟩
  · have hstep := step_offer_of_reachesList (P := P) hreach pResponse
    rw [hlookup] at hstep
    obtain ⟨calls, houtput, -⟩ := hstep
    have hreply : (handleOffer P c pCommand pResponse r).1 = pResponse := by
      rw [handleOffer, huntouched]
    rw [hreply] at houtput
    exact ⟨overrideOldFw pCommand pResponse, congrArg Output.response houtput,
      overrideOldFw_token pCommand pResponse⟩

/-- An offer whose response is written by the engine or by a handler. -/
theorem bufferIndependent_of_writes
    (h : c.engine.reachesList pCommand = false ∨
      c.engine.lookup P pCommand.componentInfo.componentId = none ∨
      ∃ r, c.engine.lookup P pCommand.componentInfo.componentId = some (some r) ∧
        WritesWholeResponse P pCommand c.world r) :
    BufferIndependent P c pCommand := by
  intro pResponse₁ pResponse₂
  cases hreach : c.engine.reachesList pCommand with
  | false =>
      rw [step_offer_of_not_reachesList hreach, step_offer_of_not_reachesList hreach]
      exact ⟨rfl, rfl⟩
  | true =>
      have hstep₁ := step_offer_of_reachesList (P := P) hreach pResponse₁
      have hstep₂ := step_offer_of_reachesList (P := P) hreach pResponse₂
      rcases h with hnot | hnone | ⟨r, hlookup, status, reply, world', hwhole⟩
      · rw [hreach] at hnot
        cases hnot
      · rw [hnone] at hstep₁ hstep₂
        rw [hstep₁, hstep₂]
        exact ⟨rfl, rfl⟩
      · have hreply : ∀ pResponse, (handleOffer P c pCommand pResponse r).1 = reply := by
          intro pResponse
          rw [handleOffer, hwhole]
        rw [hlookup] at hstep₁ hstep₂
        obtain ⟨calls₁, houtput₁, hengine₁⟩ := hstep₁
        obtain ⟨calls₂, houtput₂, hengine₂⟩ := hstep₂
        rw [houtput₁, houtput₂, hengine₁, hengine₂, hreply, hreply]
        exact ⟨rfl, rfl⟩

end Buffer

/-- Where every handler writes a whole response or leaves the buffer untouched, the
response and the start of an update do not depend on the buffer exactly when the engine
answers the offer itself or the handler of its component writes a response. -/
theorem offer_independent_iff (P : Platform W n) (hhandlers : WholeOrUntouched P)
    (c : Config W n) (pCommand : FwUpdateOfferCommand) :
    BufferIndependent P c pCommand ↔
      c.engine.reachesList pCommand = false ∨
        c.engine.lookup P pCommand.componentInfo.componentId = none ∨
        ∃ r, c.engine.lookup P pCommand.componentInfo.componentId = some (some r) ∧
          WritesWholeResponse P pCommand c.world r := by
  constructor
  · intro hindependent
    by_contra hcontra
    rw [not_or, not_or, Bool.not_eq_false] at hcontra
    obtain ⟨hreach, hends, hunwritten⟩ := hcontra
    have hleaves : LeavesBuffer P c pCommand := by
      refine ⟨hreach, ?_⟩
      cases hlookup : c.engine.lookup P pCommand.componentInfo.componentId with
      | none => exact absurd hlookup hends
      | some found =>
          cases found with
          | none => exact .inl rfl
          | some r =>
              rcases hhandlers pCommand c.world r with hwhole | huntouched
              · exact absurd ⟨r, hlookup, hwhole⟩ hunwritten
              · exact .inr ⟨r, rfl, huntouched⟩
    obtain ⟨reply₁, hanswer₁, htoken₁⟩ := token_of_leavesBuffer hleaves .zero
    obtain ⟨reply₂, hanswer₂, htoken₂⟩ :=
      token_of_leavesBuffer hleaves { FwUpdateOfferResponse.zero with token := 1 }
    have hsame := (hindependent .zero { FwUpdateOfferResponse.zero with token := 1 }).1
    rw [hanswer₁, hanswer₂] at hsame
    cases hsame
    rw [htoken₁] at htoken₂
    cases htoken₂
  · exact bufferIndependent_of_writes

/-- A product whose handlers all write a whole response. -/
theorem wholeOrUntouched_acceptingPlatform (componentId : Fin n → UInt8) :
    WholeOrUntouched (acceptingPlatform componentId) :=
  fun _ _ _ => .inl ⟨_, _, _, fun _ => rfl⟩

theorem offer_independent_iff_registered :
    ∃ c, finalState (step (acceptingPlatform fun _ => 1)) (Config.powerOn (fun _ => none) ())
        [.registerComponent (some onlyComponent)] = some c ∧
      BufferIndependent (acceptingPlatform fun _ => 1) c (.plain 1 0) :=
  ⟨_, rfl, (offer_independent_iff (acceptingPlatform fun _ => 1)
    (wholeOrUntouched_acceptingPlatform _) _ (.plain 1 0)).mpr
      (.inr (.inr ⟨onlyComponent, rfl, _, _, _, fun _ => rfl⟩))⟩

/-- A response of acceptance that an earlier command left in the buffer. -/
def staleAccept : FwUpdateOfferResponse :=
  { FwUpdateOfferResponse.zero with status := firmwareUpdateOfferAccept }

/-- A product whose only component fails every offer and leaves the buffer untouched. -/
def failingPlatform : Platform Unit 1 where
  bsp := (acceptingPlatform fun _ : Fin 1 => 1).bsp
  registration _ :=
    { interface :=
        { acceptingInterface with
          processOffer := fun _ pResponse world => ((mcuStatusDefaultError, pResponse), world) }
      componentId := 1 }

/-- An information offer is answered with what the buffer held, and an offer that the
handler fails starts an update when the buffer held an acceptance. -/
theorem stale_accept_answered :
    ∃ c, finalState (step failingPlatform) (Config.powerOn (fun _ => none) ())
        [.registerComponent (some onlyComponent)] = some c ∧
      WholeOrUntouched failingPlatform ∧
      (step failingPlatform c (.offer (.plain cfuOfferMetadataInfoCmd 0) staleAccept)).1.response =
        .ok (.offer staleAccept) ∧
      (step failingPlatform c (.offer (.plain 1 0) staleAccept)).2.map Config.engine =
        some (c.engine.startUpdate (.plain 1 0)) ∧
      ¬ BufferIndependent failingPlatform c (.plain cfuOfferMetadataInfoCmd 0) ∧
      ¬ BufferIndependent failingPlatform c (.plain 1 0) := by
  refine ⟨_, rfl, ?_, rfl, rfl, ?_, ?_⟩
  · exact fun _ _ _ => .inr ⟨_, _, by decide, fun _ => rfl⟩
  · intro hindependent
    have hsame := (hindependent staleAccept .zero).1
    injection hsame with hoffer
    injection hoffer with hresponse
    have hstatus := congrArg FwUpdateOfferResponse.status hresponse
    revert hstatus
    decide
  · intro hindependent
    have hsame := (hindependent staleAccept .zero).2
    have hbusy := congrArg (Option.map fun s => s.currentOffer.updateInProgress) hsame
    revert hbusy
    decide

/-! ## Answers of READY -/

/-- A request for the status was answered with READY. -/
def AnsweredReady (t : EngineTransition W n) : Prop :=
  ∃ pCommand pResponse reply, t.event = .offer pCommand pResponse ∧
    pCommand.isGetStatus = true ∧ t.output.response = .ok (.offer reply) ∧
    reply.status = firmwareUpdateOfferCommandReady

/-- An ordinary offer for a component on the registration list. -/
def OffersComponent (P : Platform W n) (t : EngineTransition W n)
    (pCommand : FwUpdateOfferCommand) : Prop :=
  (∃ pResponse, t.event = .offer pCommand pResponse) ∧
    pCommand.componentInfo.componentId ≠ cfuSpecialOfferCmd ∧
    ∃ r, t.before.engine.OnList r ∧
      (P.registration r).componentId = pCommand.componentInfo.componentId

/-- The offer was presented to the handler of its component, whose reply is the
response. -/
def PresentedToComponent (P : Platform W n) (t : EngineTransition W n)
    (pCommand : FwUpdateOfferCommand) : Prop :=
  ∃ r reply rest, (P.registration r).componentId = pCommand.componentInfo.componentId ∧
    t.output.calls = .processOffer r pCommand reply :: rest ∧
    t.output.response = .ok (.offer (overrideOldFw pCommand reply))

/-- An engine that looks for the component of an ordinary offer is idle, and no bank swap
is pending. -/
theorem EngineState.idle_of_reachesList {s : EngineState n} {pCommand : FwUpdateOfferCommand}
    (hordinary : pCommand.componentInfo.componentId ≠ cfuSpecialOfferCmd)
    (hreach : s.reachesList pCommand = true) :
    s.currentOffer.updateInProgress = false ∧ s.bankSwapPending = false := by
  simp only [EngineState.reachesList, Bool.and_eq_true, Bool.not_eq_true', Bool.or_eq_true,
    beq_iff_eq, hordinary, false_or] at hreach
  exact ⟨hreach.1.1, hreach.2⟩

/-- An ordinary offer for a component on the list is presented to it exactly when the
engine is idle and no bank swap is pending. -/
theorem step_presentedToComponent_iff {P : Platform W n} {c : Config W n}
    {pCommand : FwUpdateOfferCommand} (pResponse : FwUpdateOfferResponse)
    (hordinary : pCommand.componentInfo.componentId ≠ cfuSpecialOfferCmd)
    (hlisted : ∃ r, c.engine.OnList r ∧
      (P.registration r).componentId = pCommand.componentInfo.componentId) :
    PresentedToComponent P (transition (step P) c (.offer pCommand pResponse)) pCommand ↔
      c.engine.currentOffer.updateInProgress = false ∧ c.engine.bankSwapPending = false := by
  obtain ⟨r, hlookup⟩ := (EngineState.exists_lookup_iff P).mpr hlisted
  have hexec := offerExec_step P c pCommand pResponse
  rw [PresentedToComponent, transition_output]
  generalize step P c (.offer pCommand pResponse) = result at hexec ⊢
  rcases result with ⟨output, after⟩
  cases hexec with
  | busy hbusy => simp [hbusy]
  | ready _ hget => simp [FwUpdateOfferCommand.isGetStatus, hordinary] at hget
  | swapPending _ _ hpending => simp [hpending]
  | endlessWalk _ hends =>
      rw [hlookup] at hends
      cases hends
  | notRegistered _ hnone =>
      rw [hlookup] at hnone
      cases hnone
  | @declined r' hreach hlookup' =>
      refine iff_of_true ?_ (EngineState.idle_of_reachesList hordinary hreach)
      exact ⟨r', _, _, EngineState.lookup_componentId P hlookup', rfl, rfl⟩
  | @accepted r' hreach hlookup' =>
      refine iff_of_true ?_ (EngineState.idle_of_reachesList hordinary hreach)
      exact ⟨r', _, _, EngineState.lookup_componentId P hlookup', rfl, rfl⟩

/-- An engine that answers READY is idle. -/
theorem idle_of_answeredReady {P : Platform W n} {c : Config W n} {e : Event n}
    (h : AnsweredReady (transition (step P) c e)) :
    c.engine.currentOffer.updateInProgress = false := by
  obtain ⟨pCommand, pResponse, reply, rfl, -, hanswer, hstatus⟩ := h
  by_contra hbusy
  rw [Bool.not_eq_false] at hbusy
  have hreach : c.engine.reachesList pCommand = false := by
    simp [EngineState.reachesList, hbusy]
  rw [transition_output, step_offer_of_not_reachesList hreach, engineAnswer, if_pos hbusy]
    at hanswer
  cases hanswer
  cases hstatus

/-- In every run, an ordinary offer for a registered component that comes right behind
an answer of READY is presented to the component exactly when no bank swap is pending. -/
theorem ready_offer_presented_iff (P : Platform W n) (c : Config W n) (es : List (Event n))
    {pre post : List (EngineTransition W n)} {t u : EngineTransition W n}
    (hsplit : engineTrace P c es = pre ++ t :: u :: post) (hready : AnsweredReady t)
    {pCommand : FwUpdateOfferCommand} (hoffer : OffersComponent P u pCommand) :
    PresentedToComponent P u pCommand ↔ t.before.engine.bankSwapPending = false := by
  have ht := eq_transition_of_mem_trace (hsplit ▸ List.mem_append_right pre List.mem_cons_self)
  have hu := eq_transition_of_mem_post hsplit u List.mem_cons_self
  have hafter := after_eq_of_trace hsplit
  obtain ⟨⟨pResponse, hevent⟩, hordinary, hlisted⟩ := hoffer
  rw [ht] at hready hafter
  have hidle := idle_of_answeredReady hready
  obtain ⟨pStatus, pBuffer, -, hget, hstatus, -⟩ := hready
  rw [transition_event] at hget
  rw [transition_after, hget] at hafter
  have hsame := step_offer_of_isGetStatus hstatus hafter
  rw [hu, hevent, step_presentedToComponent_iff pResponse hordinary hlisted, hsame]
  exact and_iff_right hidle

/-- A request for the status, and an ordinary offer right behind it. -/
def statusThenOffer : List (Event 1) :=
  [.offer { FwUpdateOfferCommand.plain cfuSpecialOfferCmd 0 with
      componentInfo := ⟨cfuSpecialOfferGetStatus, 0, false, false, cfuSpecialOfferCmd, 0⟩ } .zero,
    .offer (.plain 1 0) .zero]

theorem ready_offer_presented_iff_registered :
    ∃ pre t u post, sampleTrace (.registerComponent (some onlyComponent) :: statusThenOffer) =
        pre ++ t :: u :: post ∧
      PresentedToComponent (acceptingPlatform fun _ => 1) u (.plain 1 0) := by
  refine ⟨[_], _, _, [], rfl, ?_⟩
  refine (ready_offer_presented_iff (acceptingPlatform fun _ => 1)
    (Config.powerOn (fun _ => none) ())
    (.registerComponent (some onlyComponent) :: statusThenOffer)
    (show sampleTrace (.registerComponent (some onlyComponent) :: statusThenOffer) =
      [_] ++ _ :: _ :: [] from rfl) ?_ ?_).mpr rfl
  · exact ⟨_, _, _, rfl, by decide, rfl, by decide⟩
  · exact ⟨⟨_, rfl⟩, by decide, onlyComponent, ⟨0, rfl⟩, rfl⟩

/-- Behind a finished image the engine answers READY and turns the next offer away. -/
theorem ready_behind_pending_swap :
    ∃ pre t u post, sampleTrace (oneBlockUpdate ++ .readComplete :: statusThenOffer) =
        pre ++ t :: u :: post ∧
      AnsweredReady t ∧ OffersComponent (acceptingPlatform fun _ => 1) u (.plain 1 0) ∧
      u.output.response = .ok (.offer (offerResponse (.plain 1 0) firmwareUpdateOfferReject
        firmwareUpdateOfferSwapPending)) ∧
      ¬ PresentedToComponent (acceptingPlatform fun _ => 1) u (.plain 1 0) := by
  refine ⟨[_, _, _, _], _, _, [], rfl, ?_, ?_, rfl, ?_⟩
  · exact ⟨_, _, _, rfl, by decide, rfl, by decide⟩
  · exact ⟨⟨_, rfl⟩, by decide, onlyComponent, ⟨0, rfl⟩, rfl⟩
  · rintro ⟨r, reply, rest, -, hcalls, -⟩
    cases hcalls

end Firmware
end CFU
