import CFU.Firmware.ImageGate
import CFU.Firmware.CurrentOffer

/-!
# CFU firmware - offers while a bank swap is pending

Once an image is pending, offers are to be turned away.  The test for a pending
swap is one arm of a chain whose earlier arm lets most special commands through
to the registration list.  This file shows that this is the only way around the
test, and that without a component under the reserved id the test also keeps
late completion callbacks away from later updates.

Main results:

- Theorem {lit}`offers_turnedAway_iff`: behind a pending image all offers are
  turned away exactly when no special command reaches a component.
- Theorem {lit}`acceptance_eq_none_of_swapPending`: without a component under the
  reserved id no offer is accepted once an image is pending.
- Theorem {lit}`no_stale_completion`: a completion callback never ends an update
  that was accepted after the notification it belongs to.
-/

namespace CFU
namespace Firmware

open EventRuns

variable {W : Type} {n : ℕ}

/-! ## Which offers reach a handler -/

/-- An offer that was turned away: no handler was asked and no update started. -/
def OfferTurnedAway (t : EngineTransition W n) : Prop :=
  (∀ call ∈ t.output.calls, call.isProcessOffer = false) ∧
    ¬ (t.before.engine.currentOffer.updateInProgress = false ∧
      ∃ c', t.after = some c' ∧ c'.engine.currentOffer.updateInProgress = true)

/-- A special command other than GET_STATUS that arrives while no update is in
progress, and for whose reserved id a component is registered. -/
def SpecialReachesComponent (P : Platform W n) (s : EngineState n)
    (pCommand : FwUpdateOfferCommand) : Prop :=
  s.currentOffer.updateInProgress = false ∧
    pCommand.componentInfo.componentId = cfuSpecialOfferCmd ∧
    pCommand.asSpecialOffer.commandCode ≠ cfuSpecialOfferGetStatus ∧
    ∃ r, s.OnList r ∧ (P.registration r).componentId = cfuSpecialOfferCmd

section Step

variable {P : Platform W n} {c c' : Config W n} {pCommand : FwUpdateOfferCommand}
  {pResponse : FwUpdateOfferResponse}

/-- A handler is asked exactly when the offer reaches the list and its component
is on it. -/
theorem step_asksHandler_iff (P : Platform W n) (c : Config W n)
    (pCommand : FwUpdateOfferCommand) (pResponse : FwUpdateOfferResponse) :
    (∃ call ∈ (step P c (.offer pCommand pResponse)).1.calls, call.isProcessOffer = true) ↔
      c.engine.reachesList pCommand = true ∧
        ∃ r, c.engine.lookup P pCommand.componentInfo.componentId = some (some r) := by
  have hexec := offerExec_step P c pCommand pResponse
  generalize step P c (.offer pCommand pResponse) = result at hexec
  rcases result with ⟨output, after⟩
  cases hexec with
  | busy hbusy => simp [EngineState.reachesList, hbusy]
  | ready hidle hget => simp [EngineState.reachesList, hidle, hget]
  | swapPending hidle hordinary hpending =>
      simp [EngineState.reachesList, hordinary, hpending]
  | endlessWalk hreach hlookup => simp [hlookup]
  | notRegistered hreach hlookup => simp [hlookup]
  | declined hreach hlookup => simp [Call.isProcessOffer, hreach, hlookup]
  | accepted hreach hlookup => simp [Call.isProcessOffer, hreach, hlookup]

/-- Behind a pending image only special commands reach the list. -/
theorem reachesList_iff_of_swapPending {s : EngineState n} (hpending : s.bankSwapPending = true) :
    s.reachesList pCommand = true ↔
      s.currentOffer.updateInProgress = false ∧
        pCommand.componentInfo.componentId = cfuSpecialOfferCmd ∧
        pCommand.asSpecialOffer.commandCode ≠ cfuSpecialOfferGetStatus := by
  unfold EngineState.reachesList FwUpdateOfferCommand.isGetStatus
  by_cases hspecial : pCommand.componentInfo.componentId = cfuSpecialOfferCmd
  · simp [hspecial]
  · simp [hspecial, hpending]

/-- Behind a pending image an offer is turned away unless it is a special
command that reaches a component. -/
theorem offerTurnedAway_iff (hpending : c.engine.bankSwapPending = true) :
    OfferTurnedAway (transition (step P) c (.offer pCommand pResponse)) ↔
      ¬ SpecialReachesComponent P c.engine pCommand := by
  have hasks := step_asksHandler_iff P c pCommand pResponse
  rw [reachesList_iff_of_swapPending hpending, EngineState.exists_lookup_iff] at hasks
  constructor
  · rintro ⟨hquiet, -⟩ ⟨hidle, hspecial, hcode, r, hlisted, hr⟩
    obtain ⟨call, hcall, hhandler⟩ :=
      hasks.mpr ⟨⟨hidle, hspecial, hcode⟩, r, hlisted, hr.trans hspecial.symm⟩
    have hnot := hquiet call hcall
    rw [hhandler] at hnot
    contradiction
  · intro hnot
    have hquiet : ∀ call ∈ (step P c (.offer pCommand pResponse)).1.calls,
        call.isProcessOffer = false := by
      intro call hcall
      by_contra hhandler
      obtain ⟨⟨hidle, hspecial, hcode⟩, r, hlisted, hr⟩ :=
        hasks.mp ⟨call, hcall, by simpa using hhandler⟩
      exact hnot ⟨hidle, hspecial, hcode, r, hlisted, hr.trans hspecial⟩
    refine ⟨hquiet, ?_⟩
    rintro ⟨hidle, c', hafter, hstarted⟩
    have hnone : acceptance (transition (step P) c (.offer pCommand pResponse)) = none :=
      acceptance_eq_none_of_calls hquiet
    have hsame := (step_offer_of_acceptance_none hnone hafter).1
    rw [hsame] at hstarted
    exact Bool.false_ne_true (hidle.symm.trans hstarted)

end Step

/-! ## Offers behind a pending image -/

section Run

variable {P : Platform W n} {c : Config W n} {es : List (Event n)}
  {pre post : List (EngineTransition W n)} {t : EngineTransition W n}

/-- Everything after the moment an image became pending finds it pending. -/
theorem swapPending_after (hsplit : engineTrace P c es = pre ++ t :: post)
    (hset : ∃ c', t.after = some c' ∧ c'.engine.bankSwapPending = true) :
    ∀ u ∈ post, u.before.engine.bankSwapPending = true := by
  obtain ⟨-, es₂, -, -, -, hpost⟩ := trace_split hsplit
  obtain ⟨c', hafter, hpending⟩ := hset
  rw [hafter] at hpost
  intro u hu
  rw [hpost] at hu
  exact bankSwapPending_of_mem_trace hpending hu

/-- From the moment an image is pending, all offers are turned away exactly when
no special command other than GET_STATUS arrives while no update is in progress
and a component is registered under the reserved id. -/
theorem offers_turnedAway_iff (P : Platform W n) (c : Config W n) (es : List (Event n))
    (hsplit : engineTrace P c es = pre ++ t :: post) (hset : SetsSwapPending t) :
    (∀ u ∈ post, u.event.isOffer = true → OfferTurnedAway u) ↔
      ∀ u ∈ post, ∀ pCommand pResponse, u.event = .offer pCommand pResponse →
        ¬ SpecialReachesComponent P u.before.engine pCommand := by
  have hpending := swapPending_after hsplit hset.2
  have hstep := eq_transition_of_mem_post hsplit
  constructor
  · intro haway u hu pCommand pResponse hevent
    have hturned := haway u hu (by rw [hevent]; rfl)
    rw [hstep u hu, hevent] at hturned
    exact (offerTurnedAway_iff (hpending u hu)).mp hturned
  · intro hnone u hu hoffer
    cases hevent : u.event with
    | offer pCommand pResponse =>
        rw [hstep u hu, hevent]
        exact (offerTurnedAway_iff (hpending u hu)).mpr (hnone u hu pCommand pResponse hevent)
    | registerComponent => simp [hevent, Event.isOffer] at hoffer
    | firmwareUpdateInit => simp [hevent, Event.isOffer] at hoffer
    | content => simp [hevent, Event.isOffer] at hoffer
    | readComplete => simp [hevent, Event.isOffer] at hoffer
    | updateTimer => simp [hevent, Event.isOffer] at hoffer

end Run

/-- The product whose only component is registered under the reserved id. -/
abbrev reservedIdPlatform : Platform Unit 1 :=
  acceptingPlatform fun _ => cfuSpecialOfferCmd

/-- An accepted image of one block for the component under the reserved id. -/
def reservedIdUpdate : List (Event 1) :=
  [.registerComponent (some onlyComponent), .offer (.plain cfuSpecialOfferCmd 0) .zero,
    .content (.block firmwareUpdateFlagLastBlock 0 [0xAA])]

/-- A completion callback and an ordinary offer behind the pending image. -/
def offersTurnedAway : List (Event 1) :=
  oneBlockUpdate ++ [.readComplete, .offer (.plain 1 0) .zero]

theorem offers_turnedAway_iff_ordinary :
    ∃ pre t post, sampleTrace offersTurnedAway = pre ++ t :: post ∧ SetsSwapPending t ∧
      ∀ u ∈ post, u.event.isOffer = true → OfferTurnedAway u := by
  refine ⟨[_, _], _, [_, _], rfl, ⟨rfl, _, rfl, rfl⟩, ?_⟩
  refine (offers_turnedAway_iff (acceptingPlatform fun _ => 1)
    (Config.powerOn (fun _ => none) ()) offersTurnedAway
    (show sampleTrace offersTurnedAway = [_, _] ++ _ :: [_, _] from rfl)
    ⟨rfl, _, rfl, rfl⟩).mpr ?_
  rintro u - pCommand pResponse - ⟨-, -, -, r, -, hr⟩
  have hone : (1 : UInt8) = cfuSpecialOfferCmd := hr
  contradiction

/-- A special command for the reserved id is shown to its component behind the
pending image, and starts an update. -/
theorem special_offer_accepted_while_pending :
    ∃ pre t post, engineTrace reservedIdPlatform (Config.powerOn (fun _ => none) ())
        (reservedIdUpdate ++ [.readComplete, .offer (.plain cfuSpecialOfferCmd 0) .zero]) =
          pre ++ t :: post ∧ SetsSwapPending t ∧
      ¬ ∀ u ∈ post, u.event.isOffer = true → OfferTurnedAway u := by
  refine ⟨[_, _], _, [_, _], rfl, ⟨rfl, _, rfl, rfl⟩, ?_⟩
  intro h
  have haway := h _ (List.mem_cons_of_mem _ List.mem_cons_self) rfl
  exact haway.2 ⟨rfl, _, rfl, rfl⟩

/-! ## Completion callbacks -/

/-- A component was notified and reported success. -/
def NotifiedWithSuccess (t : EngineTransition W n) : Prop :=
  ∃ r forceReset result, .notifySuccess r forceReset result ∈ t.output.calls ∧
    mcuSuccess result.status = true

/-- The completion handler was called, either by itself or from within a
notification. -/
def CompletionCallback (t : EngineTransition W n) : Prop :=
  t.event = .readComplete ∨
    ∃ r forceReset result, .notifySuccess r forceReset result ∈ t.output.calls ∧
      result.readCompleted = true

section Callback

variable {P : Platform W n} {c : Config W n} {es : List (Event n)}
  {pNext : Fin n → Option (Fin n)} {world : W}

/-- A successful notification leaves the image pending. -/
theorem step_notifiedWithSuccess {e : Event n}
    (h : NotifiedWithSuccess (transition (step P) c e)) :
    e.isContent = true ∧
      ∃ c', (step P c e).2 = some c' ∧ c'.engine.bankSwapPending = true := by
  obtain ⟨r, forceReset, result, hcall, hstatus⟩ := h
  rw [transition_output] at hcall
  cases hkind : e.isContent with
  | false =>
      have hnot := (step_calls_of_not_content P c hkind _ hcall).2
      simp [Call.isNotifySuccess] at hnot
  | true =>
      obtain ⟨pCommand, rfl⟩ := Event.isContent_iff.mp hkind
      have hexec := contentExec_step P c pCommand
      rcases hafter : (step P c (.content pCommand)).2 with _ | c'
      all_goals
        rw [hafter] at hexec
        generalize (step P c (.content pCommand)).1 = output at hexec hcall
      · rw [Option.map_none] at hexec
        cases hexec with
        | endlessWalk => simp [blockWrite] at hcall
      · rw [Option.map_some] at hexec
        generalize hengine : c'.engine = s' at hexec
        refine ⟨rfl, c', rfl, ?_⟩
        rw [hengine]
        cases hexec with
        | prepareFailed => simp [contentOutput] at hcall
        | firstBlock => simp [contentOutput, blockWrite] at hcall
        | middleBlock => simp [contentOutput, blockWrite] at hcall
        | lastWriteFailed => simp [contentOutput, blockWrite] at hcall
        | @rejected calls status _ _ hrejected =>
            have hmem : Call.notifySuccess r forceReset result ∈ calls := by
              simpa [contentOutput, blockWrite] using hcall
            have hnot := hrejected.isNotifySuccess _ hmem
            simp [Call.isNotifySuccess] at hnot
        | notified result' =>
            have hresult : result = result' := by
              have hmem := hcall
              simp [contentOutput, blockWrite, validationCalls] at hmem
              exact hmem.2.2
            rw [EngineState.afterNotify_bankSwapPending, ← hresult, hstatus, Bool.or_true]

/-- If nothing is registered under the reserved id, no offer is accepted once an
image is pending. -/
theorem acceptance_eq_none_of_swapPending
    (hreserved : ∀ r ∈ registered es, (P.registration r).componentId ≠ cfuSpecialOfferCmd)
    {t : EngineTransition W n} (ht : t ∈ engineTrace P (Config.powerOn pNext world) es)
    (hpending : t.before.engine.bankSwapPending = true) : acceptance t = none := by
  obtain ⟨pre, post, hsplit⟩ := List.append_of_mem ht
  obtain ⟨es₁, es₂, hes, -, hreach, -⟩ := trace_split hsplit
  by_contra hsome
  obtain ⟨a, haccept⟩ := Option.ne_none_iff_exists'.mp hsome
  rw [eq_transition_of_mem_trace ht] at haccept
  obtain ⟨-, hlist, hlookup, -⟩ := step_of_acceptance haccept
  obtain ⟨-, hspecial, -⟩ := (reachesList_iff_of_swapPending hpending).mp hlist
  have hmem : a.pRegistration ∈ registered es := by
    have hbefore : a.pRegistration ∈ registered es₁ := registered_of_lookup hreach hlookup
    rw [hes]
    exact List.mem_append_left _ hbefore
  exact hreserved _ hmem ((EngineState.lookup_componentId P hlookup).trans hspecial)

/-- When no component has the reserved id, every acceptance comes before every
successful notification: behind it the offers find the image pending. -/
theorem acceptance_before_notification {i k : ℕ} {u v : EngineTransition W n}
    (hreserved : ∀ r ∈ registered es, (P.registration r).componentId ≠ cfuSpecialOfferCmd)
    (hu : (engineTrace P (Config.powerOn pNext world) es)[i]? = some u)
    (hv : (engineTrace P (Config.powerOn pNext world) es)[k]? = some v)
    (hnotified : NotifiedWithSuccess u) {a : Acceptance n} (haccept : acceptance v = some a) :
    k < i := by
  by_contra hge
  have huEq := eq_transition_of_mem_trace (List.mem_of_getElem? hu)
  rw [huEq] at hnotified
  obtain ⟨hcontent, hset⟩ := step_notifiedWithSuccess hnotified
  rcases Nat.lt_or_ge i k with hlt | hle
  · have hvPost : v ∈ (engineTrace P (Config.powerOn pNext world) es).drop (i + 1) := by
      refine List.mem_of_getElem? (i := k - (i + 1)) ?_
      rw [List.getElem?_drop, Nat.add_sub_cancel' hlt, hv]
    have hset' : ∃ c', u.after = some c' ∧ c'.engine.bankSwapPending = true := by
      rw [huEq]
      exact hset
    have hpending := swapPending_after (trace_split_getElem? hu) hset' v hvPost
    have hnone := acceptance_eq_none_of_swapPending hreserved (List.mem_of_getElem? hv) hpending
    rw [hnone] at haccept
    contradiction
  · have hsame : v = u := by
      have hi : i = k := by omega
      rw [← hi, hu, Option.some.injEq] at hv
      exact hv.symm
    rw [hsame, huEq] at haccept
    obtain ⟨⟨pResponse, hevent⟩, -⟩ := step_of_acceptance haccept
    rw [hevent] at hcontent
    contradiction

/-- With no component under the reserved id, a completion callback that belongs
to a successful notification at position {lit}`i` finds either no update in
progress or one whose offer was accepted before position {lit}`i`. -/
theorem no_stale_completion (P : Platform W n) (pNext : Fin n → Option (Fin n)) (world : W)
    (es : List (Event n))
    (hreserved : ∀ r ∈ registered es, (P.registration r).componentId ≠ cfuSpecialOfferCmd)
    {i j : ℕ} {u t : EngineTransition W n}
    (hu : (engineTrace P (Config.powerOn pNext world) es)[i]? = some u)
    (ht : (engineTrace P (Config.powerOn pNext world) es)[j]? = some t)
    (hnotified : NotifiedWithSuccess u) (_hcallback : CompletionCallback t)
    (hactive : t.before.engine.currentOffer.updateInProgress = true) :
    ∃ k v a, k < i ∧ (engineTrace P (Config.powerOn pNext world) es)[k]? = some v ∧
      acceptance v = some a ∧
      ∀ m w, k < m → m < j →
        (engineTrace P (Config.powerOn pNext world) es)[m]? = some w →
        acceptance w = none := by
  obtain ⟨es₁, -, -, hpre, hreach, -⟩ := trace_split (trace_split_getElem? ht)
  obtain ⟨a, hlatest⟩ := updateInProgress_is_latest_acceptance hreach hactive
  rw [engineTrace, ← hpre] at hlatest
  obtain ⟨k, v, hv, haccept, hbetween⟩ := hlatest.position
  exact ⟨k, v, a, acceptance_before_notification hreserved hu hv hnotified haccept, hv, haccept,
    hbetween⟩

end Callback

/-- A late callback finds the update that its component was notified of. -/
theorem no_stale_completion_late :
    ∃ k v a, k < 2 ∧ (sampleTrace (oneBlockUpdate ++ [.readComplete]))[k]? = some v ∧
      acceptance v = some a ∧
      ∀ m w, k < m → m < 3 → (sampleTrace (oneBlockUpdate ++ [.readComplete]))[m]? = some w →
        acceptance w = none := by
  refine no_stale_completion (acceptingPlatform fun _ => 1) (fun _ => none) ()
    (oneBlockUpdate ++ [.readComplete]) ?_ (i := 2) (j := 3) rfl rfl
    ⟨0, false, ⟨mcuStatusSuccess, false⟩, by decide, by decide⟩ (.inl rfl) rfl
  intro r _ hr
  have hone : (1 : UInt8) = cfuSpecialOfferCmd := hr
  contradiction

end Firmware
end CFU
