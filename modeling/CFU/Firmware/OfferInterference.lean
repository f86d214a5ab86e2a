import CFU.Firmware.EngineRuns

/-!
# CFU firmware - offers that start no update

An offer that no handler accepts is answered and forgotten.  Deleting such
offers from a run therefore deletes their transitions and nothing else, as long
as the handlers themselves remember nothing.

Main results:

- Theorem {lit}`step_of_answeredWithoutUpdate`: such an offer leaves the whole
  configuration alone and makes no call but that of a handler.
- Theorem {lit}`unaccepted_offers_do_not_interfere`: any set of them can be
  deleted from any run.
-/

namespace CFU
namespace Firmware

open EventRuns

variable {W : Type} {n : ℕ}

/-- The handlers of all components keep no state of their own. -/
def StatelessHandlers (P : Platform W n) : Prop :=
  ∀ r pCommand pResponse world,
    ((P.registration r).interface.processOffer pCommand pResponse world).2 = world

/-- An offer that was answered and did not start an update. -/
def AnsweredWithoutUpdate (t : EngineTransition W n) : Prop :=
  t.event.isOffer = true ∧ acceptance t = none ∧
    ∃ pResponse, t.output.response = .ok (.offer pResponse)

/-- The calls of a transition, without those of offer handlers. -/
def callsBesideHandlers (t : EngineTransition W n) : List (Call n) :=
  t.output.calls.filter fun call => !call.isProcessOffer

/-- The handler of a stateless component leaves the world alone. -/
theorem handleOffer_world {P : Platform W n} (hstateless : StatelessHandlers P)
    (c : Config W n) (pCommand : FwUpdateOfferCommand) (pResponse : FwUpdateOfferResponse)
    (r : Fin n) : (handleOffer P c pCommand pResponse r).2 = c.world :=
  hstateless r pCommand pResponse c.world

/-- An offer that starts no update changes nothing and calls nothing but a
handler. -/
theorem step_of_answeredWithoutUpdate {P : Platform W n} (hstateless : StatelessHandlers P)
    {c : Config W n} {e : Event n} (h : AnsweredWithoutUpdate (transition (step P) c e)) :
    (step P c e).2 = some c ∧ callsBesideHandlers (transition (step P) c e) = [] := by
  obtain ⟨hoffer, hnone, pResponse', hanswered⟩ := h
  cases e with
  | registerComponent => simp [Event.isOffer] at hoffer
  | firmwareUpdateInit => simp [Event.isOffer] at hoffer
  | content => simp [Event.isOffer] at hoffer
  | readComplete => simp [Event.isOffer] at hoffer
  | updateTimer => simp [Event.isOffer] at hoffer
  | offer pCommand pResponse =>
      have hexec := offerExec_step P c pCommand pResponse
      unfold callsBesideHandlers
      unfold acceptance at hnone
      rw [transition_output] at hnone hanswered ⊢
      generalize step P c (.offer pCommand pResponse) = result at hexec hnone hanswered
      rcases result with ⟨output, after⟩
      cases hexec with
      | busy => exact ⟨rfl, rfl⟩
      | ready => exact ⟨rfl, rfl⟩
      | swapPending => exact ⟨rfl, rfl⟩
      | endlessWalk => contradiction
      | notRegistered => exact ⟨rfl, rfl⟩
      | declined =>
          rw [handleOffer_world hstateless]
          exact ⟨rfl, rfl⟩
      | accepted _ _ haccepted => simp [haccepted] at hnone

/-- Deleting any answered offers that started no update from a run deletes their
transitions and changes nothing else: the run ends in the same configuration,
makes the same calls beside those of handlers, and answers every other event in
the same way. -/
theorem unaccepted_offers_do_not_interfere (P : Platform W n)
    (hstateless : StatelessHandlers P) (c : Config W n) (es : List (Event n)) (sel : ℕ → Bool)
    (hsel : ∀ i t, sel i = true → (engineTrace P c es)[i]? = some t → AnsweredWithoutUpdate t) :
    finalState (step P) c (dropAt sel es) = finalState (step P) c es ∧
      (engineTrace P c (dropAt sel es)).flatMap callsBesideHandlers =
        (engineTrace P c es).flatMap callsBesideHandlers ∧
      engineTrace P c (dropAt sel es) = dropAt sel (engineTrace P c es) := by
  have hstep : ∀ i t, sel i = true → (engineTrace P c es)[i]? = some t →
      t.after = some t.before ∧ callsBesideHandlers t = [] := by
    intro i t hi ht
    have heq := eq_transition_of_mem_trace (List.mem_of_getElem? ht)
    have hquiet := hsel i t hi ht
    rw [heq] at hquiet
    obtain ⟨hafter, hcalls⟩ := step_of_answeredWithoutUpdate hstateless hquiet
    rw [heq]
    exact ⟨hafter, hcalls⟩
  have htrace : engineTrace P c (dropAt sel es) = dropAt sel (engineTrace P c es) :=
    trace_dropAt sel fun i t hi ht => (hstep i t hi ht).1
  refine ⟨finalState_dropAt sel fun i t hi ht => (hstep i t hi ht).1, ?_, htrace⟩
  rw [htrace]
  exact flatMap_dropAt callsBesideHandlers sel fun i t hi ht => (hstep i t hi ht).2

/-- An accepted offer, one that is answered busy meanwhile, and the image. -/
def updateWithBusyOffer : List (Event 1) :=
  [.registerComponent (some onlyComponent), .offer (.plain 1 0) .zero,
    .offer (.plain 1 1) .zero, .content (.block firmwareUpdateFlagLastBlock 0 [0xAA])]

/-- The busy offer can be deleted. -/
theorem unaccepted_offers_do_not_interfere_busy :
    engineTrace (acceptingPlatform fun _ => 1) (Config.powerOn (fun _ => none) ())
        (dropAt (· == 2) updateWithBusyOffer) =
      dropAt (· == 2) (engineTrace (acceptingPlatform fun _ => 1)
        (Config.powerOn (fun _ => none) ()) updateWithBusyOffer) := by
  refine (unaccepted_offers_do_not_interfere (acceptingPlatform fun _ => 1) (fun _ _ _ _ => rfl)
    (Config.powerOn (fun _ => none) ()) updateWithBusyOffer (· == 2) ?_).2.2
  intro i t hi ht
  have htwo : i = 2 := by simpa using hi
  subst htwo
  cases ht
  exact ⟨rfl, rfl, _, rfl⟩

end Firmware
end CFU
