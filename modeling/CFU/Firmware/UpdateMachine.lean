import CFU.Firmware.BlockPhases
import CFU.Library.LabelledPaths

/-!
# CFU firmware - the update machine

What the engine is for, without its code: one update at a time is under way, only the
component of its offer is flashed and completed, and behind a completed image no
ordinary offer is taken.  The engine does not quite do this: before the first accepted
offer it takes blocks for component 0, so the machine has steps for this as well, which
only exist while no offer was accepted.  The actions of the machine are read off the
calls, the events and the responses of the engine, so that every run of the engine
becomes a list of actions.

Main results:

- Relation {lit}`UpdateState.Next`: the update machine.
- Theorem {lit}`concerns_lastOffer`: along every path of the machine, what is flashed and
  completed is the component of the offer that was accepted last.
- Theorem {lit}`engine_simulates`: one event of the engine is a path of the machine.
- Theorem {lit}`engine_refines_updateMachine`: so is every run of the engine.
- Theorem {lit}`updates_never_overlap`: between two accepted offers the first update
  ended.
-/

namespace CFU
namespace Firmware

open EventRuns LabelledPaths

variable {W : Type} {n : ℕ}

/-! ## The machine -/

/-- What can be seen of an update from outside. -/
inductive Action where
  /-- An offer for this component was accepted. -/
  | accepted (componentId : UInt8) (forceReset : Bool)
  /-- The flash of this component was prepared or written. -/
  | flashed (componentId : UInt8)
  /-- This component took its image, with or without a reset. -/
  | completed (componentId : UInt8) (forceReset : Bool)
  /-- The update is over. -/
  | ended
deriving DecidableEq, Repr

/-- An offer that was accepted, and whether its update is under way. -/
structure UpdateOffer where
  componentId : UInt8
  forceReset : Bool
  underWay : Bool
deriving DecidableEq, Repr

/-- The state of the machine: the offer that was accepted last, if any, and whether an image
waits for the swap.  Without an offer no update is under way. -/
structure UpdateState where
  offer : Option UpdateOffer
  swapPending : Bool
deriving DecidableEq, Repr

/-- Before anything was offered. -/
def UpdateState.start : UpdateState where
  offer := none
  swapPending := false

def UpdateState.underWay (s : UpdateState) : Bool :=
  s.offer.any UpdateOffer.underWay

def UpdateState.ended (s : UpdateState) : UpdateState :=
  { s with offer := s.offer.map fun offer => { offer with underWay := false } }

/-- The steps of the machine. -/
inductive UpdateState.Next : UpdateState → Action → UpdateState → Prop
  | accepted {s : UpdateState} {componentId : UInt8} {forceReset : Bool}
      (hidle : s.underWay = false)
      (hopen : s.swapPending = true → componentId = cfuSpecialOfferCmd) :
      Next s (.accepted componentId forceReset)
        { s with offer := some ⟨componentId, forceReset, true⟩ }
  | flashed {s : UpdateState} {offer : UpdateOffer} (haccepted : s.offer = some offer) :
      Next s (.flashed offer.componentId) s
  | completed {s : UpdateState} {offer : UpdateOffer} (haccepted : s.offer = some offer) :
      Next s (.completed offer.componentId offer.forceReset) { s with swapPending := true }
  | ended {s : UpdateState} : Next s .ended s.ended
  -- before the first accepted offer, component 0 stands in for the one of the offer
  | flashedUnoffered {s : UpdateState} (hnone : s.offer = none) : Next s (.flashed 0) s
  | completedUnoffered {s : UpdateState} (hnone : s.offer = none) :
      Next s (.completed 0 false) { s with swapPending := true }

/-- The component and the reset flag of an action that accepts an offer. -/
def Action.offer : Action → Option (UInt8 × Bool)
  | .accepted componentId forceReset => some (componentId, forceReset)
  | _ => none

/-- The offer that was accepted last. -/
def lastOffer (actions : List Action) : Option (UInt8 × Bool) :=
  (actions.filterMap Action.offer).getLast?

/-- The action flashes or completes nothing but the component of this offer, the latter with
the reset flag of the offer; without an offer, nothing but component 0, without a reset. -/
def Action.Concerns (offer : Option (UInt8 × Bool)) : Action → Prop
  | .flashed componentId => componentId = (offer.getD (0, false)).1
  | .completed componentId forceReset => (componentId, forceReset) = offer.getD (0, false)
  | _ => True

section Machine

variable {s s' : UpdateState} {actions : List Action}

/-- An update that is under way stays so until it ends. -/
theorem underWay_of_path (h : Path UpdateState.Next s actions s') (hstart : s.underWay = true)
    (hnever : .ended ∉ actions) : s'.underWay = true := by
  apply h.invariant (fun s => s.underWay = true) hstart
  intro a action b hmem hnext hbusy
  cases hnext with
  | accepted => rfl
  | flashed => exact hbusy
  | completed => exact hbusy
  | ended => exact absurd hmem hnever
  | flashedUnoffered => exact hbusy
  | completedUnoffered => exact hbusy

theorem lastOffer_cons (action : Action) (actions : List Action) :
    lastOffer (action :: actions) = (lastOffer actions).or action.offer := by
  rw [lastOffer, lastOffer, List.filterMap_cons]
  cases action.offer with
  | none => rw [Option.or_none]
  | some offer =>
      dsimp only
      rw [List.getLast?_cons]
      cases (actions.filterMap Action.offer).getLast? with
      | none => rfl
      | some last => rfl

/-- The component and the reset flag of the offer in a state. -/
def UpdateState.offered (s : UpdateState) : Option (UInt8 × Bool) :=
  s.offer.map fun offer => (offer.componentId, offer.forceReset)

/-- The state keeps the offer that was accepted last. -/
theorem offered_of_path (h : Path UpdateState.Next s actions s') :
    s'.offered = (lastOffer actions).or s.offered := by
  induction h with
  | nil => rfl
  | cons hnext _ ih =>
      rw [ih, lastOffer_cons, Option.or_assoc]
      congr 1
      cases hnext with
      | accepted => rfl
      | flashed => rfl
      | completed => rfl
      | ended => simp [UpdateState.offered, UpdateState.ended, Action.offer, Function.comp_def]
      | flashedUnoffered => rfl
      | completedUnoffered => rfl

theorem concerns_of_next {action : Action} (h : UpdateState.Next s action s') :
    action.Concerns s.offered := by
  cases h with
  | accepted => trivial
  | flashed haccepted => simp [Action.Concerns, UpdateState.offered, haccepted]
  | completed haccepted => simp [Action.Concerns, UpdateState.offered, haccepted]
  | ended => trivial
  | flashedUnoffered hnone => simp [Action.Concerns, UpdateState.offered, hnone]
  | completedUnoffered hnone => simp [Action.Concerns, UpdateState.offered, hnone]

/-- What is flashed and completed is the component of the offer that was accepted last. -/
theorem concerns_lastOffer (h : Path UpdateState.Next .start actions s)
    {pre post : List Action} {action : Action} (hsplit : actions = pre ++ action :: post) :
    action.Concerns (lastOffer pre) := by
  rw [hsplit, Path.append_iff] at h
  obtain ⟨before, hpre, hpost⟩ := h
  obtain ⟨after, hnext, -⟩ := path_cons_iff.mp hpost
  have hoffered := offered_of_path hpre
  have hnone : UpdateState.start.offered = none := rfl
  rw [hnone, Option.or_none] at hoffered
  rw [← hoffered]
  exact concerns_of_next hnext

end Machine

/-! ## The actions of the engine -/

/-- The actions of a call.  The completion handler runs before the call returns. -/
def Call.actions (P : Platform W n) : Call n → List Action
  | .prepare componentId _ => [.flashed componentId]
  | .write _ _ _ componentId _ => [.flashed componentId]
  | .notifySuccess pRegistration forceReset result =>
      (if result.readCompleted then [.ended] else []) ++
        if mcuSuccess result.status then
          [.completed (P.registration pRegistration).componentId forceReset]
        else []
  | _ => []

/-- The update is over behind a completion, an expiry, and a block that was not answered
with success. -/
def endingActions (e : Event n) (output : Output n) : List Action :=
  match e with
  | .readComplete => [.ended]
  | .updateTimer => [.ended]
  | .content _ => if output.contentSucceeded then [] else [.ended]
  | _ => []

/-- The actions of a transition. -/
def actions (P : Platform W n) (t : EngineTransition W n) : List Action :=
  (acceptance t).toList.map (fun a =>
      .accepted a.pCommand.componentInfo.componentId
        a.pCommand.componentInfo.forceImmediateReset) ++
    (t.output.calls.flatMap (Call.actions P) ++ endingActions t.event t.output)

/-- What the current offer stands for. -/
def CurrentOfferInfo.updateOffer (o : CurrentOfferInfo) : UpdateOffer where
  componentId := o.activeComponentId
  forceReset := o.forceReset
  underWay := o.updateInProgress

/-- The state of the machine that the static variables stand for, when an offer was accepted
before or not. -/
def EngineState.updateState (s : EngineState n) (offered : Bool) : UpdateState where
  offer := if offered then some s.currentOffer.updateOffer else none
  swapPending := s.bankSwapPending

/-- Before an offer is accepted the current one is that of power on. -/
def EngineState.Offered (s : EngineState n) (offered : Bool) : Prop :=
  offered = false → s.currentOffer = ⟨0, false, false⟩

section States

variable {s : EngineState n} {offered : Bool}

/-- Behind an accepted offer nothing is asked of the current one. -/
theorem EngineState.offered_true : s.Offered true := by
  intro hnone
  cases hnone

theorem EngineState.Offered.endUpdate (h : s.Offered offered) : s.endUpdate.Offered offered := by
  intro hnone
  rw [EngineState.endUpdate, h hnone]

theorem EngineState.Offered.afterStatus (h : s.Offered offered) (status : UInt8) :
    (s.afterStatus status).Offered offered := by
  unfold EngineState.afterStatus
  split
  · exact h
  · exact h.endUpdate

theorem EngineState.Offered.afterNotify (h : s.Offered offered) (result : NotifyResult) :
    (s.afterNotify result).Offered offered := by
  have hcompleted : (if result.readCompleted then s.endUpdate else s).Offered offered := by
    split
    · exact h.endUpdate
    · exact h
  unfold EngineState.afterNotify
  dsimp only
  split
  · exact hcompleted
  · exact hcompleted.endUpdate

@[simp]
theorem updateState_endUpdate :
    s.endUpdate.updateState offered = (s.updateState offered).ended := by
  cases offered with
  | false => rfl
  | true => rfl

@[simp]
theorem updateState_register (pRegistration : Option (Fin n)) :
    (s.register pRegistration).updateState offered = s.updateState offered := by
  cases pRegistration <;> rfl

/-- The component of the current offer may be flashed. -/
theorem next_flashed (h : s.Offered offered) :
    UpdateState.Next (s.updateState offered) (.flashed s.currentOffer.activeComponentId)
      (s.updateState offered) := by
  cases offered with
  | false =>
      rw [h rfl]
      exact .flashedUnoffered rfl
  | true =>
      have haccepted : (s.updateState true).offer = some s.currentOffer.updateOffer := rfl
      exact .flashed haccepted

/-- It may take its image. -/
theorem next_completed (h : s.Offered offered) :
    UpdateState.Next (s.updateState offered)
      (.completed s.currentOffer.activeComponentId s.currentOffer.forceReset)
      ({ s with bankSwapPending := true }.updateState offered) := by
  cases offered with
  | false =>
      rw [h rfl]
      exact .completedUnoffered rfl
  | true =>
      have haccepted : (s.updateState true).offer = some s.currentOffer.updateOffer := rfl
      exact .completed haccepted

end States

/-! ## Simulation -/

section Simulate

variable {P : Platform W n} {c c' : Config W n} {offered : Bool}

/-- The write of a block flashes the component of the current offer. -/
theorem path_blockWrite {s : EngineState n} (h : s.Offered offered)
    (pCommand : FwUpdateContentCommand) (result : UInt32) :
    Path UpdateState.Next (s.updateState offered) ((blockWrite s pCommand result).actions P)
      (s.updateState offered) := by
  show Path UpdateState.Next _ [Action.flashed s.currentOffer.activeComponentId] _
  rw [path_singleton_iff]
  exact next_flashed h

/-- A block that was answered without success ends the update. -/
theorem path_ending (s : EngineState n) (status : UInt8) (pCommand : FwUpdateContentCommand)
    (calls : List (Call n)) :
    Path UpdateState.Next (s.updateState offered)
      (endingActions (.content pCommand) (contentOutput pCommand calls status))
      ((s.afterStatus status).updateState offered) := by
  by_cases hstatus : status = firmwareUpdateStatusSuccess
  · have hnone : endingActions (.content pCommand) (contentOutput pCommand calls status) = [] := by
      simp [endingActions, Output.contentSucceeded, contentOutput, contentResponse, hstatus]
    rw [hnone, EngineState.afterStatus, if_pos hstatus]
    exact .nil _
  · have hended : endingActions (.content pCommand) (contentOutput pCommand calls status) =
        [.ended] := by
      simp [endingActions, Output.contentSucceeded, contentOutput, contentResponse, hstatus]
    rw [hended, EngineState.afterStatus, if_neg hstatus, path_singleton_iff, updateState_endUpdate]
    exact .ended

/-- The calls of a rejected validation are no actions. -/
theorem ImageRejected.no_actions {s : EngineState n} {componentId status : UInt8}
    {calls : List (Call n)} (h : ImageRejected P s componentId calls status) :
    calls.flatMap (Call.actions P) = [] := by
  cases h <;> rfl

/-- A notification completes the image of the component that is notified, and ends the update
before that when the completion handler is called. -/
theorem path_notify {s : EngineState n} (h : s.Offered offered) {r : Fin n}
    (hr : (P.registration r).componentId = s.currentOffer.activeComponentId)
    (result : NotifyResult) (pCommand : FwUpdateContentCommand) (calls : List (Call n)) :
    Path UpdateState.Next (s.updateState offered)
      ((Call.notifySuccess r s.currentOffer.forceReset result).actions P ++
        endingActions (.content pCommand) (contentOutput pCommand calls (notifyStatus result)))
      ((s.afterNotify result).updateState offered) := by
  have hending : ∀ s' : EngineState n, Path UpdateState.Next (s'.updateState offered)
      (endingActions (.content pCommand) (contentOutput pCommand calls (notifyStatus result)))
      ((s'.afterStatus (notifyStatus result)).updateState offered) :=
    fun s' => path_ending s' _ pCommand calls
  have hend : UpdateState.Next (s.updateState offered) .ended
      (s.endUpdate.updateState offered) := by
    rw [updateState_endUpdate]
    exact .ended
  cases hstatus : mcuSuccess result.status with
  | true =>
      have hsuccess := notifyStatus_eq_success.2 hstatus
      rw [hsuccess] at hending ⊢
      cases hcompleted : result.readCompleted with
      | true =>
          have hpending : UpdateState.Next (s.endUpdate.updateState offered)
              (.completed s.currentOffer.activeComponentId s.currentOffer.forceReset)
              ({ s.endUpdate with bankSwapPending := true }.updateState offered) :=
            next_completed h.endUpdate
          have hlast := hending { s.endUpdate with bankSwapPending := true }
          rw [EngineState.afterStatus_success] at hlast
          simpa [Call.actions, EngineState.afterNotify, hcompleted, hstatus, hr] using
            Path.cons hend (.cons hpending hlast)
      | false =>
          have hpending := next_completed h
          have hlast := hending { s with bankSwapPending := true }
          rw [EngineState.afterStatus_success] at hlast
          simpa [Call.actions, EngineState.afterNotify, hcompleted, hstatus, hr] using
            Path.cons hpending hlast
  | false =>
      have hfailed : notifyStatus result ≠ firmwareUpdateStatusSuccess := by
        rw [Ne, notifyStatus_eq_success, hstatus]
        exact Bool.false_ne_true
      cases hcompleted : result.readCompleted with
      | true =>
          have hlast := hending s.endUpdate
          rw [EngineState.afterStatus, if_neg hfailed] at hlast
          simpa [Call.actions, EngineState.afterNotify, hcompleted, hstatus] using
            Path.cons hend hlast
      | false =>
          have hlast := hending s
          rw [EngineState.afterStatus, if_neg hfailed] at hlast
          simpa [Call.actions, EngineState.afterNotify, hcompleted, hstatus] using hlast

/-- A content command flashes the component of the current offer, completes its image or
ends its update, and does nothing else. -/
theorem ContentExec.path {s s' : EngineState n} {pCommand : FwUpdateContentCommand}
    {output : Output n} (h : ContentExec P s pCommand output (some s'))
    (hoffered : s.Offered offered) :
    Path UpdateState.Next (s.updateState offered)
      (output.calls.flatMap (Call.actions P) ++ endingActions (.content pCommand) output)
      (s'.updateState offered) := by
  have hprepare : ∀ result, Path UpdateState.Next (s.updateState offered)
      ((Call.prepare (n := n) s.currentOffer.activeComponentId result).actions P)
      (s.updateState offered) := by
    intro result
    show Path UpdateState.Next _ [Action.flashed s.currentOffer.activeComponentId] _
    rw [path_singleton_iff]
    exact next_flashed hoffered
  have hended : ∀ {status calls}, status ≠ firmwareUpdateStatusSuccess →
      Path UpdateState.Next (s.updateState offered)
        (endingActions (.content pCommand) (contentOutput (n := n) pCommand calls status))
        (s.endUpdate.updateState offered) := by
    intro status calls hstatus
    have hending : Path UpdateState.Next (s.updateState offered) _
        ((s.afterStatus status).updateState offered) := path_ending s status pCommand calls
    rwa [EngineState.afterStatus, if_neg hstatus] at hending
  generalize hafter : some s' = after at h
  cases h with
  | @prepareFailed result =>
      cases hafter
      exact (hprepare result).append (hended (by decide))
  | firstBlock result =>
      cases hafter
      have hcalls := (hprepare 0).append (path_blockWrite (P := P) hoffered pCommand result)
      exact hcalls.append (path_ending s _ pCommand _)
  | middleBlock result =>
      cases hafter
      have hcalls := path_blockWrite (P := P) hoffered pCommand result
      rw [contentOutput, List.flatMap_singleton]
      exact hcalls.append (path_ending s _ pCommand _)
  | @lastWriteFailed result =>
      cases hafter
      have hcalls := path_blockWrite (P := P) hoffered pCommand result
      rw [contentOutput, List.flatMap_singleton]
      exact hcalls.append (hended (by decide))
  | endlessWalk => cases hafter
  | @rejected calls status _ _ hrejected =>
      cases hafter
      have hcalls := path_blockWrite (P := P) hoffered pCommand 0
      rw [contentOutput, List.flatMap_cons, hrejected.no_actions, List.append_nil]
      exact hcalls.append (hended hrejected.status_ne_success)
  | @notified r status offset crc result _ _ hlookup =>
      cases hafter
      have hcalls := path_blockWrite (P := P) hoffered pCommand 0
      have hnotify := path_notify hoffered (EngineState.lookup_componentId P hlookup) result
        pCommand (blockWrite s pCommand 0 :: (validationCalls r s.currentOffer.activeComponentId
          status offset crc ++ [.notifySuccess r s.currentOffer.forceReset result]))
      have hpath := hcalls.append hnotify
      simpa [contentOutput, validationCalls, Call.actions] using hpath

/-- No content command records an offer. -/
theorem ContentExec.keepsOffered {s s' : EngineState n} {pCommand : FwUpdateContentCommand}
    {output : Output n} (h : ContentExec P s pCommand output (some s'))
    (hoffered : s.Offered offered) : s'.Offered offered := by
  generalize hafter : some s' = after at h
  cases h with
  | prepareFailed =>
      cases hafter
      exact hoffered.endUpdate
  | firstBlock result =>
      cases hafter
      exact hoffered.afterStatus _
  | middleBlock result =>
      cases hafter
      exact hoffered.afterStatus _
  | lastWriteFailed =>
      cases hafter
      exact hoffered.endUpdate
  | endlessWalk => cases hafter
  | rejected =>
      cases hafter
      exact hoffered.endUpdate
  | notified result =>
      cases hafter
      exact hoffered.afterNotify result

/-- One event of the engine is a path of the update machine. -/
theorem engine_simulates (P : Platform W n) :
    ForwardSimulation (step P) UpdateState.Next (actions P)
      fun c s => ∃ offered, c.engine.Offered offered ∧ c.engine.updateState offered = s := by
  rintro c e c' s ⟨offered, hoffered, rfl⟩ hafter
  cases e with
  | registerComponent pRegistration =>
      have hnone : actions P (transition (step P) c (.registerComponent pRegistration)) = [] := by
        simp [actions, acceptance, endingActions]
      rw [step_registerComponent, Option.some.injEq] at hafter
      subst hafter
      rw [hnone]
      refine ⟨_, .nil _, offered, ?_, updateState_register pRegistration⟩
      cases pRegistration with
      | none => exact hoffered
      | some r => exact hoffered
  | firmwareUpdateInit =>
      cases hafter
      exact ⟨_, .nil _, offered, hoffered, rfl⟩
  | readComplete =>
      cases hafter
      exact ⟨_, .cons .ended (.nil _), offered, hoffered.endUpdate, updateState_endUpdate⟩
  | updateTimer =>
      cases hafter
      exact ⟨_, .cons .ended (.nil _), offered, hoffered.endUpdate, updateState_endUpdate⟩
  | content pCommand =>
      have hexec := contentExec_step P c pCommand
      rw [hafter, Option.map_some] at hexec
      rw [actions, acceptance_content]
      exact ⟨_, hexec.path hoffered, offered, hexec.keepsOffered hoffered, rfl⟩
  | offer pCommand pResponse =>
      have hexec := offerExec_step P c pCommand pResponse
      rw [hafter] at hexec
      rw [actions, acceptance, transition_output, transition_event]
      generalize (step P c (.offer pCommand pResponse)).1 = output at hexec
      cases hexec with
      | busy => exact ⟨_, .nil _, offered, hoffered, rfl⟩
      | ready => exact ⟨_, .nil _, offered, hoffered, rfl⟩
      | swapPending => exact ⟨_, .nil _, offered, hoffered, rfl⟩
      | notRegistered => exact ⟨_, .nil _, offered, hoffered, rfl⟩
      | declined _ _ hdeclined =>
          simp only [offerOutput, hdeclined]
          exact ⟨_, .nil _, offered, hoffered, rfl⟩
      | accepted hreach _ haccepted =>
          simp only [offerOutput, haccepted, if_true]
          rw [EngineState.reachesList, Bool.and_eq_true, Bool.and_eq_true] at hreach
          have hidle : (c.engine.updateState offered).underWay = false := by
            have hbusy : c.engine.currentOffer.updateInProgress = false := by
              simpa using hreach.1.1
            cases offered with
            | false => rfl
            | true => exact hbusy
          have hopen : (c.engine.updateState offered).swapPending = true →
              pCommand.componentInfo.componentId = cfuSpecialOfferCmd := by
            intro hpending
            have hswap : c.engine.bankSwapPending = true := hpending
            simpa [hswap] using hreach.2
          exact ⟨_, .cons (.accepted hidle hopen) (.nil _), true, EngineState.offered_true, rfl⟩

end Simulate

/-! ## Runs of the engine -/

section Runs

variable {P : Platform W n} {pNext : Fin n → Option (Fin n)} {world : W} {es : List (Event n)}

/-- The actions of every run of the engine are a run of the update machine, which ends in
a state that the static variables stand for; every action concerns the offer that was accepted
last before it. -/
theorem engine_refines_updateMachine {c : Config W n}
    (hreach : finalState (step P) (Config.powerOn pNext world) es = some c) :
    (∃ offered, c.engine.Offered offered ∧
      Path UpdateState.Next .start
        ((engineTrace P (Config.powerOn pNext world) es).flatMap (actions P))
        (c.engine.updateState offered)) ∧
      ∀ pre action post,
        (engineTrace P (Config.powerOn pNext world) es).flatMap (actions P) =
          pre ++ action :: post →
        action.Concerns (lastOffer pre) := by
  obtain ⟨s, hpath, offered, hoffered, rfl⟩ :=
    (engine_simulates P).path_of_run ⟨false, fun _ => rfl, rfl⟩ hreach
  refine ⟨⟨offered, hoffered, hpath⟩, ?_⟩
  intro pre action post hsplit
  exact concerns_lastOffer hpath hsplit

/-- An update is under way behind a transition that accepted an offer, and was not before. -/
theorem underWay_of_acceptance {t : EngineTransition W n}
    (htransition : t = transition (step P) t.before t.event)
    (haccept : (acceptance t).isSome = true) :
    t.before.engine.currentOffer.updateInProgress = false ∧
      ∀ c, t.after = some c → c.engine.currentOffer.updateInProgress = true := by
  obtain ⟨a, ha⟩ := Option.isSome_iff_exists.1 haccept
  rw [htransition] at ha
  obtain ⟨-, hreach, -, -, -, hafter⟩ := step_of_acceptance ha
  constructor
  · rw [EngineState.reachesList, Bool.and_eq_true, Bool.and_eq_true] at hreach
    simpa using hreach.1.1
  · intro c hc
    rw [htransition, transition_after] at hc
    rw [hc, Option.map_some, Option.some.injEq] at hafter
    rw [hafter]
    rfl

/-- Updates never overlap: between two transitions that accept an offer, the update of the
first one ends. -/
theorem updates_never_overlap (P : Platform W n) (c : Config W n) (es : List (Event n))
    {pre mid post : List (EngineTransition W n)} {t u : EngineTransition W n}
    (hsplit : engineTrace P c es = pre ++ t :: (mid ++ u :: post))
    (ht : (acceptance t).isSome = true) (hu : (acceptance u).isSome = true) :
    ∃ v ∈ mid, .ended ∈ actions P v := by
  have hmem : t ∈ engineTrace P c es := by
    rw [hsplit]
    simp
  have hmem' : u ∈ engineTrace P c es := by
    rw [hsplit]
    simp
  obtain ⟨-, hbusy⟩ := underWay_of_acceptance (eq_transition_of_mem_trace hmem) ht
  obtain ⟨hidle, -⟩ := underWay_of_acceptance (eq_transition_of_mem_trace hmem') hu
  obtain ⟨-, es₂, -, -, -, hrest⟩ := trace_split hsplit
  cases hafter : t.after with
  | none =>
      rw [hafter] at hrest
      simp at hrest
  | some c₁ =>
      rw [hafter] at hrest
      obtain ⟨es₃, -, -, hmid, hreach, -⟩ := trace_split hrest.symm
      -- the path of the machine from the first acceptance to the second one
      obtain ⟨s, hpath, offered, hoffered, rfl⟩ :=
        (engine_simulates P).path_of_run ⟨true, nofun, rfl⟩ hreach
      by_contra hnever
      have hnone : .ended ∉ (trace (step P) c₁ es₃).flatMap (actions P) := by
        rw [← hmid, List.mem_flatMap]
        exact hnever
      have hstart : (c₁.engine.updateState true).underWay = true := hbusy c₁ hafter
      have hbusy' := underWay_of_path hpath hstart hnone
      cases offered with
      | false => cases hbusy'
      | true =>
          have hstill : u.before.engine.currentOffer.updateInProgress = true := hbusy'
          rw [hidle] at hstill
          cases hstill

end Runs

/-! ## Updates of one component -/

/-- An offer is accepted, its update expires, and the next offer is accepted. -/
def offersAroundExpiry : List (Event 1) :=
  acceptedOffer ++ [.updateTimer, .offer (.plain 1 1) .zero]

/-- A block before any offer is flashed to component 0; the image behind the offer is
completed for component 1. -/
theorem engine_refines_updateMachine_strayBlock :
    let es := .content (.block 0 0 [0xBB]) :: oneBlockUpdate
    let seen := [Action.flashed 0, .accepted 1 false, .flashed 1, .completed 1 false]
    (sampleTrace es).flatMap (actions (acceptingPlatform fun _ => 1)) = seen ∧
      (∃ s, Path UpdateState.Next .start seen s) ∧
      (Action.flashed 0).Concerns (lastOffer []) ∧
      (Action.completed 1 false).Concerns
        (lastOffer [.flashed 0, .accepted 1 false, .flashed 1]) := by
  have hfinal : finalState (step (acceptingPlatform fun _ => 1)) (.powerOn (fun _ => none) ())
      (.content (.block 0 0 [0xBB]) :: oneBlockUpdate) = some _ := rfl
  obtain ⟨⟨offered, -, hpath⟩, hconcerns⟩ := engine_refines_updateMachine hfinal
  refine ⟨rfl, ⟨_, hpath⟩, ?_, ?_⟩
  · exact hconcerns [] _ _ rfl
  · exact hconcerns [_, _, _] _ [] rfl

theorem updates_never_overlap_expiry :
    ∃ v ∈ [transition (step (acceptingPlatform fun _ => 1))
        ⟨((EngineState.powerOn fun _ => none).register (some onlyComponent)).startUpdate
          (.plain 1 0), ()⟩ .updateTimer],
      .ended ∈ actions (acceptingPlatform fun _ => 1) v :=
  updates_never_overlap (acceptingPlatform fun _ => 1) (Config.powerOn (fun _ => none) ())
    offersAroundExpiry
    (show sampleTrace offersAroundExpiry = [_] ++ _ :: ([_] ++ _ :: []) from rfl) rfl rfl

end Firmware
end CFU
