import CFU.Firmware.BlockPhases

/-!
# CFU firmware - several hosts at one device

Offers carry the token of their host, content commands do not.  A schedule
records who sent each block, and a host sends blocks only while it believes that
its own accepted offer is being served.  This file shows whose image a block is
written to.

Main results:

- Theorem {lit}`content_write_component`: every block goes to the component of the
  most recently accepted offer, and if hosts also stop at an expiry of the
  fail-safe timer and at a completion callback, that offer is the sender's own.
- Theorem {lit}`late_block_written_to_other_image`: a host that does not notice the
  expiry writes into the image of the other host.
-/

namespace CFU
namespace Firmware

open EventRuns

variable {W : Type} {n : ℕ}

/-! ## Schedules -/

/-- An event of a schedule.  The host of an offer is the token in it; a content
command comes with the token of its sender, which the engine does not see. -/
inductive HostEvent (n : ℕ) where
  | offer (pCommand : FwUpdateOfferCommand) (pResponse : FwUpdateOfferResponse)
  | content (sender : UInt8) (pCommand : FwUpdateContentCommand)
  | readComplete
  | updateTimer
deriving DecidableEq, Repr

/-- The call that the engine receives. -/
def HostEvent.toEvent : HostEvent n → Event n
  | .offer pCommand pResponse => .offer pCommand pResponse
  | .content _ pCommand => .content pCommand
  | .readComplete => .readComplete
  | .updateTimer => .updateTimer

/-- One executed event of a schedule. -/
abbrev HostTransition (W : Type) (n : ℕ) :=
  Transition (Config W n) (HostEvent n) (Output n)

/-- The transitions of a schedule from {lit}`c`. -/
abbrev hostTrace (P : Platform W n) (c : Config W n) (es : List (HostEvent n)) :
    List (HostTransition W n) :=
  trace (fun c e => step P c e.toEvent) c es

/-- The offer that a transition of a schedule accepted. -/
def hostAcceptance (t : HostTransition W n) : Option (Acceptance n) :=
  acceptance (t.relabel HostEvent.toEvent)

/-- The offer that was accepted most recently in a schedule. -/
def lastHostAccepted (ts : List (HostTransition W n)) : Option (Acceptance n) :=
  lastAccepted (ts.map (Transition.relabel HostEvent.toEvent))

/-! ## The belief of a host -/

/-- The offer that a host believes to be served after a transition: its own
accepted one, until one of its blocks is not answered with success or until it
notices that {lit}`stops` holds. -/
def believe (stops : HostTransition W n → Bool) (host : UInt8)
    (belief : Option (Acceptance n)) (t : HostTransition W n) : Option (Acceptance n) :=
  if stops t then none
  else
    match t.event with
    | .offer pCommand _ =>
        if pCommand.componentInfo.token = host then (hostAcceptance t).or belief else belief
    | .content sender _ =>
        if sender = host ∧ t.output.contentSucceeded = false then none else belief
    | .readComplete => belief
    | .updateTimer => belief

/-- The offer that a host believes to be served after a schedule. -/
def session (stops : HostTransition W n → Bool) (host : UInt8)
    (ts : List (HostTransition W n)) : Option (Acceptance n) :=
  ts.foldl (believe stops host) none

/-- Blocks are sent only by hosts that believe their offer to be served. -/
def Disciplined (stops : HostTransition W n → Bool) (ts : List (HostTransition W n)) : Prop :=
  ∀ i t sender pCommand, ts[i]? = some t → t.event = .content sender pCommand →
    (session stops sender (ts.take i)).isSome = true

/-- A host that only looks at the responses to its own commands. -/
def stopsNever (_ : HostTransition W n) : Bool :=
  false

/-- The fail-safe timer expired, or the completion handler was called. -/
def endsUpdate (t : HostTransition W n) : Bool :=
  match t.event with
  | .offer .. => false
  | .content .. =>
      t.output.calls.any fun
        | .notifySuccess _ _ result => result.readCompleted
        | _ => false
  | .readComplete => true
  | .updateTimer => true

section Session

variable {stops : HostTransition W n → Bool} {host : UInt8}

theorem session_append_singleton (ts : List (HostTransition W n)) (t : HostTransition W n) :
    session stops host (ts ++ [t]) = believe stops host (session stops host ts) t := by
  simp [session]

theorem lastHostAccepted_append_singleton (ts : List (HostTransition W n))
    (t : HostTransition W n) :
    lastHostAccepted (ts ++ [t]) = (hostAcceptance t).or (lastHostAccepted ts) := by
  rw [lastHostAccepted, List.map_append, List.map_singleton, lastAccepted_append_singleton]
  rfl

/-- A host that believes its offer to be served has had one accepted. -/
theorem lastHostAccepted_isSome {ts : List (HostTransition W n)}
    (h : (session stops host ts).isSome = true) : (lastHostAccepted ts).isSome = true := by
  induction ts using List.reverseRecOn with
  | nil => simp [session] at h
  | append_singleton ts t ih =>
      rw [lastHostAccepted_append_singleton]
      cases haccept : hostAcceptance t with
      | some a => rfl
      | none =>
          rw [Option.none_or]
          refine ih ?_
          rw [session_append_singleton, believe, haccept] at h
          split at h
          · contradiction
          · cases hevent : t.event with
            | offer => simpa [hevent] using h
            | content =>
                rw [hevent] at h
                dsimp only at h
                split at h
                · contradiction
                · exact h
            | readComplete => simpa [hevent] using h
            | updateTimer => simpa [hevent] using h

/-- The beginning of a disciplined schedule is disciplined, and so is its last
event. -/
theorem Disciplined.of_append {ts : List (HostTransition W n)} {t : HostTransition W n}
    (h : Disciplined stops (ts ++ [t])) :
    Disciplined stops ts ∧
      ∀ sender pCommand, t.event = .content sender pCommand →
        (session stops sender ts).isSome = true := by
  constructor
  · intro i u sender pCommand hi hevent
    have hlt : i < ts.length := (List.getElem?_eq_some_iff.mp hi).1
    have hsession := h i u sender pCommand (by rw [List.getElem?_append_left hlt, hi]) hevent
    rwa [List.take_append_of_le_length hlt.le] at hsession
  · intro sender pCommand hevent
    have hsession := h ts.length t sender pCommand (by simp) hevent
    rwa [List.take_left] at hsession

end Session

/-! ## Hosts that notice the end of their update -/

section Careful

variable {P : Platform W n} {c c' : Config W n}

/-- A block that is answered with success while its component does not report
completion keeps the update in progress. -/
theorem ContentExec.keeps_currentOffer {s s' : EngineState n}
    {pCommand : FwUpdateContentCommand} {output : Output n}
    (h : ContentExec P s pCommand output (some s'))
    (hsucceeded : output.contentSucceeded = true)
    (hpending : ∀ r forceReset result, .notifySuccess r forceReset result ∈ output.calls →
      result.readCompleted = false) :
    s'.currentOffer = s.currentOffer := by
  have hstatus : ∀ status,
      (contentOutput pCommand ([] : List (Call n)) status).contentSucceeded = true →
        (s.afterStatus status).currentOffer = s.currentOffer := by
    intro status heq
    have hsuccess : status = firmwareUpdateStatusSuccess := by
      simpa [Output.contentSucceeded, contentOutput, contentResponse] using heq
    rw [EngineState.afterStatus, if_pos hsuccess]
  cases h with
  | prepareFailed => contradiction
  | firstBlock => exact hstatus _ hsucceeded
  | middleBlock => exact hstatus _ hsucceeded
  | lastWriteFailed => contradiction
  | rejected _ _ hrejected =>
      have hsuccess := hstatus _ hsucceeded
      rw [EngineState.afterStatus, if_neg hrejected.status_ne_success] at hsuccess
      exact hsuccess
  | @notified r _ _ _ result =>
      have hcompleted : result.readCompleted = false :=
        hpending r s.currentOffer.forceReset result (by simp [contentOutput])
      cases hresult : mcuSuccess result.status with
      | false =>
          simp [Output.contentSucceeded, contentOutput, contentResponse, notifyStatus, hresult,
            firmwareUpdateStatusErrorComplete, firmwareUpdateStatusSuccess] at hsucceeded
      | true => simp [EngineState.afterNotify, hcompleted, hresult]

/-- A completion handler that was called from within a block is noticed. -/
theorem readCompleted_of_not_endsUpdate {t : HostTransition W n} {sender : UInt8}
    {pCommand : FwUpdateContentCommand} (hevent : t.event = .content sender pCommand)
    (h : endsUpdate t = false) :
    ∀ r forceReset result, .notifySuccess r forceReset result ∈ t.output.calls →
      result.readCompleted = false := by
  intro r forceReset result hcall
  unfold endsUpdate at h
  rw [hevent] at h
  simp only [List.any_eq_false] at h
  simpa using h _ hcall

/-- What a careful host believes is true: its offer is in progress and the latest
accepted one. -/
def BeliefsHold (ts : List (HostTransition W n)) (c : Config W n) : Prop :=
  ∀ host a, session endsUpdate host ts = some a →
    c.engine.currentOffer.updateInProgress = true ∧ lastHostAccepted ts = some a ∧
      a.pCommand.componentInfo.token = host

/-- Two believing hosts are one host. -/
theorem BeliefsHold.host_unique {ts : List (HostTransition W n)} (h : BeliefsHold ts c)
    {host host' : UInt8} {a a' : Acceptance n} (ha : session endsUpdate host ts = some a)
    (ha' : session endsUpdate host' ts = some a') : a' = a ∧ host' = host := by
  obtain ⟨-, hlast, htoken⟩ := h host a ha
  obtain ⟨-, hlast', htoken'⟩ := h host' a' ha'
  have heq : a' = a := by
    rw [hlast, Option.some.injEq] at hlast'
    exact hlast'.symm
  exact ⟨heq, by rw [← htoken, ← htoken', heq]⟩

/-- While somebody believes to be served, no offer reaches the components. -/
theorem BeliefsHold.session_eq_none {ts : List (HostTransition W n)} (h : BeliefsHold ts c)
    {pCommand : FwUpdateOfferCommand} (hreach : c.engine.reachesList pCommand = true)
    (host : UInt8) : session endsUpdate host ts = none := by
  cases hsession : session endsUpdate host ts with
  | none => rfl
  | some a =>
      have hbusy := (h host a hsession).1
      simp [EngineState.reachesList, hbusy] at hreach

/-- An offer keeps the beliefs true: one that is not accepted changes nothing, and
one that is accepted finds no believing host and makes one of its own. -/
theorem beliefsHold_offer {ts : List (HostTransition W n)} {pCommand : FwUpdateOfferCommand}
    {pResponse : FwUpdateOfferResponse} (hbelief : BeliefsHold ts c)
    (hafter : (step P c (.offer pCommand pResponse)).2 = some c') :
    BeliefsHold (ts ++ [transition (fun c e => step P c (HostEvent.toEvent e)) c
      (.offer pCommand pResponse)]) c' := by
  intro host a hsession
  rw [session_append_singleton, believe, if_neg (by simp [endsUpdate])] at hsession
  rw [lastHostAccepted_append_singleton]
  dsimp only [transition_event] at hsession
  cases haccept : hostAcceptance (transition (fun c e => step P c (HostEvent.toEvent e)) c
      (.offer pCommand pResponse)) with
  | none =>
      rw [haccept, Option.none_or, ite_self] at hsession
      have hengine := (step_offer_of_acceptance_none haccept hafter).1
      rw [hengine, Option.none_or]
      exact hbelief host a hsession
  | some a' =>
      have haccept' : acceptance (transition (step P) c (.offer pCommand pResponse)) =
          some a' := haccept
      obtain ⟨⟨pResponse', hevent⟩, hreach, -, -, -, hengine⟩ := step_of_acceptance haccept'
      rw [hafter, Option.map_some, Option.some.injEq] at hengine
      rw [haccept, hbelief.session_eq_none hreach, Option.some_or] at hsession
      split at hsession
      · rename_i htoken
        rw [Option.some.injEq] at hsession
        subst hsession
        have hcommand : a'.pCommand = pCommand := by
          cases hevent
          rfl
        rw [hengine, Option.some_or, hcommand]
        exact ⟨rfl, rfl, htoken⟩
      · contradiction

/-- A block of a believing host keeps the beliefs true: nobody else believes, and
if the sender still does, its block left the offer in progress. -/
theorem beliefsHold_content {ts : List (HostTransition W n)} {sender : UInt8}
    {pCommand : FwUpdateContentCommand}
    (hsender : (session endsUpdate sender ts).isSome = true) (hbelief : BeliefsHold ts c)
    (hafter : (step P c (.content pCommand)).2 = some c') :
    BeliefsHold (ts ++ [transition (fun c e => step P c (HostEvent.toEvent e)) c
      (.content sender pCommand)]) c' := by
  intro host a hsession
  rw [session_append_singleton, believe] at hsession
  rw [lastHostAccepted_append_singleton]
  split at hsession
  · contradiction
  · rename_i hstops
    dsimp only [transition_event] at hsession
    split at hsession
    · contradiction
    · rename_i hnotFailed
      obtain ⟨a', hsenderSession⟩ := Option.isSome_iff_exists.mp hsender
      obtain ⟨-, hsame⟩ := hbelief.host_unique hsession hsenderSession
      have hsucceeded : (step P c (.content pCommand)).1.contentSucceeded = true := by
        cases hanswer : (step P c (.content pCommand)).1.contentSucceeded with
        | true => rfl
        | false => exact absurd ⟨hsame, hanswer⟩ hnotFailed
      have hexec := contentExec_step P c pCommand
      rw [hafter, Option.map_some] at hexec
      have hkept := hexec.keeps_currentOffer hsucceeded
        (readCompleted_of_not_endsUpdate (t := transition
          (fun c e => step P c (HostEvent.toEvent e)) c (.content sender pCommand)) rfl
          (by simpa using hstops))
      have hnone : hostAcceptance (transition (fun c e => step P c (HostEvent.toEvent e)) c
          (.content sender pCommand)) = none :=
        acceptance_content (P := P) (c := c) pCommand
      rw [hkept, hnone, Option.none_or]
      exact hbelief host a hsession

/-- One event of a disciplined schedule keeps the beliefs of careful hosts true. -/
theorem beliefsHold_step {ts : List (HostTransition W n)} {e : HostEvent n}
    (hsender : ∀ sender pCommand, e = .content sender pCommand →
      (session endsUpdate sender ts).isSome = true)
    (hbelief : BeliefsHold ts c) (hafter : (step P c e.toEvent).2 = some c') :
    BeliefsHold (ts ++ [transition (fun c e => step P c (HostEvent.toEvent e)) c e]) c' := by
  have hended : ∀ e : HostEvent n, (e = .readComplete ∨ e = .updateTimer) →
      BeliefsHold (ts ++ [transition (fun c e => step P c (HostEvent.toEvent e)) c e]) c' := by
    intro e he host a hsession
    rw [session_append_singleton, believe, if_pos (by rcases he with rfl | rfl <;> rfl)]
      at hsession
    contradiction
  cases e with
  | readComplete => exact hended _ (Or.inl rfl)
  | updateTimer => exact hended _ (Or.inr rfl)
  | offer pCommand pResponse => exact beliefsHold_offer hbelief hafter
  | content sender pCommand =>
      exact beliefsHold_content (hsender sender pCommand rfl) hbelief hafter

/-- In a disciplined schedule of careful hosts all beliefs hold. -/
theorem beliefsHold_of_run {es : List (HostEvent n)}
    (hreach : finalState (fun c e => step P c (HostEvent.toEvent e)) c es = some c')
    (hdisciplined : Disciplined endsUpdate (hostTrace P c es)) :
    BeliefsHold (hostTrace P c es) c' := by
  refine history_of_step
    (fun ts c => Disciplined endsUpdate ts → BeliefsHold ts c) ?_ ?_ hreach hdisciplined
  · intro _ host a h
    simp [session] at h
  · intro ts c₁ e c₂ ih hafter hdisciplined
    obtain ⟨hbefore, hsender⟩ := hdisciplined.of_append
    exact beliefsHold_step hsender (ih hbefore) hafter

end Careful

/-! ## Whose image a block is written to -/

section Write

variable {P : Platform W n} {c : Config W n} {es : List (HostEvent n)}
  {pre post : List (HostTransition W n)} {t : HostTransition W n}

/-- The state that a position of a schedule starts from. -/
theorem hostTrace_split (hsplit : hostTrace P c es = pre ++ t :: post) :
    ∃ es₁, pre = hostTrace P c es₁ ∧
      finalState (fun c e => step P c (HostEvent.toEvent e)) c es₁ = some t.before ∧
      lastHostAccepted pre = lastAccepted (engineTrace P c (es₁.map HostEvent.toEvent)) ∧
      finalState (step P) c (es₁.map HostEvent.toEvent) = some t.before := by
  obtain ⟨es₁, -, -, hpre, hreach, -⟩ := trace_split hsplit
  refine ⟨es₁, hpre, hreach, ?_, ?_⟩
  · rw [hpre, lastHostAccepted, trace_relabel]
  · rw [← finalState_relabel, hreach]

theorem Disciplined.at_split {stops : HostTransition W n → Bool}
    (h : Disciplined stops (pre ++ t :: post)) :
    Disciplined stops pre ∧
      ∀ sender pCommand, t.event = .content sender pCommand →
        (session stops sender pre).isSome = true := by
  refine Disciplined.of_append (t := t) ?_
  intro i u sender pCommand hi hevent
  have hlt : i < (pre ++ [t]).length := (List.getElem?_eq_some_iff.mp hi).1
  have hsession := h i u sender pCommand
    (by rw [List.append_cons, List.getElem?_append_left hlt, hi]) hevent
  rwa [List.append_cons, List.take_append_of_le_length hlt.le] at hsession

/-- Hosts send blocks only between the acceptance of their own offer and their
first block that is not answered with success.  Then every block is written to
the component of the most recently accepted offer.  If no host sends a block
after an expiry of the fail-safe timer or a completion callback either, that
offer is the sender's own. -/
theorem content_write_component (P : Platform W n) (c : Config W n) (es : List (HostEvent n))
    (hsplit : hostTrace P c es = pre ++ t :: post) {sender : UInt8}
    {pCommand : FwUpdateContentCommand} (hevent : t.event = .content sender pCommand)
    {offset : UInt32} {data : List UInt8} {length componentId : UInt8} {result : UInt32}
    (hwrite : .write offset data length componentId result ∈ t.output.calls) :
    (Disciplined stopsNever (hostTrace P c es) →
      ∃ a, lastHostAccepted pre = some a ∧
        componentId = a.pCommand.componentInfo.componentId) ∧
    (Disciplined endsUpdate (hostTrace P c es) →
      ∃ a, session endsUpdate sender pre = some a ∧ lastHostAccepted pre = some a ∧
        a.pCommand.componentInfo.token = sender ∧
        componentId = a.pCommand.componentInfo.componentId) := by
  obtain ⟨es₁, hpre, hreachHosts, hlastEq, hreach⟩ := hostTrace_split hsplit
  have hactive : componentId = t.before.engine.currentOffer.activeComponentId := by
    have htransition := eq_transition_of_mem_trace
      (show t ∈ hostTrace P c es by rw [hsplit]; simp)
    rw [htransition, transition_output, hevent] at hwrite
    exact (contentExec_step P t.before pCommand).servesCurrentOffer _ hwrite
  have hcomponent : ∀ a, lastHostAccepted pre = some a →
      componentId = a.pCommand.componentInfo.componentId := by
    intro a hlast
    rw [hlastEq] at hlast
    rw [hactive]
    exact (activeOffer_of_run hreach hlast).1
  constructor
  · intro hdisciplined
    rw [hsplit] at hdisciplined
    obtain ⟨-, hsender⟩ := hdisciplined.at_split
    obtain ⟨a, hlast⟩ := Option.isSome_iff_exists.mp
      (lastHostAccepted_isSome (hsender sender pCommand hevent))
    exact ⟨a, hlast, hcomponent a hlast⟩
  · intro hdisciplined
    rw [hsplit] at hdisciplined
    obtain ⟨hbefore, hsender⟩ := hdisciplined.at_split
    obtain ⟨a, hsession⟩ := Option.isSome_iff_exists.mp (hsender sender pCommand hevent)
    rw [hpre] at hbefore
    have hbeliefs := beliefsHold_of_run hreachHosts hbefore
    rw [← hpre] at hbeliefs
    obtain ⟨-, hlast, htoken⟩ := hbeliefs sender a hsession
    exact ⟨a, hsession, hlast, htoken, hcomponent a hlast⟩

end Write

/-- A product with two components, ids 1 and 2, that accept everything. -/
abbrev twoComponents : Platform Unit 2 :=
  acceptingPlatform fun r => if r = firstComponent then 1 else 2

/-- Both components are registered. -/
def bothRegistered : Config Unit 2 where
  engine := ((EngineState.powerOn fun _ => none).register (some firstComponent)).register
    (some secondComponent)
  world := ()

/-- Host 0xA has an offer for component 1 accepted and sends its first block. -/
def firstHostStarts : List (HostEvent 2) :=
  [.offer (.plain 1 0xA) .zero, .content 0xA (.block firmwareUpdateFlagFirstBlock 0 [0x11])]

/-- The timer expires, and host 0xB has an offer for component 2 accepted and sends its
first block. -/
def secondHostFollows : List (HostEvent 2) :=
  firstHostStarts ++ [.updateTimer, .offer (.plain 2 0xB) .zero,
    .content 0xB (.block firmwareUpdateFlagFirstBlock 0 [0x33])]

/-- The block of host 0xB is written into the image of its own offer, behind the session of
host 0xA. -/
theorem content_write_component_secondHost :
    ∃ pre t a, hostTrace twoComponents bothRegistered secondHostFollows = pre ++ t :: [] ∧
      .write 0 [0x33] 1 2 0 ∈ t.output.calls ∧
      (∃ a', lastHostAccepted pre = some a' ∧ 2 = a'.pCommand.componentInfo.componentId) ∧
      session endsUpdate 0xA pre = none ∧ session endsUpdate 0xB pre = some a ∧
      lastHostAccepted pre = some a ∧ a.pCommand.componentInfo.token = 0xB ∧
      a.pCommand.componentInfo.componentId = 2 := by
  have hdisciplined : ∀ stops, stops = stopsNever ∨ stops = endsUpdate → Disciplined stops
      (hostTrace twoComponents bothRegistered secondHostFollows) := by
    rintro stops hstops i t sender pCommand hi hevent
    rcases i with _ | _ | _ | _ | _ | i
    · cases hi
      cases hevent
    · cases hi
      cases hevent
      rcases hstops with rfl | rfl <;> rfl
    · cases hi
      cases hevent
    · cases hi
      cases hevent
    · cases hi
      cases hevent
      rcases hstops with rfl | rfl <;> rfl
    · contradiction
  have hwrite := content_write_component twoComponents bothRegistered secondHostFollows
    (show hostTrace twoComponents bothRegistered secondHostFollows =
      [_, _, _, _] ++ _ :: [] from rfl) rfl (List.mem_cons_of_mem _ List.mem_cons_self)
  have hlast := hwrite.1 (hdisciplined _ (.inl rfl))
  obtain ⟨a, hsession, haccepted, htoken, hcomponent⟩ := hwrite.2 (hdisciplined _ (.inr rfl))
  exact ⟨_, _, a, rfl, by decide, hlast, rfl, hsession, haccepted, htoken, hcomponent.symm⟩

/-- The timer expires silently, host 0xB has an offer for component 2 accepted,
and host 0xA sends its second block. -/
def lateBlock : List (HostEvent 2) :=
  firstHostStarts ++ [.updateTimer, .offer (.plain 2 0xB) .zero,
    .content 0xA (.block 0 1 [0x22])]

/-- Host 0xA keeps to its side, but its late block is written into the image of
host 0xB. -/
theorem late_block_written_to_other_image :
    Disciplined stopsNever (hostTrace twoComponents bothRegistered lateBlock) ∧
      ∃ pre t a, hostTrace twoComponents bothRegistered lateBlock = pre ++ t :: [] ∧
        t.event = .content 0xA (.block 0 1 [0x22]) ∧ session stopsNever 0xA pre = some a ∧
        a.pCommand.componentInfo.componentId = 1 ∧ .write 1 [0x22] 1 2 0 ∈ t.output.calls := by
  constructor
  · intro i t sender pCommand hi hevent
    rcases i with _ | _ | _ | _ | _ | i
    · cases hi
      cases hevent
    · cases hi
      cases hevent
      rfl
    · cases hi
      cases hevent
    · cases hi
      cases hevent
    · cases hi
      cases hevent
      rfl
    · contradiction
  · exact ⟨[_, _, _, _], _, _, rfl, rfl, rfl, rfl, by decide⟩

end Firmware
end CFU
