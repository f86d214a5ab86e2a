import CFU.Firmware.EngineRuns

/-!
# CFU firmware - the offer that an update is for

While an update is in progress the static variables describe one accepted
offer.  Content commands carry no component of their own, so this invariant
decides whose flash they change and whose completion function they call.

Main results:

- Theorem {lit}`registered_of_lookup`: the walk of the registration list finds
  only objects that the run registered.
- Theorem {lit}`updateInProgress_is_latest_acceptance`: an update in progress
  belongs to an accepted offer, and no handler was asked since.
- Theorem {lit}`currentOffer_invariant`: with all registrations done before the
  first offer, content commands serve that offer and its registration.
-/

namespace CFU
namespace Firmware

open EventRuns

variable {W : Type} {n : ℕ}

/-! ## The registration list along a run -/

/-- The event pushes an object on the registration list. -/
def Event.isRegistration : Event n → Bool
  | .registerComponent (some _) => true
  | _ => false

/-- The list starts in {lit}`S` and its links stay there. -/
def EngineState.ListedIn (s : EngineState n) (S : Set (Fin n)) : Prop :=
  (∀ r, s.pFirstComponentIFace = some r → r ∈ S) ∧
    ∀ r ∈ S, ∀ r', s.pNext r = some r' → r' ∈ S

section Step

variable {P : Platform W n} {c c' : Config W n} {e : Event n}

/-- The static variables that hold the registration list do not change. -/
def EngineState.SameList (s s' : EngineState n) : Prop :=
  s'.pFirstComponentIFace = s.pFirstComponentIFace ∧ s'.pNext = s.pNext

theorem EngineState.SameList.lookup_eq {s s' : EngineState n} (h : s.SameList s')
    (componentId : UInt8) : s'.lookup P componentId = s.lookup P componentId := by
  rw [EngineState.lookup, EngineState.lookup, h.1, h.2]

theorem EngineState.sameList_afterNotify (s : EngineState n) (result : NotifyResult) :
    s.SameList (s.afterNotify result) := by
  cases hcompleted : result.readCompleted <;> cases hstatus : mcuSuccess result.status <;>
    simp [EngineState.SameList, EngineState.afterNotify, EngineState.endUpdate, hcompleted,
      hstatus]

/-- Only registration changes the list. -/
theorem step_sameList (hkind : e.isRegistration = false) (hafter : (step P c e).2 = some c') :
    c.engine.SameList c'.engine := by
  cases e with
  | registerComponent pRegistration =>
      cases pRegistration with
      | some r => simp [Event.isRegistration] at hkind
      | none =>
          rw [step_registerComponent, Option.some.injEq] at hafter
          subst hafter
          exact ⟨rfl, rfl⟩
  | firmwareUpdateInit => cases hafter; exact ⟨rfl, rfl⟩
  | readComplete => cases hafter; exact ⟨rfl, rfl⟩
  | updateTimer => cases hafter; exact ⟨rfl, rfl⟩
  | offer pCommand pResponse =>
      cases haccept : acceptance (transition (step P) c (.offer pCommand pResponse)) with
      | none => rw [(step_offer_of_acceptance_none haccept hafter).1]; exact ⟨rfl, rfl⟩
      | some a =>
          obtain ⟨-, -, -, -, -, hengine⟩ := step_of_acceptance haccept
          rw [hafter, Option.map_some, Option.some.injEq] at hengine
          rw [hengine]
          exact ⟨rfl, rfl⟩
  | content pCommand =>
      have hexec := contentExec_step P c pCommand
      rw [hafter, Option.map_some] at hexec
      rcases hexec.after_cases with hsame | hended | ⟨result, hnotified⟩
      · rw [hsame]
        exact ⟨rfl, rfl⟩
      · rw [hended]
        exact ⟨rfl, rfl⟩
      · rw [hnotified]
        exact EngineState.sameList_afterNotify _ result

/-- Pushing an object keeps the list in any set that holds the object. -/
theorem EngineState.ListedIn.register {s : EngineState n} {S : Set (Fin n)}
    (h : s.ListedIn S) {r : Fin n} : (s.register (some r)).ListedIn (insert r S) := by
  constructor
  · intro r' hr'
    simp only [EngineState.register, Option.some.injEq] at hr'
    rw [← hr']
    exact Set.mem_insert r S
  · intro r' hr' r'' hlink
    by_cases hr : r' = r
    · subst hr
      simp only [EngineState.register, Function.update_self] at hlink
      exact Set.mem_insert_of_mem _ (h.1 r'' hlink)
    · simp only [EngineState.register, Function.update_of_ne hr] at hlink
      have hmem : r' ∈ S := (Set.mem_insert_iff.mp hr').resolve_left hr
      exact Set.mem_insert_of_mem _ (h.2 r' hmem r'' hlink)

end Step

section Run

variable {P : Platform W n} {c : Config W n} {es : List (Event n)}
  {pNext : Fin n → Option (Fin n)} {world : W}

/-- The registration objects that the events register. -/
def registered (es : List (Event n)) : Set (Fin n) :=
  {r | .registerComponent (some r) ∈ es}

/-- From power on, the list holds only objects that were registered. -/
theorem listedIn_registered
    (hreach : finalState (step P) (Config.powerOn pNext world) es = some c) :
    c.engine.ListedIn (registered es) := by
  refine finalState_induction
    (motive := fun es (c : Config W n) => c.engine.ListedIn (registered es)) ?_ ?_ hreach
  · simp [EngineState.ListedIn, Config.powerOn, EngineState.powerOn, registered]
  · intro es c₁ e c₂ _ hlisted hstep
    have hsubset : registered es ⊆ registered (es ++ [e]) :=
      fun r hr => List.mem_append_left _ hr
    by_cases hkind : e.isRegistration = true
    · cases e with
      | registerComponent pRegistration =>
          cases pRegistration with
          | none => simp [Event.isRegistration] at hkind
          | some r =>
              rw [step_registerComponent, Option.some.injEq] at hstep
              have heq : registered (es ++ [.registerComponent (some r)]) =
                  insert r (registered es) := by
                ext r'
                simp [registered, or_comm]
              rw [heq, ← hstep]
              exact hlisted.register
      | firmwareUpdateInit => simp [Event.isRegistration] at hkind
      | readComplete => simp [Event.isRegistration] at hkind
      | updateTimer => simp [Event.isRegistration] at hkind
      | offer => simp [Event.isRegistration] at hkind
      | content => simp [Event.isRegistration] at hkind
    · have hsame := step_sameList (by simpa using hkind) hstep
      have heq : registered (es ++ [e]) = registered es := by
        ext r
        simp only [registered, List.mem_append, List.mem_singleton, Set.mem_ofPred_eq]
        constructor
        · rintro (hr | hr)
          · exact hr
          · exact absurd rfl (hr ▸ hkind)
        · exact Or.inl
      rw [heq]
      exact ⟨hsame.1 ▸ hlisted.1, hsame.2 ▸ hlisted.2⟩

/-- The walk of the list finds only objects that were registered. -/
theorem registered_of_lookup
    (hreach : finalState (step P) (Config.powerOn pNext world) es = some c)
    {componentId : UInt8} {r : Fin n} (hlookup : c.engine.lookup P componentId = some (some r)) :
    r ∈ registered es := by
  have hlisted := listedIn_registered hreach
  exact IntrusiveList.find_mem_of_closed hlisted.1 hlisted.2 hlookup

end Run

/-! ## The latest accepted offer -/

/-- The transitions end with an acceptance, after which no handler was asked. -/
def LatestAcceptance (ts : List (EngineTransition W n)) (a : Acceptance n) : Prop :=
  ∃ pre t post, ts = pre ++ t :: post ∧ acceptance t = some a ∧
    ∀ u ∈ post, ∀ call ∈ u.output.calls, call.isProcessOffer = false

/-- A transition that asked no handler accepted no offer. -/
theorem acceptance_eq_none_of_calls {t : EngineTransition W n}
    (h : ∀ call ∈ t.output.calls, call.isProcessOffer = false) : acceptance t = none := by
  unfold acceptance
  split
  · rename_i hcalls
    rw [hcalls] at h
    have hhandler := h _ List.mem_cons_self
    simp [Call.isProcessOffer] at hhandler
  · rfl

theorem LatestAcceptance.lastAccepted_eq {ts : List (EngineTransition W n)} {a : Acceptance n}
    (h : LatestAcceptance ts a) : lastAccepted ts = some a := by
  obtain ⟨pre, t, post, rfl, haccept, hpost⟩ := h
  have hnone : post.filterMap acceptance = [] := by
    rw [List.filterMap_eq_nil_iff]
    exact fun u hu => acceptance_eq_none_of_calls (hpost u hu)
  simp [lastAccepted, haccept, hnone]

/-- The latest acceptance before a position of a trace has a position of its own. -/
theorem LatestAcceptance.position {ts : List (EngineTransition W n)} {j : ℕ} {a : Acceptance n}
    (h : LatestAcceptance (ts.take j) a) :
    ∃ k v, ts[k]? = some v ∧ acceptance v = some a ∧
      ∀ m w, k < m → m < j → ts[m]? = some w → acceptance w = none := by
  obtain ⟨pre, v, post, hsplit, haccept, hpost⟩ := h
  have hbelow : ∀ m, m < j → ts[m]? = (pre ++ v :: post)[m]? := by
    intro m hm
    rw [← hsplit, List.getElem?_take_of_lt hm]
  have hlength : pre.length < j := by
    have hlen := congrArg List.length hsplit
    rw [List.length_take, List.length_append, List.length_cons] at hlen
    omega
  refine ⟨pre.length, v, ?_, haccept, ?_⟩
  · rw [hbelow _ hlength]
    simp
  · intro m w hkm hmj hw
    rw [hbelow m hmj, List.getElem?_append_right (by omega)] at hw
    have hmem : w ∈ post := by
      obtain ⟨d, hd⟩ : ∃ d, m - pre.length = d + 1 := ⟨m - pre.length - 1, by omega⟩
      rw [hd, List.getElem?_cons_succ] at hw
      exact List.mem_of_getElem? hw
    exact acceptance_eq_none_of_calls (hpost w hmem)

section Latest

variable {P : Platform W n} {c c' : Config W n} {e : Event n} {es : List (Event n)}
  {pNext : Fin n → Option (Fin n)} {world : W}

/-- While an update is in progress no handler is asked. -/
theorem step_isProcessOffer_of_updateInProgress
    (hbusy : c.engine.currentOffer.updateInProgress = true) :
    ∀ call ∈ (step P c e).1.calls, call.isProcessOffer = false := by
  cases e with
  | registerComponent => simp
  | firmwareUpdateInit => simp [Call.isProcessOffer]
  | readComplete => simp
  | updateTimer => simp [Call.isProcessOffer]
  | content pCommand =>
      intro call hcall
      have hserves := (contentExec_step P c pCommand).servesCurrentOffer call hcall
      cases call with
      | processOffer => exact hserves.elim
      | _ => rfl
  | offer pCommand pResponse =>
      have hexec := offerExec_step P c pCommand pResponse
      generalize step P c (.offer pCommand pResponse) = result at hexec
      rcases result with ⟨output, after⟩
      have hunreached : c.engine.reachesList pCommand = false := by
        simp [EngineState.reachesList, hbusy]
      cases hexec with
      | busy => simp
      | ready => simp
      | swapPending => simp
      | endlessWalk => simp
      | notRegistered => simp
      | declined hreach => simp [hunreached] at hreach
      | accepted hreach => simp [hunreached] at hreach

/-- A step that leaves an update in progress either accepted its offer or found
it in progress, and then it left the current offer alone. -/
theorem step_updateInProgress (hafter : (step P c e).2 = some c')
    (hactive : c'.engine.currentOffer.updateInProgress = true) :
    (∃ a, acceptance (transition (step P) c e) = some a) ∨
      (c.engine.currentOffer.updateInProgress = true ∧
        c'.engine.currentOffer = c.engine.currentOffer) := by
  cases haccept : acceptance (transition (step P) c e) with
  | some a => exact .inl ⟨a, rfl⟩
  | none =>
      rcases step_currentOffer haccept hafter with hsame | hended
      · exact .inr ⟨hsame ▸ hactive, hsame⟩
      · rw [hended] at hactive
        contradiction

/-- From power on, an update in progress belongs to an accepted offer, and no
handler was asked since that offer was accepted. -/
theorem updateInProgress_is_latest_acceptance
    (hreach : finalState (step P) (Config.powerOn pNext world) es = some c)
    (hactive : c.engine.currentOffer.updateInProgress = true) :
    ∃ a, LatestAcceptance (engineTrace P (Config.powerOn pNext world) es) a := by
  refine history_of_step
    (fun pre (c : Config W n) => c.engine.currentOffer.updateInProgress = true →
      ∃ a, LatestAcceptance pre a) ?_ ?_ hreach hactive
  · intro h
    simp [Config.powerOn, EngineState.powerOn] at h
  · intro pre c₁ e c₂ hpre hstep hactive
    rcases step_updateInProgress hstep hactive with ⟨a, haccept⟩ | ⟨hbusy, -⟩
    · exact ⟨a, pre, _, [], rfl, haccept, by simp⟩
    · obtain ⟨a, pre₁, t, post, rfl, haccept, hpost⟩ := hpre hbusy
      refine ⟨a, pre₁, t, post ++ [transition (step P) c₁ e], by simp, haccept, ?_⟩
      intro u hu
      rcases List.mem_append.mp hu with hu | hu
      · exact hpost u hu
      · rw [List.mem_singleton] at hu
        rw [hu]
        exact step_isProcessOffer_of_updateInProgress hbusy

end Latest

/-! ## The invariant of the current offer -/

/-- No object is registered once an offer was made. -/
def RegistrationsFirst (es : List (Event n)) : Prop :=
  es.Pairwise fun earlier later => earlier.isOffer = true → later.isRegistration = false

/-- The static variables describe the accepted offer {lit}`a`, which is the latest
one, and its component is the registered one that accepted it. -/
structure DescribesOffer (P : Platform W n) (es : List (Event n))
    (ts : List (EngineTransition W n)) (s : EngineState n) (a : Acceptance n) : Prop where
  latest : LatestAcceptance ts a
  activeComponentId_eq :
    s.currentOffer.activeComponentId = a.pCommand.componentInfo.componentId
  forceReset_eq : s.currentOffer.forceReset = a.pCommand.componentInfo.forceImmediateReset
  found : s.lookup P s.currentOffer.activeComponentId = some (some a.pRegistration)
  registered : a.pRegistration ∈ registered es
  component : (P.registration a.pRegistration).componentId = s.currentOffer.activeComponentId
  answer : a.reply.status = firmwareUpdateOfferAccept ∨
    (a.reply.status = firmwareUpdateOfferReject ∧
      a.reply.rejectReasonCode = firmwareOfferRejectOldFw ∧
      a.pCommand.componentInfo.forceIgnoreVersion = true)

/-- A call that content processing makes for the offer {lit}`a`. -/
def Call.IsFor (a : Acceptance n) : Call n → Prop
  | .prepare componentId _ => componentId = a.pCommand.componentInfo.componentId
  | .write _ _ _ componentId _ => componentId = a.pCommand.componentInfo.componentId
  | .calcCRC componentId _ _ => componentId = a.pCommand.componentInfo.componentId
  | .read _ _ componentId _ _ => componentId = a.pCommand.componentInfo.componentId
  | .getCrcOffset r _ _ => r = a.pRegistration
  | .notifySuccess r forceReset _ =>
      r = a.pRegistration ∧ forceReset = a.pCommand.componentInfo.forceImmediateReset
  | .authenticateFWImage _ => True
  | .processOffer .. => False
  | .timerCreate _ | .timerRestart _ | .timerStop _ => False

section Invariant

variable {P : Platform W n} {c : Config W n} {es : List (Event n)}
  {pNext : Fin n → Option (Fin n)} {world : W}

/-- The registration that accepted the latest offer is still the one that a
search for the active component finds. -/
theorem lookup_of_registrationsFirst (hfirst : RegistrationsFirst es)
    (hreach : finalState (step P) (Config.powerOn pNext world) es = some c)
    (hactive : c.engine.currentOffer.updateInProgress = true) {a : Acceptance n}
    (hlast : lastAccepted (engineTrace P (Config.powerOn pNext world) es) = some a) :
    c.engine.lookup P c.engine.currentOffer.activeComponentId = some (some a.pRegistration) := by
  refine finalState_induction
    (motive := fun es (c : Config W n) => RegistrationsFirst es →
      c.engine.currentOffer.updateInProgress = true → ∀ a,
      lastAccepted (engineTrace P (Config.powerOn pNext world) es) = some a →
      c.engine.lookup P c.engine.currentOffer.activeComponentId = some (some a.pRegistration))
    ?_ ?_ hreach hfirst hactive a hlast
  · simp
  · intro es c₁ e c₂ hreach₁ ih hstep hfirst hactive a hlast
    rw [engineTrace, trace_append_singleton e hreach₁, lastAccepted_append_singleton] at hlast
    obtain ⟨hfirst₁, -, hlater⟩ := List.pairwise_append.mp hfirst
    cases haccept : acceptance (transition (step P) c₁ e) with
    | some a' =>
        rw [haccept, Option.some_or, Option.some.injEq] at hlast
        subst hlast
        obtain ⟨-, -, hlookup, -, -, hengine⟩ := step_of_acceptance haccept
        rw [hstep, Option.map_some, Option.some.injEq] at hengine
        rw [hengine]
        exact hlookup
    | none =>
        rcases step_updateInProgress hstep hactive with ⟨a', ha'⟩ | ⟨hbusy, hsame⟩
        · rw [haccept] at ha'
          contradiction
        · rw [haccept, Option.none_or] at hlast
          -- the accepted offer is an event of the run, so no registration follows it
          have hoffer : ∃ e' ∈ es, e'.isOffer = true := by
            obtain ⟨t, ht, hta⟩ := List.mem_filterMap.mp (List.mem_of_getLast? hlast)
            have heq := eq_transition_of_mem_trace ht
            rw [heq] at hta
            obtain ⟨⟨pResponse, hevent⟩, -⟩ := step_of_acceptance hta
            exact ⟨t.event, event_mem_of_mem_trace ht, by rw [hevent]; rfl⟩
          obtain ⟨e', he', hoffer⟩ := hoffer
          have hkind := hlater e' he' e (by simp) hoffer
          rw [hsame, (step_sameList hkind hstep).lookup_eq]
          exact ih hfirst₁ hbusy a hlast

/-- In a run whose registrations all come before the first offer, an update in
progress is for the latest accepted offer: the static variables describe that
offer, and a content command passes its component to every call and asks and
notifies the registration that accepted it. -/
theorem currentOffer_invariant (P : Platform W n) (pNext : Fin n → Option (Fin n)) (world : W)
    (es : List (Event n)) (hfirst : RegistrationsFirst es)
    (hreach : finalState (step P) (Config.powerOn pNext world) es = some c)
    (hactive : c.engine.currentOffer.updateInProgress = true) :
    ∃ a, DescribesOffer P es (engineTrace P (Config.powerOn pNext world) es) c.engine a ∧
      ∀ pCommand, ∀ call ∈ (step P c (.content pCommand)).1.calls, call.IsFor a := by
  obtain ⟨a, hlatest⟩ := updateInProgress_is_latest_acceptance hreach hactive
  have hlast := hlatest.lastAccepted_eq
  have hlookup := lookup_of_registrationsFirst hfirst hreach hactive hlast
  obtain ⟨hcomponent, hforce⟩ := activeOffer_of_run hreach hlast
  have hanswer : acceptsReply a.pCommand a.reply = true := by
    obtain ⟨t, ht, hta⟩ := List.mem_filterMap.mp (List.mem_of_getLast? hlast)
    rw [eq_transition_of_mem_trace ht] at hta
    exact (step_of_acceptance hta).2.2.2.1
  refine ⟨a, ?_, ?_⟩
  · exact
      { latest := hlatest
        activeComponentId_eq := hcomponent
        forceReset_eq := hforce
        found := hlookup
        registered := registered_of_lookup hreach hlookup
        component := EngineState.lookup_componentId P hlookup
        answer := (acceptsReply_iff _ _).mp hanswer }
  · intro pCommand call hcall
    have hserves := (contentExec_step P c pCommand).servesCurrentOffer call hcall
    cases call with
    | prepare => exact Eq.trans hserves hcomponent
    | write => exact Eq.trans hserves hcomponent
    | calcCRC => exact Eq.trans hserves hcomponent
    | read => exact Eq.trans hserves hcomponent
    | getCrcOffset r =>
        have hsome : r = a.pRegistration := by
          simpa using (hlookup.symm.trans hserves).symm
        exact hsome
    | notifySuccess r forceReset =>
        have hsome : r = a.pRegistration := by
          simpa using (hlookup.symm.trans hserves.1).symm
        exact ⟨hsome, hserves.2.trans hforce⟩
    | authenticateFWImage => trivial
    | processOffer => exact hserves
    | timerCreate => exact hserves
    | timerRestart => exact hserves
    | timerStop => exact hserves

end Invariant

/-- Register two objects for component 1 and have an offer accepted. -/
def offerToSharedId : List (Event 2) :=
  [.registerComponent (some firstComponent), .registerComponent (some secondComponent),
    .offer (.plain 1 0) .zero]

/-- With two objects for one component, the one registered last accepts and is
the one to be notified. -/
theorem currentOffer_invariant_sharedId :
    ∃ c a, finalState (step (acceptingPlatform fun _ => 1)) (Config.powerOn (fun _ => none) ())
        offerToSharedId = some c ∧
      DescribesOffer (acceptingPlatform fun _ => 1) offerToSharedId
        (engineTrace (acceptingPlatform fun _ => 1) (Config.powerOn (fun _ => none) ())
          offerToSharedId) c.engine a ∧
      ∀ pCommand, ∀ call ∈ (step (acceptingPlatform fun _ => 1) c (.content pCommand)).1.calls,
        call.IsFor a := by
  have hfirst : RegistrationsFirst offerToSharedId := by
    unfold RegistrationsFirst offerToSharedId
    decide
  have hreach : finalState (step (acceptingPlatform fun _ => 1))
      (Config.powerOn (fun _ => none) ()) offerToSharedId = some _ := rfl
  obtain ⟨a, hdescribes, hcalls⟩ := currentOffer_invariant (acceptingPlatform fun _ => 1)
    (fun _ => none) () offerToSharedId hfirst hreach rfl
  exact ⟨_, a, hreach, hdescribes, hcalls⟩

end Firmware
end CFU
