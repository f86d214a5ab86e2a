import CFU.Firmware.EngineRuns

/-!
# CFU firmware - the image that becomes pending

The flag {lit}`s_bankSwapPending` promises that the written image was checked.
This file shows what a run did when the flag is set, and that nothing guards
the flash against content commands before an offer or after that moment.

Main results:

- Theorem {lit}`swapPending_only_after_validation`: the flag is set only by a
  last block whose checks all passed, and no run notifies through a null pointer.
- Theorem {lit}`content_while_idle_changesFlash`: a content command without an
  update in progress always reaches the flash.
- Theorem {lit}`pending_image_kept_iff`: the pending image is left alone exactly
  in the runs that send no content command once it is pending.
-/

namespace CFU
namespace Firmware

open EventRuns

variable {W : Type} {n : ℕ}

/-! ## What sets the flag -/

/-- A last block whose image passed every check and whose component was notified
with success.  The list of calls shows each argument and each result. -/
structure ImageValidated (P : Platform W n) (t : EngineTransition W n)
    (pCommand : FwUpdateContentCommand) (r : Fin n) (status : McuStatus) (offset : UInt32)
    (crc : UInt16) (result : NotifyResult) : Prop where
  event_eq : t.event = .content pCommand
  last : pCommand.isLastBlock = true
  notFirst : pCommand.isFirstBlock = false
  found : t.before.engine.lookup P t.before.engine.currentOffer.activeComponentId =
    some (some r)
  component : (P.registration r).componentId = t.before.engine.currentOffer.activeComponentId
  crcOffset : mcuSuccess status = true
  notified : mcuSuccess result.status = true
  calls_eq : t.output.calls =
    blockWrite t.before.engine pCommand 0 ::
      (validationCalls r t.before.engine.currentOffer.activeComponentId status offset crc ++
        [.notifySuccess r t.before.engine.currentOffer.forceReset result])

section Step

variable {P : Platform W n} {c c' : Config W n} {e : Event n}

/-- A step that sets the flag validated an image. -/
theorem step_imageValidated (hclear : c.engine.bankSwapPending = false)
    (hafter : (step P c e).2 = some c') (hset : c'.engine.bankSwapPending = true) :
    ∃ pCommand r status offset crc result,
      ImageValidated P (transition (step P) c e) pCommand r status offset crc result := by
  cases haccept : acceptance (transition (step P) c e) with
  | some a =>
      obtain ⟨-, -, -, -, -, hengine⟩ := step_of_acceptance haccept
      rw [hafter, Option.map_some, Option.some.injEq] at hengine
      rw [hengine, EngineState.startUpdate_bankSwapPending, hclear] at hset
      contradiction
  | none =>
      cases e with
      | offer pCommand pResponse =>
          rw [(step_offer_of_acceptance_none haccept hafter).1, hclear] at hset
          contradiction
      | registerComponent pRegistration =>
          rw [step_registerComponent, Option.some.injEq] at hafter
          rw [← hafter, EngineState.register_bankSwapPending, hclear] at hset
          contradiction
      | firmwareUpdateInit => cases hafter; simp [hclear] at hset
      | readComplete => cases hafter; simp [hclear] at hset
      | updateTimer => cases hafter; simp [hclear] at hset
      | content pCommand =>
          have hexec := contentExec_step P c pCommand
          rw [hafter, Option.map_some] at hexec
          rcases hstep : (step P c (.content pCommand)).1 with ⟨calls, response⟩
          rw [hstep] at hexec
          generalize hengine : c'.engine = s' at hexec hset
          have hstatus : ∀ status, (c.engine.afterStatus status).bankSwapPending = false := by
            intro status
            unfold EngineState.afterStatus
            split <;> simp [hclear]
          cases hexec with
          | prepareFailed => simp [hclear] at hset
          | firstBlock => simp [hstatus] at hset
          | middleBlock => simp [hstatus] at hset
          | lastWriteFailed => simp [hclear] at hset
          | rejected => simp [hclear] at hset
          | notified result hfirst hlast hlookup hcrcOffset =>
              rw [EngineState.afterNotify_bankSwapPending, hclear, Bool.false_or] at hset
              exact ⟨pCommand, _, _, _, _, result,
                { event_eq := rfl
                  last := hlast
                  notFirst := hfirst
                  found := hlookup
                  component := EngineState.lookup_componentId P hlookup
                  crcOffset := hcrcOffset
                  notified := hset
                  calls_eq := congrArg Output.calls hstep }⟩

/-- No entry point notifies a component through a null pointer. -/
theorem step_response_ne_nullDereference (P : Platform W n) (c : Config W n) (e : Event n) :
    (step P c e).1.response ≠ .error .nullDereference := by
  cases e with
  | registerComponent => simp
  | firmwareUpdateInit => simp
  | readComplete => simp
  | updateTimer => simp
  | offer pCommand pResponse =>
      have hexec := offerExec_step P c pCommand pResponse
      generalize step P c (.offer pCommand pResponse) = result at hexec
      rcases result with ⟨output, after⟩
      cases hexec <;> simp
  | content pCommand =>
      have hexec := contentExec_step P c pCommand
      generalize step P c (.content pCommand) = result at hexec
      rcases result with ⟨output, after⟩
      generalize after.map Config.engine = engineAfter at hexec
      cases hexec <;> simp

end Step

/-- In every run the flag is set only by a last block whose write succeeded,
whose registration was found, whose CRC and authentication checks passed and
whose component reported success; and no component is notified through a null
pointer. -/
theorem swapPending_only_after_validation (P : Platform W n) (c : Config W n)
    (es : List (Event n)) {t : EngineTransition W n} (ht : t ∈ engineTrace P c es) :
    (t.before.engine.bankSwapPending = false →
      (∃ c', t.after = some c' ∧ c'.engine.bankSwapPending = true) →
      ∃ pCommand r status offset crc result,
        ImageValidated P t pCommand r status offset crc result) ∧
      t.output.response ≠ .error .nullDereference := by
  have heq := eq_transition_of_mem_trace ht
  constructor
  · rintro hclear ⟨c', hafter, hset⟩
    rw [heq] at hafter ⊢
    exact step_imageValidated hclear hafter hset
  · rw [heq]
    exact step_response_ne_nullDereference P _ _

/-- The last block of an accepted image sets the flag. -/
theorem swapPending_only_after_validation_oneBlock :
    ∃ t ∈ sampleTrace oneBlockUpdate, ∃ pCommand r status offset crc result,
      ImageValidated (acceptingPlatform fun _ => 1) t pCommand r status offset crc result := by
  refine ⟨_, List.mem_of_getElem? (i := 2) rfl, ?_⟩
  exact (swapPending_only_after_validation (acceptingPlatform fun _ => 1)
    (Config.powerOn (fun _ => none) ()) oneBlockUpdate
    (List.mem_of_getElem? (i := 2) rfl)).1 rfl ⟨_, rfl, rfl⟩

/-! ## Content without an update -/

/-- A content command that was turned away: neither the flash nor a component
was touched, the static variables are as before, and the answer is an error. -/
def ContentTurnedAway (t : EngineTransition W n) : Prop :=
  (∀ call ∈ t.output.calls, call.changesFlash = false ∧ call.isNotifySuccess = false) ∧
    t.after.map Config.engine = some t.before.engine ∧
    ∃ pResponse, t.output.response = .ok (.content pResponse) ∧
      pResponse.status ≠ firmwareUpdateStatusSuccess

/-- No run turns a content command away when no update is in progress: the
flash is always reached. -/
theorem content_while_idle_changesFlash (P : Platform W n) (c : Config W n)
    (es : List (Event n)) :
    ∀ t ∈ engineTrace P c es, t.event.isContent = true →
      t.before.engine.currentOffer.updateInProgress = false → ¬ ContentTurnedAway t := by
  rintro t ht hcontent - ⟨hcalls, -, -⟩
  have heq := eq_transition_of_mem_trace ht
  obtain ⟨pCommand, hevent⟩ := Event.isContent_iff.mp hcontent
  obtain ⟨call, hmem, hflash⟩ := content_changesFlash P t.before pCommand
  rw [heq, hevent] at hcalls
  have hkept := (hcalls call hmem).1
  rw [hflash] at hkept
  contradiction

/-- Content that is sent before any offer. -/
def unsolicitedContent : List (Event 1) :=
  [.registerComponent (some onlyComponent), .content (.block 0 0 [0xAA])]

theorem content_while_idle_changesFlash_unsolicited :
    ∃ t ∈ sampleTrace unsolicitedContent, ¬ ContentTurnedAway t :=
  ⟨_, List.mem_of_getElem? (i := 1) rfl,
    content_while_idle_changesFlash (acceptingPlatform fun _ => 1)
      (Config.powerOn (fun _ => none) ()) unsolicitedContent _
      (List.mem_of_getElem? (i := 1) rfl) rfl rfl⟩

/-- Content before any offer is written to the flash of component 0, which
nobody registered, and answered with success. -/
theorem unsolicited_content_written :
    ¬ ∀ t ∈ sampleTrace unsolicitedContent, t.event.isContent = true →
        t.before.engine.currentOffer.updateInProgress = false → ContentTurnedAway t := by
  intro h
  have haway := h _ (List.mem_of_getElem? (i := 1) rfl) rfl rfl
  have hwrite := (haway.1 (.write 0 [0xAA] 1 0 0) (by decide)).1
  contradiction

/-! ## Content behind a pending image -/

/-- The transition that makes an image the pending one. -/
def SetsSwapPending (t : EngineTransition W n) : Prop :=
  t.before.engine.bankSwapPending = false ∧
    ∃ c', t.after = some c' ∧ c'.engine.bankSwapPending = true

/-- From the moment an image is pending, the flash is left alone exactly as long
as no content command arrives. -/
theorem pending_image_kept_iff (P : Platform W n) (c : Config W n) (es : List (Event n))
    {pre post : List (EngineTransition W n)} {t : EngineTransition W n}
    (hsplit : engineTrace P c es = pre ++ t :: post) (_hset : SetsSwapPending t) :
    (∀ u ∈ post, ∀ call ∈ u.output.calls, call.changesFlash = false) ↔
      ∀ u ∈ post, u.event.isContent = false := by
  have hstep := eq_transition_of_mem_post hsplit
  constructor
  · intro hkept u hu
    cases hevent : u.event with
    | content pCommand =>
        obtain ⟨call, hmem, hflash⟩ := content_changesFlash P u.before pCommand
        have hcall : call ∈ u.output.calls := by
          rw [hstep u hu, hevent]
          exact hmem
        rw [hkept u hu call hcall] at hflash
        contradiction
    | _ => rfl
  · intro hquiet u hu call hcall
    rw [hstep u hu] at hcall
    exact (step_calls_of_not_content P u.before (hquiet u hu) call hcall).1

/-- The image of one block, and one more block after it. -/
def blockAfterUpdate : List (Event 1) :=
  oneBlockUpdate ++ [.content (.block 0 0 [0xBB])]

theorem pending_image_kept_iff_readComplete :
    ∃ pre t u, sampleTrace (oneBlockUpdate ++ [.readComplete]) = pre ++ t :: [u] ∧
      SetsSwapPending t ∧ ∀ v ∈ [u], ∀ call ∈ v.output.calls, call.changesFlash = false := by
  refine ⟨[_, _], _, _, rfl, ⟨rfl, _, rfl, rfl⟩, ?_⟩
  refine (pending_image_kept_iff (acceptingPlatform fun _ => 1)
    (Config.powerOn (fun _ => none) ()) (oneBlockUpdate ++ [.readComplete])
    (show sampleTrace (oneBlockUpdate ++ [.readComplete]) = [_, _] ++ _ :: [_] from rfl)
    ⟨rfl, _, rfl, rfl⟩).mpr ?_
  intro v hv
  rw [List.mem_singleton] at hv
  rw [hv]
  rfl

/-- A block that follows the last one overwrites the validated image. -/
theorem pending_image_overwritten :
    ∃ pre t post, sampleTrace blockAfterUpdate = pre ++ t :: post ∧ SetsSwapPending t ∧
      ¬ ∀ u ∈ post, ∀ call ∈ u.output.calls, call.changesFlash = false := by
  refine ⟨[_, _], _, [_], rfl, ⟨rfl, _, rfl, rfl⟩, ?_⟩
  intro h
  have hwrite := h _ List.mem_cons_self (.write 0 [0xBB] 1 1 0) (by decide)
  contradiction

end Firmware
end CFU
