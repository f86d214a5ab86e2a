import CFU.Firmware.CallLog
import CFU.Library.Stores
import Mathlib.Logic.Function.Basic

/-!
# CFU firmware - what the flash holds

A product keeps one image per component.  A successful prepare erases the image of its
component, a successful write stores its block at its offset, and a call that fails may
leave anything in the image that it was for.  No other call touches an image.

Main results:

- Relation {lit}`FlashStep`: what one call does to the images.
- Theorem {lit}`flash_of_writes`: writes in a row are stores in a row.
- Theorem {lit}`flash_untouched_without_acceptance`: in every run, the image of a
  component for which no offer is accepted stays as it was.
-/

namespace CFU
namespace Firmware

open EventRuns LabelledPaths Stores

variable {W : Type} {n : ℕ}

/-! ## Images -/

/-- The image of every component, cell by cell. -/
abbrev Flash :=
  UInt8 → ℕ → UInt8

/-- A call for one component leaves the images of the others. -/
def Flash.SameBut (componentId : UInt8) (flash flash' : Flash) : Prop :=
  ∀ other, other ≠ componentId → flash' other = flash other

/-- What a call does to the images. -/
def FlashStep (erased : ℕ → UInt8) (flash : Flash) (call : Call n) (flash' : Flash) : Prop :=
  match call with
  | .prepare componentId result =>
      Flash.SameBut componentId flash flash' ∧ (result = 0 → flash' componentId = erased)
  | .write offset data _ componentId result =>
      Flash.SameBut componentId flash flash' ∧
        (result = 0 → flash' componentId =
          Store.apply (flash componentId) ⟨offset.toNat, data⟩)
  | _ => flash' = flash

section Step

variable {erased : ℕ → UInt8} {flash flash' : Flash}

/-- One image is replaced. -/
theorem Flash.SameBut.eq_update {componentId : UInt8} (h : flash.SameBut componentId flash') :
    flash' = Function.update flash componentId (flash' componentId) := by
  ext other a
  by_cases hother : other = componentId
  · subst hother
    rw [Function.update_self]
  · rw [Function.update_of_ne hother, h other hother]

theorem flashStep_of_quiet {call : Call n} (hquiet : call.changesFlash = false)
    (h : FlashStep erased flash call flash') : flash' = flash := by
  cases call with
  | prepare => simp [Call.changesFlash] at hquiet
  | write => simp [Call.changesFlash] at hquiet
  | _ => exact h

theorem flashStep_prepare {componentId : UInt8}
    (h : FlashStep (n := n) erased flash (.prepare componentId 0) flash') :
    flash' = Function.update flash componentId erased := by
  obtain ⟨hothers, hprepared⟩ := h
  rw [hothers.eq_update, hprepared rfl]

theorem flashStep_write {offset : UInt32} {data : List UInt8} {length componentId : UInt8}
    (h : FlashStep (n := n) erased flash (.write offset data length componentId 0) flash') :
    flash' = Function.update flash componentId
      (Store.apply (flash componentId) ⟨offset.toNat, data⟩) := by
  obtain ⟨hothers, hwritten⟩ := h
  rw [hothers.eq_update, hwritten rfl]

/-- The component that the call is for, when it may change an image. -/
def Call.flashes (componentId : UInt8) : Call n → Bool
  | .prepare id _ => id == componentId
  | .write _ _ _ id _ => id == componentId
  | _ => false

theorem flashStep_of_not_flashes {call : Call n} {componentId : UInt8}
    (hother : call.flashes componentId = false) (h : FlashStep erased flash call flash') :
    flash' componentId = flash componentId := by
  have hne : ∀ id, (id == componentId) = false → componentId ≠ id := by
    rintro id hid rfl
    simp at hid
  cases call with
  | prepare id result => exact h.1 componentId (hne id hother)
  | write offset data length id result => exact h.1 componentId (hne id hother)
  | _ => exact congrFun h componentId

/-- Calls that change no image. -/
theorem flash_of_quiet {calls : List (Call n)}
    (hquiet : ∀ call ∈ calls, call.changesFlash = false)
    (h : Path (FlashStep erased) flash calls flash') : flash' = flash := by
  apply h.invariant (fun f => f = flash) rfl
  intro f call f' hmem hstep hf
  rw [flashStep_of_quiet (hquiet call hmem) hstep, hf]

/-- The successful writes of some stores into the image of one component. -/
theorem flash_of_writes {componentId : UInt8} {α : Type} {write : α → Call n}
    {store : α → Store UInt8} {blocks : List α}
    (hwrite : ∀ block ∈ blocks, ∃ offset length, write block =
      .write offset (store block).block length componentId 0 ∧
        offset.toNat = (store block).offset)
    (h : Path (FlashStep erased) flash (blocks.map write) flash') :
    flash' = Function.update flash componentId
      (storeAll (flash componentId) (blocks.map store)) := by
  induction blocks generalizing flash with
  | nil =>
      rw [List.map_nil, path_nil_iff] at h
      rw [List.map_nil, storeAll_nil, Function.update_eq_self, h]
  | cons block blocks ih =>
      rw [List.map_cons, path_cons_iff] at h
      obtain ⟨flash₁, hstep, hrest⟩ := h
      obtain ⟨offset, length, hblock, hoffset⟩ := hwrite block List.mem_cons_self
      rw [hblock] at hstep
      have hfirst := flashStep_write hstep
      rw [hoffset] at hfirst
      rw [ih (fun other hother => hwrite other (List.mem_cons_of_mem _ hother)) hrest, hfirst,
        Function.update_self, Function.update_idem, List.map_cons, storeAll_cons]

end Step

/-! ## Runs -/

section Run

variable {P : Platform W n} {view : W → Flash} {erased : ℕ → UInt8} {c c' : Config W n}
  {es : List (Event n)} {componentId : UInt8}

/-- Without an accepted offer for it, a component does not become the active one. -/
theorem activeComponentId_ne_of_trace
    (hactive : c.engine.currentOffer.activeComponentId ≠ componentId)
    (hnone : ∀ t ∈ engineTrace P c es, ∀ a, acceptance t = some a →
      a.pCommand.componentInfo.componentId ≠ componentId) :
    ∀ t ∈ engineTrace P c es,
      t.before.engine.currentOffer.activeComponentId ≠ componentId := by
  intro t ht
  have hinv := forall_trace_of_guarded
    (fun c : Config W n => c.engine.currentOffer.activeComponentId ≠ componentId)
    (fun t => ∀ a, acceptance t = some a → a.pCommand.componentInfo.componentId ≠ componentId)
    hnone hactive ?_ t ht
  · exact hinv.1
  · intro c₁ e c₂ _ hguard hpre hstep
    cases haccept : acceptance (transition (step P) c₁ e) with
    | some a =>
        obtain ⟨-, -, -, -, -, hengine⟩ := step_of_acceptance haccept
        rw [hstep, Option.map_some, Option.some.injEq] at hengine
        rw [hengine]
        exact hguard a haccept
    | none =>
        rcases step_currentOffer haccept hstep with hsame | hended
        · rw [hsame]
          exact hpre
        · rw [hended]
          exact hpre

/-- Every call that may change an image is for the active component. -/
theorem not_flashes_of_active {e : Event n}
    (hactive : c.engine.currentOffer.activeComponentId ≠ componentId) :
    ∀ call ∈ (step P c e).1.calls, call.flashes componentId = false := by
  intro call hcall
  cases hcontent : e.isContent with
  | false =>
      have hquiet := (step_calls_of_not_content P c hcontent call hcall).1
      cases call <;> simp_all [Call.changesFlash, Call.flashes]
  | true =>
      obtain ⟨pCommand, rfl⟩ := Event.isContent_iff.1 hcontent
      have hserves := (contentExec_step P c pCommand).servesCurrentOffer call hcall
      cases call with
      | prepare id result =>
          rw [Call.ServesCurrentOffer] at hserves
          simp [Call.flashes, hserves, hactive]
      | write offset data length id result =>
          rw [Call.ServesCurrentOffer] at hserves
          simp [Call.flashes, hserves, hactive]
      | _ => rfl

/-- In every run the image of a component stays as it was, unless the component is active
from the beginning or an offer for it is accepted. -/
theorem flash_untouched_without_acceptance (hP : P.Follows view (FlashStep erased))
    (hreach : finalState (step P) c es = some c')
    (hactive : c.engine.currentOffer.activeComponentId ≠ componentId)
    (hnone : ∀ a ∈ (engineTrace P c es).filterMap acceptance,
      a.pCommand.componentInfo.componentId ≠ componentId) :
    view c'.world componentId = view c.world componentId := by
  have hpath := path_of_run hP hreach
  apply hpath.invariant (fun flash => flash componentId = view c.world componentId) rfl
  intro flash call flash' hcall hstep hflash
  obtain ⟨t, ht, hmem⟩ := List.mem_flatMap.1 hcall
  have hbefore := activeComponentId_ne_of_trace hactive
    (fun u hu a ha => hnone a (List.mem_filterMap.2 ⟨u, hu, ha⟩)) t ht
  rw [eq_transition_of_mem_trace ht, transition_output] at hmem
  rw [flashStep_of_not_flashes (not_flashes_of_active hbefore call hmem) hstep, hflash]

end Run

/-! ## A product with nothing but its flash -/

/-- A product that keeps its images and on which every call succeeds. -/
def flashPlatform (erased : ℕ → UInt8) (componentId : Fin n → UInt8) : Platform Flash n where
  bsp :=
    { prepare := fun id flash => (0, Function.update flash id erased)
      write := fun offset data _ id flash =>
        (0, Function.update flash id (Store.apply (flash id) ⟨offset.toNat, data⟩))
      read := fun _ _ _ flash => ((0, 0), flash)
      calcCRC := fun _ flash => ((0, 0), flash)
      authenticateFWImage := fun flash => (0, flash) }
  registration r :=
    ⟨{ processOffer := fun pCommand _ flash =>
        ((mcuStatusSuccess,
          { FwUpdateOfferResponse.zero with
            status := firmwareUpdateOfferAccept
            token := pCommand.componentInfo.token }), flash)
       getCrcOffset := fun _ flash => ((mcuStatusSuccess, 0), flash)
       notifySuccess := fun _ flash => (⟨mcuStatusSuccess, false⟩, flash) }, componentId r⟩

theorem flashPlatform_follows (erased : ℕ → UInt8) (componentId : Fin n → UInt8) :
    (flashPlatform erased componentId).Follows id (FlashStep erased) where
  prepare _ _ :=
    ⟨fun _ hother => Function.update_of_ne hother _ _, fun _ => Function.update_self ..⟩
  write _ _ _ _ _ :=
    ⟨fun _ hother => Function.update_of_ne hother _ _, fun _ => Function.update_self ..⟩
  read _ _ _ _ := rfl
  calcCRC _ _ := rfl
  authenticateFWImage _ := rfl
  processOffer _ _ _ _ := rfl
  getCrcOffset _ _ _ := rfl
  notifySuccess _ _ _ := rfl
  timerCreate _ _ := rfl
  timerRestart _ _ := rfl
  timerStop _ _ := rfl

/-- The image of component 2 outlives an update of component 1. -/
theorem flash_untouched_without_acceptance_other :
    (finalState (step (flashPlatform (fun _ => 0xFF) fun _ => 1))
        (Config.powerOn (fun _ => none) fun _ _ => 0xAA) oneBlockUpdate).map
      (fun c => c.world 2) = some fun _ => 0xAA := by
  have hreach : ∃ c, finalState (step (flashPlatform (fun _ => 0xFF) fun _ => 1))
      (Config.powerOn (fun _ => none) fun _ _ => 0xAA) oneBlockUpdate = some c := ⟨_, rfl⟩
  obtain ⟨c, hc⟩ := hreach
  have huntouched := flash_untouched_without_acceptance
    (flashPlatform_follows (fun _ => 0xFF) fun _ => 1) hc (show _ ≠ (2 : UInt8) by decide)
    (by decide)
  rw [hc, Option.map_some]
  exact congrArg some huntouched

end Firmware
end CFU
