import CFU.Firmware.EngineRuns
import CFU.Library.LabelledPaths

/-!
# CFU firmware - the world behind the recorded calls

The engine reaches the world of the platform only through the calls that it records.
So whatever every single call does to a view of the world, the whole list of calls of an
entry point, or of a run, does to it: the changes are a path along the calls.

Main results:

- Structure {lit}`Platform.Follows`: what each function of the platform does to a view.
- Theorem {lit}`followed_runEvent`: an entry point changes the view along its calls.
- Theorem {lit}`path_of_step`, {lit}`path_of_run`: so do an event and a run.
-/

namespace CFU
namespace Firmware

open EventRuns LabelledPaths

variable {W V : Type} {n : ℕ}

/-! ## Platforms that follow a relation -/

/-- Every call takes a view of the world along {lit}`next`. -/
structure Platform.Follows (P : Platform W n) (view : W → V) (next : V → Call n → V → Prop) :
    Prop where
  prepare : ∀ componentId world,
    next (view world) (.prepare componentId (P.bsp.prepare componentId world).1)
      (view (P.bsp.prepare componentId world).2)
  write : ∀ offset data length componentId world,
    next (view world)
      (.write offset data length componentId (P.bsp.write offset data length componentId world).1)
      (view (P.bsp.write offset data length componentId world).2)
  read : ∀ offset length componentId world,
    next (view world)
      (.read offset length componentId (P.bsp.read offset length componentId world).1.1
        (P.bsp.read offset length componentId world).1.2)
      (view (P.bsp.read offset length componentId world).2)
  calcCRC : ∀ componentId world,
    next (view world)
      (.calcCRC componentId (P.bsp.calcCRC componentId world).1.1
        (P.bsp.calcCRC componentId world).1.2)
      (view (P.bsp.calcCRC componentId world).2)
  authenticateFWImage : ∀ world,
    next (view world) (.authenticateFWImage (P.bsp.authenticateFWImage world).1)
      (view (P.bsp.authenticateFWImage world).2)
  processOffer : ∀ r pCommand pResponse world,
    next (view world)
      (.processOffer r pCommand
        ((P.registration r).interface.processOffer pCommand pResponse world).1.2)
      (view ((P.registration r).interface.processOffer pCommand pResponse world).2)
  getCrcOffset : ∀ r offset world,
    next (view world)
      (.getCrcOffset r ((P.registration r).interface.getCrcOffset offset world).1.1
        ((P.registration r).interface.getCrcOffset offset world).1.2)
      (view ((P.registration r).interface.getCrcOffset offset world).2)
  notifySuccess : ∀ r forceReset world,
    next (view world)
      (.notifySuccess r forceReset
        ((P.registration r).interface.notifySuccess forceReset world).1)
      (view ((P.registration r).interface.notifySuccess forceReset world).2)
  timerCreate : ∀ v timeoutMs, next v (.timerCreate timeoutMs) v
  timerRestart : ∀ v timerId, next v (.timerRestart timerId) v
  timerStop : ∀ v timerId, next v (.timerStop timerId) v

/-! ## Programs -/

section Programs

variable {α β : Type} {view : W → V} {next : V → Call n → V → Prop}

/-- The system in which a program ends. -/
def endOf : EStateM.Result Halt (Sys W n) α → Sys W n
  | .ok _ sys => sys
  | .error _ sys => sys

/-- A program changes the view along the calls that it adds. -/
def Followed (view : W → V) (next : V → Call n → V → Prop) (x : EngineM W n α) : Prop :=
  ∀ sys, ∃ calls, (endOf (x sys)).calls = sys.calls ++ calls ∧
    Path next (view sys.world) calls (view (endOf (x sys)).world)

/-- A program that makes no calls. -/
theorem Followed.of_quiet {x : EngineM W n α}
    (h : ∀ sys, (endOf (x sys)).calls = sys.calls ∧ (endOf (x sys)).world = sys.world) :
    Followed view next x := by
  intro sys
  obtain ⟨hcalls, hworld⟩ := h sys
  refine ⟨[], ?_, ?_⟩
  · rw [hcalls, List.append_nil]
  · rw [hworld]
    exact .nil _

theorem followed_pure (a : α) : Followed view next (pure a : EngineM W n α) :=
  .of_quiet fun _ => ⟨rfl, rfl⟩

theorem followed_getEngine : Followed view next (getEngine : EngineM W n (EngineState n)) :=
  .of_quiet fun _ => ⟨rfl, rfl⟩

theorem followed_modifyEngine (f : EngineState n → EngineState n) :
    Followed view next (modifyEngine f : EngineM W n Unit) :=
  .of_quiet fun _ => ⟨rfl, rfl⟩

theorem followed_halt (reason : Halt) : Followed view next (halt reason : EngineM W n α) :=
  .of_quiet fun _ => ⟨rfl, rfl⟩

/-- A call of a function that follows the relation. -/
theorem followed_external {f : W → α × W} {call : α → Call n}
    (h : ∀ world, next (view world) (call (f world).1) (view (f world).2)) :
    Followed view next (external f call) := by
  intro sys
  refine ⟨[call (f sys.world).1], rfl, ?_⟩
  rw [path_singleton_iff]
  exact h sys.world

theorem followed_record {call : Call n} (h : ∀ v, next v call v) :
    Followed view next (record call : EngineM W n Unit) := by
  intro sys
  refine ⟨[call], rfl, ?_⟩
  rw [path_singleton_iff]
  exact h _

/-- Two programs in sequence. -/
theorem Followed.bind {x : EngineM W n α} {f : α → EngineM W n β}
    (hx : Followed view next x) (hf : ∀ a, Followed view next (f a)) :
    Followed view next (x >>= f) := by
  intro sys
  obtain ⟨calls, hcalls, hpath⟩ := hx sys
  rw [bind_run]
  cases hrun : x sys with
  | error reason sys' =>
      rw [hrun] at hcalls hpath
      exact ⟨calls, hcalls, hpath⟩
  | ok a sys' =>
      rw [hrun] at hcalls hpath
      obtain ⟨calls', hcalls', hpath'⟩ := hf a sys'
      refine ⟨calls ++ calls', ?_, hpath.append hpath'⟩
      dsimp only
      rw [hcalls', endOf] at *
      rw [hcalls, List.append_assoc]

theorem Followed.ite {p : Prop} [Decidable p] {x y : EngineM W n α} (hx : Followed view next x)
    (hy : Followed view next y) : Followed view next (if p then x else y) := by
  by_cases h : p
  · rw [if_pos h]
    exact hx
  · rw [if_neg h]
    exact hy

end Programs

/-! ## The engine -/

section Engine

variable {P : Platform W n} {view : W → V} {next : V → Call n → V → Prop}

theorem followed_bspTimerCreate (hP : P.Follows view next) (timeoutMs : UInt32) :
    Followed view next (bspTimerCreate timeoutMs : EngineM W n UInt16) := by
  unfold bspTimerCreate
  apply Followed.bind
  · apply followed_record
    intro v
    exact hP.timerCreate v timeoutMs
  · intro _
    exact followed_pure 1

theorem followed_bspTimerStop (hP : P.Follows view next) (timerId : UInt16) :
    Followed view next (bspTimerStop timerId : EngineM W n Unit) := by
  apply followed_record
  intro v
  exact hP.timerStop v timerId

theorem followed_bspTimerRestart (hP : P.Follows view next) (timerId : UInt16) :
    Followed view next (bspTimerRestart timerId : EngineM W n Unit) := by
  apply followed_record
  intro v
  exact hP.timerRestart v timerId

theorem followed_bspPrepare (hP : P.Follows view next) (componentId : UInt8) :
    Followed view next (iCompFwUpdateBspPrepare P componentId) := by
  apply followed_external
  intro world
  exact hP.prepare componentId world

theorem followed_bspWrite (hP : P.Follows view next) (offset : UInt32) (pData : List UInt8)
    (length componentId : UInt8) :
    Followed view next (iCompFwUpdateBspWrite P offset pData length componentId) := by
  apply followed_external
  intro world
  exact hP.write offset (pData.take length.toNat) length componentId world

theorem followed_bspRead (hP : P.Follows view next) (offset : UInt32) (length : UInt16)
    (componentId : UInt8) :
    Followed view next (iCompFwUpdateBspRead P offset length componentId) := by
  apply followed_external
  intro world
  exact hP.read offset length componentId world

theorem followed_bspCalcCRC (hP : P.Follows view next) (componentId : UInt8) :
    Followed view next (iCompFwUpdateBspCalcCRC P componentId) := by
  apply followed_external
  intro world
  exact hP.calcCRC componentId world

theorem followed_bspAuthenticate (hP : P.Follows view next) :
    Followed view next (iCompFwUpdateBspAuthenticateFWImage P) := by
  apply followed_external
  intro world
  exact hP.authenticateFWImage world

/-- The walk of the registration list makes no call. -/
theorem followed_findRegistration (componentId : UInt8) :
    Followed view next (findRegistration P componentId) := by
  unfold findRegistration
  apply Followed.bind followed_getEngine
  intro s
  cases s.lookup P componentId with
  | none => exact followed_halt .endlessWalk
  | some pRegistration => exact followed_pure pRegistration

theorem followed_callGetCrcOffset (hP : P.Follows view next) (r : Fin n) (offset : UInt32) :
    Followed view next (callGetCrcOffset P r offset) := by
  apply followed_external
  intro world
  exact hP.getCrcOffset r offset world

theorem followed_callNotifySuccess (hP : P.Follows view next) (pRegistration : Option (Fin n))
    (forceReset : Bool) :
    Followed view next (callNotifySuccess P pRegistration forceReset) := by
  cases pRegistration with
  | none => exact followed_halt .nullDereference
  | some r =>
      unfold callNotifySuccess
      apply Followed.bind
      · apply followed_external
        intro world
        exact hP.notifySuccess r forceReset world
      · intro result
        -- the completion handler runs only if the component calls it
        apply Followed.ite
        · apply Followed.bind (followed_modifyEngine _)
          intro _
          exact followed_pure _
        · exact followed_pure _

/-! ### Content commands -/

theorem followed_processFirstBlock (hP : P.Follows view next)
    (pCommand : FwUpdateContentCommand) (componentId : UInt8) :
    Followed view next (processFirstBlock P pCommand componentId) := by
  unfold processFirstBlock
  apply Followed.bind (followed_bspPrepare hP componentId)
  intro result
  apply Followed.ite
  · apply Followed.bind (followed_bspWrite hP _ _ _ _)
    intro written
    apply Followed.ite (followed_pure _)
    exact followed_pure _
  · exact followed_pure _

theorem followed_processMiddleBlock (hP : P.Follows view next)
    (pCommand : FwUpdateContentCommand) (componentId : UInt8) :
    Followed view next (processMiddleBlock P pCommand componentId) := by
  unfold processMiddleBlock
  apply Followed.bind (followed_bspWrite hP _ _ _ _)
  intro written
  apply Followed.ite (followed_pure _)
  exact followed_pure _

theorem followed_authenticate (hP : P.Follows view next) :
    Followed view next (do
      if (← iCompFwUpdateBspAuthenticateFWImage P) != 0 then
        return firmwareUpdateStatusErrorSignature
      return firmwareUpdateStatusSuccess) := by
  apply Followed.bind (followed_bspAuthenticate hP)
  intro signed
  apply Followed.ite (followed_pure _)
  exact followed_pure _

theorem followed_validateImage (hP : P.Follows view next) (componentId : UInt8)
    (result : McuStatus) (crcOffset : UInt32) :
    Followed view next (validateImage P componentId result crcOffset) := by
  unfold validateImage
  apply Followed.ite (followed_pure _)
  apply Followed.ite
  · apply Followed.bind (followed_bspCalcCRC hP componentId)
    intro calculated
    apply Followed.ite (followed_pure _)
    apply Followed.bind (followed_bspRead hP _ _ _)
    intro read
    apply Followed.ite (followed_pure _)
    apply Followed.ite (followed_pure _)
    exact followed_authenticate hP
  · exact followed_authenticate hP

theorem followed_notifyComponent (hP : P.Follows view next) (pRegistration : Option (Fin n)) :
    Followed view next (notifyComponent P pRegistration) := by
  unfold notifyComponent
  apply Followed.bind followed_getEngine
  intro s
  apply Followed.bind (followed_callNotifySuccess hP _ _)
  intro status
  apply Followed.ite
  · apply Followed.bind (followed_modifyEngine _)
    intro _
    exact followed_pure _
  · exact followed_pure _

theorem followed_validateAndNotify (hP : P.Follows view next) (componentId : UInt8)
    (pRegistration : Option (Fin n)) (found : McuStatus × UInt32) :
    Followed view next (do
      let status ← validateImage P componentId found.1 found.2
      if status == firmwareUpdateStatusSuccess then
        notifyComponent P pRegistration
      else
        return status) := by
  apply Followed.bind (followed_validateImage hP _ _ _)
  intro status
  apply Followed.ite
  · exact followed_notifyComponent hP pRegistration
  · exact followed_pure _

theorem followed_completeImage (hP : P.Follows view next) (componentId : UInt8) :
    Followed view next (completeImage P componentId) := by
  unfold completeImage
  apply Followed.bind (followed_findRegistration componentId)
  intro pRegistration
  cases pRegistration with
  | none =>
      apply Followed.bind (followed_pure _)
      intro found
      exact followed_validateAndNotify hP componentId none found
  | some r =>
      apply Followed.bind (followed_callGetCrcOffset hP r 0)
      intro found
      exact followed_validateAndNotify hP componentId (some r) found

theorem followed_processLastBlock (hP : P.Follows view next)
    (pCommand : FwUpdateContentCommand) (componentId : UInt8) :
    Followed view next (processLastBlock P pCommand componentId) := by
  unfold processLastBlock
  apply Followed.bind (followed_bspWrite hP _ _ _ _)
  intro written
  apply Followed.ite
  · exact followed_completeImage hP componentId
  · exact followed_pure _

theorem followed_processBlock (hP : P.Follows view next) (pCommand : FwUpdateContentCommand)
    (componentId : UInt8) : Followed view next (processBlock P pCommand componentId) := by
  unfold processBlock
  apply Followed.ite
  · exact followed_processFirstBlock hP pCommand componentId
  · apply Followed.ite
    · exact followed_processLastBlock hP pCommand componentId
    · exact followed_processMiddleBlock hP pCommand componentId

theorem followed_processCFWUContent (hP : P.Follows view next)
    (pCommand : FwUpdateContentCommand) :
    Followed view next (processCFWUContent P pCommand) := by
  unfold processCFWUContent
  apply Followed.bind followed_getEngine
  intro s
  apply Followed.bind (followed_processBlock hP pCommand _)
  intro status
  apply Followed.ite
  · apply Followed.bind (followed_modifyEngine _)
    intro _
    exact followed_pure _
  · exact followed_pure _

/-! ### Offer commands -/

theorem followed_presentOffer (hP : P.Follows view next) (pCommand : FwUpdateOfferCommand)
    (pResponse : FwUpdateOfferResponse) :
    Followed view next (presentOffer P pCommand pResponse) := by
  unfold presentOffer
  apply Followed.bind (followed_findRegistration _)
  intro found
  cases found with
  | none => exact followed_pure _
  | some r =>
      apply Followed.bind
      · apply followed_external
        intro world
        exact hP.processOffer r pCommand pResponse world
      · intro reply
        apply Followed.ite
        · apply Followed.bind followed_getEngine
          intro s
          apply Followed.bind (followed_bspTimerRestart hP _)
          intro _
          apply Followed.bind (followed_modifyEngine _)
          intro _
          exact followed_pure _
        · exact followed_pure _

theorem followed_processCFWUOffer (hP : P.Follows view next) (pCommand : FwUpdateOfferCommand)
    (pResponse : FwUpdateOfferResponse) :
    Followed view next (processCFWUOffer P pCommand pResponse) := by
  unfold processCFWUOffer
  apply Followed.bind followed_getEngine
  intro s
  apply Followed.ite (followed_pure _)
  apply Followed.ite
  · apply Followed.ite (followed_pure _)
    exact followed_presentOffer hP pCommand pResponse
  · apply Followed.ite (followed_pure _)
    exact followed_presentOffer hP pCommand pResponse

/-! ### Entry points, events and runs -/

/-- Every entry point changes the view along its calls. -/
theorem followed_runEvent (hP : P.Follows view next) (e : Event n) :
    Followed view next (runEvent P e) := by
  cases e with
  | registerComponent pRegistration =>
      apply Followed.of_quiet
      intro sys
      cases pRegistration <;> exact ⟨rfl, rfl⟩
  | firmwareUpdateInit =>
      apply Followed.bind
      · apply Followed.bind (followed_bspTimerCreate hP _)
        intro timer
        apply Followed.bind (followed_modifyEngine _)
        intro _
        apply Followed.bind (followed_bspTimerStop hP timer)
        intro _
        exact followed_pure _
      · intro _
        exact followed_pure _
  | offer pCommand pResponse =>
      apply Followed.bind (followed_processCFWUOffer hP pCommand pResponse)
      intro response
      exact followed_pure _
  | content pCommand =>
      apply Followed.bind (followed_processCFWUContent hP pCommand)
      intro response
      exact followed_pure _
  | readComplete =>
      apply Followed.bind (followed_modifyEngine _)
      intro _
      exact followed_pure _
  | updateTimer =>
      apply Followed.bind
      · apply Followed.bind (followed_modifyEngine _)
        intro _
        apply Followed.bind followed_getEngine
        intro s
        exact followed_bspTimerStop hP s.updateTimer
      · intro _
        exact followed_pure _

/-- An event that returns changes the view along its calls. -/
theorem path_of_step (hP : P.Follows view next) {c c' : Config W n} {e : Event n}
    (h : (step P c e).2 = some c') :
    Path next (view c.world) (step P c e).1.calls (view c'.world) := by
  obtain ⟨calls, hcalls, hpath⟩ :=
    followed_runEvent hP e { engine := c.engine, world := c.world, calls := [] }
  unfold step at h ⊢
  cases hrun : runEvent P e { engine := c.engine, world := c.world, calls := [] } with
  | error reason sys =>
      rw [hrun] at h
      cases h
  | ok response sys =>
      rw [hrun] at h hcalls hpath
      simp only [Option.some.injEq] at h
      subst h
      simp only [endOf, List.nil_append] at hcalls hpath
      rw [← hcalls] at hpath
      exact hpath

/-- A run changes the view along the calls of its events. -/
theorem path_of_run (hP : P.Follows view next) {c c' : Config W n} {es : List (Event n)}
    (h : finalState (step P) c es = some c') :
    Path next (view c.world) ((engineTrace P c es).flatMap fun t => t.output.calls)
      (view c'.world) := by
  have hsim : ForwardSimulation (step P) next (fun t => t.output.calls)
      (fun c v => view c.world = v) := by
    intro c e c' v hview hstep
    subst hview
    exact ⟨_, path_of_step hP hstep, rfl⟩
  obtain ⟨v, hpath, rfl⟩ := hsim.path_of_run rfl h
  exact hpath

end Engine

end Firmware
end CFU
