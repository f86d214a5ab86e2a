import CFU.Firmware.McuStatus
import CFU.Firmware.Commands
import CFU.Library.IntrusiveList

/-!
# CFU firmware - the platform under the engine

The engine calls functions that each product supplies: the board support
package, the interface of every registered component and a timer.  They may
keep state of their own, so each is a function on a world of arbitrary type.
Every call is recorded with its arguments and results.

Main results:

- Structure {lit}`Platform`: the functions of {lit}`ICompFwUpdateBsp.h` and the
  constant part of every {lit}`COMPONENT_REGISTRATION` object.
- Definition {lit}`EngineM`: engine code as a program over the static variables,
  the world and the calls made so far, which may also never return.
- Theorem {lit}`EngineState.lookup_componentId`: a registration that the walk of
  the list finds has the component id that was looked for.
-/

namespace CFU
namespace Firmware

/-! ## Functions that the product supplies -/

/-- The functions of {lit}`ICompFwUpdateBsp.h` that the engine calls.  A read
and a CRC computation also return the value they leave in their two-byte
result. -/
structure Bsp (W : Type) where
  prepare (componentId : UInt8) : W → UInt32 × W
  write (offset : UInt32) (data : List UInt8) (length componentId : UInt8) : W → UInt32 × W
  read (offset : UInt32) (length : UInt16) (componentId : UInt8) : W → (UInt32 × UInt16) × W
  calcCRC (componentId : UInt8) : W → (UInt32 × UInt16) × W
  authenticateFWImage : W → Int32 × W

/-- What a {lit}`NotifySuccess` call does that the engine can see: its status, and
whether it called the completion handler before it returned. -/
structure NotifyResult where
  status : McuStatus
  readCompleted : Bool
deriving DecidableEq, Repr

/-- {lit}`ICOMPONENT_INTERFACE`.  A function that fills an out-parameter maps what
the caller's buffer held to what it holds afterwards. -/
structure IComponentInterface (W : Type) where
  processOffer (pCommand : FwUpdateOfferCommand) (pResponse : FwUpdateOfferResponse) :
    W → (McuStatus × FwUpdateOfferResponse) × W
  getCrcOffset (offset : UInt32) : W → (McuStatus × UInt32) × W
  notifySuccess (forceReset : Bool) : W → NotifyResult × W

/-- The constant fields of {lit}`COMPONENT_REGISTRATION`; the link {lit}`pNext` is
in the engine state. -/
structure ComponentRegistration (W : Type) where
  interface : IComponentInterface W
  componentId : UInt8

/-- A product: its board support package and its {lit}`n` registration objects. -/
structure Platform (W : Type) (n : ℕ) where
  bsp : Bsp W
  registration : Fin n → ComponentRegistration W

/-! ## Static variables and recorded calls -/

/-- {lit}`CURRENT_OFFER_INFO` -/
structure CurrentOfferInfo where
  activeComponentId : UInt8
  forceReset : Bool
  updateInProgress : Bool
deriving DecidableEq, Repr

/-- The static variables of {lit}`ComponentFwUpdate.c`, and the links that
registration stores in the registration objects. -/
structure EngineState (n : ℕ) where
  currentOffer : CurrentOfferInfo
  pFirstComponentIFace : Option (Fin n)
  pNext : Fin n → Option (Fin n)
  updateTimer : UInt16
  bankSwapPending : Bool

/-- A call that the engine makes, with its arguments and results. -/
inductive Call (n : ℕ) where
  | processOffer (pRegistration : Fin n) (pCommand : FwUpdateOfferCommand)
      (reply : FwUpdateOfferResponse)
  | prepare (componentId : UInt8) (result : UInt32)
  | write (offset : UInt32) (data : List UInt8) (length componentId : UInt8)
      (result : UInt32)
  | getCrcOffset (pRegistration : Fin n) (result : McuStatus) (offset : UInt32)
  | calcCRC (componentId : UInt8) (result : UInt32) (crc : UInt16)
  | read (offset : UInt32) (length : UInt16) (componentId : UInt8) (result : UInt32)
      (crc : UInt16)
  | authenticateFWImage (result : Int32)
  | notifySuccess (pRegistration : Fin n) (forceReset : Bool) (result : NotifyResult)
  | timerCreate (timeoutMs : UInt32)
  | timerRestart (timerId : UInt16)
  | timerStop (timerId : UInt16)
deriving DecidableEq, Repr

/-- Why engine code does not return to its caller. -/
inductive Halt where
  | endlessWalk
  | nullDereference
deriving DecidableEq, Repr

/-- Static variables, world, and the calls of the running entry point. -/
structure Sys (W : Type) (n : ℕ) where
  engine : EngineState n
  world : W
  calls : List (Call n)

/-- Engine code: it reads and writes the static variables, calls the platform,
and either returns or halts. -/
abbrev EngineM (W : Type) (n : ℕ) := EStateM Halt (Sys W n)

section Primitives

variable {W : Type} {n : ℕ} {α : Type}

/-- Call a platform function and record the call. -/
def external (f : W → α × W) (call : α → Call n) : EngineM W n α := fun sys =>
  .ok (f sys.world).1
    { sys with
      world := (f sys.world).2
      calls := sys.calls ++ [call (f sys.world).1] }

/-- Record a call of one of the timer functions, whose bodies are empty. -/
def record (call : Call n) : EngineM W n Unit := fun sys =>
  .ok () { sys with calls := sys.calls ++ [call] }

/-- Write the static variables. -/
def modifyEngine (f : EngineState n → EngineState n) : EngineM W n Unit := fun sys =>
  .ok () { sys with engine := f sys.engine }

/-- Read the static variables. -/
def getEngine : EngineM W n (EngineState n) := fun sys =>
  .ok sys.engine sys

/-- Never return. -/
def halt (reason : Halt) : EngineM W n α := fun sys =>
  .error reason sys

@[simp]
theorem external_run (f : W → α × W) (call : α → Call n) (sys : Sys W n) :
    external f call sys =
      .ok (f sys.world).1
        { sys with
          world := (f sys.world).2
          calls := sys.calls ++ [call (f sys.world).1] } :=
  rfl

@[simp]
theorem record_run (call : Call n) (sys : Sys W n) :
    record call sys = .ok () { sys with calls := sys.calls ++ [call] } :=
  rfl

@[simp]
theorem modifyEngine_run (f : EngineState n → EngineState n) (sys : Sys W n) :
    modifyEngine f sys = .ok () { sys with engine := f sys.engine } :=
  rfl

@[simp]
theorem getEngine_run (sys : Sys W n) : getEngine sys = .ok sys.engine sys :=
  rfl

@[simp]
theorem halt_run (reason : Halt) (sys : Sys W n) :
    (halt reason : EngineM W n α) sys = .error reason sys :=
  rfl

/-- A program in sequence with another runs the second only if the first returns. -/
@[simp]
theorem bind_run {β : Type} (x : EngineM W n α) (f : α → EngineM W n β) (sys : Sys W n) :
    (x >>= f) sys =
      match x sys with
      | .ok a sys' => f a sys'
      | .error reason sys' => .error reason sys' := by
  simp only [bind, EStateM.bind]
  cases x sys <;> rfl

/-- A function of what a program returns is applied only if it returns. -/
@[simp]
theorem map_run {β : Type} (f : α → β) (x : EngineM W n α) (sys : Sys W n) :
    (f <$> x) sys =
      match x sys with
      | .ok a sys' => .ok (f a) sys'
      | .error reason sys' => .error reason sys' := by
  simp only [Functor.map, EStateM.map]
  cases x sys <;> rfl

@[simp]
theorem pure_run (a : α) (sys : Sys W n) : (pure a : EngineM W n α) sys = .ok a sys :=
  rfl

theorem ite_run (p : Prop) [Decidable p] (x y : EngineM W n α) (sys : Sys W n) :
    (if p then x else y) sys = if p then x sys else y sys := by
  split <;> rfl

/-! ## Board support package -/

variable (P : Platform W n)

def iCompFwUpdateBspPrepare (componentId : UInt8) : EngineM W n UInt32 :=
  external (P.bsp.prepare componentId) (.prepare componentId)

def iCompFwUpdateBspWrite (offset : UInt32) (pData : List UInt8)
    (length componentId : UInt8) : EngineM W n UInt32 :=
  external (P.bsp.write offset (pData.take length.toNat) length componentId)
    (.write offset (pData.take length.toNat) length componentId)

def iCompFwUpdateBspRead (offset : UInt32) (length : UInt16) (componentId : UInt8) :
    EngineM W n (UInt32 × UInt16) :=
  external (P.bsp.read offset length componentId)
    fun r => .read offset length componentId r.1 r.2

def iCompFwUpdateBspCalcCRC (componentId : UInt8) : EngineM W n (UInt32 × UInt16) :=
  external (P.bsp.calcCRC componentId) fun r => .calcCRC componentId r.1 r.2

def iCompFwUpdateBspAuthenticateFWImage : EngineM W n Int32 :=
  external P.bsp.authenticateFWImage .authenticateFWImage

/-! ## Timer stubs -/

/-- {lit}`MAX_FW_UPDATE_TIME_FAIL_SAFE_MS` -/
def maxFwUpdateTimeFailSafeMs : UInt32 := 20 * 60 * 1000

def bspTimerCreate (timeoutMs : UInt32) : EngineM W n UInt16 := do
  record (.timerCreate timeoutMs)
  return 1

def bspTimerStop (timerId : UInt16) : EngineM W n Unit :=
  record (.timerStop timerId)

def bspTimerRestart (timerId : UInt16) : EngineM W n Unit :=
  record (.timerRestart timerId)

/-! ## The registration list -/

/-- The first registration with this component id on the list, {lean}`none` if the
chain of links never ends. -/
def EngineState.lookup (s : EngineState n) (componentId : UInt8) : Option (Option (Fin n)) :=
  IntrusiveList.find s.pNext (fun r => (P.registration r).componentId == componentId)
    s.pFirstComponentIFace

/-- The loop over {lit}`pRegistration` in the two functions that look for a component id. -/
def findRegistration (componentId : UInt8) : EngineM W n (Option (Fin n)) := do
  match (← getEngine).lookup P componentId with
  | none => halt .endlessWalk
  | some pRegistration => return pRegistration

/-- The lookup returns a registration with the component id that it looks for. -/
theorem EngineState.lookup_componentId {s : EngineState n} {componentId : UInt8} {r : Fin n}
    (h : s.lookup P componentId = some (some r)) :
    (P.registration r).componentId = componentId := by
  simpa using IntrusiveList.find_some_found h

/-- The object is on the registration list. -/
def EngineState.OnList (s : EngineState n) (r : Fin n) : Prop :=
  IntrusiveList.OnChain s.pNext s.pFirstComponentIFace r

/-- The lookup finds a registration exactly when one with the component id is on
the list. -/
theorem EngineState.exists_lookup_iff {s : EngineState n} {componentId : UInt8} :
    (∃ r, s.lookup P componentId = some (some r)) ↔
      ∃ r, s.OnList r ∧ (P.registration r).componentId = componentId := by
  unfold EngineState.lookup EngineState.OnList
  rw [IntrusiveList.exists_find_iff]
  simp only [beq_iff_eq]

end Primitives

/-! ## A platform on which everything succeeds -/

/-- The component functions of a product that takes every image: the handler
accepts and returns the token, and completion is reported later. -/
def acceptingInterface : IComponentInterface Unit where
  processOffer pCommand _ world :=
    ((mcuStatusSuccess,
      { FwUpdateOfferResponse.zero with
        status := firmwareUpdateOfferAccept
        token := pCommand.componentInfo.token }), world)
  getCrcOffset _ world := ((mcuStatusSuccess, 0), world)
  notifySuccess _ world := (⟨mcuStatusSuccess, false⟩, world)

/-- A product without a state of its own on which every call succeeds. -/
def acceptingPlatform {n : ℕ} (componentId : Fin n → UInt8) : Platform Unit n where
  bsp :=
    { prepare := fun _ world => (0, world)
      write := fun _ _ _ _ world => (0, world)
      read := fun _ _ _ world => ((0, 0), world)
      calcCRC := fun _ world => ((0, 0), world)
      authenticateFWImage := fun world => (0, world) }
  registration r := ⟨acceptingInterface, componentId r⟩

/-- The registration of a product with one component. -/
abbrev onlyComponent : Fin 1 := 0

/-- The first registration of a product with two components. -/
abbrev firstComponent : Fin 2 := 0

/-- The second registration of a product with two components. -/
abbrev secondComponent : Fin 2 := 1

end Firmware
end CFU
