import CFU.Firmware.EngineRuns

/-!
# CFU firmware - the fail-safe timer

The engine creates one timer at start-up, restarts it when it accepts an offer
and stops it only when it expires.  It is not stopped when an update ends, so the
timer of a finished update may still run when the next offer is accepted.  A run
is put on a clock here, and the calls of the timer functions are read off its
trace.

Main results:

- Definition {lit}`timersAfter`: the timers of the platform after a timed run.
- Theorem {lit}`timerInvariant_of_run`: an update in progress has its timer armed
  since its own acceptance.
- Theorem {lit}`failSafeTimer_guards_update`: no expiry ends an update early, and
  an expiry of the armed timer ends it.
-/

namespace CFU
namespace Firmware

open EventRuns

variable {W : Type} {n : ℕ}

/-! ## Runs on a clock -/

/-- An entry point and the time of its call in milliseconds. -/
structure TimedEvent (n : ℕ) where
  time : ℕ
  event : Event n
deriving DecidableEq, Repr

/-- One executed event of a timed run. -/
abbrev TimedTransition (W : Type) (n : ℕ) :=
  Transition (Config W n) (TimedEvent n) (Output n)

/-- The engine does not see the clock. -/
abbrev timedStep (P : Platform W n) (c : Config W n) (e : TimedEvent n) :
    Output n × Option (Config W n) :=
  step P c e.event

/-- The transitions of a timed run from {lit}`c`. -/
abbrev timedTrace (P : Platform W n) (c : Config W n) (es : List (TimedEvent n)) :
    List (TimedTransition W n) :=
  trace (timedStep P) c es

/-- The offer that a transition of a timed run accepted. -/
def timedAcceptance (t : TimedTransition W n) : Option (Acceptance n) :=
  acceptance (t.relabel TimedEvent.event)

/-- Start-up initializes the engine before everything else. -/
def startUp (time : ℕ) : TimedEvent n where
  time := time
  event := .firmwareUpdateInit

/-! ## The timers of the platform -/

/-- A timer: its period, and since when it is armed. -/
structure BspTimer where
  timeoutMs : UInt32
  armedAt : Option ℕ
deriving DecidableEq, Repr

/-- The id that {lit}`BSP_Timer_Create` returns. -/
def createdTimer : UInt16 := 1

/-- What a call does to the timers: a restart arms a timer for its full period, a
stop disarms it.  Whether creation arms a timer is left open. -/
def applyTimerCall (armsOnCreate : Bool) (time : ℕ) (timers : UInt16 → BspTimer) :
    Call n → UInt16 → BspTimer
  | .timerCreate timeoutMs =>
      Function.update timers createdTimer
        ⟨timeoutMs, if armsOnCreate then some time else none⟩
  | .timerRestart timerId =>
      Function.update timers timerId { timers timerId with armedAt := some time }
  | .timerStop timerId =>
      Function.update timers timerId { timers timerId with armedAt := none }
  | _ => timers

/-- The timers after the calls of one transition. -/
def applyTransition (armsOnCreate : Bool) (timers : UInt16 → BspTimer)
    (t : TimedTransition W n) : UInt16 → BspTimer :=
  t.output.calls.foldl (applyTimerCall armsOnCreate t.event.time) timers

/-- The timers after a timed run. -/
def timersAfter (armsOnCreate : Bool) (timers : UInt16 → BspTimer)
    (ts : List (TimedTransition W n)) : UInt16 → BspTimer :=
  ts.foldl (applyTransition armsOnCreate) timers

theorem timersAfter_append_singleton (armsOnCreate : Bool) (timers : UInt16 → BspTimer)
    (ts : List (TimedTransition W n)) (t : TimedTransition W n) :
    timersAfter armsOnCreate timers (ts ++ [t]) =
      applyTransition armsOnCreate (timersAfter armsOnCreate timers ts) t := by
  simp [timersAfter]

/-- Only an armed timer expires, and not before its period has passed. -/
def ExpiriesObeyTimer (armsOnCreate : Bool) (timers : UInt16 → BspTimer)
    (ts : List (TimedTransition W n)) : Prop :=
  ∀ pre t post, ts = pre ++ t :: post → t.event.event = .updateTimer →
    ∃ since, (timersAfter armsOnCreate timers pre createdTimer).armedAt = some since ∧
      since + (timersAfter armsOnCreate timers pre createdTimer).timeoutMs.toNat ≤ t.event.time

/-! ## What one step does to the timers -/

section Step

variable {P : Platform W n} {c c' : Config W n} {e : Event n}

def Call.isTimer : Call n → Bool
  | .timerCreate _ | .timerRestart _ | .timerStop _ => true
  | _ => false

/-- Calls of other functions leave the timers alone. -/
theorem foldl_applyTimerCall {armsOnCreate : Bool} {time : ℕ} {timers : UInt16 → BspTimer}
    {calls : List (Call n)} (h : ∀ call ∈ calls, call.isTimer = false) :
    calls.foldl (applyTimerCall armsOnCreate time) timers = timers := by
  induction calls with
  | nil => rfl
  | cons call calls ih =>
      have hcall := h call List.mem_cons_self
      have hsame : applyTimerCall armsOnCreate time timers call = timers := by
        cases call with
        | timerCreate => cases hcall
        | timerRestart => cases hcall
        | timerStop => cases hcall
        | _ => rfl
      rw [List.foldl_cons, hsame]
      exact ih fun call hmem => h call (List.mem_cons_of_mem _ hmem)

/-- A call that serves the current offer is not a call of a timer function. -/
theorem Call.ServesCurrentOffer.isTimer {s : EngineState n} {call : Call n}
    (h : call.ServesCurrentOffer P s) : call.isTimer = false := by
  cases call with
  | timerCreate => exact h.elim
  | timerRestart => exact h.elim
  | timerStop => exact h.elim
  | _ => rfl

/-- Only acceptance, expiry and initialization call the timer functions. -/
theorem step_isTimer (hinit : e ≠ .firmwareUpdateInit) (hexpiry : e ≠ .updateTimer)
    (hnone : acceptance (transition (step P) c e) = none) :
    ∀ call ∈ (step P c e).1.calls, call.isTimer = false := by
  cases e with
  | firmwareUpdateInit => exact absurd rfl hinit
  | updateTimer => exact absurd rfl hexpiry
  | registerComponent => simp
  | readComplete => simp
  | content pCommand =>
      intro call hcall
      exact ((contentExec_step P c pCommand).servesCurrentOffer call hcall).isTimer
  | offer pCommand pResponse =>
      have hexec := offerExec_step P c pCommand pResponse
      rw [acceptance, transition_output] at hnone
      generalize step P c (.offer pCommand pResponse) = result at hnone hexec
      rcases result with ⟨output, after⟩
      cases hexec with
      | accepted _ _ haccepted => simp [haccepted] at hnone
      | _ => simp [Call.isTimer]

/-- The engine keeps the id of the timer that initialization created. -/
theorem step_updateTimer_kept (hinit : e ≠ .firmwareUpdateInit)
    (hafter : (step P c e).2 = some c') : c'.engine.updateTimer = c.engine.updateTimer := by
  cases e with
  | firmwareUpdateInit => exact absurd rfl hinit
  | registerComponent pRegistration =>
      rw [step_registerComponent, Option.some.injEq] at hafter
      subst hafter
      cases pRegistration <;> rfl
  | readComplete =>
      cases hafter
      rfl
  | updateTimer =>
      cases hafter
      rfl
  | offer pCommand pResponse =>
      cases haccept : acceptance (transition (step P) c (.offer pCommand pResponse)) with
      | none => rw [(step_offer_of_acceptance_none haccept hafter).1]
      | some a =>
          obtain ⟨-, -, -, -, -, hengine⟩ := step_of_acceptance haccept
          rw [hafter, Option.map_some, Option.some.injEq] at hengine
          rw [hengine]
          rfl
  | content pCommand =>
      have hexec := contentExec_step P c pCommand
      rw [hafter, Option.map_some] at hexec
      rcases hexec.after_cases with hsame | hended | ⟨result, hnotified⟩
      · rw [hsame]
      · rw [hended]
        rfl
      · rw [hnotified]
        cases hcompleted : result.readCompleted <;> cases hstatus : mcuSuccess result.status <;>
          simp [EngineState.afterNotify, EngineState.endUpdate, hcompleted, hstatus]

/-- Without an acceptance an update that is in progress was so before, and neither
the completion handler nor the expiry was called. -/
theorem busy_before_of_busy_after (hnone : acceptance (transition (step P) c e) = none)
    (hafter : (step P c e).2 = some c')
    (hbusy : c'.engine.currentOffer.updateInProgress = true) :
    c.engine.currentOffer.updateInProgress = true ∧ e ≠ .updateTimer := by
  constructor
  · rcases step_currentOffer hnone hafter with hsame | hended
    · rwa [hsame] at hbusy
    · rw [hended] at hbusy
      cases hbusy
  · rintro rfl
    cases hafter
    cases hbusy

end Step

/-! ## The timer of an update in progress -/

section Invariant

variable {P : Platform W n} {armsOnCreate : Bool} {timers : UInt16 → BspTimer}

/-- The update in progress was started by the acceptance {lit}`t`, nothing was
accepted and the update did not end since, and the timer is armed for its full
period since the same time. -/
structure ArmedSince (armsOnCreate : Bool) (timers : UInt16 → BspTimer)
    (ts : List (TimedTransition W n)) (c : Config W n) (t : TimedTransition W n)
    (post : List (TimedTransition W n)) : Prop where
  accepted : ∃ a, timedAcceptance t = some a
  idleBefore : t.before.engine.currentOffer.updateInProgress = false
  busySince : ∀ u ∈ post, u.before.engine.currentOffer.updateInProgress = true ∧
    timedAcceptance u = none
  armed : timersAfter armsOnCreate timers ts c.engine.updateTimer =
    ⟨maxFwUpdateTimeFailSafeMs, some t.event.time⟩

/-- What holds of the timer after a timed run. -/
structure TimerInvariant (armsOnCreate : Bool) (timers : UInt16 → BspTimer)
    (ts : List (TimedTransition W n)) (c : Config W n) : Prop where
  updateTimer : c.engine.updateTimer = createdTimer
  timeoutMs :
    (timersAfter armsOnCreate timers ts createdTimer).timeoutMs = maxFwUpdateTimeFailSafeMs
  servesUpdate : c.engine.currentOffer.updateInProgress = true →
    ∃ pre t post, ts = pre ++ t :: post ∧ ArmedSince armsOnCreate timers ts c t post

/-- Initialization creates the timer and leaves the engine idle. -/
theorem timerInvariant_startUp (P : Platform W n) (armsOnCreate : Bool)
    (timers : UInt16 → BspTimer) (pNext : Fin n → Option (Fin n)) (world : W) (time : ℕ)
    {c : Config W n}
    (hafter : (timedStep P (Config.powerOn pNext world) (startUp time)).2 = some c) :
    TimerInvariant armsOnCreate timers
      [transition (timedStep P) (Config.powerOn pNext world) (startUp time)] c := by
  cases hafter
  refine ⟨rfl, ?_, ?_⟩
  · simp [timersAfter, applyTransition, timedStep, startUp, applyTimerCall, createdTimer]
  · intro hbusy
    cases hbusy

/-- A restart changes when the timer was armed, not its period. -/
theorem timersAfter_accepted (armsOnCreate : Bool) (timers : UInt16 → BspTimer)
    (ts : List (TimedTransition W n)) {c : Config W n} {e : TimedEvent n} {a : Acceptance n}
    (haccept : acceptance (transition (step P) c e.event) = some a) :
    timersAfter armsOnCreate timers (ts ++ [transition (timedStep P) c e]) =
      Function.update (timersAfter armsOnCreate timers ts) c.engine.updateTimer
        { timersAfter armsOnCreate timers ts c.engine.updateTimer with
          armedAt := some e.time } := by
  obtain ⟨-, -, -, -, hcalls, -⟩ := step_of_acceptance haccept
  rw [timersAfter_append_singleton, applyTransition, transition_output, timedStep, hcalls]
  rfl

/-- Every event but another initialization keeps the invariant. -/
theorem timerInvariant_step {ts : List (TimedTransition W n)} {c c' : Config W n}
    {e : TimedEvent n} (hinit : e.event ≠ .firmwareUpdateInit)
    (h : TimerInvariant armsOnCreate timers ts c)
    (hafter : (timedStep P c e).2 = some c') :
    TimerInvariant armsOnCreate timers (ts ++ [transition (timedStep P) c e]) c' := by
  have htimer : c'.engine.updateTimer = createdTimer :=
    (step_updateTimer_kept hinit hafter).trans h.updateTimer
  cases haccept : acceptance (transition (step P) c e.event) with
  | some a =>
      have htimers := timersAfter_accepted armsOnCreate timers ts haccept
      obtain ⟨-, hreach, -, -, -, -⟩ := step_of_acceptance haccept
      have hidle : c.engine.currentOffer.updateInProgress = false := by
        by_contra hbusy
        rw [Bool.not_eq_false] at hbusy
        simp [EngineState.reachesList, hbusy] at hreach
      rw [h.updateTimer] at htimers
      refine ⟨htimer, ?_, fun _ => ⟨ts, _, [], rfl, ⟨⟨a, haccept⟩, hidle, by simp, ?_⟩⟩⟩
      · rw [htimers, Function.update_self]
        exact h.timeoutMs
      · rw [htimers, htimer, Function.update_self, ← h.timeoutMs]
        rfl
  | none =>
      refine ⟨htimer, ?_, ?_⟩
      · rw [timersAfter_append_singleton, applyTransition, transition_output]
        by_cases hexpiry : e.event = .updateTimer
        · have hcalls : (timedStep P c e).1.calls = [.timerStop createdTimer] := by
            rw [timedStep, hexpiry, step_updateTimer, h.updateTimer]
          rw [hcalls, List.foldl_cons, List.foldl_nil, applyTimerCall, Function.update_self]
          exact h.timeoutMs
        · rw [foldl_applyTimerCall (step_isTimer hinit hexpiry haccept)]
          exact h.timeoutMs
      · intro hbusy
        obtain ⟨hbusyBefore, hexpiry⟩ := busy_before_of_busy_after haccept hafter hbusy
        obtain ⟨pre, t, post, hsplit, harmed⟩ := h.servesUpdate hbusyBefore
        refine ⟨pre, t, post ++ [transition (timedStep P) c e], ?_,
          ⟨harmed.accepted, harmed.idleBefore, ?_, ?_⟩⟩
        · rw [hsplit, List.append_assoc, List.cons_append]
        · intro u hu
          rcases List.mem_append.mp hu with hold | hnew
          · exact harmed.busySince u hold
          · rw [List.mem_singleton.mp hnew]
            exact ⟨hbusyBefore, haccept⟩
        · have hkept : c'.engine.updateTimer = c.engine.updateTimer :=
            htimer.trans h.updateTimer.symm
          rw [timersAfter_append_singleton, applyTransition, transition_output,
            foldl_applyTimerCall (step_isTimer hinit hexpiry haccept), hkept]
          exact harmed.armed

/-- The invariant holds after every run that initializes the engine once, at
start-up. -/
theorem timerInvariant_of_run (armsOnCreate : Bool) (timers : UInt16 → BspTimer)
    {pNext : Fin n → Option (Fin n)} {world : W} {time : ℕ} {es : List (TimedEvent n)}
    (honce : ∀ e ∈ es, e.event ≠ .firmwareUpdateInit)
    {c : Config W n}
    (hreach : finalState (timedStep P) (Config.powerOn pNext world) (startUp time :: es) =
      some c) :
    TimerInvariant armsOnCreate timers
      (timedTrace P (Config.powerOn pNext world) (startUp time :: es)) c := by
  have hstart : (timedStep P (Config.powerOn pNext world) (startUp time)).2 =
      some ⟨{ EngineState.powerOn pNext with updateTimer := 1 }, world⟩ :=
    rfl
  rw [finalState, hstart] at hreach
  rw [timedTrace, trace, hstart]
  refine finalState_induction (motive := fun es c =>
    (∀ e ∈ es, e.event ≠ .firmwareUpdateInit) →
      TimerInvariant armsOnCreate timers
        (transition (timedStep P) (Config.powerOn pNext world) (startUp time) ::
          trace (timedStep P) ⟨{ EngineState.powerOn pNext with updateTimer := 1 }, world⟩ es)
        c) ?_ ?_ hreach honce
  · intro _
    exact timerInvariant_startUp P armsOnCreate timers pNext world time hstart
  · intro es c₁ e c₂ hbefore ih hafter hmem
    rw [trace_append_singleton e hbefore, ← List.cons_append]
    exact timerInvariant_step (hmem e (List.mem_append_right _ List.mem_cons_self))
      (ih fun e' he' => hmem e' (List.mem_append_left _ he')) hafter

/-- In particular it holds before every expiry. -/
theorem timerInvariant_before (armsOnCreate : Bool) (timers : UInt16 → BspTimer)
    {pNext : Fin n → Option (Fin n)} {world : W} {time : ℕ} {es : List (TimedEvent n)}
    (honce : ∀ e ∈ es, e.event ≠ .firmwareUpdateInit)
    {pre post : List (TimedTransition W n)} {t : TimedTransition W n}
    (hsplit : timedTrace P (Config.powerOn pNext world) (startUp time :: es) = pre ++ t :: post)
    (hexpiry : t.event.event = .updateTimer) :
    TimerInvariant armsOnCreate timers pre t.before := by
  obtain ⟨es₁, es₂, hes, hpre, hreach, -⟩ := trace_split hsplit
  cases es₁ with
  | nil =>
      rw [List.nil_append, List.cons.injEq] at hes
      rw [← hes.1] at hexpiry
      cases hexpiry
  | cons e es₁ =>
      rw [List.cons_append, List.cons.injEq] at hes
      obtain ⟨rfl, rfl⟩ := hes
      rw [hpre]
      exact timerInvariant_of_run armsOnCreate timers
        (fun e he => honce e (List.mem_append_left _ he)) hreach

end Invariant

/-- The engine is initialized once, at start-up.  Then an update in progress has
its timer armed for the full period since its own acceptance, and the expiry of
the timer ends it; and where only an armed timer expires, no expiry finds an
update that was accepted less than the full period before. -/
theorem failSafeTimer_guards_update (P : Platform W n) (armsOnCreate : Bool)
    (timers : UInt16 → BspTimer) (pNext : Fin n → Option (Fin n)) (world : W) (time : ℕ)
    (es : List (TimedEvent n)) (honce : ∀ e ∈ es, e.event ≠ .firmwareUpdateInit) :
    (∀ c, finalState (timedStep P) (Config.powerOn pNext world) (startUp time :: es) = some c →
      c.engine.currentOffer.updateInProgress = true →
        (∃ pre t post,
          timedTrace P (Config.powerOn pNext world) (startUp time :: es) = pre ++ t :: post ∧
            ArmedSince armsOnCreate timers
              (timedTrace P (Config.powerOn pNext world) (startUp time :: es)) c t post) ∧
        ∃ c', (step P c .updateTimer).2 = some c' ∧
          c'.engine.currentOffer.updateInProgress = false) ∧
    (ExpiriesObeyTimer armsOnCreate timers
        (timedTrace P (Config.powerOn pNext world) (startUp time :: es)) →
      ∀ pre t post,
        timedTrace P (Config.powerOn pNext world) (startUp time :: es) = pre ++ t :: post →
          t.event.event = .updateTimer →
            t.before.engine.currentOffer.updateInProgress = true →
              ∃ earlier u between, pre = earlier ++ u :: between ∧
                ArmedSince armsOnCreate timers pre t.before u between ∧
                u.event.time + maxFwUpdateTimeFailSafeMs.toNat ≤ t.event.time) := by
  constructor
  · intro c hreach hbusy
    exact ⟨(timerInvariant_of_run armsOnCreate timers honce hreach).servesUpdate hbusy,
      _, rfl, rfl⟩
  · intro hobey pre t post hsplit hexpiry hbusy
    have hinvariant := timerInvariant_before armsOnCreate timers honce hsplit hexpiry
    obtain ⟨earlier, u, between, hbetween, harmed⟩ := hinvariant.servesUpdate hbusy
    obtain ⟨since, hsince, hperiod⟩ := hobey pre t post hsplit hexpiry
    have htimer := harmed.armed
    rw [hinvariant.updateTimer] at htimer
    rw [htimer] at hsince hperiod
    cases hsince
    exact ⟨earlier, u, between, hbetween, harmed, hperiod⟩

/-! ## Two updates on one timer -/

/-- The completion handler ends an update, the next offer is accepted while the timer
of the first one still runs, and the timer expires. -/
def retriedUpdate : List (TimedEvent 1) :=
  [⟨1, .registerComponent (some onlyComponent)⟩, ⟨2, .offer (.plain 1 0) .zero⟩,
    ⟨3, .readComplete⟩, ⟨1000000, .offer (.plain 1 0) .zero⟩, ⟨2200000, .updateTimer⟩]

theorem failSafeTimer_guards_update_retried :
    ∃ (pre : List (TimedTransition Unit 1)) (t u : TimedTransition Unit 1)
      (between : List (TimedTransition Unit 1)), t.event.time = 2200000 ∧
      ArmedSince true (fun _ => ⟨0, none⟩) pre t.before u between ∧
      u.event.time + maxFwUpdateTimeFailSafeMs.toNat ≤ t.event.time := by
  have honce : ∀ e ∈ retriedUpdate, e.event ≠ .firmwareUpdateInit := by decide
  have hmax : maxFwUpdateTimeFailSafeMs.toNat = 1200000 := rfl
  obtain ⟨_, u, between, -, harmed, htime⟩ :=
    (failSafeTimer_guards_update (acceptingPlatform fun _ => 1) true (fun _ => ⟨0, none⟩)
      (fun _ => none) () 0 retriedUpdate honce).2 (by
        intro pre t post hsplit hexpiry
        rw [(timerInvariant_before true (fun _ => ⟨0, none⟩) honce hsplit hexpiry).timeoutMs,
          hmax]
        rcases pre with _ | ⟨t₁, _ | ⟨t₂, _ | ⟨t₃, _ | ⟨t₄, _ | ⟨t₅, _ | ⟨t₆, pre⟩⟩⟩⟩⟩⟩
        · cases hsplit
          cases hexpiry
        · cases hsplit
          cases hexpiry
        · cases hsplit
          cases hexpiry
        · cases hsplit
          cases hexpiry
        · cases hsplit
          cases hexpiry
        · cases hsplit
          exact ⟨1000000, rfl, Nat.le_of_ble_eq_true rfl⟩
        · rcases pre with _ | ⟨t₇, pre⟩ <;> cases hsplit)
      [_, _, _, _, _] _ [] rfl rfl rfl
  exact ⟨_, _, u, between, rfl, harmed, htime⟩

end Firmware
end CFU
