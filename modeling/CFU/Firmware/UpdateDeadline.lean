import CFU.Firmware.FailSafeTimer

/-!
# CFU firmware - the deadline of an update

That no expiry ends an update early is one half of what the fail-safe timer is for.  The
other half needs a timer that keeps its promise: where an armed timer expires as soon as
its period has passed, no update is in progress for longer than the period, and an engine
that answers BUSY does so only until then.

Main results:

- Definition {lit}`ExpiresWhenDue`: nothing happens while a timer is overdue.
- Theorem {lit}`update_ends_in_time`: an update in progress was accepted within the period,
  and behind it an offer is looked for again.
-/

namespace CFU
namespace Firmware

open EventRuns

variable {W : Type} {n : ℕ}

/-! ## A timer that expires when it is due -/

/-- While the timer is armed, nothing happens behind the end of its period. -/
def ExpiresWhenDue (armsOnCreate : Bool) (timers : UInt16 → BspTimer)
    (ts : List (TimedTransition W n)) : Prop :=
  ∀ pre t post, ts = pre ++ t :: post → ∀ since,
    (timersAfter armsOnCreate timers pre createdTimer).armedAt = some since →
      t.event.time ≤
        since + (timersAfter armsOnCreate timers pre createdTimer).timeoutMs.toNat

section Run

variable {P : Platform W n} {armsOnCreate : Bool} {timers : UInt16 → BspTimer}
  {pNext : Fin n → Option (Fin n)} {world : W} {time : ℕ} {es : List (TimedEvent n)}
  {pre post : List (TimedTransition W n)} {t : TimedTransition W n}

/-- The invariant of the timer holds behind start-up. -/
theorem timerInvariant_behind (honce : ∀ e ∈ es, e.event ≠ .firmwareUpdateInit)
    (hsplit : timedTrace P (Config.powerOn pNext world) (startUp time :: es) = pre ++ t :: post)
    (hpre : pre ≠ []) : TimerInvariant armsOnCreate timers pre t.before := by
  obtain ⟨es₁, es₂, hes, htrace, hreach, -⟩ := trace_split hsplit
  cases es₁ with
  | nil => exact absurd htrace hpre
  | cons e es₁ =>
      rw [List.cons_append, List.cons.injEq] at hes
      obtain ⟨rfl, rfl⟩ := hes
      rw [htrace]
      apply timerInvariant_of_run armsOnCreate timers _ hreach
      intro e he
      exact honce e (List.mem_append_left _ he)

/-- The first transition of a run starts from power on. -/
theorem idle_of_first (h : timedTrace P (Config.powerOn pNext world) (startUp time :: es) =
    [] ++ t :: post) : t.before.engine.currentOffer.updateInProgress = false := by
  rw [timedTrace, trace, List.nil_append, List.cons.injEq] at h
  rw [← h.1]
  rfl

/-- Where the timer expires when it is due, an update in progress was accepted within the
period, and the timer is armed since then. -/
theorem accepted_within_period (honce : ∀ e ∈ es, e.event ≠ .firmwareUpdateInit)
    (hdue : ExpiresWhenDue armsOnCreate timers
      (timedTrace P (Config.powerOn pNext world) (startUp time :: es)))
    (hsplit : timedTrace P (Config.powerOn pNext world) (startUp time :: es) = pre ++ t :: post)
    (hbusy : t.before.engine.currentOffer.updateInProgress = true) :
    ∃ earlier u between, pre = earlier ++ u :: between ∧
      ArmedSince armsOnCreate timers pre t.before u between ∧
      t.event.time ≤ u.event.time + maxFwUpdateTimeFailSafeMs.toNat := by
  have hpre : pre ≠ [] := by
    rintro rfl
    rw [idle_of_first hsplit] at hbusy
    cases hbusy
  have hinvariant : TimerInvariant armsOnCreate timers pre t.before :=
    timerInvariant_behind honce hsplit hpre
  obtain ⟨earlier, u, between, hbetween, harmed⟩ := hinvariant.servesUpdate hbusy
  have htimer := harmed.armed
  rw [hinvariant.updateTimer] at htimer
  have hlate := hdue pre t post hsplit u.event.time
  rw [htimer] at hlate
  exact ⟨earlier, u, between, hbetween, harmed, hlate rfl⟩

/-- An idle engine looks for the component of an offer, unless a pending swap turns the
offer away or it asks for the status. -/
theorem EngineState.reachesList_of_idle {s : EngineState n} {pCommand : FwUpdateOfferCommand}
    (hidle : s.currentOffer.updateInProgress = false) (hget : pCommand.isGetStatus = false)
    (hopen : s.bankSwapPending = true →
      pCommand.componentInfo.componentId = cfuSpecialOfferCmd) :
    s.reachesList pCommand = true := by
  unfold reachesList
  rw [hidle, hget]
  cases hpending : s.bankSwapPending with
  | false => simp
  | true => simp [hopen hpending]

end Run

/-- The engine is initialized once, at start-up, and an armed timer expires when it is due.
Then an update in progress was accepted within the period, and behind the period of every
acceptance an offer is looked for on the registration list again. -/
theorem update_ends_in_time (P : Platform W n) (armsOnCreate : Bool)
    (timers : UInt16 → BspTimer) (pNext : Fin n → Option (Fin n)) (world : W) (time : ℕ)
    (es : List (TimedEvent n)) (honce : ∀ e ∈ es, e.event ≠ .firmwareUpdateInit)
    (hdue : ExpiresWhenDue armsOnCreate timers
      (timedTrace P (Config.powerOn pNext world) (startUp time :: es))) :
    ∀ pre t post,
      timedTrace P (Config.powerOn pNext world) (startUp time :: es) = pre ++ t :: post →
        (t.before.engine.currentOffer.updateInProgress = true →
          ∃ earlier u between, pre = earlier ++ u :: between ∧
            ArmedSince armsOnCreate timers pre t.before u between ∧
            t.event.time ≤ u.event.time + maxFwUpdateTimeFailSafeMs.toNat) ∧
        ((∀ u ∈ pre, (timedAcceptance u).isSome = true →
            u.event.time + maxFwUpdateTimeFailSafeMs.toNat < t.event.time) →
          ∀ pCommand : FwUpdateOfferCommand, pCommand.isGetStatus = false →
            (t.before.engine.bankSwapPending = true →
              pCommand.componentInfo.componentId = cfuSpecialOfferCmd) →
            t.before.engine.reachesList pCommand = true) := by
  intro pre t post hsplit
  have hwithin := accepted_within_period honce hdue hsplit
  refine ⟨hwithin, ?_⟩
  intro hlate pCommand hget hopen
  apply EngineState.reachesList_of_idle _ hget hopen
  by_contra hbusy
  rw [Bool.not_eq_false] at hbusy
  obtain ⟨earlier, u, between, hbetween, harmed, htime⟩ := hwithin hbusy
  obtain ⟨a, haccept⟩ := harmed.accepted
  have hmem : u ∈ pre := by
    rw [hbetween]
    simp
  have hpassed := hlate u hmem (Option.isSome_iff_exists.2 ⟨a, haccept⟩)
  omega

/-! ## An update that is given up -/

/-- An offer is accepted, its host falls silent, and the timer expires when it is due.  The
next offer comes later. -/
def silentHost : List (TimedEvent 1) :=
  [⟨1, .registerComponent (some onlyComponent)⟩, ⟨2, .offer (.plain 1 0) .zero⟩,
    ⟨1200002, .updateTimer⟩, ⟨1300000, .offer (.plain 1 1) .zero⟩]

theorem update_ends_in_time_silentHost :
    ∃ (pre : List (TimedTransition Unit 1)) (t : TimedTransition Unit 1),
      timedTrace (acceptingPlatform fun _ => 1) (Config.powerOn (fun _ => none) ())
        (startUp 0 :: silentHost) = pre ++ [t] ∧
      t.before.engine.reachesList (.plain 1 1) = true := by
  have hdue : ExpiresWhenDue true (fun _ => ⟨0, none⟩)
      (timedTrace (acceptingPlatform fun _ => 1) (Config.powerOn (fun _ => none) ())
        (startUp 0 :: silentHost)) := by
    intro pre t post hsplit since hsince
    rcases pre with _ | ⟨t₁, _ | ⟨t₂, _ | ⟨t₃, _ | ⟨t₄, _ | ⟨t₅, pre⟩⟩⟩⟩⟩
    · cases hsplit
      cases hsince
    · cases hsplit
      cases hsince
    · cases hsplit
      cases hsince
    · cases hsplit
      cases hsince
      exact Nat.le_of_ble_eq_true rfl
    · cases hsplit
      cases hsince
    · rcases pre with _ | ⟨t₆, pre⟩ <;> cases hsplit
  refine ⟨[_, _, _, _], _, rfl, ?_⟩
  apply (update_ends_in_time (acceptingPlatform fun _ => 1) true (fun _ => ⟨0, none⟩)
    (fun _ => none) () 0 silentHost (by decide) hdue [_, _, _, _] _ [] rfl).2
  · intro u hu haccept
    simp only [List.mem_cons, List.not_mem_nil, or_false] at hu
    rcases hu with rfl | rfl | rfl | rfl
    · cases haccept
    · cases haccept
    · exact Nat.le_of_ble_eq_true rfl
    · cases haccept
  · rfl
  · intro hpending
    cases hpending

end Firmware
end CFU
