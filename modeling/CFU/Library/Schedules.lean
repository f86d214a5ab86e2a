import CFU.Library.Runs

/-!
# Event runs - schedules

A schedule chooses the next event from the events so far and the state that they led to.
A party that waits for something lets the events of the others happen in the order of the
schedule, until one of them shows what it waits for.

Main results:

- Definition {lit}`runUntil`: the events of a schedule until something is shown.
- Theorem {lit}`runUntil_spec`: they are a run, which shows nothing before its end.
- Theorem {lit}`RunsUntil.isSome`: if they lower a measure, and the schedule goes on as long
  as nothing is shown, something is shown.

Current gaps:

- None for schedules without randomness.
-/

namespace EventRuns

universe u v w x

/-- A state, with the events that led to it. -/
structure Recorded (σ : Type u) (ε : Type v) where
  state : σ
  events : List ε

/-- The choice of the next event. -/
abbrev Schedule (σ : Type u) (ε : Type v) :=
  List ε → σ → ε

variable {σ : Type u} {ε : Type v} {ω : Type w} {α : Type x}

/-- Nothing has happened. -/
def Recorded.start (s : σ) : Recorded σ ε where
  state := s
  events := []

/-- One more event. -/
def Recorded.after (r : Recorded σ ε) (e : ε) (s : σ) : Recorded σ ε where
  state := s
  events := r.events ++ [e]

/-- A recorded state is reached from {lit}`s` by its events. -/
def Recorded.ReachedFrom (step : σ → ε → ω × Option σ) (s : σ) (r : Recorded σ ε) : Prop :=
  finalState step s r.events = some r.state

/-- The events of the schedule until one of them shows something, at most {lit}`n` of them.
They end early when the schedule chooses an event of the waiting party itself, or one that
is not possible. -/
def runUntil (step : σ → ε → ω × Option σ) (look : ω → Option α) (own : ε → Bool)
    (schedule : Schedule σ ε) : ℕ → Recorded σ ε → Option α × Recorded σ ε
  | 0, r => (none, r)
  | n + 1, r =>
      let e := schedule r.events r.state
      if own e then (none, r)
      else
        match (step r.state e).2 with
        | none => (none, r)
        | some s =>
            match look (step r.state e).1 with
            | some a => (some a, r.after e s)
            | none => runUntil step look own schedule n (r.after e s)

/-! ## Runs of a schedule -/

section Schedules

variable {step : σ → ε → ω × Option σ} {look : ω → Option α} {own : ε → Bool}
  {schedule : Schedule σ ε}

theorem Recorded.reachedFrom_start (s : σ) :
    (Recorded.start s : Recorded σ ε).ReachedFrom step s :=
  rfl

/-- What can be seen of a run. -/
def seen (look : ω → Option α) (ts : List (Transition σ ε ω)) : List α :=
  ts.filterMap fun t => look t.output

theorem seen_append (look : ω → Option α) (ts us : List (Transition σ ε ω)) :
    seen look (ts ++ us) = seen look ts ++ seen look us :=
  List.filterMap_append

/-- The schedule chooses an event of the others that is possible. -/
def Schedule.GoesOn (step : σ → ε → ω × Option σ) (own : ε → Bool) (schedule : Schedule σ ε)
    (r : Recorded σ ε) : Prop :=
  own (schedule r.events r.state) = false ∧ (step r.state (schedule r.events r.state)).2 ≠ none

/-- The events of the schedule are a run of the others.  It shows what is returned and
nothing else, and without it the schedule has made all its events or does not go on. -/
structure RunsUntil (step : σ → ε → ω × Option σ) (look : ω → Option α) (own : ε → Bool)
    (schedule : Schedule σ ε) (n : ℕ) (r : Recorded σ ε) (a : Option α) (r' : Recorded σ ε)
    (taken : List ε) : Prop where
  events : r'.events = r.events ++ taken
  others : ∀ e ∈ taken, own e = false
  state : finalState step r.state taken = some r'.state
  seen : seen look (trace step r.state taken) = a.toList
  ends : a = none → schedule.GoesOn step own r' → taken.length = n

/-- One more event in front. -/
theorem RunsUntil.cons {n : ℕ} {r r' : Recorded σ ε} {a : Option α} {e : ε} {s : σ}
    {taken : List ε} (hown : own e = false) (hstep : (step r.state e).2 = some s)
    (hlook : look (step r.state e).1 = none)
    (h : RunsUntil step look own schedule n (r.after e s) a r' taken) :
    RunsUntil step look own schedule (n + 1) r a r' (e :: taken) where
  events := by
    rw [h.events, Recorded.after, List.append_assoc, List.singleton_append]
  others := by
    simp only [List.mem_cons, forall_eq_or_imp]
    exact ⟨hown, h.others⟩
  state := by
    rw [finalState, hstep]
    exact h.state
  seen := by
    have hseen := h.seen
    rw [EventRuns.seen] at hseen ⊢
    rw [trace, hstep, List.filterMap_cons_none]
    · exact hseen
    · exact hlook
  ends ha hgoes := by
    rw [List.length_cons, h.ends ha hgoes]

/-- What {lit}`runUntil` does. -/
theorem runUntil_spec (n : ℕ) (r : Recorded σ ε) :
    ∃ taken, RunsUntil step look own schedule n r (runUntil step look own schedule n r).1
      (runUntil step look own schedule n r).2 taken := by
  induction n generalizing r with
  | zero => exact ⟨[], (List.append_nil _).symm, by simp, rfl, rfl, fun _ _ => rfl⟩
  | succ n ih =>
      cases hown : own (schedule r.events r.state) with
      | true =>
          have hend : runUntil step look own schedule (n + 1) r = (none, r) := by
            simp [runUntil, hown]
          rw [hend]
          refine ⟨[], (List.append_nil _).symm, by simp, rfl, rfl, fun _ hgoes => ?_⟩
          rw [hgoes.1] at hown
          cases hown
      | false =>
          cases hstep : (step r.state (schedule r.events r.state)).2 with
          | none =>
              have hend : runUntil step look own schedule (n + 1) r = (none, r) := by
                simp [runUntil, hown, hstep]
              rw [hend]
              exact ⟨[], (List.append_nil _).symm, by simp, rfl, rfl,
                fun _ hgoes => absurd hstep hgoes.2⟩
          | some s =>
              cases hlook : look (step r.state (schedule r.events r.state)).1 with
              | some a =>
                  have hend : runUntil step look own schedule (n + 1) r =
                      (some a, r.after (schedule r.events r.state) s) := by
                    simp [runUntil, hown, hstep, hlook]
                  rw [hend]
                  refine ⟨[schedule r.events r.state], rfl, by simpa using hown, ?_, ?_, nofun⟩
                  · rw [finalState, hstep]
                    rfl
                  · rw [trace, hstep]
                    simp [seen, hlook]
              | none =>
                  have hgo : runUntil step look own schedule (n + 1) r =
                      runUntil step look own schedule n
                        (r.after (schedule r.events r.state) s) := by
                    simp [runUntil, hown, hstep, hlook]
                  rw [hgo]
                  obtain ⟨taken, htaken⟩ := ih (r.after (schedule r.events r.state) s)
                  exact ⟨_, htaken.cons hown hstep hlook⟩

/-- The events lead on from where the recorded ones led. -/
theorem RunsUntil.reachedFrom {n : ℕ} {s : σ} {r r' : Recorded σ ε} {a : Option α}
    {taken : List ε} (h : RunsUntil step look own schedule n r a r' taken)
    (hreach : r.ReachedFrom step s) : r'.ReachedFrom step s := by
  rw [Recorded.ReachedFrom, h.events, finalState_append taken hreach]
  exact h.state

/-- What is seen of the recorded events, and what is returned. -/
theorem RunsUntil.seen_trace {n : ℕ} {s : σ} {r r' : Recorded σ ε} {a : Option α}
    {taken : List ε} (h : RunsUntil step look own schedule n r a r' taken)
    (hreach : r.ReachedFrom step s) :
    EventRuns.seen look (trace step s r'.events) =
      EventRuns.seen look (trace step s r.events) ++ a.toList := by
  rw [h.events, trace_append taken hreach, seen_append, h.seen]

/-- Events that lower a measure come to an end, so a schedule that goes on until something
is shown shows it. -/
theorem RunsUntil.isSome {n : ℕ} {r r' : Recorded σ ε} {a : Option α} {taken : List ε}
    (h : RunsUntil step look own schedule n r a r' taken) (μ : σ → ℕ)
    (hlowers : ∀ s e s', own e = false → (step s e).2 = some s' → μ s' < μ s)
    (hn : μ r.state < n) (hgoes : a = none → schedule.GoesOn step own r') :
    a.isSome = true := by
  cases ha : a with
  | some b => rfl
  | none =>
      have hlength := measure_add_length_le μ (fun e => own e = false) hlowers h.others h.state
      have hall := h.ends ha (hgoes ha)
      omega

end Schedules

end EventRuns
