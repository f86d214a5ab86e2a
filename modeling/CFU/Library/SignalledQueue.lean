import Mathlib.Data.List.Basic
import Mathlib.Tactic.Common

/-!
# Signalled queues - a worker that takes one entry for each signal

Producers append an entry to a queue and set a signal afterwards.  A worker that waits
for the signal resets it, takes one entry and hands it over.  The signal does not count:
setting it once more before the worker has seen it changes nothing.

Main results:

- Structure {lit}`Accounted`: where every entry and every signal of a run has gone.
- Theorem {lit}`Accounted.settled_iff`: a queue at rest has handed over all entries
  exactly when no signal was set that was set already.
- Theorem {lit}`Accounted.signalled_eq_false`: no signal is lost while at most one entry
  is outstanding.
- Theorem {lit}`possible_of_not_settled`: a queue that is not at rest can do one of the
  operations that {lit}`State.work` counts down.

Current gaps:

- None for one worker and one signal.
-/

namespace SignalledQueue

universe u

/-- What the worker does. -/
inductive Worker (α : Type u) where
  | idle
  | awake
  | holding (entry : α)
deriving DecidableEq, Repr

/-- A queue, with the number of producers that still have to set the signal. -/
structure State (α : Type u) where
  queue : List α
  producers : ℕ
  signalled : Bool
  worker : Worker α
deriving DecidableEq, Repr

variable {α : Type u}

/-- Nothing has happened. -/
def empty : State α where
  queue := []
  producers := 0
  signalled := false
  worker := .idle

/-! ## Operations -/

/-- A producer appends an entry. -/
def State.put (s : State α) (entry : α) : State α :=
  { s with queue := s.queue ++ [entry], producers := s.producers + 1 }

/-- A producer sets the signal. -/
def State.signal (s : State α) : Option (State α) :=
  match s.producers with
  | 0 => none
  | producers + 1 => some { s with producers := producers, signalled := true }

/-- The worker sees the signal and resets it. -/
def State.wake (s : State α) : Option (State α) :=
  match s.worker, s.signalled with
  | .idle, true => some { s with signalled := false, worker := .awake }
  | _, _ => none

/-- The worker takes the first entry, or finds none. -/
def State.take (s : State α) : Option (State α) :=
  match s.worker, s.queue with
  | .awake, [] => some { s with worker := .idle }
  | .awake, entry :: queue => some { s with queue := queue, worker := .holding entry }
  | _, _ => none

/-- The worker hands over the entry that it took. -/
def State.finish (s : State α) : Option (α × State α) :=
  match s.worker with
  | .holding entry => some (entry, { s with worker := .idle })
  | _ => none

/-! ## Accounts -/

/-- The entry that the worker has taken and not handed over. -/
def Worker.held : Worker α → List α
  | .holding entry => [entry]
  | _ => []

/-- The entries that a worker will take before it waits again. -/
def Worker.due : Worker α → ℕ
  | .awake => 1
  | _ => 0

/-- Every entry that was put is handed over, held or in the queue, in this order, and
every entry of the queue has its signal: one that is still to be set, one that was lost,
the one that is set, or the one that woke the worker. -/
structure Accounted (lost : ℕ) (entries handedOver : List α) (s : State α) : Prop where
  order : entries = handedOver ++ s.worker.held ++ s.queue
  length : s.queue.length = s.producers + lost + s.signalled.toNat + s.worker.due

variable {lost : ℕ} {entries handedOver : List α} {s s' : State α}

theorem accounted_empty : Accounted 0 [] [] (empty : State α) where
  order := rfl
  length := rfl

theorem Accounted.put (h : Accounted lost entries handedOver s) (entry : α) :
    Accounted lost (entries ++ [entry]) handedOver (s.put entry) where
  order := by
    rw [h.order, State.put, List.append_assoc _ s.queue]
  length := by
    have hlength := h.length
    simp only [State.put, List.length_append, List.length_singleton]
    omega

/-- A signal that is set already is lost. -/
theorem Accounted.signal (h : Accounted lost entries handedOver s) (hsignal : s.signal = some s') :
    Accounted (lost + s.signalled.toNat) entries handedOver s' := by
  unfold State.signal at hsignal
  cases hproducers : s.producers with
  | zero => simp [hproducers] at hsignal
  | succ producers =>
      simp only [hproducers, Option.some.injEq] at hsignal
      subst hsignal
      refine ⟨h.order, ?_⟩
      have hlength := h.length
      simp only [Bool.toNat_true]
      omega

theorem Accounted.wake (h : Accounted lost entries handedOver s) (hwake : s.wake = some s') :
    Accounted lost entries handedOver s' := by
  have horder := h.order
  have hlength := h.length
  unfold State.wake at hwake
  split at hwake
  · next hidle hsignalled =>
    cases hwake
    rw [hidle] at horder
    rw [hidle, hsignalled] at hlength
    exact ⟨horder, hlength⟩
  · cases hwake

/-- A worker that was woken finds an entry. -/
theorem Accounted.queue_ne_nil (h : Accounted lost entries handedOver s)
    (hawake : s.worker = .awake) :
    s.queue ≠ [] := by
  have hlength := h.length
  rw [hawake, Worker.due] at hlength
  apply List.ne_nil_of_length_pos
  omega

theorem Accounted.take (h : Accounted lost entries handedOver s) (htake : s.take = some s') :
    Accounted lost entries handedOver s' := by
  have horder := h.order
  have hlength := h.length
  unfold State.take at htake
  split at htake
  · next hawake hqueue => exact absurd hqueue (h.queue_ne_nil hawake)
  · next entry queue hawake hqueue =>
    cases htake
    rw [hawake, hqueue] at horder hlength
    refine ⟨?_, ?_⟩
    · rw [horder]
      simp [Worker.held]
    · simp only [List.length_cons, Worker.due] at hlength ⊢
      omega
  · cases htake

theorem Accounted.finish {entry : α} (h : Accounted lost entries handedOver s)
    (hfinish : s.finish = some (entry, s')) :
    Accounted lost entries (handedOver ++ [entry]) s' := by
  have horder := h.order
  have hlength := h.length
  unfold State.finish at hfinish
  split at hfinish
  · next entry' hholding =>
    cases hfinish
    rw [hholding] at horder hlength
    refine ⟨?_, hlength⟩
    rw [horder]
    simp [Worker.held]
  · cases hfinish

/-! ## Queues at rest -/

/-- No producer is under way, the signal is not set, and the worker waits. -/
structure Settled (s : State α) : Prop where
  producers : s.producers = 0
  signalled : s.signalled = false
  worker : s.worker = .idle

/-- A queue at rest holds one entry for every lost signal. -/
theorem Accounted.length_of_settled (h : Accounted lost entries handedOver s)
    (hsettled : Settled s) : s.queue.length = lost := by
  have hlength := h.length
  rw [hsettled.producers, hsettled.signalled, hsettled.worker] at hlength
  simpa [Worker.due] using hlength

/-- A queue at rest has handed over all entries exactly when no signal was lost. -/
theorem Accounted.settled_iff (h : Accounted lost entries handedOver s) (hsettled : Settled s) :
    (s.queue = [] ∧ handedOver = entries) ↔ lost = 0 := by
  constructor
  · rintro ⟨hempty, -⟩
    rw [← h.length_of_settled hsettled, hempty]
    rfl
  · intro hnone
    have hempty : s.queue = [] := by
      rw [← List.length_eq_zero_iff, h.length_of_settled hsettled, hnone]
    refine ⟨hempty, ?_⟩
    rw [h.order, hsettled.worker, hempty]
    simp [Worker.held]

/-! ## Entries that are outstanding -/

/-- The entries that were handed over are the first ones. -/
theorem Accounted.handedOver_prefix (h : Accounted lost entries handedOver s) :
    handedOver <+: entries := by
  rw [h.order, List.append_assoc]
  exact List.prefix_append _ _

/-- A queue at rest has handed over all entries but as many of the last ones as signals
were lost, and holds these. -/
theorem Accounted.split_of_settled (h : Accounted lost entries handedOver s)
    (hsettled : Settled s) :
    entries = handedOver ++ s.queue ∧ s.queue.length = lost := by
  refine ⟨?_, h.length_of_settled hsettled⟩
  have horder := h.order
  rw [hsettled.worker] at horder
  simpa [Worker.held] using horder

/-- While no signal was lost and no other entry is outstanding, a producer that still has
to set the signal finds it reset. -/
theorem Accounted.signalled_eq_false (h : Accounted 0 entries handedOver s)
    (hproducers : s.producers ≠ 0) (houtstanding : entries.length ≤ handedOver.length + 1) :
    s.signalled = false := by
  have horder := congrArg List.length h.order
  have hlength := h.length
  simp only [List.length_append] at horder
  cases hsignalled : s.signalled with
  | false => rfl
  | true =>
      rw [hsignalled, Bool.toNat_true] at hlength
      omega

/-! ## The work that is left -/

/-- The operations that a worker has left before it waits again. -/
def Worker.work : Worker α → ℕ
  | .idle => 0
  | .holding _ => 1
  | .awake => 2

/-- A bound on the operations that are left if no entry is put any more. -/
def State.work (s : State α) : ℕ :=
  4 * s.producers + 3 * s.signalled.toNat + s.worker.work

@[simp]
theorem work_put (s : State α) (entry : α) : (s.put entry).work = s.work + 4 := by
  simp only [State.work, State.put]
  omega

theorem work_signal (hsignal : s.signal = some s') : s'.work < s.work := by
  unfold State.signal at hsignal
  cases hproducers : s.producers with
  | zero => simp [hproducers] at hsignal
  | succ producers =>
      simp only [hproducers, Option.some.injEq] at hsignal
      subst hsignal
      simp only [State.work, hproducers, Bool.toNat_true]
      omega

theorem work_wake (hwake : s.wake = some s') : s'.work < s.work := by
  unfold State.wake at hwake
  split at hwake
  · next hidle hsignalled =>
    cases hwake
    simp [State.work, Worker.work, hidle, hsignalled]
  · cases hwake

theorem work_take (htake : s.take = some s') : s'.work < s.work := by
  unfold State.take at htake
  split at htake
  · next hawake hqueue =>
    cases htake
    simp [State.work, Worker.work, hawake]
  · next entry queue hawake hqueue =>
    cases htake
    simp [State.work, Worker.work, hawake]
  · cases htake

theorem work_finish {entry : α} (hfinish : s.finish = some (entry, s')) : s'.work < s.work := by
  unfold State.finish at hfinish
  split at hfinish
  · next entry' hholding =>
    cases hfinish
    simp [State.work, Worker.work, hholding]
  · cases hfinish

/-- One of the operations other than {lit}`put` is possible. -/
def State.Possible (s : State α) : Prop :=
  s.signal ≠ none ∨ s.wake ≠ none ∨ s.take ≠ none ∨ s.finish ≠ none

/-- A queue that is not at rest can go on. -/
theorem possible_of_not_settled (hsettled : ¬ Settled s) : s.Possible := by
  cases hworker : s.worker with
  | awake =>
      have htake : s.take ≠ none := by
        unfold State.take
        cases hqueue : s.queue with
        | nil => simp [hworker]
        | cons entry queue => simp [hworker]
      exact .inr (.inr (.inl htake))
  | holding entry =>
      have hfinish : s.finish ≠ none := by simp [State.finish, hworker]
      exact .inr (.inr (.inr hfinish))
  | idle =>
      cases hsignalled : s.signalled with
      | true =>
          have hwake : s.wake ≠ none := by simp [State.wake, hworker, hsignalled]
          exact .inr (.inl hwake)
      | false =>
          have hproducers : s.producers ≠ 0 :=
            fun hnone => hsettled ⟨hnone, hsignalled, hworker⟩
          have hsignal : s.signal ≠ none := by
            unfold State.signal
            cases hcount : s.producers with
            | zero => exact absurd hcount hproducers
            | succ producers => simp
          exact .inl hsignal

/-! ## The entries that are left -/

/-- A bound on the entries that are handed over if none is put any more. -/
def State.due (s : State α) : ℕ :=
  s.producers + s.signalled.toNat + s.worker.due + s.worker.held.length

/-- As long as no signal was lost, every entry that is outstanding is handed over. -/
theorem Accounted.due_eq (h : Accounted 0 entries handedOver s) :
    entries.length = handedOver.length + s.due := by
  have horder := congrArg List.length h.order
  have hlength := h.length
  simp only [List.length_append] at horder
  unfold State.due
  omega

/-- With no entry outstanding and no signal lost, nothing is left of the run. -/
theorem Accounted.eq_empty (h : Accounted 0 entries handedOver s) (hdue : s.due = 0) :
    s = empty := by
  obtain ⟨queue, producers, signalled, worker⟩ := s
  have hlength := h.length
  simp only [State.due] at hdue hlength
  have hproducers : producers = 0 := by omega
  have hsignalled : signalled = false := Bool.toNat_eq_zero.mp (by omega)
  have hqueue : queue = [] := List.length_eq_zero_iff.mp (by omega)
  have hworker : worker = .idle := by
    cases worker with
    | idle => rfl
    | awake => simp [Worker.due] at hdue
    | holding entry => simp [Worker.held] at hdue
  rw [hproducers, hsignalled, hqueue, hworker]
  rfl

/-- An entry takes four operations. -/
theorem work_le_due (s : State α) : s.work ≤ 4 * s.due := by
  unfold State.work State.due
  cases s.worker with
  | idle =>
      simp only [Worker.work]
      omega
  | awake =>
      simp only [Worker.work, Worker.due]
      omega
  | holding entry =>
      simp only [Worker.work, Worker.held, List.length_singleton]
      omega

/-- A queue at rest hands over nothing. -/
theorem Settled.due_eq_zero (hsettled : Settled s) : s.due = 0 := by
  rw [State.due, hsettled.producers, hsettled.signalled, hsettled.worker]
  rfl

theorem due_signal (hsignal : s.signal = some s') : s'.due ≤ s.due := by
  unfold State.signal at hsignal
  cases hproducers : s.producers with
  | zero => simp [hproducers] at hsignal
  | succ producers =>
      simp only [hproducers, Option.some.injEq] at hsignal
      subst hsignal
      simp only [State.due, hproducers, Bool.toNat_true]
      omega

theorem due_wake (hwake : s.wake = some s') : s'.due ≤ s.due := by
  unfold State.wake at hwake
  split at hwake
  · next hidle hsignalled =>
    cases hwake
    simp [State.due, Worker.due, Worker.held, hidle, hsignalled]
  · cases hwake

theorem due_take (htake : s.take = some s') : s'.due ≤ s.due := by
  unfold State.take at htake
  split at htake
  · next hawake hqueue =>
    cases htake
    simp [State.due, Worker.due, Worker.held, hawake]
  · next entry queue hawake hqueue =>
    cases htake
    simp [State.due, Worker.due, Worker.held, hawake]
  · cases htake

theorem due_finish {entry : α} (hfinish : s.finish = some (entry, s')) : s'.due + 1 = s.due := by
  unfold State.finish at hfinish
  split at hfinish
  · next entry' hholding =>
    cases hfinish
    simp [State.due, Worker.due, Worker.held, hholding]
  · cases hfinish

end SignalledQueue
