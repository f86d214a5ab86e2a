import Mathlib.Data.List.Basic
import Mathlib.Data.List.Induction
import Mathlib.Tactic.Common

/-!
# Event runs - traces of a deterministic event system

A system is a function {lit}`step` that consumes one event in a state, produces
an output, and either reaches a next state or stops.  The trace of a run lists
its transitions with the states between which they happened, so that temporal
properties are statements about positions in a list.

Main results:

- Theorem {lit}`trace_split`: a position in a trace is a step from the state
  that the events before it reach.
- Theorem {lit}`forall_trace_of_invariant`: an inductive invariant holds before
  and after every transition.
- Theorem {lit}`history_of_step`: an invariant that also reads the transitions
  made so far holds after every run.
- Theorem {lit}`trace_dropAt`: deleting transitions that leave the state alone
  deletes exactly those entries from the trace.

Current gaps:

- None for finite runs; infinite runs are not needed here.
-/

namespace EventRuns

universe u v w

variable {σ : Type u} {ε : Type v} {ω : Type w}

/-! ## Traces -/

/-- One executed step.  There is no state after a step that stopped the system. -/
structure Transition (σ : Type u) (ε : Type v) (ω : Type w) where
  before : σ
  event : ε
  output : ω
  after : Option σ

/-- The transition that {lit}`step` makes on one event. -/
def transition (step : σ → ε → ω × Option σ) (s : σ) (e : ε) : Transition σ ε ω where
  before := s
  event := e
  output := (step s e).1
  after := (step s e).2

/-- The transitions of a run, oldest first; nothing follows a stop. -/
def trace (step : σ → ε → ω × Option σ) : σ → List ε → List (Transition σ ε ω)
  | _, [] => []
  | s, e :: es =>
      transition step s e ::
        match (step s e).2 with
        | none => []
        | some s' => trace step s' es

/-- The state that a run reaches, unless it stops on the way. -/
def finalState (step : σ → ε → ω × Option σ) : σ → List ε → Option σ
  | s, [] => some s
  | s, e :: es =>
      match (step s e).2 with
      | none => none
      | some s' => finalState step s' es

variable {step : σ → ε → ω × Option σ}

@[simp]
theorem trace_nil (s : σ) : trace step s [] = [] :=
  rfl

@[simp]
theorem finalState_nil (s : σ) : finalState step s [] = some s :=
  rfl

@[simp]
theorem transition_before (s : σ) (e : ε) : (transition step s e).before = s :=
  rfl

@[simp]
theorem transition_event (s : σ) (e : ε) : (transition step s e).event = e :=
  rfl

@[simp]
theorem transition_output (s : σ) (e : ε) :
    (transition step s e).output = (step s e).1 :=
  rfl

@[simp]
theorem transition_after (s : σ) (e : ε) :
    (transition step s e).after = (step s e).2 :=
  rfl

/-- Every entry of a trace is the transition of its own state and event. -/
theorem eq_transition_of_mem_trace {s : σ} {es : List ε} {t : Transition σ ε ω}
    (ht : t ∈ trace step s es) : t = transition step t.before t.event := by
  induction es generalizing s with
  | nil => simp at ht
  | cons e es ih =>
      rw [trace, List.mem_cons] at ht
      rcases ht with rfl | ht
      · rfl
      · cases hstep : (step s e).2 with
        | none => simp [hstep] at ht
        | some s' =>
            rw [hstep] at ht
            exact ih ht

/-- A beginning of a trace is the trace of the first events. -/
theorem trace_take (s : σ) (es : List ε) (k : ℕ) :
    (trace step s es).take k = trace step s (es.take k) := by
  induction es generalizing s k with
  | nil => simp
  | cons e es ih =>
      cases k with
      | zero => rfl
      | succ k =>
          rw [List.take_succ_cons, trace, trace, List.take_succ_cons]
          cases (step s e).2 with
          | none => simp
          | some s' => exact congrArg _ (ih s' k)

/-- The trace of the first events is a beginning of the trace. -/
theorem trace_prefix (s : σ) {es es' : List ε} (h : es' <+: es) :
    trace step s es' <+: trace step s es := by
  rw [List.prefix_iff_eq_take.mp h, ← trace_take]
  exact List.take_prefix _ _

/-- The entry at an index splits a trace. -/
theorem trace_split_getElem? {s : σ} {es : List ε} {i : ℕ} {t : Transition σ ε ω}
    (hi : (trace step s es)[i]? = some t) :
    trace step s es = (trace step s es).take i ++ t :: (trace step s es).drop (i + 1) := by
  obtain ⟨hlt, hget⟩ := List.getElem?_eq_some_iff.mp hi
  rw [← hget, ← List.drop_eq_getElem_cons hlt, List.take_append_drop]

/-- Every entry behind a position of a trace is a transition, too. -/
theorem eq_transition_of_mem_post {s : σ} {es : List ε} {pre post : List (Transition σ ε ω)}
    {t : Transition σ ε ω} (hsplit : trace step s es = pre ++ t :: post) :
    ∀ u ∈ post, u = transition step u.before u.event := by
  intro u hu
  have hmem : u ∈ trace step s es := by
    rw [hsplit]
    exact List.mem_append_right _ (List.mem_cons_of_mem _ hu)
  exact eq_transition_of_mem_trace hmem

/-- The events of a trace are events of the run. -/
theorem event_mem_of_mem_trace {s : σ} {es : List ε} {t : Transition σ ε ω}
    (ht : t ∈ trace step s es) : t.event ∈ es := by
  induction es generalizing s with
  | nil => simp at ht
  | cons e es ih =>
      rw [trace, List.mem_cons] at ht
      rcases ht with rfl | ht
      · exact List.mem_cons_self
      · cases hstep : (step s e).2 with
        | none => simp [hstep] at ht
        | some s' =>
            rw [hstep] at ht
            exact List.mem_cons_of_mem e (ih ht)

/-- A position in a trace is a step from the state its prefix reaches. -/
theorem trace_split {s : σ} {es : List ε} {pre post : List (Transition σ ε ω)}
    {t : Transition σ ε ω} (h : trace step s es = pre ++ t :: post) :
    ∃ es₁ es₂, es = es₁ ++ t.event :: es₂ ∧ pre = trace step s es₁ ∧
      finalState step s es₁ = some t.before ∧
      post = match t.after with
        | none => []
        | some s' => trace step s' es₂ := by
  induction es generalizing s pre with
  | nil => simp at h
  | cons e es ih =>
      rw [trace] at h
      cases pre with
      | nil =>
          rw [List.nil_append, List.cons.injEq] at h
          obtain ⟨rfl, hpost⟩ := h
          exact ⟨[], es, rfl, rfl, rfl, hpost.symm⟩
      | cons p pre =>
          rw [List.cons_append, List.cons.injEq] at h
          obtain ⟨rfl, htail⟩ := h
          cases hstep : (step s e).2 with
          | none => simp [hstep] at htail
          | some s' =>
              rw [hstep] at htail
              obtain ⟨es₁, es₂, hes, hpre, hfinal, hpost⟩ := ih htail
              refine ⟨e :: es₁, es₂, by rw [hes, List.cons_append], ?_, ?_, hpost⟩
              · rw [trace, hstep, hpre]
              · rw [finalState, hstep]
                exact hfinal

/-- A step starts in the state that the step before it left. -/
theorem after_eq_of_trace {s : σ} {es : List ε} {pre post : List (Transition σ ε ω)}
    {t u : Transition σ ε ω} (hsplit : trace step s es = pre ++ t :: u :: post) :
    t.after = some u.before := by
  obtain ⟨-, es₂, -, -, -, hpost⟩ := trace_split hsplit
  cases hafter : t.after with
  | none =>
      rw [hafter] at hpost
      cases hpost
  | some s' =>
      rw [hafter] at hpost
      cases es₂ with
      | nil => cases hpost
      | cons e es₂ =>
          dsimp only at hpost
          rw [trace, List.cons.injEq] at hpost
          rw [hpost.1]
          rfl

/-- A part of a trace is a trace of its own, from the state where it begins. -/
theorem exists_trace_of_infix {s : σ} {es : List ε} {pre mid post : List (Transition σ ε ω)}
    {t : Transition σ ε ω} (hsplit : trace step s es = pre ++ t :: (mid ++ post)) :
    ∃ s' es', mid = trace step s' es' := by
  obtain ⟨-, es₂, -, -, -, hpost⟩ := trace_split hsplit
  cases hafter : t.after with
  | none =>
      rw [hafter] at hpost
      have hmid : mid = [] := (List.append_eq_nil_iff.mp hpost).1
      exact ⟨s, [], hmid⟩
  | some s' =>
      rw [hafter] at hpost
      refine ⟨s', es₂.take mid.length, ?_⟩
      calc
        mid = (mid ++ post).take mid.length := by rw [List.take_left]
        _ = (trace step s' es₂).take mid.length := by rw [hpost]
        _ = trace step s' (es₂.take mid.length) := trace_take s' es₂ mid.length

/-! ## Invariants -/

/-- An invariant that the guarded steps keep holds in every state that a run of such
steps visits. -/
theorem forall_trace_of_guarded (Inv : σ → Prop) (Guard : Transition σ ε ω → Prop) {s : σ}
    {es : List ε} (hguard : ∀ t ∈ trace step s es, Guard t) (hinit : Inv s)
    (hstep : ∀ s₁ e s₂, e ∈ es → Guard (transition step s₁ e) → Inv s₁ →
      (step s₁ e).2 = some s₂ → Inv s₂) :
    ∀ t ∈ trace step s es, Inv t.before ∧ ∀ s', t.after = some s' → Inv s' := by
  induction es generalizing s with
  | nil => simp
  | cons e es ih =>
      intro t ht
      have hhere : Guard (transition step s e) := by
        apply hguard
        rw [trace]
        exact List.mem_cons_self
      have hnext : ∀ s', (step s e).2 = some s' → Inv s' :=
        fun s' => hstep s e s' List.mem_cons_self hhere hinit
      rw [trace, List.mem_cons] at ht
      rcases ht with rfl | ht
      · exact ⟨hinit, hnext⟩
      · cases hs : (step s e).2 with
        | none => simp [hs] at ht
        | some s' =>
            rw [hs] at ht
            refine ih ?_ (hnext s' hs)
              (fun s₁ e' s₂ he' => hstep s₁ e' s₂ (List.mem_cons_of_mem e he')) t ht
            intro u hu
            apply hguard
            rw [trace, hs]
            exact List.mem_cons_of_mem _ hu

/-- An inductive invariant holds in every state that a run visits. -/
theorem forall_trace_of_invariant (Inv : σ → Prop) {s : σ} {es : List ε}
    (hinit : Inv s)
    (hstep : ∀ s₁ e s₂, e ∈ es → Inv s₁ → (step s₁ e).2 = some s₂ → Inv s₂) :
    ∀ t ∈ trace step s es, Inv t.before ∧ ∀ s', t.after = some s' → Inv s' :=
  forall_trace_of_guarded Inv (fun _ => True) (fun _ _ => trivial) hinit
    fun s₁ e s₂ he _ => hstep s₁ e s₂ he

/-! ## Induction on the last event -/

/-- The state reached by a run with one more event. -/
theorem finalState_append_singleton (s : σ) (es : List ε) (e : ε) :
    finalState step s (es ++ [e]) = (finalState step s es).bind fun s₁ => (step s₁ e).2 := by
  induction es generalizing s with
  | nil =>
      rw [List.nil_append, finalState_nil, Option.bind_some, finalState]
      cases (step s e).2 <;> rfl
  | cons e' es ih =>
      rw [List.cons_append, finalState, finalState]
      cases (step s e').2 with
      | none => rfl
      | some s' => exact ih s'

/-- The state reached by a run that goes on. -/
theorem finalState_append {s s₁ : σ} {es : List ε} (es' : List ε)
    (hfinal : finalState step s es = some s₁) :
    finalState step s (es ++ es') = finalState step s₁ es' := by
  induction es generalizing s with
  | nil =>
      rw [finalState_nil, Option.some.injEq] at hfinal
      rw [hfinal, List.nil_append]
  | cons e es ih =>
      rw [finalState] at hfinal
      rw [List.cons_append, finalState]
      cases hstep : (step s e).2 with
      | none => simp [hstep] at hfinal
      | some s' =>
          rw [hstep] at hfinal
          exact ih hfinal

/-- The first step of a run that reaches a state. -/
theorem exists_step_of_finalState_cons {s s' : σ} {e : ε} {es : List ε}
    (hfinal : finalState step s (e :: es) = some s') :
    ∃ s₁, (step s e).2 = some s₁ ∧ finalState step s₁ es = some s' ∧
      trace step s (e :: es) = transition step s e :: trace step s₁ es := by
  rw [finalState] at hfinal
  cases hstep : (step s e).2 with
  | none => simp [hstep] at hfinal
  | some s₁ =>
      rw [hstep] at hfinal
      exact ⟨s₁, rfl, hfinal, by rw [trace, hstep]⟩

/-- The trace of a run that goes on. -/
theorem trace_append {s s₁ : σ} {es : List ε} (es' : List ε)
    (hfinal : finalState step s es = some s₁) :
    trace step s (es ++ es') = trace step s es ++ trace step s₁ es' := by
  induction es generalizing s with
  | nil =>
      rw [finalState_nil, Option.some.injEq] at hfinal
      rw [hfinal, List.nil_append, trace_nil, List.nil_append]
  | cons e es ih =>
      obtain ⟨s', hstep, hrest, htrace⟩ := exists_step_of_finalState_cons hfinal
      rw [htrace, List.cons_append, List.cons_append, trace, hstep]
      exact congrArg _ (ih hrest)

/-- A run of events that lower a measure is at most as long as the measure. -/
theorem measure_add_length_le (μ : σ → ℕ) (Lowers : ε → Prop)
    (hstep : ∀ s e s', Lowers e → (step s e).2 = some s' → μ s' < μ s) {s s' : σ} {es : List ε}
    (hevents : ∀ e ∈ es, Lowers e) (hfinal : finalState step s es = some s') :
    μ s' + es.length ≤ μ s := by
  induction es generalizing s with
  | nil =>
      rw [finalState_nil, Option.some.injEq] at hfinal
      rw [hfinal, List.length_nil]
      exact Nat.le_refl _
  | cons e es ih =>
      obtain ⟨s₁, hafter, hrest, -⟩ := exists_step_of_finalState_cons hfinal
      have hless := hstep s e s₁ (hevents e List.mem_cons_self) hafter
      have htail := ih (fun e he => hevents e (List.mem_cons_of_mem _ he)) hrest
      rw [List.length_cons]
      omega

/-- The counted events of a run lower a measure that no event raises. -/
theorem measure_add_countP_le (μ : σ → ℕ) (Inv : σ → Prop) (counted : ε → Bool)
    (hstep : ∀ s e s', Inv s → (step s e).2 = some s' →
      Inv s' ∧ μ s' + (counted e).toNat ≤ μ s) {s s' : σ} {es : List ε} (hinv : Inv s)
    (hfinal : finalState step s es = some s') : μ s' + es.countP counted ≤ μ s := by
  induction es generalizing s with
  | nil =>
      rw [finalState_nil, Option.some.injEq] at hfinal
      rw [hfinal, List.countP_nil]
      exact Nat.le_refl _
  | cons e es ih =>
      obtain ⟨s₁, hafter, hrest, -⟩ := exists_step_of_finalState_cons hfinal
      obtain ⟨hinv₁, hless⟩ := hstep s e s₁ hinv hafter
      have htail := ih hinv₁ hrest
      have hcount : (e :: es).countP counted = es.countP counted + (counted e).toNat := by
        rw [List.countP_cons]
        cases counted e <;> rfl
      omega

/-- The trace of a run with one more event. -/
theorem trace_append_singleton {s s₁ : σ} {es : List ε} (e : ε)
    (hfinal : finalState step s es = some s₁) :
    trace step s (es ++ [e]) = trace step s es ++ [transition step s₁ e] := by
  induction es generalizing s with
  | nil =>
      rw [finalState_nil, Option.some.injEq] at hfinal
      subst hfinal
      rw [List.nil_append, trace_nil, List.nil_append, trace]
      cases (step s e).2 <;> rfl
  | cons e' es ih =>
      rw [finalState] at hfinal
      rw [List.cons_append, trace, trace, List.cons_append]
      cases hstep : (step s e').2 with
      | none => simp [hstep] at hfinal
      | some s' =>
          rw [hstep] at hfinal
          exact congrArg _ (ih hfinal)

/-- What holds of the empty run and survives one more event holds of every run
that reaches a state.  The statement may speak of all events made so far. -/
theorem finalState_induction {motive : List ε → σ → Prop} {s : σ} (hinit : motive [] s)
    (hstep : ∀ es s₁ e s₂, finalState step s es = some s₁ → motive es s₁ →
      (step s₁ e).2 = some s₂ → motive (es ++ [e]) s₂)
    {es : List ε} {s' : σ} (hfinal : finalState step s es = some s') : motive es s' := by
  induction es using List.reverseRecOn generalizing s' with
  | nil =>
      rw [finalState_nil, Option.some.injEq] at hfinal
      exact hfinal ▸ hinit
  | append_singleton es e ih =>
      rw [finalState_append_singleton] at hfinal
      cases hs : finalState step s es with
      | none => simp [hs] at hfinal
      | some s₁ =>
          rw [hs, Option.bind_some] at hfinal
          exact hstep es s₁ e s' hs (ih hs) hfinal

/-- A history invariant relates the transitions made so far to the state
reached.  It holds after every run if each step extends it. -/
theorem history_of_step (Hist : List (Transition σ ε ω) → σ → Prop)
    {s s' : σ} {es : List ε} (hinit : Hist [] s)
    (hstep : ∀ pre s₁ e s₂, Hist pre s₁ → (step s₁ e).2 = some s₂ →
      Hist (pre ++ [transition step s₁ e]) s₂)
    (hfinal : finalState step s es = some s') :
    Hist (trace step s es) s' := by
  refine finalState_induction (motive := fun es s' => Hist (trace step s es) s') hinit ?_ hfinal
  intro es s₁ e s₂ hreach hpre hnext
  rw [trace_append_singleton e hreach]
  exact hstep _ _ _ _ hpre hnext

/-! ## Annotated events -/

section Relabel

variable {ε' : Type v}

/-- Forget the annotation of the event of a transition. -/
def Transition.relabel (f : ε' → ε) (t : Transition σ ε' ω) : Transition σ ε ω where
  before := t.before
  event := f t.event
  output := t.output
  after := t.after

/-- A run on annotated events visits the states of the run without them. -/
theorem finalState_relabel (f : ε' → ε) (s : σ) (es : List ε') :
    finalState (fun s e => step s (f e)) s es = finalState step s (es.map f) := by
  induction es generalizing s with
  | nil => rfl
  | cons e es ih =>
      rw [List.map_cons, finalState, finalState]
      cases (step s (f e)).2 with
      | none => rfl
      | some s' => exact ih s'

/-- Forgetting annotations turns the trace into the trace without them. -/
theorem trace_relabel (f : ε' → ε) (s : σ) (es : List ε') :
    (trace (fun s e => step s (f e)) s es).map (Transition.relabel f) =
      trace step s (es.map f) := by
  induction es generalizing s with
  | nil => rfl
  | cons e es ih =>
      rw [List.map_cons, trace, trace, List.map_cons]
      refine congrArg₂ List.cons rfl ?_
      cases (step s (f e)).2 with
      | none => rfl
      | some s' => exact ih s'

end Relabel

/-! ## Deleting transitions -/

/-- Delete the entries of a list at the selected positions. -/
def dropAt {α : Type u} : (ℕ → Bool) → List α → List α
  | _, [] => []
  | sel, a :: as =>
      if sel 0 then dropAt (fun i => sel (i + 1)) as
      else a :: dropAt (fun i => sel (i + 1)) as

/-- What the deleted entries do not contribute to is unchanged. -/
theorem flatMap_dropAt {α : Type u} {β : Type v} (f : α → List β) (sel : ℕ → Bool)
    {as : List α} (hsilent : ∀ i a, sel i = true → as[i]? = some a → f a = []) :
    (dropAt sel as).flatMap f = as.flatMap f := by
  induction as generalizing sel with
  | nil => rfl
  | cons a as ih =>
      have hrest := ih (fun i => sel (i + 1)) fun i b hi hb =>
        hsilent (i + 1) b hi (by simpa using hb)
      rw [dropAt, List.flatMap_cons]
      by_cases hsel : sel 0 = true
      · rw [if_pos hsel, hrest, hsilent 0 a hsel rfl, List.nil_append]
      · rw [if_neg hsel, List.flatMap_cons, hrest]

/-- If every selected position of a run is a transition that leaves the state
alone, then the run without those events makes exactly the other transitions,
between the same states and with the same outputs. -/
theorem trace_dropAt {s : σ} {es : List ε} (sel : ℕ → Bool)
    (hsilent : ∀ i t, sel i = true → (trace step s es)[i]? = some t →
      t.after = some t.before) :
    trace step s (dropAt sel es) = dropAt sel (trace step s es) := by
  induction es generalizing s sel with
  | nil => rfl
  | cons e es ih =>
      rw [trace, dropAt, dropAt]
      by_cases hsel : sel 0 = true
      · have hstay : (step s e).2 = some s :=
          hsilent 0 (transition step s e) hsel (by rw [trace]; rfl)
        rw [if_pos hsel, if_pos hsel, hstay]
        refine ih _ fun i t hi ht => hsilent (i + 1) t hi ?_
        rw [trace, hstay]
        exact ht
      · rw [if_neg hsel, if_neg hsel, trace]
        cases hs : (step s e).2 with
        | none => simp [dropAt]
        | some s' =>
            refine congrArg _ (ih _ fun i t hi ht => hsilent (i + 1) t hi ?_)
            rw [trace, hs]
            exact ht

/-- Deleting such transitions does not change where the run ends. -/
theorem finalState_dropAt {s : σ} {es : List ε} (sel : ℕ → Bool)
    (hsilent : ∀ i t, sel i = true → (trace step s es)[i]? = some t →
      t.after = some t.before) :
    finalState step s (dropAt sel es) = finalState step s es := by
  induction es generalizing s sel with
  | nil => rfl
  | cons e es ih =>
      rw [dropAt, finalState]
      by_cases hsel : sel 0 = true
      · have hstay : (step s e).2 = some s :=
          hsilent 0 (transition step s e) hsel (by rw [trace]; rfl)
        rw [if_pos hsel, hstay]
        refine ih _ fun i t hi ht => hsilent (i + 1) t hi ?_
        rw [trace, hstay]
        exact ht
      · rw [if_neg hsel, finalState]
        cases hs : (step s e).2 with
        | none => rfl
        | some s' =>
            refine ih _ fun i t hi ht => hsilent (i + 1) t hi ?_
            rw [trace, hs]
            exact ht

end EventRuns
