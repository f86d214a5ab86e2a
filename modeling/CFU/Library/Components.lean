import CFU.Library.Runs

/-!
# Event runs - the components of a system

A system may contain another one as a component: a step of the system is a step of the
component, or leaves it alone.  What the component does in a run of the system is then a
run of its own, so that what is known about all runs of the component holds in every run
of the system.

Main results:

- Structure {lit}`Component`: a component, with what each step does to it.
- Theorem {lit}`Component.finalState`: the component reaches the state that it has in the
  system.
- Theorem {lit}`Component.trace_step` and {lit}`Component.trace_stay`: how its trace grows.

Current gaps:

- None for components that the system does not stop.
-/

namespace EventRuns

universe u v w u' v' w'

variable {σ : Type u} {ε : Type v} {ω : Type w} {σ' : Type u'} {ε' : Type v'} {ω' : Type w'}

/-- A component of a system: its part of the state, and the event that a transition of the
system is for it, if any. -/
structure Component (step : σ → ε → ω × Option σ) (step' : σ' → ε' → ω' × Option σ') where
  state : σ → σ'
  event : Transition σ ε ω → Option ε'
  moves : ∀ s e s₁ e', (step s e).2 = some s₁ → event (transition step s e) = some e' →
    (step' (state s) e').2 = some (state s₁)
  stays : ∀ s e s₁, (step s e).2 = some s₁ → event (transition step s e) = none →
    state s₁ = state s

namespace Component

variable {step : σ → ε → ω × Option σ} {step' : σ' → ε' → ω' × Option σ'}
  (c : Component step step') {s s₁ s₂ : σ} {es : List ε} {e : ε} {e' : ε'}

/-- The events of the component in a run of the system. -/
def events (s : σ) (es : List ε) : List ε' :=
  (trace step s es).filterMap c.event

@[simp]
theorem events_nil (s : σ) : c.events s [] = [] :=
  rfl

theorem events_append_some (hfinal : finalState step s es = some s₁)
    (hevent : c.event (transition step s₁ e) = some e') :
    c.events s (es ++ [e]) = c.events s es ++ [e'] := by
  rw [events, trace_append_singleton e hfinal, List.filterMap_append,
    List.filterMap_cons_some hevent, List.filterMap_nil, events]

theorem events_append_none (hfinal : finalState step s es = some s₁)
    (hevent : c.event (transition step s₁ e) = none) :
    c.events s (es ++ [e]) = c.events s es := by
  rw [events, trace_append_singleton e hfinal, List.filterMap_append,
    List.filterMap_cons_none hevent, List.filterMap_nil, List.append_nil, events]

/-- What the component does in a run of the system is a run of the component. -/
theorem finalState (hfinal : EventRuns.finalState step s es = some s₁) :
    EventRuns.finalState step' (c.state s) (c.events s es) = some (c.state s₁) := by
  apply finalState_induction (motive := fun es s₁ =>
    EventRuns.finalState step' (c.state s) (c.events s es) = some (c.state s₁)) rfl _ hfinal
  intro es s₁ e s₂ hreach ih hnext
  cases hevent : c.event (transition step s₁ e) with
  | none =>
      rw [c.events_append_none hreach hevent, ih, c.stays s₁ e s₂ hnext hevent]
  | some e' =>
      rw [c.events_append_some hreach hevent, finalState_append_singleton, ih,
        Option.bind_some]
      exact c.moves s₁ e s₂ e' hnext hevent

/-- The events of a component that only looks at the events of the system. -/
theorem events_eq_filterMap {f : ε → Option ε'} (hevent : ∀ t, c.event t = f t.event)
    (hfinal : EventRuns.finalState step s es = some s₁) : c.events s es = es.filterMap f := by
  apply finalState_induction (motive := fun es _ => c.events s es = es.filterMap f) rfl _ hfinal
  intro es s₁ e s₂ hreach ih _
  have hhere : c.event (transition step s₁ e) = f e := hevent _
  rw [List.filterMap_append]
  cases hf : f e with
  | none =>
      rw [c.events_append_none hreach (hhere.trans hf), ih, List.filterMap_cons_none hf,
        List.filterMap_nil, List.append_nil]
  | some e' =>
      rw [c.events_append_some hreach (hhere.trans hf), ih, List.filterMap_cons_some hf,
        List.filterMap_nil]

/-- A step of the component is the next transition of its run. -/
theorem trace_step (hfinal : EventRuns.finalState step s es = some s₁)
    (hevent : c.event (transition step s₁ e) = some e') :
    trace step' (c.state s) (c.events s (es ++ [e])) =
      trace step' (c.state s) (c.events s es) ++ [transition step' (c.state s₁) e'] := by
  rw [c.events_append_some hfinal hevent]
  exact trace_append_singleton e' (c.finalState hfinal)

/-- A step that leaves the component alone adds nothing to its run. -/
theorem trace_stay (hfinal : EventRuns.finalState step s es = some s₁)
    (hevent : c.event (transition step s₁ e) = none) :
    trace step' (c.state s) (c.events s (es ++ [e])) =
      trace step' (c.state s) (c.events s es) := by
  rw [c.events_append_none hfinal hevent]

end Component

end EventRuns
