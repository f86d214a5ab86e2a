import CFU.Library.Runs

/-!
# Event runs - simulation by several steps

Two systems show some of their steps to the outside.  One simulates the other when each
step of the other is matched by some of its own, possibly none, which show the same and
lead to related states again.  Whole runs are then matched, too.

Main results:

- Definition {lit}`shown`: what a run shows.
- Theorem {lit}`SimulatedBy.run`: a run is matched by a run that shows the same.
- Theorem {lit}`exists_run_iff`: systems that simulate each other show the same and reach
  the same states.

Current gaps:

- None for finite runs; fairness is not considered.
-/

namespace EventRuns

universe u v w u' v'

variable {σ : Type u} {ε : Type v} {ν : Type w} {σ' : Type u'} {ε' : Type v'}

/-! ## What a run shows -/

/-- What the transitions of a system show, oldest first. -/
def shown (ts : List (Transition σ ε (Option ν))) : List ν :=
  ts.filterMap Transition.output

@[simp]
theorem shown_nil : shown ([] : List (Transition σ ε (Option ν))) = [] :=
  rfl

theorem shown_append (ts us : List (Transition σ ε (Option ν))) :
    shown (ts ++ us) = shown ts ++ shown us := by
  rw [shown, shown, shown, List.filterMap_append]

/-- A single step shows its output. -/
theorem shown_singleton (t : Transition σ ε (Option ν)) : shown [t] = t.output.toList := by
  rw [shown, List.filterMap_cons]
  cases t.output <;> rfl

/-! ## Simulation -/

variable {step : σ → ε → Option ν × Option σ} {step' : σ' → ε' → Option ν × Option σ'}

/-- From the state of the second system some of its steps lead to a state and show the
output. -/
def Matches (step' : σ' → ε' → Option ν × Option σ') (t : σ') (output : List ν) (t' : σ') :
    Prop :=
  ∃ es', finalState step' t es' = some t' ∧ shown (trace step' t es') = output

/-- No step shows nothing. -/
theorem Matches.refl (t : σ') : Matches step' t [] t :=
  ⟨[], rfl, rfl⟩

/-- One step shows its output. -/
theorem Matches.single {t t' : σ'} {output : Option ν} (e' : ε')
    (h : step' t e' = (output, some t')) : Matches step' t output.toList t' := by
  refine ⟨[e'], ?_, ?_⟩
  · simp only [finalState, h]
  · simp only [trace, h]
    rw [shown_singleton, transition_output, h]

theorem Matches.trans {t t' t'' : σ'} {output output' : List ν}
    (h : Matches step' t output t') (h' : Matches step' t' output' t'') :
    Matches step' t (output ++ output') t'' := by
  obtain ⟨es, hfinal, hshown⟩ := h
  obtain ⟨es', hfinal', hshown'⟩ := h'
  refine ⟨es ++ es', ?_, ?_⟩
  · rw [finalState_append es' hfinal, hfinal']
  · rw [trace_append es' hfinal, shown_append, hshown, hshown']

/-- Every step of the first system is matched from every related state of the second. -/
def SimulatedBy (step : σ → ε → Option ν × Option σ)
    (step' : σ' → ε' → Option ν × Option σ') (Related : σ → σ' → Prop) : Prop :=
  ∀ s t e s', Related s t → (step s e).2 = some s' →
    ∃ t', Matches step' t (step s e).1.toList t' ∧ Related s' t'

/-- A run of the first system is matched by a run of the second. -/
theorem SimulatedBy.run {Related : σ → σ' → Prop} (hsim : SimulatedBy step step' Related)
    {s s' : σ} {t : σ'} {es : List ε} (hrelated : Related s t)
    (hfinal : finalState step s es = some s') :
    ∃ t', Matches step' t (shown (trace step s es)) t' ∧ Related s' t' := by
  induction es generalizing s t with
  | nil =>
      rw [finalState_nil, Option.some.injEq] at hfinal
      subst hfinal
      exact ⟨t, .refl t, hrelated⟩
  | cons e es ih =>
      obtain ⟨s₁, hstep, hrest, htrace⟩ := exists_step_of_finalState_cons hfinal
      obtain ⟨t₁, hhere, hrelated₁⟩ := hsim s t e s₁ hrelated hstep
      obtain ⟨t', hbehind, hrelated'⟩ := ih hrelated₁ hrest
      refine ⟨t', ?_, hrelated'⟩
      rw [htrace, ← List.singleton_append, shown_append, shown_singleton, transition_output]
      exact hhere.trans hbehind

/-- When each system simulates the other and related states look the same, runs of both
reach what looks the same and show the same. -/
theorem exists_run_iff {α : Type*} (look : σ → α) (look' : σ' → α)
    {Related Related' : σ → σ' → Prop} (hsim : SimulatedBy step step' Related)
    (hsim' : SimulatedBy step' step fun t s => Related' s t)
    (hlook : ∀ s t, Related s t → look s = look' t)
    (hlook' : ∀ s t, Related' s t → look s = look' t) {s : σ} {t : σ'}
    (hrelated : Related s t) (hrelated' : Related' s t) (a : α) (output : List ν) :
    (∃ es s', finalState step s es = some s' ∧ look s' = a ∧
        shown (trace step s es) = output) ↔
      ∃ es' t', finalState step' t es' = some t' ∧ look' t' = a ∧
        shown (trace step' t es') = output := by
  constructor
  · rintro ⟨es, s', hfinal, rfl, rfl⟩
    obtain ⟨t', ⟨es', hfinal', hshown⟩, hend⟩ := hsim.run hrelated hfinal
    exact ⟨es', t', hfinal', (hlook s' t' hend).symm, hshown⟩
  · rintro ⟨es', t', hfinal, rfl, rfl⟩
    obtain ⟨s', ⟨es, hfinal', hshown⟩, hend⟩ := hsim'.run hrelated' hfinal
    exact ⟨es, s', hfinal', hlook' s' t' hend, hshown⟩

end EventRuns
