import CFU.Library.Runs

/-!
# Labelled paths - transition systems and forward simulation

A specification is a relation {lit}`next` between states that is labelled with actions.
A path is a run of it along a list of actions.  An event system is simulated when every
transition that it makes can be read as actions along which the specification has a path
between related states.

Main results:

- Theorem {lit}`Path.append_iff`: a path along two lists of actions has a state between
  them.
- Theorem {lit}`Path.invariant`: an invariant of the actions holds at the end of a path.
- Theorem {lit}`ForwardSimulation.path_of_run`: every run of a simulated system has its
  path.
-/

namespace LabelledPaths

open EventRuns

universe u v w x y

variable {α : Type x} {κ : Type y} {next : α → κ → α → Prop}

/-! ## Paths -/

/-- The actions lead from one state to another. -/
inductive Path (next : α → κ → α → Prop) : α → List κ → α → Prop
  | nil (a : α) : Path next a [] a
  | cons {a b c : α} {action : κ} {actions : List κ} (hstep : next a action b)
      (hrest : Path next b actions c) : Path next a (action :: actions) c

@[simp]
theorem path_nil_iff {a b : α} : Path next a [] b ↔ a = b := by
  constructor
  · intro h
    cases h
    rfl
  · rintro rfl
    exact .nil a

theorem path_cons_iff {a c : α} {action : κ} {actions : List κ} :
    Path next a (action :: actions) c ↔ ∃ b, next a action b ∧ Path next b actions c := by
  constructor
  · intro h
    cases h with
    | cons hstep hrest => exact ⟨_, hstep, hrest⟩
  · rintro ⟨b, hstep, hrest⟩
    exact .cons hstep hrest

@[simp]
theorem path_singleton_iff {a b : α} {action : κ} :
    Path next a [action] b ↔ next a action b := by
  rw [path_cons_iff]
  simp

/-- A path along two lists of actions has a state between them. -/
theorem Path.append_iff {a c : α} {actions actions' : List κ} :
    Path next a (actions ++ actions') c ↔
      ∃ b, Path next a actions b ∧ Path next b actions' c := by
  induction actions generalizing a with
  | nil => simp
  | cons action actions ih =>
      simp only [List.cons_append, path_cons_iff, ih]
      constructor
      · rintro ⟨b, hstep, d, hfront, hback⟩
        exact ⟨d, ⟨b, hstep, hfront⟩, hback⟩
      · rintro ⟨d, ⟨b, hstep, hfront⟩, hback⟩
        exact ⟨b, hstep, d, hfront, hback⟩

theorem Path.append {a b c : α} {actions actions' : List κ} (h : Path next a actions b)
    (h' : Path next b actions' c) : Path next a (actions ++ actions') c :=
  Path.append_iff.2 ⟨b, h, h'⟩

/-- What every action of the path keeps holds at its end. -/
theorem Path.invariant (Inv : α → Prop) {a b : α} {actions : List κ}
    (h : Path next a actions b) (hinit : Inv a)
    (hstep : ∀ a action b, action ∈ actions → next a action b → Inv a → Inv b) : Inv b := by
  induction h with
  | nil => exact hinit
  | cons hnext _ ih =>
      apply ih
      · exact hstep _ _ _ List.mem_cons_self hnext hinit
      · intro a action b hmem
        exact hstep a action b (List.mem_cons_of_mem _ hmem)

/-! ## Forward simulation -/

section Simulation

variable {σ : Type u} {ε : Type v} {ω : Type w} {step : σ → ε → ω × Option σ}
  {label : Transition σ ε ω → List κ} {Related : σ → α → Prop}

/-- Every transition between states of the system is matched by a path along its actions. -/
def ForwardSimulation (step : σ → ε → ω × Option σ) (next : α → κ → α → Prop)
    (label : Transition σ ε ω → List κ) (Related : σ → α → Prop) : Prop :=
  ∀ s e s' a, Related s a → (step s e).2 = some s' →
    ∃ a', Path next a (label (transition step s e)) a' ∧ Related s' a'

/-- Every run is matched by a path along the actions of its transitions. -/
theorem ForwardSimulation.path_of_run (h : ForwardSimulation step next label Related) {s s' : σ}
    {es : List ε} {a : α} (hrelated : Related s a) (hfinal : finalState step s es = some s') :
    ∃ a', Path next a ((trace step s es).flatMap label) a' ∧ Related s' a' := by
  induction es generalizing s a with
  | nil =>
      rw [finalState_nil, Option.some.injEq] at hfinal
      subst hfinal
      exact ⟨a, .nil a, hrelated⟩
  | cons e es ih =>
      rw [finalState] at hfinal
      cases hstep : (step s e).2 with
      | none => simp [hstep] at hfinal
      | some s₁ =>
          rw [hstep] at hfinal
          obtain ⟨b, hfront, hrelated₁⟩ := h s e s₁ a hrelated hstep
          obtain ⟨a', hback, hrelated'⟩ := ih hrelated₁ hfinal
          refine ⟨a', ?_, hrelated'⟩
          rw [trace, hstep, List.flatMap_cons]
          exact hfront.append hback

end Simulation

end LabelledPaths
