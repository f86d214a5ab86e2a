import CFU.Firmware.CurrentOffer
import CFU.Firmware.VersionReport

/-!
# CFU firmware - the registration list

A registration object carries its own link, and registering it overwrites that
link without a look at the list.  The list therefore ends as long as every object
is registered at most once; an object registered again closes a cycle.

Main results:

- Theorem {lit}`chain_of_run`: after a run the list holds the registered objects,
  the last one first, or it does not end.
- Theorem {lit}`registrationList_walkable_iff`: the list ends and holds every
  registered object once exactly when nothing was registered twice, and then the
  three loops over the list end.
-/

namespace CFU
namespace Firmware

open EventRuns IntrusiveList

variable {W : Type} {n : ℕ}

/-! ## Registered objects -/

/-- The object that an event pushes on the list. -/
def Event.pushes : Event n → Option (Fin n)
  | .registerComponent pRegistration => pRegistration
  | _ => none

/-- The arguments of the registrations of a run but the null pointers, in order. -/
def pushed (es : List (Event n)) : List (Fin n) :=
  es.filterMap Event.pushes

theorem pushed_append_singleton (es : List (Event n)) (e : Event n) :
    pushed (es ++ [e]) = pushed es ++ e.pushes.toList := by
  cases h : e.pushes <;> simp [pushed, h]

/-- The registration list ends and holds the objects {lit}`rs`. -/
def EngineState.Lists (s : EngineState n) (rs : List (Fin n)) : Prop :=
  Chain s.pNext s.pFirstComponentIFace rs

/-- Registration pushes an object on a list that ends, and the new list ends only
if the object was not on the old one. -/
theorem EngineState.lists_register_iff {s : EngineState n} {r : Fin n} {rs : List (Fin n)} :
    (s.register (some r)).Lists rs ↔ ∃ rest, rs = r :: rest ∧ s.Lists rest ∧ r ∉ rest :=
  chain_push_iff

/-! ## The list along a run -/

section Run

variable {P : Platform W n} {pNext : Fin n → Option (Fin n)} {world : W}

/-- What one event does to the list. -/
theorem step_lists_iff {c c' : Config W n} {e : Event n} {rs : List (Fin n)}
    (hafter : (step P c e).2 = some c') :
    c'.engine.Lists rs ↔
      ∃ rest, rs = e.pushes.toList ++ rest ∧ c.engine.Lists rest ∧
        ∀ r ∈ e.pushes.toList, r ∉ rest := by
  by_cases hkind : e.isRegistration = true
  · cases e with
    | registerComponent pRegistration =>
        cases pRegistration with
        | none => cases hkind
        | some r =>
            rw [step_registerComponent, Option.some.injEq] at hafter
            subst hafter
            rw [EngineState.lists_register_iff]
            simp [Event.pushes]
    | _ => cases hkind
  · rw [Bool.not_eq_true] at hkind
    have hnothing : e.pushes = none := by
      cases e with
      | registerComponent pRegistration =>
          cases pRegistration with
          | none => rfl
          | some r => cases hkind
      | _ => rfl
    obtain ⟨hfirst, hlinks⟩ := step_sameList hkind hafter
    rw [EngineState.Lists, hfirst, hlinks, hnothing]
    simp [EngineState.Lists]

/-- After a run the list holds the registered objects, the last one first, and it
ends exactly when they are all different. -/
theorem chain_of_run {es : List (Event n)} {c : Config W n}
    (hreach : finalState (step P) (Config.powerOn pNext world) es = some c)
    (rs : List (Fin n)) :
    c.engine.Lists rs ↔ rs = (pushed es).reverse ∧ (pushed es).Nodup := by
  refine finalState_induction (motive := fun es c => ∀ rs : List (Fin n),
    c.engine.Lists rs ↔ rs = (pushed es).reverse ∧ (pushed es).Nodup) ?_ ?_ hreach rs
  · intro rs
    have hempty : (Config.powerOn pNext world).engine.Lists rs ↔ rs = [] := chain_none_iff
    simpa [pushed] using hempty
  · intro es c e c' _ ih hafter rs
    rw [step_lists_iff hafter, pushed_append_singleton]
    cases e.pushes with
    | none => simpa using ih rs
    | some r =>
        simp only [Option.toList_some, List.reverse_append, List.reverse_singleton,
          List.mem_singleton, forall_eq, List.nodup_append_comm, List.singleton_append,
          List.nodup_cons]
        constructor
        · rintro ⟨rest, hsplit, hrest, hfresh⟩
          obtain ⟨hreverse, hnodup⟩ := (ih rest).mp hrest
          rw [hreverse] at hsplit hfresh
          exact ⟨hsplit, by simpa using hfresh, hnodup⟩
        · rintro ⟨hsplit, hfresh, hnodup⟩
          exact ⟨_, hsplit, (ih _).mpr ⟨rfl, hnodup⟩, by simpa using hfresh⟩

end Run

/-! ## The loops over the list -/

section Loops

variable {P : Platform W n} {c : Config W n} {rs : List (Fin n)}

/-- On a list that ends the search for a component id ends. -/
theorem EngineState.Lists.lookup_eq {s : EngineState n} (h : s.Lists rs) (componentId : UInt8) :
    s.lookup P componentId =
      some (rs.find? fun r => (P.registration r).componentId == componentId) :=
  h.find_eq

/-- An offer is answered. -/
theorem EngineState.Lists.offer_returns (h : c.engine.Lists rs)
    (pCommand : FwUpdateOfferCommand) (pResponse : FwUpdateOfferResponse) :
    ∃ reply, (step P c (.offer pCommand pResponse)).1.response = .ok (.offer reply) := by
  have hexec := offerExec_step P c pCommand pResponse
  generalize step P c (.offer pCommand pResponse) = result at hexec
  rcases result with ⟨output, after⟩
  cases hexec with
  | endlessWalk _ hlookup =>
      rw [h.lookup_eq] at hlookup
      cases hlookup
  | _ => exact ⟨_, rfl⟩

/-- A content command does not walk the list forever. -/
theorem EngineState.Lists.content_walk_ends (h : c.engine.Lists rs)
    (pCommand : FwUpdateContentCommand) :
    (step P c (.content pCommand)).1.response ≠ .error .endlessWalk := by
  have hexec := contentExec_step P c pCommand
  generalize (step P c (.content pCommand)).1 = output at hexec
  generalize (step P c (.content pCommand)).2.map Config.engine = after at hexec
  cases hexec with
  | endlessWalk _ _ hlookup =>
      rw [h.lookup_eq] at hlookup
      cases hlookup
  | _ => simp [contentOutput]

end Loops

/-- After every run the registration list ends and holds every registered object
exactly once if and only if no object was registered twice; then the searches for
every component id and the loop of the version report end. -/
theorem registrationList_walkable_iff (P : Platform W n) (pNext : Fin n → Option (Fin n))
    (world : W) (es : List (Event n)) {c : Config W n}
    (hreach : finalState (step P) (Config.powerOn pNext world) es = some c) :
    ((∃ rs, c.engine.Lists rs ∧ rs.Nodup ∧ ∀ r, r ∈ rs ↔ r ∈ pushed es) ↔
      (pushed es).Nodup) ∧
    ((pushed es).Nodup →
      (∀ componentId, c.engine.lookup P componentId ≠ none) ∧
      (∀ pCommand pResponse, ∃ reply,
        (step P c (.offer pCommand pResponse)).1.response = .ok (.offer reply)) ∧
      (∀ pCommand, (step P c (.content pCommand)).1.response ≠ .error .endlessWalk) ∧
      ∀ interface pResponse, ∃ report sys',
        processCFWUGetFWVersion interface pResponse ⟨c.engine, c.world, []⟩ =
          .ok report sys') := by
  have hchain := chain_of_run hreach
  constructor
  · constructor
    · rintro ⟨rs, hlists, -, -⟩
      exact ((hchain rs).mp hlists).2
    · intro hnodup
      refine ⟨(pushed es).reverse, (hchain _).mpr ⟨rfl, hnodup⟩, ?_, fun r => ?_⟩
      · exact List.nodup_reverse.mpr hnodup
      · exact List.mem_reverse
  · intro hnodup
    have hlists : c.engine.Lists (pushed es).reverse := (hchain _).mpr ⟨rfl, hnodup⟩
    refine ⟨fun componentId => ?_, fun pCommand pResponse => ?_, fun pCommand => ?_,
      fun interface pResponse => ?_⟩
    · rw [hlists.lookup_eq]
      exact Option.some_ne_none _
    · exact hlists.offer_returns pCommand pResponse
    · exact hlists.content_walk_ends pCommand
    · exact (processCFWUGetFWVersion_returns_iff interface pResponse _).mpr ⟨_, hlists⟩

/-- Two objects registered with null pointers and an offer in between. -/
def registeredApart : List (Event 2) :=
  [.registerComponent (some secondComponent), .registerComponent none,
    .offer (.plain 5 0) .zero, .registerComponent (some firstComponent)]

theorem registrationList_walkable_apart :
    ∃ c, finalState (step (acceptingPlatform fun r => r.val.toUInt8))
        (Config.powerOn (fun _ => some 0) ()) registeredApart = some c ∧
      ∀ componentId, c.engine.lookup (acceptingPlatform fun r => r.val.toUInt8) componentId ≠
        none := by
  have hreach : finalState (step (acceptingPlatform fun r => r.val.toUInt8))
      (Config.powerOn (fun _ => some 0) ()) registeredApart =
        some ⟨((EngineState.powerOn fun _ => some 0).register (some 1)).register (some 0), ()⟩ :=
    rfl
  have hnodup : (pushed registeredApart).Nodup := by decide
  exact ⟨_, hreach, ((registrationList_walkable_iff _ _ () _ hreach).2 hnodup).1⟩

/-! ## An object registered again -/

/-- Two registrations of one object link it to itself. -/
def registeredTwice : List (Event 1) :=
  [.registerComponent (some onlyComponent), .registerComponent (some onlyComponent)]

theorem registrationList_endless :
    ∃ c, finalState (step (acceptingPlatform fun _ => 1))
        (Config.powerOn (fun _ => none) ()) registeredTwice = some c ∧
      (∀ rs, ¬ c.engine.Lists rs) ∧
      c.engine.lookup (acceptingPlatform fun _ => 1) 2 = none ∧
      (step (acceptingPlatform fun _ => 1) c (.offer (.plain 2 0) .zero)).1.response =
        .error .endlessWalk := by
  have hreach : finalState (step (acceptingPlatform fun _ => 1))
      (Config.powerOn (fun _ => none) ()) registeredTwice =
        some ⟨((EngineState.powerOn fun _ => none).register (some 0)).register (some 0), ()⟩ :=
    rfl
  refine ⟨_, hreach, fun rs hlists => ?_, rfl, rfl⟩
  exact absurd ((chain_of_run hreach rs).mp hlists).2 (by decide)

end Firmware
end CFU
