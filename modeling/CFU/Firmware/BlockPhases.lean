import CFU.Firmware.CurrentOffer

/-!
# CFU firmware - the blocks of one update

The engine keeps no phase: it takes each content command by its flags alone.
Whether the flash is prepared before it is written and whether a component is
notified once is therefore decided by the order in which the host sends its
blocks.

Main results:

- Theorem {lit}`session_phases`: between an acceptance and the end of its update,
  the flash is prepared first exactly when the first block has the first-block
  flag, each notification has a last block of its own, and blocks sent in order
  are processed in order.
- Theorem {lit}`blocks_out_of_order`: an omitted first block is written to a flash
  that was not prepared, and a repeated last block notifies twice.
-/

namespace CFU
namespace Firmware

open EventRuns

variable {W : Type} {n : ℕ}

/-! ## Sessions -/

/-- A part of a run that starts right after an acceptance and during which the
update stays in progress. -/
def SessionOf (P : Platform W n) (c : Config W n) (es : List (Event n))
    (mid : List (EngineTransition W n)) : Prop :=
  ∃ pre t post, engineTrace P c es = pre ++ t :: (mid ++ post) ∧
    (acceptance t).isSome = true ∧
    ∀ u ∈ mid, u.before.engine.currentOffer.updateInProgress = true

/-- The content command of a transition. -/
def contentCommand (t : EngineTransition W n) : Option FwUpdateContentCommand :=
  match t.event with
  | .content pCommand => some pCommand
  | _ => none

/-- A content command was answered with success. -/
def Output.contentSucceeded (output : Output n) : Bool :=
  match output.response with
  | .ok (.content pResponse) => pResponse.status == firmwareUpdateStatusSuccess
  | _ => false

/-- The content command of a transition, if it was answered with success. -/
def succeededCommand (t : EngineTransition W n) : Option FwUpdateContentCommand :=
  if t.output.contentSucceeded then contentCommand t else none

/-- All calls of a list of transitions. -/
def allCalls (ts : List (EngineTransition W n)) : List (Call n) :=
  ts.flatMap fun t => t.output.calls

@[simp]
theorem allCalls_nil : allCalls ([] : List (EngineTransition W n)) = [] :=
  rfl

@[simp]
theorem allCalls_cons (t : EngineTransition W n) (ts : List (EngineTransition W n)) :
    allCalls (t :: ts) = t.output.calls ++ allCalls ts :=
  rfl

/-! ## The order of blocks -/

/-- A block that the engine takes as the last one. -/
def FwUpdateContentCommand.completes (pCommand : FwUpdateContentCommand) : Bool :=
  !pCommand.isFirstBlock && pCommand.isLastBlock

/-- Middle blocks, and at most one last block behind them. -/
def FollowsInOrder : List FwUpdateContentCommand → Prop
  | [] => True
  | pCommand :: rest =>
      pCommand.isFirstBlock = false ∧
        if pCommand.isLastBlock then rest = [] else FollowsInOrder rest

/-- A first block, middle blocks, and at most one last block, or a beginning of
such a sequence. -/
def InOrder : List FwUpdateContentCommand → Prop
  | [] => True
  | pCommand :: rest => pCommand.isFirstBlock = true ∧ FollowsInOrder rest

/-- Every write has a successful preparation of the same component before it. -/
def PreparedBeforeWrite (calls : List (Call n)) : Prop :=
  ∀ before offset data length componentId result after,
    calls = before ++ .write offset data length componentId result :: after →
      .prepare componentId 0 ∈ before

/-- The law of phases: successful commands are in order, no write is made before
a preparation, and the component is notified at most once. -/
structure PhaseLaw (mid : List (EngineTransition W n)) : Prop where
  inOrder : InOrder (mid.filterMap succeededCommand)
  prepared : PreparedBeforeWrite (allCalls mid)
  notifiedOnce : (allCalls mid).countP Call.isNotifySuccess ≤ 1

theorem FollowsInOrder.of_beginning {cmds cmds' : List FwUpdateContentCommand}
    (hbegins : cmds <+: cmds') (h : FollowsInOrder cmds') : FollowsInOrder cmds := by
  induction cmds generalizing cmds' with
  | nil => trivial
  | cons cmd cmds ih =>
      obtain ⟨rest, rfl⟩ := hbegins
      rw [List.cons_append, FollowsInOrder] at h
      refine ⟨h.1, ?_⟩
      by_cases hlast : cmd.isLastBlock = true
      · rw [if_pos hlast] at h ⊢
        exact (List.append_eq_nil_iff.mp h.2).1
      · rw [if_neg hlast] at h ⊢
        exact ih ⟨rest, rfl⟩ h.2

/-- A beginning of blocks in order is in order. -/
theorem InOrder.of_beginning {cmds cmds' : List FwUpdateContentCommand}
    (hbegins : cmds <+: cmds') (h : InOrder cmds') : InOrder cmds := by
  cases cmds with
  | nil => trivial
  | cons cmd cmds =>
      obtain ⟨rest, rfl⟩ := hbegins
      exact ⟨h.1, h.2.of_beginning ⟨rest, rfl⟩⟩

theorem FollowsInOrder.countP_completes {cmds : List FwUpdateContentCommand}
    (h : FollowsInOrder cmds) : cmds.countP FwUpdateContentCommand.completes ≤ 1 := by
  induction cmds with
  | nil => simp
  | cons cmd cmds ih =>
      obtain ⟨hfirst, hrest⟩ := h
      by_cases hlast : cmd.isLastBlock = true
      · rw [if_pos hlast] at hrest
        subst hrest
        simp [FwUpdateContentCommand.completes, hfirst, hlast]
      · rw [if_neg hlast] at hrest
        have hnot : ¬ cmd.completes = true := by
          simp [FwUpdateContentCommand.completes, hlast]
        rw [List.countP_cons_of_neg hnot]
        exact ih hrest

/-- Blocks in order have at most one last block. -/
theorem InOrder.countP_completes {cmds : List FwUpdateContentCommand} (h : InOrder cmds) :
    cmds.countP FwUpdateContentCommand.completes ≤ 1 := by
  cases cmds with
  | nil => simp
  | cons cmd cmds =>
      have hnot : ¬ cmd.completes = true := by
        simp [FwUpdateContentCommand.completes, h.1]
      rw [List.countP_cons_of_neg hnot]
      exact h.2.countP_completes

/-! ## What one content command contributes -/

section Content

variable {P : Platform W n} {s : EngineState n} {pCommand : FwUpdateContentCommand}
  {output : Output n} {after : Option (EngineState n)}

/-- A first block is written only behind a successful preparation; otherwise the
update is over. -/
theorem ContentExec.calls_of_first (h : ContentExec P s pCommand output after)
    (hfirst : pCommand.isFirstBlock = true) :
    (∃ result, output.calls = [.prepare s.currentOffer.activeComponentId result] ∧
        after = some s.endUpdate) ∨
      ∃ rest, output.calls = .prepare s.currentOffer.activeComponentId 0 :: rest := by
  cases h with
  | prepareFailed => exact .inl ⟨_, rfl, rfl⟩
  | firstBlock => exact .inr ⟨_, rfl⟩
  | middleBlock _ hnot => rw [hfirst] at hnot; contradiction
  | lastWriteFailed hnot => rw [hfirst] at hnot; contradiction
  | endlessWalk hnot => rw [hfirst] at hnot; contradiction
  | rejected hnot => rw [hfirst] at hnot; contradiction
  | notified _ hnot => rw [hfirst] at hnot; contradiction

/-- Any other block is written without a preparation. -/
theorem ContentExec.calls_of_not_first (h : ContentExec P s pCommand output after)
    (hfirst : pCommand.isFirstBlock = false) :
    ∃ result rest, output.calls = blockWrite s pCommand result :: rest := by
  cases h with
  | prepareFailed hyes => rw [hfirst] at hyes; contradiction
  | firstBlock _ hyes => rw [hfirst] at hyes; contradiction
  | middleBlock => exact ⟨_, _, rfl⟩
  | lastWriteFailed => exact ⟨_, _, rfl⟩
  | endlessWalk => exact ⟨_, _, rfl⟩
  | rejected => exact ⟨_, _, rfl⟩
  | notified => exact ⟨_, _, rfl⟩

/-- A component is notified at most once, and only by a last block. -/
theorem ContentExec.countP_isNotifySuccess (h : ContentExec P s pCommand output after) :
    output.calls.countP Call.isNotifySuccess ≤ if pCommand.completes then 1 else 0 := by
  cases h with
  | prepareFailed => simp [contentOutput, Call.isNotifySuccess]
  | firstBlock => simp [contentOutput, Call.isNotifySuccess, blockWrite]
  | middleBlock => simp [contentOutput, Call.isNotifySuccess, blockWrite]
  | lastWriteFailed => simp [contentOutput, Call.isNotifySuccess, blockWrite]
  | endlessWalk => simp [Call.isNotifySuccess, blockWrite]
  | @rejected calls _ _ _ hrejected =>
      have hnone : ∀ call ∈ blockWrite s pCommand 0 :: calls, ¬ call.isNotifySuccess = true := by
        intro call hcall
        rcases List.mem_cons.mp hcall with rfl | hcall
        · simp [Call.isNotifySuccess, blockWrite]
        · simp [hrejected.isNotifySuccess call hcall]
      rw [contentOutput, List.countP_eq_zero.mpr hnone]
      exact Nat.zero_le _
  | notified _ hfirst hlast =>
      simp [contentOutput, validationCalls, Call.isNotifySuccess, blockWrite,
        FwUpdateContentCommand.completes, hfirst, hlast]

/-- A block that is not answered with success ends the update. -/
theorem ContentExec.ends_of_not_succeeded {s' : EngineState n}
    (h : ContentExec P s pCommand output (some s'))
    (hfailed : output.contentSucceeded = false) :
    s'.currentOffer.updateInProgress = false := by
  have hstatus : ∀ status, (contentOutput pCommand (n := n) [] status).contentSucceeded = false →
      (s.afterStatus status).currentOffer.updateInProgress = false := by
    intro status hne
    have hstatus : status ≠ firmwareUpdateStatusSuccess := by
      simpa [Output.contentSucceeded, contentOutput, contentResponse] using hne
    rw [EngineState.afterStatus, if_neg hstatus]
    rfl
  cases h with
  | prepareFailed => rfl
  | firstBlock => exact hstatus _ hfailed
  | middleBlock => exact hstatus _ hfailed
  | lastWriteFailed => rfl
  | rejected => rfl
  | notified result =>
      cases hresult : mcuSuccess result.status with
      | true =>
          simp [Output.contentSucceeded, contentOutput, contentResponse, notifyStatus,
            hresult] at hfailed
      | false => simp [EngineState.afterNotify, hresult]

end Content

/-! ## Sessions step by step -/

section Session

variable {P : Platform W n}

/-- Induction along a session: a transition is either the last one or leaves the
current offer as it is. -/
theorem session_induction {motive : Config W n → List (EngineTransition W n) → Prop}
    (nil : ∀ c, motive c [])
    (cons : ∀ c e ts, c.engine.currentOffer.updateInProgress = true →
      (ts = [] ∨ ∃ c', (step P c e).2 = some c' ∧
        c'.engine.currentOffer = c.engine.currentOffer ∧ motive c' ts) →
      motive c (transition (step P) c e :: ts))
    (es : List (Event n)) (c : Config W n)
    (hactive : ∀ u ∈ engineTrace P c es,
      u.before.engine.currentOffer.updateInProgress = true) :
    motive c (engineTrace P c es) := by
  induction es generalizing c with
  | nil => exact nil c
  | cons e es ih =>
      rw [engineTrace, trace] at hactive ⊢
      have hbusy := hactive _ List.mem_cons_self
      have hnone : acceptance (transition (step P) c e) = none :=
        acceptance_eq_none_of_calls (step_isProcessOffer_of_updateInProgress hbusy)
      cases hafter : (step P c e).2 with
      | none => exact cons c e [] hbusy (.inl rfl)
      | some c' =>
          rw [hafter] at hactive
          have htail : ∀ u ∈ engineTrace P c' es,
              u.before.engine.currentOffer.updateInProgress = true :=
            fun u hu => hactive u (List.mem_cons_of_mem _ hu)
          cases es with
          | nil => exact cons c e [] hbusy (.inl rfl)
          | cons e' es =>
              have hstill : c'.engine.currentOffer.updateInProgress = true :=
                htail (transition (step P) c' e') List.mem_cons_self
              rcases step_updateInProgress hafter hstill with ⟨a, haccept⟩ | ⟨-, hsame⟩
              · rw [hnone] at haccept
                contradiction
              · exact cons c e _ hbusy (.inr ⟨c', hafter, hsame, ih c' htail⟩)

variable {es : List (Event n)} {c : Config W n}

/-- One step of an update writes only the component of its offer. -/
theorem step_write_componentId {c : Config W n} {e : Event n}
    {ts : List (EngineTransition W n)}
    (hrest : ∀ offset data length componentId result,
      .write offset data length componentId result ∈ allCalls ts →
        componentId = c.engine.currentOffer.activeComponentId) :
    ∀ offset data length componentId result,
      .write offset data length componentId result ∈
        allCalls (transition (step P) c e :: ts) →
        componentId = c.engine.currentOffer.activeComponentId := by
  intro offset data length componentId result hcall
  rw [allCalls_cons, List.mem_append] at hcall
  rcases hcall with hcall | hcall
  · cases hkind : e.isContent with
    | false =>
        have hnot := (step_calls_of_not_content P c hkind _ hcall).1
        simp [Call.changesFlash] at hnot
    | true =>
        obtain ⟨pCommand, rfl⟩ := Event.isContent_iff.mp hkind
        exact (contentExec_step P c pCommand).servesCurrentOffer _ hcall
  · exact hrest _ _ _ _ _ hcall

/-- Without a write there is nothing to prepare for. -/
theorem preparedBeforeWrite_of_no_write {calls : List (Call n)}
    (h : ∀ call ∈ calls, call.isWrite = false) : PreparedBeforeWrite calls := by
  intro before offset data length componentId result after hsplit
  have hnot := h (.write offset data length componentId result) (by rw [hsplit]; simp)
  simp [Call.isWrite] at hnot

/-- Calls that leave the flash alone do not matter for the order of calls. -/
theorem preparedBeforeWrite_append {calls rest : List (Call n)}
    (hquiet : ∀ call ∈ calls, call.changesFlash = false) :
    PreparedBeforeWrite (calls ++ rest) ↔ PreparedBeforeWrite rest := by
  constructor
  · intro h before offset data length componentId result after hsplit
    have hmem := h (calls ++ before) offset data length componentId result after
      (by rw [hsplit, List.append_assoc])
    rcases List.mem_append.mp hmem with hcall | hcall
    · have hnot := hquiet _ hcall
      simp [Call.changesFlash] at hnot
    · exact hcall
  · intro h before offset data length componentId result after hsplit
    rcases List.append_eq_append_iff.mp hsplit with ⟨mid, hbefore, hrest⟩ | ⟨mid, hcalls, hrest⟩
    · rw [hbefore]
      exact List.mem_append_right _ (h mid offset data length componentId result after hrest)
    · cases mid with
      | nil =>
          rw [List.append_nil] at hcalls
          rw [List.nil_append] at hrest
          exact absurd (h [] offset data length componentId result after hrest.symm)
            List.not_mem_nil
      | cons call mid =>
          rw [List.cons_append, List.cons.injEq] at hrest
          have hnot := hquiet call (by rw [hcalls]; simp)
          rw [← hrest.1] at hnot
          simp [Call.changesFlash] at hnot

/-- A successful preparation covers all writes of its component behind it. -/
theorem preparedBeforeWrite_of_prepare {componentId : UInt8} {rest : List (Call n)}
    (hsame : ∀ offset data length componentId' result,
      .write offset data length componentId' result ∈ rest → componentId' = componentId) :
    PreparedBeforeWrite (.prepare componentId 0 :: rest) := by
  intro before offset data length componentId' result after hsplit
  cases before with
  | nil => simp at hsplit
  | cons call before =>
      rw [List.cons_append, List.cons.injEq] at hsplit
      have hid := hsame offset data length componentId' result (by rw [hsplit.2]; simp)
      rw [← hsplit.1, hid]
      exact List.mem_cons_self

@[simp]
theorem contentCommand_transition_content (pCommand : FwUpdateContentCommand) :
    contentCommand (transition (step P) c (.content pCommand)) = some pCommand :=
  rfl

theorem contentCommand_of_not_content {e : Event n} (h : e.isContent = false) :
    contentCommand (transition (step P) c e) = none := by
  cases e with
  | content => simp [Event.isContent] at h
  | _ => rfl

/-- A step that ends the update is the last one of a session. -/
theorem session_stops {e : Event n} {ts : List (EngineTransition W n)}
    {Rest : Config W n → Prop} (hbusy : c.engine.currentOffer.updateInProgress = true)
    (hrest : ts = [] ∨ ∃ c', (step P c e).2 = some c' ∧
      c'.engine.currentOffer = c.engine.currentOffer ∧ Rest c')
    (hended : ∀ c', (step P c e).2 = some c' →
      c'.engine.currentOffer.updateInProgress = false) : ts = [] := by
  rcases hrest with hnil | ⟨c', hstep, hsame, -⟩
  · exact hnil
  · have hidle := hended c' hstep
    rw [hsame, hbusy] at hidle
    contradiction

/-- A first block prepares the flash for everything that the session writes. -/
theorem preparedBeforeWrite_of_firstBlock {pCommand : FwUpdateContentCommand}
    (hfirst : pCommand.isFirstBlock = true) {ts : List (EngineTransition W n)}
    {Rest : Config W n → Prop} (hbusy : c.engine.currentOffer.updateInProgress = true)
    (hrest : ts = [] ∨ ∃ c', (step P c (.content pCommand)).2 = some c' ∧
      c'.engine.currentOffer = c.engine.currentOffer ∧ Rest c')
    (hwrites : ∀ offset data length componentId result,
      .write offset data length componentId result ∈ allCalls ts →
        componentId = c.engine.currentOffer.activeComponentId) :
    PreparedBeforeWrite ((step P c (.content pCommand)).1.calls ++ allCalls ts) := by
  rcases (contentExec_step P c pCommand).calls_of_first hfirst with
    ⟨result, hcalls, hafter⟩ | ⟨rest, hcalls⟩
  · -- the update is over, so the session ends here
    have hlast : ts = [] := by
      refine session_stops hbusy hrest fun c' hstep => ?_
      rw [hstep, Option.map_some, Option.some.injEq] at hafter
      rw [hafter]
      rfl
    rw [hcalls, hlast, allCalls_nil, List.append_nil]
    exact preparedBeforeWrite_of_no_write (by simp [Call.isWrite])
  · have hall := step_write_componentId (P := P) (e := .content pCommand) hwrites
    rw [allCalls_cons, transition_output, hcalls, List.cons_append] at hall
    rw [hcalls, List.cons_append]
    apply preparedBeforeWrite_of_prepare
    intro offset data length componentId result hcall
    exact hall _ _ _ _ _ (List.mem_cons_of_mem _ hcall)

/-- Any other block writes before the flash is prepared. -/
theorem not_preparedBeforeWrite_of_not_firstBlock {pCommand : FwUpdateContentCommand}
    (hfirst : pCommand.isFirstBlock = false) (rest : List (Call n)) :
    ¬ PreparedBeforeWrite ((step P c (.content pCommand)).1.calls ++ rest) := by
  obtain ⟨result, calls, hcalls⟩ := (contentExec_step P c pCommand).calls_of_not_first hfirst
  intro h
  exact absurd (h [] _ _ _ _ _ _ (by rw [hcalls, blockWrite]; rfl)) List.not_mem_nil

/-- A session prepares the flash before it writes exactly when its first block
carries the first-block flag. -/
theorem session_prepared_iff
    (hactive : ∀ u ∈ engineTrace P c es,
      u.before.engine.currentOffer.updateInProgress = true) :
    PreparedBeforeWrite (allCalls (engineTrace P c es)) ↔
      ∀ pCommand, ((engineTrace P c es).filterMap contentCommand).head? = some pCommand →
        pCommand.isFirstBlock = true := by
  refine (session_induction
    (motive := fun c ts =>
      (∀ offset data length componentId result,
        .write offset data length componentId result ∈ allCalls ts →
          componentId = c.engine.currentOffer.activeComponentId) ∧
      (PreparedBeforeWrite (allCalls ts) ↔
        ∀ pCommand, (ts.filterMap contentCommand).head? = some pCommand →
          pCommand.isFirstBlock = true)) ?_ ?_ es c hactive).2
  · intro c
    simp [allCalls, PreparedBeforeWrite]
  · intro c e ts hbusy hrest
    have hwrites : ∀ offset data length componentId result,
        .write offset data length componentId result ∈ allCalls ts →
          componentId = c.engine.currentOffer.activeComponentId := by
      rcases hrest with rfl | ⟨c', -, hsame, ih, -⟩
      · simp [allCalls]
      · rw [← hsame]
        exact ih
    have hrestIff : PreparedBeforeWrite (allCalls ts) ↔
        ∀ pCommand, (ts.filterMap contentCommand).head? = some pCommand →
          pCommand.isFirstBlock = true := by
      rcases hrest with rfl | ⟨c', -, -, -, ih⟩
      · simp [PreparedBeforeWrite]
      · exact ih
    refine ⟨step_write_componentId hwrites, ?_⟩
    cases hkind : e.isContent with
    | false =>
        have hquiet : ∀ call ∈ (step P c e).1.calls, call.changesFlash = false :=
          fun call hcall => (step_calls_of_not_content P c hkind call hcall).1
        rw [List.filterMap_cons_none (contentCommand_of_not_content hkind), allCalls_cons,
          transition_output, preparedBeforeWrite_append hquiet]
        exact hrestIff
    | true =>
        obtain ⟨pCommand, rfl⟩ := Event.isContent_iff.mp hkind
        rw [List.filterMap_cons_some (contentCommand_transition_content pCommand),
          List.head?_cons, allCalls_cons, transition_output]
        cases hfirst : pCommand.isFirstBlock with
        | true =>
            refine iff_of_true ?_ (by simp [hfirst])
            exact preparedBeforeWrite_of_firstBlock hfirst hbusy hrest hwrites
        | false =>
            refine iff_of_false ?_ (by simp [hfirst])
            exact not_preparedBeforeWrite_of_not_firstBlock hfirst _

/-- A component is notified at most as often as last blocks arrive. -/
theorem trace_countP_isNotifySuccess (c : Config W n) (es : List (Event n)) :
    (allCalls (engineTrace P c es)).countP Call.isNotifySuccess ≤
      ((engineTrace P c es).filterMap contentCommand).countP
        FwUpdateContentCommand.completes := by
  have general : ∀ ts : List (EngineTransition W n),
      (∀ t ∈ ts, t = transition (step P) t.before t.event) →
      (allCalls ts).countP Call.isNotifySuccess ≤
        (ts.filterMap contentCommand).countP FwUpdateContentCommand.completes := by
    intro ts
    induction ts with
    | nil => simp
    | cons t ts ih =>
        intro hstep
        have hrest := ih fun u hu => hstep u (List.mem_cons_of_mem t hu)
        have ht := hstep t List.mem_cons_self
        rw [allCalls_cons, List.countP_append]
        cases hkind : t.event.isContent with
        | false =>
            have hzero : t.output.calls.countP Call.isNotifySuccess = 0 := by
              rw [List.countP_eq_zero]
              intro call hcall
              rw [ht] at hcall
              simp [(step_calls_of_not_content P t.before hkind call hcall).2]
            have hnone : contentCommand t = none := by
              rw [ht]
              exact contentCommand_of_not_content hkind
            rw [List.filterMap_cons_none hnone, hzero, Nat.zero_add]
            exact hrest
        | true =>
            obtain ⟨pCommand, hevent⟩ := Event.isContent_iff.mp hkind
            have hone : t.output.calls.countP Call.isNotifySuccess ≤
                if pCommand.completes then 1 else 0 := by
              rw [ht, hevent]
              exact (contentExec_step P t.before pCommand).countP_isNotifySuccess
            have hsome : contentCommand t = some pCommand := by
              rw [contentCommand, hevent]
            rw [List.filterMap_cons_some hsome, List.countP_cons]
            omega
  exact general _ fun t ht => eq_transition_of_mem_trace ht

/-- The commands that a session answers with success are its first ones. -/
theorem session_succeeded_beginning
    (hactive : ∀ u ∈ engineTrace P c es,
      u.before.engine.currentOffer.updateInProgress = true) :
    (engineTrace P c es).filterMap succeededCommand <+:
      (engineTrace P c es).filterMap contentCommand := by
  refine session_induction
    (motive := fun _ ts => ts.filterMap succeededCommand <+: ts.filterMap contentCommand)
    ?_ ?_ es c hactive
  · intro c
    exact List.prefix_refl _
  · intro c e ts hbusy hrest
    have hrestPrefix : ts.filterMap succeededCommand <+: ts.filterMap contentCommand := by
      rcases hrest with rfl | ⟨c', -, -, ih⟩
      · exact List.prefix_refl _
      · exact ih
    cases hkind : e.isContent with
    | false =>
        have hnone := contentCommand_of_not_content (P := P) (c := c) hkind
        have hnone' : succeededCommand (transition (step P) c e) = none := by
          rw [succeededCommand, hnone, ite_self]
        rw [List.filterMap_cons_none hnone, List.filterMap_cons_none hnone']
        exact hrestPrefix
    | true =>
        obtain ⟨pCommand, rfl⟩ := Event.isContent_iff.mp hkind
        rw [List.filterMap_cons_some (contentCommand_transition_content pCommand)]
        cases hsucceeded : (step P c (.content pCommand)).1.contentSucceeded with
        | true =>
            have hsome : succeededCommand (transition (step P) c (.content pCommand)) =
                some pCommand := by
              rw [succeededCommand, transition_output, hsucceeded]
              rfl
            rw [List.filterMap_cons_some hsome, List.prefix_cons_inj]
            exact hrestPrefix
        | false =>
            have hnone : succeededCommand (transition (step P) c (.content pCommand)) =
                none := by
              rw [succeededCommand, transition_output, hsucceeded]
              rfl
            -- the update is over, so the session ends here
            have hlast : ts = [] := by
              refine session_stops hbusy hrest fun c' hstep => ?_
              have hexec := contentExec_step P c pCommand
              rw [hstep, Option.map_some] at hexec
              exact hexec.ends_of_not_succeeded hsucceeded
            rw [List.filterMap_cons_none hnone, hlast]
            exact List.nil_prefix

end Session

/-! ## The phases of an update -/

/-- Between an acceptance and the end of its update the flash is prepared before
it is written exactly when the first block carries the first-block flag; the
component is notified at most once for each last block; and if the host sends its
blocks in order, the law of phases holds. -/
theorem session_phases (P : Platform W n) (c : Config W n) (es : List (Event n))
    {mid : List (EngineTransition W n)} (hsession : SessionOf P c es mid) :
    (PreparedBeforeWrite (allCalls mid) ↔
        ∀ pCommand, (mid.filterMap contentCommand).head? = some pCommand →
          pCommand.isFirstBlock = true) ∧
      (allCalls mid).countP Call.isNotifySuccess ≤
        (mid.filterMap contentCommand).countP FwUpdateContentCommand.completes ∧
      (InOrder (mid.filterMap contentCommand) → PhaseLaw mid) := by
  obtain ⟨pre, t, post, hsplit, -, hactive⟩ := hsession
  obtain ⟨c', es', rfl⟩ := exists_trace_of_infix hsplit
  have hprepared := session_prepared_iff hactive
  have hcount := trace_countP_isNotifySuccess (P := P) c' es'
  refine ⟨hprepared, hcount, ?_⟩
  intro horder
  refine
    { inOrder := horder.of_beginning (session_succeeded_beginning hactive)
      prepared := hprepared.mpr ?_
      notifiedOnce := hcount.trans horder.countP_completes }
  intro pCommand hhead
  cases hcmds : (trace (step P) c' es').filterMap contentCommand with
  | nil => simp [hcmds] at hhead
  | cons first rest =>
      rw [hcmds, List.head?_cons, Option.some.injEq] at hhead
      rw [hcmds] at horder
      rw [← hhead]
      exact horder.1

/-- A first and a last block behind an accepted offer. -/
def twoBlockUpdate : List (Event 1) :=
  acceptedOffer ++ [.content (.block firmwareUpdateFlagFirstBlock 0 [0xAA]),
    .content (.block firmwareUpdateFlagLastBlock 1 [0xBB])]

theorem session_phases_twoBlocks :
    SessionOf (acceptingPlatform fun _ => 1) (Config.powerOn (fun _ => none) ()) twoBlockUpdate
        ((sampleTrace twoBlockUpdate).drop 2) ∧
      PhaseLaw ((sampleTrace twoBlockUpdate).drop 2) := by
  have hsession : SessionOf (acceptingPlatform fun _ => 1) (Config.powerOn (fun _ => none) ())
      twoBlockUpdate ((sampleTrace twoBlockUpdate).drop 2) := by
    refine ⟨[_], _, [], rfl, rfl, ?_⟩
    intro u hu
    rcases List.mem_cons.mp hu with rfl | hu
    · rfl
    · rw [List.mem_singleton.mp hu]
      rfl
  refine ⟨hsession, (session_phases _ _ _ hsession).2.2 ?_⟩
  refine ⟨by decide, by decide, ?_⟩
  rw [if_pos (by decide)]
  rfl

/-- Without a first block the flash is written unprepared, and a last block that
is sent again notifies the component again. -/
theorem blocks_out_of_order :
    (∃ mid, SessionOf (acceptingPlatform fun _ => 1) (Config.powerOn (fun _ => none) ())
        (acceptedOffer ++ [.content (.block 0 0 [0xAA])]) mid ∧
      ¬ PreparedBeforeWrite (allCalls mid)) ∧
    ∃ mid, SessionOf (acceptingPlatform fun _ => 1) (Config.powerOn (fun _ => none) ())
        (twoBlockUpdate ++ [.content (.block firmwareUpdateFlagLastBlock 1 [0xBB])]) mid ∧
      ¬ (allCalls mid).countP Call.isNotifySuccess ≤ 1 := by
  constructor
  · refine ⟨[_], ⟨[_], _, [], rfl, rfl, ?_⟩, ?_⟩
    · intro u hu
      rw [List.mem_singleton] at hu
      rw [hu]
      rfl
    · intro h
      exact absurd (h [] 0 [0xAA] 1 1 0 [] rfl) List.not_mem_nil
  · refine ⟨[_, _, _], ⟨[_], _, [], rfl, rfl, ?_⟩, by decide⟩
    intro u hu
    simp only [List.mem_cons, List.not_mem_nil, or_false] at hu
    rcases hu with rfl | rfl | rfl <;> rfl

end Firmware
end CFU
