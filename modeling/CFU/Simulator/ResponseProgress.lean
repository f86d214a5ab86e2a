import CFU.Library.Components
import CFU.Simulator.ResponseDelivery

/-!
# CFU simulator - the progress of responses

Once no more write reports come in, the worker comes to rest, in whatever order the turns
that are left are made.  The input reports that were sent by then are the responses to the
accepted write reports, in order, except for as many of the last ones as signals were lost.
A host that waits for the input report of a write report before it sends the next one loses
none.

Main results:

- Theorem {lit}`input_reports_in_order`: no response is sent twice, before an earlier one
  or without its write report, and what is missing at rest.
- Theorem {lit}`worker_comes_to_rest`: the worker never makes more turns than the accepted
  write reports give it, and never stops before it is at rest.
- Theorem {lit}`lock_step_delivers`: a host that waits gets every input report, within four
  turns.
- Theorem {lit}`delivery_refines_device`: such a host sees the device as if it answered
  each write report at once, whatever the order of the turns.

Current gaps:

- The turns of the worker are not bound to a time.
-/

namespace CFU
namespace Simulator

open EventRuns SignalledQueue

/-! ## Turns -/

/-- A turn other than a write report. -/
def Turn.isWork (turn : Turn) : Bool :=
  turn.request.isNone

/-- The number of turns other than write reports. -/
def workTurns (turns : List Turn) : ℕ :=
  turns.countP Turn.isWork

/-- A turn other than a write report is possible. -/
def DeliveryState.CanWork (values : ComponentFirmwareUpdate) (s : DeliveryState) : Prop :=
  ∃ turn : Turn, turn.isWork ∧ (deliveryStep values s turn).2 ≠ none

/-- A write report comes only when all input reports have been sent that the write reports
before it ask for. -/
def LockStep (ts : List DeliveryTransition) : Prop :=
  ∀ pre t, pre ++ [t] <+: ts → t.event.isWork = false →
    (inputReports pre).length = (acceptedResponses pre).length

section Turns

variable {values : ComponentFirmwareUpdate} {s s' : DeliveryState} {ts : List DeliveryTransition}
  {t : DeliveryTransition} {turn : Turn} {turns rest : List Turn}

@[simp]
theorem workTurns_append (turns rest : List Turn) :
    workTurns (turns ++ rest) = workTurns turns + workTurns rest :=
  List.countP_append

/-- A turn other than a write report accepts nothing. -/
theorem acceptedResponses_of_isWork (hwork : turn.isWork = true) :
    acceptedResponses [transition (deliveryStep values) s turn] = [] := by
  cases turn with
  | writeReport packet => cases hwork
  | workReady => rfl
  | responseThreadWork => rfl
  | dequeue => rfl
  | responseSend =>
      cases hfinish : s.responses.finish with
      | none => simp [acceptedResponses, deliveryStep, hfinish]
      | some result => simp [acceptedResponses, deliveryStep, hfinish]

/-- A turn accepts at most one write report. -/
theorem length_acceptedResponses_singleton (t : DeliveryTransition) :
    (acceptedResponses [t]).length ≤ 1 :=
  List.length_filterMap_le _ [t]

end Turns

/-! ## The work of a turn -/

section Work

variable {values : ComponentFirmwareUpdate} {s s' : DeliveryState} {turn : Turn}
  {turns : List Turn}

/-- A write report leaves four turns if it is accepted, and none otherwise. -/
theorem work_writeReport {packet : HidXferPacket}
    (hafter : (deliveryStep values s (.writeReport packet)).2 = some s') :
    s'.responses.work = s.responses.work +
      4 * (acceptedResponses
        [transition (deliveryStep values) s (.writeReport packet)]).length := by
  rcases hwrite : cfuDeviceWriteReport values s.deviceContext true packet with
    ⟨outcome, deviceContext⟩
  cases outcome with
  | enqueued responseBuffer =>
      simp only [deliveryStep, hwrite, Option.some.injEq] at hafter
      subst hafter
      simp [acceptedResponses, deliveryStep, hwrite]
  | invalidDeviceRequest =>
      simp only [deliveryStep, hwrite, Option.some.injEq] at hafter
      subst hafter
      simp [acceptedResponses, deliveryStep, hwrite]
  | fetchFailed =>
      simp only [deliveryStep, hwrite, Option.some.injEq] at hafter
      subst hafter
      simp [acceptedResponses, deliveryStep, hwrite]

/-- Every other turn leaves less work than it found. -/
theorem work_of_isWork (hwork : turn.isWork = true)
    (hafter : (deliveryStep values s turn).2 = some s') :
    s'.responses.work < s.responses.work := by
  cases turn with
  | writeReport packet => cases hwork
  | workReady => exact work_signal (withResponses_eq_some hafter)
  | responseThreadWork => exact work_wake (withResponses_eq_some hafter)
  | dequeue => exact work_take (withResponses_eq_some hafter)
  | responseSend =>
      cases hfinish : s.responses.finish with
      | none => simp [deliveryStep, hfinish] at hafter
      | some result =>
          simp only [deliveryStep, hfinish, Option.some.injEq] at hafter
          subst hafter
          exact work_finish hfinish

/-- The turns that were made and the work that is left are paid for by the write reports
that were accepted. -/
theorem workTurns_add_work_le
    (hreach : finalState (deliveryStep values) startedDelivery turns = some s) :
    workTurns turns + s.responses.work ≤
      4 * (acceptedResponses (trace (deliveryStep values) startedDelivery turns)).length := by
  apply finalState_induction (motive := fun turns s => workTurns turns + s.responses.work ≤
    4 * (acceptedResponses (trace (deliveryStep values) startedDelivery turns)).length)
    (Nat.le_refl 0) _ hreach
  intro turns s turn s' hbefore ih hafter
  rw [trace_append_singleton turn hbefore, acceptedResponses_append, List.length_append,
    workTurns_append]
  cases hwork : turn.isWork with
  | true =>
      have hless := work_of_isWork hwork hafter
      have hcount : workTurns [turn] = 1 := by simp [workTurns, hwork]
      omega
  | false =>
      have hcount : workTurns [turn] = 0 := by simp [workTurns, hwork]
      cases turn with
      | writeReport packet =>
          have hwritten := work_writeReport hafter
          omega
      | workReady => cases hwork
      | responseThreadWork => cases hwork
      | dequeue => cases hwork
      | responseSend => cases hwork

/-- Turns other than write reports use up the work that is left. -/
theorem work_add_length_le {rest : List Turn} (hwork : ∀ turn ∈ rest, turn.isWork = true)
    (hrest : finalState (deliveryStep values) s rest = some s') :
    s'.responses.work + rest.length ≤ s.responses.work :=
  measure_add_length_le (fun s : DeliveryState => s.responses.work)
    (fun turn => turn.isWork = true) (fun _ _ _ => work_of_isWork) hwork hrest

/-- A device at rest only has write reports to wait for. -/
theorem Settled.not_canWork (hsettled : Settled s.responses) : ¬ s.CanWork values := by
  rintro ⟨turn, hwork, hpossible⟩
  cases turn with
  | writeReport packet => cases hwork
  | workReady =>
      simp [deliveryStep, DeliveryState.withResponses, State.signal, hsettled.producers]
        at hpossible
  | responseThreadWork =>
      simp [deliveryStep, DeliveryState.withResponses, State.wake, hsettled.signalled]
        at hpossible
  | dequeue =>
      simp [deliveryStep, DeliveryState.withResponses, State.take, hsettled.worker]
        at hpossible
  | responseSend => simp [deliveryStep, State.finish, hsettled.worker] at hpossible

/-- A device that is not at rest can go on. -/
theorem canWork_of_not_settled (hsettled : ¬ Settled s.responses) : s.CanWork values := by
  rcases possible_of_not_settled hsettled with hsignal | hwake | htake | hfinish
  · exact ⟨.workReady, rfl, by simpa [deliveryStep, DeliveryState.withResponses] using hsignal⟩
  · exact ⟨.responseThreadWork, rfl,
      by simpa [deliveryStep, DeliveryState.withResponses] using hwake⟩
  · exact ⟨.dequeue, rfl, by simpa [deliveryStep, DeliveryState.withResponses] using htake⟩
  · refine ⟨.responseSend, rfl, ?_⟩
    cases hresult : s.responses.finish with
    | none => exact absurd hresult hfinish
    | some result => simp [deliveryStep, hresult]

end Work

/-! ## Hosts that wait -/

section LockStep

variable {values : ComponentFirmwareUpdate} {s s' : DeliveryState} {ts : List DeliveryTransition}
  {t : DeliveryTransition} {turn : Turn} {turns rest : List Turn}

theorem LockStep.of_prefix {us : List DeliveryTransition} (h : LockStep us) (hbegin : ts <+: us) :
    LockStep ts :=
  fun pre t hpre => h pre t (hpre.trans hbegin)

/-- A host that waits before a turn has waited behind it. -/
theorem LockStep.append (h : LockStep ts)
    (hwait : t.event.isWork = false →
      (inputReports ts).length = (acceptedResponses ts).length) :
    LockStep (ts ++ [t]) := by
  intro pre u hpre hwrite
  rcases List.prefix_concat_iff.mp hpre with hlast | hearlier
  · obtain ⟨rfl, hsame⟩ := List.append_inj' hlast rfl
    rw [List.singleton_inj.mp hsame] at hwrite
    exact hwait hwrite
  · exact h pre u hearlier hwrite

/-- What a run with a host that waits leaves behind: no signal was lost, and at most one
input report is outstanding. -/
structure Waiting (ts : List DeliveryTransition) : Prop where
  lostSignals : lostSignals ts = 0
  outstanding : (acceptedResponses ts).length ≤ (inputReports ts).length + 1

/-- A run accounts for its responses with as many entries handed over as input reports. -/
theorem DeliveryAccounted.exists_length (h : DeliveryAccounted ts s) :
    ∃ sent, Accounted (lostSignals ts) (acceptedResponses ts) sent s.responses ∧
      sent.length = (inputReports ts).length := by
  obtain ⟨sent, haccounted, hreports⟩ := h
  exact ⟨sent, haccounted, by rw [hreports, List.length_map]⟩

/-- A write report that signals the worker while at most one input report is outstanding
finds the signal reset. -/
theorem Waiting.findsSignal_eq_false (h : Waiting ts) (haccounted : DeliveryAccounted ts s)
    (hafter : (deliveryStep values s turn).2 = some s') :
    findsSignal (transition (deliveryStep values) s turn) = false := by
  cases turn with
  | writeReport packet => rfl
  | responseThreadWork => rfl
  | dequeue => rfl
  | responseSend => rfl
  | workReady =>
      obtain ⟨sent, hsent, hlength⟩ := haccounted.exists_length
      rw [h.lostSignals] at hsent
      have hproducers : s.responses.producers ≠ 0 := by
        intro hnone
        have hsignal := withResponses_eq_some hafter
        simp [State.signal, hnone] at hsignal
      apply hsent.signalled_eq_false hproducers
      rw [hlength]
      exact h.outstanding

/-- One turn of a run whose host waits. -/
theorem Waiting.step (h : Waiting ts) (haccounted : DeliveryAccounted ts s)
    (hwait : turn.isWork = false → (inputReports ts).length = (acceptedResponses ts).length)
    (hafter : (deliveryStep values s turn).2 = some s') :
    Waiting (ts ++ [transition (deliveryStep values) s turn]) where
  lostSignals := by
    rw [lostSignals_append_singleton, h.lostSignals, h.findsSignal_eq_false haccounted hafter]
    rfl
  outstanding := by
    rw [acceptedResponses_append, inputReports_append, List.length_append, List.length_append]
    have houtstanding := h.outstanding
    have hone := length_acceptedResponses_singleton (transition (deliveryStep values) s turn)
    cases hwork : turn.isWork with
    | true =>
        rw [acceptedResponses_of_isWork hwork, List.length_nil]
        omega
    | false =>
        have hnone := hwait hwork
        omega

/-- A host that waits keeps every signal, and has at most one input report outstanding. -/
theorem LockStep.waiting
    (hlock : LockStep (trace (deliveryStep values) startedDelivery turns))
    (hreach : finalState (deliveryStep values) startedDelivery turns = some s) :
    Waiting (trace (deliveryStep values) startedDelivery turns) := by
  have hinit : DeliveryAccounted [] startedDelivery := ⟨[], accounted_empty, rfl⟩
  have hhistory := history_of_step
    (fun ts s => DeliveryAccounted ts s ∧ (LockStep ts → Waiting ts))
    ⟨hinit, fun _ => ⟨rfl, Nat.zero_le _⟩⟩ ?_ hreach
  · exact hhistory.2 hlock
  · intro ts s turn s' h hafter
    refine ⟨h.1.step hafter, ?_⟩
    intro hnext
    have hbefore : Waiting ts := h.2 (hnext.of_prefix (List.prefix_append _ _))
    exact hbefore.step h.1 (hnext ts _ (List.prefix_refl _)) hafter

/-- A host that waits still waits behind turns other than write reports. -/
theorem LockStep.trace_append_work
    (hlock : LockStep (trace (deliveryStep values) startedDelivery turns))
    (hreach : finalState (deliveryStep values) startedDelivery turns = some s)
    (hwork : ∀ turn ∈ rest, turn.isWork = true)
    (hrest : finalState (deliveryStep values) s rest = some s') :
    finalState (deliveryStep values) startedDelivery (turns ++ rest) = some s' ∧
      LockStep (trace (deliveryStep values) startedDelivery (turns ++ rest)) := by
  induction rest generalizing turns s with
  | nil =>
      rw [finalState_nil, Option.some.injEq] at hrest
      subst hrest
      rw [List.append_nil]
      exact ⟨hreach, hlock⟩
  | cons turn rest ih =>
      rw [finalState] at hrest
      cases hafter : (deliveryStep values s turn).2 with
      | none => simp [hafter] at hrest
      | some s₁ =>
          rw [hafter] at hrest
          have hreach' : finalState (deliveryStep values) startedDelivery (turns ++ [turn]) =
              some s₁ := by
            rw [finalState_append_singleton, hreach, Option.bind_some, hafter]
          have hlock' : LockStep
              (trace (deliveryStep values) startedDelivery (turns ++ [turn])) := by
            rw [trace_append_singleton turn hreach]
            apply hlock.append
            intro hwrite
            rw [transition_event, hwork turn List.mem_cons_self] at hwrite
            cases hwrite
          have hgo := ih hlock' hreach'
            (fun turn hturn => hwork turn (List.mem_cons_of_mem _ hturn)) hrest
          simpa using hgo

end LockStep

/-! ## Responses in every interleaving -/

/-- In every interleaving the input reports are the responses to the first accepted write
reports, in order.  At rest the missing ones are in the queue, and as many as the signals
that were lost. -/
theorem input_reports_in_order (values : ComponentFirmwareUpdate) {turns : List Turn}
    {s : DeliveryState}
    (hreach : finalState (deliveryStep values) startedDelivery turns = some s) :
    inputReports (trace (deliveryStep values) startedDelivery turns) <+:
        (acceptedResponses (trace (deliveryStep values) startedDelivery turns)).map
          cfuDeviceResponseSend ∧
      (Settled s.responses →
        (acceptedResponses (trace (deliveryStep values) startedDelivery turns)).map
            cfuDeviceResponseSend =
          inputReports (trace (deliveryStep values) startedDelivery turns) ++
            s.responses.queue.map cfuDeviceResponseSend ∧
        s.responses.queue.length =
          lostSignals (trace (deliveryStep values) startedDelivery turns)) := by
  obtain ⟨sent, haccounted, hreports⟩ := deliveryAccounted hreach
  constructor
  · rw [hreports]
    exact haccounted.handedOver_prefix.map _
  · intro hsettled
    obtain ⟨hsplit, hlength⟩ := haccounted.split_of_settled hsettled
    refine ⟨?_, hlength⟩
    calc
      (acceptedResponses (trace (deliveryStep values) startedDelivery turns)).map
          cfuDeviceResponseSend
          = (sent ++ s.responses.queue).map cfuDeviceResponseSend := by rw [← hsplit]
      _ = sent.map cfuDeviceResponseSend ++
            s.responses.queue.map cfuDeviceResponseSend := List.map_append
      _ = _ := by rw [hreports]

/-- After two write reports before the worker's turn, the first response is sent and the
second one is in the queue. -/
theorem input_reports_in_order_twoReports :
    ∃ s, finalState (deliveryStep protocolValues) startedDelivery twoReports = some s ∧
      (acceptedResponses (trace (deliveryStep protocolValues) startedDelivery twoReports)).map
          cfuDeviceResponseSend =
        inputReports (trace (deliveryStep protocolValues) startedDelivery twoReports) ++
          s.responses.queue.map cfuDeviceResponseSend ∧
      s.responses.queue.length =
        lostSignals (trace (deliveryStep protocolValues) startedDelivery twoReports) :=
  ⟨_, rfl, (input_reports_in_order protocolValues rfl).2 ⟨rfl, rfl, rfl⟩⟩

/-! ## Coming to rest -/

/-- From every state that an interleaving reaches, the turns other than write reports come
to an end in whatever order they are made: together with those before there are at most
four for each accepted write report, and none is possible exactly at rest. -/
theorem worker_comes_to_rest (values : ComponentFirmwareUpdate) {turns rest : List Turn}
    {s s' : DeliveryState}
    (hreach : finalState (deliveryStep values) startedDelivery turns = some s)
    (hwork : ∀ turn ∈ rest, turn.isWork = true)
    (hrest : finalState (deliveryStep values) s rest = some s') :
    workTurns turns + rest.length ≤
        4 * (acceptedResponses (trace (deliveryStep values) startedDelivery turns)).length ∧
      (Settled s'.responses ↔ ¬ s'.CanWork values) := by
  constructor
  · have hbound := workTurns_add_work_le hreach
    have hrun := work_add_length_le hwork hrest
    omega
  · constructor
    · exact Settled.not_canWork
    · exact fun hstuck => by_contra fun hsettled => hstuck (canWork_of_not_settled hsettled)

/-- The write report of one report, until it has signalled the worker. -/
def signalledReport : List Turn :=
  [.writeReport emptyContentReport, .workReady]

theorem isWork_workerTurns : ∀ turn ∈ workerTurns, turn.isWork = true := by
  simp [workerTurns, Turn.isWork, Turn.request]

/-- The worker's turns behind the second of two spaced reports. -/
theorem worker_comes_to_rest_spacedReports :
    ∃ s s', finalState (deliveryStep protocolValues) startedDelivery
        (oneReport ++ signalledReport) = some s ∧
      finalState (deliveryStep protocolValues) s workerTurns = some s' ∧
      workTurns (oneReport ++ signalledReport) + workerTurns.length ≤
        4 * (acceptedResponses (trace (deliveryStep protocolValues) startedDelivery
          (oneReport ++ signalledReport))).length ∧
      Settled s'.responses ∧ ¬ s'.CanWork protocolValues := by
  have hrest := @worker_comes_to_rest protocolValues (oneReport ++ signalledReport) workerTurns
    _ _ rfl isWork_workerTurns rfl
  exact ⟨_, _, rfl, rfl, hrest.1, ⟨rfl, rfl, rfl⟩, hrest.2.mp ⟨rfl, rfl, rfl⟩⟩

/-- When the host waits for the input report of each write report before it sends the next
one, no signal is lost and at most one input report is outstanding.  If it then sends
nothing, at most four turns follow, in whatever order, and where none is possible every
accepted write report has its input report. -/
theorem lock_step_delivers (values : ComponentFirmwareUpdate) {turns rest : List Turn}
    {s s' : DeliveryState}
    (hreach : finalState (deliveryStep values) startedDelivery turns = some s)
    (hlock : LockStep (trace (deliveryStep values) startedDelivery turns))
    (hwork : ∀ turn ∈ rest, turn.isWork = true)
    (hrest : finalState (deliveryStep values) s rest = some s') :
    lostSignals (trace (deliveryStep values) startedDelivery turns) = 0 ∧
      (acceptedResponses (trace (deliveryStep values) startedDelivery turns)).length ≤
        (inputReports (trace (deliveryStep values) startedDelivery turns)).length + 1 ∧
      rest.length ≤ 4 ∧
      (ResponsesDelivered (trace (deliveryStep values) startedDelivery (turns ++ rest)) s' ∨
        s'.CanWork values) := by
  have hwaiting := hlock.waiting hreach
  refine ⟨hwaiting.lostSignals, hwaiting.outstanding, ?_, ?_⟩
  · obtain ⟨sent, hsent, hlength⟩ := (deliveryAccounted hreach).exists_length
    have houtstanding := hwaiting.outstanding
    rw [hwaiting.lostSignals] at hsent
    rw [← hlength] at houtstanding
    have hdue := hsent.due_eq
    have hleft := work_le_due s.responses
    have hrun := work_add_length_le hwork hrest
    omega
  · obtain ⟨hreach', hlock'⟩ := hlock.trace_append_work hreach hwork hrest
    by_cases hsettled : Settled s'.responses
    · have hnone := (hlock'.waiting hreach').lostSignals
      exact .inl (((deliveryAccounted hreach').settled_iff hsettled).mpr hnone)
    · exact .inr (canWork_of_not_settled hsettled)

theorem lockStep_nil : LockStep [] := by
  intro pre t hpre
  simp at hpre

/-- A host that has its input reports sends the next write report. -/
theorem LockStep.trace_append_writeReport {values : ComponentFirmwareUpdate}
    {turns : List Turn} {s : DeliveryState} {packet : HidXferPacket}
    (hlock : LockStep (trace (deliveryStep values) startedDelivery turns))
    (hreach : finalState (deliveryStep values) startedDelivery turns = some s)
    (hwait : (inputReports (trace (deliveryStep values) startedDelivery turns)).length =
      (acceptedResponses (trace (deliveryStep values) startedDelivery turns)).length) :
    LockStep (trace (deliveryStep values) startedDelivery (turns ++ [.writeReport packet])) := by
  rw [trace_append_singleton _ hreach]
  exact hlock.append fun _ => hwait

theorem isWork_workReady_workerTurns :
    ∀ turn ∈ Turn.workReady :: workerTurns, turn.isWork = true :=
  List.forall_mem_cons.mpr ⟨rfl, isWork_workerTurns⟩

theorem lockStep_oneReport :
    LockStep (trace (deliveryStep protocolValues) startedDelivery oneReport) := by
  have hfirst : LockStep (trace (deliveryStep protocolValues) startedDelivery
      ([] ++ [.writeReport emptyContentReport])) :=
    LockStep.trace_append_writeReport lockStep_nil rfl rfl
  exact (hfirst.trace_append_work rfl isWork_workReady_workerTurns rfl).2

/-- The second write report comes behind the input report of the first. -/
theorem lockStep_secondReport :
    LockStep (trace (deliveryStep protocolValues) startedDelivery
      (oneReport ++ [.writeReport emptyContentReport])) :=
  lockStep_oneReport.trace_append_writeReport rfl rfl

theorem lock_step_delivers_spacedReports :
    ∃ s s', finalState (deliveryStep protocolValues) startedDelivery
        (oneReport ++ [.writeReport emptyContentReport]) = some s ∧
      finalState (deliveryStep protocolValues) s (.workReady :: workerTurns) = some s' ∧
      lostSignals (trace (deliveryStep protocolValues) startedDelivery
        (oneReport ++ [.writeReport emptyContentReport])) = 0 ∧
      (Turn.workReady :: workerTurns).length ≤ 4 ∧
      (ResponsesDelivered (trace (deliveryStep protocolValues) startedDelivery
          (oneReport ++ [.writeReport emptyContentReport] ++ .workReady :: workerTurns)) s' ∨
        s'.CanWork protocolValues) := by
  obtain ⟨hlost, -, hlength, hdelivered⟩ := lock_step_delivers protocolValues rfl
    lockStep_secondReport isWork_workReady_workerTurns rfl
  exact ⟨_, _, rfl, rfl, hlost, hlength, hdelivered⟩

/-! ## The device without its worker -/

/-- The responses of a device that answers at once. -/
def answers (ts : List DeviceTransition) : List ResponseBuffer :=
  ts.filterMap fun t =>
    match t.output with
    | .writeReport (.enqueued responseBuffer) => some responseBuffer
    | _ => none

/-- The write reports of an interleaving. -/
def writeReports (turns : List Turn) : List Request :=
  turns.filterMap Turn.request

section Refinement

variable {values : ComponentFirmwareUpdate} {s s' : DeliveryState} {turn : Turn}
  {turns : List Turn}

@[simp]
theorem answers_append (ts us : List DeviceTransition) :
    answers (ts ++ us) = answers ts ++ answers us :=
  List.filterMap_append

/-- A write report is accepted with the response that the device gives at once. -/
theorem acceptedResponses_writeReport (s : DeliveryState) (packet : HidXferPacket) :
    acceptedResponses [transition (deliveryStep values) s (.writeReport packet)] =
      answers [transition (step values) s.deviceContext (.writeReport true packet)] := by
  rcases hwrite : cfuDeviceWriteReport values s.deviceContext true packet with
    ⟨outcome, deviceContext⟩
  cases outcome with
  | enqueued responseBuffer =>
      simp [acceptedResponses, answers, deliveryStep, Simulator.step, hwrite]
  | invalidDeviceRequest =>
      simp [acceptedResponses, answers, deliveryStep, Simulator.step, hwrite]
  | fetchFailed => simp [acceptedResponses, answers, deliveryStep, Simulator.step, hwrite]

/-- The device of an interleaving takes its write reports as requests. -/
def deviceOf (values : ComponentFirmwareUpdate) :
    Component (deliveryStep values) (step values) where
  state := DeliveryState.deviceContext
  event t := t.event.request
  moves s turn s' request hafter hrequest := by
    cases turn with
    | writeReport packet =>
        cases hrequest
        exact congrArg some (writeReport_deviceContext hafter)
    | workReady => cases hrequest
    | responseThreadWork => cases hrequest
    | dequeue => cases hrequest
    | responseSend => cases hrequest
  stays s turn s' hafter hnone := deviceContext_of_request_eq_none hnone hafter

theorem events_deviceOf {s₀ : DeliveryState}
    (hreach : finalState (deliveryStep values) s₀ turns = some s) :
    (deviceOf values).events s₀ turns = writeReports turns :=
  (deviceOf values).events_eq_filterMap (fun _ => rfl) hreach

/-- A turn is accepted with the answer that the device gives to its request. -/
theorem acceptedResponses_of_request {request : Request} (hrequest : turn.request = some request) :
    acceptedResponses [transition (deliveryStep values) s turn] =
      answers [transition (step values) s.deviceContext request] := by
  cases turn with
  | writeReport packet =>
      cases hrequest
      exact acceptedResponses_writeReport s packet
  | workReady => cases hrequest
  | responseThreadWork => cases hrequest
  | dequeue => cases hrequest
  | responseSend => cases hrequest

/-- The accepted responses of an interleaving are the answers to its write reports alone. -/
theorem acceptedResponses_eq_answers {s₀ : DeliveryState}
    (hreach : finalState (deliveryStep values) s₀ turns = some s) :
    acceptedResponses (trace (deliveryStep values) s₀ turns) =
      answers (trace (step values) s₀.deviceContext (writeReports turns)) := by
  rw [← events_deviceOf hreach]
  apply finalState_induction (motive := fun turns _ =>
    acceptedResponses (trace (deliveryStep values) s₀ turns) =
      answers (trace (step values) s₀.deviceContext ((deviceOf values).events s₀ turns)))
    rfl _ hreach
  intro turns s turn s' hbefore ih hafter
  rw [trace_append_singleton turn hbefore, acceptedResponses_append, ih]
  cases hrequest : turn.request with
  | none =>
      have hwork : turn.isWork = true := Option.isNone_iff_eq_none.mpr hrequest
      rw [acceptedResponses_of_isWork hwork, List.append_nil]
      exact congrArg answers ((deviceOf values).trace_stay hbefore hrequest).symm
  | some request =>
      rw [acceptedResponses_of_request hrequest, ← answers_append]
      exact congrArg answers ((deviceOf values).trace_step hbefore hrequest).symm

end Refinement

/-- In every interleaving with a host that waits, the device is that of the write reports
alone, each answered at once, and the input reports are its answers, in order, with at most
the last one outstanding.  None is outstanding at rest. -/
theorem delivery_refines_device (values : ComponentFirmwareUpdate) {turns : List Turn}
    {s : DeliveryState}
    (hreach : finalState (deliveryStep values) startedDelivery turns = some s)
    (hlock : LockStep (trace (deliveryStep values) startedDelivery turns)) :
    finalState (step values) startedDevice (writeReports turns) = some s.deviceContext ∧
      (∃ outstanding, (answers (trace (step values) startedDevice (writeReports turns))).map
          cfuDeviceResponseSend =
        inputReports (trace (deliveryStep values) startedDelivery turns) ++ outstanding ∧
        outstanding.length ≤ 1 ∧ (Settled s.responses → outstanding = [])) := by
  refine ⟨finalState_requests hreach, ?_⟩
  obtain ⟨sent, haccounted, hreports⟩ := deliveryAccounted hreach
  have hwaiting := hlock.waiting hreach
  have houtstanding := hwaiting.outstanding
  have hanswers : acceptedResponses (trace (deliveryStep values) startedDelivery turns) =
      answers (trace (step values) startedDevice (writeReports turns)) :=
    acceptedResponses_eq_answers hreach
  rw [← hanswers]
  refine ⟨(s.responses.worker.held ++ s.responses.queue).map cfuDeviceResponseSend, ?_, ?_, ?_⟩
  · rw [hreports, haccounted.order, List.append_assoc, List.map_append]
  · have horder := congrArg List.length haccounted.order
    rw [hreports, List.length_map] at houtstanding
    simp only [List.length_append, List.length_map] at horder ⊢
    omega
  · intro hsettled
    have hempty := haccounted.length_of_settled hsettled
    rw [hwaiting.lostSignals, List.length_eq_zero_iff] at hempty
    rw [hempty, hsettled.worker]
    rfl

theorem lockStep_spacedReports :
    LockStep (trace (deliveryStep protocolValues) startedDelivery spacedReports) :=
  (lockStep_secondReport.trace_append_work rfl isWork_workReady_workerTurns rfl).2

/-- Both answers of the device are delivered. -/
theorem delivery_refines_device_spacedReports :
    ∃ s, finalState (deliveryStep protocolValues) startedDelivery spacedReports = some s ∧
      finalState (step protocolValues) startedDevice (writeReports spacedReports) =
        some s.deviceContext ∧
      (answers (trace (step protocolValues) startedDevice
        (writeReports spacedReports))).length = 2 ∧
      (answers (trace (step protocolValues) startedDevice (writeReports spacedReports))).map
          cfuDeviceResponseSend =
        inputReports (trace (deliveryStep protocolValues) startedDelivery spacedReports) := by
  obtain ⟨hdevice, outstanding, hanswers, -, hnone⟩ :=
    delivery_refines_device protocolValues rfl lockStep_spacedReports
  refine ⟨_, rfl, hdevice, rfl, ?_⟩
  rw [hanswers, hnone ⟨rfl, rfl, rfl⟩, List.append_nil]

end Simulator
end CFU
