import CFU.Library.SignalledQueue
import CFU.Simulator.Device

/-!
# CFU simulator - the delivery of responses

A write report leaves its response in a queue, completes, and only then signals the
worker thread.  The worker takes one response for each time that it is woken.  The
signal does not count, so a report that signals before the worker has seen the signal of
an earlier one leaves a response behind.

Main results:

- Definition {lit}`deliveryStep`: write reports and the worker thread, interleaved.
- Theorem {lit}`finalState_requests`: the worker does not change what the write reports do.
- Theorem {lit}`responses_delivered_iff`: when a device at rest has sent one input report
  for every write report that it accepted.

Current gaps:

- The queue, the thread and its signal are modules of the driver framework, which are not
  part of the repository; they are taken as a first-in first-out queue that always has a
  buffer, and a signal that the worker resets when it sees it.
-/

namespace CFU
namespace Simulator

open EventRuns SignalledQueue

/-! ## Input reports -/

/-- The {lit}`HID_XFER_PACKET` of an input report. -/
structure InputReport where
  reportId : UInt8
  reportBuffer : List UInt8
deriving DecidableEq, Repr

/-- {lit}`CfuDevice_ResponseSend`: the report that it hands to the virtual HID device.
What becomes of it there is only traced. -/
def cfuDeviceResponseSend (responseBuffer : ResponseBuffer) : InputReport where
  reportId := responseBuffer.response.getD 0 0
  reportBuffer := responseBuffer.response

/-! ## Interleavings -/

/-- The device, with the queue of responses and its worker. -/
structure DeliveryState where
  deviceContext : DeviceContext
  responses : State ResponseBuffer

/-- The steps of {lit}`CfuDevice_WriteReport` and {lit}`CfuDevice_ResponseThreadWork`. -/
inductive Turn where
  /-- A write report, until it is completed. -/
  | writeReport (packet : HidXferPacket)
  /-- {lit}`DMF_Thread_WorkReady`, by a write report that was completed. -/
  | workReady
  /-- The thread sees the signal and calls {lit}`CfuDevice_ResponseThreadWork`. -/
  | responseThreadWork
  /-- {lit}`DMF_BufferQueue_Dequeue` -/
  | dequeue
  /-- {lit}`CfuDevice_ResponseSend`, and the end of the callback. -/
  | responseSend

/-- What can be seen of a step from outside. -/
inductive Observation where
  | accepted (responseBuffer : ResponseBuffer)
  | refused
  | inputReport (report : InputReport)
  | silent
deriving DecidableEq, Repr

/-- A step that only concerns the queue and its worker. -/
def DeliveryState.withResponses (s : DeliveryState) (responses : Option (State ResponseBuffer)) :
    Observation × Option DeliveryState :=
  (.silent, responses.map fun responses => { s with responses := responses })

/-- One step of an interleaving; there is no state after a step that is not possible. -/
def deliveryStep (values : ComponentFirmwareUpdate) (s : DeliveryState) :
    Turn → Observation × Option DeliveryState
  | .writeReport packet =>
      match cfuDeviceWriteReport values s.deviceContext true packet with
      | (.enqueued responseBuffer, deviceContext) =>
          (.accepted responseBuffer,
            some { deviceContext := deviceContext, responses := s.responses.put responseBuffer })
      | (_, deviceContext) => (.refused, some { s with deviceContext := deviceContext })
  | .workReady => s.withResponses s.responses.signal
  | .responseThreadWork => s.withResponses s.responses.wake
  | .dequeue => s.withResponses s.responses.take
  | .responseSend =>
      match s.responses.finish with
      | none => (.silent, none)
      | some (responseBuffer, responses) =>
          (.inputReport (cfuDeviceResponseSend responseBuffer),
            some { s with responses := responses })

/-- The device when it has started, with nothing in the queue. -/
def startedDelivery : DeliveryState where
  deviceContext := startedDevice
  responses := empty

/-- A step of an interleaving, with the states before and after it. -/
abbrev DeliveryTransition :=
  Transition DeliveryState Turn Observation

/-- The responses to the accepted write reports. -/
def acceptedResponses (ts : List DeliveryTransition) : List ResponseBuffer :=
  ts.filterMap fun t =>
    match t.output with
    | .accepted responseBuffer => some responseBuffer
    | _ => none

/-- The input reports that were sent. -/
def inputReports (ts : List DeliveryTransition) : List InputReport :=
  ts.filterMap fun t =>
    match t.output with
    | .inputReport report => some report
    | _ => none

/-- Every accepted write report has its input report, in the same order, and no response
is left behind. -/
structure ResponsesDelivered (ts : List DeliveryTransition) (s : DeliveryState) : Prop where
  queue : s.responses.queue = []
  inputReports : inputReports ts = (acceptedResponses ts).map cfuDeviceResponseSend

/-! ## Lost signals -/

/-- A write report signals the worker while the signal is set. -/
def findsSignal (t : DeliveryTransition) : Bool :=
  match t.event with
  | .workReady => t.before.responses.signalled
  | _ => false

/-- The number of signals that were lost. -/
def lostSignals (ts : List DeliveryTransition) : ℕ :=
  ts.countP findsSignal

theorem lostSignals_eq_zero_iff (ts : List DeliveryTransition) :
    lostSignals ts = 0 ↔ ∀ t ∈ ts, ¬ findsSignal t :=
  List.countP_eq_zero

/-! ## Runs -/

/-- Where the responses and the signals of a run have gone. -/
def DeliveryAccounted (ts : List DeliveryTransition) (s : DeliveryState) : Prop :=
  ∃ sent, Accounted (lostSignals ts) (acceptedResponses ts) sent s.responses ∧
    inputReports ts = sent.map cfuDeviceResponseSend

section Run

variable {values : ComponentFirmwareUpdate} {s s' : DeliveryState} {ts : List DeliveryTransition}
  {t : DeliveryTransition}

@[simp]
theorem acceptedResponses_append (ts us : List DeliveryTransition) :
    acceptedResponses (ts ++ us) = acceptedResponses ts ++ acceptedResponses us :=
  List.filterMap_append

@[simp]
theorem inputReports_append (ts us : List DeliveryTransition) :
    inputReports (ts ++ us) = inputReports ts ++ inputReports us :=
  List.filterMap_append

@[simp]
theorem lostSignals_append_singleton (ts : List DeliveryTransition) (t : DeliveryTransition) :
    lostSignals (ts ++ [t]) = lostSignals ts + (findsSignal t).toNat := by
  rw [lostSignals, List.countP_append, List.countP_singleton, lostSignals]
  cases findsSignal t with
  | false => rfl
  | true => rfl

/-- A step that neither accepts a write report nor sends an input report. -/
theorem DeliveryAccounted.quiet (h : DeliveryAccounted ts s)
    (hquiet : t.output = .silent ∨ t.output = .refused)
    (hstep : ∀ sent, Accounted (lostSignals ts) (acceptedResponses ts) sent s.responses →
      Accounted (lostSignals ts + (findsSignal t).toNat) (acceptedResponses ts) sent s'.responses) :
    DeliveryAccounted (ts ++ [t]) s' := by
  obtain ⟨sent, haccounted, hreports⟩ := h
  have haccepted : acceptedResponses [t] = [] := by
    rcases hquiet with hsilent | hrefused
    · simp [acceptedResponses, hsilent]
    · simp [acceptedResponses, hrefused]
  have hsent : inputReports [t] = [] := by
    rcases hquiet with hsilent | hrefused
    · simp [inputReports, hsilent]
    · simp [inputReports, hrefused]
  refine ⟨sent, ?_, ?_⟩
  · rw [acceptedResponses_append, haccepted, List.append_nil, lostSignals_append_singleton]
    exact hstep sent haccounted
  · rw [inputReports_append, hsent, List.append_nil]
    exact hreports

/-- A write report that is accepted puts its response in the queue. -/
theorem DeliveryAccounted.writeReport (h : DeliveryAccounted ts s) {packet : HidXferPacket}
    (hafter : (deliveryStep values s (.writeReport packet)).2 = some s') :
    DeliveryAccounted (ts ++ [transition (deliveryStep values) s (.writeReport packet)]) s' := by
  rcases hwrite : cfuDeviceWriteReport values s.deviceContext true packet with
    ⟨outcome, deviceContext⟩
  cases outcome with
  | enqueued responseBuffer =>
      obtain ⟨sent, haccounted, hreports⟩ := h
      simp only [deliveryStep, hwrite, Option.some.injEq] at hafter
      subst hafter
      refine ⟨sent, ?_, ?_⟩
      · simpa [acceptedResponses, findsSignal, deliveryStep, hwrite]
          using haccounted.put responseBuffer
      · simpa [inputReports, deliveryStep, hwrite] using hreports
  | invalidDeviceRequest =>
      simp only [deliveryStep, hwrite, Option.some.injEq] at hafter
      subst hafter
      apply h.quiet
      · exact .inr (by simp [deliveryStep, hwrite])
      · intro sent haccounted
        exact haccounted
  | fetchFailed =>
      simp only [deliveryStep, hwrite, Option.some.injEq] at hafter
      subst hafter
      apply h.quiet
      · exact .inr (by simp [deliveryStep, hwrite])
      · intro sent haccounted
        exact haccounted

/-- The worker sends the report of the response that it took. -/
theorem DeliveryAccounted.responseSend (h : DeliveryAccounted ts s)
    (hafter : (deliveryStep values s .responseSend).2 = some s') :
    DeliveryAccounted (ts ++ [transition (deliveryStep values) s .responseSend]) s' := by
  obtain ⟨sent, haccounted, hreports⟩ := h
  cases hfinish : s.responses.finish with
  | none => simp [deliveryStep, hfinish] at hafter
  | some result =>
      obtain ⟨responseBuffer, responses⟩ := result
      simp only [deliveryStep, hfinish, Option.some.injEq] at hafter
      subst hafter
      refine ⟨sent ++ [responseBuffer], ?_, ?_⟩
      · simpa [acceptedResponses, findsSignal, deliveryStep, hfinish]
          using haccounted.finish hfinish
      · rw [inputReports_append, hreports]
        simp [inputReports, deliveryStep, hfinish]

/-- The state after a step that only concerns the queue and its worker. -/
theorem withResponses_eq_some {responses : Option (State ResponseBuffer)}
    (hafter : (s.withResponses responses).2 = some s') : responses = some s'.responses := by
  cases responses with
  | none => cases hafter
  | some responses =>
      cases hafter
      rfl

/-- One step, whatever it is. -/
theorem DeliveryAccounted.step {turn : Turn} (h : DeliveryAccounted ts s)
    (hafter : (deliveryStep values s turn).2 = some s') :
    DeliveryAccounted (ts ++ [transition (deliveryStep values) s turn]) s' := by
  cases turn with
  | writeReport packet => exact h.writeReport hafter
  | workReady =>
      apply h.quiet (.inl rfl)
      intro sent haccounted
      exact haccounted.signal (withResponses_eq_some hafter)
  | responseThreadWork =>
      apply h.quiet (.inl rfl)
      intro sent haccounted
      exact haccounted.wake (withResponses_eq_some hafter)
  | dequeue =>
      apply h.quiet (.inl rfl)
      intro sent haccounted
      exact haccounted.take (withResponses_eq_some hafter)
  | responseSend => exact h.responseSend hafter

/-- Every run accounts for its responses and its signals. -/
theorem deliveryAccounted {turns : List Turn}
    (hfinal : finalState (deliveryStep values) startedDelivery turns = some s) :
    DeliveryAccounted (trace (deliveryStep values) startedDelivery turns) s := by
  apply history_of_step DeliveryAccounted _ _ hfinal
  · exact ⟨[], accounted_empty, rfl⟩
  · intro ts s turn s' h hafter
    exact h.step hafter

/-! ## The device of an interleaving -/

/-- A step that only concerns the queue and its worker keeps the device. -/
theorem withResponses_deviceContext {responses : Option (State ResponseBuffer)}
    (hafter : (s.withResponses responses).2 = some s') : s'.deviceContext = s.deviceContext := by
  cases responses with
  | none => cases hafter
  | some responses =>
      cases hafter
      rfl

/-- A write report does to the device what it does without the worker. -/
theorem writeReport_deviceContext {packet : HidXferPacket}
    (hafter : (deliveryStep values s (.writeReport packet)).2 = some s') :
    (cfuDeviceWriteReport values s.deviceContext true packet).2 = s'.deviceContext := by
  rcases hwrite : cfuDeviceWriteReport values s.deviceContext true packet with
    ⟨outcome, deviceContext⟩
  cases outcome with
  | enqueued responseBuffer =>
      simp only [deliveryStep, hwrite, Option.some.injEq] at hafter
      rw [← hafter]
  | invalidDeviceRequest =>
      simp only [deliveryStep, hwrite, Option.some.injEq] at hafter
      rw [← hafter]
  | fetchFailed =>
      simp only [deliveryStep, hwrite, Option.some.injEq] at hafter
      rw [← hafter]

/-- The request that a step makes of the device. -/
def Turn.request : Turn → Option Request
  | .writeReport packet => some (.writeReport true packet)
  | _ => none

/-- A turn other than a write report keeps the device. -/
theorem deviceContext_of_request_eq_none {turn : Turn} (hnone : turn.request = none)
    (hafter : (deliveryStep values s turn).2 = some s') :
    s'.deviceContext = s.deviceContext := by
  cases turn with
  | writeReport packet => cases hnone
  | workReady => exact withResponses_deviceContext hafter
  | responseThreadWork => exact withResponses_deviceContext hafter
  | dequeue => exact withResponses_deviceContext hafter
  | responseSend =>
      cases hfinish : s.responses.finish with
      | none => simp [deliveryStep, hfinish] at hafter
      | some result =>
          simp only [deliveryStep, hfinish, Option.some.injEq] at hafter
          rw [← hafter]

/-- The device of an interleaving is that of its write reports alone. -/
theorem finalState_requests {turns : List Turn}
    (hreach : finalState (deliveryStep values) startedDelivery turns = some s) :
    finalState (step values) startedDevice (turns.filterMap Turn.request) =
      some s.deviceContext := by
  apply finalState_induction (motive := fun turns s =>
    finalState (step values) startedDevice (turns.filterMap Turn.request) =
      some s.deviceContext) rfl _ hreach
  intro turns s turn s' _ ih hafter
  rw [List.filterMap_append]
  cases hrequest : turn.request with
  | none =>
      rw [deviceContext_of_request_eq_none hrequest hafter, ← ih]
      simp [hrequest]
  | some request =>
      cases turn with
      | writeReport packet =>
          show finalState (step values) startedDevice
            (turns.filterMap Turn.request ++ [.writeReport true packet]) = _
          rw [finalState_append_singleton, ih, Option.bind_some,
            ← writeReport_deviceContext hafter]
          rfl
      | workReady => cases hrequest
      | responseThreadWork => cases hrequest
      | dequeue => cases hrequest
      | responseSend => cases hrequest

/-! ## Devices at rest -/

/-- A device at rest has delivered all responses exactly when no signal was lost. -/
theorem DeliveryAccounted.settled_iff (h : DeliveryAccounted ts s)
    (hsettled : Settled s.responses) : ResponsesDelivered ts s ↔ lostSignals ts = 0 := by
  obtain ⟨sent, haccounted, hreports⟩ := h
  constructor
  · intro hdelivered
    rw [← haccounted.length_of_settled hsettled, hdelivered.queue]
    rfl
  · intro hnone
    obtain ⟨hempty, hsent⟩ := (haccounted.settled_iff hsettled).mpr hnone
    exact ⟨hempty, by rw [hreports, hsent]⟩

/-- In every state that an interleaving reaches in which no write report is under way,
the worker waits and the signal is not set, the queue is empty and every accepted write
report has its input report, in order, exactly when no write report has signalled the
worker while the signal was set. -/
theorem responses_delivered_iff (values : ComponentFirmwareUpdate) {turns : List Turn}
    {s : DeliveryState}
    (hreach : finalState (deliveryStep values) startedDelivery turns = some s)
    (hsettled : Settled s.responses) :
    ResponsesDelivered (trace (deliveryStep values) startedDelivery turns) s ↔
      ∀ t ∈ trace (deliveryStep values) startedDelivery turns, ¬ findsSignal t := by
  rw [(deliveryAccounted hreach).settled_iff hsettled]
  exact lostSignals_eq_zero_iff _

end Run

/-! ## One report and two -/

/-- A content command without data and without flags. -/
def emptyContentReport : HidXferPacket where
  reportId := reportIdPayloadOutput
  reportBufferLen := fwUpdateContentCommandLength
  reportBuffer i := if i = 0 then reportIdPayloadOutput else 0

/-- The worker is woken, takes a response and sends it. -/
def workerTurns : List Turn :=
  [.responseThreadWork, .dequeue, .responseSend]

/-- One write report, and the worker after it. -/
def oneReport : List Turn :=
  [.writeReport emptyContentReport, .workReady] ++ workerTurns

/-- The second write report comes when the worker waits again. -/
def spacedReports : List Turn :=
  oneReport ++ oneReport

/-- Both reports are answered, in order. -/
theorem responses_delivered_iff_spacedReports :
    ∃ s, finalState (deliveryStep protocolValues) startedDelivery spacedReports = some s ∧
      (inputReports (trace (deliveryStep protocolValues) startedDelivery spacedReports)).length
        = 2 ∧
      ResponsesDelivered
        (trace (deliveryStep protocolValues) startedDelivery spacedReports) s :=
  ⟨_, rfl, rfl, (responses_delivered_iff protocolValues rfl ⟨rfl, rfl, rfl⟩).mpr
    ((lostSignals_eq_zero_iff _).mp rfl)⟩

/-- Two write reports, and the worker after both. -/
def twoReports : List Turn :=
  [.writeReport emptyContentReport, .workReady, .writeReport emptyContentReport, .workReady] ++
    workerTurns

/-- The response to the second report stays in the queue. -/
theorem second_response_left_behind :
    ∃ s, finalState (deliveryStep protocolValues) startedDelivery twoReports = some s ∧
      Settled s.responses ∧ s.responses.queue.length = 1 ∧
      ¬ ResponsesDelivered (trace (deliveryStep protocolValues) startedDelivery twoReports) s := by
  refine ⟨_, rfl, ⟨rfl, rfl, rfl⟩, rfl, ?_⟩
  intro hdelivered
  have hlength := congrArg List.length hdelivered.queue
  cases hlength

end Simulator
end CFU
