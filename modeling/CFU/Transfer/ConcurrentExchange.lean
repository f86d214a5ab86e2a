import CFU.Library.Components
import CFU.Simulator.ResponseProgress
import CFU.Tool.ReadThread
import CFU.Transfer.SimulatedDevice

/-!
# CFU transfer - the threads of the tool and the virtual device

The main thread of the tool sends a report and inspects its buffer before it sends the
next one.  Between the two run the write report of the virtual device, its worker thread
and the read thread of the tool, in any order.  Neither the signal of the worker nor the
buffer of the tool is safe by itself, but with a main thread that waits no signal finds
the other one set, and no read completes before the last report was inspected.

Main results:

- Definition {lit}`partyStep`: all the threads, interleaved.
- Theorem {lit}`responses_seen_in_order`: what the main thread sees are the responses of
  the device to its reports, each once and in order, in every interleaving.
- Theorem {lit}`response_comes`: while the main thread waits, some thread can go on, and
  no more than ten turns are left.

Current gaps:

- The HID class driver is taken to keep the input reports in order until a read
  completes with them.
- A session starts with a device at rest and a new read thread.
-/

namespace CFU
namespace Transfer

open Simulator Tool Buffer EventRuns SignalledQueue

/-! ## Interleavings -/

/-- The virtual device, the threads of the tool, and the input reports on the way. -/
structure Parties where
  delivery : DeliveryState
  inputReports : List InputReport
  threads : Threads
  /-- The main thread has sent a report that it has not seen the response to. -/
  awaiting : Bool

/-- The steps of the main thread, the virtual device and the read thread. -/
inductive PartyTurn where
  /-- {lit}`SetOutputReport`, by the main thread. -/
  | setOutputReport (report : List UInt8)
  | workReady
  | responseThreadWork
  | dequeue
  | responseSend
  | readFile
  /-- {lit}`ReadFile` completes with the first input report on the way. -/
  | completeRead
  | setEvent
  | waitForReadEvent
  /-- The main thread inspects {lit}`InputReportBuffer`. -/
  | inspect

/-- The input report of a step of the virtual device, if it sends one. -/
def sentReport : Observation → Option InputReport
  | .inputReport report => some report
  | _ => none

/-- The virtual device has accepted a write report. -/
def accepts : Observation → Bool
  | .accepted _ => true
  | _ => false

/-- The main thread has inspected the buffer. -/
def inspects : Option Happening → Bool
  | some (.inspected _) => true
  | _ => false

/-- A step of the virtual device. -/
def Parties.withDevice (values : ComponentFirmwareUpdate) (s : Parties) (turn : Turn) :
    Option Happening × Option Parties :=
  match deliveryStep values s.delivery turn with
  | (_, none) => (none, none)
  | (observation, some delivery) =>
      (none,
        some { s with
          delivery := delivery
          inputReports := s.inputReports ++ (sentReport observation).toList
          awaiting := s.awaiting || accepts observation })

/-- A step of a thread of the tool; one that is elsewhere has no turn. -/
def Parties.withThreads (s : Parties) (action : ThreadAction) :
    Option Happening × Option Parties :=
  match threadStep s.threads action with
  | (_, none) => (none, none)
  | (happening, some threads) =>
      if threads = s.threads then (none, none)
      else
        (happening,
          some { s with
            threads := threads
            awaiting := s.awaiting && !inspects happening })

/-- One step of an interleaving; there is no state after a step that is not possible. -/
def partyStep (values : ComponentFirmwareUpdate) (s : Parties) :
    PartyTurn → Option Happening × Option Parties
  | .setOutputReport report =>
      if s.awaiting then (none, none)
      else s.withDevice values (.writeReport (reportPacket report))
  | .workReady => s.withDevice values .workReady
  | .responseThreadWork => s.withDevice values .responseThreadWork
  | .dequeue => s.withDevice values .dequeue
  | .responseSend => s.withDevice values .responseSend
  | .readFile => s.withThreads .readFile
  | .completeRead =>
      match s.inputReports with
      | [] => (none, none)
      | report :: inputReports =>
          { s with inputReports := inputReports }.withThreads (.completeRead report.reportBuffer)
  | .setEvent => s.withThreads .setEvent
  | .waitForReadEvent => s.withThreads .waitForReadEvent
  | .inspect => s.withThreads .inspect

/-- A session starts. -/
def Parties.start (deviceContext : DeviceContext) (inputReportBuffer : List UInt8) : Parties where
  delivery := atRest deviceContext
  inputReports := []
  threads := .start inputReportBuffer
  awaiting := false

abbrev PartyTransition := Transition Parties PartyTurn (Option Happening)

/-! ## The parties -/

/-- The step that the virtual device makes. -/
def PartyTurn.turn : PartyTurn → Option Turn
  | .setOutputReport report => some (.writeReport (reportPacket report))
  | .workReady => some .workReady
  | .responseThreadWork => some .responseThreadWork
  | .dequeue => some .dequeue
  | .responseSend => some .responseSend
  | _ => none

/-- The step that a thread of the tool makes. -/
def Parties.action (s : Parties) : PartyTurn → Option ThreadAction
  | .readFile => some .readFile
  | .completeRead => s.inputReports.head?.map fun report => .completeRead report.reportBuffer
  | .setEvent => some .setEvent
  | .waitForReadEvent => some .waitForReadEvent
  | .inspect => some .inspect
  | _ => none

section Steps

variable {values : ComponentFirmwareUpdate} {s s' : Parties} {turn : PartyTurn}

/-- A step of the virtual device. -/
theorem withDevice_eq_some {deviceTurn : Turn}
    (hafter : (s.withDevice values deviceTurn).2 = some s') :
    (deliveryStep values s.delivery deviceTurn).2 = some s'.delivery ∧
      s'.inputReports =
        s.inputReports ++ (sentReport (deliveryStep values s.delivery deviceTurn).1).toList ∧
      s'.threads = s.threads ∧
      s'.awaiting =
        (s.awaiting || accepts (deliveryStep values s.delivery deviceTurn).1) := by
  unfold Parties.withDevice at hafter
  rcases hstep : deliveryStep values s.delivery deviceTurn with ⟨observation, delivery⟩
  rw [hstep] at hafter
  cases delivery with
  | none => cases hafter
  | some delivery =>
      cases hafter
      exact ⟨rfl, rfl, rfl, rfl⟩

/-- A step of the virtual device is nothing that happens to the buffer. -/
theorem withDevice_output (deviceTurn : Turn) : (s.withDevice values deviceTurn).1 = none := by
  unfold Parties.withDevice
  split
  · rfl
  · rfl

/-- A step of a thread of the tool. -/
theorem withThreads_eq_some {action : ThreadAction}
    (hafter : (s.withThreads action).2 = some s') :
    (threadStep s.threads action).2 = some s'.threads ∧ s'.threads ≠ s.threads ∧
      s'.delivery = s.delivery ∧ s'.inputReports = s.inputReports ∧
      s'.awaiting =
        (s.awaiting && !inspects (threadStep s.threads action).1) ∧
      (s.withThreads action).1 = (threadStep s.threads action).1 := by
  unfold Parties.withThreads at hafter ⊢
  rcases hstep : threadStep s.threads action with ⟨happening, threads⟩
  rw [hstep] at hafter
  cases threads with
  | none => cases hafter
  | some threads =>
      by_cases hsame : threads = s.threads
      · simp [hsame] at hafter
      · simp only [if_neg hsame, Option.some.injEq] at hafter ⊢
        subst hafter
        exact ⟨rfl, hsame, rfl, rfl, rfl, trivial⟩

/-- What a step does: one of the virtual device, which the main thread only starts while
it awaits nothing, a read that completes, or another step of the threads of the tool. -/
theorem partyStep_cases (hafter : (partyStep values s turn).2 = some s') :
    (∃ deviceTurn, turn.turn = some deviceTurn ∧ s.action turn = none ∧
      (deviceTurn.isWork = false → s.awaiting = false) ∧
      (s.withDevice values deviceTurn).2 = some s' ∧ (partyStep values s turn).1 = none) ∨
    (∃ report inputReports, turn.turn = none ∧ s.inputReports = report :: inputReports ∧
      s.action turn = some (.completeRead report.reportBuffer) ∧
      partyStep values s turn =
        { s with inputReports := inputReports }.withThreads
          (.completeRead report.reportBuffer)) ∨
    (∃ action, turn.turn = none ∧ s.action turn = some action ∧
      (∀ inputReport, action ≠ .completeRead inputReport) ∧
      partyStep values s turn = s.withThreads action) := by
  cases turn with
  | setOutputReport report =>
      cases hawaiting : s.awaiting with
      | true => simp [partyStep, hawaiting] at hafter
      | false =>
          have hstep : partyStep values s (.setOutputReport report) =
              s.withDevice values (.writeReport (reportPacket report)) := by
            simp [partyStep, hawaiting]
          rw [hstep] at hafter ⊢
          exact .inl ⟨_, rfl, rfl, fun _ => rfl, hafter, withDevice_output _⟩
  | workReady => exact .inl ⟨_, rfl, rfl, nofun, hafter, withDevice_output _⟩
  | responseThreadWork => exact .inl ⟨_, rfl, rfl, nofun, hafter, withDevice_output _⟩
  | dequeue => exact .inl ⟨_, rfl, rfl, nofun, hafter, withDevice_output _⟩
  | responseSend => exact .inl ⟨_, rfl, rfl, nofun, hafter, withDevice_output _⟩
  | readFile => exact .inr (.inr ⟨_, rfl, rfl, nofun, rfl⟩)
  | completeRead =>
      cases hreports : s.inputReports with
      | nil => simp [partyStep, hreports] at hafter
      | cons report inputReports =>
          refine .inr (.inl ⟨report, inputReports, rfl, rfl, ?_, ?_⟩)
          · simp [Parties.action, hreports]
          · simp [partyStep, hreports]
  | setEvent => exact .inr (.inr ⟨_, rfl, rfl, nofun, rfl⟩)
  | waitForReadEvent => exact .inr (.inr ⟨_, rfl, rfl, nofun, rfl⟩)
  | inspect => exact .inr (.inr ⟨_, rfl, rfl, nofun, rfl⟩)

end Steps

/-- The virtual device makes a run of its own. -/
def virtualDevice (values : ComponentFirmwareUpdate) :
    Component (partyStep values) (deliveryStep values) where
  state := Parties.delivery
  event t := t.event.turn
  moves s turn s' deviceTurn hafter hturn := by
    rcases partyStep_cases hafter with ⟨deviceTurn', hturn', -, -, hdevice, -⟩ |
      ⟨report, inputReports, hnone, -⟩ | ⟨action, hnone, -⟩
    · cases hturn.symm.trans hturn'
      exact (withDevice_eq_some hdevice).1
    · cases hturn.symm.trans hnone
    · cases hturn.symm.trans hnone
  stays s turn s' hafter hturn := by
    rcases partyStep_cases hafter with ⟨deviceTurn', hturn', -⟩ |
      ⟨report, inputReports, -, -, -, hstep⟩ | ⟨action, -, -, -, hstep⟩
    · cases hturn.symm.trans hturn'
    · rw [hstep] at hafter
      exact (withThreads_eq_some hafter).2.2.1
    · rw [hstep] at hafter
      exact (withThreads_eq_some hafter).2.2.1

/-- The two threads of the tool make a run of their own. -/
def toolThreads (values : ComponentFirmwareUpdate) :
    Component (partyStep values) threadStep where
  state := Parties.threads
  event t := t.before.action t.event
  moves s turn s' action hafter haction := by
    rcases partyStep_cases hafter with ⟨deviceTurn', -, hnone, -⟩ |
      ⟨report, inputReports, -, -, haction', hstep⟩ | ⟨action', -, haction', -, hstep⟩
    · cases haction.symm.trans hnone
    · cases haction.symm.trans haction'
      rw [hstep] at hafter
      exact (withThreads_eq_some hafter).1
    · cases haction.symm.trans haction'
      rw [hstep] at hafter
      exact (withThreads_eq_some hafter).1
  stays s turn s' hafter haction := by
    rcases partyStep_cases hafter with ⟨deviceTurn', -, -, -, hdevice, -⟩ |
      ⟨report, inputReports, -, -, haction', -⟩ | ⟨action', -, haction', -⟩
    · exact (withDevice_eq_some hdevice).2.2.1
    · cases haction.symm.trans haction'
    · cases haction.symm.trans haction'

/-- The run of the virtual device in a run of all parties. -/
def deviceRun (values : ComponentFirmwareUpdate) (s : Parties) (turns : List PartyTurn) :
    List DeliveryTransition :=
  trace (deliveryStep values) s.delivery ((virtualDevice values).events s turns)

/-- The run of the threads of the tool in a run of all parties. -/
def threadRun (values : ComponentFirmwareUpdate) (s : Parties) (turns : List PartyTurn) :
    List ThreadTransition :=
  trace threadStep s.threads ((toolThreads values).events s turns)

/-! ## Orderly runs -/

/-- A buffer holds an input report. -/
def Holds (inputReportBuffer : List UInt8) (report : InputReport) : Prop :=
  report.reportBuffer <+: inputReportBuffer

/-- What a run of all parties leaves behind: the device lost no signal, the read thread no
report, and the main thread awaits exactly the response that it has not inspected. -/
structure Orderly (values : ComponentFirmwareUpdate) (s₀ : Parties) (turns : List PartyTurn)
    (s : Parties) : Prop where
  accounted : DeliveryAccounted (deviceRun values s₀ turns) s.delivery
  waiting : Waiting (deviceRun values s₀ turns)
  inStep : InStep (threadRun values s₀ turns) s.threads
  quiet : ∀ t ∈ threadRun values s₀ turns, QuietRead t
  reads : ∃ read, inputReports (deviceRun values s₀ turns) = read ++ s.inputReports ∧
    List.Forall₂ Holds (completedReads (happenings (threadRun values s₀ turns))) read
  awaiting : (acceptedResponses (deviceRun values s₀ turns)).length =
    (inspectedReads (happenings (threadRun values s₀ turns))).length + s.awaiting.toNat

section Run

variable {values : ComponentFirmwareUpdate} {s₀ s s' : Parties} {turns : List PartyTurn}
  {turn : PartyTurn}

/-- The report that the main thread has not inspected. -/
abbrev leftToInspect (values : ComponentFirmwareUpdate) (s₀ : Parties)
    (turns : List PartyTurn) : Option (List UInt8) :=
  uninspected none (happenings (threadRun values s₀ turns))

/-- A response that is awaited is in the device, on its way, or in the buffer. -/
theorem Orderly.outstanding_eq (h : Orderly values s₀ turns s) :
    s.delivery.responses.due + s.inputReports.length +
        (leftToInspect values s₀ turns).toList.length =
      s.awaiting.toNat := by
  obtain ⟨sent, hsent, hlength⟩ := h.accounted.exists_length
  rw [h.waiting.lostSignals] at hsent
  have hdevice := hsent.due_eq
  obtain ⟨read, hread, hholds⟩ := h.reads
  have hway := congrArg List.length hread
  have hcount := hholds.length_eq
  have hinspected := congrArg List.length (h.inStep.1.mpr h.quiet).completed_eq
  have hawaiting := h.awaiting
  simp only [List.length_append] at hway hinspected
  unfold leftToInspect
  omega

theorem toNat_le_one (b : Bool) : b.toNat ≤ 1 := by
  cases b with
  | false => exact Nat.zero_le 1
  | true => exact Nat.le_refl 1

/-! ### Steps of the virtual device -/

theorem inputReports_singleton (t : DeliveryTransition) :
    inputReports [t] = (sentReport t.output).toList := by
  cases hout : t.output with
  | accepted responseBuffer => simp [inputReports, sentReport, hout]
  | refused => simp [inputReports, sentReport, hout]
  | inputReport report => simp [inputReports, sentReport, hout]
  | silent => simp [inputReports, sentReport, hout]

theorem length_acceptedResponses_eq (t : DeliveryTransition) :
    (acceptedResponses [t]).length = (accepts t.output).toNat := by
  cases hout : t.output with
  | accepted responseBuffer => simp [acceptedResponses, accepts, hout]
  | refused => simp [acceptedResponses, accepts, hout]
  | inputReport report => simp [acceptedResponses, accepts, hout]
  | silent => simp [acceptedResponses, accepts, hout]

/-- A step of the virtual device. -/
theorem Orderly.device (h : Orderly values s₀ turns s)
    (hreach : finalState (partyStep values) s₀ turns = some s) {deviceTurn : Turn}
    (hturn : turn.turn = some deviceTurn) (haction : s.action turn = none)
    (hidle : deviceTurn.isWork = false → s.awaiting = false)
    (hafter : (s.withDevice values deviceTurn).2 = some s') :
    Orderly values s₀ (turns ++ [turn]) s' := by
  obtain ⟨hdelivery, hreports, hthreads, hawaiting⟩ := withDevice_eq_some hafter
  have hrun : deviceRun values s₀ (turns ++ [turn]) = deviceRun values s₀ turns ++
      [transition (deliveryStep values) s.delivery deviceTurn] :=
    (virtualDevice values).trace_step hreach hturn
  have hsame : threadRun values s₀ (turns ++ [turn]) = threadRun values s₀ turns :=
    (toolThreads values).trace_stay hreach haction
  have hcount := length_acceptedResponses_eq
    (transition (deliveryStep values) s.delivery deviceTurn)
  have htoken := h.outstanding_eq
  refine ⟨?_, ?_, ?_, ?_, ?_, ?_⟩
  · rw [hrun]
    exact h.accounted.step hdelivery
  · rw [hrun]
    apply h.waiting.step h.accounted _ hdelivery
    intro hwrite
    obtain ⟨sent, hsent, hlength⟩ := h.accounted.exists_length
    rw [h.waiting.lostSignals] at hsent
    have hdue := hsent.due_eq
    rw [hidle hwrite] at htoken
    simp only [Bool.toNat_false] at htoken
    omega
  · rw [hsame, hthreads]
    exact h.inStep
  · rw [hsame]
    exact h.quiet
  · obtain ⟨read, hread, hholds⟩ := h.reads
    refine ⟨read, ?_, ?_⟩
    · rw [hrun, inputReports_append, hread, inputReports_singleton, hreports, List.append_assoc]
      rfl
    · rw [hsame]
      exact hholds
  · rw [hrun, hsame, acceptedResponses_append, List.length_append, h.awaiting, hawaiting, hcount,
      transition_output]
    cases hwork : deviceTurn.isWork with
    | true =>
        rw [acceptedResponses_of_isWork hwork] at hcount
        have hnone : accepts (deliveryStep values s.delivery deviceTurn).1 = false :=
          Bool.toNat_eq_zero.mp hcount.symm
        rw [hnone, Bool.or_false, Bool.toNat_false, Nat.add_zero]
    | false =>
        rw [hidle hwork, Bool.false_or, Bool.toNat_false, Nat.add_zero]

/-! ### Steps of the threads of the tool -/

/-- A read that completes was pending. -/
theorem threadStep_completeRead {threads threads' : Threads} {inputReport : List UInt8}
    (hafter : (threadStep threads (.completeRead inputReport)).2 = some threads')
    (hmoves : threads' ≠ threads) :
    threads.readThread = .pending ∧
      (threadStep threads (.completeRead inputReport)).1 =
        some (.completed (overwrite threads.inputReportBuffer inputReport)) := by
  cases hread : threads.readThread with
  | pending => exact ⟨rfl, by simp [threadStep, hread]⟩
  | readFile =>
      simp only [threadStep, hread, Option.some.injEq] at hafter
      exact absurd hafter.symm hmoves
  | setEvent =>
      simp only [threadStep, hread, Option.some.injEq] at hafter
      exact absurd hafter.symm hmoves

/-- Another step does nothing to the buffer, unless the main thread inspects it. -/
theorem threadStep_cases {threads threads' : Threads} {action : ThreadAction}
    (hother : ∀ inputReport, action ≠ .completeRead inputReport)
    (hafter : (threadStep threads action).2 = some threads') (hmoves : threads' ≠ threads) :
    (threadStep threads action).1 = none ∨
      threads.mainThread = .awake ∧
        (threadStep threads action).1 = some (.inspected threads.inputReportBuffer) := by
  cases action with
  | completeRead inputReport => exact absurd rfl (hother inputReport)
  | readFile =>
      apply Or.inl
      cases hread : threads.readThread with
      | readFile => simp [threadStep, hread]
      | pending => simp [threadStep, hread]
      | setEvent => simp [threadStep, hread]
  | setEvent =>
      apply Or.inl
      cases hread : threads.readThread with
      | readFile => simp [threadStep, hread]
      | pending => simp [threadStep, hread]
      | setEvent => simp [threadStep, hread]
  | waitForReadEvent =>
      apply Or.inl
      cases hmain : threads.mainThread with
      | awake => simp [threadStep, hmain]
      | waiting =>
          cases hevent : threads.readEvent with
          | false => simp [threadStep, hmain, hevent]
          | true => simp [threadStep, hmain, hevent]
  | inspect =>
      cases hmain : threads.mainThread with
      | awake => exact .inr ⟨rfl, by simp [threadStep, hmain]⟩
      | waiting =>
          simp only [threadStep, hmain, Option.some.injEq] at hafter
          exact absurd hafter.symm hmoves

/-- A step of the threads of the tool leaves the virtual device alone. -/
theorem Orderly.runs_of_action (hreach : finalState (partyStep values) s₀ turns = some s)
    {action : ThreadAction} (hturn : turn.turn = none) (haction : s.action turn = some action) :
    deviceRun values s₀ (turns ++ [turn]) = deviceRun values s₀ turns ∧
      threadRun values s₀ (turns ++ [turn]) =
        threadRun values s₀ turns ++ [transition threadStep s.threads action] :=
  ⟨(virtualDevice values).trace_stay hreach hturn,
    (toolThreads values).trace_step hreach haction⟩

theorem happenings_append_singleton (ts : List ThreadTransition) (t : ThreadTransition) :
    happenings (ts ++ [t]) = happenings ts ++ t.output.toList := by
  rw [happenings, List.filterMap_append, happenings]
  cases hout : t.output with
  | none => simp [hout]
  | some happening => simp [hout]

theorem completedReads_append (hs hs' : List Happening) :
    completedReads (hs ++ hs') = completedReads hs ++ completedReads hs' :=
  List.filterMap_append

theorem inspectedReads_append (hs hs' : List Happening) :
    inspectedReads (hs ++ hs') = inspectedReads hs ++ inspectedReads hs' :=
  List.filterMap_append

/-- A read completes with the first input report on its way. -/
theorem Orderly.completeRead (h : Orderly values s₀ turns s)
    (hreach : finalState (partyStep values) s₀ turns = some s) {report : InputReport}
    {rest : List InputReport} (hturn : turn.turn = none) (hway : s.inputReports = report :: rest)
    (haction : s.action turn = some (.completeRead report.reportBuffer))
    (hafter : ({ s with inputReports := rest }.withThreads
      (.completeRead report.reportBuffer)).2 = some s') :
    Orderly values s₀ (turns ++ [turn]) s' := by
  obtain ⟨hthreads, hmoves, hdelivery, hreports, hawaiting, -⟩ := withThreads_eq_some hafter
  obtain ⟨hpending, hout⟩ := threadStep_completeRead hthreads hmoves
  obtain ⟨hdevice, hrun⟩ := Orderly.runs_of_action hreach hturn haction
  have htoken := h.outstanding_eq
  have hone := toNat_le_one s.awaiting
  rw [hway, List.length_cons] at htoken
  have hnone : leftToInspect values s₀ turns = none := by
    rw [← Option.toList_eq_nil_iff, ← List.length_eq_zero_iff]
    omega
  have hturns := h.inStep.2 h.quiet
  have hclear := (hturns.eq_none_iff hpending).mp hnone
  have hhappened : happenings (threadRun values s₀ (turns ++ [turn])) =
      happenings (threadRun values s₀ turns) ++
        [.completed (overwrite s.threads.inputReportBuffer report.reportBuffer)] := by
    rw [hrun, happenings_append_singleton, transition_output]
    exact congrArg _ (congrArg Option.toList hout)
  refine ⟨?_, ?_, ?_, ?_, ?_, ?_⟩
  · rw [hdevice, hdelivery]
    exact h.accounted
  · rw [hdevice]
    exact h.waiting
  · rw [hrun]
    exact h.inStep.step hthreads
  · rw [hrun, List.forall_mem_append]
    refine ⟨h.quiet, ?_⟩
    simp only [List.mem_singleton, forall_eq]
    exact fun _ _ => hclear
  · obtain ⟨read, hread, hholds⟩ := h.reads
    refine ⟨read ++ [report], ?_, ?_⟩
    · rw [hdevice, hread, hway, hreports, List.append_assoc]
      rfl
    · rw [hhappened, completedReads_append]
      apply List.rel_append hholds
      exact .cons (List.prefix_append _ _) .nil
  · rw [hdevice, hhappened, h.awaiting, hawaiting, hout, inspectedReads_append]
    simp [inspectedReads, inspects]

/-- Another step of the threads of the tool. -/
theorem Orderly.action (h : Orderly values s₀ turns s)
    (hreach : finalState (partyStep values) s₀ turns = some s) {action : ThreadAction}
    (hturn : turn.turn = none) (haction : s.action turn = some action)
    (hother : ∀ inputReport, action ≠ .completeRead inputReport)
    (hafter : (s.withThreads action).2 = some s') : Orderly values s₀ (turns ++ [turn]) s' := by
  obtain ⟨hthreads, hmoves, hdelivery, hreports, hawaiting, -⟩ := withThreads_eq_some hafter
  obtain ⟨hdevice, hrun⟩ := Orderly.runs_of_action hreach hturn haction
  have hhappened : happenings (threadRun values s₀ (turns ++ [turn])) =
      happenings (threadRun values s₀ turns) ++ (threadStep s.threads action).1.toList := by
    rw [hrun, happenings_append_singleton, transition_output]
  have hcases := threadStep_cases hother hthreads hmoves
  refine ⟨?_, ?_, ?_, ?_, ?_, ?_⟩
  · rw [hdevice, hdelivery]
    exact h.accounted
  · rw [hdevice]
    exact h.waiting
  · rw [hrun]
    exact h.inStep.step hthreads
  · rw [hrun, List.forall_mem_append]
    refine ⟨h.quiet, ?_⟩
    simp only [List.mem_singleton, forall_eq]
    intro buffer hcompleted
    rw [transition_output] at hcompleted
    rcases hcases with hnone | ⟨-, hinspected⟩
    · cases hcompleted.symm.trans hnone
    · cases hcompleted.symm.trans hinspected
  · obtain ⟨read, hread, hholds⟩ := h.reads
    refine ⟨read, ?_, ?_⟩
    · rw [hdevice, hread, hreports]
    · rcases hcases with hnone | ⟨-, hinspected⟩
      · rw [hhappened, hnone, Option.toList_none, List.append_nil]
        exact hholds
      · rw [hhappened, hinspected, completedReads_append]
        simpa [completedReads] using hholds
  · rw [hdevice, hhappened, h.awaiting, hawaiting]
    rcases hcases with hnone | ⟨hawake, hinspected⟩
    · rw [hnone, Option.toList_none, List.append_nil]
      simp [inspects]
    · have htoken := h.outstanding_eq
      have hone := toNat_le_one s.awaiting
      have hreport := ((h.inStep.2 h.quiet).of_awake hawake).1
      rw [show leftToInspect values s₀ turns = some s.threads.inputReportBuffer from hreport,
        Option.toList_some, List.length_singleton] at htoken
      have hinspections : inspectedReads (some
          (Happening.inspected s.threads.inputReportBuffer)).toList =
            [s.threads.inputReportBuffer] :=
        rfl
      rw [hinspected, inspectedReads_append, hinspections, List.length_append,
        List.length_singleton, inspects, Bool.not_true, Bool.and_false, Bool.toNat_false]
      omega

/-- Every step of every party keeps the run orderly. -/
theorem Orderly.step (h : Orderly values s₀ turns s)
    (hreach : finalState (partyStep values) s₀ turns = some s)
    (hafter : (partyStep values s turn).2 = some s') :
    Orderly values s₀ (turns ++ [turn]) s' := by
  rcases partyStep_cases hafter with ⟨deviceTurn, hturn, haction, hidle, hdevice, -⟩ |
    ⟨report, inputReports, hturn, hway, haction, hstep⟩ | ⟨action, hturn, haction, hother, hstep⟩
  · exact h.device hreach hturn haction hidle hdevice
  · rw [hstep] at hafter
    exact h.completeRead hreach hturn hway haction hafter
  · rw [hstep] at hafter
    exact h.action hreach hturn haction hother hafter

/-- A session starts in order. -/
theorem orderly_start (values : ComponentFirmwareUpdate) (deviceContext : DeviceContext)
    (inputReportBuffer : List UInt8) :
    Orderly values (.start deviceContext inputReportBuffer) []
      (.start deviceContext inputReportBuffer) where
  accounted := ⟨[], accounted_empty, rfl⟩
  waiting := ⟨rfl, Nat.zero_le _⟩
  inStep := inStep_start inputReportBuffer
  quiet _ ht := absurd ht List.not_mem_nil
  reads := ⟨[], rfl, .nil⟩
  awaiting := rfl

/-- Every interleaving is orderly. -/
theorem orderly_of_run {deviceContext : DeviceContext} {inputReportBuffer : List UInt8}
    (hreach : finalState (partyStep values) (.start deviceContext inputReportBuffer) turns =
      some s) :
    Orderly values (.start deviceContext inputReportBuffer) turns s := by
  apply finalState_induction (motive := fun turns s =>
    Orderly values (.start deviceContext inputReportBuffer) turns s)
    (orderly_start values deviceContext inputReportBuffer) _ hreach
  intro turns s turn s' hbefore ih hafter
  exact ih.step hbefore hafter

end Run

/-! ## What the main thread sees -/

/-- The write reports of a run. -/
def sentReports (turns : List PartyTurn) : List Request :=
  writeReports (turns.filterMap PartyTurn.turn)

/-- The buffer of the main thread begins with a response of the device. -/
def Shows (inputReportBuffer : List UInt8) (responseBuffer : ResponseBuffer) : Prop :=
  responseBuffer.response <+: inputReportBuffer

/-- What the main thread inspected. -/
def inspections (ts : List PartyTransition) : List (List UInt8) :=
  inspectedReads (ts.filterMap Transition.output)

section Responses

variable {values : ComponentFirmwareUpdate} {s₀ s : Parties} {turns : List PartyTurn}

/-- What happens to the buffer happens in the run of the threads of the tool. -/
theorem happenings_threadRun (hreach : finalState (partyStep values) s₀ turns = some s) :
    happenings (threadRun values s₀ turns) =
      (trace (partyStep values) s₀ turns).filterMap Transition.output := by
  apply finalState_induction (motive := fun turns _ =>
    happenings (threadRun values s₀ turns) =
      (trace (partyStep values) s₀ turns).filterMap Transition.output) rfl _ hreach
  intro turns s turn s' hbefore ih hafter
  have hlast : ∀ t : PartyTransition, [t].filterMap Transition.output = t.output.toList := by
    intro t
    cases hout : t.output with
    | none => simp [hout]
    | some happening => simp [hout]
  rw [trace_append_singleton turn hbefore, List.filterMap_append, ← ih, hlast, transition_output]
  rcases partyStep_cases hafter with ⟨deviceTurn, -, haction, -, -, hnone⟩ |
    ⟨report, inputReports, -, -, haction, hstep⟩ | ⟨action, -, haction, -, hstep⟩
  · rw [hnone, Option.toList_none, List.append_nil]
    exact congrArg happenings ((toolThreads values).trace_stay hbefore haction)
  · rw [hstep] at hafter ⊢
    have hout := (withThreads_eq_some hafter).2.2.2.2.2
    have hrun : threadRun values s₀ (turns ++ [turn]) = threadRun values s₀ turns ++
        [transition threadStep s.threads (.completeRead report.reportBuffer)] :=
      (toolThreads values).trace_step hbefore haction
    rw [hrun, happenings_append_singleton, transition_output, hout]
  · rw [hstep] at hafter ⊢
    have hout := (withThreads_eq_some hafter).2.2.2.2.2
    have hrun : threadRun values s₀ (turns ++ [turn]) = threadRun values s₀ turns ++
        [transition threadStep s.threads action] :=
      (toolThreads values).trace_step hbefore haction
    rw [hrun, happenings_append_singleton, transition_output, hout]

/-- The write reports of the virtual device are those that the main thread sent. -/
theorem writeReports_events (hreach : finalState (partyStep values) s₀ turns = some s) :
    writeReports ((virtualDevice values).events s₀ turns) = sentReports turns :=
  congrArg writeReports ((virtualDevice values).events_eq_filterMap (fun _ => rfl) hreach)

/-- The device is that of the write reports that the main thread sent. -/
theorem deviceContext_of_run (hreach : finalState (partyStep values) s₀ turns = some s) :
    finalState (step values) s₀.delivery.deviceContext (sentReports turns) =
      some s.delivery.deviceContext := by
  have hdelivery := (virtualDevice values).finalState hreach
  rw [← writeReports_events hreach, ← events_deviceOf hdelivery]
  exact (deviceOf values).finalState hdelivery

/-- The accepted responses are its answers to them. -/
theorem acceptedResponses_of_run (hreach : finalState (partyStep values) s₀ turns = some s) :
    acceptedResponses (deviceRun values s₀ turns) =
      answers (trace (step values) s₀.delivery.deviceContext (sentReports turns)) := by
  rw [← writeReports_events hreach]
  exact acceptedResponses_eq_answers ((virtualDevice values).finalState hreach)

/-- The buffers that were inspected show the first responses that were accepted. -/
theorem Orderly.shows (h : Orderly values s₀ turns s) :
    List.Forall₂ Shows (inspectedReads (happenings (threadRun values s₀ turns)))
      ((acceptedResponses (deviceRun values s₀ turns)).take
        (inspectedReads (happenings (threadRun values s₀ turns))).length) := by
  obtain ⟨read, hread, hholds⟩ := h.reads
  obtain ⟨sent, haccounted, hsent⟩ := h.accounted
  have hcompleted := (h.inStep.1.mpr h.quiet).completed_eq
  have hcount := hholds.length_eq
  have hway := congrArg List.length hread
  rw [hcompleted, List.length_append] at hcount
  rw [hsent, List.length_map, List.length_append] at hway
  have htake := List.forall₂_take
    (inspectedReads (happenings (threadRun values s₀ turns))).length hholds
  have hfirst : read.take (inspectedReads (happenings (threadRun values s₀ turns))).length =
      ((acceptedResponses (deviceRun values s₀ turns)).take
        (inspectedReads (happenings (threadRun values s₀ turns))).length).map
          cfuDeviceResponseSend := by
    rw [haccounted.order, List.append_assoc, List.take_append_of_le_length (by omega),
      List.map_take, ← hsent, hread, List.take_append_of_le_length (by omega)]
  rw [hcompleted, List.take_left, hfirst, List.forall₂_map_right_iff] at htake
  exact htake

end Responses

/-- In every interleaving of the main thread, the device with its worker and the read
thread, the device is that of the reports that the main thread sent, each answered at once,
and the buffers that the main thread inspects begin with these answers, each once and in
order, up to the one that it awaits.  No signal is lost, every read completes with the
event clear and the main thread waiting, and at most one input report is on its way. -/
theorem responses_seen_in_order (values : ComponentFirmwareUpdate)
    (deviceContext : DeviceContext) (inputReportBuffer : List UInt8) {turns : List PartyTurn}
    {s : Parties}
    (hreach : finalState (partyStep values) (.start deviceContext inputReportBuffer) turns =
      some s) :
    finalState (step values) deviceContext (sentReports turns) =
        some s.delivery.deviceContext ∧
      (∃ seen awaited,
        answers (trace (step values) deviceContext (sentReports turns)) = seen ++ awaited ∧
        List.Forall₂ Shows (inspections (trace (partyStep values)
          (.start deviceContext inputReportBuffer) turns)) seen ∧
        awaited.length = s.awaiting.toNat) ∧
      (∀ t ∈ deviceRun values (.start deviceContext inputReportBuffer) turns,
        ¬ findsSignal t) ∧
      (∀ t ∈ threadRun values (.start deviceContext inputReportBuffer) turns, QuietRead t) ∧
      s.inputReports.length ≤ 1 := by
  have horderly := orderly_of_run hreach
  have hanswers : acceptedResponses
      (deviceRun values (.start deviceContext inputReportBuffer) turns) =
        answers (trace (step values) deviceContext (sentReports turns)) :=
    acceptedResponses_of_run hreach
  refine ⟨deviceContext_of_run hreach, ?_, ?_, horderly.quiet, ?_⟩
  · have hlength := horderly.awaiting
    refine ⟨_, _, (List.take_append_drop (inspections (trace (partyStep values)
      (.start deviceContext inputReportBuffer) turns)).length _).symm, ?_, ?_⟩
    · have hshows := horderly.shows
      rw [happenings_threadRun hreach] at hshows
      exact hanswers ▸ hshows
    · rw [happenings_threadRun hreach] at hlength
      have haccepted := congrArg List.length hanswers
      rw [List.length_drop, inspections]
      omega
  · exact (lostSignals_eq_zero_iff _).mp horderly.waiting.lostSignals
  · have htoken := horderly.outstanding_eq
    have hone := toNat_le_one s.awaiting
    omega

/-! ## A session with one report -/

/-- The tool sends a content report of zeroes. -/
def sampleReport : List UInt8 :=
  reportIdPayloadOutput :: List.replicate 60 0

/-- A read is pending, and the response of the device comes to the main thread. -/
def sampleTurns : List PartyTurn :=
  [.readFile, .setOutputReport sampleReport, .workReady, .responseThreadWork, .dequeue,
    .responseSend, .completeRead, .setEvent, .waitForReadEvent, .inspect]

/-- The tool sends the report again when it has seen the response. -/
def twoExchanges : List PartyTurn :=
  sampleTurns ++ sampleTurns

/-- The main thread inspects both responses. -/
theorem responses_seen_in_order_twoExchanges :
    ∃ s, finalState (partyStep protocolValues) (.start startedDevice []) twoExchanges = some s ∧
      finalState (step protocolValues) startedDevice (sentReports twoExchanges) =
        some s.delivery.deviceContext ∧
      (answers (trace (step protocolValues) startedDevice
        (sentReports twoExchanges))).length = 2 ∧
      List.Forall₂ Shows (inspections (trace (partyStep protocolValues)
          (.start startedDevice []) twoExchanges))
        (answers (trace (step protocolValues) startedDevice (sentReports twoExchanges))) ∧
      (∀ t ∈ deviceRun protocolValues (.start startedDevice []) twoExchanges,
        ¬ findsSignal t) ∧
      (∀ t ∈ threadRun protocolValues (.start startedDevice []) twoExchanges, QuietRead t) ∧
      s.inputReports.length ≤ 1 := by
  obtain ⟨hdevice, ⟨seen, awaited, hanswers, hshows, hawaited⟩, hquiet, hreads, hone⟩ :=
    @responses_seen_in_order protocolValues startedDevice [] twoExchanges _ rfl
  have hnone : awaited = [] := List.length_eq_zero_iff.mp hawaited
  rw [hnone, List.append_nil] at hanswers
  exact ⟨_, rfl, hdevice, rfl, hanswers ▸ hshows, hquiet, hreads, hone⟩

/-! ## Progress -/

/-- The main thread sends a report. -/
def PartyTurn.sends : PartyTurn → Bool
  | .setOutputReport _ => true
  | _ => false

/-- The steps that the threads of the tool can make without another input report. -/
def threadWork (threads : Threads) : ℕ :=
  (match threads.readThread with
    | .readFile => 1
    | .pending => 0
    | .setEvent => 4) +
  2 * threads.readEvent.toNat +
  (match threads.mainThread with
    | .waiting => 0
    | .awake => 1)

/-- A bound on the steps that are left if the main thread sends nothing more. -/
def Parties.work (s : Parties) : ℕ :=
  s.delivery.responses.work + 5 * (s.delivery.responses.due + s.inputReports.length) +
    threadWork s.threads

section Progress

variable {values : ComponentFirmwareUpdate} {s₀ s s' : Parties} {turn : PartyTurn}
  {turns rest : List PartyTurn}

/-- The worker of the device hands over what is due, and nothing else. -/
theorem due_of_isWork {delivery delivery' : DeliveryState} {deviceTurn : Turn}
    (hwork : deviceTurn.isWork = true)
    (hafter : (deliveryStep values delivery deviceTurn).2 = some delivery') :
    delivery'.responses.due +
        (sentReport (deliveryStep values delivery deviceTurn).1).toList.length ≤
      delivery.responses.due := by
  cases deviceTurn with
  | writeReport packet => cases hwork
  | workReady => exact due_signal (withResponses_eq_some hafter)
  | responseThreadWork => exact due_wake (withResponses_eq_some hafter)
  | dequeue => exact due_take (withResponses_eq_some hafter)
  | responseSend =>
      cases hfinish : delivery.responses.finish with
      | none => simp [deliveryStep, hfinish] at hafter
      | some result =>
          simp only [deliveryStep, hfinish, Option.some.injEq] at hafter ⊢
          subst hafter
          exact Nat.le_of_eq (due_finish hfinish)

/-- A read that completes leaves four steps to the threads of the tool. -/
theorem threadWork_completeRead {threads threads' : Threads} {inputReport : List UInt8}
    (hafter : (threadStep threads (.completeRead inputReport)).2 = some threads')
    (hmoves : threads' ≠ threads) : threadWork threads' = threadWork threads + 4 := by
  have hpending := (threadStep_completeRead hafter hmoves).1
  simp only [threadStep, hpending, Option.some.injEq] at hafter
  subst hafter
  simp only [threadWork, hpending]
  omega

/-- Each other step leaves less. -/
theorem threadWork_lt {threads threads' : Threads} {action : ThreadAction}
    (hother : ∀ inputReport, action ≠ .completeRead inputReport)
    (hafter : (threadStep threads action).2 = some threads') (hmoves : threads' ≠ threads) :
    threadWork threads' < threadWork threads := by
  obtain ⟨inputReportBuffer, readEvent, readThread, mainThread⟩ := threads
  cases action with
  | completeRead inputReport => exact absurd rfl (hother inputReport)
  | readFile =>
      cases readThread with
      | readFile =>
          cases hafter
          simp [threadWork]
      | pending => exact absurd (Option.some.inj hafter).symm hmoves
      | setEvent => exact absurd (Option.some.inj hafter).symm hmoves
  | setEvent =>
      cases readThread with
      | readFile => exact absurd (Option.some.inj hafter).symm hmoves
      | pending => exact absurd (Option.some.inj hafter).symm hmoves
      | setEvent =>
          cases hafter
          simp only [threadWork, Bool.toNat_true]
          omega
  | waitForReadEvent =>
      cases mainThread with
      | awake => exact absurd (Option.some.inj hafter).symm hmoves
      | waiting =>
          cases readEvent with
          | false => exact absurd (Option.some.inj hafter).symm hmoves
          | true =>
              cases hafter
              simp [threadWork]
  | inspect =>
      cases mainThread with
      | waiting => exact absurd (Option.some.inj hafter).symm hmoves
      | awake =>
          cases hafter
          simp [threadWork]

/-- Every step that sends no report leaves less work than it found. -/
theorem work_of_not_sends (hsends : turn.sends = false)
    (hafter : (partyStep values s turn).2 = some s') : s'.work < s.work := by
  rcases partyStep_cases hafter with ⟨deviceTurn, hturn, -, -, hdevice, -⟩ |
    ⟨report, inputReports, -, hway, -, hstep⟩ | ⟨action, -, -, hother, hstep⟩
  · have hwork : deviceTurn.isWork = true := by
      cases turn with
      | setOutputReport report => cases hsends
      | workReady => cases hturn; rfl
      | responseThreadWork => cases hturn; rfl
      | dequeue => cases hturn; rfl
      | responseSend => cases hturn; rfl
      | readFile => cases hturn
      | completeRead => cases hturn
      | setEvent => cases hturn
      | waitForReadEvent => cases hturn
      | inspect => cases hturn
    obtain ⟨hdelivery, hreports, hthreads, -⟩ := withDevice_eq_some hdevice
    have hless := work_of_isWork hwork hdelivery
    have hdue := due_of_isWork hwork hdelivery
    rw [Parties.work, Parties.work, hreports, hthreads, List.length_append]
    omega
  · rw [hstep] at hafter
    obtain ⟨hthreads, hmoves, hdelivery, hreports, -⟩ := withThreads_eq_some hafter
    have hfour := threadWork_completeRead hthreads hmoves
    have hlength := congrArg List.length hway
    rw [List.length_cons] at hlength
    rw [Parties.work, Parties.work, hdelivery, hreports, hfour]
    dsimp only
    omega
  · rw [hstep] at hafter
    obtain ⟨hthreads, hmoves, hdelivery, hreports, -⟩ := withThreads_eq_some hafter
    have hless := threadWork_lt hother hthreads hmoves
    rw [Parties.work, Parties.work, hdelivery, hreports]
    omega

/-- Steps that send no report use up the work that is left. -/
theorem work_add_length_le_of_not_sends (hquiet : ∀ turn ∈ rest, turn.sends = false)
    (hrest : finalState (partyStep values) s rest = some s') :
    s'.work + rest.length ≤ s.work :=
  measure_add_length_le Parties.work (fun turn => turn.sends = false)
    (fun _ _ _ => work_of_not_sends) hquiet hrest

/-- What the threads of the tool have left in an orderly run. -/
theorem threadWork_le {threads : Threads} {report : Option (List UInt8)}
    (h : WhoseTurn threads report) : threadWork threads ≤ 1 + 3 * report.toList.length := by
  obtain ⟨inputReportBuffer, readEvent, readThread, mainThread⟩ := threads
  cases report with
  | none =>
      obtain ⟨hread, rfl, rfl⟩ := h
      cases readThread with
      | readFile => simp [threadWork]
      | pending => simp [threadWork]
      | setEvent => exact absurd rfl hread
  | some report =>
      obtain ⟨-, ⟨rfl, rfl, rfl⟩ | ⟨hread, rfl, rfl⟩ | ⟨hread, rfl, rfl⟩⟩ := h
      · simp [threadWork]
      · cases readThread with
        | readFile => simp [threadWork]
        | pending => simp [threadWork]
        | setEvent => exact absurd rfl hread
      · cases readThread with
        | readFile => simp [threadWork]
        | pending => simp [threadWork]
        | setEvent => exact absurd rfl hread

/-- In an orderly run at most ten steps are left. -/
theorem Orderly.work_le (h : Orderly values s₀ turns s) : s.work ≤ 10 := by
  have htoken := h.outstanding_eq
  have hone := toNat_le_one s.awaiting
  have hdevice := work_le_due s.delivery.responses
  have hthreads := threadWork_le (h.inStep.2 h.quiet)
  unfold leftToInspect at htoken
  unfold Parties.work
  omega

/-- A step other than sending a report is possible. -/
def Parties.CanGoOn (values : ComponentFirmwareUpdate) (s : Parties) : Prop :=
  ∃ turn : PartyTurn, turn.sends = false ∧ (partyStep values s turn).2 ≠ none

theorem withDevice_ne_none {deviceTurn : Turn}
    (hpossible : (deliveryStep values s.delivery deviceTurn).2 ≠ none) :
    (s.withDevice values deviceTurn).2 ≠ none := by
  unfold Parties.withDevice
  rcases hstep : deliveryStep values s.delivery deviceTurn with ⟨observation, delivery⟩
  rw [hstep] at hpossible
  cases delivery with
  | none => exact absurd rfl hpossible
  | some delivery => simp

theorem withThreads_ne_none {action : ThreadAction} {threads : Threads}
    (hafter : (threadStep s.threads action).2 = some threads) (hmoves : threads ≠ s.threads) :
    (s.withThreads action).2 ≠ none := by
  unfold Parties.withThreads
  rcases hstep : threadStep s.threads action with ⟨happening, threads'⟩
  rw [hstep] at hafter
  cases hafter
  simp [hmoves]

/-- The worker of the device goes on until it is at rest. -/
theorem canGoOn_of_not_settled (hsettled : ¬ Settled s.delivery.responses) :
    s.CanGoOn values := by
  obtain ⟨deviceTurn, hwork, hpossible⟩ := @canWork_of_not_settled values s.delivery hsettled
  have hdevice := withDevice_ne_none hpossible
  cases deviceTurn with
  | writeReport packet => cases hwork
  | workReady => exact ⟨.workReady, rfl, hdevice⟩
  | responseThreadWork => exact ⟨.responseThreadWork, rfl, hdevice⟩
  | dequeue => exact ⟨.dequeue, rfl, hdevice⟩
  | responseSend => exact ⟨.responseSend, rfl, hdevice⟩

/-- The read thread goes on while an input report is on its way. -/
theorem canGoOn_of_inputReports (hway : s.inputReports ≠ []) : s.CanGoOn values := by
  cases hread : s.threads.readThread with
  | readFile =>
      have hstep : (threadStep s.threads .readFile).2 =
          some { s.threads with readThread := .pending } := by
        simp [threadStep, hread]
      refine ⟨.readFile, rfl, withThreads_ne_none hstep ?_⟩
      intro hsame
      cases hread.symm.trans (congrArg Threads.readThread hsame).symm
  | setEvent =>
      have hstep : (threadStep s.threads .setEvent).2 =
          some { s.threads with readEvent := true, readThread := .readFile } := by
        simp [threadStep, hread]
      refine ⟨.setEvent, rfl, withThreads_ne_none hstep ?_⟩
      intro hsame
      cases hread.symm.trans (congrArg Threads.readThread hsame).symm
  | pending =>
      cases hreports : s.inputReports with
      | nil => exact absurd hreports hway
      | cons report inputReports =>
          have hstep : (threadStep s.threads (.completeRead report.reportBuffer)).2 =
              some { s.threads with
                inputReportBuffer := overwrite s.threads.inputReportBuffer report.reportBuffer
                readThread := .setEvent } := by
            simp [threadStep, hread]
          refine ⟨.completeRead, rfl, ?_⟩
          simp only [partyStep, hreports]
          apply @withThreads_ne_none { s with inputReports := inputReports } _ _ hstep
          intro hsame
          cases hread.symm.trans (congrArg Threads.readThread hsame).symm

/-- The threads of the tool go on while a report is in the buffer. -/
theorem canGoOn_of_report {report : List UInt8} (h : WhoseTurn s.threads (some report)) :
    s.CanGoOn values := by
  obtain ⟨-, ⟨hread, -, -⟩ | ⟨-, hevent, hmain⟩ | ⟨-, -, hmain⟩⟩ := h
  · have hstep : (threadStep s.threads .setEvent).2 =
        some { s.threads with readEvent := true, readThread := .readFile } := by
      simp [threadStep, hread]
    refine ⟨.setEvent, rfl, withThreads_ne_none hstep ?_⟩
    intro hsame
    cases hread.symm.trans (congrArg Threads.readThread hsame).symm
  · have hstep : (threadStep s.threads .waitForReadEvent).2 =
        some { s.threads with readEvent := false, mainThread := .awake } := by
      simp [threadStep, hmain, hevent]
    refine ⟨.waitForReadEvent, rfl, withThreads_ne_none hstep ?_⟩
    intro hsame
    cases hmain.symm.trans (congrArg Threads.mainThread hsame).symm
  · have hstep : (threadStep s.threads .inspect).2 =
        some { s.threads with mainThread := .waiting } := by
      simp [threadStep, hmain]
    refine ⟨.inspect, rfl, withThreads_ne_none hstep ?_⟩
    intro hsame
    cases hmain.symm.trans (congrArg Threads.mainThread hsame).symm

/-- In an orderly run some party goes on while the main thread awaits a response. -/
theorem Orderly.canGoOn (h : Orderly values s₀ turns s) (hawaiting : s.awaiting = true) :
    s.CanGoOn values := by
  have htoken := h.outstanding_eq
  have hturns := h.inStep.2 h.quiet
  by_cases hsettled : Settled s.delivery.responses
  · by_cases hway : s.inputReports = []
    · cases hreport : leftToInspect values s₀ turns with
      | none =>
          rw [hsettled.due_eq_zero, hway, hreport, hawaiting] at htoken
          cases htoken
      | some report =>
          unfold leftToInspect at hreport
          rw [hreport] at hturns
          exact canGoOn_of_report hturns
    · exact canGoOn_of_inputReports hway
  · exact canGoOn_of_not_settled hsettled

end Progress

/-- From every state of every interleaving, at most ten steps follow in which the main
thread sends no report, in whatever order they are made, and while it awaits a response
one of them is possible: no wait for a response of the device is without end. -/
theorem response_comes (values : ComponentFirmwareUpdate) (deviceContext : DeviceContext)
    (inputReportBuffer : List UInt8) {turns rest : List PartyTurn} {s s' : Parties}
    (hreach : finalState (partyStep values) (.start deviceContext inputReportBuffer) turns =
      some s)
    (hquiet : ∀ turn ∈ rest, turn.sends = false)
    (hrest : finalState (partyStep values) s rest = some s') :
    rest.length ≤ 10 ∧ (s'.awaiting = true → s'.CanGoOn values) := by
  constructor
  · have hleft := (orderly_of_run hreach).work_le
    have hused := work_add_length_le_of_not_sends hquiet hrest
    omega
  · rw [← finalState_append rest hreach] at hrest
    exact (orderly_of_run hrest).canGoOn

/-- The first two steps of the session with one report. -/
theorem response_comes_sampleTurns :
    ∃ s s', finalState (partyStep protocolValues) (.start startedDevice [])
        [.readFile, .setOutputReport sampleReport] = some s ∧
      finalState (partyStep protocolValues) s [.workReady] = some s' ∧
      s'.CanGoOn protocolValues := by
  have hquiet : ∀ turn ∈ [PartyTurn.workReady], turn.sends = false := by
    simp [PartyTurn.sends]
  have hcomes := @response_comes protocolValues startedDevice []
    [.readFile, .setOutputReport sampleReport] [.workReady] _ _ rfl hquiet rfl
  exact ⟨_, _, rfl, rfl, hcomes.2 rfl⟩

end Transfer
end CFU
