import CFU.Library.Schedules
import CFU.Tool.SimilarDevices
import CFU.Transfer.ConcurrentExchange
import CFU.Transfer.SimulatedSeries

/-!
# CFU transfer - the order of the threads

A schedule decides in which order the threads of the tool and the virtual device go on
while the main thread runs {lit}`FwUpdateOfferSrec`.  The device that the main thread meets
is then the one whose worker and read thread are done as soon as it waits, as long as no
wait times out behind a report that was accepted.

Main results:

- Definition {lit}`concurrentDevice`: all the threads, as the main thread meets them.
- Theorem {lit}`concurrentDevice_similar`: in every order they are the device that answers
  each report at once.
- Theorem {lit}`update_in_any_order`: the outcome of a transfer, and what it leaves of the
  device, do not depend on the order.

Current gaps:

- A wait that times out although a response is outstanding.
-/

namespace CFU
namespace Transfer

open Simulator Tool EventRuns SignalledQueue

/-! ## The threads of a session -/

/-- What the main thread sees of a step. -/
def inspectedBuffer : Option Happening → Option (List UInt8)
  | some (.inspected inputReportBuffer) => some inputReportBuffer
  | _ => none

/-- The other threads go on, and the main thread inspects the buffer when it is woken. -/
def goOn (values : ComponentFirmwareUpdate) (schedule : Schedule Parties PartyTurn)
    (r : Recorded Parties PartyTurn) : Option (List UInt8) × Recorded Parties PartyTurn :=
  runUntil (partyStep values) inspectedBuffer PartyTurn.sends schedule (r.state.work + 1) r

/-- The threads as the main thread meets them.  They go on before it comes to send a
report, and while it waits. -/
def concurrentDevice (values : ComponentFirmwareUpdate)
    (schedule : Schedule Parties PartyTurn) : HidDevice (Recorded Parties PartyTurn) where
  setOutputReport report r :=
    let r := (goOn values schedule r).2
    match (partyStep values r.state (.setOutputReport report)).2 with
    -- a report that the device takes has a response to await
    | some s => (s.awaiting, r.after (.setOutputReport report) s)
    | none => (false, r)
  waitForReadEvent r := goOn values schedule r

/-- While the main thread awaits a response, the schedule chooses a step that is possible:
no wait times out. -/
def Diligent (values : ComponentFirmwareUpdate) (s₀ : Parties)
    (schedule : Schedule Parties PartyTurn) : Prop :=
  ∀ r : Recorded Parties PartyTurn, r.ReachedFrom (partyStep values) s₀ →
    r.state.awaiting = true → (partyStep values r.state (schedule r.events r.state)).2 ≠ none

/-! ## Steps without a report -/

section Counts

variable {values : ComponentFirmwareUpdate} {deviceContext : DeviceContext}
  {inputReportBuffer : List UInt8} {s : Parties} {turns taken : List PartyTurn}

theorem seen_inspectedBuffer (ts : List PartyTransition) :
    seen inspectedBuffer ts = inspections ts := by
  rw [inspections, inspectedReads, List.filterMap_filterMap]
  apply List.filterMap_congr
  intro t _
  rcases t.output with _ | _ | _
  · rfl
  · rfl
  · rfl

/-- The main thread does not send a report while it awaits a response. -/
theorem not_sends_of_awaiting {turn : PartyTurn} (hawaiting : s.awaiting = true)
    (hpossible : (partyStep values s turn).2 ≠ none) : turn.sends = false := by
  cases turn with
  | setOutputReport report => simp [partyStep, hawaiting] at hpossible
  | _ => rfl

/-- Steps that send no report leave the reports as they are. -/
theorem sentReports_append_of_not_sends (hothers : ∀ turn ∈ taken, turn.sends = false) :
    sentReports (turns ++ taken) = sentReports turns := by
  have hnone : (taken.filterMap PartyTurn.turn).filterMap Turn.request = [] := by
    rw [List.filterMap_filterMap, List.filterMap_eq_nil_iff]
    intro turn hturn
    have hsends := hothers turn hturn
    cases turn with
    | setOutputReport report => cases hsends
    | _ => rfl
  rw [sentReports, writeReports, List.filterMap_append, List.filterMap_append, hnone,
    List.append_nil]
  rfl

/-- The answers of the device to the reports of a run. -/
abbrev answersTo (values : ComponentFirmwareUpdate) (deviceContext : DeviceContext)
    (turns : List PartyTurn) : List ResponseBuffer :=
  answers (trace (step values) deviceContext (sentReports turns))

/-- The buffers that the main thread has inspected. -/
abbrev inspectedIn (values : ComponentFirmwareUpdate) (s₀ : Parties) (turns : List PartyTurn) :
    List (List UInt8) :=
  seen inspectedBuffer (trace (partyStep values) s₀ turns)

/-- Every answer was inspected, up to the one that is awaited. -/
theorem length_answersTo (hreach : finalState (partyStep values)
      (.start deviceContext inputReportBuffer) turns = some s) :
    (answersTo values deviceContext turns).length =
      (inspectedIn values (.start deviceContext inputReportBuffer) turns).length +
        s.awaiting.toNat := by
  have hlength := (orderly_of_run hreach).awaiting
  rw [acceptedResponses_of_run hreach, happenings_threadRun hreach] at hlength
  rw [inspectedIn, seen_inspectedBuffer]
  exact hlength

/-- The buffers that were inspected begin with the answers. -/
theorem shows_answersTo (hreach : finalState (partyStep values)
      (.start deviceContext inputReportBuffer) turns = some s) :
    List.Forall₂ Shows (inspectedIn values (.start deviceContext inputReportBuffer) turns)
      ((answersTo values deviceContext turns).take
        (inspectedIn values (.start deviceContext inputReportBuffer) turns).length) := by
  have hshows := (orderly_of_run hreach).shows
  rw [acceptedResponses_of_run hreach, happenings_threadRun hreach] at hshows
  rw [inspectedIn, seen_inspectedBuffer]
  exact hshows

/-- When nothing is awaited, the device is at rest and nothing is on its way. -/
theorem atRest_of_not_awaiting (hreach : finalState (partyStep values)
      (.start deviceContext inputReportBuffer) turns = some s) (hawaiting : s.awaiting = false) :
    s.delivery = atRest s.delivery.deviceContext ∧ s.inputReports = [] := by
  have horderly := orderly_of_run hreach
  have htoken := horderly.outstanding_eq
  rw [hawaiting, Bool.toNat_false] at htoken
  obtain ⟨sent, haccounted, -⟩ := horderly.accounted
  rw [horderly.waiting.lostSignals] at haccounted
  have hempty := haccounted.eq_empty (by omega)
  refine ⟨?_, List.length_eq_zero_iff.mp (by omega)⟩
  rw [atRest, ← hempty]

end Counts

/-! ## Waits -/

section Waits

variable {values : ComponentFirmwareUpdate} {deviceContext : DeviceContext}
  {inputReportBuffer : List UInt8} {schedule : Schedule Parties PartyTurn}
  {r : Recorded Parties PartyTurn}

/-- What the other threads do before the main thread goes on. -/
structure WentOn (values : ComponentFirmwareUpdate) (deviceContext : DeviceContext)
    (inputReportBuffer : List UInt8) (r : Recorded Parties PartyTurn)
    (buffer : Option (List UInt8)) (r' : Recorded Parties PartyTurn) : Prop where
  reached : r'.ReachedFrom (partyStep values) (.start deviceContext inputReportBuffer)
  answers : answersTo values deviceContext r'.events = answersTo values deviceContext r.events
  device : r'.state.delivery.deviceContext = r.state.delivery.deviceContext
  inspected : inspectedIn values (.start deviceContext inputReportBuffer) r'.events =
    inspectedIn values (.start deviceContext inputReportBuffer) r.events ++ buffer.toList
  awaiting : buffer.toList.length + r'.state.awaiting.toNat = r.state.awaiting.toNat

theorem runsUntil_goOn (values : ComponentFirmwareUpdate)
    (schedule : Schedule Parties PartyTurn) (r : Recorded Parties PartyTurn) :
    ∃ taken, RunsUntil (partyStep values) inspectedBuffer PartyTurn.sends schedule
      (r.state.work + 1) r (goOn values schedule r).1 (goOn values schedule r).2 taken :=
  runUntil_spec _ r

/-- In every schedule the other threads leave the device and its answers alone. -/
theorem wentOn_goOn (schedule : Schedule Parties PartyTurn)
    (hreach : r.ReachedFrom (partyStep values) (.start deviceContext inputReportBuffer)) :
    WentOn values deviceContext inputReportBuffer r (goOn values schedule r).1
      (goOn values schedule r).2 := by
  obtain ⟨taken, htaken⟩ := runsUntil_goOn values schedule r
  have hreach' := htaken.reachedFrom hreach
  have hsame : sentReports (goOn values schedule r).2.events = sentReports r.events := by
    rw [htaken.events]
    exact sentReports_append_of_not_sends htaken.others
  have hseen := htaken.seen_trace hreach
  have hanswers : answersTo values deviceContext (goOn values schedule r).2.events =
      answersTo values deviceContext r.events := by
    rw [answersTo, hsame]
  refine ⟨hreach', hanswers, ?_, hseen, ?_⟩
  · have hdevice := deviceContext_of_run hreach
    have hdevice' := deviceContext_of_run hreach'
    rw [hsame, hdevice, Option.some.injEq] at hdevice'
    exact hdevice'.symm
  · have hcount := length_answersTo hreach
    have hcount' := length_answersTo hreach'
    have hlength := congrArg List.length hseen
    rw [List.length_append] at hlength
    rw [hanswers] at hcount'
    unfold inspectedIn at hcount hcount'
    omega

/-- While nothing is awaited, a wait times out, and nothing happens to the device. -/
theorem goOn_idle (schedule : Schedule Parties PartyTurn)
    (hreach : r.ReachedFrom (partyStep values) (.start deviceContext inputReportBuffer))
    (hawaiting : r.state.awaiting = false) :
    (goOn values schedule r).1 = none ∧ (goOn values schedule r).2.state.awaiting = false ∧
      (goOn values schedule r).2.state.delivery = r.state.delivery := by
  have hgo := wentOn_goOn schedule hreach
  have hcount := hgo.awaiting
  rw [hawaiting, Bool.toNat_false] at hcount
  have hnone : (goOn values schedule r).1 = none := by
    rw [← Option.toList_eq_nil_iff, ← List.length_eq_zero_iff]
    omega
  have hidle : (goOn values schedule r).2.state.awaiting = false :=
    Bool.toNat_eq_zero.mp (by omega)
  refine ⟨hnone, hidle, ?_⟩
  rw [(atRest_of_not_awaiting hgo.reached hidle).1, hgo.device,
    ← (atRest_of_not_awaiting hreach hawaiting).1]

/-- While a response is awaited, a wait that does not time out shows it. -/
theorem goOn_busy
    (hdiligent : Diligent values (.start deviceContext inputReportBuffer) schedule)
    (hreach : r.ReachedFrom (partyStep values) (.start deviceContext inputReportBuffer))
    (hawaiting : r.state.awaiting = true) :
    ∃ buffer, (goOn values schedule r).1 = some buffer ∧
      (goOn values schedule r).2.state.awaiting = false := by
  have hgo := wentOn_goOn schedule hreach
  have hcount := hgo.awaiting
  rw [hawaiting, Bool.toNat_true] at hcount
  obtain ⟨taken, htaken⟩ := runsUntil_goOn values schedule r
  have hsome : (goOn values schedule r).1.isSome = true := by
    apply htaken.isSome Parties.work (fun _ _ _ => work_of_not_sends) (Nat.lt_succ_self _)
    intro hnone
    have hstill : (goOn values schedule r).2.state.awaiting = true := by
      rw [hnone, Option.toList_none, List.length_nil, Nat.zero_add] at hcount
      exact Bool.toNat_eq_one.mp hcount
    have hpossible := hdiligent _ hgo.reached hstill
    exact ⟨not_sends_of_awaiting hstill hpossible, hpossible⟩
  obtain ⟨buffer, hbuffer⟩ := Option.isSome_iff_exists.mp hsome
  refine ⟨buffer, hbuffer, ?_⟩
  rw [hbuffer, Option.toList_some, List.length_singleton] at hcount
  exact Bool.toNat_eq_zero.mp (by omega)

end Waits

/-! ## Any order -/

/-- Nothing is awaited, and the device is the one that answers at once. -/
structure BothIdle (values : ComponentFirmwareUpdate) (s₀ : Parties)
    (r : Recorded Parties PartyTurn) (t : DeliveryState) : Prop where
  reached : r.ReachedFrom (partyStep values) s₀
  awaiting : r.state.awaiting = false
  delivery : t = r.state.delivery

/-- A response is awaited: the last answer, which the device that answers at once holds. -/
structure BothBusy (values : ComponentFirmwareUpdate) (s₀ : Parties)
    (r : Recorded Parties PartyTurn) (t : DeliveryState) : Prop where
  reached : r.ReachedFrom (partyStep values) s₀
  awaiting : r.state.awaiting = true
  answer : ∃ earlier responseBuffer,
    t = answering r.state.delivery.deviceContext responseBuffer ∧
      answersTo values s₀.delivery.deviceContext r.events = earlier ++ [responseBuffer]

section AnyOrder

variable {values : ComponentFirmwareUpdate} {deviceContext deviceContext' : DeviceContext}
  {inputReportBuffer report : List UInt8} {schedule : Schedule Parties PartyTurn}
  {r : Recorded Parties PartyTurn} {t : DeliveryState}

/-- A write report that is refused changes nothing. -/
theorem writeReport_refused {packet : HidXferPacket} {outcome : WriteOutcome}
    (hwrite : cfuDeviceWriteReport values deviceContext true packet = (outcome, deviceContext'))
    (hrefused : ∀ responseBuffer, outcome ≠ .enqueued responseBuffer) :
    deviceContext' = deviceContext := by
  unfold cfuDeviceWriteReport at hwrite
  split at hwrite
  · exact (congrArg Prod.snd hwrite).symm
  · split at hwrite
    · exact (congrArg Prod.snd hwrite).symm
    · split at hwrite
      · exact (congrArg Prod.snd hwrite).symm
      · split at hwrite
        · exact absurd (congrArg Prod.fst hwrite).symm (hrefused _)
        · exact absurd (congrArg Prod.fst hwrite).symm (hrefused _)

/-- So the step of a write report that is refused is one without a change. -/
theorem deliveryStep_refused {s : DeliveryState} {packet : HidXferPacket}
    {outcome : WriteOutcome}
    (hwrite : cfuDeviceWriteReport values s.deviceContext true packet = (outcome, deviceContext'))
    (hrefused : ∀ responseBuffer, outcome ≠ .enqueued responseBuffer) :
    deliveryStep values s (.writeReport packet) = (.refused, some s) := by
  have hsame := writeReport_refused hwrite hrefused
  subst hsame
  cases outcome with
  | enqueued responseBuffer => exact absurd rfl (hrefused responseBuffer)
  | invalidDeviceRequest => simp only [deliveryStep, hwrite]
  | fetchFailed => simp only [deliveryStep, hwrite]

/-- The device that answers at once turns a refused report away. -/
theorem setOutputReport_simulated_refused {outcome : WriteOutcome}
    (hwrite : cfuDeviceWriteReport values deviceContext true (reportPacket report) =
      (outcome, deviceContext'))
    (hrefused : ∀ responseBuffer, outcome ≠ .enqueued responseBuffer) :
    (simulatedDevice values).setOutputReport report (atRest deviceContext) =
      (false, atRest deviceContext) := by
  have hstep : deliveryStep values (atRest deviceContext) (.writeReport (reportPacket report)) =
      (.refused, some (atRest deviceContext)) :=
    deliveryStep_refused hwrite hrefused
  have hturns : finalState (deliveryStep values) (atRest deviceContext) (reportTurns report) =
      none := by
    rw [reportTurns, finalState, hstep]
    rfl
  simp only [simulatedDevice, hturns]

/-- The main thread sends a report while it awaits nothing. -/
theorem partyStep_setOutputReport {s : Parties} (hawaiting : s.awaiting = false) :
    partyStep values s (.setOutputReport report) =
      s.withDevice values (.writeReport (reportPacket report)) := by
  simp [partyStep, hawaiting]

/-- Every response is long enough for the tool. -/
theorem responsePrefixLength_le (responseBuffer : ResponseBuffer) :
    responsePrefixLength ≤ responseBuffer.response.length := by
  cases responseBuffer with
  | offer offerResponse =>
      simp [ResponseBuffer.response, responsePrefixLength, hidCfuResponseLengthBytes]
  | content contentResponse =>
      simp [ResponseBuffer.response, responsePrefixLength, hidCfuResponseLengthBytes]

/-- A report that the device takes is one more answer. -/
theorem answersTo_append_setOutputReport {s : Parties} {turns : List PartyTurn}
    {responseBuffer : ResponseBuffer}
    (hreach : finalState (partyStep values) (.start deviceContext inputReportBuffer) turns =
      some s)
    (hwrite : cfuDeviceWriteReport values s.delivery.deviceContext true (reportPacket report) =
      (.enqueued responseBuffer, deviceContext')) :
    answersTo values deviceContext (turns ++ [.setOutputReport report]) =
      answersTo values deviceContext turns ++ [responseBuffer] := by
  have hsent : sentReports (turns ++ [.setOutputReport report]) =
      sentReports turns ++ [.writeReport true (reportPacket report)] := by
    simp [sentReports, writeReports, PartyTurn.turn, Turn.request]
  have hanswer : answers [transition (step values) s.delivery.deviceContext
      (.writeReport true (reportPacket report))] = [responseBuffer] := by
    simp [answers, Simulator.step, hwrite]
  have hdevice : finalState (step values) deviceContext (sentReports turns) =
      some s.delivery.deviceContext :=
    deviceContext_of_run hreach
  rw [answersTo, hsent, trace_append_singleton _ hdevice, answers_append, hanswer]

/-- The main thread sends a report that the device takes. -/
theorem setOutputReport_taken {responseBuffer : ResponseBuffer}
    (hreach : r.ReachedFrom (partyStep values) (.start deviceContext inputReportBuffer))
    (hawaiting : r.state.awaiting = false)
    (hwrite : cfuDeviceWriteReport values r.state.delivery.deviceContext true
      (reportPacket report) = (.enqueued responseBuffer, deviceContext')) :
    ∃ s, (partyStep values r.state (.setOutputReport report)).2 = some s ∧ s.awaiting = true ∧
      BothBusy values (.start deviceContext inputReportBuffer)
        (r.after (.setOutputReport report) s) (answering deviceContext' responseBuffer) := by
  have hstep : (partyStep values r.state (.setOutputReport report)).2 =
      some { r.state with
        delivery :=
          { deviceContext := deviceContext'
            responses := r.state.delivery.responses.put responseBuffer }
        inputReports := r.state.inputReports ++ []
        awaiting := r.state.awaiting || true } := by
    rw [partyStep_setOutputReport hawaiting]
    simp only [Parties.withDevice, deliveryStep, hwrite]
    rfl
  refine ⟨_, hstep, Bool.or_true _, ?_, Bool.or_true _, ?_⟩
  · rw [Recorded.ReachedFrom, Recorded.after, finalState_append_singleton, hreach,
      Option.bind_some, hstep]
  · exact ⟨_, responseBuffer, rfl, answersTo_append_setOutputReport hreach hwrite⟩

/-- The main thread sends a report that the device refuses. -/
theorem setOutputReport_refused {outcome : WriteOutcome}
    (hreach : r.ReachedFrom (partyStep values) (.start deviceContext inputReportBuffer))
    (hawaiting : r.state.awaiting = false)
    (hwrite : cfuDeviceWriteReport values r.state.delivery.deviceContext true
      (reportPacket report) = (outcome, deviceContext'))
    (hrefused : ∀ responseBuffer, outcome ≠ .enqueued responseBuffer) :
    ∃ s, (partyStep values r.state (.setOutputReport report)).2 = some s ∧ s.awaiting = false ∧
      BothIdle values (.start deviceContext inputReportBuffer)
        (r.after (.setOutputReport report) s) r.state.delivery := by
  have hstep : (partyStep values r.state (.setOutputReport report)).2 =
      some { r.state with
        inputReports := r.state.inputReports ++ []
        awaiting := r.state.awaiting || false } := by
    rw [partyStep_setOutputReport hawaiting]
    simp only [Parties.withDevice, deliveryStep_refused hwrite hrefused]
    rfl
  have hstill : (r.state.awaiting || false) = false := by
    rw [Bool.or_false, hawaiting]
  refine ⟨_, hstep, hstill, ?_, hstill, rfl⟩
  rw [Recorded.ReachedFrom, Recorded.after, finalState_append_singleton, hreach,
    Option.bind_some, hstep]

/-- A report that is sent while nothing is awaited is taken by both devices or by none. -/
theorem setOutputReport_bothIdle (schedule : Schedule Parties PartyTurn)
    (hidle : BothIdle values (.start deviceContext inputReportBuffer) r t) :
    ∃ taken r' t', (concurrentDevice values schedule).setOutputReport report r = (taken, r') ∧
      (simulatedDevice values).setOutputReport report t = (taken, t') ∧
      if taken then BothBusy values (.start deviceContext inputReportBuffer) r' t'
      else BothIdle values (.start deviceContext inputReportBuffer) r' t' := by
  obtain ⟨hreach, hawaiting, rfl⟩ := hidle
  obtain ⟨-, hidle₁, hdelivery⟩ := goOn_idle schedule hreach hawaiting
  have hreach₁ := (wentOn_goOn schedule hreach).reached
  have hrest := (atRest_of_not_awaiting hreach₁ hidle₁).1
  have hsend : ∀ s, (partyStep values (goOn values schedule r).2.state
      (.setOutputReport report)).2 = some s →
        (concurrentDevice values schedule).setOutputReport report r =
          (s.awaiting, (goOn values schedule r).2.after (.setOutputReport report) s) := by
    intro s hs
    simp only [concurrentDevice, hs]
  rcases hwrite : cfuDeviceWriteReport values
    (goOn values schedule r).2.state.delivery.deviceContext true (reportPacket report) with
    ⟨outcome, deviceContext₁⟩
  by_cases htaken : ∃ responseBuffer, outcome = .enqueued responseBuffer
  · obtain ⟨responseBuffer, rfl⟩ := htaken
    obtain ⟨s, hs, hawaits, hbusy⟩ := setOutputReport_taken hreach₁ hidle₁ hwrite
    refine ⟨true, _, answering deviceContext₁ responseBuffer, ?_, ?_, hbusy⟩
    · rw [hsend s hs, hawaits]
    · rw [← hdelivery, hrest]
      exact setOutputReport_simulated hwrite
  · have hrefused : ∀ responseBuffer, outcome ≠ .enqueued responseBuffer :=
      fun responseBuffer heq => htaken ⟨responseBuffer, heq⟩
    obtain ⟨s, hs, hawaits, hidle₂⟩ := setOutputReport_refused hreach₁ hidle₁ hwrite hrefused
    refine ⟨false, _, (goOn values schedule r).2.state.delivery, ?_, ?_, hidle₂⟩
    · rw [hsend s hs, hawaits]
    · rw [← hdelivery, hrest]
      exact setOutputReport_simulated_refused hwrite hrefused

/-- The buffer that was inspected last shows the last answer. -/
theorem shows_last {buffers : List (List UInt8)} {buffer : List UInt8}
    {earlier : List ResponseBuffer} {responseBuffer : ResponseBuffer}
    (hshows : List.Forall₂ Shows (buffers ++ [buffer]) (earlier ++ [responseBuffer])) :
    Shows buffer responseBuffer := by
  rw [← List.forall₂_reverse_iff, List.reverse_append, List.reverse_append] at hshows
  exact (List.forall₂_cons.mp hshows).1

/-- In every order the threads are the device that answers each report at once. -/
theorem concurrentDevice_similar
    (hdiligent : Diligent values (.start deviceContext inputReportBuffer) schedule) :
    (concurrentDevice values schedule).Similar (simulatedDevice values)
      (BothIdle values (.start deviceContext inputReportBuffer))
      (BothBusy values (.start deviceContext inputReportBuffer)) where
  setOutputReport report r t hidle := setOutputReport_bothIdle schedule hidle
  timedOut r t hidle := by
    obtain ⟨hreach, hawaiting, rfl⟩ := hidle
    obtain ⟨hnone, hidle₁, hdelivery⟩ := goOn_idle schedule hreach hawaiting
    refine ⟨(goOn values schedule r).2, r.state.delivery, Prod.ext hnone rfl, ?_,
      (wentOn_goOn schedule hreach).reached, hidle₁, hdelivery.symm⟩
    rw [(atRest_of_not_awaiting hreach hawaiting).1]
    rfl
  received r t hbusy := by
    obtain ⟨hreach, hawaiting, earlier, responseBuffer, rfl, hanswers⟩ := hbusy
    have hwent := wentOn_goOn schedule hreach
    obtain ⟨buffer, hbuffer, hidle⟩ := goOn_busy hdiligent hreach hawaiting
    have hshows := shows_answersTo hwent.reached
    have hcount := length_answersTo hwent.reached
    rw [hidle, Bool.toNat_false, Nat.add_zero] at hcount
    rw [← hcount, List.take_length, hwent.inspected, hwent.answers, hbuffer] at hshows
    have hanswers' : answersTo values deviceContext r.events = earlier ++ [responseBuffer] :=
      hanswers
    rw [hanswers'] at hshows
    refine ⟨buffer, responseBuffer.response, (goOn values schedule r).2,
      atRest r.state.delivery.deviceContext, Prod.ext hbuffer rfl,
      waitForReadEvent_simulated,
      SameResponse.of_prefix (shows_last hshows) (responsePrefixLength_le responseBuffer),
      hwent.reached, hidle, ?_⟩
    rw [(atRest_of_not_awaiting hwent.reached hidle).1, hwent.device]

end AnyOrder

/-- However the threads of the tool and of the virtual device are interleaved, as long as
no wait times out behind a report that was accepted: a transfer with any settings and any
files ends as it does with the device that answers each report at once, and leaves the same
device, at rest, with no input report on its way. -/
theorem update_in_any_order (values : ComponentFirmwareUpdate)
    {schedule : Schedule Parties PartyTurn} (deviceContext : DeviceContext) (setup : Setup)
    (waits : ℕ) (protocolSettings : CfuHidDeviceConfiguration)
    (offerPath srecBinPath : Option (List UInt8)) (forceIgnoreVersion forceReset : UInt8)
    (hdiligent : Diligent values (.start deviceContext setup.inputReportBuffer) schedule) :
    ∃ outcome r deviceContext',
      fwUpdateOfferSrec (concurrentDevice values schedule) setup (waits + 1) protocolSettings
          offerPath srecBinPath forceIgnoreVersion forceReset
          (.start (.start deviceContext setup.inputReportBuffer)) = (outcome, r) ∧
        fwUpdateOfferSrec (simulatedDevice values) setup (waits + 1) protocolSettings
          offerPath srecBinPath forceIgnoreVersion forceReset (atRest deviceContext) =
            (outcome, atRest deviceContext') ∧
        r.ReachedFrom (partyStep values) (.start deviceContext setup.inputReportBuffer) ∧
        r.state.delivery = atRest deviceContext' ∧ r.state.inputReports = [] ∧
        r.state.awaiting = false := by
  have hstart : BothIdle values (.start deviceContext setup.inputReportBuffer)
      (.start (.start deviceContext setup.inputReportBuffer)) (atRest deviceContext) :=
    ⟨Recorded.reachedFrom_start _, rfl, rfl⟩
  obtain ⟨outcome, r, t, hconcurrent, hsimulated, hreach, hawaiting, rfl⟩ :=
    fwUpdateOfferSrec_similar (concurrentDevice_similar hdiligent) setup waits protocolSettings
      offerPath srecBinPath forceIgnoreVersion forceReset hstart
  obtain ⟨hrest, hway⟩ := atRest_of_not_awaiting hreach hawaiting
  rw [hrest] at hsimulated
  exact ⟨outcome, r, _, hconcurrent, hsimulated, hreach, hrest, hway, hawaiting⟩

/-! ## A schedule -/

/-- The steps of the other threads, and of the main thread while it waits. -/
def otherTurns : List PartyTurn :=
  [.inspect, .waitForReadEvent, .setEvent, .completeRead, .readFile, .responseSend, .dequeue,
    .responseThreadWork, .workReady]

/-- The first of these steps that is possible. -/
def eager (values : ComponentFirmwareUpdate) : Schedule Parties PartyTurn :=
  fun _ s => (otherTurns.find? fun turn => (partyStep values s turn).2.isSome).getD .readFile

/-- There is a schedule in which no wait times out. -/
theorem diligent_eager (values : ComponentFirmwareUpdate) (deviceContext : DeviceContext)
    (inputReportBuffer : List UInt8) :
    Diligent values (.start deviceContext inputReportBuffer) (eager values) := by
  intro r hreach hawaiting
  obtain ⟨turn, hsends, hpossible⟩ := (orderly_of_run hreach).canGoOn hawaiting
  have hmem : turn ∈ otherTurns := by
    cases turn with
    | setOutputReport report => cases hsends
    | _ => simp [otherTurns]
  have hfound : (otherTurns.find? fun turn =>
      (partyStep values r.state turn).2.isSome).isSome = true := by
    rw [List.find?_isSome]
    exact ⟨turn, hmem, Option.isSome_iff_ne_none.mpr hpossible⟩
  obtain ⟨found, hfind⟩ := Option.isSome_iff_exists.mp hfound
  have hsome : (partyStep values r.state found).2.isSome = true :=
    List.find?_some (p := fun turn => (partyStep values r.state turn).2.isSome) hfind
  rw [eager, hfind, Option.getD_some]
  exact Option.isSome_iff_ne_none.mp hsome

/-- A component is updated. -/
theorem update_in_any_order_eager :
    ∃ r, fwUpdateOfferSrec (concurrentDevice protocolValues (eager protocolValues))
          (Setup.ready simulatedIds (List.replicate 17 0)) 1 cfuReportSizes
          (some (variantUpload componentIdMcu 2).offerFile)
          (some (payload [byteRecord 0x1000 0xAA])) 0 0
          (.start (.start startedDevice (List.replicate 17 0))) = (.returned true, r) ∧
      r.state.delivery.deviceContext.componentVersion 0 = ⟨2, 1, 7⟩ := by
  have hmem : componentIdMcu ∈ updateOrder := List.mem_cons_self
  have hordinary := ordinary_variantUpload hmem 2
  obtain ⟨outcome, r, deviceContext', hconcurrent, hsimulated, -, hrest, -⟩ :=
    update_in_any_order protocolValues startedDevice
      (Setup.ready simulatedIds (List.replicate 17 0)) 0 cfuReportSizes
      (some (variantUpload componentIdMcu 2).offerFile)
      (some (payload [byteRecord 0x1000 0xAA])) 0 0
      (diligent_eager protocolValues startedDevice _)
  rcases updating_startedDevice.run speaksProtocol_protocolValues hordinary
    (List.cons_ne_nil _ _) Nat.one_le_two_pow 0 with ⟨-, after, hrun, hafter⟩ | ⟨hother, -⟩
  · obtain ⟨houtcome, hdevice⟩ := Prod.mk.inj (hsimulated.symm.trans hrun)
    refine ⟨r, hconcurrent.trans (congrArg (Prod.mk · r) houtcome), ?_⟩
    rw [hrest, hdevice]
    exact hafter.componentVersion 0 (by decide)
  · exact absurd rfl hother

end Transfer
end CFU
