import CFU.Tool.Exchange
import CFU.Transfer.FlashImage

/-!
# CFU transfer - a device that others use

While the tool sends a payload the engine may meet other events between two of its
reports: the fail-safe timer expires, a read of the flash completes, another host makes an
offer.  As long as none of them is content and the active component stays, the image that
a successful session leaves is the one of an undisturbed session.

Main results:

- Definition {lit}`sharedDevice`: the engine with events between the reports of the tool.
- Theorem {lit}`sharedRun_nil`: without such events a session is an undisturbed one.
- Theorem {lit}`image_of_sharedRun`: the image that a successful session leaves.
-/

namespace CFU
namespace Transfer

open Firmware Tool Buffer EventRuns LabelledPaths Stores

variable {W : Type} {n : ℕ}

/-! ## The device -/

/-- The engine as a device, the events that come before each of the next output reports,
and the transitions that such events have made. -/
structure SharedState (W : Type) (n : ℕ) where
  device : DeviceState W n
  schedule : List (List (Event n))
  others : List (EngineTransition W n)

/-- The events that come before an output report happen. -/
def SharedState.interrupt (P : Platform W n) (s : SharedState W n) : SharedState W n :=
  match s.device.config with
  | none => { s with schedule := s.schedule.tail }
  | some c =>
      { device := { s.device with config := finalState (step P) c (s.schedule.headD []) }
        schedule := s.schedule.tail
        others := s.others ++ engineTrace P c (s.schedule.headD []) }

/-- The engine as the tool sees it when it is not alone. -/
def sharedDevice (P : Platform W n) (ids : ReportIds) (pResponse : FwUpdateOfferResponse) :
    HidDevice (SharedState W n) where
  setOutputReport report s :=
    let s := s.interrupt P
    let answer := (engineDevice P ids pResponse).setOutputReport report s.device
    (answer.1, { s with device := answer.2 })
  waitForReadEvent s :=
    let answer := (engineDevice P ids pResponse).waitForReadEvent s.device
    (answer.1, { s with device := answer.2 })

section Device

variable {P : Platform W n} {ids : ReportIds} {pResponse : FwUpdateOfferResponse}

/-- Waiting for an answer is waiting for the engine. -/
theorem awaitContentResponse_shared (sequenceNumber : UInt16) (waits : ℕ)
    (inputReportBuffer : List UInt8) (s : SharedState W n) :
    awaitContentResponse (sharedDevice P ids pResponse) sequenceNumber waits inputReportBuffer s =
      ((awaitContentResponse (engineDevice P ids pResponse) sequenceNumber waits
          inputReportBuffer s.device).1,
        (awaitContentResponse (engineDevice P ids pResponse) sequenceNumber waits
          inputReportBuffer s.device).2.1,
        { s with
          device := (awaitContentResponse (engineDevice P ids pResponse) sequenceNumber waits
            inputReportBuffer s.device).2.2 }) := by
  induction waits generalizing inputReportBuffer s with
  | zero => rfl
  | succ waits ih =>
      have hshared : (sharedDevice P ids pResponse).waitForReadEvent s =
          (((engineDevice P ids pResponse).waitForReadEvent s.device).1,
            { s with device := ((engineDevice P ids pResponse).waitForReadEvent s.device).2 }) :=
        rfl
      cases hwait : (engineDevice P ids pResponse).waitForReadEvent s.device with
      | mk answer d =>
          rw [hwait] at hshared
          cases answer with
          | none =>
              rw [awaitContentResponse_timedOut hshared, awaitContentResponse_timedOut hwait, ih]
          | some inputReport =>
              rw [awaitContentResponse_received hshared, awaitContentResponse_received hwait]
              cases answerOf sequenceNumber (overwrite inputReportBuffer inputReport) with
              | none => exact ih _ _
              | some ack => rfl

/-- The offer meets the engine behind the events that come before it. -/
theorem sendOffer_shared (report inputReportBuffer : List UInt8) (s : SharedState W n) :
    sendOffer (sharedDevice P ids pResponse) report inputReportBuffer s =
      ((sendOffer (engineDevice P ids pResponse) report inputReportBuffer
          (s.interrupt P).device).1,
        (sendOffer (engineDevice P ids pResponse) report inputReportBuffer
          (s.interrupt P).device).2.1,
        { s.interrupt P with
          device := (sendOffer (engineDevice P ids pResponse) report inputReportBuffer
            (s.interrupt P).device).2.2 }) := by
  unfold sendOffer
  dsimp only [sharedDevice]
  cases (engineDevice P ids pResponse).waitForReadEvent
    ((engineDevice P ids pResponse).setOutputReport report (s.interrupt P).device).2 with
  | mk answer d =>
      cases answer with
      | none => rfl
      | some inputReport => rfl

/-- The transitions of the others are only added to. -/
theorem sharedDevice_respects_others :
    (sharedDevice P ids pResponse).Respects fun s s' => s.others <+: s'.others where
  refl s := List.prefix_refl s.others
  trans := List.IsPrefix.trans
  setOutputReport report s := by
    dsimp only [sharedDevice, SharedState.interrupt]
    split
    · exact List.prefix_refl _
    · exact List.prefix_append _ _
  waitForReadEvent s := List.prefix_refl s.others

/-- The other transitions are those of events of the schedule. -/
theorem sharedDevice_respects_schedule :
    (sharedDevice P ids pResponse).Respects fun s s' => s'.schedule <:+ s.schedule ∧
      ∀ u ∈ s'.others, u ∈ s.others ∨
        u = transition (step P) u.before u.event ∧ u.event ∈ s.schedule.flatten where
  refl s := ⟨List.suffix_refl _, fun _ hu => .inl hu⟩
  trans := by
    intro s₁ s₂ s₃ h h'
    refine ⟨h'.1.trans h.1, ?_⟩
    intro u hu
    rcases h'.2 u hu with hbefore | ⟨hstep, hevent⟩
    · exact h.2 u hbefore
    · refine .inr ⟨hstep, ?_⟩
      obtain ⟨es, hes, hmem⟩ := List.mem_flatten.mp hevent
      exact List.mem_flatten.mpr ⟨es, h.1.subset hes, hmem⟩
  setOutputReport report s := by
    dsimp only [sharedDevice, SharedState.interrupt]
    split
    · exact ⟨List.tail_suffix _, fun _ hu => .inl hu⟩
    · refine ⟨List.tail_suffix _, ?_⟩
      intro u hu
      rcases List.mem_append.mp hu with hbefore | hthere
      · exact .inl hbefore
      · refine .inr ⟨eq_transition_of_mem_trace hthere, ?_⟩
        have hevent := event_mem_of_mem_trace hthere
        cases hschedule : s.schedule with
        | nil => simp [hschedule] at hevent
        | cons es schedule =>
            rw [hschedule] at hevent
            exact List.mem_append_left _ hevent
  waitForReadEvent s := ⟨List.suffix_refl _, fun _ hu => .inl hu⟩

/-- Without a schedule nothing happens between the reports. -/
theorem interrupt_nil (d : DeviceState W n) (others : List (EngineTransition W n)) :
    SharedState.interrupt P ⟨d, [], others⟩ = ⟨d, [], others⟩ := by
  rcases d with ⟨config, calls, inputReports⟩
  cases config with
  | none => rfl
  | some c => simp [SharedState.interrupt]

/-- Without events a report meets the engine as the report before left it. -/
theorem engineDevice_projects (others : List (EngineTransition W n)) :
    (engineDevice P ids pResponse).Projects (sharedDevice P ids pResponse)
      fun d => ⟨d, [], others⟩ where
  setOutputReport report d := by
    dsimp only [sharedDevice]
    rw [interrupt_nil]
    rfl
  waitForReadEvent d := rfl

end Device

/-! ## Events that do not disturb -/

/-- The transition is no content and no registration, and the active component stays. -/
structure Undisturbing (t : EngineTransition W n) : Prop where
  content : t.event.isContent = false
  registration : t.event.isRegistration = false
  activeComponentId : ∀ c', t.after = some c' →
    c'.engine.currentOffer.activeComponentId = t.before.engine.currentOffer.activeComponentId

/-- Expiries of the timer and completions of a read do not disturb. -/
theorem undisturbing_of_asynchronous (P : Platform W n) (c : Config W n) {e : Event n}
    (h : e = .updateTimer ∨ e = .readComplete) : Undisturbing (transition (step P) c e) := by
  rcases h with rfl | rfl
  · refine ⟨rfl, rfl, ?_⟩
    intro c' hafter
    cases hafter
    rfl
  · refine ⟨rfl, rfl, ?_⟩
    intro c' hafter
    cases hafter
    rfl

/-- What the payload of a session depends on is the same. -/
structure Undisturbed {V : Type} (view : W → V) (c c' : Config W n) : Prop where
  activeComponentId :
    c'.engine.currentOffer.activeComponentId = c.engine.currentOffer.activeComponentId
  sameList : c.engine.SameList c'.engine
  view : view c'.world = view c.world

section Undisturbed

variable {P : Platform W n} {view : W → Flash} {erased : ℕ → UInt8} {c c' : Config W n}

theorem Undisturbed.refl (c : Config W n) : Undisturbed view c c :=
  ⟨rfl, ⟨rfl, rfl⟩, rfl⟩

/-- One event. -/
theorem Undisturbing.undisturbed (hP : P.Follows view (FlashStep erased)) {e : Event n}
    (h : Undisturbing (transition (step P) c e)) (hafter : (step P c e).2 = some c') :
    Undisturbed view c c' where
  activeComponentId := h.activeComponentId c' hafter
  sameList := step_sameList h.registration hafter
  view := by
    apply flash_of_quiet _ (path_of_step hP hafter)
    intro call hcall
    exact (step_calls_of_not_content P c h.content call hcall).1

theorem Undisturbed.trans {c'' : Config W n} (h : Undisturbed view c c')
    (h' : Undisturbed view c' c'') : Undisturbed view c c'' where
  activeComponentId := h'.activeComponentId.trans h.activeComponentId
  sameList := ⟨h'.sameList.1.trans h.sameList.1, h'.sameList.2.trans h.sameList.2⟩
  view := h'.view.trans h.view

/-- A run of events. -/
theorem undisturbed_of_run (hP : P.Follows view (FlashStep erased)) {es : List (Event n)}
    (h : ∀ t ∈ engineTrace P c es, Undisturbing t) (hfinal : finalState (step P) c es = some c') :
    Undisturbed view c c' := by
  induction es generalizing c with
  | nil =>
      cases hfinal
      exact .refl _
  | cons e es ih =>
      cases hstep : (step P c e).2 with
      | none =>
          rw [finalState, hstep] at hfinal
          cases hfinal
      | some c₁ =>
          rw [finalState, hstep] at hfinal
          rw [engineTrace, trace, hstep, List.forall_mem_cons] at h
          exact (h.1.undisturbed hP hstep).trans (ih h.2 hfinal)

end Undisturbed

/-! ## The payload -/

section Loop

variable {P : Platform W n} {ids : ReportIds} {pResponse : FwUpdateOfferResponse}
  {report : HidReportIdInfo} {totalContentPacketCount : UInt32} {waits blocks : ℕ}
  {s : SharedState W n} {c₀ : Config W n} {calls : List (Call n)}

/-- The device behind the events that come before a report. -/
theorem interrupt_quiet (hs : s.device = .quiet c₀ calls) :
    (s.interrupt P).device = ⟨finalState (step P) c₀ (s.schedule.headD []), calls, []⟩ ∧
      (s.interrupt P).others = s.others ++ engineTrace P c₀ (s.schedule.headD []) := by
  unfold SharedState.interrupt
  rw [hs]
  exact ⟨rfl, rfl⟩

/-- A tool that returns success had its block answered with success, behind the events
that came before it. -/
theorem round_of_sharedReturned (hid : report.id = ids.content) (hsize : report.size = 60)
    {t : Transfer} (hgood : t.stream.good = true) {record : Record} {tail : List UInt8}
    (hrest : t.stream.rest = record.toBytes ++ tail) (hs : s.device = .quiet c₀ calls)
    (hreturned : (sendBlocks (sharedDevice P ids pResponse) report (waits + 1)
      totalContentPacketCount (blocks + 1) t s).1 = .returned true) :
    ∃ c c' blockCalls inputReportBuffer,
      finalState (step P) c₀ (s.schedule.headD []) = some c ∧
      BlockCalls c.engine.currentOffer.activeComponentId
        (c.engine.lookup P c.engine.currentOffer.activeComponentId)
        (plannedBlock t totalContentPacketCount record) blockCalls ∧
      step P c (.content (recordCommand t report totalContentPacketCount record)) =
        (contentOutput (recordCommand t report totalContentPacketCount record) blockCalls
          firmwareUpdateStatusSuccess, some c') ∧
      KeepsComponent (plannedBlock t totalContentPacketCount record) c.engine c'.engine ∧
      sendBlocks (sharedDevice P ids pResponse) report (waits + 1) totalContentPacketCount
          (blocks + 1) t s =
        sendBlocks (sharedDevice P ids pResponse) report (waits + 1) totalContentPacketCount
          blocks ((t.onRecord report totalContentPacketCount record).advance inputReportBuffer)
          { s.interrupt P with device := .quiet c' (calls ++ blockCalls) } := by
  have hdevice := (interrupt_quiet (P := P) hs).1
  have hset : ∀ bytes, (sharedDevice P ids pResponse).setOutputReport bytes s =
      (((engineDevice P ids pResponse).setOutputReport bytes (s.interrupt P).device).1,
        { s.interrupt P with
          device := ((engineDevice P ids pResponse).setOutputReport bytes
            (s.interrupt P).device).2 }) := fun _ => rfl
  rw [sendBlocks_record _ hgood hrest] at hreturned ⊢
  dsimp only at hreturned ⊢
  rw [hset, hdevice] at hreturned ⊢
  cases hrun : finalState (step P) c₀ (s.schedule.headD []) with
  | none =>
      -- the engine hangs, and the report is never answered
      rw [hrun] at hreturned
      dsimp only [engineDevice] at hreturned
      rw [awaitContentResponse_shared, awaitContentResponse_silent _ _ _ rfl] at hreturned
      simp at hreturned
  | some c =>
      have hquiet : (⟨some c, calls, []⟩ : DeviceState W n) = .quiet c calls := rfl
      rw [hrun, hquiet, setOutputReport_content pResponse hid hsize rfl, DeviceState.process,
        ← recordCommand_eq] at hreturned
      rw [hquiet, setOutputReport_content pResponse hid hsize rfl, DeviceState.process,
        ← recordCommand_eq]
      rcases hstep : step P c (.content (recordCommand t report totalContentPacketCount record))
        with ⟨output, after⟩
      have hcases := content_output_cases P c
        (recordCommand t report totalContentPacketCount record)
      rw [hstep] at hcases hreturned
      rcases hcases with ⟨blockCalls, status, rfl⟩ | ⟨blockCalls, reason, rfl⟩
      · obtain ⟨inputReportBuffer, hawait⟩ := awaitContentResponse_answered P ids pResponse after
          (calls ++ blockCalls) (recordCommand t report totalContentPacketCount record) status
          waits (t.onRecord report totalContentPacketCount record).inputReportBuffer
        dsimp only [DeviceState.quiet, responseReports, contentOutput, List.nil_append]
          at hreturned ⊢
        rw [recordCommand_sequenceNumber, awaitContentResponse_shared, hawait] at hreturned ⊢
        by_cases hstatus : status = firmwareUpdateStatusSuccess
        · subst hstatus
          obtain ⟨hcalls, c', hanswer, hkeeps⟩ := content_step_of_success
            (carries_recordCommand t report totalContentPacketCount record)
            (congrArg Prod.fst hstep)
          have hafter : after = some c' := by
            rw [hstep] at hanswer
            exact congrArg Prod.snd hanswer
          subst hafter
          exact ⟨c, c', blockCalls, inputReportBuffer, rfl, hcalls, hanswer, hkeeps, rfl⟩
        · rw [if_neg hstatus] at hreturned
          simp at hreturned
      · dsimp only [DeviceState.quiet, responseReports, List.append_nil] at hreturned
        rw [awaitContentResponse_shared, awaitContentResponse_silent _ _ _ rfl] at hreturned
        simp at hreturned

/-- A tool that returns success had all its blocks answered with success, and between them
the images stayed as they were. -/
theorem sendBlocks_of_sharedReturned {view : W → Flash} {erased : ℕ → UInt8}
    (hP : P.Follows view (FlashStep erased)) (hid : report.id = ids.content)
    (hsize : report.size = 60) {records : List Record} {t : Transfer}
    (hgood : t.stream.good = true) (hrest : t.stream.rest = payload records)
    (hblocks : records.length < blocks) (hs : s.device = .quiet c₀ calls)
    (hreturned : (sendBlocks (sharedDevice P ids pResponse) report (waits + 1)
      totalContentPacketCount blocks t s).1 = .returned true)
    (hquiet : ∀ u ∈ (sendBlocks (sharedDevice P ids pResponse) report (waits + 1)
      totalContentPacketCount blocks t s).2.others, Undisturbing u) :
    ∃ c blockCalls,
      (sendBlocks (sharedDevice P ids pResponse) report (waits + 1)
        totalContentPacketCount blocks t s).2.device.config = some c ∧
      c.engine.currentOffer.activeComponentId = c₀.engine.currentOffer.activeComponentId ∧
      List.Forall₂ (BlockCalls c₀.engine.currentOffer.activeComponentId
          (c₀.engine.lookup P c₀.engine.currentOffer.activeComponentId))
        (blockPlan totalContentPacketCount t.contentPacketsSent t.startAddress records)
        blockCalls ∧
      Path (FlashStep erased) (view c₀.world) blockCalls.flatten (view c.world) := by
  induction records generalizing blocks t s c₀ calls with
  | nil =>
      obtain ⟨blocks, rfl⟩ := Nat.exists_eq_add_one_of_ne_zero (Nat.ne_zero_of_lt hblocks)
      rw [sendBlocks_end _ hgood hrest]
      refine ⟨c₀, [], ?_, rfl, .nil, .nil _⟩
      rw [hs]
      rfl
  | cons record records ih =>
      obtain ⟨blocks, rfl⟩ := Nat.exists_eq_add_one_of_ne_zero (Nat.ne_zero_of_lt hblocks)
      obtain ⟨c₁, c₂, blockCalls, inputReportBuffer, hrun, hcalls, hstep, hkeeps, hround⟩ :=
        round_of_sharedReturned hid hsize hgood hrest hs hreturned
      rw [hround] at hreturned hquiet ⊢
      have hbetween : ∀ u ∈ engineTrace P c₀ (s.schedule.headD []), Undisturbing u := by
        intro u hu
        have hgrows := sendBlocks_monotone
          (@sharedDevice_respects_others _ _ P ids pResponse) report
          (waits + 1) totalContentPacketCount blocks
          ((t.onRecord report totalContentPacketCount record).advance inputReportBuffer)
          { s.interrupt P with device := .quiet c₂ (calls ++ blockCalls) }
        apply hquiet u (hgrows.subset _)
        rw [(interrupt_quiet hs).2]
        exact List.mem_append_right _ hu
      have hsame : Undisturbed view c₀ c₁ := undisturbed_of_run hP hbetween hrun
      have hgood' : ((t.onRecord report totalContentPacketCount record).advance
          inputReportBuffer).stream.good = true := hgood
      obtain ⟨c, restCalls, hconfig, hactive, hrestCalls, hpath⟩ := ih hgood'
        (Record.behind_rest hrest) (Nat.lt_of_succ_lt_succ hblocks) rfl hreturned hquiet
      have hblock : Path (FlashStep erased) (view c₁.world) blockCalls (view c₂.world) := by
        have hcontent := path_of_step hP (congrArg Prod.snd hstep)
        rw [hstep] at hcontent
        exact hcontent
      rw [hkeeps.activeComponentId, hkeeps.sameList.lookup_eq, hsame.activeComponentId,
        hsame.sameList.lookup_eq] at hrestCalls
      rw [hsame.activeComponentId, hsame.sameList.lookup_eq] at hcalls
      rw [hsame.view] at hblock
      refine ⟨c, blockCalls :: restCalls, hconfig, ?_, .cons hcalls hrestCalls, ?_⟩
      · rw [hactive, hkeeps.activeComponentId, hsame.activeComponentId]
      · rw [List.flatten_cons]
        exact hblock.append hpath

end Loop

namespace Session

/-! ## Sessions that others interrupt -/

/-- {lit}`FwUpdateOfferSrec` against an engine that meets the events of a schedule between
the reports. -/
def sharedRun (x : Session W n) (waits : ℕ) (schedule : List (List (Event n))) :
    Outcome × SharedState W n :=
  fwUpdateOfferSrec (sharedDevice x.platform x.ids x.pResponse)
    (Setup.ready x.ids x.inputReportBuffer) (waits + 1) x.protocolSettings (some x.offerFile)
    (some (payload x.records)) x.forceIgnoreVersion x.forceReset
    ⟨.quiet x.config [], schedule, []⟩

/-- Without events it is the session alone with the engine. -/
theorem sharedRun_nil (x : Session W n) (waits : ℕ) :
    x.sharedRun waits [] = ((x.run waits).1, ⟨(x.run waits).2, [], []⟩) :=
  fwUpdateOfferSrec_projects (engineDevice_projects []) _ _ _ _ _ _ _ _

/-- In a session that returned success the offer was answered behind the events that came
before it, and then the payload was sent. -/
theorem payload_of_sharedReturned {x : Session W n} {waits : ℕ}
    {schedule : List (List (Event n))}
    (hreturned : (x.sharedRun waits schedule).1 = .returned true) :
    ∃ c₁ c₂ calls response t,
      finalState (step x.platform) x.config (schedule.headD []) = some c₁ ∧
      step x.platform c₁ (.offer x.offer x.pResponse) =
        (offerOutput calls response, some c₂) ∧
      (∀ r componentId, ∀ call ∈ calls, Call.isFor r componentId call = false) ∧
      StartsOn t x.records (overwrite x.inputReportBuffer
        (x.ids.offerResponse :: encodeOfferResponse response)) ∧
      x.sharedRun waits schedule =
        sendBlocks (sharedDevice x.platform x.ids x.pResponse) x.reports.fwUpdateContent
          (waits + 1) (UInt32.ofNat x.records.length) (roundsFor (payload x.records)) t
          ⟨.quiet c₂ calls, schedule.tail,
            engineTrace x.platform x.config (schedule.headD [])⟩ := by
  have hrun : x.sharedRun waits schedule =
      offerAndSend (sharedDevice x.platform x.ids x.pResponse) x.reports (waits + 1)
        x.offerFile (payload x.records) x.forceIgnoreVersion x.forceReset x.inputReportBuffer
        ⟨.quiet x.config [], schedule, []⟩ := rfl
  have hid : x.reports.fwUpdateOffer.id = x.ids.offer := rfl
  obtain ⟨hdevice, hothers⟩ := @interrupt_quiet _ _ x.platform
    ⟨.quiet x.config [], schedule, []⟩ x.config [] rfl
  rw [hrun, offerAndSend, sendOffer_shared, hdevice] at hreturned
  rw [hrun, offerAndSend, sendOffer_shared, hdevice]
  cases hpre : finalState (step x.platform) x.config (schedule.headD []) with
  | none =>
      rw [hpre] at hreturned
      simp [sendOffer, engineDevice] at hreturned
  | some c₁ =>
      have hquiet : (⟨some c₁, [], []⟩ : DeviceState W n) = .quiet c₁ [] := rfl
      rw [hpre, hquiet] at hreturned
      rw [hquiet]
      rcases offer_output_cases x.platform c₁ x.offer x.pResponse with
        ⟨calls, response, c₂, hstep, hfor⟩ | ⟨calls, reason, after, hstep⟩
      · have hsend := sendOffer_answered x.pResponse hid x.ids_ne x.offer_size hstep
          x.inputReportBuffer
        rw [offerReport] at hsend
        rw [hsend] at hreturned ⊢
        cases haccepted : offerAccepted response.status with
        | false =>
            rw [haccepted] at hreturned
            simp at hreturned
        | true =>
            obtain ⟨t, hstart, hpayload⟩ := sendPayload_payload
              (sharedDevice x.platform x.ids x.pResponse) x.reports.fwUpdateContent (waits + 1)
              x.records (overwrite x.inputReportBuffer
                (x.ids.offerResponse :: encodeOfferResponse response))
              ⟨.quiet c₂ calls, schedule.tail,
                engineTrace x.platform x.config (schedule.headD [])⟩
            refine ⟨c₁, c₂, calls, response, t, rfl, hstep, hfor, hstart, ?_⟩
            rw [← hpayload]
            have hstate : { SharedState.interrupt x.platform
                ⟨.quiet x.config [], schedule, []⟩ with device := .quiet c₂ calls } =
                ⟨.quiet c₂ calls, schedule.tail,
                  engineTrace x.platform x.config (schedule.headD [])⟩ := by
              rfl
            rw [← hstate]
            rfl
      · have hsend := sendOffer_hung x.pResponse hid x.ids_ne x.offer_size hstep
          x.inputReportBuffer
        rw [offerReport] at hsend
        rw [hsend] at hreturned
        simp at hreturned

/-- When no event between the reports disturbs, a session that reports success leaves the
records of its payload, stored in file order, in the image of the active component, and
all other images as they were. -/
theorem image_of_sharedRun (x : Session W n) (waits : ℕ) (schedule : List (List (Event n)))
    (view : W → Flash) (erased : ℕ → UInt8) (hP : x.platform.Follows view (FlashStep erased))
    (hfew : x.records.length ≤ 2 ^ 32)
    (hreturned : (x.sharedRun waits schedule).1 = .returned true)
    (hquiet : ∀ u ∈ (x.sharedRun waits schedule).2.others, Undisturbing u) :
    ∃ c, (x.sharedRun waits schedule).2.device.config = some c ∧
      view c.world = Function.update (view x.config.world)
        c.engine.currentOffer.activeComponentId
        (storeAll (if x.unprepared then
            view x.config.world c.engine.currentOffer.activeComponentId
          else erased) x.stores) := by
  obtain ⟨c₁, c₂, calls, response, t, hpre, hstep, hfor, hstart, hrun⟩ :=
    payload_of_sharedReturned hreturned
  rw [hrun] at hreturned hquiet ⊢
  have hid : x.reports.fwUpdateContent.id = x.ids.content := rfl
  obtain ⟨c, blockCalls, hconfig, hactive, hblocks, hpath⟩ := sendBlocks_of_sharedReturned hP hid
    x.content_size hstart.good hstart.rest (length_lt_roundsFor x.records) rfl hreturned hquiet
  rw [hstart.contentPacketsSent, hstart.startAddress] at hblocks
  refine ⟨c, hconfig, ?_⟩
  -- the events before the offer and the offer itself leave the images
  have hbefore : ∀ u ∈ engineTrace x.platform x.config (schedule.headD []), Undisturbing u := by
    intro u hu
    have hgrows := sendBlocks_monotone
      (@sharedDevice_respects_others _ _ x.platform x.ids x.pResponse) x.reports.fwUpdateContent
      (waits + 1) (UInt32.ofNat x.records.length) (roundsFor (payload x.records)) t
      ⟨.quiet c₂ calls, schedule.tail, engineTrace x.platform x.config (schedule.headD [])⟩
    exact hquiet u (hgrows.subset hu)
  have hsame : Undisturbed view x.config c₁ := undisturbed_of_run hP hbefore hpre
  have hoffer : view c₂.world = view c₁.world := by
    apply flash_of_quiet _ (path_of_step hP (congrArg Prod.snd hstep))
    intro call hcall
    exact (step_calls_of_not_content x.platform c₁ rfl call hcall).1
  -- behind them it is a session that starts in the configuration that they left
  obtain ⟨completion, hcompletion, hflatten⟩ :=
    calls_behind_offer (x := x.against x.platform c₁) hfew hblocks
  have htarget : (x.against x.platform c₁).target =
      c₂.engine.currentOffer.activeComponentId := by
    show ((step x.platform c₁ (.offer x.offer x.pResponse)).2.map _).getD _ = _
    rw [hstep]
    rfl
  rw [hflatten, ← htarget] at hpath
  have hprepared := flash_of_preparation hpath
  rw [Path.append_iff] at hprepared
  obtain ⟨flash, hwrites, hend⟩ := hprepared
  have hflash := flash_of_writes
    (fun record _ => recordWrite_eq (x.against x.platform c₁).target x.startAddress record)
    hwrites
  rw [flash_of_quiet hcompletion hend, hflash, Function.update_self, Function.update_idem,
    background, htarget, hoffer, hsame.view, hactive]
  rfl

/-- The events of the schedule are what happened between the reports. -/
theorem others_of_sharedRun (x : Session W n) (waits : ℕ) (schedule : List (List (Event n))) :
    ∀ u ∈ (x.sharedRun waits schedule).2.others,
      u = transition (step x.platform) u.before u.event ∧ u.event ∈ schedule.flatten := by
  have hrun : x.sharedRun waits schedule =
      offerAndSend (sharedDevice x.platform x.ids x.pResponse) x.reports (waits + 1)
        x.offerFile (payload x.records) x.forceIgnoreVersion x.forceReset x.inputReportBuffer
        ⟨.quiet x.config [], schedule, []⟩ := rfl
  have hgrows := offerAndSend_monotone
    (@sharedDevice_respects_schedule _ _ x.platform x.ids x.pResponse) x.reports (waits + 1)
    x.offerFile (payload x.records) x.forceIgnoreVersion x.forceReset x.inputReportBuffer
    ⟨.quiet x.config [], schedule, []⟩
  intro u hu
  rw [hrun] at hu
  rcases hgrows.2 u hu with hnone | hthere
  · cases hnone
  · exact hthere

/-! ## An expiry between two blocks -/

/-- The timer expires behind the first block, and a read completes before the last one. -/
def expiryBetween : List (List (Event 1)) :=
  [[], [], [.updateTimer], [.readComplete, .updateTimer]]

theorem image_of_sharedRun_expiry :
    ∃ c, (inOrder.sharedRun 0 expiryBetween).2.device.config = some c ∧
      c.world = Function.update inOrder.config.world c.engine.currentOffer.activeComponentId
        (storeAll (fun _ => 0xFF) inOrder.stores) := by
  apply image_of_sharedRun inOrder 0 expiryBetween id (fun _ => 0xFF) (flashPlatform_follows _ _)
  · decide
  · decide +kernel
  · intro u hu
    obtain ⟨hstep, hevent⟩ := others_of_sharedRun inOrder 0 expiryBetween u hu
    rw [hstep]
    apply undisturbing_of_asynchronous
    simp [expiryBetween] at hevent
    tauto

end Session

end Transfer
end CFU
