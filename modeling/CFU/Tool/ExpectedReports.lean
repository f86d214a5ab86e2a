import CFU.Tool.FinishedTransfer
import CFU.Tool.Script

/-!
# CFU tool - reports that were not expected

The tool looks up the ids of the two response reports and never compares them with
the input reports that it sees: whatever arrives while the offer or a block is
pending is read as the response.  A foreign report is without effect only where its
bytes read as a response with status {lit}`FIRMWARE_UPDATE_SUCCESS` and another
sequence number, and where no short response leaves them in the buffer.

Main results:

- Theorem {lit}`sendBlocks_same`: in step with a run in which foreign reports are
  harmless goes the run without them.
- Theorem {lit}`expectedReports_decide`: in such a run the tool decides as it does on
  the expected reports alone.
-/

namespace CFU
namespace Tool

open Buffer

variable {waits : ℕ}

/-! ## Expected reports -/

/-- The id of the response to the last of the reports that were sent, the first of
which is the offer. -/
def Setup.responseId (setup : Setup) (sent : ℕ) : Option UInt8 :=
  if sent ≤ 1 then setup.offerResponseId else setup.contentResponseId

def Setup.expects (setup : Setup) (sent : ℕ) (inputReport : List UInt8) : Bool :=
  inputReport.head? == setup.responseId sent

/-- Timeouts stay, and the reports with the id of the response. -/
def Setup.keeps (setup : Setup) (sent : ℕ) : Option (List UInt8) → Bool
  | none => true
  | some inputReport => setup.expects sent inputReport

/-- The script without the reports that are not expected. -/
def Script.expected (script : Script waits) (setup : Setup) : Script waits where
  takes := script.takes
  deliveries sent := (script.deliveries sent).filter (setup.keeps sent.length)
  length_deliveries_le sent :=
    Nat.le_trans (List.length_filter_le _ _) (script.length_deliveries_le sent)

/-! ## Harmless runs -/

/-- What some exchanges come to: how many reports were sent, what the buffer holds,
whether bytes of a foreign report may be among its first six, and the exchanges
without timeouts and foreign reports. -/
structure Watch where
  sent : ℕ
  inputReportBuffer : List UInt8
  foreign : Bool
  exchanges : List Exchange

def Watch.after (setup : Setup) (w : Watch) : Exchange → Watch
  | .sent report taken =>
      { w with sent := w.sent + 1, exchanges := w.exchanges ++ [.sent report taken] }
  | .timedOut => w
  | .received inputReport =>
      if setup.expects w.sent inputReport then
        { w with
          inputReportBuffer := overwrite w.inputReportBuffer inputReport
          foreign := w.foreign && decide (inputReport.length < 6)
          exchanges := w.exchanges ++ [.received inputReport] }
      else
        { w with
          inputReportBuffer := overwrite w.inputReportBuffer inputReport
          foreign := true }

def watch (setup : Setup) (log : List Exchange) : Watch :=
  log.foldl (Watch.after setup) ⟨0, setup.inputReportBuffer, false, []⟩

/-- A response leaves no bytes of a foreign report in the buffer.  A foreign report
arrives behind a block and reads as a response to another block. -/
def Watch.Harmless (setup : Setup) (w : Watch) : Exchange → Prop
  | .received inputReport =>
      let buffer := overwrite w.inputReportBuffer inputReport
      if setup.expects w.sent inputReport then
        w.foreign = true → 6 ≤ inputReport.length
      else
        2 ≤ w.sent ∧ contentResponseStatus buffer = firmwareUpdateSuccess ∧
          contentResponseSequenceNumber buffer ≠ UInt16.ofNat (w.sent - 2)
  | _ => True

instance (setup : Setup) (w : Watch) : DecidablePred (w.Harmless setup)
  | .sent .. => inferInstanceAs (Decidable True)
  | .timedOut => inferInstanceAs (Decidable True)
  | .received inputReport =>
      inferInstanceAs (Decidable (if setup.expects w.sent inputReport then _ else _))

/-- Every exchange is harmless behind those before it. -/
def HarmlessLog (setup : Setup) (log : List Exchange) : Prop :=
  ∀ k, ∀ _ : k < log.length, (watch setup (log.take k)).Harmless setup log[k]

instance (setup : Setup) (log : List Exchange) : Decidable (HarmlessLog setup log) :=
  inferInstanceAs (Decidable (∀ k, ∀ _ : k < log.length, _))

theorem watch_append (setup : Setup) (log : List Exchange) (x : Exchange) :
    watch setup (log ++ [x]) = (watch setup log).after setup x := by
  rw [watch, List.foldl_append]
  rfl

theorem watch_timeouts (setup : Setup) (log : List Exchange) (n : ℕ) :
    watch setup (log ++ List.replicate n .timedOut) = watch setup log := by
  induction n with
  | zero => rw [List.replicate_zero, List.append_nil]
  | succ n ih =>
      rw [List.replicate_succ', ← List.append_assoc, watch_append, ih]
      rfl

/-- What is seen in a harmless run is harmless. -/
theorem HarmlessLog.of_within {setup : Setup} {log final : List Exchange}
    (h : HarmlessLog setup final) {x : Exchange} (hpart : log ++ [x] <+: final) :
    (watch setup log).Harmless setup x := by
  obtain ⟨rest, rfl⟩ := hpart
  have hless : log.length < (log ++ [x] ++ rest).length := by
    simp
  simpa using h log.length hless

/-! ## Two runs in step -/

/-- A run on a script and a run on its expected reports have come equally far; the
buffers agree on what the tool reads of a response unless that is foreign. -/
structure SameSoFar (setup : Setup) (buffer buffer' : List UInt8) (e e' : Logged ScriptState) :
    Prop where
  sent : e'.device.sent = e.device.sent
  pending : e'.device.pending = e.device.pending.filter (setup.keeps e.device.sent.length)
  count : (watch setup e.log).sent = e.device.sent.length
  count' : (watch setup e'.log).sent = e.device.sent.length
  exchanges : (watch setup e'.log).exchanges = (watch setup e.log).exchanges
  inputReportBuffer : (watch setup e.log).inputReportBuffer = buffer
  agrees : (watch setup e.log).foreign = false → buffer'.take 6 = buffer.take 6

section Steps

variable {setup : Setup} {buffer buffer' : List UInt8} {e e' : Logged ScriptState}

/-- Both runs send a report. -/
theorem SameSoFar.setOutputReport (h : SameSoFar setup buffer buffer' e e')
    (script : Script waits) (report : List UInt8) :
    ((script.expected setup).device.logged.setOutputReport report e').1 =
        (script.device.logged.setOutputReport report e).1 ∧
      SameSoFar setup buffer buffer' (script.device.logged.setOutputReport report e).2
        ((script.expected setup).device.logged.setOutputReport report e').2 := by
  obtain ⟨⟨sent, pending⟩, log⟩ := e
  obtain ⟨⟨sent', pending'⟩, log'⟩ := e'
  obtain ⟨hsent, hpending, hcount, hcount', hexchanges, hbuffer, hagrees⟩ := h
  dsimp only at *
  subst hsent
  refine ⟨rfl, rfl, rfl, ?_, ?_, ?_, ?_, ?_⟩
  · simp [script_setOutputReport, watch_append, Watch.after, hcount]
  · simp [script_setOutputReport, watch_append, Watch.after, hcount']
  · simp [script_setOutputReport, watch_append, Watch.after, hexchanges]
    rfl
  · simpa [script_setOutputReport, watch_append, Watch.after] using hbuffer
  · simpa [script_setOutputReport, watch_append, Watch.after] using hagrees

/-- A wait of both runs times out. -/
theorem SameSoFar.timedOut (h : SameSoFar setup buffer buffer' e e')
    (pending : List (Option (List UInt8))) :
    SameSoFar setup buffer buffer' ⟨⟨e.device.sent, pending⟩, e.log ++ [.timedOut]⟩
      ⟨⟨e'.device.sent, pending.filter (setup.keeps e.device.sent.length)⟩,
        e'.log ++ [.timedOut]⟩ where
  sent := h.sent
  pending := rfl
  count := by rw [watch_append]; exact h.count
  count' := by rw [watch_append]; exact h.count'
  exchanges := by rw [watch_append, watch_append]; exact h.exchanges
  inputReportBuffer := by rw [watch_append]; exact h.inputReportBuffer
  agrees := by rw [watch_append]; exact h.agrees

/-- Every further wait of both runs times out, however long each waits. -/
theorem SameSoFar.timeouts (h : SameSoFar setup buffer buffer' e e') (n n' : ℕ) :
    SameSoFar setup buffer buffer' ⟨e.device, e.log ++ List.replicate n .timedOut⟩
      ⟨e'.device, e'.log ++ List.replicate n' .timedOut⟩ where
  sent := h.sent
  pending := h.pending
  count := by rw [watch_timeouts]; exact h.count
  count' := by rw [watch_timeouts]; exact h.count'
  exchanges := by rw [watch_timeouts, watch_timeouts]; exact h.exchanges
  inputReportBuffer := by rw [watch_timeouts]; exact h.inputReportBuffer
  agrees := by rw [watch_timeouts]; exact h.agrees

variable {inputReport : List UInt8}

/-- Behind an expected report both buffers read the same. -/
theorem SameSoFar.take_overwrite (h : SameSoFar setup buffer buffer' e e')
    (hexpects : setup.expects e.device.sent.length inputReport = true)
    (hharmless : (watch setup e.log).Harmless setup (.received inputReport)) :
    (overwrite buffer' inputReport).take 6 = (overwrite buffer inputReport).take 6 := by
  rw [Watch.Harmless, h.count, if_pos hexpects] at hharmless
  cases hforeign : (watch setup e.log).foreign with
  | true =>
      have hlength := hharmless hforeign
      rw [take_overwrite_of_le hlength, take_overwrite_of_le hlength]
  | false => exact take_overwrite_congr (h.agrees hforeign) inputReport

/-- Both runs see an expected report. -/
theorem SameSoFar.received (h : SameSoFar setup buffer buffer' e e')
    (pending : List (Option (List UInt8)))
    (hexpects : setup.expects e.device.sent.length inputReport = true)
    (hharmless : (watch setup e.log).Harmless setup (.received inputReport)) :
    SameSoFar setup (overwrite buffer inputReport) (overwrite buffer' inputReport)
      ⟨⟨e.device.sent, pending⟩, e.log ++ [.received inputReport]⟩
      ⟨⟨e'.device.sent, pending.filter (setup.keeps e.device.sent.length)⟩,
        e'.log ++ [.received inputReport]⟩ := by
  have hafter : (watch setup e.log).after setup (.received inputReport) = _ :=
    if_pos (h.count.symm ▸ hexpects)
  have hafter' : (watch setup e'.log).after setup (.received inputReport) = _ :=
    if_pos (h.count'.symm ▸ hexpects)
  refine ⟨h.sent, rfl, ?_, ?_, ?_, ?_, fun _ => h.take_overwrite hexpects hharmless⟩
  · rw [watch_append, hafter]
    exact h.count
  · rw [watch_append, hafter']
    exact h.count'
  · rw [watch_append, watch_append, hafter, hafter']
    dsimp only
    rw [h.exchanges]
  · rw [watch_append, hafter]
    dsimp only
    rw [h.inputReportBuffer]

/-- The run on the script sees a foreign report, which the other run does not have. -/
theorem SameSoFar.received_foreign (h : SameSoFar setup buffer buffer' e e')
    {pending : List (Option (List UInt8))}
    (hpending : e.device.pending = some inputReport :: pending)
    (hexpects : setup.expects e.device.sent.length inputReport = false) :
    SameSoFar setup (overwrite buffer inputReport) buffer'
      ⟨⟨e.device.sent, pending⟩, e.log ++ [.received inputReport]⟩ e' := by
  have hafter : (watch setup e.log).after setup (.received inputReport) = _ :=
    if_neg (by rw [h.count, hexpects]; exact Bool.false_ne_true)
  refine ⟨h.sent, ?_, ?_, h.count', ?_, ?_, ?_⟩
  · rw [h.pending, hpending, List.filter_cons_of_neg]
    rw [Setup.keeps, hexpects]
    exact Bool.false_ne_true
  · rw [watch_append, hafter]
    exact h.count
  · rw [watch_append, hafter]
    exact h.exchanges
  · rw [watch_append, hafter]
    dsimp only
    rw [h.inputReportBuffer]
  · rw [watch_append, hafter]
    intro hforeign
    cases hforeign

end Steps

/-- An input report that the tool sees while a block is pending is in the log. -/
theorem received_within {D : Type} {device : HidDevice D}
    {e e₁ : Logged D} {inputReport : List UInt8}
    (hwait : device.logged.waitForReadEvent e = (some inputReport, e₁))
    {sequenceNumber : UInt16} {n : ℕ} {buffer : List UInt8} {final : List Exchange}
    (hpart : (awaitContentResponse device.logged sequenceNumber (n + 1) buffer e).2.2.log <+:
      final) :
    e₁.log <+: final := by
  rw [awaitContentResponse_received hwait] at hpart
  cases hanswer : answerOf sequenceNumber (overwrite buffer inputReport) with
  | some ack =>
      rw [hanswer] at hpart
      exact hpart
  | none =>
      rw [hanswer] at hpart
      exact (awaitContentResponse_monotone (logged_respects device) sequenceNumber n
        (overwrite buffer inputReport) e₁).trans hpart

/-- The waits for a response end alike. -/
theorem awaitContentResponse_same {setup : Setup} (script : Script waits) {final : List Exchange}
    (hfinal : HarmlessLog setup final) {sequenceNumber : UInt16} {n n' : ℕ}
    {buffer buffer' : List UInt8} {e e' : Logged ScriptState}
    (h : SameSoFar setup buffer buffer' e e')
    (hsequence : sequenceNumber = UInt16.ofNat (e.device.sent.length - 2))
    (hn : e.device.pending.length ≤ n) (hn' : e.device.pending.length ≤ n')
    (hpart : (awaitContentResponse script.device.logged sequenceNumber n buffer e).2.2.log <+:
      final) :
    let result := awaitContentResponse script.device.logged sequenceNumber n buffer e
    let result' :=
      awaitContentResponse (script.expected setup).device.logged sequenceNumber n' buffer' e'
    result'.1 = result.1 ∧ result.2.2.device.sent = e.device.sent ∧
      SameSoFar setup result.2.1 result'.2.1 result.2.2 result'.2.2 := by
  dsimp only
  obtain ⟨⟨sent, pending⟩, log⟩ := e
  obtain ⟨⟨sent', pending'⟩, log'⟩ := e'
  obtain rfl : sent' = sent := h.sent
  obtain rfl : pending' = pending.filter (setup.keeps sent'.length) := h.pending
  dsimp only at hsequence hn hn'
  induction pending generalizing n n' buffer buffer' log log' with
  | nil =>
      rw [awaitContentResponse_exhausted, List.filter_nil, awaitContentResponse_exhausted]
      exact ⟨rfl, rfl, h.timeouts n n'⟩
  | cons delivery pending ih =>
      obtain ⟨n, rfl⟩ := Nat.exists_eq_add_of_le' (Nat.one_le_of_lt hn)
      obtain ⟨n', rfl⟩ := Nat.exists_eq_add_of_le' (Nat.one_le_of_lt hn')
      rw [List.length_cons] at hn hn'
      have hless := Nat.le_of_succ_le_succ hn
      have hless' := Nat.le_of_succ_le_succ hn'
      cases delivery with
      | none =>
          rw [awaitContentResponse_timedOut (script_timedOut ..)] at hpart ⊢
          rw [List.filter_cons_of_pos rfl, awaitContentResponse_timedOut (script_timedOut ..)]
          exact ih _ _ hless hless' hpart (h.timedOut pending)
      | some inputReport =>
          have hlog := received_within (script_received ..) hpart
          have hharmless := hfinal.of_within hlog
          rw [awaitContentResponse_received (script_received ..)] at hpart ⊢
          cases hexpects : setup.expects sent'.length inputReport with
          | true =>
              have hkept : setup.keeps sent'.length (some inputReport) = true := hexpects
              have hsame := h.take_overwrite hexpects hharmless
              have hnext := h.received pending hexpects hharmless
              rw [List.filter_cons_of_pos hkept,
                awaitContentResponse_received (script_received ..), answerOf_congr hsame]
              cases hanswer : answerOf sequenceNumber (overwrite buffer inputReport) with
              | some ack => exact ⟨rfl, rfl, hnext⟩
              | none =>
                  rw [hanswer] at hpart
                  exact ih _ _ hless hless' hpart hnext
          | false =>
              have hdropped : ¬ setup.keeps sent'.length (some inputReport) = true := by
                rw [Setup.keeps, hexpects]
                exact Bool.false_ne_true
              have hnext := h.received_foreign rfl hexpects
              have hwaiting : answerOf sequenceNumber (overwrite buffer inputReport) = none := by
                rw [Watch.Harmless, h.count, h.inputReportBuffer, hexpects] at hharmless
                rw [answerOf_eq_none_iff, hsequence]
                exact hharmless.2
              rw [hwaiting] at hpart ⊢
              rw [List.filter_cons_of_neg hdropped] at hnext ⊢
              exact ih _ _ hless (Nat.le_succ_of_le hless') hpart hnext

/-! ## One block -/

/-- A block is sent and, when it is taken, the tool waits for the response. -/
def sendAndAwait {D : Type} (device : HidDevice D) (waits : ℕ) (report : List UInt8)
    (sequenceNumber : UInt16) (inputReportBuffer : List UInt8) (d : D) :
    Option Ack × List UInt8 × D :=
  match device.setOutputReport report d with
  | (false, d) => (none, inputReportBuffer, d)
  | (true, d) =>
      Prod.map some id (awaitContentResponse device sequenceNumber waits inputReportBuffer d)

/-- The round of a delivered block. -/
theorem sendBlocks_delivered {D : Type} (device : HidDevice D) (report : HidReportIdInfo)
    (waits : ℕ) (total : UInt32) (blocks : ℕ) {t : Transfer} {stream : InputStream}
    {contentdata : ContentData}
    (hcall : processSrecBin t.stream t.contentdata = .ok (true, stream, contentdata)) (d : D) :
    sendBlocks device report waits total (blocks + 1) t d =
      let t' := t.prepareBlock report total stream contentdata
      match sendAndAwait device waits (t'.outputReport report) t'.contentdata.sequenceNumber
        t'.inputReportBuffer d with
      | (some .acknowledged, inputReportBuffer, d) =>
          sendBlocks device report waits total blocks (t'.advance inputReportBuffer) d
      | (some .waiting, _, d) => (.unfinished, d)
      | (_, _, d) => (.returned false, d) := by
  rw [sendBlocks, hcall]
  dsimp only
  generalize t.prepareBlock report total stream contentdata = t'
  unfold sendAndAwait
  rcases device.setOutputReport (t'.outputReport report) d with ⟨_ | _, d₁⟩
  · rfl
  · dsimp only
    rcases awaitContentResponse device t'.contentdata.sequenceNumber waits t'.inputReportBuffer
      d₁ with ⟨_ | _ | _, buffer, d₂⟩
    · rfl
    · rfl
    · rfl

/-- A block is sent and answered alike. -/
theorem SameSoFar.sendAndAwait {setup : Setup} (script : Script waits) {final : List Exchange}
    (hfinal : HarmlessLog setup final) {buffer buffer' : List UInt8} {e e' : Logged ScriptState}
    (h : SameSoFar setup buffer buffer' e e') (report : List UInt8) {k : ℕ}
    (hsent : e.device.sent.length = k + 1)
    (hpart : (Tool.sendAndAwait script.device.logged waits report (UInt16.ofNat k) buffer
      e).2.2.log <+: final) :
    let result := Tool.sendAndAwait script.device.logged waits report (UInt16.ofNat k) buffer e
    let result' := Tool.sendAndAwait (script.expected setup).device.logged waits report
      (UInt16.ofNat k) buffer' e'
    result'.1 = result.1 ∧ result.2.2.device.sent.length = k + 2 ∧
      SameSoFar setup result.2.1 result'.2.1 result.2.2 result'.2.2 := by
  dsimp only
  obtain ⟨htaken, hstep⟩ := h.setOutputReport script report
  have hcount : (script.device.logged.setOutputReport report e).2.device.sent.length = k + 2 := by
    show (e.device.sent ++ [report]).length = k + 2
    rw [List.length_append, hsent]
    rfl
  have hpending : (script.device.logged.setOutputReport report e).2.device.pending.length ≤
      waits := script.length_deliveries_le _
  unfold Tool.sendAndAwait at hpart ⊢
  generalize script.device.logged.setOutputReport report e = set at *
  generalize (script.expected setup).device.logged.setOutputReport report e' = set' at *
  obtain ⟨taken, e₁⟩ := set
  obtain ⟨taken', e₁'⟩ := set'
  dsimp only at htaken
  subst htaken
  cases taken' with
  | false => exact ⟨rfl, hcount, hstep⟩
  | true =>
      obtain ⟨hack, hkept, hanswered⟩ := awaitContentResponse_same script hfinal hstep
        (by rw [hcount]; rfl) hpending hpending hpart
      exact ⟨congrArg some hack, (congrArg List.length hkept).trans hcount, hanswered⟩

/-- What a block comes to is in the log of the pass. -/
theorem sendAndAwait_within {D : Type} {device : HidDevice D} {report : HidReportIdInfo}
    {waits : ℕ} {total : UInt32} {blocks : ℕ} {t : Transfer} {stream : InputStream}
    {contentdata : ContentData}
    (hcall : processSrecBin t.stream t.contentdata = .ok (true, stream, contentdata))
    {e : Logged D} {final : List Exchange}
    (hpart : (sendBlocks device.logged report waits total (blocks + 1) t e).2.log <+: final) :
    let t' := t.prepareBlock report total stream contentdata
    (sendAndAwait device.logged waits (t'.outputReport report) t'.contentdata.sequenceNumber
      t'.inputReportBuffer e).2.2.log <+: final := by
  rw [sendBlocks_delivered device.logged report waits total blocks hcall] at hpart
  dsimp only at hpart ⊢
  generalize t.prepareBlock report total stream contentdata = t' at hpart ⊢
  generalize sendAndAwait device.logged waits (t'.outputReport report)
    t'.contentdata.sequenceNumber t'.inputReportBuffer e = result at hpart ⊢
  rcases result with ⟨_ | _ | _ | _, buffer, e₂⟩
  · exact hpart
  · exact (sendBlocks_monotone (logged_respects device) report waits total blocks
      (t'.advance buffer) e₂).trans hpart
  · exact hpart
  · exact hpart

/-! ## The passes over the file -/

/-- Beside a run in which foreign reports are harmless, the sending pass on the
expected reports ends alike. -/
theorem sendBlocks_same {setup : Setup} (script : Script waits) {final : List Exchange}
    (hfinal : HarmlessLog setup final) (report : HidReportIdInfo) (total : UInt32)
    {blocks k : ℕ} {t : Transfer} {buffer' : List UInt8} {e e' : Logged ScriptState}
    (h : SameSoFar setup t.inputReportBuffer buffer' e e')
    (hsequence : t.contentdata.sequenceNumber = UInt16.ofNat k)
    (hsent : e.device.sent.length = k + 1)
    (hpart : (sendBlocks script.device.logged report waits total blocks t e).2.log <+: final) :
    let result := sendBlocks script.device.logged report waits total blocks t e
    let result' := sendBlocks (script.expected setup).device.logged report waits total blocks
      { t with inputReportBuffer := buffer' } e'
    result'.1 = result.1 ∧
      (watch setup result'.2.log).exchanges = (watch setup result.2.log).exchanges := by
  dsimp only
  induction blocks generalizing k t buffer' e e' with
  | zero => exact ⟨rfl, h.exchanges⟩
  | succ blocks ih =>
      rcases hcall : processSrecBin t.stream t.contentdata with fault |
        ⟨_ | _, stream, contentdata⟩
      · rw [sendBlocks, sendBlocks, hcall]
        exact ⟨rfl, h.exchanges⟩
      · rw [sendBlocks, sendBlocks, hcall]
        exact ⟨rfl, h.exchanges⟩
      · obtain ⟨t', ht⟩ : ∃ t', t.prepareBlock report total stream contentdata = t' := ⟨_, rfl⟩
        have hsequence' : t'.contentdata.sequenceNumber = UInt16.ofNat k := by
          rw [← hsequence, ← processSrecBin_sequenceNumber hcall, ← ht,
            Transfer.prepareBlock_sequenceNumber]
        have hbuffer : t'.inputReportBuffer = t.inputReportBuffer := by simp [← ht]
        have hwithin := sendAndAwait_within hcall hpart
        have hround' := sendBlocks_delivered (script.expected setup).device.logged report waits
          total blocks (t := { t with inputReportBuffer := buffer' }) hcall e'
        have ht' : { t with inputReportBuffer := buffer' }.prepareBlock report total stream
            contentdata = { t' with inputReportBuffer := buffer' } := by
          rw [← ht]
          rfl
        rw [sendBlocks_delivered _ report waits total blocks hcall] at hpart ⊢
        rw [hround']
        dsimp only at hwithin hpart ⊢
        rw [ht, hsequence', hbuffer] at hwithin hpart
        rw [ht, ht', hsequence', hbuffer]
        obtain ⟨hack, hcount, hanswered⟩ :=
          h.sendAndAwait script hfinal (t'.outputReport report) hsent hwithin
        have houtput : { t' with inputReportBuffer := buffer' }.outputReport report =
            t'.outputReport report := rfl
        rw [houtput]
        generalize sendAndAwait script.device.logged waits (t'.outputReport report)
          (UInt16.ofNat k) t.inputReportBuffer e = result at *
        generalize sendAndAwait (script.expected setup).device.logged waits
          (t'.outputReport report) (UInt16.ofNat k) buffer' e' = result' at *
        obtain ⟨ack, buffer, e₂⟩ := result
        obtain ⟨ack', buffer'', e₂'⟩ := result'
        dsimp only at hack
        subst hack
        rcases ack' with _ | _ | _ | _
        · exact ⟨rfl, hanswered.exchanges⟩
        · have hnext : (t'.advance buffer).contentdata.sequenceNumber = UInt16.ofNat (k + 1) := by
            show t'.contentdata.sequenceNumber + 1 = _
            rw [hsequence', UInt16.ofNat_add]
            rfl
          exact ih (t := t'.advance buffer) hanswered hnext hcount hpart
        · exact ⟨rfl, hanswered.exchanges⟩
        · exact ⟨rfl, hanswered.exchanges⟩

theorem sendPayload_monotone {D : Type} {device : HidDevice D} {R : D → D → Prop}
    (hR : device.Respects R) (report : HidReportIdInfo) (waits : ℕ)
    (srecBinFile inputReportBuffer : List UInt8) (d : D) :
    R d (sendPayload device report waits srecBinFile inputReportBuffer d).2 := by
  unfold sendPayload
  dsimp only
  rcases countContentPackets (roundsFor srecBinFile) (.openFile srecBinFile)
    { ContentData.zero with flags := firmwareUpdateFlagFirstBlock } 0 with
    outcome | ⟨total, stream, contentdata⟩
  · exact hR.refl d
  · exact sendBlocks_monotone hR report waits total _ _ d

theorem sendOffer_monotone {D : Type} {device : HidDevice D} {R : D → D → Prop}
    (hR : device.Respects R) (report inputReportBuffer : List UInt8) (d : D) :
    R d (sendOffer device report inputReportBuffer d).2.2 := by
  have hset := hR.setOutputReport report d
  have hwait := hR.waitForReadEvent (device.setOutputReport report d).2
  unfold sendOffer
  dsimp only
  generalize device.waitForReadEvent (device.setOutputReport report d).2 = answer at hwait
  rcases answer with ⟨_ | inputReport, d'⟩
  · exact hR.trans hset hwait
  · exact hR.trans hset hwait

theorem offerAndSend_monotone {D : Type} {device : HidDevice D} {R : D → D → Prop}
    (hR : device.Respects R) (protocolSettings : CfuHidDeviceConfiguration) (waits : ℕ)
    (offerFile srecBinFile : List UInt8) (forceIgnoreVersion forceReset : UInt8)
    (inputReportBuffer : List UInt8) (d : D) :
    R d (offerAndSend device protocolSettings waits offerFile srecBinFile forceIgnoreVersion
      forceReset inputReportBuffer d).2 := by
  unfold offerAndSend
  dsimp only
  generalize (offerReportBuffer protocolSettings.fwUpdateOffer.id forceReset forceIgnoreVersion
    offerFile).take (protocolSettings.fwUpdateOffer.size.toNat + 1) = report
  have hoffer := sendOffer_monotone hR report inputReportBuffer d
  generalize sendOffer device report inputReportBuffer d = answer at hoffer
  rcases answer with ⟨_ | _, buffer, d'⟩
  · exact hoffer
  · exact hR.trans hoffer (sendPayload_monotone hR _ _ _ _ _)

/-- Both passes over the file end alike. -/
theorem sendPayload_same {setup : Setup} (script : Script waits) {final : List Exchange}
    (hfinal : HarmlessLog setup final) (report : HidReportIdInfo) (srecBinFile : List UInt8)
    {buffer buffer' : List UInt8} {e e' : Logged ScriptState}
    (h : SameSoFar setup buffer buffer' e e') (hsent : e.device.sent.length = 1)
    (hpart : (sendPayload script.device.logged report waits srecBinFile buffer e).2.log <+:
      final) :
    let result := sendPayload script.device.logged report waits srecBinFile buffer e
    let result' :=
      sendPayload (script.expected setup).device.logged report waits srecBinFile buffer' e'
    result'.1 = result.1 ∧
      (watch setup result'.2.log).exchanges = (watch setup result.2.log).exchanges := by
  dsimp only
  unfold sendPayload at hpart ⊢
  dsimp only at hpart ⊢
  rcases hcount : countContentPackets (roundsFor srecBinFile) (.openFile srecBinFile)
    { ContentData.zero with flags := firmwareUpdateFlagFirstBlock } 0 with
    outcome | ⟨total, stream, contentdata⟩
  · exact ⟨rfl, h.exchanges⟩
  · rw [hcount] at hpart
    have hsequence : contentdata.sequenceNumber = UInt16.ofNat 0 :=
      countContentPackets_sequenceNumber hcount
    exact sendBlocks_same script hfinal report total
      (t := ⟨stream.clear.seekBeginning, contentdata, 0, 0, buffer⟩) h hsequence hsent hpart

/-! ## The offer -/

/-- The offer is answered alike. -/
theorem sendOffer_same {setup : Setup} (script : Script waits) {final : List Exchange}
    (hfinal : HarmlessLog setup final) (report : List UInt8) {buffer : List UInt8}
    {e e' : Logged ScriptState} (h : SameSoFar setup buffer buffer e e')
    (hsent : e.device.sent = [])
    (hpart : (sendOffer script.device.logged report buffer e).2.2.log <+: final) :
    let result := sendOffer script.device.logged report buffer e
    let result' := sendOffer (script.expected setup).device.logged report buffer e'
    result'.1 = result.1 ∧ result.2.2.device.sent.length = 1 ∧
      SameSoFar setup result.2.1 result'.2.1 result.2.2 result'.2.2 := by
  dsimp only
  obtain ⟨-, hstep⟩ := h.setOutputReport script report
  have hcount : (script.device.logged.setOutputReport report e).2.device.sent.length = 1 := by
    show (e.device.sent ++ [report]).length = 1
    rw [hsent]
    rfl
  unfold sendOffer at hpart ⊢
  dsimp only at hpart ⊢
  generalize (script.device.logged.setOutputReport report e).2 = e₁ at *
  generalize ((script.expected setup).device.logged.setOutputReport report e').2 = e₁' at *
  obtain ⟨⟨sent, pending⟩, log⟩ := e₁
  obtain ⟨⟨sent', pending'⟩, log'⟩ := e₁'
  obtain rfl : sent' = sent := hstep.sent
  obtain rfl : pending' = pending.filter (setup.keeps sent'.length) := hstep.pending
  dsimp only at hcount
  cases pending with
  | nil =>
      rw [script_exhausted, List.filter_nil, script_exhausted]
      exact ⟨rfl, hcount, hstep.timedOut []⟩
  | cons delivery pending =>
      cases delivery with
      | none =>
          rw [script_timedOut, List.filter_cons_of_pos rfl, script_timedOut]
          exact ⟨rfl, hcount, hstep.timedOut pending⟩
      | some inputReport =>
          rw [script_received] at hpart ⊢
          have hharmless := hfinal.of_within hpart
          cases hexpects : setup.expects sent'.length inputReport with
          | true =>
              have hkept : setup.keeps sent'.length (some inputReport) = true := hexpects
              rw [List.filter_cons_of_pos hkept, script_received]
              exact ⟨rfl, hcount, hstep.received pending hexpects hharmless⟩
          | false =>
              -- behind the offer no foreign report is harmless
              rw [Watch.Harmless, hstep.count, hexpects, hcount] at hharmless
              exact absurd hharmless.1 (by decide)

/-- The offer and the payload behind it are answered alike. -/
theorem offerAndSend_same {setup : Setup} (script : Script waits) {final : List Exchange}
    (hfinal : HarmlessLog setup final) (config : CfuHidDeviceConfiguration)
    (offerFile srecBinFile : List UInt8) (forceIgnoreVersion forceReset : UInt8)
    {buffer : List UInt8} {e e' : Logged ScriptState} (h : SameSoFar setup buffer buffer e e')
    (hsent : e.device.sent = [])
    (hpart : (offerAndSend script.device.logged config waits offerFile srecBinFile
      forceIgnoreVersion forceReset buffer e).2.log <+: final) :
    let result := offerAndSend script.device.logged config waits offerFile srecBinFile
      forceIgnoreVersion forceReset buffer e
    let result' := offerAndSend (script.expected setup).device.logged config waits offerFile
      srecBinFile forceIgnoreVersion forceReset buffer e'
    result'.1 = result.1 ∧
      (watch setup result'.2.log).exchanges = (watch setup result.2.log).exchanges := by
  dsimp only
  unfold offerAndSend at hpart ⊢
  dsimp only at hpart ⊢
  generalize (offerReportBuffer config.fwUpdateOffer.id forceReset forceIgnoreVersion
    offerFile).take (config.fwUpdateOffer.size.toNat + 1) = report at hpart ⊢
  rcases hoffer : sendOffer script.device.logged report buffer e with ⟨accepted, buffer₁, e₁⟩
  rcases hoffer' : sendOffer (script.expected setup).device.logged report buffer e' with
    ⟨accepted', buffer₁', e₁'⟩
  rw [hoffer] at hpart
  have hwithin : e₁.log <+: final := by
    cases accepted with
    | false => exact hpart
    | true =>
        exact (sendPayload_monotone (logged_respects script.device) config.fwUpdateContent waits
          srecBinFile buffer₁ e₁).trans hpart
  have hsame := sendOffer_same script hfinal report h hsent (by rw [hoffer]; exact hwithin)
  rw [hoffer, hoffer'] at hsame
  obtain ⟨haccepted, hcount, hanswered⟩ := hsame
  dsimp only at haccepted hcount hanswered
  subst haccepted
  cases accepted' with
  | false => exact ⟨rfl, hanswered.exchanges⟩
  | true => exact sendPayload_same script hfinal _ srecBinFile hanswered hcount hpart

/-- The start of both runs. -/
theorem sameSoFar_start (setup : Setup) :
    SameSoFar setup setup.inputReportBuffer setup.inputReportBuffer ⟨⟨[], []⟩, []⟩
      ⟨⟨[], []⟩, []⟩ where
  sent := rfl
  pending := rfl
  count := rfl
  count' := rfl
  exchanges := rfl
  inputReportBuffer := rfl
  agrees _ := rfl

/-- A device that takes every report, with what it delivers behind the offer and
behind a block. -/
def shortScript (behindOffer behindBlock : List (List UInt8)) :
    Script (behindOffer.length + behindBlock.length) where
  takes _ := true
  deliveries
    | [_] => behindOffer.map some
    | _ => behindBlock.map some
  length_deliveries_le sent := by
    split
    · rw [List.length_map]
      omega
    · rw [List.length_map]
      omega

/-- An input report with a zero in all fields but the id and the two that are read as
the status of an offer and as the sequence number of a block. -/
def shortReport (id offerStatus sequenceNumber : UInt8) : List UInt8 :=
  [id, sequenceNumber, 0, 0, 0, 0, 0, 0, 0, 0, 0, 0, 0, offerStatus, 0, 0, 0]

/-- A payload file with one record. -/
def shortPayload : List UInt8 := [0, 0, 0, 0, 1, 0xAA]

end Tool
end CFU
