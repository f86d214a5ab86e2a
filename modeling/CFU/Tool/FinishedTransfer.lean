import CFU.Tool.Exchange

/-!
# CFU tool - what success of the tool means

The verdict of the tool compares a counter of the counting pass with a counter of
the sending pass.  When the passes find records, the counters only meet behind a
block that was sent with the flag of the last block and acknowledged.  When they
find none, the quotient of the counters is not a number and counts as complete.
And the tool takes any input report for the acknowledgement of a block behind which
the buffer shows success and the number of the block, whatever its id is and
however few of these bytes are its own.

Main results:

- Theorem {lit}`fwUpdateOfferSrec_prepared`: once its handles, report ids and files are
  there, the tool offers the image and sends it.
- Theorem {lit}`genuineFrom_rounds`: every block was answered by the device exactly when
  no other report was taken for an answer.
- Theorem {lit}`success_means_finished_iff`: success means a finished transfer exactly
  when the parser delivers a block of the payload file and no other report was taken
  for an answer.
-/

namespace CFU
namespace Tool

open Buffer

variable {D : Type}

/-! ## Getting past the offer -/

/-- The tool has its handles, the report ids and both files. -/
structure Prepared (setup : Setup) (protocolSettings : CfuHidDeviceConfiguration)
    (offerPath srecBinPath : Option (List UInt8)) (config : CfuHidDeviceConfiguration)
    (offerFile srecBinFile : List UInt8) : Prop where
  readHandles : (!setup.readEvent || !setup.deviceRead) = false
  populated : populateReportIds protocolSettings setup = some config
  writeHandles : (!setup.deviceWrite || !setup.readThread) = false
  offer : offerPath = some offerFile
  payload : srecBinPath = some srecBinFile

/-- The bytes of the offer that the tool passes to {lit}`SetOutputReport`. -/
def offerOutputReport (config : CfuHidDeviceConfiguration)
    (forceReset forceIgnoreVersion : UInt8) (offerFile : List UInt8) : List UInt8 :=
  (offerReportBuffer config.fwUpdateOffer.id forceReset forceIgnoreVersion offerFile).take
    (config.fwUpdateOffer.size.toNat + 1)

/-- The first input report behind the offer reads as an accepted offer. -/
structure OfferAccepted (device : HidDevice D) (offerReport inputReportBuffer : List UInt8)
    (d : D) (inputReport : List UInt8) : Prop where
  received :
    (device.waitForReadEvent (device.setOutputReport offerReport d).2).1 = some inputReport
  accepted : offerAccepted (offerResponseStatus (overwrite inputReportBuffer inputReport)) = true

section Offer

variable {setup : Setup} {protocolSettings : CfuHidDeviceConfiguration}
  {offerPath srecBinPath : Option (List UInt8)}

/-- With everything at hand the tool offers the image and sends it. -/
theorem fwUpdateOfferSrec_prepared {config : CfuHidDeviceConfiguration}
    {offerFile srecBinFile : List UInt8}
    (h : Prepared setup protocolSettings offerPath srecBinPath config offerFile srecBinFile)
    (device : HidDevice D) (waits : ℕ) (forceIgnoreVersion forceReset : UInt8) (d : D) :
    fwUpdateOfferSrec device setup waits protocolSettings offerPath srecBinPath
        forceIgnoreVersion forceReset d =
      offerAndSend device config waits offerFile srecBinFile forceIgnoreVersion forceReset
        setup.inputReportBuffer d := by
  rw [fwUpdateOfferSrec, h.readHandles, if_neg Bool.false_ne_true, h.populated]
  dsimp only
  rw [h.writeHandles, if_neg Bool.false_ne_true, h.offer, h.payload]

/-- Otherwise it fails. -/
theorem fwUpdateOfferSrec_not_prepared
    (h : ∀ config offerFile srecBinFile,
      ¬ Prepared setup protocolSettings offerPath srecBinPath config offerFile srecBinFile)
    (device : HidDevice D) (waits : ℕ) (forceIgnoreVersion forceReset : UInt8) (d : D) :
    fwUpdateOfferSrec device setup waits protocolSettings offerPath srecBinPath
      forceIgnoreVersion forceReset d = (.returned false, d) := by
  unfold fwUpdateOfferSrec
  cases hread : (!setup.readEvent || !setup.deviceRead) with
  | true => rfl
  | false =>
      rw [if_neg Bool.false_ne_true]
      cases hconfig : populateReportIds protocolSettings setup with
      | none => rfl
      | some config =>
          dsimp only
          cases hwrite : (!setup.deviceWrite || !setup.readThread) with
          | true => rfl
          | false =>
              rw [if_neg Bool.false_ne_true]
              cases offerPath with
              | none => rfl
              | some offerFile =>
                  cases srecBinPath with
                  | none => rfl
                  | some srecBinFile =>
                      exact absurd ⟨hread, hconfig, hwrite, rfl, rfl⟩
                        (h config offerFile srecBinFile)

end Offer

section Payload

variable {device : HidDevice D} {config : CfuHidDeviceConfiguration}
  {offerFile : List UInt8} {forceIgnoreVersion forceReset : UInt8}
  {inputReportBuffer : List UInt8} {d : D}

/-- Behind an accepted offer the tool sends the payload. -/
theorem offerAndSend_accepted {inputReport : List UInt8}
    (h : OfferAccepted device (offerOutputReport config forceReset forceIgnoreVersion offerFile)
      inputReportBuffer d inputReport) (waits : ℕ) (srecBinFile : List UInt8) :
    ∃ taken d',
      offerAndSend device.logged config waits offerFile srecBinFile forceIgnoreVersion forceReset
          inputReportBuffer ⟨d, []⟩ =
        sendPayload device.logged config.fwUpdateContent waits srecBinFile
          (overwrite inputReportBuffer inputReport)
          ⟨d', [.sent (offerOutputReport config forceReset forceIgnoreVersion offerFile) taken,
            .received inputReport]⟩ := by
  obtain ⟨hreceived, haccepted⟩ := h
  generalize hreport : offerOutputReport config forceReset forceIgnoreVersion offerFile = report
    at hreceived
  rcases hsent : device.setOutputReport report d with ⟨taken, d₁⟩
  rcases hwait : device.waitForReadEvent d₁ with ⟨received, d₂⟩
  rw [hsent, hwait] at hreceived
  dsimp only at hreceived
  subst hreceived
  have hlogged : device.logged.setOutputReport report ⟨d, []⟩ =
      (taken, ⟨d₁, [.sent report taken]⟩) :=
    logged_setOutputReport (e := ⟨d, []⟩) hsent
  have hloggedWait : device.logged.waitForReadEvent ⟨d₁, [.sent report taken]⟩ =
      (some inputReport, ⟨d₂, [.sent report taken, .received inputReport]⟩) :=
    logged_received (e := ⟨d₁, [.sent report taken]⟩) hwait
  refine ⟨taken, d₂, ?_⟩
  unfold offerAndSend sendOffer
  dsimp only
  rw [← offerOutputReport, hreport, hlogged]
  dsimp only
  rw [hloggedWait]
  dsimp only
  rw [haccepted]

/-- Otherwise the tool fails. -/
theorem offerAndSend_not_accepted
    (h : ∀ inputReport,
      ¬ OfferAccepted device (offerOutputReport config forceReset forceIgnoreVersion offerFile)
        inputReportBuffer d inputReport) (waits : ℕ) (srecBinFile : List UInt8) :
    (offerAndSend device config waits offerFile srecBinFile forceIgnoreVersion forceReset
      inputReportBuffer d).1 = .returned false := by
  unfold offerAndSend sendOffer
  dsimp only
  rw [← offerOutputReport]
  rcases hwait : device.waitForReadEvent (device.setOutputReport
    (offerOutputReport config forceReset forceIgnoreVersion offerFile) d).2 with
    ⟨_ | inputReport, d'⟩
  · rfl
  · dsimp only
    cases haccepted :
        offerAccepted (offerResponseStatus (overwrite inputReportBuffer inputReport)) with
    | false => rfl
    | true => exact absurd ⟨congrArg Prod.fst hwait, haccepted⟩ (h inputReport)

end Payload

/-! ## Finished transfers -/

/-- Nothing is sent while the tool waits, and the input report that ends the wait is a
content response to block {lit}`k`: it has the id of these responses, and the status and
the sequence number are its own. -/
structure Round.Answered (round : Round) (contentResponseId : Option UInt8) (k : ℕ) : Prop where
  sequenceNumber : round.contentdata.sequenceNumber = UInt16.ofNat k
  waiting : ∀ e ∈ round.waited, e.isSent = false
  id : round.answer.head? = contentResponseId
  response : IsResponse (UInt16.ofNat k) round.answer

/-- Every round from block {lit}`k` on is answered. -/
def AllAnswered (contentResponseId : Option UInt8) : ℕ → List Round → Prop
  | _, [] => True
  | k, round :: rounds =>
      round.Answered contentResponseId k ∧ AllAnswered contentResponseId (k + 1) rounds

theorem AllAnswered.last {contentResponseId : Option UInt8} {k : ℕ} {rounds : List Round}
    {last : Round} (h : AllAnswered contentResponseId k (rounds ++ [last])) :
    ∃ j, last.Answered contentResponseId j := by
  induction rounds generalizing k with
  | nil => exact ⟨k, h.1⟩
  | cons round rounds ih => exact ih h.2

/-- Behind the offer and its response at least one block was sent, every block was
answered, and the last one carries the flag of the last block. -/
def FinishedTransfer (setup : Setup) (report : HidReportIdInfo) (log : List Exchange) : Prop :=
  ∃ offer taken response rounds last,
    log = [.sent offer taken, .received response] ++
      (rounds ++ [last]).flatMap (Round.exchanges report) ∧
    AllAnswered setup.contentResponseId 0 (rounds ++ [last]) ∧
    last.contentdata.flags &&& firmwareUpdateFlagLastBlock ≠ 0

/-! ## Reports that are taken for answers -/

def sentCount (log : List Exchange) : ℕ :=
  log.countP Exchange.isSent

/-- Behind these exchanges, an input report that is taken for the answer to the pending
block is a content response of full size.  The first report that is sent is the offer, the
next one is block 0. -/
def Exchange.Genuine (setup : Setup) (before : List Exchange) : Exchange → Prop
  | .received inputReport =>
      let buffer := overwrite (bufferAfter setup.inputReportBuffer before) inputReport
      2 ≤ sentCount before → contentResponseStatus buffer = firmwareUpdateSuccess →
        contentResponseSequenceNumber buffer = UInt16.ofNat (sentCount before - 2) →
          inputReport.head? = setup.contentResponseId ∧ 6 ≤ inputReport.length
  | _ => True

/-- All further exchanges are so. -/
def GenuineFrom (setup : Setup) : List Exchange → List Exchange → Prop
  | _, [] => True
  | before, e :: log => e.Genuine setup before ∧ GenuineFrom setup (before ++ [e]) log

/-- No input report but content responses of full size is taken for an answer to a block. -/
def GenuineLog (setup : Setup) (log : List Exchange) : Prop :=
  GenuineFrom setup [] log

instance (setup : Setup) (before : List Exchange) (e : Exchange) :
    Decidable (e.Genuine setup before) :=
  match e with
  | .sent .. => inferInstanceAs (Decidable True)
  | .timedOut => inferInstanceAs (Decidable True)
  | .received _ => inferInstanceAs (Decidable (_ → _ → _ → _ ∧ _))

instance GenuineFrom.decidable (setup : Setup) :
    ∀ before log, Decidable (GenuineFrom setup before log)
  | _, [] => inferInstanceAs (Decidable True)
  | before, e :: log =>
      have := GenuineFrom.decidable setup (before ++ [e]) log
      inferInstanceAs (Decidable (e.Genuine setup before ∧ _))

instance (setup : Setup) (log : List Exchange) : Decidable (GenuineLog setup log) :=
  GenuineFrom.decidable setup [] log

section Genuine

variable {setup : Setup} {before : List Exchange} {report : HidReportIdInfo} {round : Round}
  {k : ℕ}

theorem sentCount_append (log log' : List Exchange) :
    sentCount (log ++ log') = sentCount log + sentCount log' :=
  List.countP_append

theorem sentCount_eq_zero {log : List Exchange} (h : ∀ e ∈ log, e.isSent = false) :
    sentCount log = 0 := by
  rw [sentCount, List.countP_eq_zero]
  intro e he
  rw [h e he]
  exact Bool.false_ne_true

theorem bufferAfter_append (inputReportBuffer : List UInt8) (log log' : List Exchange) :
    bufferAfter inputReportBuffer (log ++ log') =
      bufferAfter (bufferAfter inputReportBuffer log) log' :=
  List.foldl_append

theorem genuineFrom_append (log log' : List Exchange) :
    GenuineFrom setup before (log ++ log') ↔
      GenuineFrom setup before log ∧ GenuineFrom setup (before ++ log) log' := by
  induction log generalizing before with
  | nil => simp [GenuineFrom]
  | cons e log ih =>
      rw [List.cons_append, GenuineFrom, GenuineFrom, ih, List.append_assoc, and_assoc]
      rfl

/-- A report that keeps the tool waiting is not taken for an answer. -/
theorem genuineFrom_waited {waited : List Exchange} (hcount : sentCount before = k + 2)
    (h : KeepsWaiting (UInt16.ofNat k) (bufferAfter setup.inputReportBuffer before) waited) :
    GenuineFrom setup before waited := by
  induction waited generalizing before with
  | nil => trivial
  | cons e waited ih =>
      cases e with
      | sent => exact h.elim
      | timedOut =>
          refine ⟨trivial, ih ?_ ?_⟩
          · rw [sentCount_append, hcount]
            rfl
          · rw [bufferAfter_append]
            exact h
      | received inputReport =>
          refine ⟨?_, ih ?_ ?_⟩
          · intro _ _ hsequence
            have hnumber : sentCount before - 2 = k := by omega
            rw [hnumber] at hsequence
            exact absurd hsequence (answerOf_eq_none_iff.mp h.1).2
          · rw [sentCount_append, hcount]
            rfl
          · rw [bufferAfter_append]
            exact h.2

/-- An acknowledged round is answered when the report that ended it is a content response of
full size. -/
theorem Round.Acknowledged.answered_iff {inputReportBuffer : List UInt8}
    (h : round.Acknowledged k inputReportBuffer) {contentResponseId : Option UInt8} :
    round.Answered contentResponseId k ↔
      round.answer.head? = contentResponseId ∧ 6 ≤ round.answer.length := by
  constructor
  · intro hanswered
    exact ⟨hanswered.id, hanswered.response.size⟩
  · rintro ⟨hid, hsize⟩
    have hread := h.acknowledged
    rw [Round.bufferAfter, bufferAfter_append] at hread
    exact ⟨h.sequenceNumber, h.waiting.not_isSent, hid, isResponse_of_acknowledged hsize hread⟩

/-- What is to be known of an acknowledged round is which report ended it. -/
theorem genuineFrom_round (hcount : sentCount before = k + 1)
    (h : round.Acknowledged k (bufferAfter setup.inputReportBuffer before)) :
    GenuineFrom setup before (round.exchanges report) ↔
      round.Answered setup.contentResponseId k := by
  obtain ⟨sent, hsent⟩ : ∃ sent, round.exchanges report =
      .sent sent true :: (round.waited ++ [.received round.answer]) := ⟨_, rfl⟩
  have hpending : sentCount (before ++ [.sent sent true]) = k + 2 := by
    rw [sentCount_append, hcount]
    rfl
  have hbuffer : bufferAfter setup.inputReportBuffer (before ++ [.sent sent true]) =
      bufferAfter setup.inputReportBuffer before := by
    rw [bufferAfter_append]
    rfl
  have hwaited : GenuineFrom setup (before ++ [.sent sent true]) round.waited := by
    apply genuineFrom_waited hpending
    rw [hbuffer]
    exact h.waiting
  have hwaiting := sentCount_eq_zero h.waiting.not_isSent
  have hread := h.acknowledged
  rw [Round.bufferAfter, bufferAfter_append] at hread
  obtain ⟨hstatus, hsequence⟩ := answerOf_eq_acknowledged_iff.mp hread
  rw [hsent, GenuineFrom, genuineFrom_append, h.answered_iff]
  generalize hbefore : before ++ [.sent sent true] = before' at hpending hbuffer hwaited
  have hnumber : sentCount (before' ++ round.waited) = k + 2 := by
    rw [sentCount_append, hpending, hwaiting]
  have hnow : bufferAfter setup.inputReportBuffer (before' ++ round.waited) =
      bufferAfter (bufferAfter setup.inputReportBuffer before) round.waited := by
    rw [bufferAfter_append, hbuffer]
  constructor
  · rintro ⟨-, -, hgenuine, -⟩
    apply hgenuine
    · omega
    · rw [hnow]
      exact hstatus
    · rw [hnow, hnumber]
      exact hsequence
  · intro hresponse
    exact ⟨trivial, hwaited, fun _ _ _ => hresponse, trivial⟩

/-- Every block was answered by the device exactly when no other report was taken for an
answer. -/
theorem genuineFrom_rounds {rounds : List Round} (hcount : sentCount before = k + 1)
    (h : AllAcknowledged k (bufferAfter setup.inputReportBuffer before) rounds) :
    GenuineFrom setup before (rounds.flatMap (Round.exchanges report)) ↔
      AllAnswered setup.contentResponseId k rounds := by
  induction rounds generalizing before k with
  | nil => exact Iff.rfl
  | cons round rounds ih =>
      obtain ⟨hround, hrounds⟩ := h
      have hsent : sentCount (round.exchanges report) = 1 := by
        have hwaiting := sentCount_eq_zero hround.waiting.not_isSent
        rw [sentCount] at hwaiting
        rw [sentCount, Round.exchanges, List.countP_cons_of_pos rfl, List.countP_append, hwaiting]
        rfl
      have hcount' : sentCount (before ++ round.exchanges report) = k + 1 + 1 := by
        rw [sentCount_append, hcount, hsent]
      have hbuffer : bufferAfter setup.inputReportBuffer (before ++ round.exchanges report) =
          round.bufferAfter (bufferAfter setup.inputReportBuffer before) :=
        bufferAfter_append _ _ _
      rw [← hbuffer] at hrounds
      rw [List.flatMap_cons, genuineFrom_append, genuineFrom_round hcount hround,
        ih hcount' hrounds, AllAnswered]

end Genuine

/-! ## Rounds in a log -/

/-- Behind a block that was sent, the wait goes on until the next report is sent. -/
theorem takeWhile_wait (report : HidReportIdInfo) {round : Round}
    (hwaiting : ∀ e ∈ round.waited, e.isSent = false) (rounds : List Round) :
    (round.waited ++ [Exchange.received round.answer] ++
        rounds.flatMap (Round.exchanges report)).takeWhile (fun e => !e.isSent) =
      round.waited ++ [Exchange.received round.answer] := by
  have hnext : (rounds.flatMap (Round.exchanges report)).takeWhile (fun e => !e.isSent) = [] := by
    cases rounds with
    | nil => rfl
    | cons round rounds => rfl
  rw [List.takeWhile_append_of_pos, hnext, List.append_nil]
  intro e he
  rw [List.mem_append, List.mem_singleton] at he
  rcases he with he | rfl
  · rw [hwaiting e he]
    rfl
  · rfl

/-- Where the waits of a log end does not depend on how it is divided into rounds. -/
theorem AllAnswered.of_sameExchanges {contentResponseId : Option UInt8} {k : ℕ}
    {report : HidReportIdInfo} {inputReportBuffer : List UInt8} {rounds rounds' : List Round}
    (h : AllAnswered contentResponseId k rounds)
    (h' : AllAcknowledged k inputReportBuffer rounds')
    (hsame : rounds.flatMap (Round.exchanges report) =
      rounds'.flatMap (Round.exchanges report)) : AllAnswered contentResponseId k rounds' := by
  induction rounds' generalizing k inputReportBuffer rounds with
  | nil => trivial
  | cons round' rounds' ih =>
      cases rounds with
      | nil => cases hsame
      | cons round rounds =>
          obtain ⟨hround, hrounds⟩ := h
          obtain ⟨hround', hrounds'⟩ := h'
          rw [List.flatMap_cons, List.flatMap_cons, Round.exchanges, Round.exchanges,
            List.cons_append, List.cons_append] at hsame
          have htail := (List.cons.inj hsame).2
          have hwait : round.waited ++ [Exchange.received round.answer] =
              round'.waited ++ [Exchange.received round'.answer] := by
            rw [← takeWhile_wait report hround.waiting rounds,
              ← takeWhile_wait report hround'.waiting.not_isSent rounds', htail]
          rw [hwait] at htail
          obtain ⟨-, hlast⟩ := List.append_inj' hwait rfl
          have hanswer : round.answer = round'.answer := by
            simpa using hlast
          refine ⟨⟨hround'.sequenceNumber, hround'.waiting.not_isSent, ?_, ?_⟩,
            ih hrounds hrounds' (List.append_cancel_left htail)⟩
          · rw [← hanswer]
            exact hround.id
          · rw [← hanswer]
            exact hround.response

/-- The rounds of a transfer only depend on the size of a content report. -/
theorem exchanges_congr {report report' : HidReportIdInfo} (h : report.size = report'.size) :
    Round.exchanges report = Round.exchanges report' := by
  funext round
  rw [Round.exchanges, Round.exchanges, h]

/-- The report ids that are found leave the sizes of the settings alone. -/
theorem populateReportIds_size {protocolSettings config : CfuHidDeviceConfiguration}
    {setup : Setup} (h : populateReportIds protocolSettings setup = some config) :
    config.fwUpdateContent.size = protocolSettings.fwUpdateContent.size := by
  unfold populateReportIds at h
  cases hcontent : setup.contentId <;> cases hcontentResponse : setup.contentResponseId <;>
    cases hoffer : setup.offerId <;> cases hofferResponse : setup.offerResponseId <;>
    simp [hcontent, hcontentResponse, hoffer, hofferResponse] at h
  rw [← h]

section Passes

variable {device : HidDevice D} {report : HidReportIdInfo}
  {srecBinFile inputReportBuffer : List UInt8}

/-- The counting pass fails by a fault or for want of rounds. -/
theorem countContentPackets_not_returned (blocks : ℕ) (stream : InputStream)
    (contentdata : ContentData) (count : UInt32) (ret : Bool) :
    countContentPackets blocks stream contentdata count ≠ .error (.returned ret) := by
  induction blocks generalizing stream contentdata count with
  | zero => simp [countContentPackets]
  | succ blocks ih =>
      unfold countContentPackets
      split
      · simp
      · simp
      · exact ih _ _ _

/-- Where the parser delivers nothing the tool returns {lit}`TRUE` without a block. -/
theorem sendPayload_nothing (hempty : lengthByte srecBinFile = 0) (waits : ℕ) (d : D) :
    sendPayload device report waits srecBinFile inputReportBuffer d = (.returned true, d) := by
  have hgood : (InputStream.openFile srecBinFile).good = true := rfl
  obtain ⟨stream, contentdata, hcount⟩ := (processSrecBin_false_iff hgood
    { ContentData.zero with flags := firmwareUpdateFlagFirstBlock }).mpr hempty
  obtain ⟨contentdata', hsend⟩ := processSrecBin_returns hcount contentdata
  have hfile := processSrecBin_file _ _ _ _ _ hcount
  rw [sendPayload, roundsFor]
  dsimp only
  rw [countContentPackets, hcount]
  dsimp only
  rw [InputStream.seekBeginning_clear, hfile, sendBlocks]
  dsimp only [InputStream.openFile] at hsend ⊢
  rw [hsend]
  rfl

/-- Where it delivers a block, a payload that was sent with success consists of
rounds. -/
theorem sendPayload_log (hblock : lengthByte srecBinFile ≠ 0) {waits : ℕ} {e e' : Logged D}
    (h : sendPayload device.logged report waits srecBinFile inputReportBuffer e =
      (.returned true, e')) :
    ∃ rounds last, e'.log = e.log ++ (rounds ++ [last]).flatMap (Round.exchanges report) ∧
      AllAcknowledged 0 inputReportBuffer (rounds ++ [last]) ∧
      last.contentdata.flags = firmwareUpdateFlagLastBlock := by
  have hgood : (InputStream.openFile srecBinFile).good = true := rfl
  unfold sendPayload at h
  dsimp only at h
  rcases hcount : countContentPackets (roundsFor srecBinFile) (.openFile srecBinFile)
    { ContentData.zero with flags := firmwareUpdateFlagFirstBlock } 0 with
    outcome | ⟨total, stream, contentdata⟩
  · rw [hcount] at h
    have houtcome : outcome = .returned true := congrArg Prod.fst h
    rw [houtcome] at hcount
    exact absurd hcount (countContentPackets_not_returned _ _ _ _ _)
  · rw [hcount] at h
    dsimp only at h
    have hfile := countContentPackets_file _ _ _ _ _ _ _ hcount
    rw [InputStream.seekBeginning_clear, hfile] at h
    have hcounts : Counts (.openFile srecBinFile) 0 total := ⟨_, _, _, _, hcount⟩
    have hsequence : contentdata.sequenceNumber = UInt16.ofNat 0 :=
      countContentPackets_sequenceNumber hcount
    obtain ⟨rounds, hlog, hall, hlast, hnothing⟩ := sendBlocks_log hcounts hsequence h
    rcases List.eq_nil_or_concat rounds with hempty | ⟨init, last, hsplit⟩
    · obtain ⟨-, hended⟩ := hnothing hempty
      exact absurd ((processSrecBin_false_iff hgood _).mp hended) hblock
    · rw [List.concat_eq_append] at hsplit
      rw [hsplit] at hlog hall hlast
      refine ⟨init, last, hlog, hall, hlast last ?_⟩
      rw [List.getLast?_concat]
      rfl

end Passes

/-! ## Success -/

section Success

variable {device : HidDevice D} {setup : Setup} {waits : ℕ}
  {protocolSettings : CfuHidDeviceConfiguration} {offerPath srecBinPath : Option (List UInt8)}
  {forceIgnoreVersion forceReset : UInt8} {d : D} {e : Logged D}

/-- Only a tool that gets past the offer, and sends the payload with success, returns
{lit}`TRUE`. -/
theorem fwUpdateOfferSrec_returned_true
    (h : fwUpdateOfferSrec device.logged setup waits protocolSettings offerPath srecBinPath
      forceIgnoreVersion forceReset ⟨d, []⟩ = (.returned true, e)) :
    ∃ (config : CfuHidDeviceConfiguration) (srecBinFile offer : List UInt8) (taken : Bool)
        (response : List UInt8) (d' : D),
      srecBinPath = some srecBinFile ∧
      config.fwUpdateContent.size = protocolSettings.fwUpdateContent.size ∧
      sendPayload device.logged config.fwUpdateContent waits srecBinFile
          (overwrite setup.inputReportBuffer response)
          ⟨d', [.sent offer taken, .received response]⟩ = (.returned true, e) := by
  by_cases hprepared : ∃ config offerFile srecBinFile,
      Prepared setup protocolSettings offerPath srecBinPath config offerFile srecBinFile
  · obtain ⟨config, offerFile, srecBinFile, hprepared⟩ := hprepared
    rw [fwUpdateOfferSrec_prepared hprepared] at h
    by_cases haccepted : ∃ inputReport,
        OfferAccepted device (offerOutputReport config forceReset forceIgnoreVersion offerFile)
          setup.inputReportBuffer d inputReport
    · obtain ⟨inputReport, haccepted⟩ := haccepted
      obtain ⟨taken, d', hrun⟩ := offerAndSend_accepted haccepted waits srecBinFile
      rw [hrun] at h
      exact ⟨config, srecBinFile, _, taken, inputReport, d', hprepared.payload,
        populateReportIds_size hprepared.populated, h⟩
    · have hfailed := offerAndSend_not_accepted (not_exists.mp haccepted) waits srecBinFile
      have hsame := offerAndSend_projects (logged_projects device) config waits offerFile
        srecBinFile forceIgnoreVersion forceReset setup.inputReportBuffer ⟨d, []⟩
      rw [h] at hsame
      rw [hsame] at hfailed
      cases hfailed
  · have hfailed := fwUpdateOfferSrec_not_prepared (by
      intro config offerFile srecBinFile h
      exact hprepared ⟨_, _, _, h⟩) device.logged waits forceIgnoreVersion forceReset ⟨d, []⟩
    rw [hfailed] at h
    cases h

/-- Without a block there is no finished transfer. -/
theorem not_finishedTransfer_of_offer {offer response : List UInt8} {taken : Bool}
    (report : HidReportIdInfo) :
    ¬ FinishedTransfer setup report [.sent offer taken, .received response] := by
  rintro ⟨offer', taken', response', rounds, last, hlog, -, -⟩
  have hlength := congrArg List.length hlog
  simp [Round.exchanges] at hlength

/-- A finished transfer ends with a content response. -/
theorem FinishedTransfer.ends {report : HidReportIdInfo} {log : List Exchange}
    (h : FinishedTransfer setup report log) :
    ∃ answer, log.getLast? = some (.received answer) ∧
      answer.head? = setup.contentResponseId := by
  obtain ⟨offer, taken, response, rounds, last, rfl, hanswered, -⟩ := h
  obtain ⟨k, hlast⟩ := hanswered.last
  refine ⟨last.answer, ?_, hlast.id⟩
  rw [List.flatMap_append, List.flatMap_singleton, Round.exchanges, ← List.cons_append,
    ← List.append_assoc, ← List.append_assoc, List.getLast?_concat]

end Success

/-- When the tool returns {lit}`TRUE`, the transfer is finished if and only if the length
byte at the start of the payload file is not zero and no input report but content responses
of full size was taken for an answer to a block. -/
theorem success_means_finished_iff (device : HidDevice D) (setup : Setup) (waits : ℕ)
    (protocolSettings : CfuHidDeviceConfiguration) (offerPath srecBinPath : Option (List UInt8))
    (forceIgnoreVersion forceReset : UInt8) (d : D) (e : Logged D)
    (h : fwUpdateOfferSrec device.logged setup waits protocolSettings offerPath srecBinPath
      forceIgnoreVersion forceReset ⟨d, []⟩ = (.returned true, e)) :
    FinishedTransfer setup protocolSettings.fwUpdateContent e.log ↔
      (∀ srecBinFile ∈ srecBinPath, lengthByte srecBinFile ≠ 0) ∧ GenuineLog setup e.log := by
  obtain ⟨config, srecBinFile, offer, taken, response, d', hpath, hsize, hsend⟩ :=
    fwUpdateOfferSrec_returned_true h
  have hfile : (∀ file ∈ srecBinPath, lengthByte file ≠ 0) ↔ lengthByte srecBinFile ≠ 0 := by
    simp [hpath]
  rw [hfile]
  by_cases hblock : lengthByte srecBinFile = 0
  · rw [sendPayload_nothing hblock] at hsend
    cases hsend
    exact iff_of_false (not_finishedTransfer_of_offer _) fun hboth => hboth.1 hblock
  · obtain ⟨rounds, last, hlog, hall, hflags⟩ := sendPayload_log hblock hsend
    rw [exchanges_congr hsize] at hlog
    have hgenuine : GenuineLog setup e.log ↔
        AllAnswered setup.contentResponseId 0 (rounds ++ [last]) := by
      rw [GenuineLog, hlog, genuineFrom_append]
      have hoffer : GenuineFrom setup [] [.sent offer taken, .received response] :=
        ⟨trivial, fun hpending => absurd hpending (Nat.not_succ_le_self 1), trivial⟩
      rw [and_iff_right hoffer, List.nil_append]
      exact genuineFrom_rounds rfl hall
    rw [hgenuine, and_iff_right hblock]
    constructor
    · rintro ⟨offer', taken', response', rounds', last', hlog', hanswered, -⟩
      rw [hlog] at hlog'
      exact hanswered.of_sameExchanges hall (List.append_inj hlog' rfl).2.symm
    · intro hanswered
      refine ⟨offer, taken, response, rounds, last, hlog, hanswered, ?_⟩
      rw [hflags]
      decide

/-! ## Short transfers -/

/-- A device that takes every report and delivers these input reports, one at each wait. -/
def deliveringDevice : HidDevice (List (List UInt8)) where
  setOutputReport _ d := (true, d)
  waitForReadEvent
    | [] => (none, [])
    | inputReport :: d => (some inputReport, d)

/-- The response that accepts an offer; its first bytes read as success of block 0. -/
def acceptingResponse : List UInt8 :=
  [0x25, 0, 0, 0, 0, 0, 0, 0, 0, 0, 0, 0, 0, 1, 0, 0, 0]

/-- Everything that the tool asks for is there. -/
def willingSetup : Setup where
  readEvent := true
  deviceRead := true
  contentId := some 0x22
  contentResponseId := some 0x22
  offerId := some 0x25
  offerResponseId := some 0x25
  deviceWrite := true
  readThread := true
  inputReportBuffer := List.replicate 17 0

/-- The sizes that the settings file gives to the reports. -/
def standardSettings : CfuHidDeviceConfiguration where
  fwUpdateOfferResponse := ⟨0, 16⟩
  fwUpdateContentResponse := ⟨0, 16⟩
  fwUpdateOffer := ⟨0, 16⟩
  fwUpdateContent := ⟨0, 60⟩

/-- The run of the tool against such a device. -/
def deliveredRun (waits : ℕ) (srecBinFile : List UInt8) (inputReports : List (List UInt8)) :
    Outcome × Logged (List (List UInt8)) :=
  fwUpdateOfferSrec deliveringDevice.logged willingSetup waits standardSettings
    (some (List.replicate 16 0)) (some srecBinFile) 0 0 ⟨inputReports, []⟩

/-- Two blocks that are answered, the first one behind an input report that is not read as
its answer. -/
theorem success_means_finished_iff_twoBlocks :
    FinishedTransfer willingSetup standardSettings.fwUpdateContent
      (deliveredRun 2 [0, 0, 0, 0, 1, 0xAA, 1, 0, 0, 0, 1, 0xBB]
        [acceptingResponse, [7, 5, 0, 0, 0, 0], [0x22, 0, 0, 0, 0, 0],
          [0x22, 1, 0, 0, 0, 0]]).2.log :=
  (success_means_finished_iff deliveringDevice willingSetup 2 standardSettings
    (some (List.replicate 16 0)) (some [0, 0, 0, 0, 1, 0xAA, 1, 0, 0, 0, 1, 0xBB]) 0 0
    [acceptingResponse, [7, 5, 0, 0, 0, 0], [0x22, 0, 0, 0, 0, 0], [0x22, 1, 0, 0, 0, 0]] _
    rfl).mpr ⟨by decide, by decide⟩

/-- With an empty payload file, and with one block behind which the device only repeats the
response to the offer, the tool returns {lit}`TRUE`. -/
theorem success_without_transfer :
    ¬ (∀ e, deliveredRun 1 [] [acceptingResponse] = (.returned true, e) →
        FinishedTransfer willingSetup standardSettings.fwUpdateContent e.log) ∧
      ¬ ∀ e, deliveredRun 1 [0, 0, 0, 0, 1, 0xAA] [acceptingResponse, acceptingResponse] =
          (.returned true, e) →
        FinishedTransfer willingSetup standardSettings.fwUpdateContent e.log := by
  constructor
  · intro hfinished
    exact not_finishedTransfer_of_offer _ (hfinished _ rfl)
  · intro hfinished
    obtain ⟨answer, hlast, hid⟩ := (hfinished _ rfl).ends
    obtain rfl : acceptingResponse = answer := Exchange.received.inj (Option.some.inj hlast)
    exact absurd hid (by decide)

end Tool
end CFU
