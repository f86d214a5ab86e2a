import CFU.Tool.Script

/-!
# CFU tool - devices that answer alike

The tool sends a report only while it awaits no response, and it reads only the first
bytes of a response.  Two devices that take the same reports, answer a wait behind a report
with responses that begin alike, and let every other wait time out, are the same for it.

Main results:

- Definition {lit}`HidDevice.Similar`: what two devices have in common.
- Theorem {lit}`fwUpdateOfferSrec_similar`: a transfer ends in the same way with both.
-/

namespace CFU
namespace Tool

open Buffer

variable {D E : Type}

/-! ## Responses that begin alike -/

/-- The number of bytes of a response that the tool reads: those up to the status of an
offer. -/
def responsePrefixLength : ℕ := 14

/-- Two input reports are the same response to the tool. -/
structure SameResponse (inputReport inputReport' : List UInt8) : Prop where
  length_le : responsePrefixLength ≤ inputReport.length
  length_le' : responsePrefixLength ≤ inputReport'.length
  take_eq : inputReport.take responsePrefixLength = inputReport'.take responsePrefixLength

section SameResponse

variable {inputReport inputReport' : List UInt8}

/-- A report behind which the buffer holds other bytes is the same response. -/
theorem SameResponse.of_prefix (h : inputReport' <+: inputReport)
    (hlength : responsePrefixLength ≤ inputReport'.length) :
    SameResponse inputReport inputReport' where
  length_le := Nat.le_trans hlength h.length_le
  length_le' := hlength
  take_eq := by
    obtain ⟨rest, rfl⟩ := h
    rw [List.take_append_of_le_length hlength]

theorem SameResponse.take_overwrite (h : SameResponse inputReport inputReport')
    (buffer buffer' : List UInt8) :
    (overwrite buffer inputReport).take responsePrefixLength =
      (overwrite buffer' inputReport').take responsePrefixLength := by
  rw [take_overwrite_of_le h.length_le, take_overwrite_of_le h.length_le', h.take_eq]

theorem offerResponseStatus_take (buffer : List UInt8) :
    offerResponseStatus (buffer.take responsePrefixLength) = offerResponseStatus buffer := by
  simp [offerResponseStatus, responsePrefixLength, List.getD_eq_getElem?_getD]

/-- The tool judges an offer alike. -/
theorem SameResponse.offerResponseStatus_eq (h : SameResponse inputReport inputReport')
    (buffer buffer' : List UInt8) :
    offerResponseStatus (overwrite buffer inputReport) =
      offerResponseStatus (overwrite buffer' inputReport') := by
  rw [← offerResponseStatus_take, h.take_overwrite buffer buffer', offerResponseStatus_take]

/-- The tool judges a block alike. -/
theorem SameResponse.answerOf_eq (h : SameResponse inputReport inputReport')
    (sequenceNumber : UInt16) (buffer buffer' : List UInt8) :
    answerOf sequenceNumber (overwrite buffer inputReport) =
      answerOf sequenceNumber (overwrite buffer' inputReport') := by
  apply answerOf_congr
  have hsame := congrArg (List.take 6) (h.take_overwrite buffer buffer')
  rw [List.take_take, List.take_take] at hsame
  exact hsame

end SameResponse

/-! ## Devices -/

/-- Two devices take the same reports while they are {lit}`Idle`, answer alike while they
are {lit}`Busy`, and have nothing to say otherwise. -/
structure HidDevice.Similar (device : HidDevice D) (device' : HidDevice E)
    (Idle Busy : D → E → Prop) : Prop where
  setOutputReport : ∀ report d e, Idle d e → ∃ taken d' e',
    device.setOutputReport report d = (taken, d') ∧
      device'.setOutputReport report e = (taken, e') ∧
      if taken then Busy d' e' else Idle d' e'
  timedOut : ∀ d e, Idle d e → ∃ d' e',
    device.waitForReadEvent d = (none, d') ∧ device'.waitForReadEvent e = (none, e') ∧ Idle d' e'
  received : ∀ d e, Busy d e → ∃ inputReport inputReport' d' e',
    device.waitForReadEvent d = (some inputReport, d') ∧
      device'.waitForReadEvent e = (some inputReport', e') ∧
      SameResponse inputReport inputReport' ∧ Idle d' e'

section Similar

variable {device : HidDevice D} {device' : HidDevice E} {Idle Busy : D → E → Prop} {d : D} {e : E}

/-- The offer is sent, and accepted by both or by none. -/
theorem sendOffer_similar (h : device.Similar device' Idle Busy) (hidle : Idle d e)
    (report buffer buffer' : List UInt8) :
    ∃ accepted buffer₁ buffer₁' d₁ e₁,
      sendOffer device report buffer d = (accepted, buffer₁, d₁) ∧
        sendOffer device' report buffer' e = (accepted, buffer₁', e₁) ∧ Idle d₁ e₁ := by
  obtain ⟨taken, d₁, e₁, hset, hset', hafter⟩ := h.setOutputReport report d e hidle
  cases taken with
  | false =>
      obtain ⟨d₂, e₂, hwait, hwait', hidle₂⟩ := h.timedOut d₁ e₁ hafter
      refine ⟨false, buffer, buffer', d₂, e₂, ?_, ?_, hidle₂⟩
      · simp only [sendOffer, hset, hwait]
      · simp only [sendOffer, hset', hwait']
  | true =>
      obtain ⟨inputReport, inputReport', d₂, e₂, hwait, hwait', hsame, hidle₂⟩ :=
        h.received d₁ e₁ hafter
      refine ⟨offerAccepted (offerResponseStatus (overwrite buffer inputReport)),
        overwrite buffer inputReport, overwrite buffer' inputReport', d₂, e₂, ?_, ?_, hidle₂⟩
      · simp only [sendOffer, hset, hwait]
      · simp only [sendOffer, hset', hwait', hsame.offerResponseStatus_eq buffer buffer']

/-- Without a response both waits go on. -/
theorem awaitContentResponse_idle (h : device.Similar device' Idle Busy) (sequenceNumber : UInt16)
    (waits : ℕ) (buffer buffer' : List UInt8) (hidle : Idle d e) :
    ∃ d₁ e₁,
      awaitContentResponse device sequenceNumber waits buffer d = (.waiting, buffer, d₁) ∧
        awaitContentResponse device' sequenceNumber waits buffer' e =
          (.waiting, buffer', e₁) ∧ Idle d₁ e₁ := by
  induction waits generalizing d e with
  | zero => exact ⟨d, e, rfl, rfl, hidle⟩
  | succ waits ih =>
      obtain ⟨d₁, e₁, hwait, hwait', hidle₁⟩ := h.timedOut d e hidle
      rw [awaitContentResponse_timedOut hwait, awaitContentResponse_timedOut hwait']
      exact ih hidle₁

/-- The response to a block is judged alike. -/
theorem awaitContentResponse_busy (h : device.Similar device' Idle Busy) (sequenceNumber : UInt16)
    (waits : ℕ) (buffer buffer' : List UInt8) (hbusy : Busy d e) :
    ∃ ack buffer₁ buffer₁' d₁ e₁,
      awaitContentResponse device sequenceNumber (waits + 1) buffer d = (ack, buffer₁, d₁) ∧
        awaitContentResponse device' sequenceNumber (waits + 1) buffer' e =
          (ack, buffer₁', e₁) ∧ Idle d₁ e₁ := by
  obtain ⟨inputReport, inputReport', d₁, e₁, hwait, hwait', hsame, hidle⟩ := h.received d e hbusy
  rw [awaitContentResponse_received hwait, awaitContentResponse_received hwait',
    hsame.answerOf_eq sequenceNumber buffer buffer']
  cases answerOf sequenceNumber (overwrite buffer' inputReport') with
  | some ack => exact ⟨ack, _, _, d₁, e₁, rfl, rfl, hidle⟩
  | none =>
      obtain ⟨d₂, e₂, hgoes, hgoes', hidle₂⟩ := awaitContentResponse_idle h sequenceNumber waits
        (overwrite buffer inputReport) (overwrite buffer' inputReport') hidle
      exact ⟨_, _, _, d₂, e₂, hgoes, hgoes', hidle₂⟩

/-- The same place in a transfer, with another buffer. -/
def Transfer.withBuffer (t : Transfer) (inputReportBuffer : List UInt8) : Transfer :=
  { t with inputReportBuffer := inputReportBuffer }

/-- The sending loop ends in the same way. -/
theorem sendBlocks_similar (h : device.Similar device' Idle Busy) (report : HidReportIdInfo)
    (waits : ℕ) (totalContentPacketCount : UInt32) (blocks : ℕ) (t : Transfer)
    (buffer buffer' : List UInt8) (hidle : Idle d e) :
    ∃ outcome d₁ e₁,
      sendBlocks device report (waits + 1) totalContentPacketCount blocks
          (t.withBuffer buffer) d = (outcome, d₁) ∧
        sendBlocks device' report (waits + 1) totalContentPacketCount blocks
          (t.withBuffer buffer') e = (outcome, e₁) ∧ Idle d₁ e₁ := by
  induction blocks generalizing t buffer buffer' d e with
  | zero => exact ⟨.unfinished, d, e, rfl, rfl, hidle⟩
  | succ blocks ih =>
      have hrecord : ∀ b, processSrecBin (t.withBuffer b).stream (t.withBuffer b).contentdata =
          processSrecBin t.stream t.contentdata := fun _ => rfl
      rw [sendBlocks, sendBlocks, hrecord, hrecord]
      rcases processSrecBin t.stream t.contentdata with fault | ⟨_ | _, stream, contentdata⟩
      · exact ⟨_, d, e, rfl, rfl, hidle⟩
      · exact ⟨_, d, e, rfl, rfl, hidle⟩
      · have hprepare : ∀ b, (t.withBuffer b).prepareBlock report totalContentPacketCount stream
            contentdata = (t.prepareBlock report totalContentPacketCount stream
              contentdata).withBuffer b := fun _ => rfl
        dsimp only
        rw [hprepare, hprepare]
        generalize t.prepareBlock report totalContentPacketCount stream contentdata = t'
        obtain ⟨taken, d₁, e₁, hset, hset', hafter⟩ :=
          h.setOutputReport (t'.outputReport report) d e hidle
        have hreport : ∀ b, (t'.withBuffer b).outputReport report = t'.outputReport report :=
          fun _ => rfl
        rw [hreport, hreport, hset, hset']
        cases taken with
        | false => exact ⟨_, d₁, e₁, rfl, rfl, hafter⟩
        | true =>
            obtain ⟨ack, buffer₁, buffer₁', d₂, e₂, hawait, hawait', hidle₂⟩ :=
              awaitContentResponse_busy h t'.contentdata.sequenceNumber waits buffer buffer' hafter
            have hwaits : ∀ b, (t'.withBuffer b).contentdata = t'.contentdata ∧
                (t'.withBuffer b).inputReportBuffer = b := fun _ => ⟨rfl, rfl⟩
            dsimp only
            rw [(hwaits buffer).1, (hwaits buffer).2, (hwaits buffer').1, (hwaits buffer').2,
              hawait, hawait']
            cases ack with
            | waiting => exact ⟨_, d₂, e₂, rfl, rfl, hidle₂⟩
            | rejected => exact ⟨_, d₂, e₂, rfl, rfl, hidle₂⟩
            | acknowledged =>
                exact ih (t'.advance buffer₁) buffer₁ buffer₁' hidle₂

/-- So do both passes over the payload file. -/
theorem sendPayload_similar (h : device.Similar device' Idle Busy) (report : HidReportIdInfo)
    (waits : ℕ) (srecBinFile buffer buffer' : List UInt8) (hidle : Idle d e) :
    ∃ outcome d₁ e₁,
      sendPayload device report (waits + 1) srecBinFile buffer d = (outcome, d₁) ∧
        sendPayload device' report (waits + 1) srecBinFile buffer' e = (outcome, e₁) ∧
        Idle d₁ e₁ := by
  unfold sendPayload
  dsimp only
  rcases countContentPackets (roundsFor srecBinFile) (.openFile srecBinFile)
    { ContentData.zero with flags := firmwareUpdateFlagFirstBlock } 0 with
    outcome | ⟨totalContentPacketCount, stream, contentdata⟩
  · exact ⟨outcome, d, e, rfl, rfl, hidle⟩
  · exact sendBlocks_similar h report waits totalContentPacketCount (roundsFor srecBinFile)
      { stream := stream.clear.seekBeginning
        contentdata := contentdata
        startAddress := 0
        contentPacketsSent := 0
        inputReportBuffer := buffer } buffer buffer' hidle

/-- A transfer ends in the same way with both devices, and leaves them idle. -/
theorem fwUpdateOfferSrec_similar (h : device.Similar device' Idle Busy) (setup : Setup)
    (waits : ℕ) (protocolSettings : CfuHidDeviceConfiguration)
    (offerPath srecBinPath : Option (List UInt8)) (forceIgnoreVersion forceReset : UInt8)
    (hidle : Idle d e) :
    ∃ outcome d₁ e₁,
      fwUpdateOfferSrec device setup (waits + 1) protocolSettings offerPath srecBinPath
          forceIgnoreVersion forceReset d = (outcome, d₁) ∧
        fwUpdateOfferSrec device' setup (waits + 1) protocolSettings offerPath srecBinPath
          forceIgnoreVersion forceReset e = (outcome, e₁) ∧ Idle d₁ e₁ := by
  have hstops : ∃ outcome d₁ e₁, (Outcome.returned false, d) = (outcome, d₁) ∧
      (Outcome.returned false, e) = (outcome, e₁) ∧ Idle d₁ e₁ :=
    ⟨_, d, e, rfl, rfl, hidle⟩
  unfold fwUpdateOfferSrec
  split
  · exact hstops
  · cases populateReportIds protocolSettings setup with
    | none => exact hstops
    | some protocolSettings =>
        dsimp only
        split
        · exact hstops
        · rcases offerPath with _ | offerFile
          · exact hstops
          · rcases srecBinPath with _ | srecBinFile
            · exact hstops
            · obtain ⟨accepted, buffer₁, buffer₁', d₁, e₁, hoffer, hoffer', hidle₁⟩ :=
                sendOffer_similar h hidle
                  ((offerReportBuffer protocolSettings.fwUpdateOffer.id forceReset
                    forceIgnoreVersion offerFile).take
                      (protocolSettings.fwUpdateOffer.size.toNat + 1))
                  setup.inputReportBuffer setup.inputReportBuffer
              dsimp only
              unfold offerAndSend
              dsimp only
              rw [hoffer, hoffer']
              cases accepted with
              | false => exact ⟨_, d₁, e₁, rfl, rfl, hidle₁⟩
              | true =>
                  exact sendPayload_similar h protocolSettings.fwUpdateContent waits srecBinFile
                    buffer₁ buffer₁' hidle₁

end Similar

end Tool
end CFU
