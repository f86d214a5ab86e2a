import CFU.Tool.FinishedTransfer
import CFU.Tool.LockStep

/-!
# CFU tool - the addresses of the blocks

The tool sends addresses counted from that of the first record.  The difference is taken
in 32 bits, so a record that lies below the first one gets an address near the end of the
address space.  The counter of the packets has 32 bits as well: when it is zero again, the
address of the record at hand becomes the new base.

Main results:

- Definition {lit}`fwUpdateOfferSrecBlocks`: the blocks that {lit}`FwUpdateOfferSrec` sends.
- Theorem {lit}`fwUpdateOfferSrec_sentReports`: they are what a device is sent behind the
  offer.
- Theorem {lit}`sentBlocks_address`: the address of every block that is sent.
- Theorem {lit}`addresses_rebased_iff`: for which payload files no address wraps.
-/

namespace CFU
namespace Tool

open Buffer LittleEndian

variable {D : Type}

/-! ## The blocks that are sent -/

section Blocks

variable (device : HidDevice D) (report : HidReportIdInfo) (waits : ℕ)

/-- The variables at each call of {lit}`SetOutputReport` in the sending loop. -/
def sentBlocks (totalContentPacketCount : UInt32) : ℕ → Transfer → D → List Transfer
  | 0, _, _ => []
  | blocks + 1, t, d =>
      match processSrecBin t.stream t.contentdata with
      | .ok (true, stream, contentdata) =>
          let t := t.prepareBlock report totalContentPacketCount stream contentdata
          t ::
            match device.setOutputReport (t.outputReport report) d with
            | (false, _) => []
            | (true, d) =>
                match awaitContentResponse device t.contentdata.sequenceNumber waits
                  t.inputReportBuffer d with
                | (.acknowledged, inputReportBuffer, d) =>
                    sentBlocks totalContentPacketCount blocks (t.advance inputReportBuffer) d
                | _ => []
      | _ => []

/-- The blocks of a payload file. -/
def sendPayloadBlocks (srecBinFile inputReportBuffer : List UInt8) (d : D) : List Transfer :=
  let contentdata := { ContentData.zero with flags := firmwareUpdateFlagFirstBlock }
  match countContentPackets (roundsFor srecBinFile) (.openFile srecBinFile) contentdata 0 with
  | .error _ => []
  | .ok (totalContentPacketCount, stream, contentdata) =>
      sentBlocks device report waits totalContentPacketCount (roundsFor srecBinFile)
        { stream := stream.clear.seekBeginning
          contentdata := contentdata
          startAddress := 0
          contentPacketsSent := 0
          inputReportBuffer := inputReportBuffer } d

/-- The blocks behind an offer. -/
def offerAndSendBlocks (protocolSettings : CfuHidDeviceConfiguration)
    (offerFile srecBinFile : List UInt8) (forceIgnoreVersion forceReset : UInt8)
    (inputReportBuffer : List UInt8) (d : D) : List Transfer :=
  let report := protocolSettings.fwUpdateOffer
  let reportBuffer := offerReportBuffer report.id forceReset forceIgnoreVersion offerFile
  match sendOffer device (reportBuffer.take (report.size.toNat + 1)) inputReportBuffer d with
  | (false, _, _) => []
  | (true, inputReportBuffer, d) =>
      sendPayloadBlocks device protocolSettings.fwUpdateContent waits srecBinFile
        inputReportBuffer d

/-- The blocks of a run of {lit}`FwUpdateOfferSrec`. -/
def fwUpdateOfferSrecBlocks (setup : Setup) (protocolSettings : CfuHidDeviceConfiguration)
    (offerPath srecBinPath : Option (List UInt8)) (forceIgnoreVersion forceReset : UInt8)
    (d : D) : List Transfer :=
  if !setup.readEvent || !setup.deviceRead then
    []
  else
    match populateReportIds protocolSettings setup with
    | none => []
    | some protocolSettings =>
        if !setup.deviceWrite || !setup.readThread then
          []
        else
          match offerPath, srecBinPath with
          | some offerFile, some srecBinFile =>
              offerAndSendBlocks device waits protocolSettings offerFile srecBinFile
                forceIgnoreVersion forceReset setup.inputReportBuffer d
          | _, _ => []

end Blocks

/-! ## What the device is sent -/

/-- The reports that were sent. -/
def sentReports (log : List Exchange) : List (List UInt8) :=
  log.filterMap fun e =>
    match e with
    | .sent report _ => some report
    | _ => none

@[simp]
theorem sentReports_append (log log' : List Exchange) :
    sentReports (log ++ log') = sentReports log ++ sentReports log' :=
  List.filterMap_append

section Sent

variable {device : HidDevice D} {report : HidReportIdInfo} {waits : ℕ}

/-- Nothing is sent while the tool waits. -/
theorem awaitContentResponse_sentReports (device : HidDevice D) (sequenceNumber : UInt16)
    (waits : ℕ) (inputReportBuffer : List UInt8) (e : Logged D) :
    sentReports (awaitContentResponse device.logged sequenceNumber waits inputReportBuffer
      e).2.2.log = sentReports e.log := by
  induction waits generalizing inputReportBuffer e with
  | zero => rfl
  | succ waits ih =>
      rcases hwait : device.waitForReadEvent e.device with ⟨_ | inputReport, d⟩
      · rw [awaitContentResponse_timedOut (logged_timedOut hwait), ih]
        simp [sentReports]
      · rw [awaitContentResponse_received (logged_received hwait)]
        cases answerOf sequenceNumber (overwrite inputReportBuffer inputReport) with
        | some ack => simp [sentReports]
        | none =>
            dsimp only
            rw [ih]
            simp [sentReports]

/-- The sending loop sends its blocks. -/
theorem sendBlocks_sentReports (total : UInt32) (blocks : ℕ) (t : Transfer) (e : Logged D) :
    sentReports (sendBlocks device.logged report waits total blocks t e).2.log =
      sentReports e.log ++
        (sentBlocks device report waits total blocks t e.device).map
          (Transfer.outputReport · report) := by
  induction blocks generalizing t e with
  | zero => simp [sendBlocks, sentBlocks]
  | succ blocks ih =>
      rw [sendBlocks, sentBlocks]
      rcases processSrecBin t.stream t.contentdata with fault | ⟨_ | _, stream, contentdata⟩
      · simp
      · simp
      · dsimp only
        generalize t.prepareBlock report total stream contentdata = t'
        rcases hsent : device.setOutputReport (t'.outputReport report) e.device with ⟨_ | _, d⟩
        · rw [logged_setOutputReport hsent]
          simp [sentReports]
        · rw [logged_setOutputReport hsent]
          dsimp only
          have hlogged := awaitContentResponse_sentReports device
            t'.contentdata.sequenceNumber waits t'.inputReportBuffer
            ⟨d, e.log ++ [.sent (t'.outputReport report) true]⟩
          have hsame := awaitContentResponse_projects (logged_projects device)
            t'.contentdata.sequenceNumber waits t'.inputReportBuffer
            ⟨d, e.log ++ [.sent (t'.outputReport report) true]⟩
          dsimp only at hsame
          rw [hsame]
          generalize awaitContentResponse device.logged t'.contentdata.sequenceNumber waits
            t'.inputReportBuffer ⟨d, e.log ++ [.sent (t'.outputReport report) true]⟩ = answer
            at hlogged ⊢
          rcases answer with ⟨_ | _ | _, buffer, e'⟩
          · dsimp only [Prod.map, id] at hlogged ⊢
            rw [ih, hlogged]
            simp [sentReports]
          · dsimp only [Prod.map, id] at hlogged ⊢
            rw [hlogged]
            simp [sentReports]
          · dsimp only [Prod.map, id] at hlogged ⊢
            rw [hlogged]
            simp [sentReports]

theorem sendPayload_sentReports (srecBinFile inputReportBuffer : List UInt8) (e : Logged D) :
    sentReports (sendPayload device.logged report waits srecBinFile inputReportBuffer e).2.log =
      sentReports e.log ++
        (sendPayloadBlocks device report waits srecBinFile inputReportBuffer e.device).map
          (Transfer.outputReport · report) := by
  unfold sendPayload sendPayloadBlocks
  dsimp only
  rcases countContentPackets (roundsFor srecBinFile) (.openFile srecBinFile)
    { ContentData.zero with flags := firmwareUpdateFlagFirstBlock } 0 with
    outcome | ⟨total, stream, contentdata⟩
  · simp
  · exact sendBlocks_sentReports total _ _ e

variable {config : CfuHidDeviceConfiguration} {offerFile srecBinFile : List UInt8}
  {forceIgnoreVersion forceReset : UInt8}

/-- The offer is sent first. -/
theorem offerAndSend_sentReports (inputReportBuffer : List UInt8) (d : D) :
    sentReports (offerAndSend device.logged config waits offerFile srecBinFile forceIgnoreVersion
      forceReset inputReportBuffer ⟨d, []⟩).2.log =
      offerOutputReport config forceReset forceIgnoreVersion offerFile ::
        (offerAndSendBlocks device waits config offerFile srecBinFile forceIgnoreVersion forceReset
          inputReportBuffer d).map (Transfer.outputReport · config.fwUpdateContent) := by
  unfold offerAndSend offerAndSendBlocks sendOffer
  dsimp only
  rw [← offerOutputReport]
  generalize offerOutputReport config forceReset forceIgnoreVersion offerFile = offer
  rcases hsent : device.setOutputReport offer d with ⟨taken, d₁⟩
  rw [logged_setOutputReport (e := ⟨d, []⟩) hsent]
  dsimp only
  rcases hwait : device.waitForReadEvent d₁ with ⟨_ | inputReport, d₂⟩
  · rw [logged_timedOut (e := ⟨d₁, _⟩) hwait]
    simp [sentReports]
  · rw [logged_received (e := ⟨d₁, _⟩) hwait]
    dsimp only
    cases offerAccepted (offerResponseStatus (overwrite inputReportBuffer inputReport)) with
    | false => simp [sentReports]
    | true =>
        dsimp only
        rw [sendPayload_sentReports]
        simp [sentReports]

variable {setup : Setup} {protocolSettings : CfuHidDeviceConfiguration}
  {offerPath srecBinPath : Option (List UInt8)}

theorem fwUpdateOfferSrecBlocks_prepared
    (h : Prepared setup protocolSettings offerPath srecBinPath config offerFile srecBinFile)
    (d : D) :
    fwUpdateOfferSrecBlocks device waits setup protocolSettings offerPath srecBinPath
        forceIgnoreVersion forceReset d =
      offerAndSendBlocks device waits config offerFile srecBinFile forceIgnoreVersion forceReset
        setup.inputReportBuffer d := by
  rw [fwUpdateOfferSrecBlocks, h.readHandles, if_neg Bool.false_ne_true, h.populated]
  dsimp only
  rw [h.writeHandles, if_neg Bool.false_ne_true, h.offer, h.payload]

/-- A run with everything at hand sends the offer, and then the blocks. -/
theorem fwUpdateOfferSrec_sentReports
    (h : Prepared setup protocolSettings offerPath srecBinPath config offerFile srecBinFile)
    (d : D) :
    sentReports (fwUpdateOfferSrec device.logged setup waits protocolSettings offerPath
      srecBinPath forceIgnoreVersion forceReset ⟨d, []⟩).2.log =
      offerOutputReport config forceReset forceIgnoreVersion offerFile ::
        (fwUpdateOfferSrecBlocks device waits setup protocolSettings offerPath srecBinPath
          forceIgnoreVersion forceReset d).map
            (Transfer.outputReport · config.fwUpdateContent) := by
  rw [fwUpdateOfferSrec_prepared h, fwUpdateOfferSrecBlocks_prepared h]
  exact offerAndSend_sentReports setup.inputReportBuffer d

end Sent

/-! ## The addresses -/

/-- The address from which block {lit}`k` is counted: that of the last record up to it at
which the counter of the packets was zero. -/
def baseAddress (records : List Record) (k : ℕ) : UInt32 :=
  (records[2 ^ 32 * (k / 2 ^ 32)]?.map Record.address).getD 0

/-- With fewer than {lit}`2 ^ 32` records that is the first one. -/
theorem baseAddress_of_lt (records : List Record) {k : ℕ} (hk : k < 2 ^ 32) :
    baseAddress records k = firstAddress records := by
  rw [baseAddress, Nat.div_eq_of_lt hk, Nat.mul_zero, ← List.head?_eq_getElem?, firstAddress]

/-- A difference of addresses and the address that was subtracted give the address back
unless it lies below the other one. -/
theorem toNat_sub_add_iff (address startAddress : UInt32) :
    (address - startAddress).toNat + startAddress.toNat = address.toNat ↔
      startAddress ≤ address := by
  have haddress := address.toNat_lt
  have hstart := startAddress.toNat_lt
  rw [UInt32.le_iff_toNat_le, UInt32.toNat_sub]
  omega

/-- The variables of the sending loop before block {lit}`k` of a payload file. -/
structure AtBlock (records : List Record) (k : ℕ) (t : Transfer) : Prop where
  good : t.stream.good = true
  rest : t.stream.rest = payload (records.drop k)
  sequenceNumber : t.contentdata.sequenceNumber = UInt16.ofNat k
  contentPacketsSent : t.contentPacketsSent = UInt32.ofNat k
  startAddress : k % 2 ^ 32 ≠ 0 → t.startAddress = baseAddress records k

section Addresses

variable {records : List Record} {k : ℕ} {t : Transfer} {record : Record}

theorem AtBlock.ofStart {inputReportBuffer : List UInt8}
    (h : StartsOn t records inputReportBuffer) : AtBlock records 0 t where
  good := h.good
  rest := h.rest
  sequenceNumber := h.sequenceNumber
  contentPacketsSent := h.contentPacketsSent
  startAddress hk := absurd (Nat.zero_mod _) hk

/-- The base when the block is prepared. -/
theorem AtBlock.blockStart (h : AtBlock records k t) (hrecord : records[k]? = some record) :
    Tool.blockStart t.contentPacketsSent t.startAddress record.address =
      baseAddress records k := by
  have hzero : (UInt32.ofNat k == 0) = true ↔ k % 2 ^ 32 = 0 := by
    rw [beq_iff_eq, ← UInt32.toNat_inj, UInt32.toNat_ofNat']
    rfl
  rw [Tool.blockStart, h.contentPacketsSent]
  by_cases hk : k % 2 ^ 32 = 0
  · have hblock : 2 ^ 32 * (k / 2 ^ 32) = k := by omega
    rw [if_pos (hzero.mpr hk), baseAddress, hblock, hrecord]
    rfl
  · rw [if_neg (mt hzero.mp hk)]
    exact h.startAddress hk

/-- Behind a block come the variables before the next one. -/
theorem AtBlock.advance (h : AtBlock records k t) (hrecord : records[k]? = some record)
    (report : HidReportIdInfo) (total : UInt32) (inputReportBuffer : List UInt8) :
    AtBlock records (k + 1) ((t.onRecord report total record).advance inputReportBuffer) where
  good := h.good
  rest := by
    obtain ⟨hk, hget⟩ := List.getElem?_eq_some_iff.mp hrecord
    apply Record.behind_rest
    rw [h.rest, List.drop_eq_getElem_cons hk, hget]
    rfl
  sequenceNumber := by
    show t.contentdata.sequenceNumber + 1 = _
    rw [h.sequenceNumber, UInt16.ofNat_add]
    rfl
  contentPacketsSent := by
    show t.contentPacketsSent + 1 = _
    rw [h.contentPacketsSent, UInt32.ofNat_add]
    rfl
  startAddress := by
    intro hk
    have hsame : (k + 1) / 2 ^ 32 = k / 2 ^ 32 := by omega
    show Tool.blockStart t.contentPacketsSent t.startAddress record.address = _
    rw [h.blockStart hrecord, baseAddress, baseAddress, hsame]

/-- On a record the loop sends its block, and goes on if it is acknowledged. -/
theorem sentBlocks_record (device : HidDevice D) (h : AtBlock records k t)
    (hrecord : records[k]? = some record) (report : HidReportIdInfo) (waits : ℕ)
    (total : UInt32) (blocks : ℕ) (d : D) :
    sentBlocks device report waits total (blocks + 1) t d =
      t.onRecord report total record ::
        match device.setOutputReport ((t.onRecord report total record).outputReport report) d with
        | (false, _) => []
        | (true, d) =>
            match awaitContentResponse device t.contentdata.sequenceNumber waits
              t.inputReportBuffer d with
            | (.acknowledged, inputReportBuffer, d) =>
                sentBlocks device report waits total blocks
                  ((t.onRecord report total record).advance inputReportBuffer) d
            | _ => [] := by
  obtain ⟨hk, hget⟩ := List.getElem?_eq_some_iff.mp hrecord
  have hrest : t.stream.rest = record.toBytes ++ payload (records.drop (k + 1)) := by
    rw [h.rest, List.drop_eq_getElem_cons hk, hget]
    rfl
  rw [sentBlocks, processSrecBin_record h.good t.contentdata hrest]
  rfl

/-- Behind the last record no block is sent. -/
theorem sentBlocks_end (device : HidDevice D) (h : AtBlock records k t)
    (hend : records.length ≤ k) (report : HidReportIdInfo) (waits : ℕ) (total : UInt32)
    (blocks : ℕ) (d : D) : sentBlocks device report waits total blocks t d = [] := by
  cases blocks with
  | zero => rfl
  | succ blocks =>
      have hrest : t.stream.rest = [] := by
        rw [h.rest, List.drop_eq_nil_of_le hend]
        rfl
      obtain ⟨stream, hcall, -⟩ := processSrecBin_end h.good t.contentdata hrest
      rw [sentBlocks, hcall]

/-- A block of the sending loop is that of its record, and its address is counted from the
base. -/
theorem sentBlocks_address (device : HidDevice D) (report : HidReportIdInfo) (waits : ℕ)
    (total : UInt32) {blocks : ℕ} (h : AtBlock records k t) (d : D) {i : ℕ} {block : Transfer}
    (hblock : (sentBlocks device report waits total blocks t d)[i]? = some block) :
    ∃ record, records[k + i]? = some record ∧ block.startAddress = baseAddress records (k + i) ∧
      block.contentdata.address = record.address - baseAddress records (k + i) := by
  induction blocks generalizing k t d i with
  | zero => simp [sentBlocks] at hblock
  | succ blocks ih =>
      cases hrecord : records[k]? with
      | none =>
          rw [sentBlocks_end device h (List.getElem?_eq_none_iff.mp hrecord)] at hblock
          simp at hblock
      | some record =>
          rw [sentBlocks_record device h hrecord] at hblock
          cases i with
          | zero =>
              rw [List.getElem?_cons_zero, Option.some.injEq] at hblock
              rw [← hblock]
              refine ⟨record, hrecord, h.blockStart hrecord, ?_⟩
              exact congrArg (record.address - ·) (h.blockStart hrecord)
          | succ i =>
              rw [List.getElem?_cons_succ] at hblock
              generalize device.setOutputReport
                ((t.onRecord report total record).outputReport report) d = sent at hblock
              rcases sent with ⟨_ | _, d₁⟩
              · simp at hblock
              · dsimp only at hblock
                generalize awaitContentResponse device t.contentdata.sequenceNumber waits
                  t.inputReportBuffer d₁ = answer at hblock
                rcases answer with ⟨_ | _ | _, buffer, d₂⟩
                · have hnext := ih (h.advance hrecord report total buffer) d₂ hblock
                  rw [Nat.add_assoc, Nat.add_comm 1] at hnext
                  exact hnext
                · simp at hblock
                · simp at hblock

/-- The blocks of a payload file are those of a sending loop that starts on it. -/
theorem sendPayloadBlocks_payload (device : HidDevice D) (report : HidReportIdInfo) (waits : ℕ)
    (records : List Record) (inputReportBuffer : List UInt8) (d : D) :
    ∃ t, AtBlock records 0 t ∧
      sendPayloadBlocks device report waits (payload records) inputReportBuffer d =
        sentBlocks device report waits (UInt32.ofNat records.length)
          (roundsFor (payload records)) t d := by
  obtain ⟨stream, contentdata, hcount, hstarts⟩ :=
    countContentPackets_startsOn records inputReportBuffer
  refine ⟨_, AtBlock.ofStart hstarts, ?_⟩
  rw [sendPayloadBlocks]
  dsimp only
  rw [hcount]

/-- A run sends no blocks, or those of its payload file. -/
theorem fwUpdateOfferSrecBlocks_cases (device : HidDevice D) (waits : ℕ) (setup : Setup)
    (protocolSettings : CfuHidDeviceConfiguration) (offerPath : Option (List UInt8))
    (srecBinFile : List UInt8) (forceIgnoreVersion forceReset : UInt8) (d : D) :
    fwUpdateOfferSrecBlocks device waits setup protocolSettings offerPath (some srecBinFile)
        forceIgnoreVersion forceReset d = [] ∨
      ∃ report inputReportBuffer d',
        fwUpdateOfferSrecBlocks device waits setup protocolSettings offerPath (some srecBinFile)
            forceIgnoreVersion forceReset d =
          sendPayloadBlocks device report waits srecBinFile inputReportBuffer d' := by
  unfold fwUpdateOfferSrecBlocks
  split
  · exact .inl rfl
  · cases populateReportIds protocolSettings setup with
    | none => exact .inl rfl
    | some config =>
        dsimp only
        split
        · exact .inl rfl
        · cases offerPath with
          | none => exact .inl rfl
          | some offerFile =>
              dsimp only
              unfold offerAndSendBlocks
              dsimp only
              generalize sendOffer device _ setup.inputReportBuffer d = offered
              rcases offered with ⟨_ | _, inputReportBuffer, d'⟩
              · exact .inl rfl
              · exact .inr ⟨_, _, _, rfl⟩

/-- The address of every block that a run sends. -/
theorem fwUpdateOfferSrecBlocks_address (device : HidDevice D) (waits : ℕ) (setup : Setup)
    (protocolSettings : CfuHidDeviceConfiguration) (offerPath : Option (List UInt8))
    (forceIgnoreVersion forceReset : UInt8) (d : D) {block : Transfer}
    (hblock : (fwUpdateOfferSrecBlocks device waits setup protocolSettings offerPath
      (some (payload records)) forceIgnoreVersion forceReset d)[k]? = some block) :
    ∃ record, records[k]? = some record ∧ block.startAddress = baseAddress records k ∧
      block.contentdata.address = record.address - baseAddress records k := by
  rcases fwUpdateOfferSrecBlocks_cases device waits setup protocolSettings offerPath
    (payload records) forceIgnoreVersion forceReset d with hnone | ⟨report, buffer, d', hblocks⟩
  · rw [hnone] at hblock
    simp at hblock
  · obtain ⟨t, hstart, hloop⟩ :=
      sendPayloadBlocks_payload device report waits records buffer d'
    rw [hblocks, hloop] at hblock
    have haddress := sentBlocks_address device report waits _ hstart d' hblock
    rw [Nat.zero_add] at haddress
    exact haddress

/-! ## A device that acknowledges every block -/

/-- It accepts the offer, and answers wait {lit}`k + 1` with the acknowledgement of block
{lit}`k`. -/
def promptDevice : HidDevice ℕ where
  setOutputReport _ d := (true, d)
  waitForReadEvent d :=
    (some (if d = 0 then [0x25, 0, 0, 0, 0, 0, 0, 0, 0, 0, 0, 0, 0, 1, 0, 0, 0]
      else successResponse 0x22 (UInt16.ofNat (d - 1))), d + 1)

/-- All blocks are sent to it. -/
theorem sentBlocks_promptDevice (report : HidReportIdInfo) (total : UInt32) {blocks : ℕ}
    (h : AtBlock records k t) {i : ℕ} (hi : k + i < records.length) (hblocks : i < blocks) :
    ∃ block, (sentBlocks promptDevice report 1 total blocks t (k + 1))[i]? = some block := by
  induction blocks generalizing k t i with
  | zero => omega
  | succ blocks ih =>
      have hk : k < records.length := by omega
      have hrecord : records[k]? = some records[k] := List.getElem?_eq_getElem hk
      have hanswer : awaitContentResponse promptDevice t.contentdata.sequenceNumber 1
          t.inputReportBuffer (k + 1) =
            (.acknowledged,
              overwrite t.inputReportBuffer (successResponse 0x22 (UInt16.ofNat k)),
              k + 1 + 1) := by
        have hwait : promptDevice.waitForReadEvent (k + 1) =
            (some (successResponse 0x22 (UInt16.ofNat k)), k + 1 + 1) := rfl
        rw [awaitContentResponse_received hwait, h.sequenceNumber,
          answerOf_response (isResponse_successResponse _ _)]
      have hsent : promptDevice.setOutputReport
          ((t.onRecord report total records[k]).outputReport report) (k + 1) =
            (true, k + 1) := rfl
      rw [sentBlocks_record promptDevice h hrecord, hsent]
      dsimp only
      rw [hanswer]
      cases i with
      | zero => exact ⟨_, rfl⟩
      | succ i =>
          dsimp only
          rw [List.getElem?_cons_succ]
          apply ih (h.advance hrecord report total _)
          · omega
          · omega

/-- In the run with it, every record of a payload file has its block. -/
theorem fwUpdateOfferSrecBlocks_promptDevice (hk : k < records.length) :
    ∃ block, (fwUpdateOfferSrecBlocks promptDevice 1 willingSetup standardSettings
      (some (List.replicate 16 0)) (some (payload records)) 0 0 0)[k]? = some block := by
  have hrun : fwUpdateOfferSrecBlocks promptDevice 1 willingSetup standardSettings
      (some (List.replicate 16 0)) (some (payload records)) 0 0 0 =
        sendPayloadBlocks promptDevice ⟨0x22, 60⟩ 1 (payload records)
          [0x25, 0, 0, 0, 0, 0, 0, 0, 0, 0, 0, 0, 0, 1, 0, 0, 0] 1 := rfl
  obtain ⟨t, hstart, hloop⟩ := sendPayloadBlocks_payload promptDevice ⟨0x22, 60⟩ 1 records
    [0x25, 0, 0, 0, 0, 0, 0, 0, 0, 0, 0, 0, 0, 1, 0, 0, 0] 1
  have hrounds := length_lt_roundsFor records
  rw [hrun, hloop]
  apply sentBlocks_promptDevice ⟨0x22, 60⟩ _ hstart
  · omega
  · omega

/-! ## Addresses that do not wrap -/

/-- Whatever the device and the settings are, the address of every block that is sent for
the payload file gives the address of its record back. -/
def AddressesRebased (records : List Record) : Prop :=
  ∀ (D : Type) (device : HidDevice D) (waits : ℕ) (setup : Setup)
    (protocolSettings : CfuHidDeviceConfiguration) (offerPath : Option (List UInt8))
    (forceIgnoreVersion forceReset : UInt8) (d : D) (k : ℕ) (block : Transfer) (record : Record),
    (fwUpdateOfferSrecBlocks device waits setup protocolSettings offerPath
      (some (payload records)) forceIgnoreVersion forceReset d)[k]? = some block →
    records[k]? = some record →
    block.contentdata.address.toNat + block.startAddress.toNat = record.address.toNat

/-- A record below its base is sent with a wrapped address. -/
theorem not_addressesRebased (hrecord : records[k]? = some record)
    (hbelow : record.address < baseAddress records k) : ¬ AddressesRebased records := by
  intro hrebased
  obtain ⟨hk, -⟩ := List.getElem?_eq_some_iff.mp hrecord
  obtain ⟨block, hblock⟩ := fwUpdateOfferSrecBlocks_promptDevice hk
  obtain ⟨record', hsame, hstart, haddress⟩ :=
    fwUpdateOfferSrecBlocks_address promptDevice 1 willingSetup standardSettings _ 0 0 0 hblock
  have hsum := hrebased ℕ promptDevice 1 willingSetup standardSettings _ 0 0 0 k block record
    hblock hrecord
  rw [hrecord, Option.some.injEq] at hsame
  rw [← hsame] at haddress
  rw [haddress, hstart, toNat_sub_add_iff] at hsum
  rw [UInt32.le_iff_toNat_le] at hsum
  rw [UInt32.lt_iff_toNat_lt] at hbelow
  omega

/-- For a payload file no address that is sent wraps, exactly when no record lies below
the first one; behind {lit}`2 ^ 32` records, below the one from which its block is
counted. -/
theorem addresses_rebased_iff (records : List Record) :
    AddressesRebased records ↔
      ∀ k record, records[k]? = some record → baseAddress records k ≤ record.address := by
  constructor
  · intro hrebased k record hrecord
    by_contra hbelow
    rw [UInt32.not_le] at hbelow
    exact not_addressesRebased hrecord hbelow hrebased
  · intro habove D device waits setup protocolSettings offerPath forceIgnoreVersion forceReset d k
      block record hblock hrecord
    obtain ⟨record', hsame, hstart, haddress⟩ := fwUpdateOfferSrecBlocks_address device waits setup
      protocolSettings offerPath forceIgnoreVersion forceReset d hblock
    rw [hrecord, Option.some.injEq] at hsame
    rw [haddress, hstart, ← hsame, toNat_sub_add_iff]
    exact habove k record hrecord

end Addresses

/-- An image whose second record lies below the first one. -/
def descendingImage : List Record :=
  [byteRecord 0x2000 0xAA, byteRecord 0x1000 0xAA]

/-- Its second block is sent to an address near the end of the address space. -/
theorem descendingImage_wraps :
    ((fwUpdateOfferSrecBlocks promptDevice 1 willingSetup standardSettings
        (some (List.replicate 16 0)) (some (payload descendingImage)) 0 0 0).map
          fun block => block.contentdata.address) = [0, 0xFFFFF000] ∧
      ¬ AddressesRebased descendingImage := by
  refine ⟨by decide, ?_⟩
  exact not_addressesRebased (k := 1) rfl (by decide)

end Tool
end CFU
