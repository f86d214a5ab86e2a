import CFU.Tool.Script

/-!
# CFU tool - acknowledgements in lock step

The tool compares the sequence number of a response with that of the pending block
and nothing else, and sequence numbers wrap after {lit}`2 ^ 16` blocks.  A device
answers each block, and may deliver its responses to the last 65535 blocks again at
any time.  None of these has the number of the pending block, so the tool skips them
and keeps in step with the device however long the image is.

Main results:

- Theorem {lit}`answerOf_redelivered`: a response to one of the last 65535 blocks keeps the
  tool waiting.
- Theorem {lit}`awaitContentResponse_lockStep`: the wait for a block ends with its own
  response.
- Theorem {lit}`lockStep_across_wrap`: the blocks are sent once each, in order, each
  behind the response to the one before.
-/

namespace CFU
namespace Tool

open Buffer LittleEndian

variable {waits : ℕ}

/-! ## Redelivered responses -/

/-- A response to one of the 65535 blocks before block {lit}`k`. -/
def Redelivered (k : ℕ) (inputReport : List UInt8) : Prop :=
  ∃ j, j < k ∧ k ≤ j + 65535 ∧ IsResponse (UInt16.ofNat j) inputReport

/-- Blocks that are less than {lit}`2 ^ 16` apart have different sequence numbers. -/
theorem sequenceNumber_ne {j k : ℕ} (hlt : j < k) (hle : k ≤ j + 65535) :
    UInt16.ofNat j ≠ UInt16.ofNat k := by
  intro hsame
  have hnat := congrArg UInt16.toNat hsame
  rw [UInt16.toNat_ofNat', UInt16.toNat_ofNat'] at hnat
  omega

/-- A response to one of the last 65535 blocks keeps the tool waiting. -/
theorem answerOf_redelivered {k : ℕ} {inputReport : List UInt8} (h : Redelivered k inputReport)
    (inputReportBuffer : List UInt8) :
    answerOf (UInt16.ofNat k) (overwrite inputReportBuffer inputReport) = none := by
  obtain ⟨j, hlt, hle, hresponse⟩ := h
  have hne := sequenceNumber_ne hlt hle
  rw [answerOf_overwrite hresponse.size, answerOf_eq_none_iff, hresponse.sequenceNumber]
  exact ⟨hresponse.status, hne⟩

/-! ## Devices that answer each block -/

/-- A device that answers each of the blocks it was sent with one response, before
which it may deliver responses to the last 65535 blocks again. -/
structure AnsweringDevice (waits : ℕ) where
  redeliveries : List (List UInt8) → List (Option (List UInt8))
  response : List (List UInt8) → List UInt8
  redelivered {sent : List (List UInt8)} {k : ℕ} (hsent : sent.length = k + 1)
    {inputReport : List UInt8} (hdelivered : some inputReport ∈ redeliveries sent) :
    Redelivered k inputReport
  responds {sent : List (List UInt8)} {k : ℕ} (hsent : sent.length = k + 1) :
    IsResponse (UInt16.ofNat k) (response sent)
  length_redeliveries_lt (sent : List (List UInt8)) : (redeliveries sent).length < waits

def AnsweringDevice.script (device : AnsweringDevice waits) : Script waits where
  takes _ := true
  deliveries sent := device.redeliveries sent ++ [some (device.response sent)]
  length_deliveries_le sent := by
    rw [List.length_append]
    exact device.length_redeliveries_lt sent

/-- What the log shows of a delivery. -/
def Exchange.delivered : Option (List UInt8) → Exchange
  | none => .timedOut
  | some inputReport => .received inputReport

/-- The wait for a block ends with its own response. -/
theorem awaitContentResponse_lockStep (script : Script waits) {k waits' : ℕ}
    {redeliveries : List (Option (List UInt8))} {response : List UInt8}
    (hredelivered : ∀ inputReport, some inputReport ∈ redeliveries → Redelivered k inputReport)
    (hresponse : IsResponse (UInt16.ofNat k) response) (hwaits : redeliveries.length < waits')
    (inputReportBuffer : List UInt8) (sent : List (List UInt8)) (log : List Exchange) :
    ∃ inputReportBuffer',
      awaitContentResponse script.device.logged (UInt16.ofNat k) waits' inputReportBuffer
          ⟨⟨sent, redeliveries ++ [some response]⟩, log⟩ =
        (.acknowledged, inputReportBuffer', ⟨⟨sent, []⟩,
          log ++ (redeliveries.map Exchange.delivered ++ [.received response])⟩) := by
  induction redeliveries generalizing waits' inputReportBuffer log with
  | nil =>
      obtain ⟨waits', rfl⟩ := Nat.exists_eq_add_one_of_ne_zero (Nat.ne_zero_of_lt hwaits)
      refine ⟨overwrite inputReportBuffer response, ?_⟩
      rw [List.nil_append, awaitContentResponse_received (script_received ..),
        answerOf_response hresponse]
      rfl
  | cons delivery redeliveries ih =>
      obtain ⟨waits', rfl⟩ := Nat.exists_eq_add_one_of_ne_zero (Nat.ne_zero_of_lt hwaits)
      have hless : redeliveries.length < waits' := Nat.lt_of_succ_lt_succ hwaits
      have hrest : ∀ inputReport, some inputReport ∈ redeliveries → Redelivered k inputReport :=
        fun inputReport hmem => hredelivered inputReport (List.mem_cons_of_mem _ hmem)
      cases delivery with
      | none =>
          obtain ⟨buffer', hawait⟩ := ih hrest hless inputReportBuffer (log ++ [.timedOut])
          refine ⟨buffer', ?_⟩
          rw [List.cons_append, awaitContentResponse_timedOut (script_timedOut ..), hawait,
            List.append_assoc]
          rfl
      | some inputReport =>
          have hskipped := answerOf_redelivered
            (hredelivered inputReport List.mem_cons_self) inputReportBuffer
          obtain ⟨buffer', hawait⟩ := ih hrest hless (overwrite inputReportBuffer inputReport)
            (log ++ [.received inputReport])
          refine ⟨buffer', ?_⟩
          rw [List.cons_append, awaitContentResponse_received (script_received ..), hskipped]
          dsimp only
          rw [hawait, List.append_assoc]
          rfl

/-! ## Rounds in lock step -/

/-- The exchanges of the block that is the last of the reports {lit}`sent`: it carries
its record, and the flag of the last block if it is the last of {lit}`n` blocks, and the
tool waits for all redeliveries and ends with the response to the block. -/
structure LockStepRound (device : AnsweringDevice waits) (startAddress : UInt32) (n : ℕ)
    (sent : List (List UInt8)) (record : Record) (round : Round) : Prop where
  address : round.contentdata.address = record.address - startAddress
  length : round.contentdata.length = record.length
  data : round.contentdata.data.take record.data.length = record.data
  sequenceNumber : round.contentdata.sequenceNumber = UInt16.ofNat (sent.length - 1)
  lastBlock : round.contentdata.flags &&& firmwareUpdateFlagLastBlock ≠ 0 ↔ sent.length = n
  waited : round.waited = (device.redeliveries sent).map Exchange.delivered
  answer : round.answer = device.response sent

/-- Each record has its round, behind the rounds that sent {lit}`sent`. -/
def InLockStep (device : AnsweringDevice waits) (report : HidReportIdInfo)
    (startAddress : UInt32) (n : ℕ) : List (List UInt8) → List Record → List Round → Prop
  | _, [], [] => True
  | sent, record :: records, round :: rounds =>
      let sent := sent ++ [round.contentdata.toBytes.take (report.size.toNat + 1)]
      LockStepRound device startAddress n sent record round ∧
        InLockStep device report startAddress n sent records rounds
  | _, _, _ => False

/-- With fewer than {lit}`2 ^ 32` blocks the two counters meet at the last block only. -/
theorem blockFlags_lastBlock_iff {k n : ℕ} (hk : k < n) (hn : n < 2 ^ 32) :
    blockFlags (UInt32.ofNat n) (UInt32.ofNat k) &&& firmwareUpdateFlagLastBlock ≠ 0 ↔
      k + 1 = n := by
  have hcounters : UInt32.ofNat k + 1 = UInt32.ofNat n ↔ k + 1 = n := by
    have hsucc : UInt32.ofNat k + 1 = UInt32.ofNat (k + 1) := (UInt32.ofNat_add k 1).symm
    rw [hsucc, ← UInt32.toNat_inj, UInt32.toNat_ofNat', UInt32.toNat_ofNat',
      Nat.mod_eq_of_lt hn, Nat.mod_eq_of_lt (Nat.lt_of_le_of_lt hk hn)]
  unfold blockFlags
  by_cases hlast : k + 1 = n
  · have hmeet := hcounters.mpr hlast
    rw [if_pos (beq_iff_eq.mpr hmeet)]
    exact iff_of_true (by decide) hlast
  · have hapart : ¬ (UInt32.ofNat k + 1 == UInt32.ofNat n) = true := by
      rw [beq_iff_eq, hcounters]
      exact hlast
    rw [if_neg hapart]
    apply iff_of_false _ hlast
    split
    · decide
    · decide

/-! ## The variables of the sending loop -/

section Variables

variable {D : Type} (device : HidDevice D) (report : HidReportIdInfo) (waits : ℕ)

/-- The sending loop again, with its variables when it comes to the end of the file. -/
def sendBlocksEnd (totalContentPacketCount : UInt32) : ℕ → Transfer → D → Option (Transfer × D)
  | 0, _, _ => none
  | blocks + 1, t, d =>
      match processSrecBin t.stream t.contentdata with
      | .error _ => none
      | .ok (false, stream, contentdata) =>
          some ({ t with stream := stream, contentdata := contentdata }, d)
      | .ok (true, stream, contentdata) =>
          let t := t.prepareBlock report totalContentPacketCount stream contentdata
          match device.setOutputReport (t.outputReport report) d with
          | (false, _) => none
          | (true, d) =>
              match awaitContentResponse device t.contentdata.sequenceNumber waits
                t.inputReportBuffer d with
              | (.acknowledged, inputReportBuffer, d) =>
                  sendBlocksEnd totalContentPacketCount blocks (t.advance inputReportBuffer) d
              | _ => none

/-- Both passes, with {lit}`totalContentPacketCount` and the variables at the end. -/
def sendPayloadEnd (srecBinFile inputReportBuffer : List UInt8) (d : D) :
    Option (UInt32 × Transfer × D) :=
  let contentdata := { ContentData.zero with flags := firmwareUpdateFlagFirstBlock }
  match countContentPackets (roundsFor srecBinFile) (.openFile srecBinFile) contentdata 0 with
  | .error _ => none
  | .ok (totalContentPacketCount, stream, contentdata) =>
      (sendBlocksEnd device report waits totalContentPacketCount (roundsFor srecBinFile)
        { stream := stream.clear.seekBeginning
          contentdata := contentdata
          startAddress := 0
          contentPacketsSent := 0
          inputReportBuffer := inputReportBuffer } d).map (Prod.mk totalContentPacketCount)

variable {device report waits}

theorem transferCompleted_self (total : UInt32) : transferCompleted total total = true := by
  simp [transferCompleted]

/-- At the end the loop compares the counters. -/
theorem sendBlocks_of_end {total : UInt32} {blocks : ℕ} {t t' : Transfer} {d d' : D}
    (h : sendBlocksEnd device report waits total blocks t d = some (t', d')) :
    sendBlocks device report waits total blocks t d =
      (.returned (transferCompleted total t'.contentPacketsSent), d') := by
  induction blocks generalizing t d with
  | zero => cases h
  | succ blocks ih =>
      rw [sendBlocksEnd] at h
      rw [sendBlocks]
      rcases hcall : processSrecBin t.stream t.contentdata with fault |
        ⟨_ | _, stream, contentdata⟩
      · rw [hcall] at h
        cases h
      · rw [hcall] at h
        cases h
        rfl
      · rw [hcall] at h
        dsimp only at h ⊢
        generalize t.prepareBlock report total stream contentdata = t₁ at h ⊢
        rcases hsent : device.setOutputReport (t₁.outputReport report) d with ⟨_ | _, d₁⟩
        · rw [hsent] at h
          cases h
        · rw [hsent] at h
          dsimp only at h ⊢
          rcases hawait : awaitContentResponse device t₁.contentdata.sequenceNumber waits
            t₁.inputReportBuffer d₁ with ⟨_ | _ | _, buffer, d₂⟩
          · rw [hawait] at h
            exact ih h
          · rw [hawait] at h
            cases h
          · rw [hawait] at h
            cases h

theorem sendPayload_of_end {srecBinFile inputReportBuffer : List UInt8} {d d' : D}
    {total : UInt32} {t : Transfer}
    (h : sendPayloadEnd device report waits srecBinFile inputReportBuffer d =
      some (total, t, d')) :
    sendPayload device report waits srecBinFile inputReportBuffer d =
      (.returned (transferCompleted total t.contentPacketsSent), d') := by
  unfold sendPayloadEnd at h
  unfold sendPayload
  dsimp only at h ⊢
  rcases hcount : countContentPackets (roundsFor srecBinFile) (.openFile srecBinFile)
    { ContentData.zero with flags := firmwareUpdateFlagFirstBlock } 0 with
    outcome | ⟨total', stream, contentdata⟩
  · rw [hcount] at h
    cases h
  · rw [hcount] at h
    obtain ⟨_, hend, hsame⟩ := Option.map_eq_some_iff.mp h
    cases hsame
    exact sendBlocks_of_end hend

/-- On a payload file the loop starts with the number of its records. -/
theorem sendPayloadEnd_payload (records : List Record) (inputReportBuffer : List UInt8) (d : D) :
    ∃ t, StartsOn t records inputReportBuffer ∧
      sendPayloadEnd device report waits (payload records) inputReportBuffer d =
        (sendBlocksEnd device report waits (UInt32.ofNat records.length)
          (roundsFor (payload records)) t d).map (Prod.mk (UInt32.ofNat records.length)) := by
  obtain ⟨stream, contentdata, hcount, hstarts⟩ :=
    countContentPackets_startsOn records inputReportBuffer
  refine ⟨_, hstarts, ?_⟩
  rw [sendPayloadEnd]
  dsimp only
  rw [hcount]

end Variables

/-! ## The sending loop -/

/-- The variables of the sending loop before block {lit}`k`, with {lit}`records` to come. -/
structure BeforeBlock (startAddress : UInt32) (k : ℕ) (records : List Record) (t : Transfer) :
    Prop where
  good : t.stream.good = true
  rest : t.stream.rest = payload records
  sequenceNumber : t.contentdata.sequenceNumber = UInt16.ofNat k
  contentPacketsSent : t.contentPacketsSent = UInt32.ofNat k
  startAddress : ∀ record ∈ records.head?,
    blockStart t.contentPacketsSent t.startAddress record.address = startAddress

section Loop

variable {device : AnsweringDevice waits} {report : HidReportIdInfo} {startAddress : UInt32}
  {k n : ℕ} {record : Record} {records : List Record} {t : Transfer}

/-- Behind a block come the variables before the next one. -/
theorem BeforeBlock.advance (h : BeforeBlock startAddress k (record :: records) t)
    (hk : k + 1 < 2 ^ 32) (report : HidReportIdInfo) (total : UInt32)
    (inputReportBuffer : List UInt8) :
    BeforeBlock startAddress (k + 1) records
      ((t.onRecord report total record).advance inputReportBuffer) where
  good := h.good
  rest := Record.behind_rest h.rest
  sequenceNumber := by
    show t.contentdata.sequenceNumber + 1 = _
    rw [h.sequenceNumber, UInt16.ofNat_add]
    rfl
  contentPacketsSent := by
    show t.contentPacketsSent + 1 = _
    rw [h.contentPacketsSent, UInt32.ofNat_add]
    rfl
  startAddress := by
    intro next _
    show blockStart (t.contentPacketsSent + 1)
      (blockStart t.contentPacketsSent t.startAddress record.address) next.address = _
    have hnonzero : ¬ (UInt32.ofNat k + 1 == 0) = true := by
      rw [beq_iff_eq, ← UInt32.toNat_inj, UInt32.toNat_add, UInt32.toNat_ofNat']
      simp only [UInt32.toNat_one, UInt32.toNat_zero]
      omega
    rw [h.startAddress record rfl, h.contentPacketsSent, blockStart, if_neg hnonzero]

/-- The round that the tool makes of a record. -/
def roundOf (device : AnsweringDevice waits) (report : HidReportIdInfo) (total : UInt32)
    (t : Transfer) (record : Record) (sent : List (List UInt8)) : Round where
  contentdata := (t.onRecord report total record).contentdata
  waited := (device.redeliveries sent).map Exchange.delivered
  answer := device.response sent

/-- One round of the sending loop. -/
theorem sendBlocksEnd_round (device : AnsweringDevice waits) (report : HidReportIdInfo)
    (h : BeforeBlock startAddress k (record :: records) t) (total : UInt32)
    (blocks : ℕ) {sent : List (List UInt8)} (hsent : sent.length = k)
    (pending : List (Option (List UInt8))) (log : List Exchange) :
    let sent' := sent ++ [(t.onRecord report total record).outputReport report]
    ∃ inputReportBuffer,
      sendBlocksEnd device.script.device.logged report waits total (blocks + 1) t
          ⟨⟨sent, pending⟩, log⟩ =
        sendBlocksEnd device.script.device.logged report waits total blocks
          ((t.onRecord report total record).advance inputReportBuffer)
          ⟨⟨sent', []⟩, log ++ (roundOf device report total t record sent').exchanges report⟩ := by
  dsimp only
  have hlength : (sent ++ [(t.onRecord report total record).outputReport report]).length =
      k + 1 := by
    rw [List.length_append, hsent]
    rfl
  have hrest : t.stream.rest = record.toBytes ++ payload records := h.rest
  have hsequence : (t.onRecord report total record).contentdata.sequenceNumber =
      UInt16.ofNat k := h.sequenceNumber
  obtain ⟨buffer', hawait⟩ := awaitContentResponse_lockStep device.script
    (fun _ => device.redelivered hlength) (device.responds hlength)
    (device.length_redeliveries_lt _) (t.onRecord report total record).inputReportBuffer
    (sent ++ [(t.onRecord report total record).outputReport report])
    (log ++ [.sent ((t.onRecord report total record).outputReport report) true])
  refine ⟨buffer', ?_⟩
  rw [sendBlocksEnd, processSrecBin_record h.good t.contentdata hrest]
  dsimp only
  rw [← Transfer.onRecord, script_setOutputReport, hsequence]
  dsimp only [AnsweringDevice.script] at hawait ⊢
  rw [hawait]
  dsimp only
  rw [List.append_assoc]
  rfl

/-- It carries the record and ends with the response of the device. -/
theorem lockStepRound_roundOf (h : BeforeBlock startAddress k (record :: records) t)
    (hk : k < n) (hn : n < 2 ^ 32) {sent : List (List UInt8)} (hsent : sent.length = k + 1) :
    LockStepRound device startAddress n sent record
      (roundOf device report (UInt32.ofNat n) t record sent) where
  address := congrArg (record.address - ·) (h.startAddress record rfl)
  length := rfl
  data := take_overwrite _ _
  sequenceNumber := by
    rw [hsent]
    exact h.sequenceNumber
  lastBlock := by
    have hflags := blockFlags_lastBlock_iff hk hn
    rw [← h.contentPacketsSent] at hflags
    rw [hsent]
    exact hflags
  waited := rfl
  answer := rfl

/-- The loop comes to the end of the file in lock step. -/
theorem sendBlocksEnd_lockStep (device : AnsweringDevice waits) (report : HidReportIdInfo)
    (hn : n < 2 ^ 32) (hk : k + records.length = n)
    (h : BeforeBlock startAddress k records t) {blocks : ℕ} (hblocks : records.length < blocks)
    {sent : List (List UInt8)} (hsent : sent.length = k) (pending : List (Option (List UInt8)))
    (log : List Exchange) :
    ∃ rounds t' e,
      sendBlocksEnd device.script.device.logged report waits (UInt32.ofNat n) blocks t
          ⟨⟨sent, pending⟩, log⟩ = some (t', e) ∧
      t'.contentPacketsSent = UInt32.ofNat n ∧
      e.log = log ++ rounds.flatMap (Round.exchanges report) ∧
      InLockStep device report startAddress n sent records rounds := by
  induction records generalizing k t blocks sent pending log with
  | nil =>
      obtain ⟨blocks, rfl⟩ := Nat.exists_eq_add_one_of_ne_zero (Nat.ne_zero_of_lt hblocks)
      obtain rfl : k = n := hk
      obtain ⟨stream, hend, -⟩ := processSrecBin_end h.good t.contentdata h.rest
      rw [sendBlocksEnd, hend]
      exact ⟨[], _, _, rfl, h.contentPacketsSent, (List.append_nil log).symm, trivial⟩
  | cons record records ih =>
      obtain ⟨blocks, rfl⟩ := Nat.exists_eq_add_one_of_ne_zero (Nat.ne_zero_of_lt hblocks)
      rw [List.length_cons] at hk hblocks
      obtain ⟨buffer, hround⟩ :=
        sendBlocksEnd_round device report h (UInt32.ofNat n) blocks hsent pending log
      have hlength : (sent ++
          [(t.onRecord report (UInt32.ofNat n) record).outputReport report]).length = k + 1 := by
        rw [List.length_append, hsent]
        rfl
      have hless : k < n := by omega
      have hnext := h.advance (by omega) report (UInt32.ofNat n) buffer
      obtain ⟨rounds, t', e, hend, hcount, hlog, hrounds⟩ :=
        ih (by omega) hnext (Nat.lt_of_succ_lt_succ hblocks) hlength []
          (log ++ (roundOf device report (UInt32.ofNat n) t record _).exchanges report)
      refine ⟨roundOf device report (UInt32.ofNat n) t record
        (sent ++ [(t.onRecord report (UInt32.ofNat n) record).outputReport report]) :: rounds,
        t', e, hround.trans hend, hcount, ?_,
        ⟨lockStepRound_roundOf h hless hn hlength, hrounds⟩⟩
      rw [hlog, List.flatMap_cons, List.append_assoc]

end Loop

/-- For every number of blocks below {lit}`2 ^ 32` the tool sends each block once, in
order, and the next one behind the response to the block itself.  Only the last block
carries the flag of the last block, and the loop ends with as many packets sent as were
counted. -/
theorem lockStep_across_wrap (device : AnsweringDevice waits) (report : HidReportIdInfo)
    (records : List Record) (hn : records.length < 2 ^ 32) (inputReportBuffer : List UInt8)
    (log : List Exchange) :
    ∃ rounds total t e,
      sendPayloadEnd device.script.device.logged report waits (payload records)
          inputReportBuffer ⟨⟨[], []⟩, log⟩ = some (total, t, e) ∧
      e.log = log ++ rounds.flatMap (Round.exchanges report) ∧
      InLockStep device report (firstAddress records) records.length [] records rounds ∧
      t.contentPacketsSent = total ∧
      sendPayload device.script.device.logged report waits (payload records)
          inputReportBuffer ⟨⟨[], []⟩, log⟩ = (.returned true, e) := by
  obtain ⟨t, hstarts, hrun⟩ := sendPayloadEnd_payload records inputReportBuffer
    (⟨⟨[], []⟩, log⟩ : Logged ScriptState)
  have hbefore : BeforeBlock (firstAddress records) 0 records t := by
    refine ⟨hstarts.good, hstarts.rest, hstarts.sequenceNumber, hstarts.contentPacketsSent, ?_⟩
    intro record hfirst
    have hfirstBlock : blockStart 0 t.startAddress record.address = record.address := rfl
    rw [Option.mem_def] at hfirst
    rw [hstarts.contentPacketsSent, hfirstBlock, firstAddress, hfirst]
    rfl
  obtain ⟨rounds, t', e, hend, hcount, hlog, hrounds⟩ :=
    sendBlocksEnd_lockStep device report hn (Nat.zero_add _) hbefore
      (length_lt_roundsFor records) List.length_nil [] log
  rw [hend, Option.map_some] at hrun
  have hreturned := sendPayload_of_end hrun
  rw [hcount, transferCompleted_self] at hreturned
  exact ⟨rounds, _, t', e, hrun, hlog, hrounds, hcount, hreturned⟩

/-! ## A device that repeats itself -/

/-- A content response of full size that reports success. -/
def successResponse (id : UInt8) (sequenceNumber : UInt16) : List UInt8 :=
  id :: bytes 2 sequenceNumber.toNat ++ List.replicate 14 0

theorem isResponse_successResponse (id : UInt8) (sequenceNumber : UInt16) :
    IsResponse sequenceNumber (successResponse id sequenceNumber) where
  size := by
    rw [successResponse, List.length_append, List.length_cons, length_bytes]
    decide
  status := rfl
  sequenceNumber := by
    have hbytes : ((successResponse id sequenceNumber).drop 1).take 2 =
        bytes 2 sequenceNumber.toNat := rfl
    rw [contentResponseSequenceNumber, hbytes, value_bytes_uint16, UInt16.ofNat_toNat]

/-- It delivers its last response once more, lets a wait time out and answers. -/
def repeatingDevice : AnsweringDevice 3 where
  redeliveries sent :=
    if sent.length ≤ 1 then [none]
    else [some (successResponse 0x22 (UInt16.ofNat (sent.length - 2))), none]
  response sent := successResponse 0x22 (UInt16.ofNat (sent.length - 1))
  redelivered := by
    intro sent k hsent inputReport hdelivered
    split at hdelivered
    · simp at hdelivered
    · rename_i hmany
      have hsame : inputReport = successResponse 0x22 (UInt16.ofNat (sent.length - 2)) := by
        simpa using hdelivered
      refine ⟨sent.length - 2, by omega, by omega, ?_⟩
      rw [hsame]
      exact isResponse_successResponse _ _
  responds := by
    intro sent k hsent
    rw [hsent]
    exact isResponse_successResponse _ _
  length_redeliveries_lt sent := by
    split
    · show 1 < 3
      omega
    · show 2 < 3
      omega

/-- An image of more blocks than there are sequence numbers. -/
def longImage : List Record :=
  List.replicate 70000 ⟨0x1000, [0xAA], by decide, by decide⟩

theorem lockStep_longImage :
    ∃ rounds total t e,
      sendPayloadEnd repeatingDevice.script.device.logged ⟨0x22, 60⟩ 3 (payload longImage)
          (List.replicate 17 0) ⟨⟨[], []⟩, []⟩ = some (total, t, e) ∧
      e.log = [] ++ rounds.flatMap (Round.exchanges ⟨0x22, 60⟩) ∧
      InLockStep repeatingDevice ⟨0x22, 60⟩ (firstAddress longImage) longImage.length []
        longImage rounds ∧
      t.contentPacketsSent = total ∧
      sendPayload repeatingDevice.script.device.logged ⟨0x22, 60⟩ 3 (payload longImage)
          (List.replicate 17 0) ⟨⟨[], []⟩, []⟩ = (.returned true, e) :=
  lockStep_across_wrap repeatingDevice ⟨0x22, 60⟩ longImage
    (by rw [longImage, List.length_replicate]; decide) (List.replicate 17 0) []

end Tool
end CFU
