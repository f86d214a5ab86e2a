import CFU.Transfer.EngineDevice

/-!
# CFU transfer - the sending loop against the engine

The tool walks a payload file of records, and the engine answers block by block.
Along the walk the active component and the registration list stay, so the calls
of every block are for one component.

Main results:

- Theorem {lit}`sendBlocks_calls_of_returned`: when the tool returns success, the
  engine made the calls of every planned block, in order.
- Theorem {lit}`sendBlocks_returns`: when no call for the component fails, the tool
  comes to the end of the file.
-/

namespace CFU
namespace Transfer

open Firmware Tool

variable {W : Type} {n : ℕ}

/-! ## The sending loop on the engine -/

section Loop

variable {P : Platform W n} {ids : ReportIds} {pResponse : FwUpdateOfferResponse}
  {report : HidReportIdInfo} {totalContentPacketCount : UInt32} {waits blocks : ℕ}

/-- The sending loop against the engine. -/
abbrev engineLoop (P : Platform W n) (ids : ReportIds) (pResponse : FwUpdateOfferResponse)
    (report : HidReportIdInfo) (totalContentPacketCount : UInt32) (waits blocks : ℕ)
    (t : Transfer) (d : DeviceState W n) : Outcome × DeviceState W n :=
  sendBlocks (engineDevice P ids pResponse) report (waits + 1) totalContentPacketCount blocks t d

/-- The configuration after a block that the engine answered with success. -/
theorem content_step_of_success {c : Config W n} {pCommand : FwUpdateContentCommand}
    {block : Block} (hcarries : Carries pCommand block) {blockCalls : List (Call n)}
    (h : (step P c (.content pCommand)).1 =
      contentOutput pCommand blockCalls firmwareUpdateStatusSuccess) :
    BlockCalls c.engine.currentOffer.activeComponentId
        (c.engine.lookup P c.engine.currentOffer.activeComponentId) block blockCalls ∧
      ∃ c', step P c (.content pCommand) =
          (contentOutput pCommand blockCalls firmwareUpdateStatusSuccess, some c') ∧
        KeepsComponent block c.engine c'.engine := by
  have hexec := contentExec_step P c pCommand
  rw [h] at hexec
  obtain ⟨hcalls, s', hafter, hkeeps⟩ := blockCalls_of_success hcarries hexec
  obtain ⟨c', hc', rfl⟩ := Option.map_eq_some_iff.mp hafter
  exact ⟨hcalls, c', Prod.ext h hc', hkeeps⟩

/-- The calls of a block are among the calls of the loop that sends it. -/
theorem content_calls_among {t : Transfer} (hgood : t.stream.good = true) {record : Record}
    {tail : List UInt8} (hrest : t.stream.rest = record.toBytes ++ tail)
    (hid : report.id = ids.content) (hsize : report.size = 60) (c : Config W n)
    (calls : List (Call n)) :
    (step P c (.content (recordCommand t report totalContentPacketCount record))).1.calls <:+:
      (engineLoop P ids pResponse report totalContentPacketCount waits (blocks + 1) t
        (.quiet c calls)).2.calls := by
  rcases hstep : step P c (.content (recordCommand t report totalContentPacketCount record))
    with ⟨output, after⟩
  have hcases := content_output_cases P c (recordCommand t report totalContentPacketCount record)
  rw [hstep] at hcases
  rcases hcases with ⟨blockCalls, status, rfl⟩ | ⟨blockCalls, reason, rfl⟩
  · obtain ⟨inputReportBuffer, hround⟩ :=
      sendBlocks_answered pResponse hgood hrest hid hsize hstep waits blocks calls
    have hend : blockCalls <:+: calls ++ blockCalls := (List.suffix_append calls _).isInfix
    rw [engineLoop, hround]
    by_cases hstatus : status = firmwareUpdateStatusSuccess
    · rw [if_pos hstatus]
      have hgrows := sendBlocks_monotone (engineDevice_respects_calls P ids pResponse) report
        (waits + 1) totalContentPacketCount blocks
        ((t.onRecord report totalContentPacketCount record).advance inputReportBuffer)
        ⟨after, calls ++ blockCalls, []⟩
      exact hend.trans hgrows.isInfix
    · rw [if_neg hstatus]
      exact hend
  · rw [engineLoop, sendBlocks_hung pResponse hgood hrest hid hsize hstep]
    exact (List.suffix_append calls _).isInfix

section Induction

variable (hid : report.id = ids.content) (hsize : report.size = 60)

include hid hsize

/-- A round whose block is answered with success goes on with the next record and
the same component. -/
theorem round_of_success {t : Transfer} (hgood : t.stream.good = true) {record : Record}
    {tail : List UInt8} (hrest : t.stream.rest = record.toBytes ++ tail) {c : Config W n}
    {blockCalls : List (Call n)}
    (h : (step P c (.content (recordCommand t report totalContentPacketCount record))).1 =
      contentOutput (recordCommand t report totalContentPacketCount record) blockCalls
        firmwareUpdateStatusSuccess) (waits blocks : ℕ) (calls : List (Call n)) :
    BlockCalls c.engine.currentOffer.activeComponentId
        (c.engine.lookup P c.engine.currentOffer.activeComponentId)
        (plannedBlock t totalContentPacketCount record) blockCalls ∧
      ∃ c' t', KeepsComponent (plannedBlock t totalContentPacketCount record)
          c.engine c'.engine ∧
        t'.stream.good = true ∧ t'.stream.rest = tail ∧
        t'.contentPacketsSent = t.contentPacketsSent + 1 ∧
        t'.startAddress = blockStart t.contentPacketsSent t.startAddress record.address ∧
        engineLoop P ids pResponse report totalContentPacketCount waits (blocks + 1) t
            (.quiet c calls) =
          engineLoop P ids pResponse report totalContentPacketCount waits blocks t'
            (.quiet c' (calls ++ blockCalls)) := by
  obtain ⟨hcalls, c', hstep, hkeeps⟩ := content_step_of_success
    (carries_recordCommand t report totalContentPacketCount record) h
  obtain ⟨inputReportBuffer, hround⟩ :=
    sendBlocks_answered pResponse hgood hrest hid hsize hstep waits blocks calls
  rw [if_pos rfl] at hround
  exact ⟨hcalls, c', (t.onRecord report totalContentPacketCount record).advance inputReportBuffer,
    hkeeps, hgood, Record.behind_rest hrest, rfl, rfl, hround⟩

/-- A tool that returns success had its block answered with success. -/
theorem success_of_returned {t : Transfer} (hgood : t.stream.good = true) {record : Record}
    {tail : List UInt8} (hrest : t.stream.rest = record.toBytes ++ tail) {c : Config W n}
    {calls : List (Call n)}
    (hreturned : (engineLoop P ids pResponse report totalContentPacketCount waits (blocks + 1) t
      (.quiet c calls)).1 = .returned true) :
    ∃ blockCalls,
      (step P c (.content (recordCommand t report totalContentPacketCount record))).1 =
        contentOutput (recordCommand t report totalContentPacketCount record) blockCalls
          firmwareUpdateStatusSuccess := by
  rcases hstep : step P c (.content (recordCommand t report totalContentPacketCount record))
    with ⟨output, after⟩
  have hcases := content_output_cases P c (recordCommand t report totalContentPacketCount record)
  rw [hstep] at hcases
  rcases hcases with ⟨blockCalls, status, rfl⟩ | ⟨blockCalls, reason, rfl⟩
  · obtain ⟨inputReportBuffer, hround⟩ :=
      sendBlocks_answered pResponse hgood hrest hid hsize hstep waits blocks calls
    by_cases hstatus : status = firmwareUpdateStatusSuccess
    · exact ⟨blockCalls, by rw [hstatus]⟩
    · rw [engineLoop, hround, if_neg hstatus] at hreturned
      simp at hreturned
  · rw [engineLoop, sendBlocks_hung pResponse hgood hrest hid hsize hstep] at hreturned
    simp at hreturned

/-- When the tool returns success the engine made the calls of every planned
block, in order. -/
theorem sendBlocks_calls_of_returned {records : List Record} {t : Transfer}
    (hgood : t.stream.good = true) (hrest : t.stream.rest = payload records)
    (hblocks : records.length < blocks) {c : Config W n} {calls : List (Call n)}
    (hreturned : (engineLoop P ids pResponse report totalContentPacketCount waits blocks t
      (.quiet c calls)).1 = .returned true) :
    ∃ c' blockCalls,
      (engineLoop P ids pResponse report totalContentPacketCount waits blocks t
        (.quiet c calls)).2 = .quiet c' (calls ++ blockCalls.flatten) ∧
      List.Forall₂ (BlockCalls c.engine.currentOffer.activeComponentId
          (c.engine.lookup P c.engine.currentOffer.activeComponentId))
        (blockPlan totalContentPacketCount t.contentPacketsSent t.startAddress records)
        blockCalls ∧
      c'.engine.bankSwapPending = (c.engine.bankSwapPending ||
        (blockPlan totalContentPacketCount t.contentPacketsSent t.startAddress records).any
          Block.completes) := by
  induction records generalizing blocks t c calls with
  | nil =>
      obtain ⟨blocks, rfl⟩ := Nat.exists_eq_add_one_of_ne_zero (Nat.ne_zero_of_lt hblocks)
      refine ⟨c, [], ?_, .nil, (Bool.or_false _).symm⟩
      rw [engineLoop, sendBlocks_end _ hgood hrest, List.flatten_nil, List.append_nil]
  | cons record records ih =>
      obtain ⟨blocks, rfl⟩ := Nat.exists_eq_add_one_of_ne_zero (Nat.ne_zero_of_lt hblocks)
      obtain ⟨blockCalls, hsuccess⟩ := success_of_returned hid hsize hgood hrest hreturned
      obtain ⟨hcalls, c', t', hkeeps, hgood', hrest', hsent, hstart, hround⟩ :=
        round_of_success hid hsize hgood hrest hsuccess waits blocks calls
      rw [hround] at hreturned ⊢
      obtain ⟨c'', restCalls, hstate, hrestCalls, hpending⟩ :=
        ih hgood' hrest' (Nat.lt_of_succ_lt_succ hblocks) hreturned
      rw [hsent, hstart] at hrestCalls hpending
      rw [hkeeps.activeComponentId, hkeeps.sameList.lookup_eq] at hrestCalls
      refine ⟨c'', blockCalls :: restCalls, ?_, .cons hcalls hrestCalls, ?_⟩
      · rw [hstate, List.flatten_cons, List.append_assoc]
      · rw [hpending, hkeeps.bankSwapPending, Bool.or_assoc]
        rfl

/-- When no call for the component fails the tool comes to the end of the file. -/
theorem sendBlocks_returns {records : List Record} {t : Transfer}
    (hgood : t.stream.good = true) (hrest : t.stream.rest = payload records)
    (hblocks : records.length < blocks) {c : Config W n} {r : Fin n}
    (hlookup : c.engine.lookup P c.engine.currentOffer.activeComponentId = some (some r))
    {calls : List (Call n)}
    (hall : AllSucceed ((engineLoop P ids pResponse report totalContentPacketCount waits blocks t
      (.quiet c calls)).2.calls.filter
        (Call.isFor r c.engine.currentOffer.activeComponentId))) :
    (engineLoop P ids pResponse report totalContentPacketCount waits blocks t
      (.quiet c calls)).1 = .returned (transferCompleted totalContentPacketCount
        (t.contentPacketsSent + UInt32.ofNat records.length)) := by
  induction records generalizing blocks t c calls with
  | nil =>
      obtain ⟨blocks, rfl⟩ := Nat.exists_eq_add_one_of_ne_zero (Nat.ne_zero_of_lt hblocks)
      have hzero : t.contentPacketsSent + UInt32.ofNat 0 = t.contentPacketsSent :=
        UInt32.add_zero _
      rw [engineLoop, sendBlocks_end _ hgood hrest, List.length_nil, hzero]
  | cons record records ih =>
      obtain ⟨blocks, rfl⟩ := Nat.exists_eq_add_one_of_ne_zero (Nat.ne_zero_of_lt hblocks)
      have hstepCalls := hall.of_among
        (List.IsInfix.filter _ (content_calls_among hgood hrest hid hsize c calls))
      rw [List.filter_eq_self.mpr (content_calls_isFor hlookup _)] at hstepCalls
      obtain ⟨blockCalls, hsuccess⟩ := content_succeeds hlookup _ hstepCalls
      obtain ⟨-, c', t', hkeeps, hgood', hrest', hsent, -, hround⟩ :=
        round_of_success hid hsize hgood hrest hsuccess waits blocks calls
      have hlookup' : c'.engine.lookup P c'.engine.currentOffer.activeComponentId =
          some (some r) := by
        rw [hkeeps.activeComponentId, hkeeps.sameList.lookup_eq]
        exact hlookup
      rw [hround, ← hkeeps.activeComponentId] at hall
      rw [hround, add_length_cons, ← hsent]
      exact ih hgood' hrest' (Nat.lt_of_succ_lt_succ hblocks) hlookup' hall

end Induction

end Loop

end Transfer
end CFU
