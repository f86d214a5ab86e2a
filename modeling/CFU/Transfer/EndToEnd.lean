import CFU.Transfer.SendingLoop

/-!
# CFU transfer - an update from offer to pending swap

A session runs the tool on an offer file and a payload file of any records, also of none,
against the engine on a platform.  With no failing call the transfer is complete exactly
when the payload has two to {lit}`2 ^ 32` records and the content goes to the
component of the offer: a single block is sent with the flag of the last block
only, so the engine never prepares the component.

Main results:

- Definition {lit}`Session.run`: {lit}`FwUpdateOfferSrec` against the engine.
- Theorem {lit}`transferred_iff`: when a session transfers its image.
-/

namespace CFU
namespace Transfer

open Firmware Tool Buffer

variable {W : Type} {n : ℕ}

/-! ## Sessions -/

/-- A setup in which every handle could be had and every usage was found. -/
def Setup.ready (ids : ReportIds) (inputReportBuffer : List UInt8) : Setup where
  readEvent := true
  deviceRead := true
  contentId := some ids.content
  contentResponseId := some ids.contentResponse
  offerId := some ids.offer
  offerResponseId := some ids.offerResponse
  deviceWrite := true
  readThread := true
  inputReportBuffer := inputReportBuffer

/-- The tool with its files and settings, and the engine with its platform.  The
report sizes are those that the settings are read with, and the report ids tell
an offer from content.  The records of the payload file are arbitrary. -/
structure Session (W : Type) (n : ℕ) where
  platform : Platform W n
  config : Config W n
  ids : ReportIds
  ids_ne : ids.offer ≠ ids.content
  protocolSettings : CfuHidDeviceConfiguration
  offer_size : protocolSettings.fwUpdateOffer.size = 16
  content_size : protocolSettings.fwUpdateContent.size = 60
  inputReportBuffer : List UInt8
  pResponse : FwUpdateOfferResponse
  offerFile : List UInt8
  forceIgnoreVersion : UInt8
  forceReset : UInt8
  records : List Record

namespace Session

/-- The address from which the tool counts. -/
def startAddress (x : Session W n) : UInt32 :=
  firstAddress x.records

theorem startAddress_of_cons {x : Session W n} {first : Record} {rest : List Record}
    (h : x.records = first :: rest) : x.startAddress = first.address := by
  rw [startAddress, h]
  rfl

/-- The tool against the engine. -/
def run (x : Session W n) (waits : ℕ) : Outcome × DeviceState W n :=
  fwUpdateOfferSrec (engineDevice x.platform x.ids x.pResponse)
    (Setup.ready x.ids x.inputReportBuffer) (waits + 1) x.protocolSettings (some x.offerFile)
    (some (payload x.records)) x.forceIgnoreVersion x.forceReset (.quiet x.config [])

/-- The offer that the engine receives. -/
def offer (x : Session W n) : FwUpdateOfferCommand :=
  offeredCommand x.forceReset x.forceIgnoreVersion x.offerFile

/-- The settings after the report ids were found. -/
def reports (x : Session W n) : CfuHidDeviceConfiguration where
  fwUpdateOfferResponse :=
    { x.protocolSettings.fwUpdateOfferResponse with id := x.ids.offerResponse }
  fwUpdateContentResponse :=
    { x.protocolSettings.fwUpdateContentResponse with id := x.ids.contentResponse }
  fwUpdateOffer := { x.protocolSettings.fwUpdateOffer with id := x.ids.offer }
  fwUpdateContent := { x.protocolSettings.fwUpdateContent with id := x.ids.content }

/-- A session is the offer followed by the payload. -/
theorem run_eq (x : Session W n) (waits : ℕ) :
    x.run waits = offerAndSend (engineDevice x.platform x.ids x.pResponse) x.reports (waits + 1)
      x.offerFile (payload x.records) x.forceIgnoreVersion x.forceReset x.inputReportBuffer
      (.quiet x.config []) :=
  rfl

/-- The offer that is answered leads to the payload, or ends the session. -/
theorem run_of_answered {x : Session W n} {calls : List (Call n)}
    {response : FwUpdateOfferResponse} {after : Option (Config W n)}
    (hstep : step x.platform x.config (.offer x.offer x.pResponse) =
      (offerOutput calls response, after)) (waits : ℕ) :
    x.run waits =
      if offerAccepted response.status then
        sendPayload (engineDevice x.platform x.ids x.pResponse) x.reports.fwUpdateContent
          (waits + 1) (payload x.records)
          (overwrite x.inputReportBuffer
            (x.ids.offerResponse :: encodeOfferResponse response)) ⟨after, calls, []⟩
      else (.returned false, ⟨after, calls, []⟩) := by
  have hid : x.reports.fwUpdateOffer.id = x.ids.offer := rfl
  have hsend := sendOffer_answered x.pResponse hid x.ids_ne x.offer_size hstep
    x.inputReportBuffer
  rw [offerReport] at hsend
  rw [run_eq, offerAndSend, hsend]
  cases offerAccepted response.status with
  | true => rfl
  | false => rfl

/-- An offer whose processing never returns ends the session. -/
theorem run_of_hung {x : Session W n} {calls : List (Call n)} {reason : Halt}
    {after : Option (Config W n)}
    (hstep : step x.platform x.config (.offer x.offer x.pResponse) =
      (⟨calls, .error reason⟩, after)) (waits : ℕ) :
    x.run waits = (.returned false, ⟨after, calls, []⟩) := by
  have hid : x.reports.fwUpdateOffer.id = x.ids.offer := rfl
  have hsend := sendOffer_hung x.pResponse hid x.ids_ne x.offer_size hstep x.inputReportBuffer
  rw [offerReport] at hsend
  rw [run_eq, offerAndSend, hsend]

/-- Behind an accepted offer the session is the sending loop against the engine. -/
theorem run_of_accepted {x : Session W n} {calls : List (Call n)}
    {response : FwUpdateOfferResponse} {c : Config W n}
    (hstep : step x.platform x.config (.offer x.offer x.pResponse) =
      (offerOutput calls response, some c)) (haccepted : offerAccepted response.status = true)
    (waits : ℕ) :
    ∃ t, StartsOn t x.records (overwrite x.inputReportBuffer
        (x.ids.offerResponse :: encodeOfferResponse response)) ∧
      x.run waits = engineLoop x.platform x.ids x.pResponse x.reports.fwUpdateContent
        (UInt32.ofNat x.records.length) waits (roundsFor (payload x.records)) t
        (.quiet c calls) := by
  obtain ⟨t, hstart, hpayload⟩ := sendPayload_payload
    (engineDevice x.platform x.ids x.pResponse) x.reports.fwUpdateContent (waits + 1) x.records
    (overwrite x.inputReportBuffer (x.ids.offerResponse :: encodeOfferResponse response))
    (.quiet c calls)
  refine ⟨t, hstart, ?_⟩
  rw [run_of_answered hstep, if_pos haccepted]
  exact hpayload

/-- The component id of the offer. -/
def componentId (x : Session W n) : UInt8 :=
  x.offer.componentInfo.componentId

/-- The tool returns success, the calls for the component are one preparation, the
writes in file order, one validation and one notification, and the engine has a
pending swap. -/
structure Transferred (x : Session W n) (r : Fin n) (result : Outcome × DeviceState W n) :
    Prop where
  returned : result.1 = .returned true
  calls : ∃ completion, CompletionCalls r x.componentId completion ∧
    result.2.calls.filter (Call.isFor r x.componentId) =
      .prepare x.componentId 0 ::
        (x.records.map (recordWrite x.componentId x.startAddress) ++ completion)
  bankSwapPending : ∃ c, result.2.config = some c ∧ c.engine.bankSwapPending = true

/-! ## What a session does -/

/-- In a session that returned success the offer was answered, and behind it the
engine made the calls of every planned block. -/
theorem calls_of_returned {x : Session W n} {waits : ℕ}
    (hreturned : (x.run waits).1 = .returned true) :
    ∃ c calls response c' blockCalls,
      step x.platform x.config (.offer x.offer x.pResponse) =
        (offerOutput calls response, some c) ∧
      (∀ r componentId, ∀ call ∈ calls, Call.isFor r componentId call = false) ∧
      (x.run waits).2 = .quiet c' (calls ++ blockCalls.flatten) ∧
      List.Forall₂ (BlockCalls c.engine.currentOffer.activeComponentId
          (c.engine.lookup x.platform c.engine.currentOffer.activeComponentId))
        (blockPlan (UInt32.ofNat x.records.length) 0 0 x.records) blockCalls ∧
      c'.engine.bankSwapPending = (c.engine.bankSwapPending ||
        (blockPlan (UInt32.ofNat x.records.length) 0 0 x.records).any Block.completes) := by
  rcases offer_output_cases x.platform x.config x.offer x.pResponse with
    ⟨calls, response, c, hstep, hothers⟩ | ⟨calls, reason, after, hstep⟩
  · cases haccepted : offerAccepted response.status with
    | false =>
        rw [run_of_answered hstep, haccepted] at hreturned
        simp at hreturned
    | true =>
        obtain ⟨t, hstart, hrun⟩ := run_of_accepted hstep haccepted waits
        rw [hrun] at hreturned ⊢
        have hid : x.reports.fwUpdateContent.id = x.ids.content := rfl
        obtain ⟨c', blockCalls, hstate, hcalls, hpending⟩ := sendBlocks_calls_of_returned
          hid x.content_size hstart.good hstart.rest (length_lt_roundsFor x.records) hreturned
        rw [hstart.contentPacketsSent, hstart.startAddress] at hcalls hpending
        exact ⟨c, calls, response, c', blockCalls, hstep, hothers, hstate, hcalls, hpending⟩
  · rw [run_of_hung hstep] at hreturned
    simp at hreturned

/-- An offer that the handler of its component accepts, or a request for the status
while the component is the active one, leads to content for the component. -/
theorem offer_goes_on {x : Session W n} {r : Fin n}
    (hidle : x.config.engine.currentOffer.updateInProgress = false)
    (hswap : x.config.engine.bankSwapPending = false)
    (hhandler : acceptsReply x.offer
      (handleOffer x.platform x.config x.offer x.pResponse r).1 = true)
    (hlookup : x.config.engine.lookup x.platform x.componentId = some (some r))
    (hget : x.offer.isGetStatus = true →
      x.config.engine.currentOffer.activeComponentId = x.componentId) :
    ∃ calls response c,
      step x.platform x.config (.offer x.offer x.pResponse) =
        (offerOutput calls response, some c) ∧
      offerAccepted response.status = true ∧
      c.engine.currentOffer.activeComponentId = x.componentId := by
  have hexec := offerExec_step x.platform x.config x.offer x.pResponse
  generalize step x.platform x.config (.offer x.offer x.pResponse) = result at hexec
  rcases result with ⟨output, after⟩
  cases hexec with
  | busy hbusy =>
      rw [hidle] at hbusy
      cases hbusy
  | ready _ hstatus => exact ⟨_, _, _, rfl, rfl, hget hstatus⟩
  | swapPending _ _ hpending =>
      rw [hswap] at hpending
      cases hpending
  | endlessWalk _ hnone =>
      rw [← componentId, hlookup] at hnone
      cases hnone
  | notRegistered _ hnone =>
      rw [← componentId, hlookup] at hnone
      cases hnone
  | declined _ hfound hdeclined =>
      rw [← componentId, hlookup] at hfound
      cases hfound
      rw [hhandler] at hdeclined
      cases hdeclined
  | accepted _ hfound haccepted =>
      refine ⟨_, _, _, rfl, ?_, rfl⟩
      rw [acceptsReply, beq_iff_eq] at haccepted
      rw [haccepted]
      rfl

/-- When no call fails, content for a registered component is sent to the end of the
file. -/
theorem returned_of_accepted {x : Session W n} {r : Fin n} {calls : List (Call n)}
    {response : FwUpdateOfferResponse} {c : Config W n}
    (hstep : step x.platform x.config (.offer x.offer x.pResponse) =
      (offerOutput calls response, some c)) (haccepted : offerAccepted response.status = true)
    (hlookup : c.engine.lookup x.platform c.engine.currentOffer.activeComponentId =
      some (some r)) {waits : ℕ}
    (hall : AllSucceed ((x.run waits).2.calls.filter
      (Call.isFor r c.engine.currentOffer.activeComponentId))) :
    (x.run waits).1 = .returned true := by
  obtain ⟨t, hstart, hrun⟩ := run_of_accepted hstep haccepted waits
  have hid : x.reports.fwUpdateContent.id = x.ids.content := rfl
  have hcompleted : transferCompleted (UInt32.ofNat x.records.length)
      (UInt32.ofNat x.records.length) = true := by
    simp [transferCompleted]
  rw [hrun] at hall ⊢
  rw [sendBlocks_returns hid x.content_size hstart.good hstart.rest
    (length_lt_roundsFor x.records) hlookup hall, hstart.contentPacketsSent, UInt32.zero_add,
    hcompleted]

/-! ## When a session transfers its image -/

/-- The calls for the component are those behind the offer. -/
theorem filter_isFor_append {r : Fin n} {id : UInt8} {calls : List (Call n)}
    (hothers : ∀ call ∈ calls, Call.isFor r id call = false) (more : List (Call n)) :
    (calls ++ more).filter (Call.isFor r id) = more.filter (Call.isFor r id) := by
  have hnil : calls.filter (Call.isFor r id) = [] := by
    rw [List.filter_eq_nil_iff]
    intro call hcall
    rw [hothers call hcall]
    exact Bool.false_ne_true
  rw [List.filter_append, hnil, List.nil_append]

/-- The calls of a transfer are all for its component. -/
theorem isFor_of_mem_transfer {r : Fin n} {id : UInt8} {startAddress : UInt32}
    {records : List Record} {completion : List (Call n)}
    (hcompletion : CompletionCalls r id completion) {call : Call n}
    (hmem : call ∈ .prepare id 0 :: (records.map (recordWrite id startAddress) ++ completion)) :
    Call.isFor r id call = true := by
  obtain ⟨status, offset, crc, forceReset, result, -, -, rfl⟩ := hcompletion
  simp only [List.mem_cons, List.mem_append, List.mem_map, validationCalls, List.not_mem_nil,
    or_false] at hmem
  rcases hmem with rfl | ⟨record, -, rfl⟩ | (rfl | rfl | rfl | rfl) | rfl <;>
    simp [Call.isFor, recordWrite]

/-- A transfer notifies its component once. -/
theorem countP_isNotifySuccess_transfer {r : Fin n} {id : UInt8} {startAddress : UInt32}
    {completion : List (Call n)} (hcompletion : CompletionCalls r id completion)
    (records : List Record) :
    (.prepare id 0 :: (records.map (recordWrite id startAddress) ++ completion)).countP
      Call.isNotifySuccess = 1 := by
  obtain ⟨status, offset, crc, forceReset, result, -, -, rfl⟩ := hcompletion
  have hwrites : (records.map (recordWrite (n := n) id startAddress)).countP
      Call.isNotifySuccess = 0 := by
    rw [List.countP_eq_zero]
    intro call hcall
    obtain ⟨record, -, rfl⟩ := List.mem_map.mp hcall
    exact Bool.false_ne_true
  rw [List.countP_cons_of_neg Bool.false_ne_true, List.countP_append, hwrites]
  rfl

/-- The notifications of the component are the blocks that complete an image. -/
theorem countP_filter_isFor {r : Fin n} {id : UInt8} {plan : List Block}
    {blockCalls : List (List (Call n))}
    (hblocks : List.Forall₂ (BlockCalls id (some (some r))) plan blockCalls) :
    (blockCalls.flatten.filter (Call.isFor r id)).countP Call.isNotifySuccess =
      plan.countP Block.completes := by
  rw [← countP_isNotifySuccess hblocks, List.countP_filter]
  apply List.countP_congr
  intro call hcall
  cases call with
  | notifySuccess r' forceReset result =>
      cases found_of_mem hblocks hcall
      simp [Call.isNotifySuccess, Call.isFor]
  | _ => simp [Call.isNotifySuccess]

/-- A single record is sent as a last block, and no block is a first one. -/
theorem isFirst_of_single {x : Session W n} (hsingle : x.records.length ≤ 1) {block : Block}
    (hmem : block ∈ blockPlan (UInt32.ofNat x.records.length) 0 0 x.records) :
    block.isFirst = false := by
  rcases hplan : x.records with _ | ⟨first, _ | ⟨second, rest⟩⟩
  · rw [hplan] at hmem
    cases hmem
  · rw [hplan, blockPlan, blockPlan, List.mem_singleton] at hmem
    have hend : (0 : UInt32) + 1 = UInt32.ofNat [first].length := rfl
    rw [hmem]
    exact Block.isFirst_of_last (blockFlags_last hend)
  · rw [hplan, List.length_cons, List.length_cons] at hsingle
    omega

/-- What a transfer requires. -/
theorem condition_of_transferred {x : Session W n} {r : Fin n} {waits : ℕ}
    (h : x.Transferred r (x.run waits)) :
    x.config.engine.lookup x.platform x.componentId = some (some r) ∧
      (x.offer.isGetStatus = true →
        x.config.engine.currentOffer.activeComponentId = x.componentId) ∧
      2 ≤ x.records.length ∧ x.records.length ≤ 2 ^ 32 := by
  obtain ⟨c, calls, response, c', blockCalls, hstep, hothers, hstate, hblocks, -⟩ :=
    calls_of_returned h.returned
  obtain ⟨completion, hcompletion, hfilter⟩ := h.calls
  have hafter : (step x.platform x.config (.offer x.offer x.pResponse)).2 = some c := by
    rw [hstep]
  have hlist : x.config.engine.SameList c.engine := step_sameList rfl hafter
  rw [hstate] at hfilter
  dsimp only [DeviceState.quiet] at hfilter
  rw [filter_isFor_append (hothers r x.componentId)] at hfilter
  have hmem : ∀ call ∈ .prepare x.componentId 0 ::
      (x.records.map (recordWrite x.componentId x.startAddress) ++ completion),
      call ∈ blockCalls.flatten := by
    intro call hcall
    rw [← hfilter] at hcall
    exact (List.mem_filter.mp hcall).1
  obtain ⟨hactive, block, hblock, hfirst⟩ := prepare_of_mem hblocks (hmem _ List.mem_cons_self)
  have hfound : c.engine.lookup x.platform c.engine.currentOffer.activeComponentId =
      some (some r) := by
    obtain ⟨status, offset, crc, forceReset, result, -, -, rfl⟩ := hcompletion
    exact found_of_mem hblocks (hmem (.notifySuccess r forceReset result) (by simp))
  rw [← hactive] at hfound
  refine ⟨?_, ?_, ?_, ?_⟩
  · rw [← hlist.lookup_eq]
    exact hfound
  · intro hget
    rw [← step_offer_of_isGetStatus hget hafter, hactive]
  · by_contra hone
    rw [isFirst_of_single (by omega) hblock] at hfirst
    cases hfirst
  · by_contra hmany
    have htwo := two_le_completes 0 (Nat.lt_of_not_le hmany)
    rw [← hactive, hfound] at hblocks
    have hone := countP_filter_isFor hblocks
    rw [hfilter, countP_isNotifySuccess_transfer hcompletion] at hone
    omega

/-- Content for the component of the offer, in two to {lit}`2 ^ 32` blocks, is
transferred when no call fails. -/
theorem transferred_of_condition {x : Session W n} {r : Fin n} {waits : ℕ}
    (hidle : x.config.engine.currentOffer.updateInProgress = false)
    (hswap : x.config.engine.bankSwapPending = false)
    (hhandler : acceptsReply x.offer
      (handleOffer x.platform x.config x.offer x.pResponse r).1 = true)
    (hall : AllSucceed ((x.run waits).2.calls.filter (Call.isFor r x.componentId)))
    (hlookup : x.config.engine.lookup x.platform x.componentId = some (some r))
    (hget : x.offer.isGetStatus = true →
      x.config.engine.currentOffer.activeComponentId = x.componentId)
    (hseveral : 2 ≤ x.records.length) (hfew : x.records.length ≤ 2 ^ 32) :
    x.Transferred r (x.run waits) := by
  obtain ⟨calls, response, c, hstep, haccepted, hactive⟩ :=
    offer_goes_on hidle hswap hhandler hlookup hget
  have hafter : (step x.platform x.config (.offer x.offer x.pResponse)).2 = some c := by
    rw [hstep]
  have hlist : x.config.engine.SameList c.engine := step_sameList rfl hafter
  have hfound : c.engine.lookup x.platform c.engine.currentOffer.activeComponentId =
      some (some r) := by
    rw [hactive, hlist.lookup_eq]
    exact hlookup
  have hreturned : (x.run waits).1 = .returned true := by
    rw [← hactive] at hall
    exact returned_of_accepted hstep haccepted hfound hall
  obtain ⟨c₁, calls₁, response₁, c', blockCalls, hstep₁, hothers, hstate, hblocks, hpending⟩ :=
    calls_of_returned hreturned
  have hsame : c₁ = c := by
    rw [hstep₁] at hafter
    exact Option.some.inj hafter
  subst hsame
  rw [hactive] at hblocks hfound
  rw [hfound] at hblocks
  have hsome : x.records ≠ [] := List.ne_nil_of_length_pos (by omega)
  have hends := any_completes hsome
  obtain ⟨r', completion, hr, hcompletion, hflatten⟩ : ∃ r' completion,
      some (some r) = some (some r') ∧ CompletionCalls r' x.componentId completion ∧
        blockCalls.flatten = .prepare x.componentId 0 ::
          (x.records.map (recordWrite x.componentId x.startAddress) ++ completion) := by
    rcases hrecords : x.records with _ | ⟨first, rest⟩
    · rw [hrecords, List.length_nil] at hseveral
      omega
    · have hrest : rest ≠ [] := by
        rintro rfl
        rw [hrecords, List.length_singleton] at hseveral
        omega
      rw [hrecords] at hfew hblocks
      rw [startAddress_of_cons hrecords]
      exact calls_of_plan hrest hfew hblocks
  cases hr
  refine ⟨hreturned, ⟨completion, hcompletion, ?_⟩, c', ?_, ?_⟩
  · rw [hstate]
    dsimp only [DeviceState.quiet]
    rw [filter_isFor_append (hothers r x.componentId), hflatten]
    exact List.filter_eq_self.mpr fun call hcall => isFor_of_mem_transfer hcompletion hcall
  · rw [hstate]
    rfl
  · rw [hpending, hends, Bool.or_true]

/-- When no call fails, a session transfers its image exactly when the content goes
to the component of the offer and the payload has two to {lit}`2 ^ 32` records. -/
theorem transferred_iff (x : Session W n) (waits : ℕ) (r : Fin n)
    (hidle : x.config.engine.currentOffer.updateInProgress = false)
    (hswap : x.config.engine.bankSwapPending = false)
    (hhandler : acceptsReply x.offer
      (handleOffer x.platform x.config x.offer x.pResponse r).1 = true)
    (hall : AllSucceed ((x.run waits).2.calls.filter (Call.isFor r x.componentId))) :
    x.Transferred r (x.run waits) ↔
      x.config.engine.lookup x.platform x.componentId = some (some r) ∧
        (x.offer.isGetStatus = true →
          x.config.engine.currentOffer.activeComponentId = x.componentId) ∧
        2 ≤ x.records.length ∧ x.records.length ≤ 2 ^ 32 := by
  constructor
  · exact condition_of_transferred
  · rintro ⟨hlookup, hget, hseveral, hfew⟩
    exact transferred_of_condition hidle hswap hhandler hall hlookup hget hseveral hfew

/-! ## Sessions with one component -/

/-- A session with the product whose only component has id 1 and accepts
everything. -/
def sample (records : List Record) : Session Unit 1 where
  platform := acceptingPlatform fun _ => 1
  config := ⟨(EngineState.powerOn fun _ => none).register (some onlyComponent), ()⟩
  ids := ⟨0x21, 0x22, 0x23, 0x24⟩
  ids_ne := by decide
  protocolSettings := ⟨⟨0, 16⟩, ⟨0, 16⟩, ⟨0, 16⟩, ⟨0, 60⟩⟩
  offer_size := rfl
  content_size := rfl
  inputReportBuffer := List.replicate 17 0
  pResponse := .zero
  offerFile := [0x00, 0x00, 0x01] ++ List.replicate 13 0
  forceIgnoreVersion := 0
  forceReset := 0
  records := records

/-- A payload of one record. -/
def oneRecord : Session Unit 1 :=
  sample [byteRecord 0x1000 0xAA]

/-- A payload of two records. -/
def twoRecords : Session Unit 1 :=
  sample [byteRecord 0x1000 0xAA, byteRecord 0x1001 0xBB]

/-- Two records reach the flash, and the swap is pending. -/
theorem transferred_iff_twoRecords : twoRecords.Transferred 0 (twoRecords.run 0) :=
  (transferred_iff twoRecords 0 0 rfl rfl (by decide) (by decide +kernel)).mpr
    ⟨by decide, by decide, by decide, by decide⟩

/-- A payload of one record is not transferred, although its component is registered,
the handler accepts the offer and no call fails. -/
theorem oneRecord_not_transferred :
    (oneRecord.config.engine.OnList 0 ∧
        (oneRecord.platform.registration 0).componentId = oneRecord.componentId ∧
        oneRecord.config.engine.currentOffer.updateInProgress = false ∧
        oneRecord.config.engine.bankSwapPending = false ∧
        acceptsReply oneRecord.offer (handleOffer oneRecord.platform oneRecord.config
          oneRecord.offer oneRecord.pResponse 0).1 = true ∧
        AllSucceed ((oneRecord.run 0).2.calls.filter
          (Call.isFor 0 oneRecord.componentId))) ∧
      ¬ oneRecord.Transferred 0 (oneRecord.run 0) := by
  refine ⟨⟨⟨0, rfl⟩, by decide, rfl, rfl, by decide, by decide +kernel⟩, ?_⟩
  intro htransferred
  obtain ⟨-, -, hseveral, -⟩ := condition_of_transferred htransferred
  exact absurd hseveral (by decide)

end Session

end Transfer
end CFU
