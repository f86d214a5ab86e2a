import CFU.Firmware.OfferAnswers
import CFU.Transfer.EndToEnd
import CFU.Tool.ExpectedReports
import CFU.Tool.FinishedTransfer

/-!
# CFU transfer - content behind an offer

The tool goes on to the payload when the response to its offer has one of two
statuses.  Only one of them is an acceptance: the engine answers READY to a request
for its status, a handler may answer READY, and an offer for a component that nobody
registered is answered with what the buffer held.  In these cases the engine records
nothing, and the content goes to whatever component was active before, also where that
one has the id of the offer.

Main results:

- Theorem {lit}`sentContent_iff`: when the tool sends content at all.
- Theorem {lit}`content_only_after_acceptance_iff`: when content is sent only behind an
  acceptance of the offer.
-/

namespace CFU
namespace Transfer

open Firmware Tool Buffer

variable {W : Type} {n : ℕ}

/-! ## Payload files that are sent -/

/-- The counting pass comes to its end, and the parser delivers a block. -/
def YieldsBlock (srecBinFile : List UInt8) : Prop :=
  (∃ counted, countContentPackets (roundsFor srecBinFile) (.openFile srecBinFile)
    { ContentData.zero with flags := Tool.firmwareUpdateFlagFirstBlock } 0 = .ok counted) ∧
    lengthByte srecBinFile ≠ 0

section Payload

variable {D : Type} {report : HidReportIdInfo} {srecBinFile : List UInt8}

/-- Without a block nothing passes between the tool and the device. -/
theorem sendPayload_quiet (h : ¬ YieldsBlock srecBinFile) (device : HidDevice D) (waits : ℕ)
    (inputReportBuffer : List UInt8) (d : D) :
    (sendPayload device report waits srecBinFile inputReportBuffer d).2 = d := by
  by_cases hempty : lengthByte srecBinFile = 0
  · rw [sendPayload_nothing hempty]
  · unfold sendPayload
    dsimp only
    rcases hcount : countContentPackets (roundsFor srecBinFile) (.openFile srecBinFile)
      { ContentData.zero with flags := Tool.firmwareUpdateFlagFirstBlock } 0 with
      outcome | counted
    · rfl
    · exact absurd ⟨⟨counted, hcount⟩, hempty⟩ h

/-- A sending pass that the parser hands a block sends it first. -/
theorem sendBlocks_sends {device : HidDevice D} {R : D → D → Prop} (hR : device.Respects R)
    (report : HidReportIdInfo) (t : Transfer) {stream : InputStream} {contentdata : ContentData}
    (hdelivered : processSrecBin t.stream t.contentdata = .ok (true, stream, contentdata))
    (waits : ℕ) (totalContentPacketCount : UInt32) (blocks : ℕ) (d : D) :
    R (device.setOutputReport
        ((t.prepareBlock report totalContentPacketCount stream contentdata).outputReport report)
        d).2
      (sendBlocks device report waits totalContentPacketCount (blocks + 1) t d).2 := by
  rw [sendBlocks, hdelivered]
  dsimp only
  generalize t.prepareBlock report totalContentPacketCount stream contentdata = t'
  rcases device.setOutputReport (t'.outputReport report) d with ⟨_ | _, d₁⟩
  · exact hR.refl d₁
  · dsimp only
    have hawait := awaitContentResponse_monotone hR t'.contentdata.sequenceNumber waits
      t'.inputReportBuffer d₁
    generalize awaitContentResponse device t'.contentdata.sequenceNumber waits
      t'.inputReportBuffer d₁ = answer at hawait
    rcases answer with ⟨_ | _ | _, inputReportBuffer, d₂⟩
    · exact hR.trans hawait (sendBlocks_monotone hR report waits totalContentPacketCount blocks
        (t'.advance inputReportBuffer) d₂)
    · exact hawait
    · exact hawait

/-- With a block a content report is sent. -/
theorem sendPayload_sends (h : YieldsBlock srecBinFile) (device : HidDevice D)
    (report : HidReportIdInfo) (waits : ℕ) (inputReportBuffer : List UInt8) (e : Logged D) :
    ∃ bytes taken, e.log ++ [.sent (report.id :: bytes) taken] <+:
      (sendPayload device.logged report waits srecBinFile inputReportBuffer e).2.log := by
  obtain ⟨⟨⟨total, stream, contentdata⟩, hcount⟩, hblock⟩ := h
  have hgood : (InputStream.openFile srecBinFile).good = true := rfl
  have hfile := countContentPackets_file _ _ _ _ _ _ _ hcount
  have hrewound : stream.clear.seekBeginning = .openFile srecBinFile := by
    rw [InputStream.seekBeginning_clear, hfile]
    rfl
  have hfirst : ∃ stream₁ contentdata₁, processSrecBin (.openFile srecBinFile) contentdata =
      .ok (true, stream₁, contentdata₁) := by
    have hrounds : roundsFor srecBinFile = (srecBinFile.length + 1) + 1 := rfl
    rw [hrounds, countContentPackets] at hcount
    rcases hcall : processSrecBin (.openFile srecBinFile)
      { ContentData.zero with flags := Tool.firmwareUpdateFlagFirstBlock } with
      fault | ⟨_ | _, stream₁, contentdata₁⟩
    · rw [hcall] at hcount
      cases hcount
    · exact absurd ((processSrecBin_false_iff hgood _).mp ⟨_, _, hcall⟩) hblock
    · obtain ⟨contentdata₂, hsend⟩ := processSrecBin_returns hcall contentdata
      exact ⟨stream₁, contentdata₂, hsend⟩
  obtain ⟨stream₁, contentdata₁, hdelivered⟩ := hfirst
  have hgrows := sendBlocks_sends (logged_respects device) report
    ⟨.openFile srecBinFile, contentdata, 0, 0, inputReportBuffer⟩ hdelivered waits total
    (srecBinFile.length + 1) e
  rw [sendPayload, hcount]
  dsimp only
  rw [hrewound]
  exact ⟨_, _, hgrows⟩

end Payload

/-- The log of an offer: it is sent, and the tool waits once. -/
theorem sendOffer_log {D : Type} (device : HidDevice D) (report inputReportBuffer : List UInt8)
    (d : D) :
    ∃ taken e, (sendOffer device.logged report inputReportBuffer ⟨d, []⟩).2.2.log =
      [.sent report taken, e] ∧ e.isSent = false := by
  unfold sendOffer HidDevice.logged
  dsimp only
  rcases (device.waitForReadEvent (device.setOutputReport report d).2).1 with _ | inputReport
  · exact ⟨_, _, rfl, rfl⟩
  · exact ⟨_, _, rfl, rfl⟩

/-! ## Answers that lead to content -/

/-- The engine answers the offer, and the tool goes on. -/
def LeadsToContent (P : Platform W n) (c : Config W n) (pCommand : FwUpdateOfferCommand)
    (pResponse : FwUpdateOfferResponse) : Prop :=
  ∃ calls response c', step P c (.offer pCommand pResponse) =
    (offerOutput calls response, some c') ∧ offerAccepted response.status = true

/-- The engine accepts the offer for a component: it is idle, shows the offer to a
registration, answers it with an acceptance, and has an update of the component in
progress. -/
def AcceptedForComponent (P : Platform W n) (c : Config W n) (pCommand : FwUpdateOfferCommand)
    (pResponse : FwUpdateOfferResponse) (componentId : UInt8) : Prop :=
  ∃ r reply calls response c', step P c (.offer pCommand pResponse) =
      (offerOutput (.processOffer r pCommand reply :: calls) response, some c') ∧
    response.status = Firmware.firmwareUpdateOfferAccept ∧
    c.engine.currentOffer.updateInProgress = false ∧
    c'.engine.currentOffer.updateInProgress = true ∧
    c'.engine.currentOffer.activeComponentId = componentId

/-- The offers that the tool takes for accepted although they are not: a request for the
status of an idle engine; an offer for a component that is not registered when the buffer
holds READY or an acceptance; and an offer whose handler answers READY. -/
inductive TakenForAccepted (P : Platform W n) (c : Config W n) (pCommand : FwUpdateOfferCommand)
    (pResponse : FwUpdateOfferResponse) : Prop
  | ready (hidle : c.engine.currentOffer.updateInProgress = false)
      (hget : pCommand.isGetStatus = true)
  | staleReady (hreach : c.engine.reachesList pCommand = true)
      (hlookup : c.engine.lookup P pCommand.componentInfo.componentId = some none)
      (hstatus : pResponse.status = Firmware.firmwareUpdateOfferCommandReady)
  | staleAccept (hreach : c.engine.reachesList pCommand = true)
      (hlookup : c.engine.lookup P pCommand.componentInfo.componentId = some none)
      (hstatus : pResponse.status = Firmware.firmwareUpdateOfferAccept)
  | handlerReady {r : Fin n} (hreach : c.engine.reachesList pCommand = true)
      (hlookup : c.engine.lookup P pCommand.componentInfo.componentId = some (some r))
      (hstatus : (handleOffer P c pCommand pResponse r).1.status =
        Firmware.firmwareUpdateOfferCommandReady)

/-- The tool goes on when the status is an acceptance or READY. -/
theorem offerAccepted_iff {status : UInt8} :
    offerAccepted status = true ↔
      status = Firmware.firmwareUpdateOfferAccept ∨
        status = Firmware.firmwareUpdateOfferCommandReady := by
  have haccept : Tool.firmwareUpdateOfferAccept = Firmware.firmwareUpdateOfferAccept := rfl
  have hready : Tool.firmwareUpdateOfferCommandReady =
      Firmware.firmwareUpdateOfferCommandReady := rfl
  simp [offerAccepted, haccept, hready]

section Answers

variable {P : Platform W n} {c : Config W n} {pCommand : FwUpdateOfferCommand}
  {pResponse : FwUpdateOfferResponse}

/-- The engine passes a READY of a handler on, and turns nothing into READY. -/
theorem overrideOldFw_ready_iff {reply : FwUpdateOfferResponse} :
    (overrideOldFw pCommand reply).status = Firmware.firmwareUpdateOfferCommandReady ↔
      reply.status = Firmware.firmwareUpdateOfferCommandReady := by
  have haccept : Firmware.firmwareUpdateOfferAccept ≠ Firmware.firmwareUpdateOfferCommandReady := by
    decide
  have hreject : Firmware.firmwareUpdateOfferReject ≠ Firmware.firmwareUpdateOfferCommandReady := by
    decide
  unfold overrideOldFw
  split
  · rename_i hold
    rw [Bool.and_eq_true, Bool.and_eq_true, beq_iff_eq, beq_iff_eq] at hold
    simp [hold.1.2, haccept, hreject]
  · rfl

/-- Behind such an offer the tool goes on, and either the engine called nobody or the
status is READY. -/
theorem TakenForAccepted.response (h : TakenForAccepted P c pCommand pResponse) :
    ∃ calls response c', step P c (.offer pCommand pResponse) =
        (offerOutput calls response, some c') ∧ offerAccepted response.status = true ∧
      (calls = [] ∨ response.status = Firmware.firmwareUpdateOfferCommandReady) := by
  cases h with
  | ready hidle hget =>
      have hreach : c.engine.reachesList pCommand = false := by
        simp [EngineState.reachesList, hget]
      refine ⟨_, _, _, step_offer_of_not_reachesList hreach pResponse, ?_, .inl rfl⟩
      rw [engineAnswer, hidle, if_neg Bool.false_ne_true, if_pos hget]
      rfl
  | staleReady hreach hlookup hstatus =>
      have hstep := step_offer_of_reachesList (P := P) hreach pResponse
      rw [hlookup] at hstep
      exact ⟨_, _, _, hstep, offerAccepted_iff.mpr (.inr hstatus), .inl rfl⟩
  | staleAccept hreach hlookup hstatus =>
      have hstep := step_offer_of_reachesList (P := P) hreach pResponse
      rw [hlookup] at hstep
      exact ⟨_, _, _, hstep, offerAccepted_iff.mpr (.inl hstatus), .inl rfl⟩
  | handlerReady hreach hlookup hstatus =>
      have hstep := step_offer_of_reachesList (P := P) hreach pResponse
      rw [hlookup] at hstep
      obtain ⟨calls, houtput, hengine⟩ := hstep
      obtain ⟨c', hafter, -⟩ := Option.map_eq_some_iff.mp hengine
      have hready := (@overrideOldFw_ready_iff pCommand _).mpr hstatus
      exact ⟨calls, _, c', Prod.ext houtput hafter, offerAccepted_iff.mpr (.inr hready),
        .inr hready⟩

theorem TakenForAccepted.leadsToContent (h : TakenForAccepted P c pCommand pResponse) :
    LeadsToContent P c pCommand pResponse := by
  obtain ⟨calls, response, c', hstep, hgoes, -⟩ := h.response
  exact ⟨calls, response, c', hstep, hgoes⟩

theorem TakenForAccepted.not_acceptedForComponent
    (h : TakenForAccepted P c pCommand pResponse) (componentId : UInt8) :
    ¬ AcceptedForComponent P c pCommand pResponse componentId := by
  have hne : Firmware.firmwareUpdateOfferCommandReady ≠ Firmware.firmwareUpdateOfferAccept := by
    decide
  obtain ⟨calls, response, c', hstep, -, hcause⟩ := h.response
  rintro ⟨r, reply, calls', response', c'', hstep', haccept, -⟩
  rw [hstep] at hstep'
  cases hstep'
  rcases hcause with hnobody | hready
  · cases hnobody
  · exact hne (hready.symm.trans haccept)

/-- The tool goes on without an acceptance behind no other offers. -/
theorem takenForAccepted_of_leadsToContent (hleads : LeadsToContent P c pCommand pResponse)
    (hnot : ¬ AcceptedForComponent P c pCommand pResponse pCommand.componentInfo.componentId) :
    TakenForAccepted P c pCommand pResponse := by
  obtain ⟨calls, response, c', hstep, hgoes⟩ := hleads
  have hexec := offerExec_step P c pCommand pResponse
  rw [hstep] at hexec
  generalize hout : offerOutput calls response = output at hexec
  generalize hafter : some c' = after at hexec
  cases hexec with
  | busy =>
      cases hout
      cases hgoes
  | ready hidle hget => exact .ready hidle hget
  | swapPending =>
      cases hout
      cases hgoes
  | endlessWalk => cases hout
  | notRegistered hreach hlookup =>
      cases hout
      rcases offerAccepted_iff.mp hgoes with haccept | hready
      · exact .staleAccept hreach hlookup haccept
      · exact .staleReady hreach hlookup hready
  | declined hreach hlookup hdeclined =>
      cases hout
      rw [acceptsReply, beq_eq_false_iff_ne] at hdeclined
      have hready := (offerAccepted_iff.mp hgoes).resolve_left hdeclined
      exact .handlerReady hreach hlookup (overrideOldFw_ready_iff.mp hready)
  | accepted hreach hlookup haccept =>
      cases hout
      cases hafter
      have hidle : c.engine.currentOffer.updateInProgress = false := by
        simp only [EngineState.reachesList, Bool.and_eq_true, Bool.not_eq_true'] at hreach
        exact hreach.1.1
      exact absurd ⟨_, _, _, _, _, hstep, beq_iff_eq.mp haccept, hidle, rfl, rfl⟩ hnot

/-- These are the offers behind which the tool goes on without an acceptance. -/
theorem takenForAccepted_iff :
    TakenForAccepted P c pCommand pResponse ↔
      LeadsToContent P c pCommand pResponse ∧
        ¬ AcceptedForComponent P c pCommand pResponse pCommand.componentInfo.componentId := by
  constructor
  · intro h
    exact ⟨h.leadsToContent, h.not_acceptedForComponent _⟩
  · rintro ⟨hleads, hnot⟩
    exact takenForAccepted_of_leadsToContent hleads hnot

end Answers

/-! ## Runs of the tool -/

/-- The tool with an offer file of sixteen bytes, any payload file and its settings, and
the engine with its platform. -/
structure Delivery (W : Type) (n : ℕ) where
  platform : Platform W n
  config : Config W n
  ids : ReportIds
  ids_ne : ids.offer ≠ ids.content
  protocolSettings : CfuHidDeviceConfiguration
  offer_size : protocolSettings.fwUpdateOffer.size = 16
  inputReportBuffer : List UInt8
  pResponse : FwUpdateOfferResponse
  offerFile : List UInt8
  length_offerFile : offerFile.length = 16
  srecBinFile : List UInt8
  forceIgnoreVersion : UInt8
  forceReset : UInt8

namespace Delivery

variable (x : Delivery W n)

/-- {lit}`FwUpdateOfferSrec` against the engine, with a log of what passes between
them. -/
def run (waits : ℕ) : Outcome × Logged (DeviceState W n) :=
  fwUpdateOfferSrec (engineDevice x.platform x.ids x.pResponse).logged
    (Setup.ready x.ids x.inputReportBuffer) waits x.protocolSettings (some x.offerFile)
    (some x.srecBinFile) x.forceIgnoreVersion x.forceReset ⟨.quiet x.config [], []⟩

/-- The offer that the engine receives. -/
def offer : FwUpdateOfferCommand :=
  offeredCommand x.forceReset x.forceIgnoreVersion x.offerFile

/-- The component id in the offer file. -/
def fileComponentId : UInt8 :=
  x.offerFile.getD 2 0

/-- A content report was sent. -/
def SentContent (log : List Exchange) : Prop :=
  ∃ bytes taken, .sent (x.ids.content :: bytes) taken ∈ log

/-- The engine received the offer of this run, showed it to a registration, answered it
with an acceptance, and recorded the component of the offer file as the active one. -/
def AnsweredAccept : Prop :=
  AcceptedForComponent x.platform x.config x.offer x.pResponse x.fileComponentId

/-- The offer names the component of the file. -/
theorem offer_componentId : x.offer.componentInfo.componentId = x.fileComponentId := by
  have hread : offerReadBuff x.offerFile = x.offerFile := by
    have hall : x.offerFile.take 16 = x.offerFile :=
      List.take_of_length_le (Nat.le_of_eq x.length_offerFile)
    have hnothing : (List.replicate 16 (0 : UInt8)).drop x.offerFile.length = [] := by
      simp [x.length_offerFile]
    rw [offerReadBuff, hall, overwrite, hnothing, List.append_nil]
  rw [fileComponentId, offer, offeredCommand, hread]
  simp [decodeOfferCommand, decodeComponentInfo, offerData]

/-- The settings after the report ids were found. -/
def reports : CfuHidDeviceConfiguration where
  fwUpdateOfferResponse :=
    { x.protocolSettings.fwUpdateOfferResponse with id := x.ids.offerResponse }
  fwUpdateContentResponse :=
    { x.protocolSettings.fwUpdateContentResponse with id := x.ids.contentResponse }
  fwUpdateOffer := { x.protocolSettings.fwUpdateOffer with id := x.ids.offer }
  fwUpdateContent := { x.protocolSettings.fwUpdateContent with id := x.ids.content }

theorem run_eq (waits : ℕ) :
    x.run waits = offerAndSend (engineDevice x.platform x.ids x.pResponse).logged x.reports waits
      x.offerFile x.srecBinFile x.forceIgnoreVersion x.forceReset x.inputReportBuffer
      ⟨.quiet x.config [], []⟩ :=
  rfl

/-- The bytes of the offer. -/
def offerBytes : List UInt8 :=
  offerReport x.reports.fwUpdateOffer x.forceReset x.forceIgnoreVersion x.offerFile

/-- The offer on the device with its log. -/
def offered : Bool × List UInt8 × Logged (DeviceState W n) :=
  sendOffer (engineDevice x.platform x.ids x.pResponse).logged x.offerBytes x.inputReportBuffer
    ⟨.quiet x.config [], []⟩

/-- What is logged of the offer is not content. -/
theorem not_sentContent_offered : ¬ x.SentContent x.offered.2.2.log := by
  obtain ⟨taken, e, hlog, hwait⟩ := sendOffer_log
    (engineDevice x.platform x.ids x.pResponse) x.offerBytes x.inputReportBuffer
    (.quiet x.config [])
  rintro ⟨bytes, taken', hsent⟩
  rw [offered, hlog, List.mem_cons, List.mem_singleton] at hsent
  rcases hsent with hoffer | rfl
  · obtain ⟨rest, hbytes⟩ : ∃ rest, x.offerBytes = x.ids.offer :: rest := ⟨_, rfl⟩
    rw [hbytes, Exchange.sent.injEq, List.cons.injEq] at hoffer
    exact x.ids_ne hoffer.1.1.symm
  · cases hwait

/-- The tool goes on behind the offers that the engine answers so. -/
theorem offered_iff :
    x.offered.1 = true ↔ LeadsToContent x.platform x.config x.offer x.pResponse := by
  have hsame := congrArg Prod.fst (sendOffer_projects
    (logged_projects (engineDevice x.platform x.ids x.pResponse)) x.offerBytes
    x.inputReportBuffer ⟨.quiet x.config [], []⟩)
  have hid : x.reports.fwUpdateOffer.id = x.ids.offer := rfl
  rcases offer_output_cases x.platform x.config x.offer x.pResponse with
    ⟨calls, response, c, hstep, -⟩ | ⟨calls, reason, after, hstep⟩
  · rw [offerBytes, sendOffer_answered x.pResponse hid x.ids_ne x.offer_size hstep] at hsame
    constructor
    · intro hgoes
      exact ⟨calls, response, c, hstep, hsame.trans hgoes⟩
    · rintro ⟨calls', response', c', hstep', hgoes⟩
      rw [hstep] at hstep'
      cases hstep'
      exact hsame.symm.trans hgoes
  · rw [offerBytes, sendOffer_hung x.pResponse hid x.ids_ne x.offer_size hstep] at hsame
    constructor
    · intro hgoes
      rw [offered, offerBytes] at hgoes
      exact absurd (hsame.trans hgoes) Bool.false_ne_true
    · rintro ⟨calls', response', c', hstep', -⟩
      rw [hstep] at hstep'
      cases hstep'

/-- Content is sent exactly when the answer of the engine leads to it and the payload
file yields a block. -/
theorem sentContent_iff (waits : ℕ) :
    x.SentContent (x.run waits).2.log ↔
      LeadsToContent x.platform x.config x.offer x.pResponse ∧ YieldsBlock x.srecBinFile := by
  have hquiet := x.not_sentContent_offered
  have hsend : sendOffer (engineDevice x.platform x.ids x.pResponse).logged
      ((offerReportBuffer x.reports.fwUpdateOffer.id x.forceReset x.forceIgnoreVersion
        x.offerFile).take (x.reports.fwUpdateOffer.size.toNat + 1)) x.inputReportBuffer
      ⟨.quiet x.config [], []⟩ = x.offered :=
    rfl
  rw [← x.offered_iff, run_eq, offerAndSend, hsend]
  generalize x.offered = offered at hquiet ⊢
  rcases offered with ⟨_ | _, inputReportBuffer, e⟩
  · simpa using hquiet
  · by_cases hblock : YieldsBlock x.srecBinFile
    · obtain ⟨bytes, taken, hgrows⟩ := sendPayload_sends hblock
        (engineDevice x.platform x.ids x.pResponse) x.reports.fwUpdateContent waits
        inputReportBuffer e
      refine iff_of_true ⟨bytes, taken, hgrows.subset ?_⟩ ⟨rfl, hblock⟩
      exact List.mem_append_right _ List.mem_cons_self
    · dsimp only at hquiet ⊢
      rw [sendPayload_quiet hblock]
      exact iff_of_false hquiet fun h => hblock h.2

/-- Content is sent only behind an acceptance that the engine recorded for the component of
the offer file exactly when the payload file yields no block, or the offer is not one of
those that the tool takes for accepted. -/
theorem content_only_after_acceptance_iff (waits : ℕ) :
    (x.SentContent (x.run waits).2.log → x.AnsweredAccept) ↔
      ¬ YieldsBlock x.srecBinFile ∨
        ¬ TakenForAccepted x.platform x.config x.offer x.pResponse := by
  have haccepted : x.AnsweredAccept ↔ AcceptedForComponent x.platform x.config x.offer x.pResponse
      x.offer.componentInfo.componentId := by
    rw [AnsweredAccept, x.offer_componentId]
  constructor
  · intro honly
    rw [← not_and_or]
    rintro ⟨hblock, htaken⟩
    obtain ⟨hleads, hnot⟩ := takenForAccepted_iff.mp htaken
    have hsent := (x.sentContent_iff waits).mpr ⟨hleads, hblock⟩
    exact hnot (haccepted.mp (honly hsent))
  · intro hcondition hsent
    obtain ⟨hleads, hblock⟩ := (x.sentContent_iff waits).mp hsent
    rw [haccepted]
    by_contra hnot
    have htaken := takenForAccepted_iff.mpr ⟨hleads, hnot⟩
    rcases hcondition with hnoBlock | hnotTaken
    · exact hnoBlock hblock
    · exact hnotTaken htaken

/-! ## A request for the status with a payload -/

/-- An offer file that asks for the status, and a payload of one record, against an engine
on which component 1 is the active one. -/
def statusRequest : Delivery Unit 1 where
  platform := acceptingPlatform fun _ => 1
  config :=
    ⟨{ (EngineState.powerOn fun _ => none).register (some onlyComponent) with
        currentOffer := ⟨1, false, false⟩ }, ()⟩
  ids := Session.oneRecord.ids
  ids_ne := Session.oneRecord.ids_ne
  protocolSettings := Session.oneRecord.protocolSettings
  offer_size := Session.oneRecord.offer_size
  inputReportBuffer := List.replicate 17 0
  pResponse := .zero
  offerFile := [cfuSpecialOfferGetStatus, 0, cfuSpecialOfferCmd] ++ List.replicate 13 0
  length_offerFile := rfl
  srecBinFile := payload [byteRecord 0x1000 0xAA]
  forceIgnoreVersion := 0
  forceReset := 0

/-- The engine answers READY, the tool sends the payload, and it goes to component 1. -/
theorem statusRequest_sends_content :
    ¬ (statusRequest.SentContent (statusRequest.run 1).2.log → statusRequest.AnsweredAccept) := by
  intro honly
  have hready : TakenForAccepted statusRequest.platform statusRequest.config statusRequest.offer
      statusRequest.pResponse := .ready rfl (by decide)
  have hblock : YieldsBlock statusRequest.srecBinFile := ⟨⟨_, rfl⟩, by decide⟩
  have hanswered := honly ((statusRequest.sentContent_iff 1).mpr ⟨hready.leadsToContent, hblock⟩)
  exact hready.not_acceptedForComponent _ hanswered

end Delivery

end Transfer
end CFU
