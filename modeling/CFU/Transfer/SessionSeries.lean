import CFU.Firmware.ContentAnswers
import CFU.Transfer.AcceptedPayload

/-!
# CFU transfer - one session after another

Between two resets an engine meets any number of sessions of the tool, and anything else
that calls its entry points may happen between them.  A session that reports success
leaves a pending swap, unless its payload is empty, so no later one for an ordinary
component goes through; a session that fails leaves the engine as ready as it was.

Main results:

- Definition {lit}`visit`: a session, or another event, on the engine of a product.
- Theorem {lit}`no_success_behind_success`: behind a success with a payload every session
  for an ordinary component is turned away without a trace.
- Theorem {lit}`retry_transfers`: a session that failed can be run again.
-/

namespace CFU
namespace Transfer

open Firmware Tool Buffer EventRuns

variable {W : Type} {n : ℕ}

namespace Session

/-- What the calls of the device respect, a session respects. -/
theorem run_monotone (x : Session W n) {R : DeviceState W n → DeviceState W n → Prop}
    (hR : (engineDevice x.platform x.ids x.pResponse).Respects R) (waits : ℕ) :
    R (.quiet x.config []) (x.run waits).2 := by
  rw [run_eq]
  exact offerAndSend_monotone hR _ _ _ _ _ _ _ _

/-! ## Sessions on one engine -/

/-- The same tool, files and settings against an engine in another state. -/
def against (x : Session W n) (P : Platform W n) (c : Config W n) : Session W n :=
  { x with
    platform := P
    config := c }

/-- What an engine meets between two resets. -/
inductive Visitor (W : Type) (n : ℕ) where
  | session (x : Session W n) (waits : ℕ)
  | event (e : Event n)

/-- A session, or another event, on the engine: how the session ends, and the engine
afterwards, unless it hangs. -/
def visit (P : Platform W n) (c : Config W n) : Visitor W n →
    Option Outcome × Option (Config W n)
  | .session x waits => (some ((x.against P c).run waits).1, ((x.against P c).run waits).2.config)
  | .event e => (none, (step P c e).2)

/-- The id of the offer is not the one of special commands. -/
def IsOrdinary (x : Session W n) : Prop :=
  x.componentId ≠ cfuSpecialOfferCmd

/-! ## A pending swap -/

section Pending

/-- The engine has a pending swap, or does not return. -/
def Pending (d : DeviceState W n) : Prop :=
  ∀ c, d.config = some c → c.engine.bankSwapPending = true

/-- The device keeps a pending swap. -/
theorem engineDevice_respects_pending (P : Platform W n) (ids : ReportIds)
    (pResponse : FwUpdateOfferResponse) :
    (engineDevice P ids pResponse).Respects fun d d' => Pending d → Pending d' where
  refl _ := id
  trans h h' := h' ∘ h
  setOutputReport report d hpending := by
    unfold engineDevice
    dsimp only
    split
    · rename_i c e hc _
      intro c' hc'
      exact step_bankSwapPending (hpending c hc) hc'
    · exact hpending
  waitForReadEvent d hpending := by
    unfold engineDevice
    dsimp only
    split
    · exact hpending
    · exact hpending

/-- A session keeps a pending swap. -/
theorem bankSwapPending_of_session {x : Session W n} {waits : ℕ} {c : Config W n}
    (hpending : x.config.engine.bankSwapPending = true)
    (hconfig : (x.run waits).2.config = some c) : c.engine.bankSwapPending = true := by
  have hgrows := x.run_monotone
    (engineDevice_respects_pending x.platform x.ids x.pResponse) waits
  apply hgrows _ c hconfig
  intro c' hc'
  cases hc'
  exact hpending

/-- A visit keeps a pending swap. -/
theorem bankSwapPending_of_visit {P : Platform W n} {c c' : Config W n} {v : Visitor W n}
    (hpending : c.engine.bankSwapPending = true) (hafter : (visit P c v).2 = some c') :
    c'.engine.bankSwapPending = true := by
  cases v with
  | session x waits => exact bankSwapPending_of_session hpending hafter
  | event e => exact step_bankSwapPending hpending hafter

/-- A session that reports success leaves a pending swap, unless its payload is empty. -/
theorem bankSwapPending_of_returned {x : Session W n} (hne : x.records ≠ []) {waits : ℕ}
    (hreturned : (x.run waits).1 = .returned true) :
    ∃ c, (x.run waits).2.config = some c ∧ c.engine.bankSwapPending = true := by
  obtain ⟨c, calls, response, c', blockCalls, -, -, hstate, -, hpending⟩ :=
    calls_of_returned hreturned
  refine ⟨c', ?_, ?_⟩
  · rw [hstate]
    rfl
  · rw [hpending, any_completes hne, Bool.or_true]

/-- While a swap is pending, a session for an ordinary component ends with its offer. -/
theorem run_of_pending {x : Session W n} (hpending : x.config.engine.bankSwapPending = true)
    (hordinary : x.IsOrdinary) (waits : ℕ) :
    x.run waits = (.returned false, .quiet x.config []) := by
  have hid : x.offer.componentInfo.componentId ≠ cfuSpecialOfferCmd := hordinary
  have hget : x.offer.isGetStatus = false := by
    unfold FwUpdateOfferCommand.isGetStatus
    simp [hid]
  have hreach : x.config.engine.reachesList x.offer = false := by
    unfold EngineState.reachesList
    simp [hid, hpending]
  have hexec := offerExec_step x.platform x.config x.offer x.pResponse
  generalize hstep : step x.platform x.config (.offer x.offer x.pResponse) = result at hexec
  rcases result with ⟨output, after⟩
  have hturned : ∀ {calls response}, offerAccepted response.status = false →
      step x.platform x.config (.offer x.offer x.pResponse) =
        (offerOutput calls response, some x.config) →
      x.run waits = (.returned false, ⟨some x.config, calls, []⟩) := by
    intro calls response hrefused hanswer
    rw [run_of_answered hanswer, hrefused]
    rfl
  cases hexec with
  | busy => exact hturned rfl hstep
  | ready _ hasked =>
      rw [hget] at hasked
      cases hasked
  | swapPending => exact hturned rfl hstep
  | endlessWalk hlist =>
      rw [hreach] at hlist
      cases hlist
  | notRegistered hlist =>
      rw [hreach] at hlist
      cases hlist
  | declined hlist =>
      rw [hreach] at hlist
      cases hlist
  | accepted hlist =>
      rw [hreach] at hlist
      cases hlist

/-- A visit is a session with a payload that reports success. -/
def IsSuccess (t : Transition (Config W n) (Visitor W n) (Option Outcome)) : Prop :=
  ∃ x waits, t.event = .session x waits ∧ x.records ≠ [] ∧ t.output = some (.returned true)

/-- Behind a session that reported success a swap is pending, whatever else happened. -/
theorem pending_behind_success {P : Platform W n} {c : Config W n} {vs : List (Visitor W n)}
    {pre post : List (Transition (Config W n) (Visitor W n) (Option Outcome))}
    {t : Transition (Config W n) (Visitor W n) (Option Outcome)}
    (hsplit : trace (visit P) c vs = pre ++ t :: post) (hsuccess : IsSuccess t) :
    ∀ u ∈ post, u.before.engine.bankSwapPending = true := by
  have hmem : t ∈ trace (visit P) c vs := by
    rw [hsplit]
    simp
  have ht := eq_transition_of_mem_trace hmem
  obtain ⟨-, vs₂, -, -, -, hpost⟩ := trace_split hsplit
  intro u hu
  cases hafter : t.after with
  | none =>
      rw [hpost, hafter] at hu
      cases hu
  | some c₁ =>
      have hpending : c₁.engine.bankSwapPending = true := by
        obtain ⟨x, waits, hvisitor, hne, houtput⟩ := hsuccess
        rw [ht, transition_output, hvisitor] at houtput
        rw [ht, transition_after, hvisitor] at hafter
        obtain ⟨c₂, hconfig, hpending⟩ := bankSwapPending_of_returned (x := x.against P t.before)
          hne (Option.some.inj houtput)
        rw [visit, hconfig, Option.some.injEq] at hafter
        rw [← hafter]
        exact hpending
      rw [hpost, hafter] at hu
      exact (forall_trace_of_invariant (fun c => c.engine.bankSwapPending = true) hpending
        (fun _ _ _ _ hpre hstep => bankSwapPending_of_visit hpre hstep) u hu).1

end Pending

/-- Behind a session that reported success for a payload of at least one record, every session
for an ordinary component reports failure, makes no call on the platform and leaves the
engine as it was, whatever happens in between. -/
theorem no_success_behind_success (P : Platform W n) (c : Config W n)
    (vs : List (Visitor W n))
    {pre mid post : List (Transition (Config W n) (Visitor W n) (Option Outcome))}
    {t u : Transition (Config W n) (Visitor W n) (Option Outcome)}
    (hsplit : trace (visit P) c vs = pre ++ t :: (mid ++ u :: post))
    (hsuccess : IsSuccess t) {x : Session W n} {waits : ℕ}
    (hsession : u.event = .session x waits) (hordinary : x.IsOrdinary) :
    u.output = some (.returned false) ∧ u.after = some u.before ∧
      ((x.against P u.before).run waits).2.calls = [] := by
  have hmem : u ∈ mid ++ u :: post := by
    simp
  have hpending := pending_behind_success hsplit hsuccess u hmem
  have hu : u ∈ trace (visit P) c vs := by
    rw [hsplit]
    simp
  have htransition := eq_transition_of_mem_trace hu
  have hrun : (x.against P u.before).run waits = (.returned false, .quiet u.before []) :=
    run_of_pending (x := x.against P u.before) hpending hordinary waits
  rw [hsession] at htransition
  refine ⟨?_, ?_, ?_⟩
  · rw [htransition, transition_output, visit, hrun]
  · rw [htransition, transition_after, visit, hrun]
    rfl
  · rw [hrun]
    rfl

/-! ## Retries -/

section Retry

/-- The engine is ready for an update, with the same components. -/
structure Ready (s s' : EngineState n) : Prop where
  idle : s'.currentOffer.updateInProgress = false
  swap : s'.bankSwapPending = false
  sameList : s.SameList s'

/-- A block that is not the last one completes nothing. -/
theorem completes_of_flags {totalContentPacketCount contentPacketsSent : UInt32}
    {block : Block} (hflags : block.flags = blockFlags totalContentPacketCount contentPacketsSent)
    (hlast : contentPacketsSent + 1 ≠ totalContentPacketCount) : block.completes = false := by
  by_cases hfirst : contentPacketsSent = 0
  · have hseveral : totalContentPacketCount ≠ 1 := by
      rintro rfl
      rw [hfirst] at hlast
      exact hlast (UInt32.zero_add 1)
    rw [hfirst, blockFlags_first hseveral] at hflags
    apply Block.completes_of_isFirst
    rw [Block.isFirst, hflags]
    decide
  · rw [blockFlags_middle hfirst hlast] at hflags
    rw [Block.completes, hflags]
    simp

/-- A content command that the engine does not answer with success leaves it idle. -/
theorem ready_of_failed_content {P : Platform W n} {c c' : Config W n}
    {pCommand : FwUpdateContentCommand} {calls : List (Call n)} {status : UInt8}
    (hexec : ContentExec P c.engine pCommand (contentOutput pCommand calls status)
      (some c'.engine)) (hfailed : status ≠ firmwareUpdateStatusSuccess)
    (hswap : c.engine.bankSwapPending = false) : Ready c.engine c'.engine := by
  rw [hexec.of_error hfailed]
  exact ⟨rfl, hswap, rfl, rfl⟩

variable {P : Platform W n} {ids : ReportIds} {pResponse : FwUpdateOfferResponse}
  {report : HidReportIdInfo} {total waits blocks : ℕ}

/-- The end of the file means success. -/
theorem engineLoop_end {t : Transfer} (hgood : t.stream.good = true)
    (hrest : t.stream.rest = []) (hsent : t.contentPacketsSent = UInt32.ofNat total)
    (blocks : ℕ) (d : DeviceState W n) :
    (engineLoop P ids pResponse report (UInt32.ofNat total) waits (blocks + 1) t d).1 =
      .returned true := by
  rw [engineLoop, sendBlocks_end _ hgood hrest, hsent]
  simp [transferCompleted]

/-- A sending loop that reports failure leaves the engine ready: with at most
{lit}`2 ^ 32` blocks, none before the failing one completes an image. -/
theorem ready_of_failed_loop (hid : report.id = ids.content) (hsize : report.size = 60)
    (htotal : total ≤ 2 ^ 32) {records : List Record} {t : Transfer}
    (hgood : t.stream.good = true) (hrest : t.stream.rest = payload records) {sent : ℕ}
    (hsent : t.contentPacketsSent = UInt32.ofNat sent) (hcount : sent + records.length = total)
    (hblocks : records.length < blocks) {c : Config W n} {calls : List (Call n)}
    (hswap : c.engine.bankSwapPending = false)
    (hfailed : (engineLoop P ids pResponse report (UInt32.ofNat total) waits blocks t
      (.quiet c calls)).1 = .returned false) :
    ∃ c', (engineLoop P ids pResponse report (UInt32.ofNat total) waits blocks t
        (.quiet c calls)).2.config = some c' ∧ Ready c.engine c'.engine := by
  induction records generalizing blocks t c calls sent with
  | nil =>
      obtain ⟨blocks, rfl⟩ := Nat.exists_eq_add_one_of_ne_zero (Nat.ne_zero_of_lt hblocks)
      rw [List.length_nil, Nat.add_zero] at hcount
      rw [engineLoop_end hgood hrest (hcount ▸ hsent)] at hfailed
      simp at hfailed
  | cons record records ih =>
      obtain ⟨blocks, rfl⟩ := Nat.exists_eq_add_one_of_ne_zero (Nat.ne_zero_of_lt hblocks)
      rw [List.length_cons] at hcount
      rcases content_step_cases P c (recordCommand t report (UInt32.ofNat total) record) with
        ⟨blockCalls, status, c', hstep, hexec⟩ | ⟨-, -, -, hstep⟩
      · by_cases hstatus : status = firmwareUpdateStatusSuccess
        · subst hstatus
          obtain ⟨-, c₁, t', hkeeps, hgood', hrest', hnext, -, hround⟩ :=
            @round_of_success _ _ P ids pResponse _ _ hid hsize _ hgood _ _ hrest _ _
              (congrArg Prod.fst hstep) waits blocks calls
          have hnext' : t'.contentPacketsSent = UInt32.ofNat (sent + 1) := by
            rw [hnext, hsent, UInt32.ofNat_add]
            rfl
          rw [hround] at hfailed ⊢
          by_cases hlast : records = []
          · subst hlast
            obtain ⟨blocks, rfl⟩ :=
              Nat.exists_eq_add_one_of_ne_zero (Nat.ne_zero_of_lt (Nat.lt_of_succ_lt_succ hblocks))
            rw [List.length_nil] at hcount
            rw [engineLoop_end hgood' hrest' (hcount ▸ hnext')] at hfailed
            simp at hfailed
          · have hpos : 0 < records.length := List.length_pos_iff.mpr hlast
            have hmiddle : t.contentPacketsSent + 1 ≠ UInt32.ofNat total := by
              rw [← hnext, hnext']
              intro heq
              have hnat := congrArg UInt32.toNat heq
              rw [UInt32.toNat_ofNat', UInt32.toNat_ofNat'] at hnat
              omega
            have hincomplete : (plannedBlock t (UInt32.ofNat total) record).completes = false :=
              completes_of_flags rfl hmiddle
            have hswap₁ : c₁.engine.bankSwapPending = false := by
              rw [hkeeps.bankSwapPending, hswap, hincomplete]
              rfl
            obtain ⟨c₂, hconfig, hready⟩ := ih hgood' hrest' hnext' (by omega)
              (Nat.lt_of_succ_lt_succ hblocks) hswap₁ hfailed
            refine ⟨c₂, hconfig, hready.idle, hready.swap, ?_, ?_⟩
            · rw [hready.sameList.1, hkeeps.sameList.1]
            · rw [hready.sameList.2, hkeeps.sameList.2]
        · obtain ⟨inputReportBuffer, hround⟩ :=
            sendBlocks_answered pResponse hgood hrest hid hsize hstep waits blocks calls
          rw [if_neg hstatus] at hround
          rw [engineLoop, hround]
          exact ⟨c', rfl, ready_of_failed_content hexec hstatus hswap⟩
      · rw [engineLoop, sendBlocks_hung pResponse hgood hrest hid hsize hstep] at hfailed
        simp at hfailed

/-- A session that reports failure behind an offer that was answered leaves the engine
ready. -/
theorem ready_of_answered {x : Session W n} {calls : List (Call n)}
    {response : FwUpdateOfferResponse} {c₁ : Config W n}
    (hstep : step x.platform x.config (.offer x.offer x.pResponse) =
      (offerOutput calls response, some c₁))
    (hidle : offerAccepted response.status = false →
      c₁.engine.currentOffer.updateInProgress = false)
    (hswap : c₁.engine.bankSwapPending = false) (hfew : x.records.length ≤ 2 ^ 32)
    {waits : ℕ} (hfailed : (x.run waits).1 = .returned false) :
    ∃ c, (x.run waits).2.config = some c ∧ Ready x.config.engine c.engine := by
  have hafter : (step x.platform x.config (.offer x.offer x.pResponse)).2 = some c₁ := by
    rw [hstep]
  have hlist : x.config.engine.SameList c₁.engine := step_sameList rfl hafter
  cases haccepted : offerAccepted response.status with
  | false =>
      rw [run_of_answered hstep, haccepted]
      exact ⟨c₁, rfl, hidle haccepted, hswap, hlist⟩
  | true =>
      obtain ⟨t, hstart, hrun⟩ := run_of_accepted hstep haccepted waits
      have hid : x.reports.fwUpdateContent.id = x.ids.content := rfl
      rw [hrun] at hfailed ⊢
      obtain ⟨c, hconfig, hready⟩ := ready_of_failed_loop hid x.content_size hfew hstart.good
        hstart.rest hstart.contentPacketsSent (Nat.zero_add x.records.length)
        (length_lt_roundsFor x.records) hswap hfailed
      refine ⟨c, hconfig, hready.idle, hready.swap, ?_, ?_⟩
      · rw [hready.sameList.1, hlist.1]
      · rw [hready.sameList.2, hlist.2]

/-- A session that reports failure leaves an engine that was ready for it ready again,
unless the engine hangs. -/
theorem ready_of_failed {x : Session W n} {waits : ℕ}
    (hidle : x.config.engine.currentOffer.updateInProgress = false)
    (hswap : x.config.engine.bankSwapPending = false) (hfew : x.records.length ≤ 2 ^ 32)
    (hfailed : (x.run waits).1 = .returned false) {c : Config W n}
    (hconfig : (x.run waits).2.config = some c) : Ready x.config.engine c.engine := by
  have hready : ∃ c, (x.run waits).2.config = some c ∧ Ready x.config.engine c.engine := by
    have hexec := offerExec_step x.platform x.config x.offer x.pResponse
    generalize hstep : step x.platform x.config (.offer x.offer x.pResponse) = result at hexec
    rcases result with ⟨output, after⟩
    cases hexec with
    | busy hbusy =>
        rw [hidle] at hbusy
        cases hbusy
    | ready => exact ready_of_answered hstep (fun _ => hidle) hswap hfew hfailed
    | swapPending _ _ hpending =>
        rw [hswap] at hpending
        cases hpending
    | endlessWalk =>
        rw [run_of_hung hstep] at hconfig
        cases hconfig
    | notRegistered => exact ready_of_answered hstep (fun _ => hidle) hswap hfew hfailed
    | declined => exact ready_of_answered hstep (fun _ => hidle) hswap hfew hfailed
    | accepted _ _ haccepted =>
        apply ready_of_answered hstep _ hswap hfew hfailed
        intro hrefused
        rw [acceptsReply, beq_iff_eq] at haccepted
        rw [haccepted] at hrefused
        cases hrefused
  obtain ⟨c', hconfig', hready⟩ := hready
  rw [hconfig', Option.some.injEq] at hconfig
  rw [← hconfig]
  exact hready

/-- A visit is a session of up to {lit}`2 ^ 32` records that reports failure. -/
def IsFailure (t : Transition (Config W n) (Visitor W n) (Option Outcome)) : Prop :=
  ∃ x waits, t.event = .session x waits ∧ x.records.length ≤ 2 ^ 32 ∧
    t.output = some (.returned false)

/-- Any number of sessions that report failure leave the engine ready. -/
theorem ready_of_failures {P : Platform W n} {c c' : Config W n} {vs : List (Visitor W n)}
    (hidle : c.engine.currentOffer.updateInProgress = false)
    (hswap : c.engine.bankSwapPending = false)
    (hfailures : ∀ t ∈ trace (visit P) c vs, IsFailure t)
    (hreach : finalState (visit P) c vs = some c') : Ready c.engine c'.engine := by
  induction vs generalizing c with
  | nil =>
      cases hreach
      exact ⟨hidle, hswap, rfl, rfl⟩
  | cons v vs ih =>
      rw [finalState] at hreach
      rw [trace] at hfailures
      obtain ⟨x, waits, hevent, hfew, houtput⟩ := hfailures _ List.mem_cons_self
      cases hevent
      cases hafter : (visit P c (.session x waits)).2 with
      | none => simp [hafter] at hreach
      | some c₁ =>
          rw [hafter] at hreach hfailures
          have hready : Ready c.engine c₁.engine := ready_of_failed (x := x.against P c) hidle
            hswap hfew (Option.some.inj houtput) hafter
          have hrest := ih hready.idle hready.swap
            (fun t ht => hfailures t (List.mem_cons_of_mem _ ht)) hreach
          refine ⟨hrest.idle, hrest.swap, ?_, ?_⟩
          · rw [hrest.sameList.1, hready.sameList.1]
          · rw [hrest.sameList.2, hready.sameList.2]

end Retry

/-- After any number of sessions that reported failure, a session of two to {lit}`2 ^ 32`
records for a registered component still transfers its image when its handler accepts and no
call fails. -/
theorem retry_transfers (P : Platform W n) (c c' : Config W n) (vs : List (Visitor W n))
    (hidle : c.engine.currentOffer.updateInProgress = false)
    (hswap : c.engine.bankSwapPending = false)
    (hfailures : ∀ t ∈ trace (visit P) c vs, IsFailure t)
    (hreach : finalState (visit P) c vs = some c') (y : Session W n) (waits : ℕ) (r : Fin n)
    (hlookup : c.engine.lookup P y.componentId = some (some r)) (hordinary : y.IsOrdinary)
    (hhandler : acceptsReply y.offer (handleOffer P c' y.offer y.pResponse r).1 = true)
    (hall : AllSucceed (((y.against P c').run waits).2.calls.filter
      (Call.isFor r y.componentId)))
    (hseveral : 2 ≤ y.records.length) (hfew : y.records.length ≤ 2 ^ 32) :
    (y.against P c').Transferred r ((y.against P c').run waits) := by
  have hready := ready_of_failures hidle hswap hfailures hreach
  have hid : (y.against P c').offer.componentInfo.componentId ≠ cfuSpecialOfferCmd := hordinary
  apply transferred_of_condition (x := y.against P c') hready.idle hready.swap hhandler hall _ _
    hseveral hfew
  · show c'.engine.lookup P y.componentId = some (some r)
    rw [hready.sameList.lookup_eq]
    exact hlookup
  · intro hget
    rw [FwUpdateOfferCommand.isGetStatus, Bool.and_eq_true, beq_iff_eq] at hget
    exact absurd hget.1 hid

/-! ## Three visits -/

/-- An offer for a component that nobody registered. -/
def unregistered : Session Unit 1 :=
  { twoRecords with offerFile := [0x00, 0x00, 0x02] ++ List.replicate 13 0 }

/-- A success, a completion callback, and the same session once more. -/
def twice : List (Visitor Unit 1) :=
  [.session twoRecords 0, .event .readComplete, .session twoRecords 0]

theorem no_success_behind_success_twice :
    ∃ pre t mid u, trace (visit twoRecords.platform) twoRecords.config twice =
        pre ++ t :: (mid ++ u :: []) ∧ u.output = some (.returned false) ∧
      u.after = some u.before ∧
      ((twoRecords.against twoRecords.platform u.before).run 0).2.calls = [] := by
  refine ⟨[], _, [_], _, rfl, ?_⟩
  exact no_success_behind_success twoRecords.platform twoRecords.config twice
    (show _ = [] ++ _ :: ([_] ++ _ :: []) from rfl)
    ⟨twoRecords, 0, rfl, List.cons_ne_nil _ _, by decide +kernel⟩
    (show _ = Visitor.session twoRecords 0 from rfl)
    (show twoRecords.componentId ≠ cfuSpecialOfferCmd by decide)

theorem retry_transfers_unregistered :
    ∃ c, finalState (visit twoRecords.platform) twoRecords.config
        [.session unregistered 0, .session unregistered 5] = some c ∧
      (twoRecords.against twoRecords.platform c).Transferred 0
        ((twoRecords.against twoRecords.platform c).run 0) := by
  refine ⟨_, rfl, ?_⟩
  apply retry_transfers twoRecords.platform twoRecords.config _
    [.session unregistered 0, .session unregistered 5] rfl rfl _ rfl twoRecords 0 0
  · decide
  · show twoRecords.componentId ≠ cfuSpecialOfferCmd
    decide
  · decide
  · decide +kernel
  · decide
  · decide
  · intro t ht
    rcases List.mem_cons.1 ht with rfl | ht
    · exact ⟨unregistered, 0, rfl, by decide, rfl⟩
    · rcases List.mem_cons.1 ht with rfl | ht
      · exact ⟨unregistered, 5, rfl, by decide, rfl⟩
      · cases ht

end Session

end Transfer
end CFU
